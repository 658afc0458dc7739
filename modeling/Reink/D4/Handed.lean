import Reink.D4.Wire
import Reink.Platform.Journal

/-!
# What the link hands to its transport

Every write of the link is that of one packet. So the journal of the transport shows nothing but
packets, failed writes included, and their payloads are those that the code of the link is known to
send.
-/

namespace Reink

/-- What was handed to the transport is a packet, and its payload of the kind `P`. -/
def TransportCall.Carries (P : List UInt8 → Prop) (call : TransportCall) : Prop :=
  ∀ bytes, call.handed = some bytes → ∃ packet : Packet, packet.encode = bytes ∧ P packet.payload

/-- A kind of payloads may be widened. -/
theorem TransportCall.Carries.mono {P P' : List UInt8 → Prop} {call : TransportCall}
    (h : call.Carries P) (hP : ∀ payload, P payload → P' payload) : call.Carries P' := by
  intro bytes hbytes
  obtain ⟨packet, hencode, hpayload⟩ := h bytes hbytes
  exact ⟨packet, hencode, hP _ hpayload⟩

namespace D4Link

variable {T : Type} {calls : T → List TransportCall} {P : List UInt8 → Prop}

/-- The calls made on the transport meanwhile hand it packets of the kind only. -/
def Hands (calls : T → List TransportCall) (P : List UInt8 → Prop) (w w' : LinkRun T) : Prop :=
  ∃ new, calls w'.state.target = calls w.state.target ++ new ∧ ∀ call ∈ new, call.Carries P

/-- Without calls nothing is handed over. -/
theorem Hands.refl (w : LinkRun T) : Hands calls P w w := ⟨[], by simp⟩

/-- What is handed over one after the other. -/
theorem Hands.trans {u v w : LinkRun T} (h : Hands calls P u v) (h' : Hands calls P v w) :
    Hands calls P u w := by
  obtain ⟨new, hnew, hall⟩ := h
  obtain ⟨new', hnew', hall'⟩ := h'
  refine ⟨new ++ new', by rw [hnew', hnew, List.append_assoc], fun call hcall ↦ ?_⟩
  exact (List.mem_append.1 hcall).elim (hall call) (hall' call)

/-- Along a path it is the calls of all its steps. -/
theorem Hands.of_moves {w w' : LinkRun T} (h : Relation.ReflTransGen (Hands calls P) w w') :
    Hands calls P w w' := by
  induction h with
  | refl => exact .refl w
  | tail _ hstep ih => exact ih.trans hstep

variable [ByteTransport T] (hcalls : KeepsJournal calls)

include hcalls

/-- A write hands over its packet, whether it succeeds or not. -/
theorem crossesWrite_hands {payload : List UInt8} (h : P payload) :
    CrossesWrite (Hands calls P) payload := by
  rintro w packet outcome after rfl htarget
  refine ⟨_, by rw [Recorded.push_state, htarget]; exact hcalls.write _ _, fun call hcall ↦ ?_⟩
  rw [List.mem_singleton.1 hcall]
  intro bytes hbytes
  refine ⟨packet, ?_, h⟩
  rcases hrun : (ByteTransport.writeAll packet.encode w.state.target).1 with _ | _ <;>
    rw [hrun] at hbytes <;> exact Option.some.inj hbytes

/-- The link by itself hands over transaction messages. -/
theorem crosses_hands (hmessages : ∀ payload, TransactionMessage.Encodes payload → P payload) :
    Crosses (Hands calls P) where
  message payload hpayload := crossesWrite_hands hcalls (hmessages payload hpayload)
  read w := by
    have htarget : (readTarget 4096 w.state).2.target =
        (ByteTransport.read 4096 w.state.target).2 := by
      rw [readTarget]
      rcases ByteTransport.read 4096 w.state.target with ⟨_ | _, _⟩ <;> rfl
    refine ⟨_, by rw [Recorded.push_state, htarget]; exact hcalls.read _ _, fun call hcall ↦ ?_⟩
    rw [List.mem_singleton.1 hcall]
    intro bytes hbytes
    rcases hrun : (ByteTransport.read 4096 w.state.target).1 with _ | _ <;>
      rw [hrun] at hbytes <;> cases hbytes
  internal w event after _ htarget :=
    ⟨[], by rw [Recorded.push_state, htarget, List.append_nil], by simp⟩

/-- The request for the exit hands the transport nothing. -/
theorem exit_hands (hmessages : ∀ payload, TransactionMessage.Encodes payload → P payload)
    (bound : Nat) : Program.Moves (Hands calls P) (exit bound : LinkProgram T Unit) :=
  exit_effects (crosses_hands hcalls hmessages) bound fun _ after htarget ↦
    ⟨[], by rw [Recorded.push_state, htarget, List.append_nil], by simp⟩

/-- A request hands over its own payload besides. -/
theorem request_hands (hmessages : ∀ payload, TransactionMessage.Encodes payload → P payload)
    (bound : Nat) (channel : ChannelId) {payload : List UInt8} (h : P payload) :
    Program.Moves (Hands calls P) (request bound channel payload : LinkProgram T (List UInt8)) :=
  request_effects (crosses_hands hcalls hmessages) bound channel (crossesWrite_hands hcalls h)

end D4Link

end Reink
