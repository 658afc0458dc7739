import Reink.Core.Controller

/-!
# The requests a controller operation makes

Every operation of the controller goes from channel state to channel state by requests, whatever is
answered and however it ends, and which requests these are is known beforehand: reads and writes of
the addresses it was given. `Requests` is that statement; a `Logged` channel keeps the requests
themselves.
-/

namespace Reink

open Program (Moves bind_eq_ok ofExcept_eq_ok mapErr_eq_ok)

/-- One request on the channel, of the kind `P`. -/
def Requests {C : Type} [ControlChannel C] (P : List UInt8 → Prop) (c c' : C) : Prop :=
  ∃ request, P request ∧ c' = (ControlChannel.request request c).2

/-- A control channel together with the requests that were made on it. -/
structure Logged (C : Type) where
  channel : C
  sent : List (List UInt8)
deriving DecidableEq, Repr

namespace Logged

variable {C : Type} [ControlChannel C]

instance : ControlChannel (Logged C) where
  request request logged :=
    let (outcome, channel) := ControlChannel.request request logged.channel
    (outcome, ⟨channel, logged.sent ++ [request]⟩)

/-- A request is added to the log, however it ends. -/
theorem sent_request (request : List UInt8) (c : Logged C) :
    (ControlChannel.request request c).2.sent = c.sent ++ [request] := rfl

/-- The log only grows. -/
theorem length_sent_le {P : List UInt8 → Prop} {c c' : Logged C}
    (h : Relation.ReflTransGen (Requests P) c c') : c.sent.length ≤ c'.sent.length := by
  induction h with
  | refl => exact le_rfl
  | tail _ hstep ih =>
    obtain ⟨request, -, rfl⟩ := hstep
    rw [sent_request, List.length_append]
    exact ih.trans (Nat.le_add_right _ _)

end Logged

namespace EpsonController

variable {C : Type} [ControlChannel C] [CharTables] {spec : EpsonSpec} {P : List UInt8 → Prop}

omit [CharTables] in
theorem request_moves {request : List UInt8} (h : P request) :
    Moves (Requests P) (ControlChannel.request request : Program C ControlError (List UInt8)) :=
  fun _ ↦ .single ⟨request, h, rfl⟩

theorem readEepromAddress_moves {address : UInt16}
    (h : ∀ request, encodeEepromRead spec address = .ok request → P request) :
    Moves (Requests P) (readEepromAddress spec address : Program C EpsonError EepromReadReply) := by
  refine .ofExcept_bind fun request hrequest ↦ .bind (.mapErr (request_moves (h _ hrequest))) ?_
  exact fun response ↦ .bind (.ofOutcome _) fun reply ↦ .bind (.rejectIf _) fun _ ↦ .pure _

theorem readEeprom_moves {addresses : List UInt16}
    (h : ∀ address ∈ addresses, ∀ request, encodeEepromRead spec address = .ok request →
      P request) :
    Moves (Requests P)
      (readEeprom spec addresses : Program C EpsonError (List EepromReadReply)) := by
  induction addresses with
  | nil => exact .pure _
  | cons address addresses ih =>
    obtain ⟨hfirst, hrest⟩ := List.forall_mem_cons.1 h
    exact .bind (readEepromAddress_moves hfirst) fun _ ↦ .bind (ih hrest) fun _ ↦ .pure _

theorem writeEepromAddress_moves {address : UInt16} {value : UInt8} {verifyReadBack : Bool}
    (hwrite : ∀ request, encodeEepromWrite spec address value = .ok request → P request)
    (hread : ∀ request, encodeEepromRead spec address = .ok request → P request) :
    Moves (Requests P)
      (writeEepromAddress spec address value verifyReadBack : Program C EpsonError Unit) := by
  refine .ofExcept_bind fun request hrequest ↦
    .bind (.mapErr (request_moves (hwrite _ hrequest))) ?_
  refine fun response ↦ .bind (.rejectIf _) fun _ ↦ .when (.bind (readEepromAddress_moves hread) ?_)
  exact fun reply ↦ .rejectIf _

/-- A write that succeeds has made a request. -/
theorem length_sent_of_writeEepromAddress {address : UInt16} {value : UInt8} {verifyReadBack : Bool}
    {c c' : Logged C} (h : writeEepromAddress spec address value verifyReadBack c = (.ok (), c')) :
    c.sent.length < c'.sent.length := by
  unfold writeEepromAddress at h
  obtain ⟨request, c₀, hencode, hrest⟩ := bind_eq_ok.1 h
  obtain ⟨-, rfl⟩ := ofExcept_eq_ok.1 hencode
  obtain ⟨response, c₁, hresponse, hcheck⟩ := bind_eq_ok.1 hrest
  have hsent : c₁.sent = c₀.sent ++ [request] := by
    rw [← Logged.sent_request, mapErr_eq_ok.1 hresponse]
  have hmoves : Relation.ReflTransGen (Requests fun _ ↦ True) c₁ c' := by
    rw [← show _ = c' from congrArg Prod.snd hcheck]
    refine Moves.bind (.rejectIf _) (fun _ ↦ .when (.bind ?_ fun _ ↦ .rejectIf _)) c₁
    exact readEepromAddress_moves fun _ _ ↦ trivial
  have hlength := Logged.length_sent_le hmoves
  rw [hsent, List.length_append, List.length_singleton] at hlength
  exact hlength

end EpsonController

end Reink
