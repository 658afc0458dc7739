import Reink.D4.Effects

/-!
# The transfers of a run

The labels of the steps tell what the transport did: a packet is labelled written exactly when the
transport took its bytes, and a read is labelled with what it gave. An invariant that speaks of the
transport and of the labels together is kept by every run if it is kept by such steps (`Accounts`).
-/

namespace Reink

/-- What a step has transferred. -/
def Event.transfer : Event → Option TransportEvent
  | .wrote packet => some (.tx packet.encode)
  | .read bytes => some (.rx bytes)
  | _ => none

/-- Labels of the steps that use the transport. -/
def Event.IsTransfer : Event → Prop
  | .wrote _ | .writeFailed _ | .read _ | .readFailed => True
  | _ => False

namespace D4Link

variable {T : Type}

/-- The transfers of a run, oldest first. -/
def transfers (w : LinkRun T) : List TransportEvent :=
  w.history.filterMap fun step ↦ step.event.transfer

theorem transfers_push (w : LinkRun T) (event : Event) (after : D4Link T) :
    transfers (w.push event after) = transfers w ++ event.transfer.toList := by
  rw [transfers, Recorded.push_history, List.filterMap_append]
  rcases h : event.transfer with _ | transfer <;> simp [transfers, h]

/-- The transfers are read off the labels. -/
theorem transfers_eq (w : LinkRun T) :
    transfers w = (w.history.map Step.event).filterMap Event.transfer := by
  rw [transfers, List.filterMap_map]
  rfl

/-- An invariant that every step keeps whose label tells what the transport did. -/
structure Accounts [ByteTransport T] (I : LinkRun T → Prop) : Prop where
  quiet : ∀ (w : LinkRun T) (event : Event) (after : D4Link T), I w → ¬ event.IsTransfer →
    after.target = w.state.target → I (w.push event after)
  wrote : ∀ (w : LinkRun T) (packet : Packet) (after : D4Link T), I w →
    ByteTransport.writeAll packet.encode w.state.target = (.ok (), after.target) →
      I (w.push (.wrote packet) after)
  writeFailed : ∀ (w : LinkRun T) (packet : Packet) (error : TransportError) (after : D4Link T),
    I w → ByteTransport.writeAll packet.encode w.state.target = (.error error, after.target) →
      I (w.push (.writeFailed packet) after)
  read : ∀ (w : LinkRun T) (bytes : List UInt8) (after : D4Link T), I w →
    ByteTransport.read 4096 w.state.target = (.ok bytes, after.target) →
      I (w.push (.read bytes) after)
  readFailed : ∀ (w : LinkRun T) (error : TransportError) (after : D4Link T), I w →
    ByteTransport.read 4096 w.state.target = (.error error, after.target) →
      I (w.push .readFailed after)

/-- The invariant that asks for nothing. -/
theorem accounts_true [ByteTransport T] : Accounts fun _ : LinkRun T ↦ True :=
  ⟨fun _ _ _ _ _ _ ↦ trivial, fun _ _ _ _ _ ↦ trivial, fun _ _ _ _ _ _ ↦ trivial,
    fun _ _ _ _ _ ↦ trivial, fun _ _ _ _ _ ↦ trivial⟩

theorem writeEvent_of_ne_err {packet : Packet} {o : Outcome D4Error Unit}
    (h : ∀ error, o ≠ .err error) : writeEvent packet o = .wrote packet := by
  cases o with
  | err error => exact absurd rfl (h error)
  | _ => rfl

/-- Taking a credit off a channel gives no error. -/
theorem spendCredit_ne_err (channel : ChannelId) (consumeCredit : Bool) (link : D4Link T)
    (error : D4Error) :
    ((Program.when consumeCredit
      (updateChannel channel "channel existence was checked before writing" fun state ↦ do
        let credit ← Program.orPanic (state.credit.checkedSub 1) "attempt to subtract with overflow"
        pure { state with credit := credit }) : LinkBlock T Unit) link).1 ≠ .err error := by
  intro h
  cases consumeCredit with
  | false => cases h
  | true =>
    rw [Program.when, if_pos rfl] at h
    rcases hlookup : link.channels channel with _ | state
    · rw [updateChannel_none hlookup] at h
      cases h
    · rw [updateChannel_some hlookup] at h
      rcases hspent : state.credit.checkedSub 1 with _ | credit
      all_goals
        rw [hspent] at h
        cases h

namespace Accounts

variable [ByteTransport T] {I : LinkRun T → Prop} (hI : Accounts I) {w : LinkRun T}

include hI

theorem mark {event : Event} (h : ¬ event.IsTransfer) : ∀ w, I w → I (w.push event w.state) :=
  fun w hw ↦ hI.quiet w event w.state hw h rfl

theorem block {α : Type} {event : Outcome D4Error α → Event} {body : LinkBlock T α}
    (hevent : ∀ outcome, ¬ (event outcome).IsTransfer)
    (hbody : ∀ link, (body link).2.target = link.target) :
    ∀ w, I w → I (w.push (event (body w.state).1) (body w.state).2) :=
  fun w hw ↦ hI.quiet w _ _ hw (hevent _) (hbody w.state)

theorem written (packet : Packet) : ∀ w, I w →
    I (w.push (writeEvent packet (writeAll packet w.state).1) (writeAll packet w.state).2) := by
  intro w hw
  rcases hrun : ByteTransport.writeAll packet.encode w.state.target with ⟨error | _, t⟩
  · rw [writeAll, hrun]
    exact hI.writeFailed w packet error _ hw hrun
  · rw [writeAll, hrun]
    exact hI.wrote w packet _ hw hrun

/-- Taking the credit for a packet does not fail, so the label is that of the write. -/
theorem spent (packet : Packet) (channel : ChannelId) (consumeCredit : Bool) : ∀ w, I w →
    I (w.push (writeEvent packet (writeAndSpend packet channel consumeCredit w.state).1)
      (writeAndSpend packet channel consumeCredit w.state).2) := by
  intro w hw
  have htarget := writeAndSpend_target packet channel consumeCredit w.state
  rcases hrun : ByteTransport.writeAll packet.encode w.state.target with ⟨error | _, t⟩
  · have hwrite : writeAll packet w.state =
        (.err (.transport error), { w.state with target := t }) := by
      rw [writeAll, hrun]
    rw [writeAndSpend, Program.bind_run_err hwrite]
    exact hI.writeFailed w packet error _ hw hrun
  · have hwrite : writeAll packet w.state = (.ok (), { w.state with target := t }) := by
      rw [writeAll, hrun]
    have hspent := spendCredit_ne_err channel consumeCredit { w.state with target := t }
    have hlabel : writeEvent packet (writeAndSpend packet channel consumeCredit w.state).1 =
        .wrote packet := by
      rw [writeAndSpend, Program.bind_run_ok hwrite]
      exact writeEvent_of_ne_err hspent
    rw [hlabel]
    refine hI.wrote w packet _ hw ?_
    rw [htarget, hrun]

theorem readFrom : ∀ w, I w →
    I (w.push (readEvent (readTarget 4096 w.state).1) (readTarget 4096 w.state).2) := by
  intro w hw
  rcases hrun : ByteTransport.read 4096 w.state.target with ⟨error | bytes, t⟩
  · rw [readTarget, hrun]
    exact hI.readFailed w error _ hw hrun
  · rw [readTarget, hrun]
    exact hI.read w bytes _ hw hrun

end Accounts

end D4Link

end Reink
