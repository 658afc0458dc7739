import Reink.D4.Operation
import Reink.Platform.Stream

/-!
# Credit conservation

What a channel's stored credit should be is a matter of the record alone: the credit the peer has
granted since the channel was last opened, less the data packets written on it since. `Ledger`
counts both. The credit in the header of a data packet counts once, when the packet is first taken
from the received queue; so the record is also read for which of the queued packets have been put
back (`Marks`).

The source adds the header credit of a packet every time the packet is taken. `credit_conserved_iff`
says that this is the only way in which the account and the ledger part: they agree all along a run
if and only if no step applies a credit other than zero that has been applied before.
-/

namespace Reink

/-- Which packets have been put back. -/
structure Marks where
  /-- Of each packet in the received queue, whether it has been put back. -/
  queued : List Bool := []
  /-- Whether the packet taken last had been put back before. -/
  taken : Bool := false
deriving DecidableEq, Repr

/-- The marks after one more event. -/
def Marks.step (marks : Marks) : Event → Marks
  | .decoded packets => { marks with queued := marks.queued ++ packets.map fun _ ↦ false }
  | .took _ => { queued := marks.queued.tail, taken := marks.queued.headD false }
  | .putBack _ => { marks with queued := marks.queued ++ [true] }
  | _ => marks

/-- The account of a channel as the record has it. -/
structure Ledger where
  marks : Marks := {}
  /-- The credit accepted from the peer since the channel was last opened. -/
  accepted : Nat := 0
  /-- The data packets written on the channel since. -/
  written : Nat := 0
deriving DecidableEq, Repr

namespace Ledger

/-- The credit accepted, after one more event. -/
def accept (channel : ChannelId) (ledger : Ledger) : Event → Nat
  | .opened channel' _ _ _ grantedCredit =>
    if channel' = channel then grantedCredit.toNat else ledger.accepted
  | .granted channel' addedCredit _ =>
    if channel' = channel then ledger.accepted + addedCredit.toNat else ledger.accepted
  | .credited packet =>
    if packet.channel = channel ∧ ledger.marks.taken = false then
      ledger.accepted + packet.header.credit.toNat
    else ledger.accepted
  | _ => ledger.accepted

/-- The packets written, after one more event. -/
def write (channel : ChannelId) (ledger : Ledger) : Event → Nat
  | .opened channel' .. => if channel' = channel then 0 else ledger.written
  | .wrote packet => if packet.channel = channel then ledger.written + 1 else ledger.written
  | _ => ledger.written

/-- The ledger of the channel after one more event. -/
def step (channel : ChannelId) (ledger : Ledger) (event : Event) : Ledger where
  marks := ledger.marks.step event
  accepted := ledger.accept channel event
  written := ledger.write channel event

/-- The ledger of the channel over a list of events. -/
def ofEvents (channel : ChannelId) (events : List Event) : Ledger :=
  events.foldl (step channel) {}

theorem ofEvents_append_singleton (channel : ChannelId) (events : List Event) (event : Event) :
    ofEvents channel (events ++ [event]) = (ofEvents channel events).step channel event := by
  rw [ofEvents, List.foldl_append]
  rfl

section Touches

variable {channel : ChannelId} {event : Event} (ledger : Ledger)

/-- An event that does not concern the channel counts nothing. -/
theorem accept_of_not_touches (h : ¬ event.touches channel) :
    ledger.accept channel event = ledger.accepted := by
  cases event with
  | credited packet => exact if_neg fun h' ↦ h h'.1
  | opened channel' _ _ _ _ => exact if_neg h
  | granted channel' _ _ => exact if_neg h
  | _ => rfl

theorem write_of_not_touches (h : ¬ event.touches channel) :
    ledger.write channel event = ledger.written := by
  cases event with
  | opened channel' _ _ _ _ => exact if_neg h
  | wrote packet => exact if_neg h
  | _ => rfl

end Touches

end Ledger

namespace D4Link

variable {T : Type} {w w' : LinkRun T} {channel : ChannelId}

/-- The ledger of the channel over the steps of a run. -/
def ledger (channel : ChannelId) (w : LinkRun T) : Ledger :=
  Ledger.ofEvents channel (w.history.map Step.event)

theorem ledger_push (event : Event) (after : D4Link T) :
    ledger channel (w.push event after) = (ledger channel w).step channel event := by
  rw [ledger, Recorded.push_history, List.map_append, List.map_singleton,
    Ledger.ofEvents_append_singleton, ledger]

/-- **Credit conservation** for a channel: if it is open, what it holds and what was written since
it was opened make up what was accepted since. -/
def Balanced (channel : ChannelId) (w : LinkRun T) : Prop :=
  ∀ state, w.state.channels channel = some state → state.isOpen = true →
    state.credit.toNat + (ledger channel w).written = (ledger channel w).accepted

/-- The host has not written more data packets on an open channel than the peer has granted. -/
theorem Balanced.written_le {state : ChannelState} (h : Balanced channel w)
    (hlookup : w.state.channels channel = some state) (hopen : state.isOpen = true) :
    (ledger channel w).written ≤ (ledger channel w).accepted :=
  (h state hlookup hopen) ▸ Nat.le_add_left _ _

/-- A credit other than zero is added to the open channel for a packet that has been put back. -/
def CreditsAgain (channel : ChannelId) (w : LinkRun T) (event : Event) : Prop :=
  (∃ packet, event = .credited packet ∧ packet.channel = channel ∧
    packet.header.credit.toNat ≠ 0) ∧
    (ledger channel w).marks.taken = true ∧
    ∃ state, w.state.channels channel = some state ∧ state.isOpen = true

/-- A step that neither opens the channel nor counts on it keeps its balance. -/
theorem balanced_push_of_kept {event : Event} {after : D4Link T}
    (huntouched : ¬ event.touches channel)
    (hsame : after.channels channel = w.state.channels channel) (hw : Balanced channel w) :
    Balanced channel (w.push event after) := by
  intro state hlookup hopen
  rw [ledger_push]
  show state.credit.toNat + (ledger channel w).write channel event =
    (ledger channel w).accept channel event
  rw [Ledger.accept_of_not_touches _ huntouched, Ledger.write_of_not_touches _ huntouched]
  exact hw state (hsame.symm.trans hlookup) hopen

/-- A channel that is not open after the step has no balance to keep. -/
theorem balanced_push_of_shut {event : Event} {after : D4Link T}
    (hshut : ∀ state, after.channels channel = some state → state.isOpen = false) :
    Balanced channel (w.push event after) := by
  intro state hlookup hopen
  rw [hshut state hlookup] at hopen
  cases hopen

/-- Only adding a header credit can violate the balance. -/
theorem balanced_push_iff_of_ne {event : Event} {after : D4Link T}
    (hevent : ∀ packet, event ≠ .credited packet) (hafter : Balanced channel (w.push event after)) :
    Balanced channel (w.push event after) ↔ ¬ CreditsAgain channel w event := by
  refine iff_of_true hafter ?_
  rintro ⟨⟨packet, hpacket, -⟩, -⟩
  exact hevent packet hpacket

/-- The balance of an entry whose credit alone the step has changed. -/
theorem balanced_push_iff_of_counted {event : Event} {after : D4Link T} {state : ChannelState}
    {credit : UInt16} (now : after.channels channel = some { state with credit := credit }) :
    Balanced channel (w.push event after) ↔ (state.isOpen = true →
      credit.toNat + (ledger channel w).write channel event =
        (ledger channel w).accept channel event) := by
  unfold Balanced
  rw [ledger_push, Recorded.push_state, now]
  simp only [Option.some.injEq, forall_eq']
  exact Iff.rfl

/-- The credit of a header is in the ledger once, and on the account each time. -/
theorem balanced_push_iff_of_header {packet : Packet} {after : D4Link T} {state : ChannelState}
    {credit : UInt16} (hroute : packet.channel = channel)
    (hsum : credit.toNat = state.credit.toNat + packet.header.credit.toNat)
    (lookup : w.state.channels channel = some state)
    (now : after.channels channel = some { state with credit := credit })
    (hw : Balanced channel w) :
    Balanced channel (w.push (.credited packet) after) ↔
      ¬ CreditsAgain channel w (.credited packet) := by
  have hbefore := hw state lookup
  rw [balanced_push_iff_of_counted now]
  change (state.isOpen = true → _ + (ledger channel w).written =
    if packet.channel = channel ∧ (ledger channel w).marks.taken = false then _ else _) ↔ _
  cases htaken : (ledger channel w).marks.taken with
  | false =>
    -- taken for the first time: both sides grow
    rw [if_pos ⟨hroute, rfl⟩]
    refine iff_of_true (fun hopen ↦ ?_) ?_
    · rw [← hbefore hopen]
      omega
    · rintro ⟨-, htaken', -⟩
      rw [htaken] at htaken'
      cases htaken'
  | true =>
    -- taken again: only the account grows, so the balance is kept just by a credit of zero
    rw [if_neg (by simp)]
    constructor
    · rintro hafter ⟨⟨packet', hpacket, -, hcredit⟩, -, state', hlookup, hopen⟩
      cases hpacket
      rw [lookup] at hlookup
      cases hlookup
      have h₁ := hafter hopen
      have h₂ := hbefore hopen
      omega
    · intro hquiet hopen
      have hzero : packet.header.credit.toNat = 0 := by
        by_contra hcredit
        exact hquiet ⟨⟨packet, rfl, hroute, hcredit⟩, htaken, state, lookup, hopen⟩
      rw [← hbefore hopen]
      omega

/-- **One step.** A service channel stays balanced exactly when no credit is added again. -/
theorem RunStep.balanced_iff {event : Event} {after : D4Link T} (h : RunStep w event after)
    (hservice : channel ≠ .transaction) (hw : Balanced channel w) :
    Balanced channel (w.push event after) ↔ ¬ CreditsAgain channel w event := by
  rcases h with htransition | hloses
  · cases htransition.entry channel with
    | kept untouched same =>
      refine iff_of_true (balanced_push_of_kept (untouched hservice) same hw) ?_
      rintro ⟨⟨packet, rfl, hroute, -⟩, -⟩
      exact untouched hservice hroute
    | @counted state credit rule lookup now =>
      have hbefore := hw state lookup
      cases rule with
      | initialization _ htransaction => exact absurd htransaction hservice
      | termination _ htransaction => exact absurd htransaction hservice
      | send hroute hdifference =>
        refine balanced_push_iff_of_ne (by simp)
          ((balanced_push_iff_of_counted now).2 fun hopen ↦ ?_)
        show _ + (if _ = channel then _ else _) = (ledger channel w).accepted
        rw [if_pos hroute, ← hbefore hopen]
        omega
      | grant _ hsum =>
        refine balanced_push_iff_of_ne (by simp)
          ((balanced_push_iff_of_counted now).2 fun hopen ↦ ?_)
        show _ + (ledger channel w).written = if channel = channel then _ else _
        rw [if_pos rfl, ← hbefore hopen]
        omega
      | header hroute hsum => exact balanced_push_iff_of_header hroute hsum lookup now hw
    | registered name label now =>
      subst label
      refine balanced_push_iff_of_ne (by simp) (balanced_push_of_shut fun state hstate ↦ ?_)
      rw [now] at hstate
      cases hstate
      rfl
    | opened label _ lookup now =>
      subst label
      refine balanced_push_iff_of_ne (by simp) ?_
      -- the ledger starts anew, with the credit granted at the opening
      intro state hstate hopen
      rw [ledger_push, Recorded.push_state, now] at *
      cases hstate
      show _ + (if channel = channel then 0 else _) = if channel = channel then _ else _
      rw [if_pos rfl, if_pos rfl]
      rfl
    | closed label _ lookup now =>
      subst label
      refine balanced_push_iff_of_ne (by simp) (balanced_push_of_shut fun state hstate ↦ ?_)
      rw [now] at hstate
      cases hstate
      rfl
    | removed label _ now =>
      have hevent : ∀ packet, event ≠ .credited packet := by
        rcases label with rfl | rfl <;> simp
      refine balanced_push_iff_of_ne hevent (balanced_push_of_shut fun state hstate ↦ ?_)
      rw [now] at hstate
      cases hstate
  · obtain ⟨hsame, huntouched | habsent⟩ := hloses.entry channel
    · exact balanced_push_iff_of_ne (fun packet ↦ (hloses.not_packet packet).2)
        (balanced_push_of_kept huntouched hsame hw)
    · refine balanced_push_iff_of_ne (fun packet ↦ (hloses.not_packet packet).2)
        (balanced_push_of_shut fun state hstate ↦ ?_)
      rw [habsent] at hstate
      cases hstate

/-- A service channel is balanced all along a run exactly when no step of it credits again. -/
theorem balanced_passed_iff [ByteTransport T] (calls : List Call) (target : T)
    (hservice : channel ≠ .transaction) :
    (∀ v, (runNew calls target).2.Passed v → Balanced channel v) ↔
      ∀ v event after, (runNew calls target).2.Stepped v event after →
        ¬ CreditsAgain channel v event := by
  refine (runNew_path calls target).invariant_iff ?_ ?_
  · exact fun v event after hstep hv ↦ hstep.balanced_iff hservice hv
  · intro state hlookup
    have habsent : (D4Link.new target).channels channel = none := if_neg hservice
    rw [Recorded.start_state, habsent] at hlookup
    cases hlookup

/-- **When credit is conserved.** All along a run the stored credit of every open service channel is
what the peer has granted, less what was written, if and only if no step adds to such a channel a
credit other than zero from a packet that has been put back before. -/
theorem credit_conserved_iff [ByteTransport T] (calls : List Call) (target : T) :
    (∀ channel, channel ≠ .transaction →
      ∀ v, (runNew calls target).2.Passed v → Balanced channel v) ↔
      ∀ channel, channel ≠ .transaction →
        ∀ v event after, (runNew calls target).2.Stepped v event after →
          ¬ CreditsAgain channel v event :=
  forall₂_congr fun _ hservice ↦ balanced_passed_iff calls target hservice

/-- **No packet without a grant.** Where no step of the run credits the open service channel again,
the host has at no point written more data packets on it than the peer has granted since it was
opened. -/
theorem written_le_accepted [ByteTransport T] {calls : List Call} {target : T}
    (hservice : channel ≠ .transaction)
    (hquiet : ∀ v event after, (runNew calls target).2.Stepped v event after →
      ¬ CreditsAgain channel v event)
    {v : LinkRun T} (hpassed : (runNew calls target).2.Passed v) {state : ChannelState}
    (hlookup : v.state.channels channel = some state) (hopen : state.isOpen = true) :
    (ledger channel v).written ≤ (ledger channel v).accepted :=
  ((balanced_passed_iff calls target hservice).2 hquiet v hpassed).written_le hlookup hopen

/-- The peer opens a service and answers a lookup late: first comes a data packet that carries one
credit. It is put back, and taken again by the request. -/
def sendsDataBeforeReply : StreamTransport :=
  .sending [StreamTransport.packet 0 0 1 [0x80, 0, 0x20],
    StreamTransport.packet 0 0 1 [0x89, 0, 2, 69, 80, 83, 79, 78, 45, 67, 84, 82, 76],
    StreamTransport.packet 0 0 1 [0x81, 0, 2, 2, 1, 0, 1, 0, 0, 0, 0, 0],
    StreamTransport.packet 2 2 1 [0x52] ++
      StreamTransport.packet 0 0 1 [0x8a, 0, 2, 69, 80, 83, 79, 78, 45, 67, 84, 82, 76]]

theorem header_credit_counted_twice :
    ¬ Balanced ⟨2, 2⟩ (runNew [⟨.initializeLink, 9⟩, ⟨.openService "EPSON-CTRL", 9⟩,
      ⟨.serviceName 2, 9⟩, ⟨.controlChannel ⟨2, 2⟩, 9⟩, ⟨.request ⟨2, 2⟩ [0x71], 9⟩]
      sendsDataBeforeReply).2 := by
  intro h
  have hrun : (runNew [⟨.initializeLink, 9⟩, ⟨.openService "EPSON-CTRL", 9⟩,
      ⟨.serviceName 2, 9⟩, ⟨.controlChannel ⟨2, 2⟩, 9⟩, ⟨.request ⟨2, 2⟩ [0x71], 9⟩]
      sendsDataBeforeReply).2.state.channels ⟨2, 2⟩ =
      some ⟨"EPSON-CTRL", 1, 0x100, 0x100, 0, true⟩ := by
    decide +kernel
  have hledger : ledger ⟨2, 2⟩ (runNew [⟨.initializeLink, 9⟩, ⟨.openService "EPSON-CTRL", 9⟩,
      ⟨.serviceName 2, 9⟩, ⟨.controlChannel ⟨2, 2⟩, 9⟩, ⟨.request ⟨2, 2⟩ [0x71], 9⟩]
      sendsDataBeforeReply).2 = ⟨⟨[], true⟩, 1, 1⟩ := by
    decide +kernel
  have hbalance := h _ hrun rfl
  rw [hledger] at hbalance
  revert hbalance
  decide

end D4Link

end Reink
