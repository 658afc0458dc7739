import Reink.D4.Operation
import Reink.Platform.Stream

/-!
# The conversation state and the transaction channel over a run

Two invariants of the link that hold but for one step each.

A conversation that has ended stays ended, with nothing but the transaction channel in the table,
unless the host acts on a reply it has been waiting for meanwhile: `initialize` sets the
conversation active, `open_service` enters its channel (`ActsAfterEnd`). The transaction channel
keeps its entry and its limits, and its credit follows the rules, unless the peer names socket 0 for
a service, as then `open_service` puts the service in its place.

Both results are equivalences over every run: the exceptional step is always a violation.
-/

namespace Reink

namespace D4Link

variable {T : Type} {w w' : LinkRun T}

/-! ### The end of the conversation -/

/-- The table holds the transaction channel only. -/
def OnlyTransaction (link : D4Link T) : Prop :=
  ∀ channel, channel ≠ .transaction → link.channels channel = none

/-- After the conversation has ended the host begins it, or enters a service channel. -/
def ActsAfterEnd (step : Step (D4Link T) Event) : Prop :=
  step.before.conversation = .terminated ∧
    ((∃ revision, step.event = .activated revision .host) ∨
      ∃ channel, channel ≠ .transaction ∧ step.event = .registered channel)

/-- The end of the conversation is final: every later state is terminated too, and in every
terminated state the table holds the transaction channel only. -/
def EndIsFinal (w : LinkRun T) : Prop :=
  w.states.Pairwise (fun link later ↦
      link.conversation = .terminated → later.conversation = .terminated) ∧
    ∀ link ∈ w.states, link.conversation = .terminated → link.OnlyTransaction

/-- Only the host, in an operation that was pending, brings an ended conversation back. -/
theorem Transition.terminated_iff {event : Event} {after : D4Link T}
    (h : Transition w event after) (hw : w.state.conversation = .terminated) :
    after.conversation = .terminated ↔ ¬ ∃ revision, event = .activated revision .host := by
  cases h.conversation with
  | kept same =>
    rw [same]
    refine ⟨?_, fun _ ↦ hw⟩
    rintro - ⟨revision, rfl⟩
    cases h with
    | marked h | transported h => exact h.elim
    | activated _ _ => rw [hw] at same; cases same
  | @begun revision side label inactive now =>
    cases side with
    | host =>
      refine ⟨fun hafter ↦ ?_, fun hhost ↦ absurd ⟨revision, label⟩ hhost⟩
      rw [now] at hafter
      cases hafter
    | peer => rw [inactive rfl] at hw; cases hw
  | exiting label maySend now => rcases maySend with h | h <;> rw [hw] at h <;> cases h
  | ended label now =>
    refine ⟨?_, fun _ ↦ now⟩
    rintro - ⟨revision, hevent⟩
    rw [label] at hevent
    cases hevent

/-- A step that ends in a terminated state leaves only the transaction channel, unless it enters a
channel in one. -/
theorem Transition.onlyTransaction_iff {event : Event} {after : D4Link T}
    (h : Transition w event after)
    (hw : w.state.conversation = .terminated → w.state.OnlyTransaction)
    (hafter : after.conversation = .terminated) :
    after.OnlyTransaction ↔ ¬ (w.state.conversation = .terminated ∧
      ∃ channel, channel ≠ .transaction ∧ event = .registered channel) := by
  constructor
  · rintro honly ⟨-, channel, hservice, rfl⟩
    cases h with
    | marked h | transported h => exact h.elim
    | registered name =>
      have habsent := honly channel hservice
      rw [setChannel_channels_self] at habsent
      cases habsent
  · intro hquiet channel hservice
    by_cases hterminated : event = .terminated
    · subst hterminated
      cases h with
      | marked h | transported h => exact h.elim
      | terminated _ => exact ended_channels_of_ne _ _ hservice
    have hbefore := h.terminated_of_ne hterminated hafter
    have habsent : w.state.channels channel = none := hw hbefore channel hservice
    cases h.entry channel with
    | kept _ same => exact same.trans habsent
    | counted _ lookup _ => rw [lookup] at habsent; cases habsent
    | registered _ label _ => exact absurd ⟨hbefore, channel, hservice, label⟩ hquiet
    | opened _ _ lookup _ => rw [lookup] at habsent; cases habsent
    | closed _ _ lookup _ => rw [lookup] at habsent; cases habsent
    | removed _ _ now => exact now

theorem EndIsFinal.push_iff (hw : EndIsFinal w) (event : Event) (after : D4Link T) :
    EndIsFinal (w.push event after) ↔
      (w.state.conversation = .terminated → after.conversation = .terminated) ∧
        (after.conversation = .terminated → after.OnlyTransaction) := by
  unfold EndIsFinal
  rw [Recorded.pairwise_push_iff, Recorded.push_states]
  simp only [List.forall_mem_append, List.forall_mem_singleton]
  exact ⟨fun h ↦ ⟨h.1.2, h.2.2⟩, fun h ↦ ⟨⟨hw.1, h.1⟩, hw.2, h.2⟩⟩

/-- The end stays final across one more step exactly when the host does not act on it. -/
theorem RunStep.endIsFinal_iff {event : Event} {after : D4Link T} (h : RunStep w event after)
    (hw : EndIsFinal w) :
    EndIsFinal (w.push event after) ↔ ¬ ActsAfterEnd ⟨w.state, event, after⟩ := by
  have honly := hw.2 w.state w.state_mem_states
  rw [hw.push_iff]
  unfold ActsAfterEnd
  rcases h with htransition | ⟨rfl, -, channel, hinstalls, -⟩
  · constructor
    · rintro ⟨hstays, htable⟩ ⟨hbefore, hhost | hregistered⟩
      · exact (htransition.terminated_iff hbefore).1 (hstays hbefore) hhost
      · exact (htransition.onlyTransaction_iff honly (hstays hbefore)).1
          (htable (hstays hbefore)) ⟨hbefore, hregistered⟩
    · intro hquiet
      constructor
      · intro hbefore
        exact (htransition.terminated_iff hbefore).2 fun hhost ↦ hquiet ⟨hbefore, .inl hhost⟩
      · intro hafter
        refine (htransition.onlyTransaction_iff honly hafter).2 ?_
        rintro ⟨hbefore, hregistered⟩
        exact hquiet ⟨hbefore, .inr hregistered⟩
  · -- A lost reply changes nothing.
    refine ⟨?_, fun _ ↦ ⟨id, honly⟩⟩
    rintro - ⟨-, ⟨revision, rfl⟩ | ⟨channel', -, rfl⟩⟩
    · cases hinstalls
    · cases hinstalls

/-- The end of the conversation is final on a path exactly when no step acts on it. -/
theorem endIsFinal_iff_of_path (h : Trail RunStep w w')
    (hw : EndIsFinal w ↔ ∀ step ∈ w.history, ¬ ActsAfterEnd step) :
    EndIsFinal w' ↔ ∀ step ∈ w'.history, ¬ ActsAfterEnd step := by
  refine h.invariant (I := fun v ↦ EndIsFinal v ↔ ∀ step ∈ v.history, ¬ ActsAfterEnd step) ?_ hw
  intro v event after hstep hv
  rw [Recorded.push_history]
  simp only [List.forall_mem_append, List.forall_mem_singleton]
  rw [← hv]
  constructor
  · intro hfinal
    have hbefore : EndIsFinal v := by
      refine ⟨((Recorded.pairwise_push_iff _ _ _).1 hfinal.1).1, fun link hlink ↦ hfinal.2 link ?_⟩
      rw [Recorded.push_states]
      exact List.mem_append_left _ hlink
    exact ⟨hbefore, (hstep.endIsFinal_iff hbefore).1 hfinal⟩
  · rintro ⟨hbefore, hquiet⟩
    exact (hstep.endIsFinal_iff hbefore).2 hquiet

/-- Nothing has ended in a new link. -/
theorem endIsFinal_start (target : T) :
    EndIsFinal (.start (D4Link.new target)) ↔
      ∀ step ∈ (Recorded.start (D4Link.new target) : LinkRun T).history, ¬ ActsAfterEnd step := by
  refine ⟨fun _ step hstep ↦ absurd hstep (List.not_mem_nil), fun _ ↦ ⟨by simp, ?_⟩⟩
  intro link hlink hterminated
  rw [Recorded.start_states, List.mem_singleton] at hlink
  rw [hlink] at hterminated
  cases hterminated

/-- **When the end of the conversation is final.** In every run every state after a terminated one
is terminated, and holds the transaction channel only, if and only if the host never begins the
conversation or enters a service channel once it has ended. -/
theorem end_is_final_iff [ByteTransport T] (calls : List Call) (target : T) :
    ((runNew calls target).2.states.Pairwise (fun link later ↦
        link.conversation = .terminated → later.conversation = .terminated) ∧
      ∀ link ∈ (runNew calls target).2.states, link.conversation = .terminated →
        ∀ channel, channel ≠ .transaction → link.channels channel = none) ↔
      ∀ step ∈ (runNew calls target).2.history, step.before.conversation = .terminated →
        (∀ revision, step.event ≠ .activated revision .host) ∧
          ∀ channel, channel ≠ .transaction → step.event ≠ .registered channel := by
  refine (endIsFinal_iff_of_path (runNew_path calls target) (endIsFinal_start target)).trans ?_
  refine forall₂_congr fun step _ ↦ ?_
  unfold ActsAfterEnd
  simp only [not_and, not_or, not_exists]

/-- The peer exits while `Init` is pending, and answers it nevertheless. -/
def exitsBeforeInitReply : StreamTransport :=
  .sending [StreamTransport.packet 0 0 1 [0x08], StreamTransport.packet 0 0 1 [0x80, 0, 0x20]]

theorem initialize_revives_ended_conversation :
    ¬ (runNew [⟨.initializeLink, 9⟩] exitsBeforeInitReply).2.states.Pairwise (fun link later ↦
      link.conversation = .terminated → later.conversation = .terminated) := by
  decide +kernel

/-! ### The transaction channel -/

/-- The entry of the transaction channel with the given credit; nothing else of it ever varies. -/
def transactionEntry (credit : UInt16) : ChannelState :=
  ⟨"(transaction channel)", credit, 64, 64, 1, true⟩

/-- The transaction channel is there, open, with its name and its limits. -/
def TransactionIntact (link : D4Link T) : Prop :=
  ∃ credit, link.channels .transaction = some (transactionEntry credit)

/-- A step keeps the transaction channel, or changes its credit by one of the rules. -/
def TransactionKept (step : Step (D4Link T) Event) : Prop :=
  ∃ credit credit', step.before.channels .transaction = some (transactionEntry credit) ∧
    step.after.channels .transaction = some (transactionEntry credit') ∧
    (credit' = credit ∨ CreditRule .transaction step.event credit credit')

/-- A step keeps an intact transaction channel exactly when it does not enter a service in its
place. -/
theorem RunStep.transactionKept_iff {event : Event} {after : D4Link T} (h : RunStep w event after)
    (hw : w.state.TransactionIntact) :
    TransactionKept ⟨w.state, event, after⟩ ↔ event ≠ .registered .transaction := by
  obtain ⟨credit, hcredit⟩ := hw
  rcases h with htransition | ⟨rfl, -, channel, hinstalls, -⟩
  · cases htransition.entry .transaction with
    | kept _ same =>
      refine ⟨?_, fun _ ↦ ⟨credit, credit, hcredit, same.trans hcredit, .inl rfl⟩⟩
      rintro - rfl
      cases htransition with
      | marked h | transported h => exact h.elim
      | registered name =>
        rw [setChannel_channels_self, hcredit] at same
        cases same
    | counted rule lookup now =>
      rw [hcredit] at lookup
      cases lookup
      refine ⟨?_, fun _ ↦ ⟨credit, _, hcredit, now, .inr rule⟩⟩
      rintro - rfl
      cases rule
    | registered name label now =>
      refine ⟨?_, fun hevent ↦ absurd label hevent⟩
      rintro ⟨_, credit', -, hafter, -⟩
      rw [now] at hafter
      cases hafter
    | opened _ service _ _ => exact absurd rfl service
    | closed _ service _ _ => exact absurd rfl service
    | removed _ service _ => exact absurd rfl service
  · refine ⟨?_, fun _ ↦ ⟨credit, credit, hcredit, hcredit, .inl rfl⟩⟩
    rintro - rfl
    cases hinstalls

/-- The transaction channel is left alone: it is there in every state, open and with its limits, and
every step changes at most its credit and by one of the rules. -/
def TransactionLeftAlone (w : LinkRun T) : Prop :=
  (∀ link ∈ w.states, link.TransactionIntact) ∧ ∀ step ∈ w.history, TransactionKept step

/-- The transaction channel is left alone on a path exactly when no step enters a service in its
place. -/
theorem transactionLeftAlone_iff_of_path (h : Trail RunStep w w')
    (hw : TransactionLeftAlone w ↔ ∀ step ∈ w.history, step.event ≠ .registered .transaction) :
    TransactionLeftAlone w' ↔ ∀ step ∈ w'.history, step.event ≠ .registered .transaction := by
  refine h.invariant (I := fun v ↦ TransactionLeftAlone v ↔
    ∀ step ∈ v.history, step.event ≠ .registered .transaction) ?_ hw
  intro v event after hstep hv
  rw [TransactionLeftAlone, Recorded.push_states, Recorded.push_history]
  simp only [List.forall_mem_append, List.forall_mem_singleton]
  rw [← hv]
  constructor
  · rintro ⟨⟨hstates, -⟩, hkept, hnew⟩
    have hbefore := hstates v.state v.state_mem_states
    exact ⟨⟨hstates, hkept⟩, (hstep.transactionKept_iff hbefore).1 hnew⟩
  · rintro ⟨⟨hstates, hkept⟩, hevent⟩
    have hbefore := hstates v.state v.state_mem_states
    have hnew := (hstep.transactionKept_iff hbefore).2 hevent
    refine ⟨⟨hstates, ?_⟩, hkept, hnew⟩
    obtain ⟨_, credit, -, hafter, -⟩ := hnew
    exact ⟨credit, hafter⟩

/-- A new link has its transaction channel. -/
theorem transactionLeftAlone_start (target : T) :
    TransactionLeftAlone (.start (D4Link.new target)) ↔
      ∀ step ∈ (Recorded.start (D4Link.new target) : LinkRun T).history,
        step.event ≠ .registered .transaction := by
  refine ⟨fun _ step hstep ↦ absurd hstep (List.not_mem_nil), fun _ ↦ ⟨?_, by simp⟩⟩
  intro link hlink
  rw [Recorded.start_states, List.mem_singleton] at hlink
  rw [hlink]
  exact ⟨0, rfl⟩

/-- **When the transaction channel is left alone.** In every run it is there in every state, open
and with its limits, and every step changes at most its credit and by one of the rules, if and only
if no service is ever entered under the peer's socket 0. -/
theorem transaction_channel_intact_iff [ByteTransport T] (calls : List Call) (target : T) :
    ((∀ link ∈ (runNew calls target).2.states, link.TransactionIntact) ∧
      ∀ step ∈ (runNew calls target).2.history, TransactionKept step) ↔
      ∀ step ∈ (runNew calls target).2.history, step.event ≠ .registered .transaction :=
  transactionLeftAlone_iff_of_path (runNew_path calls target) (transactionLeftAlone_start target)

/-- The peer names socket 0 for the service. -/
def namesSocketZero : StreamTransport :=
  .sending [StreamTransport.packet 0 0 1 [0x80, 0, 0x20],
    StreamTransport.packet 0 0 1 [0x89, 0, 0, 69, 80, 83, 79, 78, 45, 67, 84, 82, 76]]

theorem open_service_replaces_transaction_channel :
    ¬ ∀ link ∈ (runNew [⟨.initializeLink, 9⟩, ⟨.openService "EPSON-CTRL", 9⟩]
      namesSocketZero).2.states, link.TransactionIntact := by
  intro h
  have hreplaced : ∃ link ∈ (runNew [⟨.initializeLink, 9⟩, ⟨.openService "EPSON-CTRL", 9⟩]
      namesSocketZero).2.states, (link.channels .transaction).map (·.isOpen) = some false := by
    decide +kernel
  obtain ⟨link, hlink, hclosed⟩ := hreplaced
  obtain ⟨credit, hcredit⟩ := h link hlink
  rw [hcredit] at hclosed
  cases hclosed

end D4Link

end Reink
