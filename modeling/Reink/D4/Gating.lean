import Reink.D4.Conversation

/-!
# What the link writes, and when

Three restrictions on the packets the link writes, over every run.

* Data goes out on open service channels only. This holds of every run.
* While the conversation is inactive the host originates nothing but `Init`. In that state the
  conversation check is skipped, and all that stops an operation is that the transaction channel has
  no credit; a rejected `Init` can leave it some (`SpeaksEarly`).
* Nothing goes out after the conversation has ended. This can fail in two ways: the host brings the
  conversation back (see `Reink.D4.Conversation`), or it reports an overflow of the transaction
  channel's credit, which is written without any check (`OverflowsAfterEnd`).
-/

namespace Reink

namespace D4Link

open Program (Follows bind_run_err)

variable {T : Type} {w w' : LinkRun T} {channel : ChannelId}

/-! ### Before the conversation -/

/-- The packet carries `Init`, a reply or an error report. -/
def Greets (packet : Packet) : Prop :=
  packet.channel = .transaction ∧
    ∃ code, packet.payload.head? = some code ∧ (code = 0x00 ∨ 0x80 ≤ code ∨ code = 0x7f)

/-- In an inactive conversation the step writes nothing else. -/
def Greeting (w : LinkRun T) (event : Event) (_ : D4Link T) : Prop :=
  ∀ packet, event = .wrote packet → w.state.conversation = .inactive → Greets packet

/-- A transition that writes nothing out of place before the conversation. -/
def Polite (w : LinkRun T) (event : Event) (after : D4Link T) : Prop :=
  Transition w event after ∧ Greeting w event after

theorem Polite.of_serves {event : Event} {after : D4Link T} (h : Serves w event after) :
    Polite w event after := by
  obtain ⟨htransition, -, hresponds⟩ := h
  refine ⟨htransition, fun packet hevent _ ↦ ?_⟩
  obtain ⟨hroute, code, hhead, hcode⟩ := hresponds packet hevent
  exact ⟨hroute, code, hhead, .inr hcode⟩

theorem Polite.of_init {event : Event} {after : D4Link T}
    (h : Writes (Carries 0x00) w event after) : Polite w event after := by
  obtain ⟨htransition, packet, ⟨hroute, hhead⟩, rfl | rfl⟩ := h
  · refine ⟨htransition, fun written hevent _ ↦ ?_⟩
    cases hevent
    exact ⟨hroute, _, hhead, .inl rfl⟩
  · exact ⟨htransition, fun written hevent ↦ by cases hevent⟩

theorem Polite.quiet {event : Event} {after : D4Link T} (h : Transition w event after)
    (hquiet : ∀ packet, event ≠ .wrote packet) : Polite w event after :=
  ⟨h, fun packet hevent ↦ absurd hevent (hquiet packet)⟩

/-- A conversation does not become inactive. -/
theorem Transition.not_inactive {event : Event} {after : D4Link T} (h : Transition w event after)
    (hw : w.state.conversation ≠ .inactive) : after.conversation ≠ .inactive := by
  cases h.conversation with
  | kept same => rwa [same]
  | begun _ _ now => rw [now]; simp
  | exiting _ _ now => rw [now]; simp
  | ended _ now => rw [now]; simp

/-- The operation would write before the conversation: it is one of the three that send without a
check of the conversation, its message can be sent, and the transaction channel has credit. -/
def SpeaksEarly (link : D4Link T) (operation : Operation) : Prop :=
  link.conversation = .inactive ∧
    (∃ state, link.channels .transaction = some state ∧ state.credit ≠ 0) ∧
    match operation with
    | .openService name => ∃ payload, (TransactionMessage.getSocketId name).encode link.revision =
        .ok payload
    | .serviceName _ => True
    | .closeChannel channel =>
      channel ≠ .transaction ∧ (link.channels channel).any (·.isOpen) = true
    | _ => False

section Operations

variable [ByteTransport T]

theorem negotiate_polite (bound : Nat) (revisions : List ProtocolRevision) :
    Follows Polite Faulty (negotiate bound revisions) w := by
  induction revisions generalizing w with
  | nil => exact Follows.throw _
  | cons revision revisions ih =>
    have hsend : ∀ w : LinkRun T,
        Follows Polite Faulty (transaction bound (.init revision) false) w := by
      intro w
      refine Follows.bind ?_ fun _ v _ ↦ ?_
      · exact (sendTransaction_follows fun _ ↦ .inl rfl).mono (fun _ _ _ h ↦ Polite.of_init h)
          fun _ _ _ h ↦ h
      · refine Follows.bind (Follows.mark (.quiet (.marked trivial) (by simp))) fun _ v _ ↦ ?_
        exact (transactionLoop_follows _ _ _).mono (fun _ _ _ h ↦ Polite.of_serves h)
          fun _ _ _ h ↦ .inl h
    refine (hsend w).bind fun reply v _ ↦ ?_
    split
    · split
      · exact (beginConversation_follows fun state hlookup ↦
          .quiet (.activated (by simp) hlookup) (by simp)).mono (fun _ _ _ h ↦ h)
          fun _ _ _ h ↦ .inl h
      · split
        · exact Follows.throw _
        · exact ih
    · exact Follows.throw _

/-- **Every operation that does not speak early is polite.** -/
theorem perform_polite {bound : Nat} {operation : Operation}
    (hw : ¬ SpeaksEarly w.state operation) : Follows Polite Faulty (perform bound operation) w := by
  by_cases hinactive : w.state.conversation = .inactive
  case neg =>
    refine (perform_follows bound operation).strengthen
      (I := fun v ↦ v.state.conversation ≠ .inactive) ?_ ?_ hinactive
    · exact fun v event after hstep hv ↦ hstep.not_inactive hv
    · exact fun v event after hstep hv ↦ ⟨hstep, fun _ _ h ↦ absurd h hv⟩
  have hactive : w.state.conversation ≠ .active := by rw [hinactive]; simp
  -- An operation that starts with a paid message comes no further.
  have hpaid : ∀ {message : TransactionMessage}
      {f : TransactionMessage → LinkProgram T OperationResult},
      ((∃ payload, message.encode w.state.revision = .ok payload) →
        ¬ ∃ state, w.state.channels .transaction = some state ∧ state.credit ≠ 0) →
      Follows Polite Faulty (transaction bound message true >>= f) w := by
    intro message f h
    have hrefused : ∃ error, transaction bound message true w = (.err error, w) := by
      refine transaction_refused ?_
      by_cases hencode : ∃ payload, message.encode w.state.revision = .ok payload
      · refine .inr fun state hlookup ↦ ?_
        by_contra hne
        exact h hencode ⟨state, hlookup, hne⟩
      · exact .inl fun payload hpayload ↦ hencode ⟨payload, hpayload⟩
    obtain ⟨error, hrun⟩ := hrefused
    exact Follows.of_stay (bind_run_err hrun) (by simp)
  cases operation with
  | initializeLink =>
    refine Follows.bind ?_ fun _ _ _ ↦ Follows.pure _
    refine Follows.observe_bind (Follows.rejectIf_bind fun _ ↦ Follows.rejectIf_bind fun _ ↦ ?_)
    exact negotiate_polite bound _
  | openService name =>
    refine Follows.congr (congrFun (Program.bind_assoc _ _ _) w) (hpaid fun hencode hcredit ↦ ?_)
    exact hw ⟨hinactive, hcredit, hencode⟩
  | serviceName socketId =>
    refine Follows.congr (congrFun (Program.bind_assoc _ _ _) w) (hpaid fun _ hcredit ↦ ?_)
    exact hw ⟨hinactive, hcredit, trivial⟩
  | controlChannel channel =>
    exact Follows.bind (Follows.observe_bind (Follows.rejectIf _)) fun _ _ _ ↦ Follows.pure _
  | closeChannel channel =>
    refine Follows.congr (congrFun (Program.bind_assoc _ _ _) w) ?_
    refine Follows.rejectIf_bind fun hservice ↦ ?_
    refine Follows.congr (congrFun (Program.bind_assoc _ _ _) w) (Follows.observe_bind ?_)
    refine Follows.congr (congrFun (Program.bind_assoc _ _ _) w)
      (Follows.rejectIf_bind fun hopen ↦ ?_)
    refine Follows.congr (congrFun (Program.bind_assoc _ _ _) w) (hpaid fun _ hcredit ↦ ?_)
    exact hw ⟨hinactive, hcredit, hservice, not_not.1 hopen⟩
  | exit =>
    obtain ⟨error, hgate⟩ := requireActiveConversation_of_ne hactive
    exact Follows.of_stay (bind_run_err (bind_run_err hgate)) (by simp)
  | request channel payload =>
    obtain ⟨error, hgate⟩ := requireActiveConversation_of_ne hactive
    exact Follows.of_stay (bind_run_err (bind_run_err hgate)) (by simp)

/-- A step of a run that writes nothing out of place before the conversation. -/
def PoliteStep (w : LinkRun T) (event : Event) (after : D4Link T) : Prop :=
  RunStep w event after ∧ Greeting w event after

theorem runOperation_polite {bound : Nat} {operation : Operation} (hpresent : w.state.Present)
    (hw : ¬ SpeaksEarly w.state operation) :
    Trail PoliteStep w (runOperation bound operation w).2 := by
  have hfollows : Follows Polite Faulty (runOperation bound operation) w :=
    Follows.bind (Follows.mark (.quiet (.marked trivial) (by simp))) fun _ v hmark ↦ by
      cases hmark
      exact perform_polite hw
  -- On the path the transaction channel is present, so the only fault is a lost reply.
  have hpath := hfollows.path_or
  have key : Trail PoliteStep w (runOperation bound operation w).2 ∧
      (runOperation bound operation w).2.state.Present := by
    refine hpath.invariant (I := fun v ↦ Trail PoliteStep w v ∧ v.state.Present) ?_
      ⟨.refl, hpresent⟩
    rintro v event after hstep ⟨hv, hv'⟩
    have hpolite : PoliteStep v event after := by
      rcases hstep with ⟨htransition, hgreeting⟩ | hbroken | hloses
      · exact ⟨.inl htransition, hgreeting⟩
      · obtain ⟨state, hstate⟩ := hv'
        rw [hbroken] at hstate
        cases hstate
      · refine ⟨.inr hloses, ?_⟩
        exact fun packet hevent ↦ absurd hevent (hloses.not_packet packet).1
    exact ⟨hv.snoc hpolite, hpolite.1.present hv'⟩
  exact key.1

theorem runOperation_called (bound : Nat) (operation : Operation) (w : LinkRun T) :
    ⟨w.state, .called operation, w.state⟩ ∈ (runOperation bound operation w).2.history := by
  have hpath := (perform_follows bound operation (w := w.push (.called operation) w.state)).path_or
  obtain ⟨later, hlater⟩ := hpath.exists_history_append
  show _ ∈ (perform bound operation (w.push (.called operation) w.state)).2.history
  rw [hlater, Recorded.push_history]
  simp

/-- A run none of whose calls speaks early is polite. -/
theorem runCalls_polite (calls : List Call) (hpresent : w.state.Present)
    (hw : ∀ step ∈ (runCalls calls w).2.history, ∀ operation,
      step.event = .called operation → ¬ SpeaksEarly step.before operation) :
    Trail PoliteStep w (runCalls calls w).2 := by
  induction calls generalizing w with
  | nil => exact .refl
  | cons call calls ih =>
    have hpath : ¬ SpeaksEarly w.state call.operation →
        Trail PoliteStep w (runOperation call.bound call.operation w).2 :=
      runOperation_polite hpresent
    have hcalled := runOperation_called call.bound call.operation w
    by_cases hreturned : (runOperation call.bound call.operation w).1.Returned
    · rw [runCalls_returned hreturned] at hw ⊢
      have hpath' := runOperation_path call.bound call.operation hpresent
      have hpresent' := hpath'.state_invariant (fun _ _ _ hstep ↦ hstep.present) hpresent
      have hgrows := (runCalls_path calls hpresent').isPrefix
      have hearly := hw _ (hgrows.subset hcalled) _ rfl
      exact (hpath hearly).trans (ih hpresent' hw)
    · rw [runCalls_not_returned hreturned] at hw ⊢
      exact hpath (hw _ hcalled _ rfl)

end Operations

/-! ### Open channels -/

end D4Link

/-- Whether a service channel stands open after one more event. -/
def standsOpenStep (channel : ChannelId) (isOpen : Bool) : Event → Bool
  | .opened channel' .. => if channel' = channel then true else isOpen
  | .registered channel' | .closed channel' _ => if channel' = channel then false else isOpen
  | .terminated => false
  | _ => isOpen

/-- Whether a service channel stands open after the events: it was opened, and it has not been
closed by either side, entered anew, or taken down with the conversation since. -/
def standsOpen (channel : ChannelId) (events : List Event) : Bool :=
  events.foldl (standsOpenStep channel) false

namespace D4Link

/-- An open entry of a service channel has been opened and not been closed since. -/
def OpenedSince (channel : ChannelId) (w : LinkRun T) : Prop :=
  (∃ state, w.state.channels channel = some state ∧ state.isOpen = true) →
    standsOpen channel (w.history.map Step.event) = true

theorem RunStep.openedSince {event : Event} {after : D4Link T} (h : RunStep w event after)
    (hservice : channel ≠ .transaction) (hw : OpenedSince channel w) :
    OpenedSince channel (w.push event after) := by
  rintro ⟨state, hlookup, hopen⟩
  rw [Recorded.push_state] at hlookup
  have hpush : standsOpen channel ((w.push event after).history.map Step.event) =
      standsOpenStep channel (standsOpen channel (w.history.map Step.event)) event := by
    rw [Recorded.push_history, List.map_append, List.map_singleton, standsOpen, List.foldl_append]
    rfl
  have hkept : ¬ event.touches channel →
      standsOpenStep channel (standsOpen channel (w.history.map Step.event)) event =
        standsOpen channel (w.history.map Step.event) := by
    intro huntouched
    cases event with
    | opened _ _ _ _ _ => exact if_neg huntouched
    | registered _ => exact if_neg huntouched
    | closed _ _ => exact if_neg huntouched
    | terminated => exact absurd trivial huntouched
    | _ => rfl
  rw [hpush]
  rcases h with htransition | hloses
  · cases htransition.entry channel with
    | kept untouched same =>
      rw [hkept (untouched hservice)]
      exact hw ⟨state, same.symm.trans hlookup, hopen⟩
    | counted rule lookup now =>
      rw [now] at hlookup
      cases hlookup
      have hbefore := hw ⟨_, lookup, hopen⟩
      cases rule with
      | initialization _ htransaction => exact absurd htransaction hservice
      | termination _ htransaction => exact absurd htransaction hservice
      | _ => exact hbefore
    | registered name label now =>
      rw [now] at hlookup
      cases hlookup
      cases hopen
    | opened label _ _ _ =>
      subst label
      exact if_pos rfl
    | closed label _ _ now =>
      rw [now] at hlookup
      cases hlookup
      cases hopen
    | removed _ _ now =>
      rw [now] at hlookup
      cases hlookup
  · obtain ⟨hsame, huntouched | habsent⟩ := hloses.entry channel
    · rw [hkept huntouched]
      exact hw ⟨state, hsame.symm.trans hlookup, hopen⟩
    · rw [habsent] at hlookup
      cases hlookup

/-! ### After the conversation -/

/-- A packet is taken from the queue after the conversation has ended whose credit does not fit the
transaction channel's account. -/
def OverflowsAfterEnd (w : LinkRun T) (event : Event) : Prop :=
  w.state.conversation = .terminated ∧ ∃ packet state, event = .took packet ∧
    packet.channel = .transaction ∧ w.state.channels .transaction = some state ∧
    packet.header.length ≤ state.maxServiceSize ∧
    state.credit.checkedAdd packet.header.credit.toUInt16 = none

/-- The host begins a conversation that has ended. -/
def Revives (w : LinkRun T) (event : Event) : Prop :=
  w.state.conversation = .terminated ∧ ∃ revision, event = .activated revision .host

/-- After the end only the report of such an overflow is written. -/
theorem Transition.overflow_of_wrote {packet : Packet} {after : D4Link T}
    (h : Transition w (.wrote packet) after) (hw : w.state.conversation = .terminated) :
    ∃ v offending link, w = v.push (.took offending) link ∧
      OverflowsAfterEnd v (.took offending) := by
  have hmay : ¬ w.state.MaySend := by
    rintro (h | h) <;> rw [hw] at h <;> cases h
  cases h with
  | marked h | transported h => exact h.elim
  | sentFree _ maySend => exact absurd maySend hmay
  | sentPaid _ maySend => exact absurd maySend hmay
  | @reported _ offending state target taken _ _ lookup size overflow running =>
    have htransaction : offending.channel = .transaction := by
      by_contra hservice
      exact running hservice hw
    obtain ⟨v, rest, -, rfl⟩ := taken
    rw [htransaction] at lookup
    exact ⟨v, offending, _, rfl, hw, offending, state, rfl, htransaction, lookup, size, overflow⟩

/-- Once the conversation has ended it is over in every later state. -/
def StaysEnded (w : LinkRun T) : Prop :=
  ∀ link ∈ w.states, link.conversation = .terminated → w.state.conversation = .terminated

theorem RunStep.staysEnded {event : Event} {after : D4Link T} (h : RunStep w event after)
    (hrevives : ¬ Revives w event) (hw : StaysEnded w) : StaysEnded (w.push event after) := by
  intro link hlink hover
  rw [Recorded.push_states] at hlink
  rcases List.mem_append.1 hlink with hlink | hlink
  · have hbefore := hw link hlink hover
    rcases h with htransition | ⟨rfl, -, -⟩
    · exact (htransition.terminated_iff hbefore).2 fun hhost ↦ hrevives ⟨hbefore, hhost⟩
    · exact hbefore
  · rw [List.mem_singleton.1 hlink] at hover
    exact hover

/-! ### Every run -/

/-- **What is written when.** In every run every data packet goes out on a service channel that
stands open. If no operation is called that speaks early, then whatever goes out before the
conversation is `Init`, a reply or an error report. If the host begins no conversation that has
ended and takes no transaction packet whose credit overflows the account after the end, then nothing
goes out once the conversation has ended. -/
theorem writes_gated [ByteTransport T] (calls : List Call) (target : T) :
    (∀ v packet after, (runNew calls target).2.Stepped v (.wrote packet) after →
      packet.channel ≠ .transaction →
        standsOpen packet.channel (v.history.map Step.event) = true ∧
          ∃ state, v.state.channels packet.channel = some state ∧ state.isOpen = true) ∧
    ((∀ v operation after, (runNew calls target).2.Stepped v (.called operation) after →
        ¬ SpeaksEarly v.state operation) →
      ∀ v packet after, (runNew calls target).2.Stepped v (.wrote packet) after →
        v.state.conversation = .inactive → Greets packet) ∧
    ((∀ v event after, (runNew calls target).2.Stepped v event after →
        ¬ Revives v event ∧ ¬ OverflowsAfterEnd v event) →
      ∀ v packet after, (runNew calls target).2.Stepped v (.wrote packet) after →
        ∀ link ∈ v.states, link.conversation ≠ .terminated) := by
  have hpath := runNew_path calls target
  refine ⟨?_, ?_, ?_⟩
  · -- the guard of the step sees the open entry, and its history says how it came to be open
    intro v packet after hwrote hservice
    have hopen : ∃ state, v.state.channels packet.channel = some state ∧ state.isOpen = true := by
      rcases hpath.stepped hwrote with htransition | hloses
      · cases htransition with
        | marked h | transported h => exact h.elim
        | sentFree _ _ htransaction => exact absurd htransaction hservice
        | sentPaid _ _ lookup isOpen => exact ⟨_, lookup, isOpen hservice⟩
        | reported _ _ htransaction => exact absurd htransaction hservice
      · exact absurd rfl (hloses.not_packet packet).1
    refine ⟨?_, hopen⟩
    have hsince : OpenedSince packet.channel v := by
      refine hpath.passed (I := OpenedSince packet.channel) (Q := fun _ _ _ ↦ True) ?_ ?_
        (fun _ _ _ _ ↦ trivial) hwrote.passed
      · exact fun v event after hstep _ hv ↦ hstep.openedSince hservice hv
      · rintro ⟨state, hlookup, -⟩
        have habsent : (D4Link.new target).channels packet.channel = none := if_neg hservice
        rw [Recorded.start_state, habsent] at hlookup
        cases hlookup
    exact hsince hopen
  · intro hquiet v packet after hwrote hinactive
    have hpolite : Trail PoliteStep (.start (D4Link.new target)) (runNew calls target).2 := by
      refine runCalls_polite calls (present_new target) fun step hstep operation hevent ↦ ?_
      obtain ⟨u, hu, hstepped⟩ := Recorded.exists_stepped hstep
      rw [hevent] at hstepped
      rw [← hu]
      exact hquiet u operation _ hstepped
    exact (hpolite.stepped hwrote).2 packet rfl hinactive
  · -- the end is final, and behind it there is only the report of an overflow to write
    intro hquiet v packet after hwrote link hlink hover
    have hended : StaysEnded v := by
      refine hpath.passed (Q := fun v event _ ↦ ¬ Revives v event) ?_ ?_
        (fun v event after h ↦ (hquiet v event after h).1) hwrote.passed
      · exact fun v event after hstep hrevives hv ↦ hstep.staysEnded hrevives hv
      · intro link hlink hover
        rw [Recorded.start_states, List.mem_singleton] at hlink
        rw [hlink] at hover
        exact hover
    rcases hpath.stepped hwrote with htransition | hloses
    · obtain ⟨u, offending, after', rfl, hoverflow⟩ :=
        htransition.overflow_of_wrote (hended link hlink hover)
      exact (hquiet u (.took offending) after' hwrote.earlier).2 hoverflow
    · exact absurd rfl (hloses.not_packet packet).1

/-- The peer rejects `Init`, with a credit in the header of its reply. -/
def rejectsInit : StreamTransport := .sending [StreamTransport.packet 0 0 1 [0x80, 1, 0x20]]

theorem service_name_written_before_conversation :
    ¬ ∀ v packet after, (runNew [⟨.initializeLink, 9⟩, ⟨.serviceName 2, 9⟩] rejectsInit).2.Stepped v
      (.wrote packet) after → v.state.conversation = .inactive → Greets packet := by
  intro h
  have hwrote : ∃ step ∈ (runNew [⟨.initializeLink, 9⟩, ⟨.serviceName 2, 9⟩] rejectsInit).2.history,
      step.event = .wrote ⟨⟨0, 0, 8, 1, 0⟩, [0x0a, 2]⟩ ∧ step.before.conversation = .inactive := by
    decide +kernel
  obtain ⟨step, hstep, hevent, hinactive⟩ := hwrote
  obtain ⟨v, hv, hstepped⟩ := Recorded.exists_stepped hstep
  rw [hevent] at hstepped
  rw [← hv] at hinactive
  obtain ⟨-, code, hhead, hcode⟩ := h v _ _ hstepped hinactive
  cases hhead
  revert hcode
  decide

end D4Link

end Reink
