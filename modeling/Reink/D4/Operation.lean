import Reink.D4.Service

/-!
# The public operations and runs of a link

`Operation` lists the calls a client can make, `runCalls` makes a list of them one after the other.
A call takes the bound of its loops as an argument; a run stops after a call that panicked or is
still running, as no client can go on from there. A request is allowed at any time and on any
channel: the check that `control_channel` makes is an operation of its own, and what is proved of
all runs is proved in particular of those in which a request follows a successful check.

`runCalls_path` is the last result of the layer that speaks about code. Every run goes along a path
of transitions; a call that panics adds one more step, and `Loses` says which.
-/

namespace Reink

/-- What a successful call gives. -/
inductive OperationResult where
  | done
  | service (channel : ChannelId)
  | name (serviceName : String)
  | data (payload : List UInt8)
deriving DecidableEq, Repr

/-- A call with the bound of its loops. -/
structure Call where
  operation : Operation
  bound : Nat
deriving DecidableEq, Repr

namespace D4Link

open Program (Follows mark bind_run_err)

variable {T : Type} {w w' : LinkRun T}

theorem Serves.transition {event : Event} {after : D4Link T} (h : Serves w event after) :
    Transition w event after :=
  h.1

/-! ### An entry while its reply is awaited -/

/-- The entry is there for as long as the conversation has not ended. -/
def Held (channel : ChannelId) (link : D4Link T) : Prop :=
  (link.conversation ≠ .terminated ∧ ∃ state, link.channels channel = some state) ∨
    (link.conversation = .terminated ∧ link.channels channel = none)

/-- The entry, when there, is not open. -/
def Shut (channel : ChannelId) (link : D4Link T) : Prop :=
  ∀ state, link.channels channel = some state → state.isOpen = false

/-- While the peer is served, an entry goes when the conversation ends, and not otherwise. -/
theorem Serves.held {channel : ChannelId} {event : Event} {after : D4Link T}
    (h : Serves w event after) (hservice : channel ≠ .transaction)
    (hw : Held channel w.state) : Held channel after := by
  obtain ⟨htransition, hevent, -⟩ := h
  by_cases hterminated : event = .terminated
  · subst hterminated
    cases htransition with
    | marked h | transported h => exact h.elim
    | terminated _ => exact .inr ⟨rfl, ended_channels_of_ne _ _ hservice⟩
  have hkept : w.state.conversation = .terminated → after.conversation = .terminated := by
    intro hbefore
    cases htransition.conversation with
    | kept same => rw [same, hbefore]
    | begun label inactive _ =>
      subst label
      rw [inactive hevent] at hbefore
      cases hbefore
    | exiting _ maySend _ => rcases maySend with h | h <;> rw [h] at hbefore <;> cases hbefore
    | ended label _ => exact absurd label hterminated
  rcases hw with ⟨hrunning, state, hlookup⟩ | ⟨hover, habsent⟩
  · refine .inl ⟨fun hafter ↦ hrunning (htransition.terminated_of_ne hterminated hafter), ?_⟩
    -- the host enters and opens channels, and closing by the peer keeps the entry
    cases htransition.entry channel with
    | kept _ same => exact ⟨state, same.trans hlookup⟩
    | counted _ _ now => exact ⟨_, now⟩
    | registered _ label _ => subst label; exact hevent.elim
    | opened label _ _ _ => subst label; exact hevent.elim
    | closed _ _ _ now => exact ⟨_, now⟩
    | removed label _ _ =>
      rcases label with rfl | rfl
      · cases hevent
      · exact absurd rfl hterminated
  · refine .inr ⟨hkept hover, ?_⟩
    cases htransition.entry channel with
    | kept _ same => exact same.trans habsent
    | counted _ lookup _ => rw [lookup] at habsent; cases habsent
    | registered _ label _ => subst label; exact hevent.elim
    | opened label _ _ _ => subst label; exact hevent.elim
    | closed _ _ lookup _ => rw [lookup] at habsent; cases habsent
    | removed _ _ now => exact now

/-- Serving the peer opens nothing. -/
theorem Serves.shut {channel : ChannelId} {event : Event} {after : D4Link T}
    (h : Serves w event after) (hw : Shut channel w.state) : Shut channel after := by
  obtain ⟨htransition, hevent, -⟩ := h
  intro state hlookup
  cases htransition.entry channel with
  | kept _ same => exact hw state (same.symm.trans hlookup)
  | counted rule lookup now =>
    rw [now] at hlookup
    cases hlookup
    have hshut := hw _ lookup
    exact hshut
  | registered name label now => subst label; exact hevent.elim
  | opened label _ _ _ => subst label; exact hevent.elim
  | closed label service lookup now =>
    rw [now] at hlookup
    cases hlookup
    rfl
  | removed label service now => rw [now] at hlookup; cases hlookup

/-- Along a service path the entry is held and shut as before. -/
theorem Held.of_path {channel : ChannelId} (h : Trail Serves w w')
    (hservice : channel ≠ .transaction) (hw : Held channel w.state) : Held channel w'.state :=
  h.state_invariant (fun _ _ _ hstep hv ↦ hstep.held hservice hv) hw

theorem Shut.of_path {channel : ChannelId} (h : Trail Serves w w') (hw : Shut channel w.state) :
    Shut channel w'.state :=
  h.state_invariant (fun _ _ _ hstep hv ↦ hstep.shut hv) hw

/-! ### Calls -/

section Calls

variable [ByteTransport T]

/-- The program of an operation. -/
def perform (bound : Nat) : Operation → LinkProgram T OperationResult
  | .initializeLink => do
    initializeLink bound
    pure .done
  | .openService name => do
    let channel ← openService bound name
    pure (.service channel)
  | .serviceName socketId => do
    let name ← serviceName bound socketId
    pure (.name name)
  | .controlChannel channel => do
    controlChannel channel
    pure .done
  | .closeChannel channel => do
    closeChannel bound channel
    pure .done
  | .exit => do
    exit bound
    pure .done
  | .request channel payload => do
    let reply ← request bound channel payload
    pure (.data reply)

/-- A call of an operation. -/
def runOperation (bound : Nat) (operation : Operation) : LinkProgram T OperationResult := do
  mark (.called operation)
  perform bound operation

/-- Make the calls one after the other, as long as each comes back. -/
def runCalls : List Call → LinkRun T → List (Outcome D4Error OperationResult) × LinkRun T
  | [], w => ([], w)
  | call :: calls, w =>
    let (outcome, w') := runOperation call.bound call.operation w
    if outcome.Returned then
      let (outcomes, w'') := runCalls calls w'
      (outcome :: outcomes, w'')
    else ([outcome], w')

/-- The run of the calls on a new link over the transport. -/
def runNew (calls : List Call) (target : T) :
    List (Outcome D4Error OperationResult) × LinkRun T :=
  runCalls calls (.start (D4Link.new target))

/-! ### Transactions -/

theorem transaction_follows {bound : Nat} {message : TransactionMessage} {consumeCredit : Bool}
    (hgreeting : consumeCredit = false → message.code = 0x00 ∨ message.code = 0x80) :
    Follows Transition Broken (transaction bound message consumeCredit) w := by
  refine ((sendTransaction_follows hgreeting).mono (fun _ _ _ h ↦ h.1) fun _ _ _ h ↦ h).bind
    fun _ v _ ↦ ?_
  refine Follows.bind (Follows.mark (.marked trivial)) fun _ v _ ↦ ?_
  exact (transactionLoop_follows _ _ _).mono (fun _ _ _ h ↦ h.transition) fun _ _ _ h ↦ h

/-- A message for which a credit is spent has been written: only the transaction channel's entry
has changed. -/
structure Spent (w v : LinkRun T) : Prop where
  maySend : w.state.MaySend
  conversation : v.state.conversation = w.state.conversation
  channels : ∀ channel, channel ≠ .transaction →
    v.state.channels channel = w.state.channels channel
  credit : ∀ state, w.state.channels .transaction = some state → state.credit ≠ 0

/-- A transaction has been answered: its message was written, and the peer was served since. -/
theorem transaction_ok {bound : Nat} {message reply : TransactionMessage}
    (h : transaction bound message true w = (.ok reply, w')) :
    ∃ v, Spent w v ∧ Trail Serves v w' := by
  obtain ⟨_, v, hsend, h⟩ := Program.bind_eq_ok.1 h
  obtain ⟨hmay, packet, state, credit, target, -, hlookup, hdifference, rfl⟩ :=
    sendTransaction_ok hsend
  obtain ⟨_, v, hmark, h⟩ := Program.bind_eq_ok.1 h
  cases hmark
  have hpath := (transactionLoop_follows _ _ _).path_ok h
  refine ⟨_, ?_, hpath⟩
  refine ⟨hmay, rfl, fun channel hservice ↦ ?_, ?_⟩
  · exact setChannel_channels_of_ne { w.state with target := target } _ hservice
  · rintro state' hlookup' hzero
    rw [hlookup] at hlookup'
    cases hlookup'
    have hpositive := UInt16.toNat_of_checkedSub_one hdifference
    rw [hzero] at hpositive
    exact absurd hpositive (by simp)

/-- Without a message or without credit nothing is written. -/
theorem transaction_refused {bound : Nat} {message : TransactionMessage}
    (h : (∀ payload, message.encode w.state.revision ≠ .ok payload) ∨
      ∀ state, w.state.channels .transaction = some state → state.credit = 0) :
    ∃ error, transaction bound message true w = (.err error, w) := by
  unfold transaction
  rcases sendTransaction_run message true w with ⟨error, hrun⟩ | ⟨payload, hencode, hrun⟩
  · exact ⟨error, bind_run_err hrun⟩
  have hcredit : ∀ state, w.state.channels .transaction = some state → state.credit = 0 := by
    rcases h with h | h
    · exact absurd hencode (h payload)
    · exact h
  have hsending := send_sending .transaction payload true w
  rw [← hrun] at hsending
  generalize hresult : sendTransaction message true w = result at hsending
  cases hsending with
  | refused error => exact ⟨error, bind_run_err hresult⟩
  | failed _ _ _ _ lookup positive => exact absurd (hcredit _ lookup) (positive rfl)
  | free _ hfree => cases hfree
  | paid _ _ _ _ _ lookup _ _ difference =>
    have hpositive := UInt16.toNat_of_checkedSub_one difference
    rw [hcredit _ lookup] at hpositive
    exact absurd hpositive (by simp)

/-! ### The operations -/

theorem negotiate_follows (bound : Nat) (revisions : List ProtocolRevision) :
    Follows Transition Broken (negotiate bound revisions) w := by
  induction revisions generalizing w with
  | nil => exact Follows.throw _
  | cons revision revisions ih =>
    refine (transaction_follows fun _ ↦ .inl rfl).bind fun reply v _ ↦ ?_
    split
    · split
      · exact beginConversation_follows fun state hlookup ↦ .activated (by simp) hlookup
      · split
        · exact Follows.throw _
        · exact ih
    · exact Follows.throw _

theorem initializeLink_follows (bound : Nat) :
    Follows Transition Broken (initializeLink bound) w := by
  refine Follows.observe_bind (Follows.rejectIf_bind fun _ ↦ Follows.rejectIf_bind fun _ ↦ ?_)
  exact negotiate_follows bound _

/-- A transaction that spends a credit makes transitions only. -/
theorem paid_follows {bound : Nat} {message : TransactionMessage} :
    Follows Transition Faulty (transaction bound message true) w :=
  (transaction_follows (by simp)).mono (fun _ _ _ h ↦ h) fun _ _ _ h ↦ .inl h

theorem openService_follows (bound : Nat) (name : String) :
    Follows Transition Faulty (openService bound name) w := by
  refine paid_follows.bind fun reply v _ ↦ ?_
  split
  case h_2 => exact Follows.throw _
  case h_1 result socketId returnedName _ =>
    refine Follows.rejectIf_bind fun _ ↦ Follows.bind ?_ fun _ v hregistered ↦ ?_
    · exact Follows.of_step rfl (by simp) (.registered name)
    cases hregistered
    refine paid_follows.bind fun reply v' hreply ↦ ?_
    obtain ⟨u, hspent, hpath⟩ := transaction_ok hreply
    -- The new entry holds no credit, so it is not the one the message has been paid from.
    have hservice : (⟨socketId, socketId⟩ : ChannelId) ≠ .transaction := by
      intro htransaction
      refine hspent.credit ⟨name, 0, 0x100, 0x100, 0, false⟩ ?_ rfl
      rw [← htransaction]
      exact setChannel_channels_self _ _ _
    have hlookup : u.state.channels ⟨socketId, socketId⟩ =
        some ⟨name, 0, 0x100, 0x100, 0, false⟩ :=
      (hspent.channels _ hservice).trans (setChannel_channels_self _ _ _)
    have hheld : Held ⟨socketId, socketId⟩ v'.state := by
      refine Held.of_path hpath hservice (.inl ⟨?_, _, hlookup⟩)
      rw [hspent.conversation]
      exact hspent.maySend.ne_terminated
    have hshut : Shut ⟨socketId, socketId⟩ v'.state := by
      refine Shut.of_path hpath fun state hstate ↦ ?_
      rw [hlookup] at hstate
      cases hstate
      rfl
    split
    case h_2 => exact Follows.throw _
    case h_1 result _ _ maxPacketSize maxServiceSize maxCredit grantedCredit _ =>
      refine Follows.rejectIf_bind fun _ ↦ Follows.bind ?_ fun _ _ _ ↦ Follows.pure _
      rcases hheld with ⟨hrunning, state, hstate⟩ | ⟨hover, habsent⟩
      · exact Follows.of_step (Program.atomic_run _ _ _ (updateChannel_pure hstate)) (by simp)
          (.opened hservice hrunning hstate (hshut state hstate))
      · exact Follows.of_fault (Program.atomic_run _ _ _ (updateChannel_none habsent))
          (.inr ⟨rfl, hover, _, rfl, habsent⟩)

theorem serviceName_follows (bound : Nat) (socketId : UInt8) :
    Follows Transition Faulty (serviceName bound socketId) w := by
  refine paid_follows.bind fun reply v _ ↦ ?_
  split
  · exact Follows.rejectIf_bind fun _ ↦ Follows.pure _
  · exact Follows.throw _

theorem closeChannel_follows (bound : Nat) (channel : ChannelId) :
    Follows Transition Faulty (closeChannel bound channel) w := by
  refine Follows.rejectIf_bind fun hservice ↦ Follows.observe_bind ?_
  refine Follows.rejectIf_bind fun _ ↦ paid_follows.bind fun reply v _ ↦ ?_
  split
  · exact Follows.rejectIf_bind fun _ ↦ Follows.of_step rfl (by simp) (.closedByHost hservice)
  · exact Follows.throw _

theorem exit_follows (bound : Nat) : Follows Transition Faulty (exit bound) w := by
  refine follows_of_active fun hactive ↦ ?_
  refine Follows.bind (Follows.of_step rfl (by simp) (.exitRequested hactive)) fun _ v _ ↦ ?_
  refine paid_follows.bind fun reply v _ ↦ ?_
  split
  · split
    · exact (terminateConversation_follows fun state hlookup ↦ .terminated hlookup).mono
        (fun _ _ _ h ↦ h) fun _ _ _ h ↦ .inl h
    · exact Follows.throw _
  · exact Follows.throw _

theorem ensureCreditLoop_follows (bound : Nat) (channel : ChannelId) (attempts : Nat) :
    Follows Transition Faulty (ensureCreditLoop bound channel attempts) w := by
  induction attempts generalizing w with
  | zero => exact Follows.observe_bind (Follows.orThrow_bind fun _ _ ↦ Follows.throw _)
  | succ attempts ih =>
    refine Follows.observe_bind (Follows.orThrow_bind fun state hstate ↦ ?_)
    split
    case isTrue => exact Follows.pure ()
    case isFalse hempty =>
    refine paid_follows.bind fun reply v hreply ↦ ?_
    obtain ⟨u, hspent, hpath⟩ := transaction_ok hreply
    -- The channel is out of credit, the transaction channel was not.
    have hservice : channel ≠ .transaction := by
      rintro rfl
      refine hspent.credit state hstate ?_
      by_contra hne
      exact hempty (UInt16.pos_iff_ne_zero.2 hne)
    have hheld : Held channel v.state := by
      refine Held.of_path hpath hservice (.inl ⟨?_, state, ?_⟩)
      · rw [hspent.conversation]
        exact hspent.maySend.ne_terminated
      · rw [hspent.channels channel hservice, hstate]
    split
    case h_2 => exact Follows.throw _
    case h_1 result peerSocket sourceSocket addedCredit =>
      refine Follows.rejectIf_bind fun _ ↦ Follows.bind ?_ fun _ v' _ ↦ Follows.observe_bind ?_
      · rcases hheld with ⟨hrunning, state', hstate'⟩ | ⟨hover, habsent⟩
        · rcases hsum : state'.credit.checkedAdd addedCredit with _ | credit
          · have hrun : grantCredit channel addedCredit v.state =
                (.err (.creditOverflow channel), v.state) := by
              rw [grantCredit, updateChannel_some hstate', hsum]
              rfl
            exact Follows.of_step (Program.atomic_run _ _ _ hrun) (by simp) (.marked trivial)
          · have hrun : grantCredit channel addedCredit v.state =
                (.ok (), v.state.setChannel channel { state' with credit := credit }) := by
              rw [grantCredit, updateChannel_some hstate', hsum]
              rfl
            exact Follows.of_step (Program.atomic_run _ _ _ hrun) (by simp)
              (.granted hstate' hsum fun _ ↦ ⟨hservice, hrunning⟩)
        · exact Follows.of_fault (Program.atomic_run _ _ _ (updateChannel_none habsent))
            (.inr ⟨rfl, hover, _, rfl, habsent⟩)
      · split
        · exact Follows.pure ()
        · exact ih

theorem request_follows (bound : Nat) (channel : ChannelId) (payload : List UInt8) :
    Follows Transition Faulty (request bound channel payload) w := by
  refine follows_of_active fun _ ↦ ?_
  refine (ensureCreditLoop_follows bound channel 3).bind fun _ v _ ↦ ?_
  refine ((send_follows (by simp)).mono (fun _ _ _ h ↦ h.1) fun _ _ _ h ↦ h).bind fun _ v _ ↦ ?_
  refine Follows.bind (Follows.mark (.marked trivial)) fun _ v _ ↦ ?_
  exact (requestLoop_follows _ _ _).mono (fun _ _ _ h ↦ h.transition) fun _ _ _ h ↦ .inl h

/-- A request that succeeds has been written, and its loop has ended. -/
theorem request_ok {bound : Nat} {channel : ChannelId} {payload reply : List UInt8}
    (h : request bound channel payload w = (.ok reply, w')) :
    ∃ (v : LinkRun T) (packet : Packet) (after : D4Link T), Trail Transition w v ∧
      packet.channel = channel ∧ packet.payload = payload ∧ Transition v (.wrote packet) after ∧
      requestLoop channel bound bound
        ((v.push (.wrote packet) after).push (.awaiting (some channel)) after) =
          (.ok reply, w') := by
  obtain ⟨_, u, hgate, h⟩ := Program.bind_eq_ok.1 h
  obtain ⟨_, v, hensured, h⟩ := Program.bind_eq_ok.1 h
  obtain ⟨_, v', hsent, h⟩ := Program.bind_eq_ok.1 h
  obtain ⟨_, v'', hmark, h⟩ := Program.bind_eq_ok.1 h
  cases hmark
  obtain ⟨-, rfl⟩ := requireActiveConversation_ok hgate
  have hsending := send_sending channel payload true v
  rw [hsent] at hsending
  cases hsending with
  | free _ hfree => cases hfree
  | paid target _ hroute hcontent hmay hlookup hopen hsize hdifference =>
    subst hroute
    exact ⟨v, _, _, (ensureCreditLoop_follows bound _ 3).path_ok hensured, rfl, hcontent,
      .sentPaid target hmay hlookup hopen hsize hdifference, h⟩

omit [ByteTransport T] in
theorem controlChannel_follows (channel : ChannelId) :
    Follows Transition Faulty (controlChannel channel) w :=
  Follows.observe_bind (Follows.rejectIf _)

/-- **Every operation makes transitions only**, and panics only in a fault. -/
theorem perform_follows (bound : Nat) (operation : Operation) :
    Follows Transition Faulty (perform bound operation) w := by
  cases operation with
  | initializeLink =>
    refine Follows.bind ?_ fun _ _ _ ↦ Follows.pure _
    exact (initializeLink_follows bound).mono (fun _ _ _ h ↦ h) fun _ _ _ h ↦ .inl h
  | openService name => exact (openService_follows bound name).bind fun _ _ _ ↦ Follows.pure _
  | serviceName socketId =>
    exact (serviceName_follows bound socketId).bind fun _ _ _ ↦ Follows.pure _
  | controlChannel channel => exact (controlChannel_follows channel).bind fun _ _ _ ↦ Follows.pure _
  | closeChannel channel =>
    exact (closeChannel_follows bound channel).bind fun _ _ _ ↦ Follows.pure _
  | exit => exact (exit_follows bound).bind fun _ _ _ ↦ Follows.pure _
  | request channel payload =>
    exact (request_follows bound channel payload).bind fun _ _ _ ↦ Follows.pure _

theorem runOperation_follows (bound : Nat) (operation : Operation) :
    Follows Transition Faulty (runOperation bound operation) w :=
  Follows.bind (Follows.mark (.marked trivial)) fun _ _ _ ↦ perform_follows bound operation

/-- What a request returns to its caller is what `request` returns. -/
theorem runOperation_request_ok {bound : Nat} {channel : ChannelId} {payload reply : List UInt8}
    (h : runOperation bound (.request channel payload) w = (.ok (.data reply), w')) :
    request bound channel payload (w.push (.called (.request channel payload)) w.state) =
      (.ok reply, w') := by
  obtain ⟨_, v, hcalled, hperform⟩ := Program.bind_eq_ok.1 h
  cases hcalled
  obtain ⟨_, u, hrequest, hresult⟩ := Program.bind_eq_ok.1 hperform
  cases hresult
  exact hrequest

end Calls

/-! ### Runs -/

theorem present_new (target : T) : (D4Link.new target).Present := ⟨_, rfl⟩

/-- A step of a run: a transition, or a reply whose entry is gone. -/
def RunStep (w : LinkRun T) (event : Event) (after : D4Link T) : Prop :=
  Transition w event after ∨ Loses w event after

theorem RunStep.present {event : Event} {after : D4Link T} (h : RunStep w event after)
    (hw : w.state.Present) : after.Present := by
  rcases h with htransition | ⟨rfl, -, -⟩
  · exact htransition.present hw
  · exact hw

variable [ByteTransport T]

theorem runCalls_returned {call : Call} {calls : List Call}
    (h : (runOperation call.bound call.operation w).1.Returned) :
    runCalls (call :: calls) w =
      ((runOperation call.bound call.operation w).1 ::
          (runCalls calls (runOperation call.bound call.operation w).2).1,
        (runCalls calls (runOperation call.bound call.operation w).2).2) := by
  exact if_pos h

theorem runCalls_not_returned {call : Call} {calls : List Call}
    (h : ¬ (runOperation call.bound call.operation w).1.Returned) :
    runCalls (call :: calls) w =
      ([(runOperation call.bound call.operation w).1],
        (runOperation call.bound call.operation w).2) := by
  exact if_neg h

/-- How a call ends: it has made transitions, or it has panicked for want of an entry. -/
theorem runOperation_cases (bound : Nat) (operation : Operation) (hw : w.state.Present) :
    ((∀ message, (runOperation bound operation w).1 ≠ .panic message) ∧
      Trail Transition w (runOperation bound operation w).2) ∨
    ((∃ message, (runOperation bound operation w).1 = .panic message) ∧
      ∃ v event after, Trail Transition w v ∧ Loses v event after ∧
        (runOperation bound operation w).2 = v.push event after) := by
  have hfollows := runOperation_follows bound operation (w := w)
  rcases hrun : runOperation bound operation w with ⟨a | e | message | _, w'⟩
  case panic =>
    obtain ⟨v, event, after, hpath, hfault, rfl⟩ := hfollows.fault hrun
    refine .inr ⟨⟨message, rfl⟩, v, event, after, hpath, ?_, rfl⟩
    rcases hfault with hbroken | hloses
    · obtain ⟨state, hstate⟩ := hpath.state_invariant (fun _ _ _ hstep ↦ hstep.present) hw
      rw [hbroken] at hstate
      cases hstate
    · exact hloses
  all_goals exact .inl ⟨by simp, hfollows.path hrun (by simp)⟩

theorem runOperation_path (bound : Nat) (operation : Operation) (hw : w.state.Present) :
    Trail RunStep w (runOperation bound operation w).2 := by
  rcases runOperation_cases bound operation hw with ⟨-, hpath⟩ |
    ⟨-, v, event, after, hpath, hloses, hlast⟩
  · exact hpath.mono fun _ _ _ h ↦ .inl h
  · rw [hlast]
    exact (hpath.mono fun _ _ _ h ↦ .inl h).snoc (.inr hloses)

/-- **Every run is a path of transitions**, up to the panic that may end it. -/
theorem runCalls_path (calls : List Call) (hw : w.state.Present) :
    Trail RunStep w (runCalls calls w).2 := by
  induction calls generalizing w with
  | nil => exact .refl
  | cons call calls ih =>
    have hcall := runOperation_path call.bound call.operation hw
    by_cases hreturned : (runOperation call.bound call.operation w).1.Returned
    · rw [runCalls_returned hreturned]
      exact hcall.trans (ih (hcall.state_invariant (fun _ _ _ hstep ↦ hstep.present) hw))
    · rw [runCalls_not_returned hreturned]
      exact hcall

/-- The steps of a run on a new link. -/
theorem runNew_path (calls : List Call) (target : T) :
    Trail RunStep (.start (D4Link.new target)) (runNew calls target).2 :=
  runCalls_path calls (present_new target)

/-- The steps of a run on a new link and of one more operation. -/
theorem runNew_snoc_path (calls : List Call) (target : T) (bound : Nat) (operation : Operation) :
    Trail RunStep (.start (D4Link.new target))
      (runOperation bound operation (runNew calls target).2).2 := by
  have hpath := runNew_path calls target
  refine hpath.trans (runOperation_path bound operation ?_)
  exact hpath.state_invariant (fun _ _ _ hstep ↦ hstep.present) (present_new target)

end D4Link

end Reink
