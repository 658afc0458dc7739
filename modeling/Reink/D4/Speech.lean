import Reink.D4.Operation

/-!
# What the link says on the transaction channel

Every packet that the link writes on the transaction channel carries a message of its own (`Says`),
but for the payload that a caller hands to a request on that channel. The messages of its own that
matter are the successful replies to an OpenChannel of the peer: such a reply follows directly on
the command (`heard`), and its sizes are the smaller of those asked for and those stored.

`runCalls_callsOrSpeaks` says so of the steps of every run, `voices_of_wrote` of every write in it.
-/

namespace Reink

/-- Labels of the steps of a call that write nothing. -/
def Event.IsSilent : Event → Prop
  | .called _ | .wrote _ => False
  | _ => True

namespace D4Link

open Program (Follows bind_run_ok bind_run_err)

variable {T : Type} {w w' : LinkRun T}

/-- The message of the transaction packet whose credit was applied last, in the step before. -/
def heard (w : LinkRun T) : Option TransactionMessage :=
  match w.history.getLast? with
  | some ⟨_, .credited packet, _⟩ =>
    if packet.channel = .transaction then
      (TransactionMessage.decode packet.payload w.state.revision).toOption
    else none
  | _ => none

/-- The payload of the request on the transaction channel that was called in the step before. -/
def handed (w : LinkRun T) : Option (List UInt8) :=
  match w.history.getLast? with
  | some ⟨_, .called (.request channel payload), _⟩ =>
    if channel = .transaction then some payload else none
  | _ => none

/-- **The messages of the link's own**: whatever is no reply to an OpenChannel, the refusal of a
channel that is not there, and the agreement to the sizes of one that is. -/
inductive Says (w : LinkRun T) : TransactionMessage → Prop
  | other {message : TransactionMessage} (h : message.code ≠ 0x81) : Says w message
  | refuses (channel : ChannelId) :
      Says w (.openChannelReply 0x0d channel.peerSocket channel.sourceSocket 0 0 0 0)
  | agrees {channel : ChannelId} {state : ChannelState}
      {maxPacketSize maxServiceSize maxCredit : UInt16} {initialCredit : Option UInt16}
      (asked : heard w = some (.openChannel channel.peerSocket channel.sourceSocket maxPacketSize
        maxServiceSize maxCredit initialCredit))
      (lookup : w.state.channels channel = some state) :
      Says w (.openChannelReply 0 channel.peerSocket channel.sourceSocket
        (min state.maxPacketSize maxPacketSize) (min state.maxServiceSize maxServiceSize)
        state.maxCredit 0)

/-- What a write on the transaction channel carries. -/
inductive Voices (w : LinkRun T) (packet : Packet) : Prop
  | service (h : packet.channel ≠ .transaction)
  | message {message : TransactionMessage} (own : Says w message)
      (encodes : message.encode w.state.revision = .ok packet.payload)
  | request (h : handed w = some packet.payload)

/-- A step of a call that writes what it may. -/
def Speaks (w : LinkRun T) : Event → D4Link T → Prop
  | .wrote packet, _ => Voices w packet
  | .called _, _ => False
  | _, _ => True

/-- The program writes what it may, also in the step in which it panics. -/
abbrev SpeaksIn {α : Type} (m : LinkProgram T α) (w : LinkRun T) : Prop := Follows Speaks Speaks m w

theorem heard_of_justCredited {packet : Packet} {message : TransactionMessage}
    (h : JustCredited w packet) (htransaction : packet.channel = .transaction)
    (hdecode : TransactionMessage.decode packet.payload w.state.revision = .ok message) :
    heard w = some message := by
  obtain ⟨v, link, -, rfl⟩ := h
  simp only [heard, Recorded.push_history, List.getLast?_append, List.getLast?_singleton,
    Option.some_or]
  rw [if_pos htransaction, hdecode]
  rfl

theorem handed_push_called (payload : List UInt8) (after : D4Link T) :
    handed (w.push (.called (.request .transaction payload)) after) = some payload := by
  simp [handed]

/-! ### Steps -/

/-- A step that writes nothing. -/
theorem speaks_of_isSilent {event : Event} {after : D4Link T} (h : event.IsSilent) :
    Speaks w event after := by
  cases event <;> first | exact h.elim | trivial

theorem atomic_speaks {α : Type} {event : Outcome D4Error α → Event} {body : LinkBlock T α}
    (h : ∀ o, (event o).IsSilent) : SpeaksIn (Program.atomic event body) w := by
  have hstep : Speaks w (event (body w.state).1) (body w.state).2 := speaks_of_isSilent (h _)
  have hrun : Program.atomic event body w =
      ((body w.state).1, w.push (event (body w.state).1) (body w.state).2) := rfl
  rcases ho : (body w.state).1 with a | error | message | _
  case panic =>
    rw [ho] at hrun hstep
    exact Follows.of_fault hrun hstep
  all_goals
    rw [ho] at hrun hstep
    exact Follows.of_step hrun (by simp) hstep

theorem mark_speaks {event : Event} (h : event.IsSilent) :
    SpeaksIn (Program.mark event : LinkProgram T Unit) w :=
  Follows.mark (speaks_of_isSilent h)

section Writing

variable [ByteTransport T]

/-- A send writes its payload, if anything. -/
theorem send_speaks {channel : ChannelId} {payload : List UInt8} {consumeCredit : Bool}
    (h : ∀ packet : Packet, packet.channel = channel → packet.payload = payload →
      Voices w packet) : SpeaksIn (send channel payload consumeCredit) w := by
  have hsending := send_sending channel payload consumeCredit w
  generalize hresult : send channel payload consumeCredit w = result at hsending
  cases hsending with
  | refused error => exact Follows.of_stay hresult (by simp)
  | failed error target _ _ _ _ =>
    exact Follows.of_step hresult (by simp) trivial
  | free target _ hroute hcontent _ _ _ _ =>
    exact Follows.of_step hresult (by simp) (h _ hroute hcontent)
  | paid target _ hroute hcontent _ _ _ _ _ =>
    exact Follows.of_step hresult (by simp) (h _ hroute hcontent)

theorem sendTransaction_speaks {message : TransactionMessage} {consumeCredit : Bool}
    (h : Says w message) : SpeaksIn (sendTransaction message consumeCredit) w := by
  rcases sendTransaction_run message consumeCredit w with ⟨error, hrun⟩ | ⟨payload, hencode, hrun⟩
  · exact Follows.of_stay hrun (by simp)
  · refine Follows.congr hrun (send_speaks fun packet _ hcontent ↦ .message h ?_)
    rw [hcontent, hencode]

theorem applyCredit_speaks (packet : Packet) : SpeaksIn (applyCredit packet) w := by
  rcases applyCredit_cases packet w with ⟨error, hrun⟩ | ⟨state, -, -, -, hrun⟩ |
    ⟨state, credit, -, -, -, hrun⟩
  · exact Follows.of_stay hrun (by simp)
  · refine Follows.congr hrun (Follows.bind ?_ fun _ v _ ↦ Follows.throw _)
    obtain ⟨report, target, hroute, hcontent, hsend | ⟨error, hsend⟩⟩ :=
      sendError_run packet.channel 0x86 w
    · have hsays : Says w
          (.error packet.channel.peerSocket packet.channel.sourceSocket 0x86) :=
        .other (by simp [TransactionMessage.code])
      refine Follows.of_step hsend (by simp) (Voices.message hsays ?_)
      rw [hcontent]
      rfl
    · exact Follows.of_step hsend (by simp) trivial
  · exact Follows.of_step hrun (by simp) trivial

theorem nextPacket_speaks (bound : Nat) : SpeaksIn (nextPacket bound) w := by
  refine (nextPacket_follows bound).mono (fun v event after h ↦ ?_) fun _ _ _ h ↦ h
  rcases h.2 with hread | ⟨packet, rfl⟩
  · cases event <;> first | exact hread.elim | trivial
  · trivial

/-! ### Commands of the peer -/

theorem handlePeerOpen_speaks {channel : ChannelId}
    {maxPacketSize maxServiceSize maxCredit : UInt16} {initialCredit : Option UInt16}
    (h : heard w = some (.openChannel channel.peerSocket channel.sourceSocket maxPacketSize
      maxServiceSize maxCredit initialCredit)) :
    SpeaksIn (handlePeerOpen channel maxPacketSize maxServiceSize) w := by
  unfold handlePeerOpen
  refine Follows.observe_bind ?_
  rcases hlookup : w.state.channels channel with _ | state
  · exact sendTransaction_speaks (.refuses channel)
  · exact sendTransaction_speaks (.agrees h hlookup)

/-- A reply that is not one to an OpenChannel. -/
theorem respond_speaks {message : TransactionMessage} {consumeCredit : Bool}
    (h : message.code ≠ 0x81) : SpeaksIn (sendTransaction message consumeCredit) w :=
  sendTransaction_speaks (.other h)

theorem handlePeerTransaction_speaks {message : TransactionMessage} (h : heard w = some message) :
    SpeaksIn (handlePeerTransaction message) w := by
  unfold handlePeerTransaction
  refine Follows.observe_bind ?_
  cases message with
  | init revision =>
    dsimp only
    split
    · exact Follows.bind (atomic_speaks fun _ ↦ trivial) fun _ v _ ↦
        respond_speaks (by simp [TransactionMessage.code])
    · exact respond_speaks (by simp [TransactionMessage.code])
  | openChannel => exact handlePeerOpen_speaks h
  | closeChannel =>
    refine Follows.bind (respond_speaks (by simp [TransactionMessage.code])) fun _ v _ ↦ ?_
    exact Follows.when (atomic_speaks fun _ ↦ trivial)
  | credit =>
    refine Follows.orThrow_bind fun state _ ↦ Follows.orThrow_bind fun credit _ ↦ ?_
    exact Follows.bind (atomic_speaks fun _ ↦ trivial) fun _ v _ ↦
      respond_speaks (by simp [TransactionMessage.code])
  | exit =>
    refine Follows.bind (respond_speaks (by simp [TransactionMessage.code])) fun _ v _ ↦ ?_
    refine Follows.observe_bind ?_
    split <;> exact atomic_speaks fun _ ↦ trivial
  | creditRequest | getSocketId | getServiceName =>
    exact respond_speaks (by simp [TransactionMessage.code])
  | error => exact Follows.pure ()
  | _ => exact Follows.throw _

/-! ### The receive loops -/

/-- A packet of the transaction channel whose credit has been applied is heard. -/
theorem heard_of_credited {packet : Packet} {v : LinkRun T} {bound : Nat} {a : Unit}
    {message : TransactionMessage} (hnext : nextPacket bound w = (.ok packet, v))
    (htransaction : packet.channel = .transaction)
    (hcredit : applyCredit packet v = (.ok a, w'))
    (hdecode : TransactionMessage.decode packet.payload w'.state.revision = .ok message) :
    heard w' = some message := by
  obtain ⟨_, _, -, -, -, rfl⟩ := applyCredit_ok hcredit
  exact heard_of_justCredited ⟨v, _, (nextPacket_ok hnext).justTook, rfl⟩ htransaction hdecode

theorem transactionLoop_speaks (expectedReply : UInt8) (readBound bound : Nat) :
    SpeaksIn (transactionLoop expectedReply readBound bound) w := by
  induction bound generalizing w with
  | zero => exact Follows.running
  | succ bound ih =>
    refine Follows.bind (mark_speaks trivial) fun _ v _ ↦ ?_
    refine (nextPacket_speaks readBound).bind fun packet v hnext ↦ ?_
    split
    case isTrue =>
      refine Follows.observe_bind ?_
      split
      · exact ih
      · refine (applyCredit_speaks packet).bind fun _ v _ ↦ ?_
        exact Follows.bind (atomic_speaks fun _ ↦ trivial) fun _ v _ ↦ ih
    case isFalse hchannel =>
      refine (applyCredit_speaks packet).bind fun _ v hcredit ↦ Follows.observe_bind ?_
      refine Follows.ofExcept_bind fun received hdecode ↦ ?_
      have hheard : heard v = some received := heard_of_credited hnext
        ((Packet.channelId_eq_iff packet).1 (not_not.1 hchannel)) hcredit hdecode
      split
      · exact (handlePeerTransaction_speaks hheard).bind fun _ v _ ↦ ih
      split
      · exact Follows.bind (mark_speaks trivial) fun _ v _ ↦ Follows.pure received
      · exact Follows.throw _

theorem requestLoop_speaks (channel : ChannelId) (readBound bound : Nat) :
    SpeaksIn (requestLoop channel readBound bound) w := by
  induction bound generalizing w with
  | zero => exact Follows.running
  | succ bound ih =>
    refine Follows.bind (mark_speaks trivial) fun _ v _ ↦ ?_
    refine (nextPacket_speaks readBound).bind fun packet v hnext ↦ ?_
    split
    case isTrue hchannel =>
      refine (applyCredit_speaks packet).bind fun _ v hcredit ↦ Follows.observe_bind ?_
      refine Follows.ofExcept_bind fun message hdecode ↦ ?_
      have hheard : heard v = some message := heard_of_credited hnext
        ((Packet.channelId_eq_iff packet).1 hchannel) hcredit hdecode
      split
      · refine (handlePeerTransaction_speaks hheard).bind fun _ v _ ↦ Follows.observe_bind ?_
        split
        · exact Follows.throw _
        · exact ih
      · exact Follows.throw _
    case isFalse =>
      refine Follows.observe_bind ?_
      split
      · exact ih
      refine (applyCredit_speaks packet).bind fun _ v _ ↦ ?_
      split
      · exact Follows.bind (mark_speaks trivial) fun _ v _ ↦ Follows.pure packet.payload
      · exact Follows.bind (atomic_speaks fun _ ↦ trivial) fun _ v _ ↦ ih

/-! ### The operations -/

/-- No operation starts a transaction with a reply. -/
theorem transaction_speaks {bound : Nat} {message : TransactionMessage} {consumeCredit : Bool}
    (h : message.code ≠ 0x81) : SpeaksIn (transaction bound message consumeCredit) w := by
  refine (sendTransaction_speaks (.other h)).bind fun _ v _ ↦ ?_
  exact Follows.bind (mark_speaks trivial) fun _ v _ ↦ transactionLoop_speaks _ _ _

theorem negotiate_speaks (bound : Nat) (revisions : List ProtocolRevision) :
    SpeaksIn (negotiate bound revisions : LinkProgram T Unit) w := by
  induction revisions generalizing w with
  | nil => exact Follows.throw _
  | cons revision revisions ih =>
    refine (transaction_speaks (by simp [TransactionMessage.code])).bind fun reply v _ ↦ ?_
    split
    · split
      · exact atomic_speaks fun _ ↦ trivial
      · split
        · exact Follows.throw _
        · exact ih
    · exact Follows.throw _

theorem openService_speaks (bound : Nat) (name : String) :
    SpeaksIn (openService bound name : LinkProgram T ChannelId) w := by
  refine (transaction_speaks (by simp [TransactionMessage.code])).bind fun reply v _ ↦ ?_
  split
  · refine Follows.rejectIf_bind fun _ ↦ Follows.bind (atomic_speaks fun _ ↦ trivial) fun _ v _ ↦ ?_
    refine (transaction_speaks (by simp [TransactionMessage.code])).bind fun reply v _ ↦ ?_
    split
    · refine Follows.rejectIf_bind fun _ ↦ ?_
      refine Follows.bind (atomic_speaks fun _ ↦ trivial) fun _ v _ ↦ ?_
      exact Follows.pure _
    · exact Follows.throw _
  · exact Follows.throw _

theorem closeChannel_speaks (bound : Nat) (channel : ChannelId) :
    SpeaksIn (closeChannel bound channel : LinkProgram T Unit) w := by
  refine Follows.rejectIf_bind fun _ ↦ Follows.observe_bind (Follows.rejectIf_bind fun _ ↦ ?_)
  refine (transaction_speaks (by simp [TransactionMessage.code])).bind fun reply v _ ↦ ?_
  split
  · exact Follows.rejectIf_bind fun _ ↦ atomic_speaks fun _ ↦ trivial
  · exact Follows.throw _

theorem exit_speaks (bound : Nat) : SpeaksIn (exit bound : LinkProgram T Unit) w := by
  refine follows_of_active fun _ ↦ ?_
  refine Follows.bind (atomic_speaks fun _ ↦ trivial) fun _ v _ ↦ ?_
  refine (transaction_speaks (by simp [TransactionMessage.code])).bind fun reply v _ ↦ ?_
  split
  · split
    · exact atomic_speaks fun _ ↦ trivial
    · exact Follows.throw _
  · exact Follows.throw _

theorem ensureCreditLoop_speaks (bound : Nat) (channel : ChannelId) (attempts : Nat) :
    SpeaksIn (ensureCreditLoop bound channel attempts : LinkProgram T Unit) w := by
  induction attempts generalizing w with
  | zero => exact Follows.observe_bind (Follows.orThrow_bind fun _ _ ↦ Follows.throw _)
  | succ attempts ih =>
    refine Follows.observe_bind (Follows.orThrow_bind fun state _ ↦ ?_)
    split
    · exact Follows.pure ()
    refine (transaction_speaks (by simp [TransactionMessage.code])).bind fun reply v _ ↦ ?_
    split
    · refine Follows.rejectIf_bind fun _ ↦ ?_
      refine Follows.bind (atomic_speaks fun o ↦ by cases o <;> trivial) fun _ v _ ↦ ?_
      refine Follows.observe_bind ?_
      split
      · exact Follows.pure ()
      · exact ih
    · exact Follows.throw _

/-- On the transaction channel no credit can be asked for, as asking takes one. -/
theorem ensureChannelCredit_transaction (bound : Nat) (w : LinkRun T) :
    ensureChannelCredit bound .transaction w = (.ok (), w) ∨
      ∃ error, ensureChannelCredit bound .transaction w = (.err error, w) := by
  unfold ensureChannelCredit ensureCreditLoop
  rw [bind_run_ok (Program.observe_run w)]
  rcases hlookup : w.state.channels .transaction with _ | state
  · exact .inr ⟨_, rfl⟩
  rw [Program.orThrow_some, Program.pure_bind]
  by_cases hcredit : state.credit > 0
  case pos =>
    rw [if_pos hcredit]
    exact .inl rfl
  case neg =>
    have hempty : state.credit = 0 := by
      by_contra hne
      exact hcredit (UInt16.pos_iff_ne_zero.2 hne)
    have hnone : ∀ state', w.state.channels .transaction = some state' → state'.credit = 0 := by
      intro state' hlookup'
      cases hlookup.symm.trans hlookup'
      exact hempty
    obtain ⟨error, hrefused⟩ : ∃ error,
        transaction bound (.creditRequest 0 0 state.maxCredit) true w = (.err error, w) :=
      transaction_refused (.inr hnone)
    rw [if_neg hcredit]
    exact .inr ⟨error, bind_run_err hrefused⟩

/-- A request that has just been called writes its payload, and whatever the link has to say. -/
theorem request_speaks (bound : Nat) (channel : ChannelId) (payload : List UInt8) :
    SpeaksIn (request bound channel payload)
      (w.push (.called (.request channel payload)) w.state) := by
  refine follows_of_active fun _ ↦ ?_
  refine (ensureCreditLoop_speaks bound channel 3).bind fun _ v hensured ↦ ?_
  refine Follows.bind (send_speaks fun packet hroute hcontent ↦ ?_) fun _ v _ ↦
    Follows.bind (mark_speaks trivial) fun _ v _ ↦ requestLoop_speaks channel bound bound
  by_cases hchannel : channel = .transaction
  case neg => exact .service (hroute ▸ hchannel)
  subst hchannel
  rcases ensureChannelCredit_transaction bound
    (w.push (.called (.request .transaction payload)) w.state) with hstay | ⟨error, hfailed⟩
  · cases hstay.symm.trans hensured
    refine .request ?_
    rw [handed_push_called, hcontent]
  · cases hfailed.symm.trans hensured

/-- **Every operation, once called, writes what it may.** -/
theorem perform_speaks (bound : Nat) (operation : Operation) :
    SpeaksIn (perform bound operation) (w.push (.called operation) w.state) := by
  cases operation with
  | initializeLink =>
    refine Follows.bind (Follows.observe_bind ?_) fun _ v _ ↦ Follows.pure _
    exact Follows.rejectIf_bind fun _ ↦ Follows.rejectIf_bind fun _ ↦ negotiate_speaks bound _
  | openService name => exact (openService_speaks bound name).bind fun _ v _ ↦ Follows.pure _
  | serviceName socketId =>
    refine Follows.bind ?_ fun _ v _ ↦ Follows.pure _
    refine (transaction_speaks (by simp [TransactionMessage.code])).bind fun reply v _ ↦ ?_
    split
    · exact Follows.rejectIf_bind fun _ ↦ Follows.pure _
    · exact Follows.throw _
  | controlChannel channel =>
    exact Follows.bind (Follows.observe_bind (Follows.rejectIf _)) fun _ v _ ↦ Follows.pure _
  | closeChannel channel =>
    exact (closeChannel_speaks bound channel).bind fun _ v _ ↦ Follows.pure _
  | exit => exact (exit_speaks bound).bind fun _ v _ ↦ Follows.pure _
  | request channel payload =>
    exact (request_speaks bound channel payload).bind fun _ v _ ↦ Follows.pure _

/-! ### Runs -/

/-- A step of a run: a call, or a step of one that writes what it may. -/
def CallsOrSpeaks (w : LinkRun T) (event : Event) (after : D4Link T) : Prop :=
  (∃ operation, event = .called operation) ∨ Speaks w event after

/-- Once called, an operation calls nothing, and writes what it may. -/
theorem runOperation_speaks (bound : Nat) (operation : Operation) :
    Trail Speaks (w.push (.called operation) w.state) (runOperation bound operation w).2 :=
  ((perform_speaks bound operation).path_or).mono fun _ _ _ h ↦ h.elim id id

theorem runOperation_callsOrSpeaks (bound : Nat) (operation : Operation) :
    Trail CallsOrSpeaks w (runOperation bound operation w).2 :=
  (Trail.single (.inl ⟨operation, rfl⟩)).trans
    ((runOperation_speaks bound operation).mono fun _ _ _ h ↦ .inr h)

theorem runCalls_callsOrSpeaks (calls : List Call) :
    Trail CallsOrSpeaks w (runCalls calls w).2 := by
  induction calls generalizing w with
  | nil => exact .refl
  | cons call calls ih =>
    have hpath : Trail CallsOrSpeaks w (runOperation call.bound call.operation w).2 :=
      runOperation_callsOrSpeaks call.bound call.operation
    by_cases hreturned : (runOperation call.bound call.operation w).1.Returned
    · rw [runCalls_returned hreturned]
      exact hpath.trans ih
    · rw [runCalls_not_returned hreturned]
      exact hpath

omit [ByteTransport T] in
/-- **Every write of such a run** is on a service channel, a message of the link's own, or the
payload of a request on the transaction channel. -/
theorem voices_of_wrote {link : D4Link T} {v : LinkRun T} {packet : Packet} {after : D4Link T}
    (h : Trail CallsOrSpeaks (.start link) w) (hstep : w.Stepped v (.wrote packet) after) :
    Voices v packet := by
  rcases h.stepped hstep with ⟨operation, hcalled⟩ | hvoices
  · cases hcalled
  · exact hvoices

end Writing

end D4Link

end Reink
