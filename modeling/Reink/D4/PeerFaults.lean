import Reink.D4.Conversation
import Reink.D4.Delivery
import Reink.D4.Panic

/-!
# What the peer must send for the link to go wrong

`no_panic_iff`, `end_is_final_iff` and `transaction_channel_intact_iff` name the step of the link
that goes wrong. In all three it is one in which the host acts on a reply, and here it is traced
back to the packets of the peer. A transaction begins in a conversation that has not ended, so where
the host acts after the end, the peer has asked for the end while the reply was awaited; and the
socket of a channel that is entered is the one that the reply names (`Prompted`, for every
operation).

So a peer that never sends `Exit` can neither make a call panic nor have an ended conversation
revived, and one that grants socket 0 to no lookup leaves the transaction channel in its place.
-/

namespace Reink

namespace D4Link

open Program (Follows)

variable {T : Type} {w₀ w w' : LinkRun T}

/-! ### Prompted steps -/

/-- The last step took the reply that grants the host's lookup, and names the socket. -/
def Names (socket : UInt8) (w : LinkRun T) : Prop :=
  ∃ (v : LinkRun T) (packet : Packet) (name : String),
    w = v.push (.answered none packet) v.state ∧
      TransactionMessage.decode packet.payload v.state.revision =
        .ok (.getSocketIdReply 0 socket name)

/-- Where the host acts on a reply after the end of the conversation, the peer has asked for the end
since `w₀`; and the host enters a channel only under the socket that the peer has just named. -/
def Prompted (w₀ w : LinkRun T) (event : Event) (_ : D4Link T) : Prop :=
  w.state.Present → event.ActsOnReply →
    (w.state.conversation = .terminated → HeardExit w₀ w) ∧
      ∀ channel, event = .registered channel → Names channel.peerSocket w

theorem Prompted.of_not {event : Event} {after : D4Link T} (h : ¬ event.ActsOnReply) :
    Prompted w₀ w event after :=
  fun _ hacts ↦ absurd hacts h

/-- The receive loops act on no reply. -/
theorem Prompted.of_isService {event : Event} {after : D4Link T} (h : event.IsService) :
    Prompted w₀ w event after := by
  refine .of_not fun hacts ↦ ?_
  cases event with
  | activated _ side | granted _ _ side => cases hacts.symm.trans h
  | registered _ | opened _ _ _ _ _ => exact h
  | _ => exact hacts

theorem Prompted.of_broken {event : Event} {after : D4Link T} (h : Broken w event after) :
    Prompted w₀ w event after := by
  rintro ⟨state, hstate⟩
  cases hstate.symm.trans h

/-- Writing a packet is no act on a reply. -/
theorem Writes.prompted {P : Packet → Prop} {event : Event} {after : D4Link T}
    (h : Writes P w event after) : Prompted w₀ w event after := by
  obtain ⟨-, packet, -, rfl | rfl⟩ := h
  · exact .of_isService trivial
  · exact .of_isService trivial

/-- A receive loop ends the conversation only at the peer's request. -/
theorem terminated_of_heeds (h : Trail (Heeds w₀) w w')
    (hw : w.state.conversation = .terminated → HeardExit w₀ w) :
    w'.state.conversation = .terminated → HeardExit w₀ w' := by
  refine h.invariant (I := fun v ↦ v.state.conversation = .terminated → HeardExit w₀ v) ?_ hw
  intro v event after hstep hv hafter
  by_cases hevent : event = .terminated
  · subst hevent
    refine Heard.push ((hstep.2 trivial).mono fun message hmessage ↦ ?_)
    cases message with
    | exit => rfl
    | _ => cases hmessage
  · exact (hv (hstep.1.1.terminated_of_ne hevent hafter)).push

/-! ### Transactions -/

section Transaction

variable [ByteTransport T] {bound : Nat} {message reply : TransactionMessage} {consumeCredit : Bool}

/-- A message is written in a conversation that has not ended. -/
theorem sendTransaction_maySend {a : Unit}
    (h : sendTransaction message consumeCredit w = (.ok a, w')) :
    w.state.MaySend ∧ w'.state.conversation = w.state.conversation := by
  rcases sendTransaction_run message consumeCredit w with ⟨error, hrun⟩ | ⟨payload, -, hrun⟩
  · cases hrun.symm.trans h
  have hsending := send_sending .transaction payload consumeCredit w
  rw [← hrun, h] at hsending
  cases hsending with
  | free _ _ _ _ hmay _ _ _ => exact ⟨hmay, rfl⟩
  | paid _ _ _ _ hmay _ _ _ _ => exact ⟨hmay, rfl⟩

/-- **A reply that arrives after the end**: the peer has asked for the end meanwhile. -/
theorem heardExit_of_transaction
    (hgreeting : consumeCredit = false → message.code = 0x00 ∨ message.code = 0x80)
    (hgrown : w₀.history <+: w.history)
    (h : transaction bound message consumeCredit w = (.ok reply, w'))
    (hover : w'.state.conversation = .terminated) : HeardExit w₀ w' := by
  obtain ⟨_, v, hsend, h⟩ := Program.bind_eq_ok.1 h
  obtain ⟨_, v', hmark, h⟩ := Program.bind_eq_ok.1 h
  cases hmark
  have hwrites : Follows (Writes (Carries message.code)) Broken
      (sendTransaction message consumeCredit) w := sendTransaction_follows hgreeting
  have hv : w₀.history <+: v.history := hgrown.trans (hwrites.path_ok hsend).isPrefix
  obtain ⟨hmay, hsame⟩ := sendTransaction_maySend hsend
  refine terminated_of_heeds
    ((transactionLoop_heeds _ _ _ (hv.trans (List.prefix_append _ _))).path_ok h) ?_ hover
  exact fun hterminated ↦ absurd (hsame.symm.trans hterminated) hmay.ne_terminated

/-- The loop ends with the packet that carries the reply. -/
theorem transactionLoop_answered {expectedReply : UInt8} {readBound : Nat}
    (h : transactionLoop expectedReply readBound bound w = (.ok reply, w')) :
    ∃ (u : LinkRun T) (packet : Packet), w' = u.push (.answered none packet) u.state ∧
      TransactionMessage.decode packet.payload u.state.revision = .ok reply := by
  induction bound generalizing w with
  | zero => cases h
  | succ bound ih =>
    obtain ⟨packet, v, -, hround⟩ := transactionLoop_ok h
    rcases hround with ⟨-, h⟩ | ⟨u, -, h | ⟨-, ⟨_, t, -, h⟩ | ⟨rfl, hdecode⟩⟩⟩
    · exact ih h
    · exact ih h
    · exact ih h
    · exact ⟨u, packet, rfl, hdecode⟩

theorem transaction_answered
    (h : transaction bound message consumeCredit w = (.ok reply, w')) :
    ∃ (u : LinkRun T) (packet : Packet), w' = u.push (.answered none packet) u.state ∧
      TransactionMessage.decode packet.payload u.state.revision = .ok reply := by
  obtain ⟨_, v, -, h⟩ := Program.bind_eq_ok.1 h
  obtain ⟨_, v', -, h⟩ := Program.bind_eq_ok.1 h
  exact transactionLoop_answered h

/-- A transaction itself acts on no reply. -/
theorem transaction_prompted
    (hgreeting : consumeCredit = false → message.code = 0x00 ∨ message.code = 0x80) :
    Follows (Prompted w₀) (Prompted w₀) (transaction bound message consumeCredit) w := by
  refine ((sendTransaction_follows hgreeting).mono (fun _ _ _ h ↦ h.prompted)
    fun _ _ _ h ↦ .of_broken h).bind fun _ v _ ↦ ?_
  refine Follows.bind (Follows.mark (.of_isService trivial)) fun _ v' _ ↦ ?_
  exact (transactionLoop_follows _ _ _).mono (fun _ _ _ h ↦ .of_isService h.2.1)
    fun _ _ _ h ↦ .of_broken h

/-- To act on the reply of a transaction is prompted, unless it is by entering a channel. -/
theorem Prompted.of_reply {event : Event} {after : D4Link T}
    (hgreeting : consumeCredit = false → message.code = 0x00 ∨ message.code = 0x80)
    (hgrown : w₀.history <+: w.history)
    (h : transaction bound message consumeCredit w = (.ok reply, w'))
    (hevent : ∀ channel, event ≠ .registered channel) : Prompted w₀ w' event after :=
  fun _ _ ↦ ⟨heardExit_of_transaction hgreeting hgrown h,
    fun channel hregistered ↦ absurd hregistered (hevent channel)⟩

end Transaction

/-! ### Operations -/

section Operations

variable [ByteTransport T]

theorem negotiate_prompted (bound : Nat) (revisions : List ProtocolRevision)
    (hgrown : w₀.history <+: w.history) :
    Follows (Prompted w₀) (Prompted w₀) (negotiate bound revisions) w := by
  induction revisions generalizing w with
  | nil => exact Follows.throw _
  | cons revision revisions ih =>
    have hinit : Follows (Prompted w₀) (Prompted w₀) (transaction bound (.init revision) false) w :=
      transaction_prompted fun _ ↦ .inl rfl
    refine hinit.bind fun reply v hreply ↦ ?_
    split
    · split
      · exact Follows.atomic fun _ _ ↦ .of_reply (fun _ ↦ .inl rfl) hgrown hreply (by simp)
      · split
        · exact Follows.throw _
        · exact ih (hgrown.trans (hinit.path_ok hreply).isPrefix)
    · exact Follows.throw _

theorem openService_prompted (bound : Nat) (name : String) (hgrown : w₀.history <+: w.history) :
    Follows (Prompted w₀) (Prompted w₀) (openService bound name) w := by
  have hlookup : Follows (Prompted w₀) (Prompted w₀) (transaction bound (.getSocketId name) true)
      w := transaction_prompted (by simp)
  refine hlookup.bind fun reply v hreply ↦ ?_
  have hv : w₀.history <+: v.history := hgrown.trans (hlookup.path_ok hreply).isPrefix
  split
  case h_2 => exact Follows.throw _
  case h_1 result socketId returnedName =>
    refine Follows.rejectIf_bind fun haccepted ↦ ?_
    obtain rfl : result = 0 := by simpa using (not_or.1 haccepted).1
    refine Follows.bind (Follows.of_step rfl (by simp) ?_) fun _ v' hregistered ↦ ?_
    · -- the channel is entered under the socket of the reply that was taken last
      refine fun _ _ ↦ ⟨heardExit_of_transaction (by simp) hgrown hreply, ?_⟩
      rintro channel hevent
      cases hevent
      obtain ⟨u, packet, hlast, hdecode⟩ := transaction_answered hreply
      exact ⟨u, packet, returnedName, hlast, hdecode⟩
    cases hregistered
    refine (transaction_prompted (by simp)).bind fun reply v' hreply ↦ ?_
    split
    case h_2 => exact Follows.throw _
    case h_1 =>
      refine Follows.rejectIf_bind fun _ ↦ Follows.bind ?_ fun _ _ _ ↦ Follows.pure _
      exact Follows.atomic fun _ _ ↦
        .of_reply (by simp) (hv.trans (List.prefix_append _ _)) hreply (by simp)

theorem ensureCreditLoop_prompted (bound : Nat) (channel : ChannelId) (attempts : Nat)
    (hgrown : w₀.history <+: w.history) :
    Follows (Prompted w₀) (Prompted w₀) (ensureCreditLoop bound channel attempts) w := by
  induction attempts generalizing w with
  | zero => exact Follows.observe_bind (Follows.orThrow_bind fun _ _ ↦ Follows.throw _)
  | succ attempts ih =>
    refine Follows.observe_bind (Follows.orThrow_bind fun state _ ↦ ?_)
    split
    case isTrue => exact Follows.pure ()
    case isFalse =>
    have hasked : Follows (Prompted w₀) (Prompted w₀) (transaction bound
        (.creditRequest channel.peerSocket channel.sourceSocket state.maxCredit) true) w :=
      transaction_prompted (by simp)
    refine hasked.bind fun reply v hreply ↦ ?_
    have hv : w₀.history <+: v.history := hgrown.trans (hasked.path_ok hreply).isPrefix
    split
    case h_2 => exact Follows.throw _
    case h_1 result peerSocket sourceSocket addedCredit =>
      have hgrant : Follows (Prompted w₀) (Prompted w₀) (Program.atomic
          (grantEvent channel addedCredit) (grantCredit channel addedCredit)) v := by
        refine Follows.atomic fun outcome _ ↦ .of_reply (by simp) hgrown hreply fun _ ↦ ?_
        cases outcome <;> simp [grantEvent]
      refine Follows.rejectIf_bind fun _ ↦ hgrant.bind fun _ v' hgranted ↦ Follows.observe_bind ?_
      split
      · exact Follows.pure ()
      · exact ih (hv.trans (hgrant.path_ok hgranted).isPrefix)

theorem request_prompted (bound : Nat) (channel : ChannelId) (payload : List UInt8)
    (hgrown : w₀.history <+: w.history) :
    Follows (Prompted w₀) (Prompted w₀) (request bound channel payload) w := by
  refine follows_of_active fun _ ↦ ?_
  refine (ensureCreditLoop_prompted bound channel 3 hgrown).bind fun _ v _ ↦ ?_
  refine ((send_follows (by simp)).mono (fun _ _ _ h ↦ h.prompted)
    fun _ _ _ h ↦ .of_broken h).bind fun _ v _ ↦ ?_
  refine Follows.bind (Follows.mark (.of_isService trivial)) fun _ v _ ↦ ?_
  exact (requestLoop_follows _ _ _).mono (fun _ _ _ h ↦ .of_isService h.2.1)
    fun _ _ _ h ↦ .of_broken h

/-- **Every operation is prompted** wherever it acts on a reply, the steps in which it panics
included. -/
theorem perform_prompted (bound : Nat) (operation : Operation) (hgrown : w₀.history <+: w.history) :
    Follows (Prompted w₀) (Prompted w₀) (perform bound operation) w := by
  cases operation with
  | initializeLink =>
    refine Follows.bind (Follows.observe_bind ?_) fun _ _ _ ↦ Follows.pure _
    exact Follows.rejectIf_bind fun _ ↦ Follows.rejectIf_bind fun _ ↦
      negotiate_prompted bound _ hgrown
  | openService name =>
    exact (openService_prompted bound name hgrown).bind fun _ _ _ ↦ Follows.pure _
  | serviceName socketId =>
    refine Follows.bind ((transaction_prompted (by simp)).bind fun reply v _ ↦ ?_)
      fun _ _ _ ↦ Follows.pure _
    split
    · exact Follows.rejectIf_bind fun _ ↦ Follows.pure _
    · exact Follows.throw _
  | controlChannel channel =>
    exact Follows.bind (Follows.observe_bind (Follows.rejectIf _)) fun _ _ _ ↦ Follows.pure _
  | closeChannel channel =>
    refine Follows.bind ?_ fun _ _ _ ↦ Follows.pure _
    refine Follows.rejectIf_bind fun _ ↦ Follows.observe_bind (Follows.rejectIf_bind fun _ ↦ ?_)
    refine (transaction_prompted (by simp)).bind fun reply v _ ↦ ?_
    split
    · exact Follows.rejectIf_bind fun _ ↦ Follows.atomic fun _ _ ↦ .of_not id
    · exact Follows.throw _
  | exit =>
    refine Follows.bind (follows_of_active fun _ ↦ ?_) fun _ _ _ ↦ Follows.pure _
    refine Follows.bind (Follows.atomic fun _ _ ↦ .of_not id) fun _ v _ ↦ ?_
    refine (transaction_prompted (by simp)).bind fun reply v _ ↦ ?_
    split
    · split
      · exact Follows.atomic fun _ _ ↦ .of_not id
      · exact Follows.throw _
    · exact Follows.throw _
  | request channel payload =>
    exact (request_prompted bound channel payload hgrown).bind fun _ _ _ ↦ Follows.pure _

theorem runOperation_prompted (bound : Nat) (operation : Operation)
    (hgrown : w₀.history <+: w.history) :
    Trail (Prompted w₀) w (runOperation bound operation w).2 := by
  have hfollows : Follows (Prompted w₀) (Prompted w₀) (runOperation bound operation) w := by
    refine Follows.bind (Follows.mark (.of_not id)) fun _ v hcalled ↦ ?_
    cases hcalled
    exact perform_prompted bound operation (hgrown.trans (List.prefix_append _ _))
  exact hfollows.path_or.mono fun _ _ _ h ↦ h.elim id id

/-! ### Runs -/

theorem runCalls_prompted (calls : List Call) (hgrown : w₀.history <+: w.history) :
    Trail (Prompted w₀) w (runCalls calls w).2 := by
  induction calls generalizing w with
  | nil => exact .refl
  | cons call calls ih =>
    have hcall := runOperation_prompted call.bound call.operation hgrown
    by_cases hreturned : (runOperation call.bound call.operation w).1.Returned
    · rw [runCalls_returned hreturned]
      exact hcall.trans (ih (hgrown.trans hcall.isPrefix))
    · rw [runCalls_not_returned hreturned]
      exact hcall

variable {calls : List Call} {target : T}

/-- **What the peer has said** where the host acts on a reply of it: if the conversation has ended,
an `Exit`, and if a channel is entered, its socket. -/
theorem runNew_prompted {step : Step (D4Link T) Event}
    (hmem : step ∈ (runNew calls target).2.history) (hacts : step.event.ActsOnReply) :
    (step.before.conversation = .terminated →
      HeardExit (.start (D4Link.new target)) (runNew calls target).2) ∧
    ∀ channel, step.event = .registered channel → ∃ answered ∈ (runNew calls target).2.history,
      ∃ packet name, answered.event = .answered none packet ∧
        TransactionMessage.decode packet.payload answered.before.revision =
          .ok (.getSocketIdReply 0 channel.peerSocket name) := by
  obtain ⟨v, hbefore, hv⟩ := Recorded.exists_stepped hmem
  have hpresent : v.state.Present :=
    (runNew_path calls target).always (I := fun v ↦ v.state.Present)
      (fun _ _ _ hstep ↦ hstep.present) (present_new target) hv.passed
  have hprompted : Prompted (.start (D4Link.new target)) v step.event step.after :=
    (runCalls_prompted calls List.prefix_rfl).stepped hv
  obtain ⟨hheard, hnames⟩ := hprompted hpresent hacts
  obtain ⟨future, hsplit⟩ := hv
  have hearlier : v.history <+: (runNew calls target).2.history := ⟨_, hsplit.symm⟩
  refine ⟨fun hover ↦ ?_, fun channel hevent ↦ ?_⟩
  · obtain ⟨taken, htaken, htakes⟩ := hheard (hbefore ▸ hover)
    exact ⟨taken, Recorded.since_subset hearlier htaken, htakes⟩
  · obtain ⟨u, packet, name, hlast, hdecode⟩ := hnames channel hevent
    refine ⟨⟨u.state, .answered none packet, u.state⟩, hearlier.subset ?_, packet, name, rfl,
      hdecode⟩
    rw [hlast, Recorded.push_history]
    exact List.mem_append_right _ (List.mem_singleton.2 rfl)

/-- **No panic without an `Exit`.** In a run in which the peer never asks for the end of the
conversation no call panics. -/
theorem no_panic_of_not_heardExit
    (hquiet : ¬ HeardExit (.start (D4Link.new target)) (runNew calls target).2) :
    ∀ outcome ∈ (runNew calls target).1, ∀ message, outcome ≠ .panic message := by
  refine (runCalls_no_panic_iff calls (present_new target) (by simp)).2 ?_
  rintro ⟨before, event, after⟩ hmem ⟨hinstalls, hover⟩
  refine hquiet ((runNew_prompted hmem ?_).1 hover)
  cases event with
  | opened _ _ _ _ _ => exact trivial
  | granted _ _ side =>
    cases side with
    | host => rfl
    | peer => exact absurd rfl hinstalls
  | _ => exact absurd rfl hinstalls

/-- In such a run the end of the conversation is final. -/
theorem endIsFinal_of_not_heardExit
    (hquiet : ¬ HeardExit (.start (D4Link.new target)) (runNew calls target).2) :
    EndIsFinal (runNew calls target).2 := by
  refine (endIsFinal_iff_of_path (runNew_path calls target) (endIsFinal_start target)).2 ?_
  rintro ⟨before, event, after⟩ hmem ⟨hover, ⟨revision, rfl⟩ | ⟨channel, -, rfl⟩⟩
  · exact hquiet ((runNew_prompted hmem rfl).1 hover)
  · exact hquiet ((runNew_prompted hmem trivial).1 hover)

/-- **The transaction channel and socket 0.** In a run in which no reply that is taken grants socket
0 the transaction channel is left alone. -/
theorem transactionLeftAlone_of_not_granted
    (hgrants : ∀ step ∈ (runNew calls target).2.history, ∀ packet name,
      step.event = .answered none packet →
        TransactionMessage.decode packet.payload step.before.revision ≠
          .ok (.getSocketIdReply 0 0 name)) :
    TransactionLeftAlone (runNew calls target).2 := by
  refine (transactionLeftAlone_iff_of_path (runNew_path calls target)
    (transactionLeftAlone_start target)).2 ?_
  rintro ⟨before, event, after⟩ hmem rfl
  obtain ⟨answered, hanswered, packet, name, hevent, hdecode⟩ :=
    (runNew_prompted hmem trivial).2 _ rfl
  exact hgrants answered hanswered packet name hevent hdecode

end Operations

end D4Link

end Reink
