import Reink.D4.Transfers
import Reink.Platform.Simulation

/-!
# The link over simulated transports

The link knows of its transport what the transfers answer. Over transports that answer alike it does
the same: the same steps, the same results, and states that differ in the transport only.
-/

namespace Reink

namespace D4Link

open Program (Simulates)
open Program.Simulates (Recording)

variable {T T' : Type}

/-- Links that differ in their transports only, and these are related. -/
structure Over (S : T → T' → Prop) (link : D4Link T) (link' : D4Link T') : Prop where
  target : S link.target link'.target
  revision : link.revision = link'.revision
  decoder : link.decoder = link'.decoder
  received : link.received = link'.received
  channels : link.channels = link'.channels
  conversation : link.conversation = link'.conversation
  exitRequested : link.exitRequested = link'.exitRequested

/-- Links that differ in their transports only. -/
abbrev SameBut (link : D4Link T) (link' : D4Link T') : Prop := Over (fun _ _ ↦ True) link link'

/-- Links over related transports differ in these only. -/
theorem Over.sameBut {S : T → T' → Prop} {link : D4Link T} {link' : D4Link T'}
    (h : Over S link link') : SameBut link link' :=
  ⟨trivial, h.revision, h.decoder, h.received, h.channels, h.conversation, h.exitRequested⟩

/-- For each link there is one over a transport of the other type. -/
theorem exists_sameBut [Nonempty T'] (link : D4Link T) : ∃ link' : D4Link T', SameBut link link' :=
  ⟨⟨Classical.ofNonempty, link.revision, link.decoder, link.received, link.channels,
    link.conversation, link.exitRequested⟩, trivial, rfl, rfl, rfl, rfl, rfl, rfl⟩

/-- New links over related transports. -/
theorem Over.new {S : T → T' → Prop} {t : T} {t' : T'} (h : S t t') : Over S (new t) (new t') :=
  ⟨h, rfl, rfl, rfl, rfl, rfl, rfl⟩

/-- An entry of the table is set in both. -/
theorem Over.setChannel {S : T → T' → Prop} {link : D4Link T} {link' : D4Link T'}
    (h : Over S link link') (channel : ChannelId) (state : ChannelState) :
    Over S (link.setChannel channel state) (link'.setChannel channel state) := by
  refine ⟨h.target, h.revision, h.decoder, h.received, ?_, h.conversation, h.exitRequested⟩
  show Function.update _ _ _ = Function.update _ _ _
  rw [h.channels]

/-! ### Blocks of code -/

/-- Blocks of code on the two links. -/
abbrev Alongside {α : Type} (S : T → T' → Prop) (A : T → Prop) (body : LinkBlock T α)
    (body' : LinkBlock T' α) : Prop :=
  Simulates (Over S) (fun link ↦ A link.target) body body'


section Blocks

variable {S : T → T' → Prop} {A : T → Prop}

section Local

variable [Nonempty T']

/-- The update of an entry reads the table, which is the same in both. -/
theorem updateChannel_alongside {channel : ChannelId} {expectation : String}
    {f : ChannelState → LinkBlock T ChannelState} {f' : ChannelState → LinkBlock T' ChannelState}
    (hf : ∀ state, Alongside S A (f state) (f' state)) :
    Alongside S A (updateChannel channel expectation f)
      (updateChannel channel expectation f') := by
  refine .get_bind exists_sameBut (fun _ _ h ↦ h.sameBut) fun link link' h ↦ ?_
  rw [h.channels]
  refine .bind (.orPanic _ _) fun state ↦ .bind (hf state) fun state ↦ ?_
  exact .modify (fun _ h ↦ h) fun _ _ h ↦ h.setChannel channel state

/-- An update that cannot fail. -/
theorem transactionChannelMut_alongside (f : ChannelState → ChannelState) :
    Alongside S A (transactionChannelMut f) (transactionChannelMut f) :=
  updateChannel_alongside fun _ ↦ .pure _

/-- The start of the conversation: revision, credit and state. -/
theorem beginConversation_alongside (revision : ProtocolRevision) :
    Alongside S A (beginConversation revision) (beginConversation revision) := by
  refine .bind (.modify (fun _ h ↦ h) fun _ _ h ↦ ?_) fun _ ↦
    .bind (transactionChannelMut_alongside _) fun _ ↦ .modify (fun _ h ↦ h) fun _ _ h ↦ ?_
  · exact { h with revision := rfl }
  · exact { h with conversation := rfl }

/-- The end of the conversation empties the table. -/
theorem terminateConversation_alongside :
    Alongside S A terminateConversation terminateConversation := by
  refine .bind (.modify (fun _ h ↦ h) fun _ _ h ↦ ?_) fun _ ↦
    .bind (transactionChannelMut_alongside _) fun _ ↦ .modify (fun _ h ↦ h) fun _ _ h ↦ ?_
  · refine { h with channels := ?_ }
    dsimp only
    rw [h.channels]
  · exact { h with conversation := rfl }

/-- A grant fails on the same sums. -/
theorem grantCredit_alongside (channel : ChannelId) (addedCredit : UInt16) :
    Alongside S A (grantCredit channel addedCredit) (grantCredit channel addedCredit) :=
  updateChannel_alongside fun _ ↦ .bind (.orThrow _ _) fun _ ↦ .pure _

end Local

/-- The decoder works on the bytes alone. -/
theorem decodeReceived_alongside (bytes : List UInt8) :
    Alongside S A (decodeReceived bytes) (decodeReceived bytes) := by
  refine ⟨fun link h ↦ ?_, fun link link' h _ ↦ ?_⟩
  · rw [decodeReceived] at h
    rcases hpush : link.decoder.push bytes with ⟨_ | _, decoder⟩ <;> rw [hpush] at h <;> exact h
  · rw [decodeReceived, decodeReceived, ← h.decoder]
    rcases link.decoder.push bytes with ⟨error | packets, decoder⟩
    · exact ⟨rfl, { h with decoder := rfl }⟩
    · refine ⟨rfl, { h with decoder := rfl, received := ?_ }⟩
      dsimp only
      rw [h.received]

variable [ByteTransport T] [ByteTransport T'] (hS : TransportSimulation S A)

include hS

/-- A write is one transfer. -/
theorem writeAll_alongside (packet : Packet) :
    Alongside S A (writeAll packet) (writeAll packet) := by
  refine ⟨fun link h ↦ hS.allowed_write packet.encode link.target ?_, fun link link' h hA ↦ ?_⟩
  · rw [writeAll] at h
    rcases hrun : ByteTransport.writeAll packet.encode link.target with ⟨_ | _, t⟩ <;>
      rw [hrun] at h <;> exact h
  · rw [writeAll] at hA ⊢
    rw [writeAll]
    have hwrite := hS.write packet.encode _ _ h.target
    rcases hrun : ByteTransport.writeAll packet.encode link.target with ⟨_ | _, t⟩ <;>
      rcases hrun' : ByteTransport.writeAll packet.encode link'.target with ⟨r', t'⟩ <;>
      rw [hrun] at hA <;> rw [hrun, hrun'] at hwrite <;> obtain ⟨hresult, ht⟩ := hwrite hA <;>
      cases hresult <;> exact ⟨rfl, { h with target := ht }⟩

/-- A write, and the credit that it takes. -/
theorem writeAndSpend_alongside [Nonempty T'] (packet : Packet) (channel : ChannelId)
    (consumeCredit : Bool) :
    Alongside S A (writeAndSpend packet channel consumeCredit)
      (writeAndSpend packet channel consumeCredit) :=
  .bind (writeAll_alongside hS packet) fun _ ↦
    .when (updateChannel_alongside fun _ ↦ .bind (.orPanic _ _) fun _ ↦ .pure _)

/-- A read is one transfer. It asks for some bytes. -/
theorem readTarget_alongside {size : Nat} (hsize : 0 < size) :
    Alongside S A (readTarget size) (readTarget size) := by
  refine ⟨fun link h ↦ hS.allowed_read size link.target ?_, fun link link' h hA ↦ ?_⟩
  · rw [readTarget] at h
    rcases hrun : ByteTransport.read size link.target with ⟨_ | _, t⟩ <;>
      rw [hrun] at h <;> exact h
  · rw [readTarget] at hA ⊢
    rw [readTarget]
    have hread := hS.read size _ _ hsize h.target
    rcases hrun : ByteTransport.read size link.target with ⟨_ | _, t⟩ <;>
      rcases hrun' : ByteTransport.read size link'.target with ⟨r', t'⟩ <;>
      rw [hrun] at hA <;> rw [hrun, hrun'] at hread <;> obtain ⟨hresult, ht⟩ := hread hA <;>
      cases hresult <;> exact ⟨rfl, { h with target := ht }⟩


end Blocks

/-! ### The code of the link -/

/-- Programs on the two links. -/
abbrev Follow {α : Type} (S : T → T' → Prop) (A : T → Prop) (I : LinkRun T' → Prop)
    (m : LinkProgram T α) (m' : LinkProgram T' α) : Prop :=
  Recording (Over S) (fun link ↦ A link.target) I m m'

section Code

variable {S : T → T' → Prop} {A : T → Prop} {I : LinkRun T' → Prop} [Nonempty T']

/-- Code depends on all but the transport. -/
theorem observe_follow {α : Type} {f : D4Link T → LinkProgram T α}
    {f' : D4Link T' → LinkProgram T' α}
    (hf : ∀ link link', SameBut link link' → Follow S A I (f link) (f' link')) :
    Follow S A I (Program.observe >>= f) (Program.observe >>= f') :=
  .observe_bind exists_sameBut (fun _ _ h ↦ h.sameBut) hf

/-- The check for an active conversation. -/
theorem requireActiveConversation_follow :
    Follow S A I requireActiveConversation requireActiveConversation := by
  refine observe_follow fun link link' h ↦ ?_
  rw [h.conversation]
  split
  · exact .pure ()
  all_goals exact .throw _

/-- The check for an open channel. -/
theorem controlChannel_follow (channel : ChannelId) :
    Follow S A I (controlChannel channel) (controlChannel channel) := by
  refine observe_follow fun link link' h ↦ ?_
  rw [h.channels]
  exact .rejectIf _

variable [ByteTransport T] [ByteTransport T'] (hS : TransportSimulation S A) (hI : Accounts I)

include hI

omit [ByteTransport T] [Nonempty T'] in
/-- A block that leaves the transports alone. -/
theorem atomic_follow {α : Type} {event : Outcome D4Error α → Event} {body : LinkBlock T α}
    {body' : LinkBlock T' α} (h : Alongside S A body body')
    (hevent : ∀ outcome, ¬ (event outcome).IsTransfer)
    (hbody : ∀ link, (body' link).2.target = link.target) :
    Follow S A I (Program.atomic event body) (Program.atomic event body') :=
  .atomic h (hI.block hevent hbody)

omit [ByteTransport T] in
/-- A packet is taken off both queues. -/
theorem popFront_follow : Follow S A I popFront popFront := by
  refine observe_follow fun link link' h ↦ ?_
  rw [h.received]
  split
  · exact .pure none
  · refine .bind (atomic_follow hI (.modify (fun _ h ↦ h) fun _ _ h ↦ ?_) (fun _ ↦ id)
      fun _ ↦ rfl) fun _ ↦ .pure _
    exact { h with received := rfl }

omit [ByteTransport T] [Nonempty T'] in
/-- A packet is put back into both queues. -/
theorem pushBack_follow (packet : Packet) : Follow S A I (pushBack packet) (pushBack packet) := by
  refine atomic_follow hI (.modify (fun _ h ↦ h) fun _ _ h ↦ ?_) (fun _ ↦ id) fun _ ↦ rfl
  refine { h with received := ?_ }
  dsimp only
  rw [h.received]

include hS

/-- The checks of a packet read the link, and then it is written. -/
theorem send_follow (channel : ChannelId) (payload : List UInt8) (consumeCredit : Bool) :
    Follow S A I (send channel payload consumeCredit) (send channel payload consumeCredit) := by
  refine observe_follow fun link link' h ↦ ?_
  rw [h.conversation, h.channels]
  refine .bind (.when requireActiveConversation_follow) fun _ ↦ .bind (.orThrow _ _) fun state ↦ ?_
  refine .bind (.rejectIf _) fun _ ↦ .bind (.rejectIf _) fun _ ↦ .bind (.rejectIf _) fun _ ↦ ?_
  refine .bind (.ofExcept _ _) fun packet ↦ ?_
  exact .atomic (writeAndSpend_alongside hS packet channel consumeCredit) (hI.spent _ _ _)

/-- A message is encoded for the revision, which is the same in both. -/
theorem sendTransaction_follow (message : TransactionMessage) (consumeCredit : Bool) :
    Follow S A I (sendTransaction message consumeCredit)
      (sendTransaction message consumeCredit) := by
  refine observe_follow fun link link' h ↦ ?_
  rw [h.revision]
  exact .bind (.ofExcept _ _) fun payload ↦ .bind (.rejectIf _) fun _ ↦ send_follow hS hI _ _ _

/-- So is an error. -/
theorem sendError_follow (channel : ChannelId) (errorCode : UInt8) :
    Follow S A I (sendError channel errorCode) (sendError channel errorCode) := by
  refine observe_follow fun link link' h ↦ ?_
  rw [h.revision]
  exact .bind (.ofExcept _ _) fun payload ↦ .bind (.ofExcept _ _) fun packet ↦
    .atomic (writeAll_alongside hS packet) (hI.written packet)

/-- The reads of `next_packet`, by induction on their bound. -/
theorem readPacket_follow (bound empties : Nat) :
    Follow S A I (readPacket bound empties) (readPacket bound empties) := by
  induction bound generalizing empties with
  | zero => exact .running
  | succ bound ih =>
    refine .bind (.atomic (readTarget_alongside hS (by decide)) hI.readFrom) fun bytes ↦ ?_
    split
    · split
      · exact .throw _
      · exact ih _
    · refine .bind (atomic_follow hI (decodeReceived_alongside bytes) ?_
        (decodeReceived_target bytes)) fun _ ↦ .bind (popFront_follow hI) fun popped ↦ ?_
      · rintro (_ | _ | _ | _) <;> exact id
      split
      · exact .pure _
      · exact ih _

/-- A packet comes from the queue, or from the transport. -/
theorem nextPacket_follow (bound : Nat) : Follow S A I (nextPacket bound) (nextPacket bound) := by
  refine .bind (popFront_follow hI) fun popped ↦ ?_
  split
  · exact .pure _
  · exact readPacket_follow hS hI _ _

/-- The credit of a header is added, or the overflow is answered. -/
theorem applyCredit_follow (packet : Packet) :
    Follow S A I (applyCredit packet) (applyCredit packet) := by
  refine observe_follow fun link link' h ↦ ?_
  rw [h.channels]
  refine .bind (.orThrow _ _) fun state ↦ .bind (.rejectIf _) fun _ ↦ ?_
  split
  · exact .bind (sendError_follow hS hI _ _) fun _ ↦ .throw _
  · exact atomic_follow hI (updateChannel_alongside fun _ ↦ .bind (.orPanic _ _) fun _ ↦ .pure _)
      (fun _ ↦ id) (Local.updateChannel fun _ ↦ .bind (.orPanic _ _) fun _ ↦ .pure _).target

/-- The commands of the peer, one by one. -/
theorem handlePeerTransaction_follow (message : TransactionMessage) :
    Follow S A I (handlePeerTransaction message) (handlePeerTransaction message) := by
  have hupdate (channel : ChannelId) (expectation : String) (f : ChannelState → ChannelState) :=
    (Local.updateChannel fun state ↦ .pure (f state) :
      Local (updateChannel channel expectation _ : LinkBlock T' Unit)).target
  refine observe_follow fun link link' h ↦ ?_
  cases message with
  | init revision =>
    dsimp only
    rw [h.conversation, h.revision]
    split
    · exact .bind (atomic_follow hI (beginConversation_alongside revision) (fun _ ↦ id)
        (Local.beginConversation revision).target) fun _ ↦ sendTransaction_follow hS hI _ _
    · exact sendTransaction_follow hS hI _ _
  | openChannel peerSocket sourceSocket maxPacketSize maxServiceSize _ _ =>
    refine observe_follow fun link link' h ↦ ?_
    rw [h.channels]
    split
    · exact sendTransaction_follow hS hI _ _
    · exact sendTransaction_follow hS hI _ _
  | closeChannel peerSocket sourceSocket =>
    dsimp only
    rw [h.channels]
    refine .bind (sendTransaction_follow hS hI _ _) fun _ ↦ .when ?_
    exact atomic_follow hI (updateChannel_alongside fun _ ↦ .pure _) (fun _ ↦ id) (hupdate _ _ _)
  | credit peerSocket sourceSocket addedCredit =>
    dsimp only
    rw [h.channels]
    refine .bind (.orThrow _ _) fun state ↦ .bind (.orThrow _ _) fun credit ↦ ?_
    exact .bind (atomic_follow hI (updateChannel_alongside fun _ ↦ .pure _) (fun _ ↦ id)
      (hupdate _ _ _)) fun _ ↦ sendTransaction_follow hS hI _ _
  | exit =>
    refine .bind (sendTransaction_follow hS hI _ _) fun _ ↦ observe_follow fun link link' h ↦ ?_
    rw [h.exitRequested]
    split
    · refine atomic_follow hI (.modify (fun _ h ↦ h) fun _ _ h ↦ ?_) (fun _ ↦ id) fun _ ↦ rfl
      exact { h with conversation := rfl }
    · exact atomic_follow hI terminateConversation_alongside (fun _ ↦ id)
        Local.terminateConversation.target
  | creditRequest _ _ _ | getSocketId _ | getServiceName _ => exact sendTransaction_follow hS hI _ _
  | error _ _ _ => exact .pure ()
  | _ => exact .throw _

/-- The loop of a transaction, by induction on its bound. -/
theorem transactionLoop_follow (expectedReply : UInt8) (readBound bound : Nat) :
    Follow S A I (transactionLoop expectedReply readBound bound)
      (transactionLoop expectedReply readBound bound) := by
  induction bound with
  | zero => exact .running
  | succ bound ih =>
    refine .bind (.mark (hI.mark id)) fun _ ↦
      .bind (nextPacket_follow hS hI readBound) fun packet ↦ ?_
    split
    · refine observe_follow fun link link' h ↦ ?_
      rw [h.conversation]
      split
      · exact ih
      · exact .bind (applyCredit_follow hS hI packet) fun _ ↦
          .bind (pushBack_follow hI packet) fun _ ↦ ih
    · refine .bind (applyCredit_follow hS hI packet) fun _ ↦ observe_follow fun link link' h ↦ ?_
      rw [h.revision]
      refine .bind (.ofExcept _ _) fun received ↦ ?_
      split
      · exact .bind (handlePeerTransaction_follow hS hI received) fun _ ↦ ih
      · split
        · exact .bind (.mark (hI.mark id)) fun _ ↦ .pure _
        · exact .throw _

/-- The loop of a request, likewise. -/
theorem requestLoop_follow (channel : ChannelId) (readBound bound : Nat) :
    Follow S A I (requestLoop channel readBound bound) (requestLoop channel readBound bound) := by
  induction bound with
  | zero => exact .running
  | succ bound ih =>
    refine .bind (.mark (hI.mark id)) fun _ ↦
      .bind (nextPacket_follow hS hI readBound) fun packet ↦ ?_
    split
    · refine .bind (applyCredit_follow hS hI packet) fun _ ↦ observe_follow fun link link' h ↦ ?_
      rw [h.revision]
      refine .bind (.ofExcept _ _) fun message ↦ ?_
      split
      · refine .bind (handlePeerTransaction_follow hS hI message) fun _ ↦
          observe_follow fun link link' h ↦ ?_
        rw [h.conversation]
        split
        · exact .throw _
        · exact ih
      · exact .throw _
    · refine observe_follow fun link link' h ↦ ?_
      rw [h.conversation]
      split
      · exact ih
      · refine .bind (applyCredit_follow hS hI packet) fun _ ↦ ?_
        split
        · exact .bind (.mark (hI.mark id)) fun _ ↦ .pure packet.payload
        · exact .bind (pushBack_follow hI packet) fun _ ↦ ih

/-- A message is sent, and the loop waits for its reply. -/
theorem transaction_follow (bound : Nat) (message : TransactionMessage) (consumeCredit : Bool) :
    Follow S A I (transaction bound message consumeCredit)
      (transaction bound message consumeCredit) :=
  .bind (sendTransaction_follow hS hI _ _) fun _ ↦ .bind (.mark (hI.mark id)) fun _ ↦
    transactionLoop_follow hS hI _ _ _

/-- The revisions are tried in order. -/
theorem negotiate_follow (bound : Nat) (revisions : List ProtocolRevision) :
    Follow S A I (negotiate bound revisions) (negotiate bound revisions) := by
  induction revisions with
  | nil => exact .throw _
  | cons revision revisions ih =>
    refine .bind (transaction_follow hS hI _ _ _) fun reply ↦ ?_
    split
    · split
      · exact atomic_follow hI (beginConversation_alongside _) (fun _ ↦ id)
          (Local.beginConversation _).target
      · split
        · exact .throw _
        · exact ih
    · exact .throw _

/-- Credit is asked for until there is some. -/
theorem ensureCreditLoop_follow (bound : Nat) (channel : ChannelId) (attempts : Nat) :
    Follow S A I (ensureCreditLoop bound channel attempts)
      (ensureCreditLoop bound channel attempts) := by
  induction attempts with
  | zero =>
    refine observe_follow fun link link' h ↦ ?_
    rw [h.channels]
    exact .bind (.orThrow _ _) fun _ ↦ .throw _
  | succ attempts ih =>
    refine observe_follow fun link link' h ↦ ?_
    rw [h.channels]
    refine .bind (.orThrow _ _) fun state ↦ ?_
    split
    · exact .pure ()
    refine .bind (transaction_follow hS hI _ _ _) fun reply ↦ ?_
    split
    · refine .bind (.rejectIf _) fun _ ↦ .bind (atomic_follow hI (grantCredit_alongside _ _) ?_
        (Local.grantCredit channel _).target) fun _ ↦ ?_
      · rintro (_ | _ | _ | _) <;> exact id
      refine observe_follow fun link link' h ↦ ?_
      rw [h.channels]
      split
      · exact .pure ()
      · exact ih
    · exact .throw _

/-- The start of the conversation. -/
theorem initializeLink_follow (bound : Nat) :
    Follow S A I (initializeLink bound) (initializeLink bound) := by
  refine observe_follow fun link link' h ↦ ?_
  rw [h.conversation]
  exact .bind (.rejectIf _) fun _ ↦ .bind (.rejectIf _) fun _ ↦ negotiate_follow hS hI _ _

/-- The lookup of a service and its opening. -/
theorem openService_follow (bound : Nat) (name : String) :
    Follow S A I (openService bound name) (openService bound name) := by
  refine .bind (transaction_follow hS hI _ _ _) fun reply ↦ ?_
  split
  · refine .bind (.rejectIf _) fun _ ↦ .bind (atomic_follow hI (.modify (fun _ h ↦ h) ?_)
      (fun _ ↦ id) fun _ ↦ rfl) fun _ ↦ ?_
    · exact fun _ _ h ↦ h.setChannel _ _
    refine .bind (transaction_follow hS hI _ _ _) fun reply ↦ ?_
    split
    · exact .bind (.rejectIf _) fun _ ↦
        .bind (atomic_follow hI (updateChannel_alongside fun _ ↦ .pure _) (fun _ ↦ id)
          (Local.updateChannel fun _ ↦ .pure _).target) fun _ ↦ .pure _
    · exact .throw _
  · exact .throw _

/-- The lookup of a name. -/
theorem serviceName_follow (bound : Nat) (socketId : UInt8) :
    Follow S A I (serviceName bound socketId) (serviceName bound socketId) := by
  refine .bind (transaction_follow hS hI _ _ _) fun reply ↦ ?_
  split
  · exact .bind (.rejectIf _) fun _ ↦ .pure _
  · exact .throw _

/-- The end of a channel. -/
theorem closeChannel_follow (bound : Nat) (channel : ChannelId) :
    Follow S A I (closeChannel bound channel) (closeChannel bound channel) := by
  refine .bind (.rejectIf _) fun _ ↦ observe_follow fun link link' h ↦ ?_
  rw [h.channels]
  refine .bind (.rejectIf _) fun _ ↦ .bind (transaction_follow hS hI _ _ _) fun reply ↦ ?_
  split
  · refine .bind (.rejectIf _) fun _ ↦
      atomic_follow hI (.modify (fun _ h ↦ h) fun _ _ h ↦ ?_) (fun _ ↦ id) fun _ ↦ rfl
    refine { h with channels := ?_ }
    dsimp only
    rw [h.channels]
  · exact .throw _

/-- The request for the exit, and the exit. -/
theorem exit_follow (bound : Nat) : Follow S A I (exit bound) (exit bound) := by
  refine .bind requireActiveConversation_follow fun _ ↦ ?_
  refine .bind (atomic_follow hI (.modify (fun _ h ↦ h) fun _ _ h ↦ ?_) (fun _ ↦ id)
    fun _ ↦ rfl) fun _ ↦ ?_
  · exact { h with exitRequested := rfl }
  refine .bind (transaction_follow hS hI _ _ _) fun reply ↦ ?_
  split
  · split
    · exact atomic_follow hI terminateConversation_alongside (fun _ ↦ id)
        Local.terminateConversation.target
    · exact .throw _
  · exact .throw _

/-- A request makes sure of its credit, and waits for the answer. -/
theorem request_follow (bound : Nat) (channel : ChannelId) (payload : List UInt8) :
    Follow S A I (request bound channel payload) (request bound channel payload) :=
  .bind requireActiveConversation_follow fun _ ↦
    .bind (ensureCreditLoop_follow hS hI _ _ _) fun _ ↦
      .bind (send_follow hS hI _ _ _) fun _ ↦
        .bind (.mark (hI.mark id)) fun _ ↦ requestLoop_follow hS hI _ _ _

/-- **Every operation of the link** does the same over transports that answer alike. -/
theorem runOperation_follow (bound : Nat) (operation : Operation) :
    Follow S A I (runOperation bound operation) (runOperation bound operation) := by
  refine .bind (.mark (hI.mark id)) fun _ ↦ ?_
  cases operation with
  | initializeLink => exact .bind (initializeLink_follow hS hI bound) fun _ ↦ .pure _
  | openService name => exact .bind (openService_follow hS hI bound name) fun _ ↦ .pure _
  | serviceName socketId => exact .bind (serviceName_follow hS hI bound socketId) fun _ ↦ .pure _
  | controlChannel channel => exact .bind (controlChannel_follow channel) fun _ ↦ .pure _
  | closeChannel channel => exact .bind (closeChannel_follow hS hI bound channel) fun _ ↦ .pure _
  | exit => exact .bind (exit_follow hS hI bound) fun _ ↦ .pure _
  | request channel payload =>
    exact .bind (request_follow hS hI bound channel payload) fun _ ↦ .pure _

/-! ### Runs -/

omit hI in
/-- What is allowed behind a run was allowed in front of it. -/
theorem allowed_of_runCalls {calls : List Call} {w : LinkRun T}
    (h : A (runCalls calls w).2.state.target) : A w.state.target := by
  induction calls generalizing w with
  | nil => exact h
  | cons call calls ih =>
    refine (runOperation_follow hS accounts_true call.bound call.operation).allowed w ?_
    by_cases hreturned : (runOperation call.bound call.operation w).1.Returned
    · rw [runCalls_returned hreturned] at h
      exact ih h
    · rw [runCalls_not_returned hreturned] at h
      exact h

/-- **Every run** does the same over transports that answer alike. -/
theorem runCalls_beside (calls : List Call) {w : LinkRun T} {v : LinkRun T'}
    (h : Recorded.Beside (Over S) I w v) (hA : A (runCalls calls w).2.state.target) :
    (runCalls calls w).1 = (runCalls calls v).1 ∧
      Recorded.Beside (Over S) I (runCalls calls w).2 (runCalls calls v).2 := by
  induction calls generalizing w v with
  | nil => exact ⟨rfl, h⟩
  | cons call calls ih =>
    have hcall := (runOperation_follow hS hI call.bound call.operation).alike w v h
    by_cases hreturned : (runOperation call.bound call.operation w).1.Returned
    · rw [runCalls_returned hreturned] at hA ⊢
      obtain ⟨houtcome, hbeside⟩ := hcall (allowed_of_runCalls hS hA)
      rw [runCalls_returned (houtcome ▸ hreturned), houtcome]
      obtain ⟨houtcomes, hend⟩ := ih hbeside hA
      exact ⟨congrArg _ houtcomes, hend⟩
    · rw [runCalls_not_returned hreturned] at hA ⊢
      obtain ⟨houtcome, hbeside⟩ := hcall hA
      rw [runCalls_not_returned (houtcome ▸ hreturned), houtcome]
      exact ⟨rfl, hbeside⟩

end Code

end D4Link

end Reink
