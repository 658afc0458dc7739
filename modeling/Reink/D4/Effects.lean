import Reink.D4.Operation

/-!
# Relations across the steps

What the code of the link does to its state, read off its text one block at a time. A relation
between a run and the run after one more step that holds across the writes, across the reads, and
across every step that leaves the transport alone (`Crosses`) holds step by step along whatever the
code does (`Program.Moves`): one theorem for each function, along the call graph. No invariant of
the link is needed.
-/

namespace Reink

/-- The bytes are an encoded transaction message. -/
def TransactionMessage.Encodes (payload : List UInt8) : Prop :=
  ∃ (message : TransactionMessage) (revision : ProtocolRevision),
    message.encode revision = .ok payload

/-- Labels of the steps that do not use the transport, the request for the exit apart. -/
def Event.IsInternal : Event → Prop
  | .wrote _ | .writeFailed _ | .read _ | .readFailed | .exitRequested => False
  | _ => True

namespace D4Link

open Program (Moves atomic mark)
open TransactionMessage (Encodes)

variable {T : Type} [ByteTransport T] {R : LinkRun T → LinkRun T → Prop}

/-- The relation holds across the writes of the payload, whether they succeed or not. -/
def CrossesWrite (R : LinkRun T → LinkRun T → Prop) (payload : List UInt8) : Prop :=
  ∀ (w : LinkRun T) (packet : Packet) (outcome : Outcome D4Error Unit) (after : D4Link T),
    packet.payload = payload →
      after.target = (ByteTransport.writeAll packet.encode w.state.target).2 →
        R w (w.push (writeEvent packet outcome) after)

/-- The relation holds across what the link does by itself. -/
structure Crosses (R : LinkRun T → LinkRun T → Prop) : Prop where
  message : ∀ payload, Encodes payload → CrossesWrite R payload
  read : ∀ w : LinkRun T,
    R w (w.push (readEvent (readTarget 4096 w.state).1) (readTarget 4096 w.state).2)
  internal : ∀ (w : LinkRun T) (event : Event) (after : D4Link T), event.IsInternal →
    after.target = w.state.target → R w (w.push event after)

/-! ### Blocks -/

/-- A write moves the transport by one transfer. -/
theorem writeAll_target (packet : Packet) (link : D4Link T) :
    (writeAll packet link).2.target = (ByteTransport.writeAll packet.encode link.target).2 := by
  rw [writeAll]
  rcases ByteTransport.writeAll packet.encode link.target with ⟨_ | _, target⟩ <;> rfl

/-- To take credit moves it no further. -/
theorem writeAndSpend_target (packet : Packet) (channel : ChannelId) (consumeCredit : Bool)
    (link : D4Link T) : (writeAndSpend packet channel consumeCredit link).2.target =
      (ByteTransport.writeAll packet.encode link.target).2 := by
  have htarget := writeAll_target packet link
  have hspend : Local (Program.when consumeCredit (updateChannel channel
      "channel existence was checked before writing" fun state ↦ do
        let credit ← Program.orPanic (state.credit.checkedSub 1) "attempt to subtract with overflow"
        pure { state with credit := credit }) : LinkBlock T Unit) := by
    cases consumeCredit with
    | false => exact .pure ()
    | true => exact .updateChannel fun _ ↦ .bind (.orPanic _ _) fun _ ↦ .pure _
  rw [writeAndSpend]
  rcases hrun : writeAll packet link with ⟨_ | error | message | _, link'⟩
  all_goals rw [hrun] at htarget
  case ok =>
    rw [Program.bind_run_ok hrun]
    exact (hspend link').1.target.trans htarget
  case err => rw [Program.bind_run_err hrun]; exact htarget
  case panic => rw [Program.bind_run_panic hrun]; exact htarget
  case running => rw [Program.bind_run_running hrun]; exact htarget

omit [ByteTransport T] in
/-- The decoder leaves the transport alone. -/
theorem decodeReceived_target (bytes : List UInt8) (link : D4Link T) :
    (decodeReceived bytes link).2.target = link.target := by
  rw [decodeReceived]
  rcases link.decoder.push bytes with ⟨_ | _, decoder⟩ <;> rfl

omit [ByteTransport T] in
/-- So does whatever is local to the link. -/
theorem Local.target {α : Type} {body : LinkBlock T α} (h : Local body) (link : D4Link T) :
    (body link).2.target = link.target :=
  (h link).1.target

namespace Crosses

variable (hR : Crosses R)

include hR

/-- A mark changes nothing. -/
theorem mark {event : Event} (h : event.IsInternal) :
    Moves R (Program.mark event : LinkProgram T Unit) :=
  fun w ↦ .single (hR.internal w event w.state h rfl)

/-- A block that leaves the transport alone. -/
theorem block {α : Type} {event : Outcome D4Error α → Event} {body : LinkBlock T α}
    (hevent : ∀ outcome, (event outcome).IsInternal)
    (hbody : ∀ link, (body link).2.target = link.target) : Moves R (atomic event body) :=
  fun w ↦ .single (hR.internal w _ _ (hevent _) (hbody w.state))

end Crosses

/-- A packet that takes credit of its channel. -/
theorem CrossesWrite.send {packet : Packet} {channel : ChannelId} {consumeCredit : Bool}
    (h : CrossesWrite R packet.payload) :
    Moves R (atomic (writeEvent packet) (writeAndSpend packet channel consumeCredit)) :=
  fun w ↦ .single (h w packet _ _ rfl (writeAndSpend_target _ _ _ _))

/-- A packet that takes none. -/
theorem CrossesWrite.error {packet : Packet} (h : CrossesWrite R packet.payload) :
    Moves R (atomic (writeEvent packet) (writeAll packet : LinkBlock T Unit)) :=
  fun w ↦ .single (h w packet _ _ rfl (writeAll_target _ _))

/-! ### Writing -/

omit [ByteTransport T] in
/-- A check makes no step. -/
theorem requireActiveConversation_effects :
    Moves R (requireActiveConversation : LinkProgram T Unit) := by
  refine .bind .observe fun link ↦ ?_
  cases link.conversation
  case active => exact .pure _
  all_goals exact .throw _

/-- What is sent is the payload. -/
theorem send_effects {channel : ChannelId} {payload : List UInt8} {consumeCredit : Bool}
    (h : CrossesWrite R payload) :
    Moves R (send channel payload consumeCredit : LinkProgram T Unit) := by
  refine .bind .observe fun link ↦ .bind (.when requireActiveConversation_effects) fun _ ↦ ?_
  refine .bind (.orThrow _ _) fun state ↦ .bind (.rejectIf _) fun _ ↦ .bind (.rejectIf _) fun _ ↦ ?_
  refine .bind (.rejectIf _) fun _ ↦ .ofExcept_bind fun packet hpacket ↦ ?_
  obtain rfl : packet.payload = payload := (Packet.of_new hpacket).2.2.1
  exact h.send

variable (hR : Crosses R)

include hR

/-- What is sent is an encoded message. -/
theorem sendTransaction_effects {message : TransactionMessage} {consumeCredit : Bool} :
    Moves R (sendTransaction message consumeCredit : LinkProgram T Unit) := by
  refine .bind .observe fun link ↦ .ofExcept_bind fun payload hpayload ↦ ?_
  exact .bind (.rejectIf _) fun _ ↦ send_effects (hR.message _ ⟨message, _, hpayload⟩)

/-- An error is an encoded message too. -/
theorem sendError_effects {channel : ChannelId} {errorCode : UInt8} :
    Moves R (sendError channel errorCode : LinkProgram T Unit) := by
  refine .bind .observe fun link ↦ .ofExcept_bind fun payload hpayload ↦ ?_
  refine .ofExcept_bind fun packet hpacket ↦ ?_
  obtain rfl : packet.payload = payload := (Packet.of_new hpacket).2.2.1
  exact (hR.message _ ⟨_, _, hpayload⟩).error

/-! ### Receiving -/

/-- A step is made only if there is a packet. -/
theorem popFront_effects : Moves R (popFront : LinkProgram T (Option Packet)) := by
  refine .bind .observe fun link ↦ ?_
  cases link.received with
  | nil => exact .pure _
  | cons packet rest =>
    exact .bind (hR.block (fun _ ↦ trivial) fun _ ↦ rfl) fun _ ↦ .pure _

/-- One step, on the queue. -/
theorem pushBack_effects (packet : Packet) : Moves R (pushBack packet : LinkProgram T Unit) :=
  hR.block (fun _ ↦ trivial) fun _ ↦ rfl

/-- The reads, and what is decoded of them, by induction on their bound. -/
theorem readPacket_effects (bound consecutiveEmptyReads : Nat) :
    Moves R (readPacket bound consecutiveEmptyReads : LinkProgram T Packet) := by
  induction bound generalizing consecutiveEmptyReads with
  | zero => exact .running
  | succ bound ih =>
    refine .bind (fun w ↦ .single (hR.read w)) fun bytes ↦ ?_
    split
    · split
      · exact .throw _
      · exact ih _
    · refine .bind (hR.block (fun outcome ↦ by cases outcome <;> trivial)
        (decodeReceived_target bytes)) fun _ ↦ .bind (popFront_effects hR) ?_
      rintro (_ | packet)
      · exact ih 0
      · exact .pure packet

/-- A queued packet needs no read. -/
theorem nextPacket_effects (bound : Nat) : Moves R (nextPacket bound : LinkProgram T Packet) := by
  refine .bind (popFront_effects hR) ?_
  rintro (_ | packet)
  · exact readPacket_effects hR bound 0
  · exact .pure packet

/-- An overflow is answered with an error. -/
theorem applyCredit_effects (packet : Packet) :
    Moves R (applyCredit packet : LinkProgram T Unit) := by
  refine .bind .observe fun link ↦ .bind (.orThrow _ _) fun state ↦ .bind (.rejectIf _) fun _ ↦ ?_
  split
  · exact .bind (sendError_effects hR) fun _ ↦ .throw _
  · exact hR.block (fun _ ↦ trivial)
      (Local.updateChannel fun _ ↦ .bind (.orPanic _ _) fun _ ↦ .pure _).target

/-- The answer to an opening changes no channel. -/
theorem handlePeerOpen_effects (channel : ChannelId) (maxPacketSize maxServiceSize : UInt16) :
    Moves R (handlePeerOpen channel maxPacketSize maxServiceSize : LinkProgram T Unit) := by
  refine .bind .observe fun link ↦ ?_
  split <;> exact sendTransaction_effects hR

/-- The answers to a command are transaction messages. -/
theorem handlePeerTransaction_effects (message : TransactionMessage) :
    Moves R (handlePeerTransaction message : LinkProgram T Unit) := by
  have hupdate (channel : ChannelId) (expectation : String) (f : ChannelState → ChannelState) :=
    (Local.updateChannel fun state ↦ .pure (f state) :
      Local (updateChannel channel expectation _ : LinkBlock T Unit)).target
  refine .bind .observe fun link ↦ ?_
  cases message with
  | init revision =>
    dsimp only
    split
    · exact .bind (hR.block (fun _ ↦ trivial) (Local.beginConversation revision).target)
        fun _ ↦ sendTransaction_effects hR
    · exact sendTransaction_effects hR
  | openChannel => exact handlePeerOpen_effects hR _ _ _
  | closeChannel =>
    exact .bind (sendTransaction_effects hR) fun _ ↦
      .when (hR.block (fun _ ↦ trivial) (hupdate _ _ _))
  | credit =>
    refine .bind (.orThrow _ _) fun state ↦ .bind (.orThrow _ _) fun credit ↦ ?_
    exact .bind (hR.block (fun _ ↦ trivial) (hupdate _ _ _)) fun _ ↦ sendTransaction_effects hR
  | exit =>
    refine .bind (sendTransaction_effects hR) fun _ ↦ .bind .observe fun link ↦ ?_
    split
    · exact hR.block (fun _ ↦ trivial) fun _ ↦ rfl
    · exact hR.block (fun _ ↦ trivial) Local.terminateConversation.target
  | creditRequest | getSocketId | getServiceName => exact sendTransaction_effects hR
  | error => exact .pure _
  | _ => exact .throw _

/-! ### The loops -/

/-- The loop of a transaction, by induction on its bound. -/
theorem transactionLoop_effects (expectedReply : UInt8) (readBound bound : Nat) :
    Moves R
      (transactionLoop expectedReply readBound bound : LinkProgram T TransactionMessage) := by
  induction bound with
  | zero => exact .running
  | succ bound ih =>
    refine .bind (hR.mark trivial) fun _ ↦ .bind (nextPacket_effects hR _) fun packet ↦ ?_
    split
    · refine .bind .observe fun link ↦ ?_
      split
      · exact ih
      · exact .bind (applyCredit_effects hR _) fun _ ↦ .bind (pushBack_effects hR _) fun _ ↦ ih
    · refine .bind (applyCredit_effects hR _) fun _ ↦ .bind .observe fun link ↦ ?_
      refine .ofExcept_bind fun received _ ↦ ?_
      split
      · exact .bind (handlePeerTransaction_effects hR _) fun _ ↦ ih
      split
      · exact .bind (hR.mark trivial) fun _ ↦ .pure _
      · exact .throw _

/-- The request is written before the loop. -/
theorem transaction_effects {bound : Nat} {message : TransactionMessage} {consumeCredit : Bool} :
    Moves R (transaction bound message consumeCredit : LinkProgram T TransactionMessage) :=
  .bind (sendTransaction_effects hR) fun _ ↦ .bind (hR.mark trivial) fun _ ↦
    transactionLoop_effects hR _ _ _

/-- The loop of a request, likewise. -/
theorem requestLoop_effects (channel : ChannelId) (readBound bound : Nat) :
    Moves R (requestLoop channel readBound bound : LinkProgram T (List UInt8)) := by
  induction bound with
  | zero => exact .running
  | succ bound ih =>
    refine .bind (hR.mark trivial) fun _ ↦ .bind (nextPacket_effects hR _) fun packet ↦ ?_
    split
    · refine .bind (applyCredit_effects hR _) fun _ ↦ .bind .observe fun link ↦ ?_
      refine .ofExcept_bind fun message _ ↦ ?_
      split
      · refine .bind (handlePeerTransaction_effects hR _) fun _ ↦ .bind .observe fun link ↦ ?_
        split
        · exact .throw _
        · exact ih
      · exact .throw _
    · refine .bind .observe fun link ↦ ?_
      split
      · exact ih
      refine .bind (applyCredit_effects hR _) fun _ ↦ ?_
      split
      · exact .bind (hR.mark trivial) fun _ ↦ .pure _
      · exact .bind (pushBack_effects hR _) fun _ ↦ ih

/-- The requests for credit, by induction on their number. -/
theorem ensureCreditLoop_effects (bound : Nat) (channel : ChannelId) (attempts : Nat) :
    Moves R (ensureCreditLoop bound channel attempts : LinkProgram T Unit) := by
  induction attempts with
  | zero => exact .bind .observe fun link ↦ .bind (.orThrow _ _) fun state ↦ .throw _
  | succ attempts ih =>
    refine .bind .observe fun link ↦ .bind (.orThrow _ _) fun state ↦ ?_
    split
    · exact .pure _
    refine .bind (transaction_effects hR) fun reply ↦ ?_
    split
    · refine .bind (.rejectIf _) fun _ ↦ .bind ?_ fun _ ↦ .bind .observe fun link ↦ ?_
      · exact hR.block (fun outcome ↦ by cases outcome <;> trivial)
          (Local.grantCredit channel _).target
      · split
        · exact .pure _
        · exact ih
    · exact .throw _

/-! ### The operations -/

/-- A request writes its payload, which need not be a message. -/
theorem request_effects (bound : Nat) (channel : ChannelId) {payload : List UInt8}
    (h : CrossesWrite R payload) :
    Moves R (request bound channel payload : LinkProgram T (List UInt8)) := by
  refine .bind requireActiveConversation_effects fun _ ↦ ?_
  refine .bind (ensureCreditLoop_effects hR bound channel 3) fun _ ↦ ?_
  exact .bind (send_effects h) fun _ ↦ .bind (hR.mark trivial) fun _ ↦
    requestLoop_effects hR channel bound bound

/-- One transaction for each revision that is tried. -/
theorem negotiate_effects (bound : Nat) (revisions : List ProtocolRevision) :
    Moves R (negotiate bound revisions : LinkProgram T Unit) := by
  induction revisions with
  | nil => exact .throw _
  | cons revision revisions ih =>
    refine .bind (transaction_effects hR) fun reply ↦ ?_
    split
    · split
      · exact hR.block (fun _ ↦ trivial) (Local.beginConversation _).target
      · split
        · exact .throw _
        · exact ih
    · exact .throw _

/-- The checks in front of the negotiation make no step. -/
theorem initializeLink_effects (bound : Nat) :
    Moves R (initializeLink bound : LinkProgram T Unit) :=
  .bind .observe fun _ ↦ .bind (.rejectIf _) fun _ ↦ .bind (.rejectIf _) fun _ ↦
    negotiate_effects hR bound _

/-- Two transactions, with the entry of the channel between them. -/
theorem openService_effects (bound : Nat) (name : String) :
    Moves R (openService bound name : LinkProgram T ChannelId) := by
  refine .bind (transaction_effects hR) fun reply ↦ ?_
  split
  · refine .bind (.rejectIf _) fun _ ↦ .bind (hR.block (fun _ ↦ trivial) fun _ ↦ rfl) fun _ ↦ ?_
    refine .bind (transaction_effects hR) fun reply ↦ ?_
    split
    · refine .bind (.rejectIf _) fun _ ↦ .bind ?_ fun _ ↦ .pure _
      exact hR.block (fun _ ↦ trivial) (Local.updateChannel fun _ ↦ .pure _).target
    · exact .throw _
  · exact .throw _

/-- One transaction. -/
theorem serviceName_effects (bound : Nat) (socketId : UInt8) :
    Moves R (serviceName bound socketId : LinkProgram T String) := by
  refine .bind (transaction_effects hR) fun reply ↦ ?_
  split
  · exact .bind (.rejectIf _) fun _ ↦ .pure _
  · exact .throw _

/-- One transaction, and the entry is removed. -/
theorem closeChannel_effects (bound : Nat) (channel : ChannelId) :
    Moves R (closeChannel bound channel : LinkProgram T Unit) := by
  refine .bind (.rejectIf _) fun _ ↦ .bind .observe fun link ↦ .bind (.rejectIf _) fun _ ↦ ?_
  refine .bind (transaction_effects hR) fun reply ↦ ?_
  split
  · exact .bind (.rejectIf _) fun _ ↦ hR.block (fun _ ↦ trivial) fun _ ↦ rfl
  · exact .throw _

/-- `exit` makes one step that the others do not: the request for the exit. -/
theorem exit_effects (bound : Nat) (hexit : ∀ (w : LinkRun T) (after : D4Link T),
      after.target = w.state.target → R w (w.push .exitRequested after)) :
    Moves R (D4Link.exit bound : LinkProgram T Unit) := by
  refine .bind requireActiveConversation_effects fun _ ↦ ?_
  refine .bind (fun w ↦ .single (hexit w _ rfl)) fun _ ↦ .bind (transaction_effects hR) ?_
  intro reply
  split
  · split
    · exact hR.block (fun _ ↦ trivial) Local.terminateConversation.target
    · exact .throw _
  · exact .throw _

/-- **Every operation.** Only the exit and the payload of a request are not the link's own. -/
theorem perform_effects (bound : Nat) {operation : Operation}
    (hexit : operation = .exit → ∀ (w : LinkRun T) (after : D4Link T),
      after.target = w.state.target → R w (w.push .exitRequested after))
    (hrequest : ∀ channel payload, operation = .request channel payload →
      CrossesWrite R payload) :
    Moves R (perform bound operation : LinkProgram T OperationResult) := by
  cases operation with
  | initializeLink =>
    exact .bind (initializeLink_effects hR bound) fun _ ↦ .pure _
  | openService name => exact .bind (openService_effects hR bound name) fun _ ↦ .pure _
  | serviceName socketId => exact .bind (serviceName_effects hR bound socketId) fun _ ↦ .pure _
  | controlChannel channel => exact .bind (.bind .observe fun _ ↦ .rejectIf _) fun _ ↦ .pure _
  | closeChannel channel => exact .bind (closeChannel_effects hR bound channel) fun _ ↦ .pure _
  | exit => exact .bind (exit_effects hR bound (hexit rfl)) fun _ ↦ .pure _
  | request channel payload =>
    exact .bind (request_effects hR bound channel (hrequest _ _ rfl)) fun _ ↦ .pure _

/-- A relation that holds across the writes of any payload, and across the request for the exit,
leads from the start of any run to its end. -/
theorem runCalls_effects (calls : List Call) (w : LinkRun T)
    (hexit : ∀ (w : LinkRun T) (after : D4Link T), after.target = w.state.target →
      R w (w.push .exitRequested after))
    (hwrite : ∀ payload, CrossesWrite R payload) :
    Relation.ReflTransGen R w (runCalls calls w).2 := by
  induction calls generalizing w with
  | nil => exact .refl
  | cons call calls ih =>
    have hcall : Moves R (runOperation call.bound call.operation : LinkProgram T _) :=
      .bind (hR.mark trivial) fun _ ↦
        perform_effects hR call.bound (fun _ ↦ hexit) fun _ payload _ ↦ hwrite payload
    by_cases hreturned : (runOperation call.bound call.operation w).1.Returned
    · rw [runCalls_returned hreturned]
      exact (hcall w).trans (ih _)
    · rw [runCalls_not_returned hreturned]
      exact hcall w

end D4Link

end Reink
