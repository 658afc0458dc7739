import Mathlib.Logic.Function.Basic
import Reink.D4.Packet
import Reink.D4.Transaction
import Reink.Library.Recorded
import Reink.Platform.Transport

/-!
# The IEEE 1284.4 link

`D4Link` with every operation of the source: the receive loops of `transaction` and `request`, the
commands the peer may send at any moment, the credit accounts, and the conversation state. The
transport is arbitrary.

The link runs as a recording program: a block of the source that changes the link is one `atomic`
step with a label (`Event`). The labels are read by no code. They are what the results about runs
speak of: which packets were taken, put back or written, what credit was granted, which reply a
loop was waiting for.

An assertion of the source (`expect`, and arithmetic that a checked build traps) is `Program.panic`
with the text of the source. A receive loop takes the number of its iterations as a bound, and so
does the read loop of `next_packet`; a call whose bound is used up is `running`.
-/

namespace Reink

/-- The empty reads after which the stream counts as ended. -/
def maxConsecutiveEmptyReads : Nat := 7

/-- A channel, by the sockets of both sides. -/
structure ChannelId where
  peerSocket : UInt8
  sourceSocket : UInt8
deriving DecidableEq, Repr

namespace ChannelId

/-- The channel that carries the transaction messages. -/
def transaction : ChannelId := ⟨0, 0⟩

/-- The derived debug text. -/
def debug (channel : ChannelId) : String :=
  "ChannelId \x7b peer_socket: " ++ toString channel.peerSocket.toNat ++
    ", source_socket: " ++ toString channel.sourceSocket.toNat ++ " \x7d"

end ChannelId

/-- The channel a packet travels on. -/
def Packet.channel (packet : Packet) : ChannelId :=
  ⟨packet.header.peerSocket, packet.header.sourceSocket⟩

/-- The entry of a channel in the table. -/
structure ChannelState where
  name : String
  credit : UInt16
  maxPacketSize : UInt16
  maxServiceSize : UInt16
  maxCredit : UInt16
  isOpen : Bool
deriving DecidableEq, Repr

/-- How far the conversation is. -/
inductive ConversationState where
  | inactive
  | active
  | exiting
  | terminated
deriving DecidableEq, Repr

/-- Why an operation of the link has failed. -/
inductive D4Error where
  | transport (error : TransportError)
  | packet (error : PacketError)
  | transaction (error : TransactionParseError)
  | unknownChannel (channel : ChannelId)
  | insufficientCredit (channel : ChannelId) (name : String)
  | unexpectedEof
  | unexpectedTransactionReply
  | conversationInactive
  | conversationAlreadyActive
  | conversationExiting
  | conversationTerminated
  | transactionChannelOperation
  | deviceRejected (result : UInt8)
  | negotiationFailed
  | creditOverflow (channel : ChannelId)
  | transactionPayloadTooLarge (actual : Nat)
  | packetExceedsNegotiatedSize (channel : ChannelId) (actual : Nat) (maximum : UInt16)
deriving DecidableEq, Repr

/-- The displayed text of a link failure. -/
def D4Error.display : D4Error → String
  | transport error => "transport error: " ++ error.display
  | packet error => "packet error: " ++ error.display
  | transaction error => "transaction error: " ++ error.display
  | unknownChannel channel => "unknown channel " ++ channel.debug
  | insufficientCredit _ name => "insufficient credit for " ++ name
  | unexpectedEof => "unexpected end of transport stream"
  | unexpectedTransactionReply => "unexpected transaction reply"
  | conversationInactive => "IEEE 1284.4 conversation is not active"
  | conversationAlreadyActive => "IEEE 1284.4 conversation is already active"
  | conversationExiting => "IEEE 1284.4 conversation is exiting"
  | conversationTerminated => "IEEE 1284.4 conversation is terminated"
  | transactionChannelOperation => "the IEEE 1284.4 transaction channel cannot be closed"
  | deviceRejected result => "device rejected transaction: " ++ Text.hexadecimal 4 result.toNat
  | negotiationFailed => "IEEE 1284.4 revision negotiation failed"
  | creditOverflow channel => "credit overflow for channel " ++ channel.debug
  | transactionPayloadTooLarge actual =>
    "transaction payload exceeds 58 bytes: " ++ toString actual
  | packetExceedsNegotiatedSize channel actual maximum =>
    "packet on channel " ++ channel.debug ++ " is " ++ toString actual ++
      " bytes, exceeding negotiated maximum " ++ toString maximum.toNat

/-- A blocking IEEE 1284.4 link over any platform byte transport. The channel table is the finite
map of the source as the function that looks a channel up. -/
structure D4Link (T : Type) where
  target : T
  revision : ProtocolRevision
  decoder : PacketDecoder
  received : List Packet
  channels : ChannelId → Option ChannelState
  conversation : ConversationState
  exitRequested : Bool

/-- Who makes a change that either side can make. -/
inductive Side where
  | host
  | peer
deriving DecidableEq, Repr

/-- The calls a client of the link can make. -/
inductive Operation where
  | initializeLink
  | openService (serviceName : String)
  | serviceName (socketId : UInt8)
  | controlChannel (channel : ChannelId)
  | closeChannel (channel : ChannelId)
  | exit
  | request (channel : ChannelId) (payload : List UInt8)
deriving DecidableEq, Repr

/-- The labels of the recorded steps. -/
inductive Event where
  /-- A public operation is called. -/
  | called (operation : Operation)
  /-- A receive loop starts: `transaction` waits for a reply (`none`), `request` for data. -/
  | awaiting (channel : Option ChannelId)
  /-- An iteration of that loop is about to take the next packet. -/
  | polled (channel : Option ChannelId)
  /-- The loop has taken the packet it was waiting for. -/
  | answered (channel : Option ChannelId) (packet : Packet)
  /-- A read gave these bytes. -/
  | read (bytes : List UInt8)
  | readFailed
  /-- The bytes just read completed these packets, now at the back of the received queue. -/
  | decoded (packets : List Packet)
  | decodeFailed
  /-- The packet was taken from the front of the received queue. -/
  | took (packet : Packet)
  /-- The packet was put back at the end of the received queue. -/
  | putBack (packet : Packet)
  /-- The header credit of the packet was added to its channel. -/
  | credited (packet : Packet)
  | wrote (packet : Packet)
  | writeFailed (packet : Packet)
  /-- The conversation became active, its transaction credit one. -/
  | activated (revision : ProtocolRevision) (side : Side)
  /-- The channel entered the table, not yet open. -/
  | registered (channel : ChannelId)
  | opened (channel : ChannelId) (maxPacketSize maxServiceSize maxCredit grantedCredit : UInt16)
  /-- Credit beside that of packet headers: asked for by the host or sent by the peer. -/
  | granted (channel : ChannelId) (addedCredit : UInt16) (side : Side)
  | refused (channel : ChannelId)
  | closed (channel : ChannelId) (side : Side)
  | exitRequested
  | exiting
  | terminated
deriving DecidableEq, Repr

/-- A block of code on the link. -/
abbrev LinkBlock (T α : Type) : Type := Program (D4Link T) D4Error α

/-- A link together with the steps it has made. -/
abbrev LinkRun (T : Type) : Type := Recorded (D4Link T) Event

/-- Code on the link. -/
abbrev LinkProgram (T α : Type) : Type := Program (LinkRun T) D4Error α

namespace D4Link

variable {T : Type}

open Program (observe atomic mark)

/-- A link over the transport, with the transaction channel only. -/
def new (target : T) : D4Link T where
  target := target
  revision := .v20
  decoder := {}
  received := []
  channels := fun channel ↦
    if channel = .transaction then some ⟨"(transaction channel)", 0, 64, 64, 1, true⟩ else none
  conversation := .inactive
  exitRequested := false

/-- Insert or replace the entry of a channel. -/
def setChannel (link : D4Link T) (channel : ChannelId) (state : ChannelState) : D4Link T :=
  { link with channels := Function.update link.channels channel (some state) }

/-- Replace the entry of a channel, which the code expects to find. -/
def updateChannel (channel : ChannelId) (expectation : String)
    (f : ChannelState → LinkBlock T ChannelState) : LinkBlock T Unit := do
  let link ← Program.get
  let state ← Program.orPanic (link.channels channel) expectation
  let state ← f state
  Program.modify fun link ↦ link.setChannel channel state

/-- The update of the transaction channel's entry. -/
def transactionChannelMut (f : ChannelState → ChannelState) : LinkBlock T Unit :=
  updateChannel .transaction "transaction channel is created with D4Link" fun state ↦ pure (f state)

/-- The check that the conversation is active. -/
def requireActiveConversation : LinkProgram T Unit := do
  let link ← observe
  match link.conversation with
  | .active => pure ()
  | .inactive => Program.throw .conversationInactive
  | .exiting => Program.throw .conversationExiting
  | .terminated => Program.throw .conversationTerminated

/-- End the conversation: only the transaction channel stays, without credit. -/
def terminateConversation : LinkBlock T Unit := do
  Program.modify fun link ↦ { link with
    channels := fun channel ↦ if channel = .transaction then link.channels channel else none }
  transactionChannelMut fun state ↦ { state with credit := 0 }
  Program.modify fun link ↦ { link with conversation := .terminated }

/-- The block that begins the conversation, in `initialize` and for the peer's `Init`. -/
def beginConversation (revision : ProtocolRevision) : LinkBlock T Unit := do
  Program.modify fun link ↦ { link with revision := revision }
  transactionChannelMut fun state ↦ { state with credit := 1 }
  Program.modify fun link ↦ { link with conversation := .active }

/-! ### Writing -/

section Write

variable [ByteTransport T]

/-- Hand the bytes of the packet to the transport. -/
def writeAll (packet : Packet) : LinkBlock T Unit := fun link ↦
  match ByteTransport.writeAll packet.encode link.target with
  | (.ok (), target) => (.ok (), { link with target := target })
  | (.error error, target) => (.err (.transport error), { link with target := target })

/-- The label of a step that writes the packet. -/
def writeEvent (packet : Packet) : Outcome D4Error Unit → Event
  | .err _ => .writeFailed packet
  | _ => .wrote packet

/-- The end of `send`: write the packet and take the credit for it off the channel. -/
def writeAndSpend (packet : Packet) (channel : ChannelId) (consumeCredit : Bool) :
    LinkBlock T Unit := do
  writeAll packet
  Program.when consumeCredit
    (updateChannel channel "channel existence was checked before writing" fun state ↦ do
      let credit ← Program.orPanic (state.credit.checkedSub 1) "attempt to subtract with overflow"
      pure { state with credit := credit })

/-- Send a payload on a channel, for one credit where that is asked for. -/
def send (channel : ChannelId) (payload : List UInt8) (consumeCredit : Bool) :
    LinkProgram T Unit := do
  let link ← observe
  Program.when (link.conversation ≠ .inactive) requireActiveConversation
  let state ← Program.orThrow (link.channels channel) (.unknownChannel channel)
  Program.rejectIf (channel ≠ .transaction ∧ ¬ state.isOpen) (.unknownChannel channel)
  Program.rejectIf (consumeCredit ∧ state.credit = 0) (.insufficientCredit channel state.name)
  Program.rejectIf (headerLength + payload.length > state.maxPacketSize.toNat)
    (.packetExceedsNegotiatedSize channel (headerLength + payload.length) state.maxPacketSize)
  let packet ← Program.ofExcept .packet
    (Packet.new channel.peerSocket channel.sourceSocket payload 1 0)
  atomic (writeEvent packet) (writeAndSpend packet channel consumeCredit)

/-- Send a message on the transaction channel. -/
def sendTransaction (message : TransactionMessage) (consumeCredit : Bool) :
    LinkProgram T Unit := do
  let link ← observe
  let payload ← Program.ofExcept .transaction (message.encode link.revision)
  Program.rejectIf (payload.length > 58) (.transactionPayloadTooLarge payload.length)
  send .transaction payload consumeCredit

/-- Report an error of a channel to the peer, without a check and without a credit. -/
def sendError (channel : ChannelId) (errorCode : UInt8) : LinkProgram T Unit := do
  let link ← observe
  let payload ← Program.ofExcept .transaction
    ((TransactionMessage.error channel.peerSocket channel.sourceSocket errorCode).encode
      link.revision)
  let packet ← Program.ofExcept .packet (Packet.new 0 0 payload 0 0)
  atomic (writeEvent packet) (writeAll packet)

end Write

/-! ### Receiving -/

section Receive

variable [ByteTransport T]

/-- Hand a buffer of the given size to the transport. -/
def readTarget (size : Nat) : LinkBlock T (List UInt8) := fun link ↦
  match ByteTransport.read size link.target with
  | (.ok bytes, target) => (.ok bytes, { link with target := target })
  | (.error error, target) => (.err (.transport error), { link with target := target })

/-- The label of a read. -/
def readEvent : Outcome D4Error (List UInt8) → Event
  | .ok bytes => .read bytes
  | _ => .readFailed

/-- Push the bytes into the decoder and queue the packets they complete. -/
def decodeReceived (bytes : List UInt8) : LinkBlock T (List Packet) := fun link ↦
  match link.decoder.push bytes with
  | (.ok packets, decoder) =>
    (.ok packets, { link with decoder := decoder, received := link.received ++ packets })
  | (.error error, decoder) => (.err (.packet error), { link with decoder := decoder })

/-- The label of a push into the decoder. -/
def decodeEvent : Outcome D4Error (List Packet) → Event
  | .ok packets => .decoded packets
  | _ => .decodeFailed

/-- Take the packet at the front of the received queue. -/
def popFront : LinkProgram T (Option Packet) := do
  let link ← observe
  match link.received with
  | [] => pure none
  | packet :: rest => do
    atomic (fun _ ↦ .took packet) (Program.modify fun link ↦ { link with received := rest })
    pure (some packet)

/-- Put the packet back at the end of the received queue. -/
def pushBack (packet : Packet) : LinkProgram T Unit :=
  atomic (fun _ ↦ .putBack packet)
    (Program.modify fun link ↦ { link with received := link.received ++ [packet] })

/-- The read loop of `next_packet`. -/
def readPacket : Nat → Nat → LinkProgram T Packet
  | 0, _ => Program.running
  | bound + 1, consecutiveEmptyReads => do
    let bytes ← atomic readEvent (readTarget 4096)
    if bytes = [] then
      if consecutiveEmptyReads + 1 = maxConsecutiveEmptyReads then Program.throw .unexpectedEof
      else readPacket bound (consecutiveEmptyReads + 1)
    else do
      let _ ← atomic decodeEvent (decodeReceived bytes)
      let popped ← popFront
      match popped with
      | some packet => pure packet
      | none => readPacket bound 0

/-- The next packet: the first in the queue, or one that is read now. -/
def nextPacket (bound : Nat) : LinkProgram T Packet := do
  let popped ← popFront
  match popped with
  | some packet => pure packet
  | none => readPacket bound 0

/-- Check the size of a packet, and add the credit of its header to its channel. -/
def applyCredit (packet : Packet) : LinkProgram T Unit := do
  let channel := packet.channel
  let link ← observe
  let state ← Program.orThrow (link.channels channel) (.unknownChannel channel)
  Program.rejectIf (packet.header.length > state.maxServiceSize)
    (.packetExceedsNegotiatedSize channel packet.header.length.toNat state.maxServiceSize)
  match state.credit.checkedAdd packet.header.credit.toUInt16 with
  | none => do
    sendError channel 0x86
    Program.throw (.creditOverflow channel)
  | some _ =>
    atomic (fun _ ↦ .credited packet)
      (updateChannel channel "channel existence was checked before applying credit" fun state ↦ do
        let credit ← Program.orPanic (state.credit.checkedAdd packet.header.credit.toUInt16)
          "attempt to add with overflow"
        pure { state with credit := credit })

/-! ### Commands of the peer -/

/-- Answer an `OpenChannel` of the peer: only a channel of the table is granted. -/
def handlePeerOpen (channel : ChannelId) (peerMaxPacketSize peerMaxServiceSize : UInt16) :
    LinkProgram T Unit := do
  let link ← observe
  match link.channels channel with
  | none =>
    sendTransaction
      (.openChannelReply 0x0d channel.peerSocket channel.sourceSocket 0 0 0 0) true
  | some state =>
    sendTransaction
      (.openChannelReply 0 channel.peerSocket channel.sourceSocket
        (min state.maxPacketSize peerMaxPacketSize) (min state.maxServiceSize peerMaxServiceSize)
        state.maxCredit 0) true

/-- Answer a command of the peer. -/
def handlePeerTransaction (message : TransactionMessage) : LinkProgram T Unit := do
  let link ← observe
  match message with
  | .init revision =>
    if link.conversation = .inactive then do
      atomic (fun _ ↦ .activated revision .peer) (beginConversation revision)
      sendTransaction (.initReply 0 revision) false
    else
      sendTransaction (.initReply 0x0b link.revision) false
  | .openChannel peerSocket sourceSocket maxPacketSize maxServiceSize _ _ =>
    handlePeerOpen ⟨peerSocket, sourceSocket⟩ maxPacketSize maxServiceSize
  | .closeChannel peerSocket sourceSocket => do
    let channel : ChannelId := ⟨peerSocket, sourceSocket⟩
    let result : UInt8 :=
      if channel = .transaction then 0x03
      else if (link.channels channel).isSome then 0
      else 0x08
    sendTransaction (.closeChannelReply result peerSocket sourceSocket) true
    Program.when (result = 0)
      (atomic (fun _ ↦ .closed channel .peer)
        (updateChannel channel "channel existence was checked before closing" fun state ↦
          pure { state with isOpen := false }))
  | .credit peerSocket sourceSocket addedCredit => do
    let channel : ChannelId := ⟨peerSocket, sourceSocket⟩
    let state ← Program.orThrow (link.channels channel) (.unknownChannel channel)
    let credit ← Program.orThrow (state.credit.checkedAdd addedCredit) (.creditOverflow channel)
    atomic (fun _ ↦ .granted channel addedCredit .peer)
      (updateChannel channel "channel existence was checked before granting credit" fun state ↦
        pure { state with credit := credit })
    sendTransaction (.creditReply 0 peerSocket sourceSocket) true
  | .creditRequest peerSocket sourceSocket _ =>
    sendTransaction (.creditRequestReply 0 peerSocket sourceSocket 0) true
  | .exit => do
    sendTransaction (.exitReply 0) true
    let link ← observe
    if link.exitRequested then
      atomic (fun _ ↦ .exiting) (Program.modify fun link ↦ { link with conversation := .exiting })
    else
      atomic (fun _ ↦ .terminated) terminateConversation
  | .getSocketId serviceName => sendTransaction (.getSocketIdReply 0x0a 0 serviceName) true
  | .getServiceName socketId => sendTransaction (.getServiceNameReply 0x0a socketId "") true
  | .error .. => pure ()
  | _ => Program.throw .unexpectedTransactionReply

/-! ### The receive loops -/

/-- The loop of `transaction`, waiting for the reply with the given code. -/
def transactionLoop (expectedReply : UInt8) (readBound : Nat) :
    Nat → LinkProgram T TransactionMessage
  | 0 => Program.running
  | bound + 1 => do
    mark (.polled none)
    let packet ← nextPacket readBound
    if packet.header.channelId ≠ (0, 0) then do
      let link ← observe
      if link.conversation = .terminated then
        transactionLoop expectedReply readBound bound
      else do
        applyCredit packet
        pushBack packet
        transactionLoop expectedReply readBound bound
    else do
      applyCredit packet
      let link ← observe
      let received ← Program.ofExcept .transaction
        (TransactionMessage.decode packet.payload link.revision)
      if received.isCommand then do
        handlePeerTransaction received
        transactionLoop expectedReply readBound bound
      else if received.code = expectedReply then do
        mark (.answered none packet)
        pure received
      else Program.throw .unexpectedTransactionReply

/-- Send a message and wait for its reply. -/
def transaction (bound : Nat) (message : TransactionMessage) (consumeCredit : Bool) :
    LinkProgram T TransactionMessage := do
  sendTransaction message consumeCredit
  mark (.awaiting none)
  transactionLoop message.replyCode bound bound

/-- The label of a grant the host asked for. -/
def grantEvent (channel : ChannelId) (addedCredit : UInt16) : Outcome D4Error Unit → Event
  | .err _ => .refused channel
  | _ => .granted channel addedCredit .host

/-- The end of an attempt of `ensure_channel_credit`: add the credit that the reply grants. -/
def grantCredit (channel : ChannelId) (addedCredit : UInt16) : LinkBlock T Unit :=
  updateChannel channel "channel existence was checked before requesting credit" fun state ↦ do
    let credit ← Program.orThrow (state.credit.checkedAdd addedCredit) (.creditOverflow channel)
    pure { state with credit := credit }

/-- The attempts of `ensure_channel_credit` that are left. -/
def ensureCreditLoop (bound : Nat) (channel : ChannelId) : Nat → LinkProgram T Unit
  | 0 => do
    let link ← observe
    let state ← Program.orThrow (link.channels channel) (.unknownChannel channel)
    Program.throw (.insufficientCredit channel state.name)
  | attempts + 1 => do
    let link ← observe
    let state ← Program.orThrow (link.channels channel) (.unknownChannel channel)
    if state.credit > 0 then pure ()
    else do
      let reply ← transaction bound
        (.creditRequest channel.peerSocket channel.sourceSocket state.maxCredit) true
      match reply with
      | .creditRequestReply result peerSocket sourceSocket addedCredit => do
        Program.rejectIf (result ≠ 0 ∨ (⟨peerSocket, sourceSocket⟩ : ChannelId) ≠ channel)
          (.deviceRejected result)
        atomic (grantEvent channel addedCredit) (grantCredit channel addedCredit)
        let link ← observe
        if (link.channels channel).any (·.credit > 0) then pure ()
        else ensureCreditLoop bound channel attempts
      | _ => Program.throw .unexpectedTransactionReply

/-- Ask for credit up to three times where the channel has none. -/
def ensureChannelCredit (bound : Nat) (channel : ChannelId) : LinkProgram T Unit :=
  ensureCreditLoop bound channel 3

/-- The loop of `request`, waiting for data on the given channel. -/
def requestLoop (channel : ChannelId) (readBound : Nat) : Nat → LinkProgram T (List UInt8)
  | 0 => Program.running
  | bound + 1 => do
    mark (.polled (some channel))
    let packet ← nextPacket readBound
    if packet.header.channelId = (0, 0) then do
      applyCredit packet
      let link ← observe
      let message ← Program.ofExcept .transaction
        (TransactionMessage.decode packet.payload link.revision)
      if message.isCommand then do
        handlePeerTransaction message
        let link ← observe
        if link.conversation = .terminated then Program.throw .conversationTerminated
        else requestLoop channel readBound bound
      else Program.throw .unexpectedTransactionReply
    else do
      let link ← observe
      if link.conversation = .terminated then
        requestLoop channel readBound bound
      else do
        applyCredit packet
        if packet.channel = channel then do
          mark (.answered (some channel) packet)
          pure packet.payload
        else do
          pushBack packet
          requestLoop channel readBound bound

/-- Send a request on a channel and wait for the data that answers it. -/
def request (bound : Nat) (channel : ChannelId) (payload : List UInt8) :
    LinkProgram T (List UInt8) := do
  requireActiveConversation
  ensureChannelCredit bound channel
  send channel payload true
  mark (.awaiting (some channel))
  requestLoop channel bound bound

/-! ### The public operations -/

/-- The revisions `initializeLink` has still to offer. -/
def negotiate (bound : Nat) : List ProtocolRevision → LinkProgram T Unit
  | [] => Program.throw .negotiationFailed
  | revision :: revisions => do
    let reply ← transaction bound (.init revision) false
    match reply with
    | .initReply result negotiated =>
      if result = 0 then
        atomic (fun _ ↦ .activated negotiated .host) (beginConversation negotiated)
      else if result ≠ 2 then Program.throw (.deviceRejected result)
      else negotiate bound revisions
    | _ => Program.throw .unexpectedTransactionReply

/-- Begin the conversation, in revision 0x20 if the peer has it, else in 0x10. -/
def initializeLink (bound : Nat) : LinkProgram T Unit := do
  let link ← observe
  Program.rejectIf (link.conversation = .active) .conversationAlreadyActive
  Program.rejectIf (link.conversation = .exiting) .conversationExiting
  negotiate bound [.v20, .v10]

/-- Look the service up, and open the channel that the peer names. -/
def openService (bound : Nat) (serviceName : String) : LinkProgram T ChannelId := do
  let reply ← transaction bound (.getSocketId serviceName) true
  match reply with
  | .getSocketIdReply result socketId returnedName => do
    Program.rejectIf (result ≠ 0 ∨ returnedName ≠ serviceName) (.deviceRejected result)
    let channel : ChannelId := ⟨socketId, socketId⟩
    atomic (fun _ ↦ .registered channel)
      (Program.modify fun link ↦ link.setChannel channel ⟨serviceName, 0, 0x100, 0x100, 0, false⟩)
    let reply ← transaction bound
      (.openChannel channel.peerSocket channel.sourceSocket 0x100 0x100 0 (some 0)) true
    match reply with
    | .openChannelReply result _ _ maxPacketSize maxServiceSize maxCredit grantedCredit => do
      Program.rejectIf (result ≠ 0) (.deviceRejected result)
      atomic (fun _ ↦ .opened channel maxPacketSize maxServiceSize maxCredit grantedCredit)
        (updateChannel channel "pending channel is inserted before OpenChannel" fun state ↦
          pure { state with
            credit := grantedCredit
            maxPacketSize := maxPacketSize
            maxServiceSize := maxServiceSize
            maxCredit := maxCredit
            isOpen := true })
      pure channel
    | _ => Program.throw .unexpectedTransactionReply
  | _ => Program.throw .unexpectedTransactionReply

/-- Resolves the service name advertised for a peer socket without opening it. -/
def serviceName (bound : Nat) (socketId : UInt8) : LinkProgram T String := do
  let reply ← transaction bound (.getServiceName socketId) true
  match reply with
  | .getServiceNameReply result returnedSocketId name => do
    Program.rejectIf (result ≠ 0 ∨ returnedSocketId ≠ socketId) (.deviceRejected result)
    pure name
  | _ => Program.throw .unexpectedTransactionReply

/-- The check made before a control channel is handed out. -/
def controlChannel (channel : ChannelId) : LinkProgram T Unit := do
  let link ← observe
  Program.rejectIf (¬ (link.channels channel).any (·.isOpen)) (.unknownChannel channel)

/-- Closes an open service channel. The transaction channel cannot be closed. -/
def closeChannel (bound : Nat) (channel : ChannelId) : LinkProgram T Unit := do
  Program.rejectIf (channel = .transaction) .transactionChannelOperation
  let link ← observe
  Program.rejectIf (¬ (link.channels channel).any (·.isOpen)) (.unknownChannel channel)
  let reply ← transaction bound (.closeChannel channel.peerSocket channel.sourceSocket) true
  match reply with
  | .closeChannelReply result peerSocket sourceSocket => do
    Program.rejectIf (result ≠ 0 ∨ (⟨peerSocket, sourceSocket⟩ : ChannelId) ≠ channel)
      (.deviceRejected result)
    atomic (fun _ ↦ .closed channel .host)
      (Program.modify fun link ↦
        { link with channels := Function.update link.channels channel none })
  | _ => Program.throw .unexpectedTransactionReply

/-- Terminates the active IEEE 1284.4 conversation. -/
def exit (bound : Nat) : LinkProgram T Unit := do
  requireActiveConversation
  atomic (fun _ ↦ .exitRequested) (Program.modify fun link ↦ { link with exitRequested := true })
  let reply ← transaction bound .exit true
  match reply with
  | .exitReply result =>
    if result = 0 then atomic (fun _ ↦ .terminated) terminateConversation
    else Program.throw .unexpectedTransactionReply
  | _ => Program.throw .unexpectedTransactionReply

end Receive

end D4Link

/-- The service channel of a link as a control channel. The bound of the receive loops is part of
the type. -/
structure D4ControlChannel (T : Type) (bound : Nat) where
  link : LinkRun T
  channel : ChannelId

instance {T : Type} [ByteTransport T] {bound : Nat} :
    ControlChannel (D4ControlChannel T bound) where
  request request control :=
    let (outcome, link) := D4Link.request bound control.channel request control.link
    (outcome.mapErr fun error ↦ .protocol error.display, { control with link := link })

end Reink
