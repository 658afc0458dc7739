import Mathlib.Data.List.Basic
import Reink.Library.Bytes
import Reink.Library.Text

/-!
# Transaction-channel messages

The messages of the IEEE 1284.4 transaction channel and their codec, with the revision-dependent
layouts and every error of the source.

Texts that the protocol carries (service names) are `String`s; on the wire they are ASCII, so the
bytes of a name are its characters' codes.
-/

namespace Reink

/-- The protocol revision a conversation is held in. -/
inductive ProtocolRevision where
  | v10
  | v20
deriving DecidableEq, Repr

/-- A malformed transaction-channel message. -/
inductive TransactionParseError where
  | truncated (message : String)
  | unknownCode (code : UInt8)
  | unsupportedRevision (revision : UInt8)
  | nonAsciiServiceName
  | invalidServiceName
  | unexpectedLength (message : String) (expected actual : Nat)
  | messageTooLarge (actual : Nat)
deriving DecidableEq, Repr

/-- The displayed text of a malformed message. -/
def TransactionParseError.display : TransactionParseError → String
  | truncated message => "truncated " ++ message
  | unknownCode code => "unknown transaction code " ++ Text.hexadecimal 4 code.toNat
  | unsupportedRevision revision =>
    "unsupported IEEE 1284.4 revision " ++ Text.hexadecimal 4 revision.toNat
  | nonAsciiServiceName => "service name is not ASCII"
  | invalidServiceName => "invalid service name"
  | unexpectedLength message expected actual =>
    message ++ " has an unexpected length: expected " ++ toString expected ++ ", got " ++
      toString actual
  | messageTooLarge actual => "transaction payload exceeds 58 bytes: " ++ toString actual

namespace ProtocolRevision

/-- The byte of the revision. -/
def asByte : ProtocolRevision → UInt8
  | v10 => 0x10
  | v20 => 0x20

/-- The revision of the byte. -/
def fromByte (revision : UInt8) : Except TransactionParseError ProtocolRevision :=
  if revision = 0x10 then .ok v10
  else if revision = 0x20 then .ok v20
  else .error (.unsupportedRevision revision)

@[simp] theorem fromByte_asByte (revision : ProtocolRevision) :
    fromByte revision.asByte = .ok revision := by
  cases revision <;> rfl

end ProtocolRevision

/-- The bytes that a transaction payload may have. -/
def maxTransactionPayloadLength : Nat := 58

/-- The characters that a service name may have. -/
def maxServiceNameLength : Nat := 40

/-- An IEEE 1284.4 transaction-channel message. -/
inductive TransactionMessage where
  | init (revision : ProtocolRevision)
  | initReply (result : UInt8) (revision : ProtocolRevision)
  | openChannel (peerSocket sourceSocket : UInt8)
      (maxPacketSize maxServiceSize maxCredit : UInt16) (initialCredit : Option UInt16)
  | openChannelReply (result peerSocket sourceSocket : UInt8)
      (maxPacketSize maxServiceSize maxCredit grantedCredit : UInt16)
  | closeChannel (peerSocket sourceSocket : UInt8)
  | closeChannelReply (result peerSocket sourceSocket : UInt8)
  | credit (peerSocket sourceSocket : UInt8) (addedCredit : UInt16)
  | creditReply (result peerSocket sourceSocket : UInt8)
  | creditRequest (peerSocket sourceSocket : UInt8) (maxCredit : UInt16)
  | creditRequestReply (result peerSocket sourceSocket : UInt8) (addedCredit : UInt16)
  | exit
  | exitReply (result : UInt8)
  | getSocketId (serviceName : String)
  | getSocketIdReply (result socketId : UInt8) (serviceName : String)
  | getServiceName (socketId : UInt8)
  | getServiceNameReply (result socketId : UInt8) (serviceName : String)
  | error (peerSocket sourceSocket errorCode : UInt8)
deriving DecidableEq, Repr

/-! ### Fields -/

/-- Whether every byte of the text is ASCII. -/
def isAscii (value : List UInt8) : Bool := value.all (· < 128)

/-- The field at the index. -/
def byte (bytes : List UInt8) (index : Nat) : Except TransactionParseError UInt8 :=
  match bytes[index]? with
  | some b => .ok b
  | none => .error (.truncated "transaction field")

/-- The big-endian 16-bit field at the index. -/
def u16At (bytes : List UInt8) (index : Nat) : Except TransactionParseError UInt16 := do
  return UInt16.fromBeBytes (← byte bytes index) (← byte bytes (index + 1))

/-- The check that the body of a message has exactly its length. -/
def exactLength (bytes : List UInt8) (expected : Nat) (message : String) :
    Except TransactionParseError Unit :=
  if bytes.length = expected then .ok ()
  else if bytes.length < expected then .error (.truncated "transaction field")
  else .error (.unexpectedLength message expected bytes.length)

/-- Whether the byte at the index of a name of the given length may stand there: capitals and
digits and, inside the name, hyphens, with a capital in front. -/
def serviceNameByte (length index : Nat) (b : UInt8) : Bool :=
  if (65 ≤ b && b ≤ 90) || (48 ≤ b && b ≤ 57) || b = 45 then
    !((index = 0 && !(65 ≤ b && b ≤ 90)) || (index + 1 = length && b = 45))
  else false

/-- The bytes of a service name, which must be ASCII and well formed. -/
def ascii (value : String) : Except TransactionParseError (List UInt8) :=
  if !value.toList.all (·.toNat < 128) then .error .nonAsciiServiceName
  else
    let bytes := value.toList.map fun c ↦ UInt8.ofNat c.toNat
    if bytes = [] ∨ bytes.length > maxServiceNameLength then .error .invalidServiceName
    else if !bytes.zipIdx.all (fun b ↦ serviceNameByte bytes.length b.2 b.1) then
      .error .invalidServiceName
    else .ok bytes

/-- The service name with the given bytes. -/
def asciiFrom (value : List UInt8) : Except TransactionParseError String :=
  if !isAscii value then .error .nonAsciiServiceName
  else do
    let text := String.ofList (value.map fun b ↦ Char.ofNat b.toNat)
    let _ ← ascii text
    return text

namespace TransactionMessage

/-- The code byte in front of the message. -/
def code : TransactionMessage → UInt8
  | init .. => 0x00
  | initReply .. => 0x80
  | openChannel .. => 0x01
  | openChannelReply .. => 0x81
  | closeChannel .. => 0x02
  | closeChannelReply .. => 0x82
  | credit .. => 0x03
  | creditReply .. => 0x83
  | creditRequest .. => 0x04
  | creditRequestReply .. => 0x84
  | exit => 0x08
  | exitReply .. => 0x88
  | getSocketId .. => 0x09
  | getSocketIdReply .. => 0x89
  | getServiceName .. => 0x0a
  | getServiceNameReply .. => 0x8a
  | error .. => 0x7f

/-- The code of the reply to the message. -/
def replyCode (message : TransactionMessage) : UInt8 := message.code ||| 0x80

/-- Whether the message is a command, by its code. -/
def isCommand (message : TransactionMessage) : Bool := message.code < 0x80

/-- The bytes of the message before its length is checked. -/
def encodeBody (revision : ProtocolRevision) :
    TransactionMessage → Except TransactionParseError (List UInt8)
  | init revision => .ok [0x00, revision.asByte]
  | initReply result revision => .ok [0x80, result, revision.asByte]
  | openChannel peerSocket sourceSocket maxPacketSize maxServiceSize maxCredit initialCredit =>
    .ok ([0x01, peerSocket, sourceSocket] ++ maxPacketSize.toBeBytes ++ maxServiceSize.toBeBytes ++
      maxCredit.toBeBytes ++
      if revision = .v10 then (initialCredit.getD 0).toBeBytes else [])
  | openChannelReply result peerSocket sourceSocket maxPacketSize maxServiceSize maxCredit
      grantedCredit =>
    .ok ([0x81, result, peerSocket, sourceSocket] ++ maxPacketSize.toBeBytes ++
      maxServiceSize.toBeBytes ++ maxCredit.toBeBytes ++
      if revision ≠ .v10 then grantedCredit.toBeBytes else [])
  | closeChannel peerSocket sourceSocket =>
    .ok ([0x02, peerSocket, sourceSocket] ++ if revision = .v10 then [0] else [])
  | closeChannelReply result peerSocket sourceSocket =>
    .ok [0x82, result, peerSocket, sourceSocket]
  | credit peerSocket sourceSocket addedCredit =>
    .ok ([0x03, peerSocket, sourceSocket] ++ addedCredit.toBeBytes)
  | creditReply result peerSocket sourceSocket => .ok [0x83, result, peerSocket, sourceSocket]
  | creditRequest peerSocket sourceSocket maxCredit =>
    .ok ([0x04, peerSocket, sourceSocket] ++
      if revision = .v10 then UInt16.toBeBytes 0x0080 ++ UInt16.toBeBytes 0xffff
      else maxCredit.toBeBytes)
  | creditRequestReply result peerSocket sourceSocket addedCredit =>
    .ok ([0x84, result, peerSocket, sourceSocket] ++ addedCredit.toBeBytes)
  | exit => .ok [0x08]
  | exitReply result => .ok [0x88, result]
  | getSocketId serviceName => do return 0x09 :: (← ascii serviceName)
  | getSocketIdReply result socketId serviceName => do
    return [0x89, result, socketId] ++ (← if result = 0 then ascii serviceName else .ok [])
  | getServiceName socketId => .ok [0x0a, socketId]
  | getServiceNameReply result socketId serviceName => do
    return [0x8a, result, socketId] ++ (← if result = 0 then ascii serviceName else .ok [])
  | error peerSocket sourceSocket errorCode => .ok [0x7f, peerSocket, sourceSocket, errorCode]

/-- The payload of the transaction packet that carries the message. -/
def encode (message : TransactionMessage) (revision : ProtocolRevision) :
    Except TransactionParseError (List UInt8) := do
  let encoded ← message.encodeBody revision
  if encoded.length > maxTransactionPayloadLength then
    .error (.messageTooLarge encoded.length)
  else .ok encoded

/-- The message behind its code byte. -/
def decodeBody (code : UInt8) (body : List UInt8) (revision : ProtocolRevision) :
    Except TransactionParseError TransactionMessage :=
  if code = 0x00 then do
    exactLength body 1 "Init"
    return init (← ProtocolRevision.fromByte (← byte body 0))
  else if code = 0x80 then do
    exactLength body 2 "Init reply"
    return initReply (← byte body 0) (← ProtocolRevision.fromByte (← byte body 1))
  else if code = 0x01 then do
    exactLength body (if revision = .v10 then 10 else 8) "OpenChannel"
    let initialCredit ← if revision = .v10 then some <$> u16At body 8 else .ok none
    return openChannel (← byte body 0) (← byte body 1) (← u16At body 2) (← u16At body 4)
      (← u16At body 6) initialCredit
  else if code = 0x81 then do
    exactLength body (if revision = .v10 then 9 else 11) "OpenChannel reply"
    return openChannelReply (← byte body 0) (← byte body 1) (← byte body 2) (← u16At body 3)
      (← u16At body 5) (← u16At body 7) (← if revision = .v10 then .ok 0 else u16At body 9)
  else if code = 0x02 then do
    exactLength body (if revision = .v10 then 3 else 2) "CloseChannel"
    return closeChannel (← byte body 0) (← byte body 1)
  else if code = 0x82 then do
    exactLength body 3 "CloseChannel reply"
    return closeChannelReply (← byte body 0) (← byte body 1) (← byte body 2)
  else if code = 0x03 then do
    exactLength body 4 "Credit"
    return credit (← byte body 0) (← byte body 1) (← u16At body 2)
  else if code = 0x83 then do
    exactLength body 3 "Credit reply"
    return creditReply (← byte body 0) (← byte body 1) (← byte body 2)
  else if code = 0x04 then do
    exactLength body (if revision = .v10 then 6 else 4) "CreditRequest"
    return creditRequest (← byte body 0) (← byte body 1)
      (← if revision = .v10 then .ok 0 else u16At body 2)
  else if code = 0x84 then do
    exactLength body 5 "CreditRequest reply"
    return creditRequestReply (← byte body 0) (← byte body 1) (← byte body 2) (← u16At body 3)
  else if code = 0x08 then do
    exactLength body 0 "Exit"
    return exit
  else if code = 0x88 then do
    exactLength body 1 "Exit reply"
    return exitReply (← byte body 0)
  else if code = 0x09 then do
    return getSocketId (← asciiFrom body)
  else if code = 0x89 then do
    let result ← byte body 0
    let socketId ← byte body 1
    let serviceName ← if result = 0 then asciiFrom (body.drop 2) else do
      exactLength body 2 "GetSocketId reply"
      pure ""
    return getSocketIdReply result socketId serviceName
  else if code = 0x0a then do
    exactLength body 1 "GetServiceName"
    return getServiceName (← byte body 0)
  else if code = 0x8a then do
    let result ← byte body 0
    let socketId ← byte body 1
    let serviceName ← if result = 0 then asciiFrom (body.drop 2) else do
      exactLength body 2 "GetServiceName reply"
      pure ""
    return getServiceNameReply result socketId serviceName
  else if code = 0x7f then do
    exactLength body 3 "Error"
    return error (← byte body 0) (← byte body 1) (← byte body 2)
  else .error (.unknownCode code)

/-- Read a message from the payload of a transaction packet. -/
def decode (bytes : List UInt8) (revision : ProtocolRevision) :
    Except TransactionParseError TransactionMessage :=
  match bytes with
  | [] => .error (.truncated "transaction code")
  | code :: body => decodeBody code body revision

end TransactionMessage

example : TransactionMessage.decode [0x89, 0, 2, 69, 80] .v20 =
    .ok (.getSocketIdReply 0 2 "EP") := by decide

end Reink
