import Reink.Library.Program

/-!
# Transports and control channels

The two interfaces of the platform crate. A `ByteTransport` is a type of transport states with the
two calls the link makes on it; a `ControlChannel` is a type of channel states with the one request
call. What stands behind either is arbitrary: a peer may answer in any way its type can express.
-/

namespace Reink

/-- The class of failure reported by a concrete byte transport. -/
inductive TransportErrorKind where
  | io
  | permissionDenied
  | deviceUnavailable
  | timeout
  | unsupported
deriving DecidableEq, Repr

namespace TransportErrorKind

/-- The derived debug text. -/
def debug : TransportErrorKind → String
  | io => "Io"
  | permissionDenied => "PermissionDenied"
  | deviceUnavailable => "DeviceUnavailable"
  | timeout => "Timeout"
  | unsupported => "Unsupported"

end TransportErrorKind

/-- Contextual transport failure safe to display in a CLI or UI. -/
structure TransportError where
  kind : TransportErrorKind
  operation : String
  message : String
deriving DecidableEq, Repr

/-- The displayed text of a transport failure. -/
def TransportError.display (error : TransportError) : String :=
  error.operation ++ " failed (" ++ error.kind.debug ++ "): " ++ error.message

/-- A blocking, bidirectional byte stream to a selected printer interface. -/
class ByteTransport (T : Type) where
  /-- Writes every byte or returns a contextual transport error. -/
  writeAll : List UInt8 → T → Except TransportError Unit × T
  /-- Reads up to the given number of bytes. No bytes are reserved for a closed stream. -/
  read : Nat → T → Except TransportError (List UInt8) × T
  /-- A read fits the buffer it is given. -/
  length_le_of_read : ∀ {size : Nat} {t t' : T} {bytes : List UInt8},
    read size t = (.ok bytes, t') → bytes.length ≤ size

/-- A transfer of a recorded transport. -/
inductive TransportEvent where
  | tx (bytes : List UInt8)
  | rx (bytes : List UInt8)
deriving DecidableEq, Repr

/-- A transport whose peer has only so many bytes to send. What they are may depend on what is
written, and between them and after the last there may be any number of empty reads and errors. -/
class FiniteTransport (T : Type) extends ByteTransport T where
  /-- A bound on the bytes still to come. -/
  remaining : T → Nat
  remaining_writeAll : ∀ {data : List UInt8} {t t' : T} {result : Except TransportError Unit},
    writeAll data t = (result, t') → remaining t' ≤ remaining t
  remaining_read : ∀ {size : Nat} {t t' : T} {bytes : List UInt8},
    read size t = (.ok bytes, t') → remaining t' + bytes.length ≤ remaining t
  remaining_read_error : ∀ {size : Nat} {t t' : T} {error : TransportError},
    read size t = (.error error, t') → remaining t' ≤ remaining t

/-- A failure while exchanging a request over a control channel. -/
inductive ControlError where
  | transport (error : TransportError)
  | protocol (message : String)
  | deviceRejected (message : String)
deriving DecidableEq, Repr

/-- The displayed text of a control-channel failure. -/
def ControlError.display : ControlError → String
  | transport error => "transport error: " ++ error.display
  | protocol message => "protocol error: " ++ message
  | deviceRejected message => "device rejected request: " ++ message

/-- A request/reply channel used by printer-specific command codecs. -/
class ControlChannel (C : Type) where
  /-- Sends one complete request and returns its complete reply. -/
  request : List UInt8 → Program C ControlError (List UInt8)

end Reink
