import Reink.Core.Controller
import Reink.Core.Identity
import Reink.Usb.HardwareId

/-!
# Reading the identity of a printer

The device identifier comes as the text of a control reply, behind a fixed marker.
-/

namespace Reink

open Program (mapErr ofExcept)

/-- What a controller operation fails with only when the reply to an identity request names none. -/
inductive IdentityReadError where
  | identity (error : IdentityParseError)
  | invalidIdentityResponse
deriving DecidableEq, Repr

/-- The displayed text of a failure, among those of the controller. -/
def IdentityReadError.display : IdentityReadError → String
  | identity error => "invalid printer identity: " ++ error.display
  | invalidIdentityResponse => "invalid Epson identity response"

/-- What stands in front of the identifier in a reply. -/
def identityMarker : String := "@EJL ID"

/-- The identity in a reply. -/
def identityOfReply (response : List UInt8) : Except IdentityReadError PrinterIdentity :=
  if ¬ Text.IsUtf8 response then .error .invalidIdentityResponse
  else
    match (Text.ofBytes response).toList.dropPrefix? identityMarker.toList with
    | none => .error .invalidIdentityResponse
    | some identifier =>
      (PrinterIdentity.parse (String.ofList (identifier.dropWhile isWhitespace))).mapError
        .identity

namespace EpsonController

variable {C : Type} [ControlChannel C]

/-- The exchange of `read_identity`. What it makes of the reply is `identityOfReply`. -/
def requestIdentity : Program C EpsonError (List UInt8) := do
  let request ← ofExcept .command (encodeCommand (Text.ascii "di") [1])
  mapErr .control (ControlChannel.request request)

end EpsonController

end Reink
