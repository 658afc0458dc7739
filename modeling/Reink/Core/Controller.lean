import Reink.Core.Command
import Reink.Platform.Transport

/-!
# The Epson controller

EEPROM reads and writes over an established control channel. The channel is arbitrary: it may give
any answer to any request.

A write of several values goes on until one of them fails. With originals at hand every address
whose write was attempted is then written back, the failing one included, in reverse order; the
restores that fail are part of the error.
-/

namespace Reink

open Program (ofExcept ofOutcome rejectIf when throw mapErr attempt)

/-- Safety controls for EEPROM writes. -/
structure EepromWriteOptions where
  /-- Read every value back after its write. -/
  verifyReadBack : Bool := true
  /-- Read all original values before writing and restore completed writes if a write fails. -/
  atomic : Bool := false
deriving DecidableEq, Repr

/-- Failure while performing a printer-specific control operation. -/
inductive EpsonError where
  | control (error : ControlError)
  | command (error : CommandError)
  | addressMismatch (requested received : UInt16)
  | writeRejected (address : UInt16)
  | verificationFailed (address : UInt16) (expected actual : UInt8)
  | atomicWriteFailed (address : UInt16) (reason : String) (rollbackErrors : List (UInt16 × String))
  | missingAtomicOriginal (address : UInt16)
deriving DecidableEq, Repr

namespace EpsonError

/-- An address as the messages show it. -/
def showAddress (address : UInt16) : String := Text.hexadecimal 6 address.toNat

/-- A value as the messages show it. -/
def showValue (value : UInt8) : String := Text.hexadecimal 4 value.toNat

/-- The displayed text of a failure. -/
def display : EpsonError → String
  | control error => "control-channel error: " ++ error.display
  | command error => "Epson command error: " ++ error.display
  | addressMismatch requested received =>
    "EEPROM response address " ++ showAddress received ++ " does not match requested " ++
      showAddress requested
  | writeRejected address => "EEPROM write was rejected at " ++ showAddress address
  | verificationFailed address expected actual =>
    "EEPROM verification failed at " ++ showAddress address ++ ": expected " ++
      showValue expected ++ ", got " ++ showValue actual
  | atomicWriteFailed address reason rollbackErrors =>
    "atomic EEPROM write failed at " ++ showAddress address ++ ": " ++ reason ++
      String.join (rollbackErrors.map fun (rollbackAddress, rollbackReason) ↦
        "; rollback failed at " ++ showAddress rollbackAddress ++ ": " ++ rollbackReason) ++
      if rollbackErrors = [] then "; rollback completed for all attempted bytes" else ""
  | missingAtomicOriginal address =>
    "atomic EEPROM write has no original value for " ++ showAddress address

end EpsonError

namespace EpsonController

variable {C : Type} [ControlChannel C] [CharTables] (spec : EpsonSpec)

/-- Reads the printer's raw Epson status response without changing printer state. -/
def readStatus : Program C EpsonError (List UInt8) := do
  let request ← ofExcept .command (encodeCommand (Text.ascii "st") [1])
  mapErr .control (ControlChannel.request request)

/-- Read one byte; the reply must be about the same address. -/
def readEepromAddress (address : UInt16) : Program C EpsonError EepromReadReply := do
  let request ← ofExcept .command (encodeEepromRead spec address)
  let response ← mapErr .control (ControlChannel.request request)
  let reply ← ofOutcome .command (parseEepromReadReply response spec.readAddressWidth)
  rejectIf (reply.address ≠ address) (.addressMismatch address reply.address)
  return reply

/-- Reads the requested EEPROM addresses in order. -/
def readEeprom : List UInt16 → Program C EpsonError (List EepromReadReply)
  | [] => return []
  | address :: addresses => do
    let reply ← readEepromAddress spec address
    let replies ← readEeprom addresses
    return reply :: replies

/-- Write one byte, and read it back where that is asked for. -/
def writeEepromAddress (address : UInt16) (value : UInt8) (verifyReadBack : Bool) :
    Program C EpsonError Unit := do
  let request ← ofExcept .command (encodeEepromWrite spec address value)
  let response ← mapErr .control (ControlChannel.request request)
  rejectIf (¬ Text.contains (Text.ascii ":OK;") response) (.writeRejected address)
  when verifyReadBack do
    let reply ← readEepromAddress spec address
    rejectIf (reply.value ≠ value) (.verificationFailed address value reply.value)

/-- The captured value of the address: its first one, if there are several. -/
def originalOf (originals : List (UInt16 × UInt8)) (address : UInt16) : Option UInt8 :=
  (originals.find? fun original ↦ original.1 = address).map Prod.snd

/-- Writes the originals of the attempted addresses back, and collects the failures. -/
def rollback (originals : List (UInt16 × UInt8)) (verifyReadBack : Bool) :
    List UInt16 → Program C EpsonError (List (UInt16 × String))
  | [] => return []
  | address :: attempted =>
    match originalOf originals address with
    | none => rollback originals verifyReadBack attempted
    | some original => do
      let restored ← attempt (writeEepromAddress spec address original verifyReadBack)
      let errors ← rollback originals verifyReadBack attempted
      match restored with
      | .ok () => return errors
      | .error error => return (address, error.display) :: errors

/-- The write loop of `writeEepromWithOriginals`, after the attempts made so far. -/
def writeUpdates (originals : Option (List (UInt16 × UInt8))) (verifyReadBack : Bool)
    (attempted : List UInt16) : List (UInt16 × UInt8) → Program C EpsonError Unit
  | [] => return ()
  | (address, value) :: updates => do
    let attempted := attempted ++ [address]
    match ← attempt (writeEepromAddress spec address value verifyReadBack) with
    | .ok () => writeUpdates originals verifyReadBack attempted updates
    | .error error =>
      let rollbackErrors ←
        match originals with
        | some originals => rollback spec originals verifyReadBack attempted.reverse
        | none => pure []
      throw (.atomicWriteFailed address error.display rollbackErrors)

/-- Writes values using caller-captured originals for atomic restoration. -/
def writeEepromWithOriginals (updates : List (UInt16 × UInt8))
    (originals : Option (List (UInt16 × UInt8))) (options : EepromWriteOptions) :
    Program C EpsonError Unit := do
  match originals with
  | some originals =>
    match updates.find? fun update ↦ !originals.any fun original ↦ original.1 = update.1 with
    | some (address, _) => throw (.missingAtomicOriginal address)
    | none => pure ()
  | none =>
    rejectIf options.atomic (.missingAtomicOriginal ((updates.head?.map Prod.fst).getD 0))
  writeUpdates spec originals options.verifyReadBack [] updates

/-- Writes EEPROM values, optionally verifying each value and rolling back every attempted write
after a failure. -/
def writeEeprom (updates : List (UInt16 × UInt8)) (options : EepromWriteOptions) :
    Program C EpsonError Unit := do
  let originals ←
    if options.atomic then do
      let replies ← readEeprom spec (updates.map Prod.fst)
      pure (some (replies.map fun reply ↦ (reply.address, reply.value)))
    else pure none
  writeEepromWithOriginals spec updates originals options

end EpsonController

end Reink
