import Reink.Core.Epson
import Reink.Library.Bytes
import Reink.Library.Program
import Reink.Library.Text

/-!
# The Epson command codec

Encoding of control and factory commands, and the parser of the `EE:XXXXXX;` record of an EEPROM
read reply. The parser slices the text it was given, so it can panic: an offset inside a character
is an assertion of the slice.
-/

namespace Reink

/-- A decoded EEPROM read response. -/
structure EepromReadReply where
  address : UInt16
  value : UInt8
deriving DecidableEq, Repr

/-- An invalid command input or malformed printer reply. -/
inductive CommandError where
  | payloadTooLong (length : Nat)
  | addressOutOfRange (width : AddressWidth) (address : UInt16)
  | missingWriteKey
  | invalidReadReply (reason : String)
deriving DecidableEq, Repr

/-- The displayed text of a command failure. -/
def CommandError.display : CommandError → String
  | payloadTooLong length =>
    "Epson payload exceeds u16 length: " ++ toString length ++ " bytes"
  | addressOutOfRange width address =>
    "address " ++ Text.hexadecimal 6 address.toNat ++ " does not fit " ++ width.debug ++ " width"
  | missingWriteKey => "model has no EEPROM write key"
  | invalidReadReply reason => "invalid EEPROM read reply: " ++ reason

/-! ### Requests -/

/-- Encodes a two-byte Epson control command and its little-endian payload size. -/
def encodeCommand (command payload : List UInt8) : Except CommandError (List UInt8) :=
  if payload.length < 65536 then
    .ok (command ++ (UInt16.ofNat payload.length).toLeBytes ++ payload)
  else .error (.payloadTooLong payload.length)

/-- The byte that the printer checks a factory command by. -/
def checkByte (command : UInt8) : UInt8 :=
  ((command >>> 1) &&& (0x7f : UInt8)) ||| ((command <<< 7) &&& (0x80 : UInt8))

/-- Encodes an Epson factory command, such as EEPROM read (`A`) or write (`B`). -/
def encodeFactoryCommand (readKey : UInt16) (command : UInt8) (payload : List UInt8) :
    Except CommandError (List UInt8) :=
  encodeCommand (Text.ascii "||")
    (readKey.toLeBytes ++ [command, ~~~command, checkByte command] ++ payload)

/-- The bytes of an address, little-endian in the width of the model. -/
def encodeAddress (width : AddressWidth) (address : UInt16) : Except CommandError (List UInt8) :=
  match width with
  | .one =>
    if 0xff < address then .error (.addressOutOfRange .one address) else .ok [address.toUInt8]
  | .two => .ok address.toLeBytes

/-- The factory command that reads a byte. -/
def encodeEepromRead (spec : EpsonSpec) (address : UInt16) : Except CommandError (List UInt8) := do
  let payload ← encodeAddress spec.readAddressWidth address
  encodeFactoryCommand spec.readKey 0x41 payload

/-- The factory command that writes a byte, with the write key of the model. -/
def encodeEepromWrite (spec : EpsonSpec) (address : UInt16) (value : UInt8) :
    Except CommandError (List UInt8) := do
  let writeKey ←
    match spec.writeKey with
    | some writeKey => .ok writeKey
    | none => .error .missingWriteKey
  let payload ← encodeAddress spec.writeAddressWidth address
  encodeFactoryCommand spec.readKey 0x42 (payload ++ [value] ++ writeKey)

example : encodeEepromRead .c90 0x0c =
    .ok (Text.ascii "||" ++ [6, 0, 6, 0, 0x41, 0xbe, 0xa0, 0x0c]) := by
  decide

/-! ### The read reply -/

section Parse

variable [CharTables]

/-- The byte of the two digits at the index. -/
def decodeHexByte (hex : List UInt8) (index : Nat) : Outcome CommandError UInt8 := do
  let start := index * 2
  let digits ← Outcome.orPanic (Text.get hex start (start + 2)) "byte index is not a char boundary"
  Outcome.orErr (Text.u8FromStrRadix digits 16)
    (.invalidReadReply ("invalid EEPROM hex: " ++ Text.debug (Text.ofBytes hex)))

/-- The three bytes that six hexadecimal digits stand for. -/
def decodeHex (hex : List UInt8) : Outcome CommandError (UInt8 × UInt8 × UInt8) := do
  let b0 ← decodeHexByte hex 0
  let b1 ← decodeHexByte hex 1
  let b2 ← decodeHexByte hex 2
  return (b0, b1, b2)

/-- Parses the ASCII `EE:XXXXXX;` record in an Epson EEPROM read response. With one-byte addresses
the last of the three bytes is ignored. -/
def parseEepromReadReply (response : List UInt8) (addressWidth : AddressWidth) :
    Outcome CommandError EepromReadReply :=
  if Text.IsUtf8 response then do
    let marker ← Outcome.orErr (Text.find (Text.ascii "EE:") response)
      (.invalidReadReply "missing EE: marker")
    let hexStart := marker + 3
    let hexEnd := hexStart + 6
    let hex ← Outcome.orErr (Text.get response hexStart hexEnd)
      (.invalidReadReply "EEPROM response has fewer than six hex digits")
    if response[hexEnd]? = some 0x3b then do
      let (b0, b1, b2) ← decodeHex hex
      match addressWidth with
      | .one => return ⟨b0.toUInt16, b1⟩
      | .two => return ⟨UInt16.fromBeBytes b0 b1, b2⟩
    else .err (.invalidReadReply "EEPROM response is missing terminating semicolon")
  else .err (.invalidReadReply "response is not UTF-8 ASCII")

end Parse

end Reink
