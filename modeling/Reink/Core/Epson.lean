/-!
# Epson specifications

A model's specification: how it is addressed, the range of its memory, its counters and the fields
that may be displayed.
-/

namespace Reink

/-- Number of bytes used to encode an EEPROM address. -/
inductive AddressWidth where
  | one
  | two
deriving DecidableEq, Repr

namespace AddressWidth

/-- The bytes that an address takes. -/
def byteLen : AddressWidth → Nat
  | one => 1
  | two => 2

/-- The derived debug text. -/
def debug : AddressWidth → String
  | one => "One"
  | two => "Two"

end AddressWidth

/-- A configured EEPROM counter or maintenance operation. -/
structure MemoryOperation where
  description : String
  addresses : List UInt16
  resetValues : List UInt8
  /-- Whether the reset values were declared in the model metadata. Missing values are not zeros. -/
  resetValuesDeclared : Bool
  minimum : Option UInt32
deriving DecidableEq, Repr

namespace MemoryOperation

/-- The database has declared the bytes of a reset. -/
def hasDeclaredResetValues (operation : MemoryOperation) : Bool := operation.resetValuesDeclared

end MemoryOperation

/-- Encoding used only to display a read-only EEPROM field. -/
inductive EepromFieldEncoding where
  | u8
  | u16Le
  | u32Le
  | ascii
  | rawBytes
deriving DecidableEq, Repr

namespace EepromFieldEncoding

/-- The displayed name of the encoding. -/
def label : EepromFieldEncoding → String
  | u8 => "u8"
  | u16Le => "little-endian u16"
  | u32Le => "little-endian u32"
  | ascii => "ASCII"
  | rawBytes => "raw bytes"

/-- The number of bytes the encoding needs, where it is fixed. -/
def fixedByteLen : EepromFieldEncoding → Option Nat
  | u8 => some 1
  | u16Le => some 2
  | u32Le => some 4
  | ascii | rawBytes => none

end EepromFieldEncoding

/-- Strength of the reviewed evidence behind a read-only EEPROM interpretation. -/
inductive EepromFieldConfidence where
  | confirmed
  | stronglyRelated
  | relatedUnknown
deriving DecidableEq, Repr

/-- A read-only interpretation for one contiguous EEPROM field, from its first to its last
address. -/
structure EepromField where
  address : UInt16
  endAddress : UInt16
  label : String
  encoding : EepromFieldEncoding
  confidence : EepromFieldConfidence
  evidenceNote : String
  sensitive : Bool
deriving DecidableEq, Repr

/-- Model-specific Epson EEPROM settings. -/
structure EpsonSpec where
  model : String
  brand : String
  vendorId : UInt16
  productId : Option UInt16
  readKey : UInt16
  writeKey : Option (List UInt8)
  shiftedWriteKey : Option String
  readAddressWidth : AddressWidth
  writeAddressWidth : AddressWidth
  memoryLow : UInt16
  memoryHigh : UInt16
  memoryOperations : List MemoryOperation
  readOnlyFields : List EepromField
deriving DecidableEq, Repr

/-- The specification of the C90 in the built-in database. -/
def EpsonSpec.c90 : EpsonSpec where
  model := "C90"
  brand := "EPSON"
  vendorId := 0x04b8
  productId := none
  readKey := 0x0006
  writeKey := some [0x62, 0x61, 0x6e, 0x61, 0x6e, 0x61, 0x00, 0x00]
  shiftedWriteKey := none
  readAddressWidth := .one
  writeAddressWidth := .two
  memoryLow := 0
  memoryHigh := 0xff
  memoryOperations := [
    ⟨"Waste counters (?)", [0x06, 0x07, 0x0a, 0x0b, 0x16, 0x17, 0x34, 0x35],
      [0x00, 0x00, 0x00, 0x00, 0x00, 0x00, 0x04, 0x57], true, none⟩,
    ⟨"Waste counter", [0x0c, 0x0d], [0x01, 0xf4], true, some 0x1f4⟩,
    ⟨"Waste counter", [0x36, 0x37], [], false, none⟩]
  readOnlyFields := []

end Reink
