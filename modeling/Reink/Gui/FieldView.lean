import Reink.Core.Database
import Reink.Library.Bytes
import Reink.Library.Program

/-!
# EEPROM fields in the viewer

The fields of a loaded EEPROM image and the texts that show their values. The decoding of a
fixed-width value indexes into the field's bytes without a check; that the database has checked
their number when it was loaded makes it safe.
-/

namespace Reink

/-- A field of the viewer. -/
structure EepromFileField where
  address : Nat
  endAddress : Nat
  label : String
  encoding : EepromFieldEncoding
  confidence : Option EepromFieldConfidence
  evidenceNote : Option String
  sensitive : Bool
deriving DecidableEq, Repr

/-- The fields of a model's specification: its read-only fields, or without any the single bytes of
its memory operations. -/
def EpsonSpec.fileFields (spec : EpsonSpec) : List EepromFileField :=
  if spec.readOnlyFields = [] then
    spec.memoryOperations.flatMap fun operation ↦ operation.addresses.map fun address ↦
      { address := address.toNat
        endAddress := address.toNat
        label := operation.description
        encoding := .rawBytes
        confidence := none
        evidenceNote := none
        sensitive := false }
  else
    spec.readOnlyFields.map fun field ↦
      { address := field.address.toNat
        endAddress := field.endAddress.toNat
        label := field.label
        encoding := field.encoding
        confidence := some field.confidence
        evidenceNote := some field.evidenceNote
        sensitive := field.sensitive }

/-- The fields for the model of the loaded file, if it is known. -/
def fileFields (database : ModelDatabase) (model : Option String) : List EepromFileField :=
  match model with
  | none => []
  | some model =>
    match database.get model with
    | none => []
    | some spec => spec.fileFields

/-- Where in the image the address is. -/
def eepromImageOffset (startAddress byteCount address : Nat) : Option Nat :=
  (address.checkedSub startAddress).filter (· < byteCount)

/-- The bytes of the field, if the image has all of them. -/
def eepromFieldBytes (field : EepromFileField) (imageStartAddress : Nat) (bytes : List UInt8) :
    Option (List UInt8) := do
  let offset ← eepromImageOffset imageStartAddress bytes.length field.address
  let byteLen ← (← field.endAddress.checkedSub field.address).checkedAdd 1
  bytes.slice? offset (← offset.checkedAdd byteLen)

/-- A number in decimal and in hexadecimal. -/
def showNumber (width value : Nat) : String :=
  toString value ++ " (0x" ++ Text.upperHexadecimal width value ++ ")"

/-- The character of a byte, and a dot for one that is not printable. -/
def printableOrDot (byte : UInt8) : Char :=
  if 0x20 ≤ byte ∧ byte ≤ 0x7e then Char.ofNat byte.toNat else '.'

section Value

variable [CharTables]

/-- The value that is shown for the field. -/
def eepromFieldValue (field : EepromFileField) (imageStartAddress : Nat) (bytes : List UInt8) :
    Outcome Empty String :=
  if field.sensitive then return "Hidden (sensitive)"
  else
    match eepromFieldBytes field imageStartAddress bytes with
    | none => return "Unavailable"
    | some fieldBytes =>
      let index (i : Nat) : Outcome Empty UInt8 :=
        Outcome.orPanic fieldBytes[i]? "index out of bounds"
      match field.encoding with
      | .u8 => do
        let value ← index 0
        return showNumber 2 value.toNat
      | .u16Le => do
        let value := UInt16.fromLeBytes (← index 0) (← index 1)
        return showNumber 4 value.toNat
      | .u32Le => do
        let value := UInt32.fromLeBytes (← index 0) (← index 1) (← index 2) (← index 3)
        return showNumber 8 value.toNat
      | .ascii => return Text.debug (String.ofList (fieldBytes.map printableOrDot))
      | .rawBytes =>
        return " ".intercalate (fieldBytes.map fun byte ↦ Text.upperHexadecimal 2 byte.toNat)

/-- What the bytes mean: a little-endian number for an encoding of fixed width, and otherwise a text
or the bytes themselves. -/
def EepromFieldEncoding.meaning : EepromFieldEncoding → List UInt8 → String
  | u8, bytes | u16Le, bytes | u32Le, bytes =>
    showNumber (2 * bytes.length) (littleEndian bytes)
  | ascii, bytes => Text.debug (String.ofList (bytes.map printableOrDot))
  | rawBytes, bytes => " ".intercalate (bytes.map fun byte ↦ Text.upperHexadecimal 2 byte.toNat)

end Value

/-! ### Fields that can be decoded -/

namespace EepromFileField

/-- The number of addresses. -/
def width (field : EepromFileField) : Nat := field.endAddress + 1 - field.address

/-- The field is a range of 16-bit addresses, as long as its encoding asks for. -/
structure Valid (field : EepromFileField) : Prop where
  ordered : field.address ≤ field.endAddress
  fits : field.endAddress < 65536
  length : ∀ n, field.encoding.fixedByteLen = some n → field.width = n

end EepromFileField

theorem EpsonSpec.valid_fileFields {spec : EpsonSpec} (h : spec.Valid) :
    ∀ field ∈ spec.fileFields, field.Valid := by
  intro field hfield
  unfold fileFields at hfield
  split at hfield
  · obtain ⟨operation, -, hmem⟩ := List.mem_flatMap.1 hfield
    obtain ⟨address, -, rfl⟩ := List.mem_map.1 hmem
    exact ⟨le_rfl, address.toNat_lt, nofun⟩
  · obtain ⟨readOnly, hmem, rfl⟩ := List.mem_map.1 hfield
    have hvalid := h.readOnlyFields readOnly hmem
    exact ⟨UInt16.le_iff_toNat_le.1 hvalid.ordered, readOnly.endAddress.toNat_lt, hvalid.length⟩

/-- The fields that the viewer derives from a database can be decoded. -/
theorem valid_fileFields {ε : Type} {fromStr : String → Except ε RawDatabase} {input : String}
    {database : ModelDatabase} (h : ModelDatabase.fromToml fromStr input = .ok database)
    {model : Option String} : ∀ field ∈ fileFields database model, field.Valid := by
  intro field hfield
  unfold fileFields at hfield
  split at hfield
  · cases hfield
  split at hfield
  · cases hfield
  · exact EpsonSpec.valid_fileFields (ModelDatabase.valid_of_get h ‹_›) field hfield

/-! ### The bytes of an image -/

/-- The byte of the image at the address. -/
def imageByte (startAddress : Nat) (bytes : List UInt8) (address : Nat) : Option UInt8 :=
  if startAddress ≤ address then bytes[address - startAddress]? else none

namespace EepromFileField

variable {field : EepromFileField} {startAddress : Nat} {bytes : List UInt8}

/-- The addresses of the field. -/
def addresses (field : EepromFileField) : List Nat := List.range' field.address field.width

/-- All addresses of the field lie in the image. -/
def LiesIn (field : EepromFileField) (startAddress : Nat) (bytes : List UInt8) : Prop :=
  ∀ address ∈ field.addresses, (imageByte startAddress bytes address).isSome

instance (field : EepromFileField) (startAddress : Nat) (bytes : List UInt8) :
    Decidable (field.LiesIn startAddress bytes) :=
  inferInstanceAs (Decidable (∀ _ ∈ _, _))

theorem isSome_imageByte {address : Nat} : (imageByte startAddress bytes address).isSome ↔
    startAddress ≤ address ∧ address < startAddress + bytes.length := by
  unfold imageByte
  split
  case isTrue h =>
    rw [isSome_getElem?]
    omega
  case isFalse h => simp [h]

/-- A field lies in the image exactly if its first and its last address do. -/
theorem liesIn_iff (h : field.Valid) : field.LiesIn startAddress bytes ↔
    startAddress ≤ field.address ∧ field.endAddress < startAddress + bytes.length := by
  have hordered := h.ordered
  simp only [LiesIn, addresses, width, isSome_imageByte, List.mem_range'_1]
  constructor
  · intro hall
    exact ⟨(hall field.address (by omega)).1, (hall field.endAddress (by omega)).2⟩
  · rintro ⟨hlow, hhigh⟩ address hmem
    omega

/-- The bytes of a slice are those at the addresses, by induction on its length. -/
theorem forall₂_imageByte {address n : Nat} (hlow : startAddress ≤ address)
    (hhigh : address + n ≤ startAddress + bytes.length) :
    List.Forall₂ (fun address value ↦ imageByte startAddress bytes address = some value)
      (List.range' address n) ((bytes.drop (address - startAddress)).take n) := by
  induction n generalizing address with
  | zero => exact List.Forall₂.nil
  | succ n ih =>
    have hlt : address - startAddress < bytes.length := by omega
    rw [List.range'_succ, List.drop_eq_getElem_cons hlt, List.take_succ_cons]
    refine .cons ?_ ?_
    · rw [imageByte, if_pos hlow, List.getElem?_eq_getElem hlt]
    · rw [show address - startAddress + 1 = address + 1 - startAddress by omega]
      exact ih (by omega) (by omega)

/-- A field has bytes exactly where its first and its last address lie in the image. -/
theorem eepromFieldBytes_eq_some_iff (h : field.Valid) {values : List UInt8} :
    eepromFieldBytes field startAddress bytes = some values ↔
      (startAddress ≤ field.address ∧ field.endAddress < startAddress + bytes.length) ∧
        (bytes.drop (field.address - startAddress)).take field.width = values := by
  have hordered := h.ordered
  have hfits := h.fits
  have hwidth : field.endAddress - field.address + 1 = field.width := by
    unfold width
    omega
  have hwidth_le : field.width ≤ 65536 := by
    unfold width
    omega
  simp only [eepromFieldBytes, eepromImageOffset, Option.bind_eq_bind, Option.bind_eq_some_iff,
    Option.filter_eq_some_iff, Nat.checkedSub_eq_some_iff, Nat.checkedAdd_eq_some_iff,
    List.slice?_eq_some_iff, decide_eq_true_eq]
  constructor
  · rintro ⟨offset, ⟨⟨hlow, rfl⟩, hlt⟩, gap, ⟨-, rfl⟩, byteLen, ⟨-, rfl⟩, stop, ⟨-, rfl⟩,
      ⟨-, hstop⟩, rfl⟩
    rw [hwidth] at hstop ⊢
    refine ⟨⟨hlow, ?_⟩, by rw [Nat.add_sub_cancel_left]⟩
    unfold width at hstop
    omega
  · rintro ⟨⟨hlow, hhigh⟩, rfl⟩
    refine ⟨_, ⟨⟨hlow, rfl⟩, by omega⟩, _, ⟨hordered, rfl⟩, _, ⟨by omega, hwidth⟩, _,
      ⟨by omega, rfl⟩, ⟨by omega, ?_⟩, by rw [Nat.add_sub_cancel_left]⟩
    unfold width
    omega

/-- The decoding of as many bytes as the encoding asks for. No index is outside of them. -/
theorem eepromFieldValue_eq [CharTables] (h : field.Valid) (hshown : field.sensitive = false)
    {values : List UInt8} (hvalues : eepromFieldBytes field startAddress bytes = some values) :
    eepromFieldValue field startAddress bytes = .ok (field.encoding.meaning values) := by
  have hlength : values.length = field.width := by
    obtain ⟨⟨hlow, hhigh⟩, rfl⟩ := (eepromFieldBytes_eq_some_iff h).1 hvalues
    have hordered := h.ordered
    rw [List.length_take, List.length_drop, Nat.min_eq_left]
    unfold width
    omega
  unfold eepromFieldValue
  rw [if_neg (by rw [hshown]; exact Bool.false_ne_true), hvalues]
  rcases hencoding : field.encoding with _ | _ | _ | _ | _
  case u8 =>
    rw [h.length 1 (by rw [hencoding]; rfl)] at hlength
    obtain ⟨b, rfl⟩ := List.length_eq_one_iff.1 hlength
    rfl
  case u16Le =>
    rw [h.length 2 (by rw [hencoding]; rfl)] at hlength
    obtain ⟨low, high, rfl⟩ := List.length_eq_two.1 hlength
    show Outcome.ok (showNumber 4 _) = .ok (showNumber 4 _)
    rw [UInt16.toNat_fromLeBytes]
  case u32Le =>
    rw [h.length 4 (by rw [hencoding]; rfl)] at hlength
    obtain ⟨b₀, b₁, b₂, b₃, rfl⟩ := List.length_eq_four.1 hlength
    show Outcome.ok (showNumber 8 _) = .ok (showNumber 8 _)
    rw [UInt32.toNat_fromLeBytes]
  case ascii => rfl
  case rawBytes => rfl

end EepromFileField

/-- **Every field of a database's model can be shown**, for every image. A sensitive field has one
text for all images. Any other shows what exactly the bytes at its addresses mean, or that they are
not available where some address lies outside the image. -/
theorem eepromFieldValue_shows [CharTables] {ε : Type} {fromStr : String → Except ε RawDatabase}
    {input : String} {database : ModelDatabase}
    (h : ModelDatabase.fromToml fromStr input = .ok database) {model : Option String}
    {field : EepromFileField} (hfield : field ∈ fileFields database model) (startAddress : Nat)
    (bytes : List UInt8) :
    (field.LiesIn startAddress bytes → ∃ values,
      eepromFieldBytes field startAddress bytes = some values ∧
      List.Forall₂ (fun address value ↦ imageByte startAddress bytes address = some value)
        field.addresses values ∧
      (field.sensitive = false →
        eepromFieldValue field startAddress bytes = .ok (field.encoding.meaning values))) ∧
    (¬ field.LiesIn startAddress bytes → eepromFieldBytes field startAddress bytes = none ∧
      (field.sensitive = false →
        eepromFieldValue field startAddress bytes = .ok "Unavailable")) ∧
    (field.sensitive = true →
      eepromFieldValue field startAddress bytes = .ok "Hidden (sensitive)") := by
  have hvalid := valid_fileFields h field hfield
  have hordered := hvalid.ordered
  have hwidth : field.address + field.width = field.endAddress + 1 := by
    unfold EepromFileField.width
    omega
  rw [EepromFileField.liesIn_iff hvalid]
  refine ⟨fun hlies ↦ ?_, fun hlies ↦ ?_, fun hsensitive ↦ ?_⟩
  · have hbytes := (EepromFileField.eepromFieldBytes_eq_some_iff hvalid).2 ⟨hlies, rfl⟩
    exact ⟨_, hbytes, EepromFileField.forall₂_imageByte hlies.1 (by omega),
      fun hshown ↦ EepromFileField.eepromFieldValue_eq hvalid hshown hbytes⟩
  · have hnone : eepromFieldBytes field startAddress bytes = none := by
      rw [Option.eq_none_iff_forall_not_mem]
      exact fun values hvalues ↦
        hlies ((EepromFileField.eepromFieldBytes_eq_some_iff hvalid).1 hvalues).1
    refine ⟨hnone, fun hshown ↦ ?_⟩
    rw [eepromFieldValue, if_neg (by rw [hshown]; exact Bool.false_ne_true), hnone]
    rfl
  · rw [eepromFieldValue, if_pos hsensitive]
    rfl

/-- The waste counter of the two groups, in an image that starts below it. -/
theorem eepromFieldValue_shows_waste :
    let _ := CharTables.ascii
    let parse : String → Except Unit RawDatabase := fun input ↦
      if input = ModelDatabase.twoGroups then .ok ModelDatabase.twoGroupsRaw else .error ()
    let waste : EepromFileField :=
      ⟨0x26, 0x27, "Waste", .u16Le, some .confirmed, some "capture", false⟩
    ∃ database, ModelDatabase.fromToml parse ModelDatabase.twoGroups = .ok database ∧
      waste ∈ fileFields database (some "L1300") ∧
      eepromFieldValue waste 0x25 [0, 0x34, 0x12] = .ok "4660 (0x1234)" ∧
      eepromFieldValue waste 0x27 [0x12] = .ok "Unavailable" := by
  intro _ parse waste
  have hfields : (ModelDatabase.fromToml parse ModelDatabase.twoGroups).toOption.map
      (fileFields · (some "L1300")) = some [waste] := by
    decide +kernel
  rcases h : ModelDatabase.fromToml parse ModelDatabase.twoGroups with error | database
  · rw [h] at hfields
    cases hfields
  rw [h] at hfields
  have hwaste : waste ∈ fileFields database (some "L1300") := by
    rw [show fileFields database (some "L1300") = [waste] from Option.some.inj hfields]
    exact List.mem_singleton_self waste
  refine ⟨database, rfl, hwaste, ?_, ?_⟩
  · obtain ⟨hinside, -, -⟩ := eepromFieldValue_shows h hwaste 0x25 [0, 0x34, 0x12]
    obtain ⟨values, hvalues, -, hvalue⟩ := hinside (by decide)
    have hbytes : eepromFieldBytes waste 0x25 [0, 0x34, 0x12] = some [0x34, 0x12] := by
      decide +kernel
    rw [hvalue rfl, Option.some.inj (hvalues.symm.trans hbytes)]
    decide +kernel
  · exact ((eepromFieldValue_shows h hwaste 0x27 [0x12]).2.1 (by decide)).2 rfl

end Reink
