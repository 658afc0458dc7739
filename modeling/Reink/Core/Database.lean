import Mathlib.Logic.Function.Basic
import Reink.Core.Epson
import Reink.Library.Checked
import Reink.Library.Text

/-!
# The model database

`ModelDatabase.from_toml` with every check it makes of the raw records, in the order of the source.
The TOML parser is a parameter: it gives the raw records, or an error of its own.

What the checks make sure of is `EpsonSpec.Valid`, and what a specification has in common with the
group of models it was read from is `RawSpec.Describes`. `fromToml_valid` says that every stored
specification is valid and describes the last group that lists its model.
-/

namespace Reink

/-- Invalid or unsafe Epson model metadata. The errors of the TOML parser are those of `ε`. -/
inductive SpecError (ε : Type) where
  | toml (error : ε)
  | invalidAddressWidth (field : String) (value : UInt8)
  | invalidMemoryRange (low high : UInt16)
  | invalidWriteKeyLength (length : Nat)
  | nonLatin1WriteKey
  | emptyMemoryOperation (description : String)
  | resetLengthMismatch (description : String) (addresses resetValues : Nat)
  | invalidReadOnlyFieldLocation (label : String)
  | invalidReadOnlyFieldRange (label : String) (address endAddress : UInt16)
  | readOnlyFieldOutsideMemoryRange (label : String)
      (address endAddress memoryLow memoryHigh : UInt16)
  | invalidReadOnlyFieldEncoding (label encoding : String)
  | invalidReadOnlyFieldConfidence (label confidence : String)
  | readOnlyFieldLengthMismatch (label : String) (encoding : EepromFieldEncoding) (byteLen : Nat)
  | overlappingReadOnlyFields (first second : String)
deriving DecidableEq, Repr

/-- An address range as the errors show it. -/
def showRange (low high : UInt16) : String :=
  Text.hexadecimal 6 low.toNat ++ "..=" ++ Text.hexadecimal 6 high.toNat

/-- The displayed text of an error, given that of the errors of the parser. -/
def SpecError.display [CharTables] {ε : Type} (displayToml : ε → String) : SpecError ε → String
  | toml error => "invalid Epson TOML: " ++ displayToml error
  | invalidAddressWidth field value =>
    field ++ " must be one or two bytes, got " ++ toString value.toNat
  | invalidMemoryRange low high => "invalid EEPROM range " ++ showRange low high
  | invalidWriteKeyLength length => "write key must be 8 bytes, got " ++ toString length
  | nonLatin1WriteKey => "write key is not Latin-1"
  | emptyMemoryOperation description =>
    "memory operation " ++ Text.debug description ++ " has no addresses"
  | resetLengthMismatch description addresses resetValues =>
    "memory operation " ++ Text.debug description ++ " has " ++ toString addresses ++
      " addresses but " ++ toString resetValues ++ " reset values"
  | invalidReadOnlyFieldLocation label =>
    "read-only EEPROM field " ++ Text.debug label ++ " must declare exactly one address or range"
  | invalidReadOnlyFieldRange label address endAddress =>
    "read-only EEPROM field " ++ Text.debug label ++ " has invalid range " ++
      showRange address endAddress
  | readOnlyFieldOutsideMemoryRange label address endAddress memoryLow memoryHigh =>
    "read-only EEPROM field " ++ Text.debug label ++ " range " ++ showRange address endAddress ++
      " is outside " ++ showRange memoryLow memoryHigh
  | invalidReadOnlyFieldEncoding label encoding =>
    "read-only EEPROM field " ++ Text.debug label ++ " has unsupported encoding " ++
      Text.debug encoding
  | invalidReadOnlyFieldConfidence label confidence =>
    "read-only EEPROM field " ++ Text.debug label ++ " has unsupported confidence " ++
      Text.debug confidence
  | readOnlyFieldLengthMismatch label encoding byteLen =>
    "read-only EEPROM field " ++ Text.debug label ++ " has " ++ toString byteLen ++
      " byte(s), but " ++ encoding.label ++ " requires " ++
      toString (encoding.fixedByteLen.getD 0)
  | overlappingReadOnlyFields first second =>
    "read-only EEPROM fields " ++ Text.debug first ++ " and " ++ Text.debug second ++ " overlap"

/-! ### The raw records -/

/-- A memory operation as the file has it. -/
structure RawMemoryOperation where
  addr : List UInt16
  desc : String
  reset : List UInt8 := []
  min : Option UInt32 := none

/-- A read-only field as the file has it. -/
structure RawEepromField where
  address : Option UInt16 := none
  range : Option (UInt16 × UInt16) := none
  label : String
  encoding : String
  confidence : String
  evidence : String
  sensitive : Bool := false

/-- The address length of a group that gives none. -/
def defaultAddressLength : UInt8 := 2

/-- The last address of a group that gives none. -/
def defaultMemoryHigh : UInt16 := 0xff

/-- A group of models that share their settings. -/
structure RawSpec where
  brand : Option String := none
  vendorId : Option UInt16 := none
  productId : Option UInt16 := none
  rkey : UInt16 := 0
  writeKey : Option String := none
  shiftedWriteKey : Option String := none
  readLength : UInt8 := defaultAddressLength
  writeLength : UInt8 := defaultAddressLength
  memoryLow : UInt16 := 0
  memoryHigh : UInt16 := defaultMemoryHigh
  mem : List RawMemoryOperation := []
  readOnlyFields : List RawEepromField := []
  models : List String := []

/-- The database as the file has it. -/
structure RawDatabase where
  epson : List RawSpec

/-! ### Checks -/

section Checks

variable {ε : Type}

/-- The address width of a length, which must be one or two. -/
def AddressWidth.fromRaw (field : String) (value : UInt8) : Except (SpecError ε) AddressWidth :=
  match value with
  | 1 => .ok .one
  | 2 => .ok .two
  | _ => .error (.invalidAddressWidth field value)

/-- The encoding of the given name. -/
def EepromFieldEncoding.fromRaw (label value : String) :
    Except (SpecError ε) EepromFieldEncoding :=
  match value with
  | "u8" => .ok .u8
  | "u16le" => .ok .u16Le
  | "u32le" => .ok .u32Le
  | "ascii" => .ok .ascii
  | "raw" => .ok .rawBytes
  | _ => .error (.invalidReadOnlyFieldEncoding label value)

/-- The confidence of the given name. -/
def EepromFieldConfidence.fromRaw (label value : String) :
    Except (SpecError ε) EepromFieldConfidence :=
  match value with
  | "confirmed" => .ok .confirmed
  | "strongly-related" => .ok .stronglyRelated
  | "related-unknown" => .ok .relatedUnknown
  | _ => .error (.invalidReadOnlyFieldConfidence label value)

/-- The checked operation: it has addresses, and as many reset values if any. -/
def MemoryOperation.tryFrom (raw : RawMemoryOperation) : Except (SpecError ε) MemoryOperation :=
  if raw.addr = [] then .error (.emptyMemoryOperation raw.desc)
  else if raw.reset ≠ [] ∧ raw.reset.length ≠ raw.addr.length then
    .error (.resetLengthMismatch raw.desc raw.addr.length raw.reset.length)
  else .ok ⟨raw.desc, raw.addr, raw.reset, decide (raw.reset ≠ []), raw.min⟩

/-- The first and the last address of a field. -/
def RawEepromField.location (raw : RawEepromField) : Except (SpecError ε) (UInt16 × UInt16) :=
  match raw.address, raw.range with
  | some address, none => .ok (address, address)
  | none, some (address, endAddress) =>
    if address ≤ endAddress then .ok (address, endAddress)
    else .error (.invalidReadOnlyFieldRange raw.label address endAddress)
  | _, _ => .error (.invalidReadOnlyFieldLocation raw.label)

/-- The checked field: it lies in the memory range of the group. -/
def RawEepromField.intoEepromField (raw : RawEepromField) (memoryLow memoryHigh : UInt16) :
    Except (SpecError ε) EepromField := do
  let (address, endAddress) ← raw.location
  if address < memoryLow ∨ endAddress > memoryHigh then
    .error (.readOnlyFieldOutsideMemoryRange raw.label address endAddress memoryLow memoryHigh)
  else do
    let encoding ← EepromFieldEncoding.fromRaw raw.label raw.encoding
    let byteLen := endAddress.toNat - address.toNat + 1
    if encoding.fixedByteLen.any (byteLen ≠ ·) then
      .error (.readOnlyFieldLengthMismatch raw.label encoding byteLen)
    else do
      let confidence ← EepromFieldConfidence.fromRaw raw.label raw.confidence
      return ⟨address, endAddress, raw.label, encoding, confidence, raw.evidence, raw.sensitive⟩

/-- Whether the fields have an address in common. -/
def EepromField.overlaps (field other : EepromField) : Bool :=
  field.address ≤ other.endAddress ∧ other.address ≤ field.endAddress

/-- Every field against those before it. -/
def validateReadOnlyFieldsAfter (earlier : List EepromField) :
    List EepromField → Except (SpecError ε) Unit
  | [] => .ok ()
  | field :: fields =>
    match earlier.find? field.overlaps with
    | some overlap => .error (.overlappingReadOnlyFields overlap.label field.label)
    | none => validateReadOnlyFieldsAfter (earlier ++ [field]) fields

/-- The checks of the fields of a group against each other. -/
def validateReadOnlyFields (fields : List EepromField) : Except (SpecError ε) Unit :=
  validateReadOnlyFieldsAfter [] fields

/-- The byte of a character. -/
def latin1Byte (character : Char) : Except (SpecError ε) UInt8 :=
  if character.toNat < 256 then .ok (UInt8.ofNat character.toNat) else .error .nonLatin1WriteKey

/-- The bytes of a key, whose characters must be Latin-1. -/
def latin1Bytes (value : String) : Except (SpecError ε) (List UInt8) :=
  value.toList.mapM latin1Byte

/-- The write key of a group. -/
def RawSpec.checkedWriteKey (raw : RawSpec) : Except (SpecError ε) (Option (List UInt8)) :=
  match raw.writeKey with
  | none => .ok none
  | some text => do
    let key ← latin1Bytes text
    if key.length ≠ 8 then .error (.invalidWriteKeyLength key.length) else .ok (some key)

/-- The specification of each model of a group. -/
def RawSpec.checked (raw : RawSpec) : Except (SpecError ε) (String → EpsonSpec) := do
  let readAddressWidth ← AddressWidth.fromRaw "rlen" raw.readLength
  let writeAddressWidth ← AddressWidth.fromRaw "wlen" raw.writeLength
  if raw.memoryLow > raw.memoryHigh then
    .error (.invalidMemoryRange raw.memoryLow raw.memoryHigh)
  else do
    let writeKey ← raw.checkedWriteKey
    let memoryOperations ← raw.mem.mapM MemoryOperation.tryFrom
    let readOnlyFields ←
      raw.readOnlyFields.mapM (·.intoEepromField raw.memoryLow raw.memoryHigh)
    validateReadOnlyFields readOnlyFields
    return fun model ↦
      { model := model
        brand := raw.brand.getD "EPSON"
        vendorId := raw.vendorId.getD 0x04b8
        productId := raw.productId
        readKey := raw.rkey
        writeKey := writeKey
        shiftedWriteKey := raw.shiftedWriteKey
        readAddressWidth := readAddressWidth
        writeAddressWidth := writeAddressWidth
        memoryLow := raw.memoryLow
        memoryHigh := raw.memoryHigh
        memoryOperations := memoryOperations
        readOnlyFields := readOnlyFields }

/-- Epson specifications indexed by the exact advertised model name. The map of the source is the
function that looks a model up. -/
structure ModelDatabase where
  models : String → Option EpsonSpec

namespace ModelDatabase

/-- The specification of the model, if there is one. -/
def get (database : ModelDatabase) (model : String) : Option EpsonSpec := database.models model

/-- An iteration of the loop over the groups. A later duplicate model replaces an earlier one. -/
def addGroup (models : String → Option EpsonSpec) (raw : RawSpec) :
    Except (SpecError ε) (String → Option EpsonSpec) := do
  let spec ← raw.checked
  return raw.models.foldl (fun models model ↦ Function.update models model (some (spec model)))
    models

/-- Read and check the database; a later group replaces an earlier one of the same model. -/
def fromToml (fromStr : String → Except ε RawDatabase) (input : String) :
    Except (SpecError ε) ModelDatabase := do
  let raw ← (fromStr input).mapError .toml
  let models ← raw.epson.foldlM addGroup fun _ ↦ none
  return ⟨models⟩

end ModelDatabase

end Checks

/-! ### What the checks make sure of -/

/-- There are addresses, and the reset values are missing or one for each address. -/
structure MemoryOperation.Valid (operation : MemoryOperation) : Prop where
  addresses : operation.addresses ≠ []
  resetValues : operation.resetValues = [] ∧ operation.resetValuesDeclared = false ∨
    operation.resetValues.length = operation.addresses.length ∧
      operation.resetValuesDeclared = true

/-- The number of addresses of a field. -/
def EepromField.width (field : EepromField) : Nat :=
  field.endAddress.toNat + 1 - field.address.toNat

/-- The field is a range of the memory, as long as its encoding asks for. -/
structure EepromField.Valid (memoryLow memoryHigh : UInt16) (field : EepromField) : Prop where
  ordered : field.address ≤ field.endAddress
  low : memoryLow ≤ field.address
  high : field.endAddress ≤ memoryHigh
  length : ∀ n, field.encoding.fixedByteLen = some n → field.width = n

/-- No address is in both fields. -/
def EepromField.Disjoint (field other : EepromField) : Prop :=
  ∀ address, ¬ ((field.address ≤ address ∧ address ≤ field.endAddress) ∧
    (other.address ≤ address ∧ address ≤ other.endAddress))

/-- A specification that the code behind the database may rely on. -/
structure EpsonSpec.Valid (spec : EpsonSpec) : Prop where
  memory : spec.memoryLow ≤ spec.memoryHigh
  writeKey : ∀ key, spec.writeKey = some key → key.length = 8
  memoryOperations : ∀ operation ∈ spec.memoryOperations, operation.Valid
  readOnlyFields : ∀ field ∈ spec.readOnlyFields, field.Valid spec.memoryLow spec.memoryHigh
  disjoint : spec.readOnlyFields.Pairwise EepromField.Disjoint

/-- The text of Latin-1 bytes. -/
def latin1Text (bytes : List UInt8) : String :=
  String.ofList (bytes.map fun b ↦ Char.ofNat b.toNat)

/-- The operation has the data of the file. -/
structure RawMemoryOperation.Describes (raw : RawMemoryOperation) (operation : MemoryOperation) :
    Prop where
  description : operation.description = raw.desc
  addresses : operation.addresses = raw.addr
  resetValues : operation.resetValues = raw.reset
  minimum : operation.minimum = raw.min

/-- The field has the data of the file. -/
structure RawEepromField.Describes (ε : Type) (raw : RawEepromField) (field : EepromField) :
    Prop where
  location : raw.address = some field.address ∧ raw.range = none ∧
      field.endAddress = field.address ∨
    raw.address = none ∧ raw.range = some (field.address, field.endAddress)
  label : field.label = raw.label
  encoding : EepromFieldEncoding.fromRaw raw.label raw.encoding =
    (.ok field.encoding : Except (SpecError ε) EepromFieldEncoding)
  confidence : EepromFieldConfidence.fromRaw raw.label raw.confidence =
    (.ok field.confidence : Except (SpecError ε) EepromFieldConfidence)
  evidenceNote : field.evidenceNote = raw.evidence
  sensitive : field.sensitive = raw.sensitive

/-- The specification is what the group says of its models. -/
structure RawSpec.Describes (ε : Type) (raw : RawSpec) (spec : EpsonSpec) : Prop where
  brand : spec.brand = raw.brand.getD "EPSON"
  vendorId : spec.vendorId = raw.vendorId.getD 0x04b8
  productId : spec.productId = raw.productId
  readKey : spec.readKey = raw.rkey
  writeKey : spec.writeKey.map latin1Text = raw.writeKey
  shiftedWriteKey : spec.shiftedWriteKey = raw.shiftedWriteKey
  readAddressWidth : spec.readAddressWidth.byteLen = raw.readLength.toNat
  writeAddressWidth : spec.writeAddressWidth.byteLen = raw.writeLength.toNat
  memoryLow : spec.memoryLow = raw.memoryLow
  memoryHigh : spec.memoryHigh = raw.memoryHigh
  memoryOperations : List.Forall₂ RawMemoryOperation.Describes raw.mem spec.memoryOperations
  readOnlyFields : List.Forall₂ (RawEepromField.Describes ε) raw.readOnlyFields
    spec.readOnlyFields

section Validity

variable {ε : Type}

open Except (bind_eq_ok ite_eq_ok mapM_eq_ok forall_of_mapM)

theorem AddressWidth.byteLen_of_fromRaw {field : String} {value : UInt8} {width : AddressWidth}
    (h : (fromRaw field value : Except (SpecError ε) AddressWidth) = .ok width) :
    width.byteLen = value.toNat := by
  unfold fromRaw at h
  split at h
  · cases h
    rfl
  · cases h
    rfl
  · cases h

theorem MemoryOperation.of_tryFrom {raw : RawMemoryOperation} {operation : MemoryOperation}
    (h : (tryFrom raw : Except (SpecError ε) MemoryOperation) = .ok operation) :
    operation.Valid ∧ raw.Describes operation := by
  obtain ⟨haddresses, h⟩ := ite_eq_ok.1 h
  obtain ⟨hreset, h⟩ := ite_eq_ok.1 h
  cases h
  refine ⟨⟨haddresses, ?_⟩, ⟨rfl, rfl, rfl, rfl⟩⟩
  by_cases hnil : raw.reset = []
  · exact .inl ⟨hnil, by simpa using hnil⟩
  · exact .inr ⟨by simpa [hnil] using hreset, by simpa using hnil⟩

theorem RawEepromField.of_location {raw : RawEepromField} {address endAddress : UInt16}
    (h : (raw.location : Except (SpecError ε) (UInt16 × UInt16)) = .ok (address, endAddress)) :
    address ≤ endAddress ∧ (raw.address = some address ∧ raw.range = none ∧ endAddress = address ∨
      raw.address = none ∧ raw.range = some (address, endAddress)) := by
  unfold location at h
  split at h
  case h_1 haddress hrange =>
    cases h
    exact ⟨UInt16.le_refl _, .inl ⟨haddress, hrange, rfl⟩⟩
  case h_2 haddress hrange =>
    split at h
    case isTrue hle =>
      cases h
      exact ⟨hle, .inr ⟨haddress, hrange⟩⟩
    case isFalse => cases h
  case h_3 => cases h

theorem RawEepromField.of_intoEepromField {raw : RawEepromField} {memoryLow memoryHigh : UInt16}
    {field : EepromField} (h : (raw.intoEepromField memoryLow memoryHigh :
      Except (SpecError ε) EepromField) = .ok field) :
    field.Valid memoryLow memoryHigh ∧ raw.Describes ε field := by
  obtain ⟨⟨address, endAddress⟩, hlocation, h⟩ := bind_eq_ok.1 h
  obtain ⟨hrange, h⟩ := ite_eq_ok.1 h
  obtain ⟨encoding, hencoding, h⟩ := bind_eq_ok.1 h
  obtain ⟨hlength, h⟩ := ite_eq_ok.1 h
  obtain ⟨confidence, hconfidence, h⟩ := bind_eq_ok.1 h
  cases h
  obtain ⟨hordered, hplace⟩ := of_location hlocation
  rw [not_or, UInt16.not_lt, UInt16.not_lt] at hrange
  refine ⟨⟨hordered, hrange.1, hrange.2, fun n hn ↦ ?_⟩,
    ⟨hplace, rfl, hencoding, hconfidence, rfl, rfl⟩⟩
  have hle : address.toNat ≤ endAddress.toNat := UInt16.le_iff_toNat_le.1 hordered
  have hn' : encoding.fixedByteLen = some n := hn
  rw [hn'] at hlength
  simp only [Option.any_some, decide_eq_true_eq, not_not] at hlength
  show endAddress.toNat + 1 - address.toNat = n
  omega

/-- Ranges overlap exactly if they have an address in common. -/
theorem EepromField.overlaps_eq_false {field other : EepromField}
    (hfield : field.address ≤ field.endAddress) (hother : other.address ≤ other.endAddress) :
    field.overlaps other = false ↔ field.Disjoint other := by
  rw [UInt16.le_iff_toNat_le] at hfield hother
  rw [overlaps, decide_eq_false_iff_not]
  constructor
  · rintro h address ⟨⟨h₁, h₂⟩, h₃, h₄⟩
    exact h ⟨UInt16.le_trans h₁ h₄, UInt16.le_trans h₃ h₂⟩
  · rintro h ⟨h₁, h₂⟩
    -- The larger of the two first addresses is in both.
    rcases Nat.le_total field.address.toNat other.address.toNat with hle | hle
    · exact h other.address ⟨⟨UInt16.le_iff_toNat_le.2 hle, h₂⟩, UInt16.le_refl _,
        UInt16.le_iff_toNat_le.2 hother⟩
    · exact h field.address ⟨⟨UInt16.le_refl _, UInt16.le_iff_toNat_le.2 hfield⟩,
        UInt16.le_iff_toNat_le.2 hle, h₁⟩

/-- By induction on the fields: those before the next one are disjoint from all that follow. -/
theorem validateReadOnlyFieldsAfter_eq_ok {earlier fields : List EepromField}
    (hordered : ∀ field ∈ earlier ++ fields, field.address ≤ field.endAddress)
    (hearlier : earlier.Pairwise EepromField.Disjoint)
    (h : (validateReadOnlyFieldsAfter earlier fields : Except (SpecError ε) Unit) = .ok ()) :
    (earlier ++ fields).Pairwise EepromField.Disjoint := by
  induction fields generalizing earlier with
  | nil => rwa [List.append_nil]
  | cons field fields ih =>
    rw [validateReadOnlyFieldsAfter] at h
    split at h
    case h_1 => cases h
    case h_2 hnone =>
      rw [List.append_cons] at hordered ⊢
      refine ih hordered (List.pairwise_append.2 ⟨hearlier, List.pairwise_singleton _ _, ?_⟩) h
      intro other hother last hlast
      obtain rfl := List.mem_singleton.1 hlast
      have hfalse : last.overlaps other = false :=
        Bool.eq_false_iff.2 (List.find?_eq_none.1 hnone other hother)
      have hdisjoint := (EepromField.overlaps_eq_false
        (hordered last (List.mem_append_left _ (List.mem_append_right _ hlast)))
        (hordered other (List.mem_append_left _ (List.mem_append_left _ hother)))).1 hfalse
      exact fun address hboth ↦ hdisjoint address hboth.symm

theorem latin1Text_of_latin1Bytes {value : String} {bytes : List UInt8}
    (h : (latin1Bytes value : Except (SpecError ε) (List UInt8)) = .ok bytes) :
    latin1Text bytes = value := by
  have hchars : bytes.map (fun b ↦ Char.ofNat b.toNat) = value.toList := by
    rw [← List.forall₂_eq_eq_eq, List.forall₂_map_left_iff]
    refine (mapM_eq_ok.1 h).flip.imp fun b c hb ↦ ?_
    obtain ⟨hsmall, hb⟩ : c.toNat < 256 ∧ UInt8.ofNat c.toNat = b := by
      unfold latin1Byte at hb
      split at hb
      · exact ⟨by assumption, Except.ok.inj hb⟩
      · cases hb
    rw [← hb, UInt8.toNat_ofNat', Nat.mod_eq_of_lt hsmall, Char.ofNat_toNat]
  rw [latin1Text, hchars, String.ofList_toList]

theorem RawSpec.of_checkedWriteKey {raw : RawSpec} {writeKey : Option (List UInt8)}
    (h : (raw.checkedWriteKey : Except (SpecError ε) _) = .ok writeKey) :
    (∀ key, writeKey = some key → key.length = 8) ∧ writeKey.map latin1Text = raw.writeKey := by
  unfold checkedWriteKey at h
  split at h
  case h_1 hnone =>
    cases h
    exact ⟨nofun, hnone.symm⟩
  case h_2 text hsome =>
    obtain ⟨key, hkey, h⟩ := bind_eq_ok.1 h
    obtain ⟨hlength, h⟩ := ite_eq_ok.1 h
    cases h
    refine ⟨fun key' hkey' ↦ ?_, ?_⟩
    · cases hkey'
      exact not_not.1 hlength
    · rw [Option.map_some, latin1Text_of_latin1Bytes hkey, hsome]

/-- **A group that passes the checks** gives each model a valid specification. -/
theorem RawSpec.of_checked {raw : RawSpec} {spec : String → EpsonSpec}
    (h : (raw.checked : Except (SpecError ε) _) = .ok spec) (model : String) :
    (spec model).model = model ∧ (spec model).Valid ∧ raw.Describes ε (spec model) := by
  obtain ⟨readAddressWidth, hread, h⟩ := bind_eq_ok.1 h
  obtain ⟨writeAddressWidth, hwrite, h⟩ := bind_eq_ok.1 h
  obtain ⟨hmemory, h⟩ := ite_eq_ok.1 h
  obtain ⟨writeKey, hkey, h⟩ := bind_eq_ok.1 h
  obtain ⟨memoryOperations, hoperations, h⟩ := bind_eq_ok.1 h
  obtain ⟨readOnlyFields, hfields, h⟩ := bind_eq_ok.1 h
  obtain ⟨⟨⟩, hdisjoint, h⟩ := bind_eq_ok.1 h
  cases h
  obtain ⟨hlength, htext⟩ := of_checkedWriteKey hkey
  have hvalid : ∀ field ∈ readOnlyFields, field.Valid raw.memoryLow raw.memoryHigh :=
    forall_of_mapM (fun _ _ h ↦ (RawEepromField.of_intoEepromField h).1) hfields
  refine ⟨rfl, ⟨UInt16.not_lt.1 hmemory, hlength, ?_, hvalid, ?_⟩,
    ⟨rfl, rfl, rfl, rfl, htext, rfl, AddressWidth.byteLen_of_fromRaw hread,
      AddressWidth.byteLen_of_fromRaw hwrite, rfl, rfl, ?_, ?_⟩⟩
  · exact forall_of_mapM (fun _ _ h ↦ (MemoryOperation.of_tryFrom h).1) hoperations
  · exact validateReadOnlyFieldsAfter_eq_ok (fun field hfield ↦ (hvalid field hfield).ordered)
      List.Pairwise.nil hdisjoint
  · exact (mapM_eq_ok.1 hoperations).imp fun _ _ h ↦ (MemoryOperation.of_tryFrom h).2
  · exact (mapM_eq_ok.1 hfields).imp fun _ _ h ↦ (RawEepromField.of_intoEepromField h).2

end Validity

/-! ### The stored specifications -/

namespace ModelDatabase

variable {ε : Type}

open Except (bind_eq_ok)

/-- The group is the last that lists the model. -/
def LastListing (groups : List RawSpec) (model : String) (group : RawSpec) : Prop :=
  ∃ before after, groups = before ++ group :: after ∧ model ∈ group.models ∧
    ∀ later ∈ after, model ∉ later.models

theorem foldl_update (spec : String → EpsonSpec) (listed : List String)
    (models : String → Option EpsonSpec) (model : String) :
    listed.foldl (fun models model ↦ Function.update models model (some (spec model))) models
        model = if model ∈ listed then some (spec model) else models model := by
  induction listed generalizing models with
  | nil => rfl
  | cons first listed ih =>
    rw [List.foldl_cons, ih]
    by_cases hmodel : model = first
    · subst hmodel
      simp
    · simp [hmodel]

/-- **What the loop over the groups stores** for a model: the specification of the last group that
lists it, or what was there before. By induction on the groups. -/
theorem of_addGroups {groups : List RawSpec} {models models' : String → Option EpsonSpec}
    (h : (groups.foldlM addGroup models : Except (SpecError ε) _) = .ok models') (model : String) :
    (∃ group spec, LastListing groups model group ∧
      (group.checked : Except (SpecError ε) _) = .ok spec ∧ models' model = some (spec model)) ∨
    (∀ group ∈ groups, model ∉ group.models) ∧ models' model = models model := by
  induction groups generalizing models with
  | nil =>
    cases h
    exact .inr ⟨fun group hgroup ↦ absurd hgroup List.not_mem_nil, rfl⟩
  | cons group groups ih =>
    rw [List.foldlM_cons] at h
    obtain ⟨added, hadded, h⟩ := bind_eq_ok.1 h
    obtain ⟨spec, hspec, hstored⟩ := bind_eq_ok.1 hadded
    cases hstored
    rcases ih h with ⟨last, spec', ⟨before, after, rfl, hlisted, hlater⟩, hlast, hget⟩ |
      ⟨hnone, hget⟩
    · exact .inl ⟨last, spec', ⟨group :: before, after, rfl, hlisted, hlater⟩, hlast, hget⟩
    rw [foldl_update] at hget
    by_cases hmodel : model ∈ group.models
    · rw [if_pos hmodel] at hget
      exact .inl ⟨group, spec, ⟨[], groups, rfl, hmodel, hnone⟩, hspec, hget⟩
    · rw [if_neg hmodel] at hget
      exact .inr ⟨List.forall_mem_cons.2 ⟨hmodel, hnone⟩, hget⟩

variable {fromStr : String → Except ε RawDatabase} {input : String} {database : ModelDatabase}

theorem of_fromToml (h : fromToml fromStr input = .ok database) :
    ∃ raw, fromStr input = .ok raw ∧ raw.epson.foldlM addGroup (fun _ ↦ none) =
      (.ok database.models : Except (SpecError ε) _) := by
  obtain ⟨raw, hraw, h⟩ := bind_eq_ok.1 h
  obtain ⟨models, hmodels, h⟩ := bind_eq_ok.1 h
  cases h
  refine ⟨raw, ?_, hmodels⟩
  rcases hparsed : fromStr input with error | parsed
  · rw [hparsed] at hraw
    cases hraw
  · rw [hparsed] at hraw
    cases hraw
    rfl

/-- What is stored for a model comes from the last group that lists it. -/
theorem get_eq_some (h : fromToml fromStr input = .ok database) {model : String} {spec : EpsonSpec}
    (hget : database.get model = some spec) :
    ∃ raw group, fromStr input = .ok raw ∧ LastListing raw.epson model group ∧
      spec.model = model ∧ spec.Valid ∧ group.Describes ε spec := by
  obtain ⟨raw, hraw, hmodels⟩ := of_fromToml h
  rcases of_addGroups hmodels model with ⟨group, specs, hlast, hchecked, hstored⟩ | ⟨-, hnone⟩
  · cases hget.symm.trans hstored
    exact ⟨raw, group, hraw, hlast, RawSpec.of_checked hchecked model⟩
  · cases hget.symm.trans hnone

theorem valid_of_get (h : fromToml fromStr input = .ok database) {model : String}
    {spec : EpsonSpec} (hget : database.get model = some spec) : spec.Valid := by
  obtain ⟨_, _, -, -, -, hvalid, -⟩ := get_eq_some h hget
  exact hvalid

/-- **The database is valid.** Every specification is stored under its model's name, passes every
check, and is what the last group that lists the model says; and every listed model is stored. -/
theorem fromToml_valid (h : fromToml fromStr input = .ok database) :
    ∃ raw, fromStr input = .ok raw ∧
      (∀ model spec, database.get model = some spec → spec.model = model ∧ spec.Valid ∧
        ∃ group, LastListing raw.epson model group ∧ group.Describes ε spec) ∧
      ∀ group ∈ raw.epson, ∀ model ∈ group.models, ∃ spec, database.get model = some spec := by
  obtain ⟨raw, hraw, hmodels⟩ := of_fromToml h
  refine ⟨raw, hraw, fun model spec hget ↦ ?_, fun group hgroup model hmodel ↦ ?_⟩
  · obtain ⟨raw', group, hraw', hlast, hname, hvalid, hdescribes⟩ := get_eq_some h hget
    cases hraw.symm.trans hraw'
    exact ⟨hname, hvalid, group, hlast, hdescribes⟩
  · rcases of_addGroups hmodels model with ⟨_, specs, -, -, hstored⟩ | ⟨hnone, -⟩
    · exact ⟨specs model, hstored⟩
    · exact absurd hmodel (hnone group hgroup)

/-- Two groups that list the same model. -/
def twoGroups : String :=
  "[[EPSON]]\nmodels = [\"L1300\"]\nrlen = 1\n" ++
    "[[EPSON]]\nmodels = [\"L1300\"]\nwkey = \"banana!!\"\n" ++
    "mem = [\x7b addr = [1, 2], desc = \"Waste counter\", reset = [0, 9] \x7d]\n" ++
    "[[EPSON.read_only_fields]]\nrange = [0x26, 0x27]\nlabel = \"Waste\"\nencoding = \"u16le\"\n" ++
    "confidence = \"confirmed\"\nevidence = \"capture\"\n"

/-- Their records. -/
def twoGroupsRaw : RawDatabase where
  epson := [
    { models := ["L1300"], readLength := 1 },
    { models := ["L1300"]
      writeKey := some "banana!!"
      mem := [{ addr := [1, 2], desc := "Waste counter", reset := [0, 9] }]
      readOnlyFields := [
        { range := some (0x26, 0x27), label := "Waste", encoding := "u16le",
          confidence := "confirmed", evidence := "capture" }] }]

theorem fromToml_valid_of_two_groups :
    let parse : String → Except Unit RawDatabase :=
      fun input ↦ if input = twoGroups then .ok twoGroupsRaw else .error ()
    ∃ database spec, fromToml parse twoGroups = .ok database ∧
      database.get "L1300" = some spec ∧ spec.Valid ∧ spec.readAddressWidth = .two := by
  intro parse
  have hwidth : (fromToml parse twoGroups).toOption.bind
      (fun database ↦ (database.get "L1300").map (·.readAddressWidth)) = some .two := by
    decide +kernel
  rcases h : fromToml parse twoGroups with error | database
  · rw [h] at hwidth
    cases hwidth
  rw [h] at hwidth
  obtain ⟨spec, hget, htwo⟩ := Option.map_eq_some_iff.1 hwidth
  obtain ⟨_, -, hstored, -⟩ := fromToml_valid h
  exact ⟨database, spec, rfl, hget, (hstored _ _ hget).2.1, htwo⟩

end ModelDatabase

end Reink
