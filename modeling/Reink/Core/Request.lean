import Reink.Core.Command

/-!
# Reading a request back

What a printer can tell from a request: the address it names and, for a write, the value. The two
decoders are exact inverses of the encoders, so a request names one address and one value only, and
no request is a read and a write.
-/

namespace Reink

/-! ### Inversion -/

/-- An address that one byte encodes fits a byte. -/
theorem le_of_encodeAddress {width : AddressWidth} {address : UInt16} {payload : List UInt8}
    (h : encodeAddress width address = .ok payload) (hone : width = .one) : address ≤ 0xff := by
  subst hone
  unfold encodeAddress at h
  dsimp only at h
  split at h
  · cases h
  · rename_i hle
    exact UInt16.not_lt.1 hle

section Inversion

variable {readKey : UInt16} {command : UInt8} {payload encoded request : List UInt8}

/-- A factory command has its command byte behind the two letters, the length and the key, and its
payload behind the two check bytes. -/
theorem drop_encodeFactoryCommand
    (h : encodeFactoryCommand readKey command payload = .ok encoded) :
    encoded[6]? = some command ∧ encoded.drop 9 = payload := by
  unfold encodeFactoryCommand encodeCommand at h
  split at h
  · cases h
    exact ⟨rfl, rfl⟩
  · cases h

variable {spec : EpsonSpec} {address : UInt16} {value : UInt8}

theorem encodeEepromRead_eq_ok : encodeEepromRead spec address = .ok request ↔
    ∃ payload, encodeAddress spec.readAddressWidth address = .ok payload ∧
      encodeFactoryCommand spec.readKey 0x41 payload = .ok request := by
  unfold encodeEepromRead
  rcases encodeAddress spec.readAddressWidth address with e | payload
  · exact ⟨fun h ↦ (nomatch h), fun ⟨_, h, _⟩ ↦ (nomatch h)⟩
  · exact ⟨fun h ↦ ⟨payload, rfl, h⟩, fun ⟨_, h, h'⟩ ↦ Except.ok.inj h ▸ h'⟩

theorem encodeEepromWrite_eq_ok : encodeEepromWrite spec address value = .ok request ↔
    ∃ writeKey payload, spec.writeKey = some writeKey ∧
      encodeAddress spec.writeAddressWidth address = .ok payload ∧
      encodeFactoryCommand spec.readKey 0x42 (payload ++ [value] ++ writeKey) = .ok request := by
  unfold encodeEepromWrite
  rcases spec.writeKey with _ | writeKey
  · exact ⟨fun h ↦ (nomatch h), fun ⟨_, _, h, _⟩ ↦ (nomatch h)⟩
  rcases encodeAddress spec.writeAddressWidth address with e | payload
  · exact ⟨fun h ↦ (nomatch h), fun ⟨_, _, _, h, _⟩ ↦ (nomatch h)⟩
  · exact ⟨fun h ↦ ⟨writeKey, payload, rfl, rfl, h⟩,
      fun ⟨_, _, hkey, h, h'⟩ ↦ by cases hkey; cases h; exact h'⟩

/-- An address that the width can encode can be asked for, in a request of this length. -/
theorem exists_encodeEepromRead (h : spec.readAddressWidth = .one → address ≤ 0xff) :
    ∃ request, encodeEepromRead spec address = .ok request ∧
      request.length = 9 + spec.readAddressWidth.byteLen := by
  obtain ⟨payload, hpayload, hlength⟩ : ∃ payload,
      encodeAddress spec.readAddressWidth address = .ok payload ∧
        payload.length = spec.readAddressWidth.byteLen := by
    rcases hwidth : spec.readAddressWidth with _ | _
    · exact ⟨_, if_neg (UInt16.not_lt.2 (h hwidth)), rfl⟩
    · exact ⟨_, rfl, rfl⟩
  have hwidth : spec.readAddressWidth.byteLen ≤ 2 := by
    cases spec.readAddressWidth <;> decide
  have hletters : (Text.ascii "||").length = 2 := rfl
  have hshort : (spec.readKey.toLeBytes ++ [0x41, ~~~0x41, checkByte 0x41] ++ payload).length <
      65536 := by
    simp only [List.length_append, List.length_cons, List.length_nil, UInt16.length_toLeBytes]
    omega
  refine ⟨_, encodeEepromRead_eq_ok.2 ⟨payload, hpayload, if_pos hshort⟩, ?_⟩
  simp only [List.length_append, List.length_cons, List.length_nil, UInt16.length_toLeBytes]
  omega

/-- A read request is no write request. -/
theorem encodeEepromWrite_ne_of_read {address' : UInt16}
    (h : encodeEepromRead spec address = .ok request) :
    encodeEepromWrite spec address' value ≠ .ok request := by
  intro hwrite
  obtain ⟨payload, -, hread⟩ := encodeEepromRead_eq_ok.1 h
  obtain ⟨writeKey, payload', -, -, hwrite⟩ := encodeEepromWrite_eq_ok.1 hwrite
  have hcommand := (drop_encodeFactoryCommand hread).1
  rw [(drop_encodeFactoryCommand hwrite).1] at hcommand
  exact absurd hcommand (by decide)

end Inversion

/-! ### Decoding -/

/-- The address in front of the bytes, and what stands behind it. -/
def decodeAddress (width : AddressWidth) (bytes : List UInt8) : Option (UInt16 × List UInt8) :=
  match width, bytes with
  | .one, b :: rest => some (b.toUInt16, rest)
  | .two, low :: high :: rest => some (UInt16.fromBeBytes high low, rest)
  | _, _ => none

/-- The address that the request asks to read. -/
def decodeRead (spec : EpsonSpec) (request : List UInt8) : Option UInt16 :=
  match decodeAddress spec.readAddressWidth (request.drop 9) with
  | some (address, _) =>
    if encodeEepromRead spec address = .ok request then some address else none
  | none => none

/-- The address that the request asks to write, and the value for it. -/
def decodeWrite (spec : EpsonSpec) (request : List UInt8) : Option (UInt16 × UInt8) :=
  match decodeAddress spec.writeAddressWidth (request.drop 9) with
  | some (address, value :: _) =>
    if encodeEepromWrite spec address value = .ok request then some (address, value) else none
  | _ => none

section Decoding

variable {spec : EpsonSpec} {address : UInt16} {value : UInt8} {request : List UInt8}

/-- An encoded address is decoded from whatever it stands in front of. -/
theorem decodeAddress_encodeAddress {width : AddressWidth} {payload : List UInt8}
    (h : encodeAddress width address = .ok payload) (rest : List UInt8) :
    decodeAddress width (payload ++ rest) = some (address, rest) := by
  cases width with
  | one =>
    have hle := le_of_encodeAddress h rfl
    obtain rfl : [address.toUInt8] = payload :=
      Except.ok.inj ((if_neg (UInt16.not_lt.2 hle)).symm.trans h)
    simp [decodeAddress, UInt16.toUInt16_toUInt8_of_le hle]
  | two =>
    cases h
    simp [decodeAddress, UInt16.toLeBytes, UInt16.fromBeBytes_div_mod]

theorem decodeRead_eq_some :
    decodeRead spec request = some address ↔ encodeEepromRead spec address = .ok request := by
  constructor
  · intro h
    unfold decodeRead at h
    split at h
    · split at h
      · cases h
        assumption
      · cases h
    · cases h
  · intro h
    obtain ⟨payload, haddress, hcommand⟩ := encodeEepromRead_eq_ok.1 h
    have hdecode := decodeAddress_encodeAddress haddress []
    rw [List.append_nil, ← (drop_encodeFactoryCommand hcommand).2] at hdecode
    simp only [decodeRead, hdecode, if_pos h]

theorem decodeWrite_eq_some : decodeWrite spec request = some (address, value) ↔
    encodeEepromWrite spec address value = .ok request := by
  constructor
  · intro h
    unfold decodeWrite at h
    split at h
    · split at h
      · cases h
        assumption
      · cases h
    · cases h
  · intro h
    obtain ⟨writeKey, payload, -, haddress, hcommand⟩ := encodeEepromWrite_eq_ok.1 h
    have hdecode := decodeAddress_encodeAddress haddress (value :: writeKey)
    have hpayload := (drop_encodeFactoryCommand hcommand).2
    rw [List.append_assoc, List.singleton_append] at hpayload
    rw [← hpayload] at hdecode
    simp only [decodeWrite, hdecode, if_pos h]

end Decoding

end Reink
