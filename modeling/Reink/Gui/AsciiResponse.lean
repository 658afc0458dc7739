import Reink.Core.ReplyGrammar

/-!
# ASCII responses in the trace

The fields that the trace shows for an ASCII response. Its search for a record is written apart from
the parser of read replies: it checks the six characters to be digits where the parser reads pairs
as integers. The two agree on every response but those with a plus sign for a digit.
-/

namespace Reink

open Text (IsAscii digitValue)

/-- The first 80 bytes of a response as text. -/
def asciiSummary (bytes : List UInt8) : String :=
  String.join ((bytes.take 80).map fun byte ↦
    if 0x20 ≤ byte ∧ byte ≤ 0x7e then (Char.ofNat byte.toNat).toString
    else if byte = 0x0d then "\\r"
    else if byte = 0x0a then "\\n"
    else if byte = 0x09 then "\\t"
    else ".") ++ if bytes.length > 80 then "…" else ""

/-- The byte is a hexadecimal digit of either case. -/
def isAsciiHexdigit (byte : UInt8) : Bool :=
  0x30 ≤ byte ∧ byte ≤ 0x39 ∨ 0x41 ≤ byte ∧ byte ≤ 0x46 ∨ 0x61 ≤ byte ∧ byte ≤ 0x66

/-- The byte of a pair of digits. -/
def parseByte (pair : List UInt8) : Option UInt8 :=
  if Text.IsUtf8 pair then Text.u8FromStrRadix pair 16 else none

/-- The fields of every ASCII response. -/
def asciiResponseBase (payload : List UInt8) : List String :=
  ["response=ascii", "ascii=" ++ asciiSummary payload]

/-- The fields of the address and the value. -/
def recordFields (address : UInt16) (value : UInt8) : List String :=
  ["eeprom_address=0x" ++ Text.upperHexadecimal 4 address.toNat,
    "eeprom_value=0x" ++ Text.upperHexadecimal 2 value.toNat]

/-- The lines that are shown for an ASCII response. -/
def asciiResponseFields (payload : List UInt8) : List String :=
  let fields := asciiResponseBase payload
  match Text.find (Text.ascii "EE:") payload with
  | none => fields
  | some marker =>
    match payload.slice? (marker + 3) (marker + 9) with
    | none => fields
    | some hex =>
      if payload[marker + 9]? ≠ some 0x3b ∨ ¬ hex.all isAsciiHexdigit then fields
      else
        match parseByte (hex.take 2), parseByte ((hex.drop 2).take 2), parseByte (hex.drop 4) with
        | some high, some low, some value =>
          fields ++ recordFields (UInt16.fromBeBytes high low) value
        | _, _, _ => fields

section

variable {payload : List UInt8} {h0 l0 h1 l1 h2 l2 high low : UInt8}

theorem isAsciiHexdigit_iff {digit : UInt8} :
    isAsciiHexdigit digit = true ↔ (digitValue 16 digit).isSome := by
  have hdigit := digit.toNat_lt
  simp only [isAsciiHexdigit, digitValue, UInt8.le_iff_toNat_le, UInt8.reduceToNat,
    decide_eq_true_eq]
  split_ifs <;> simp [Option.filter] <;> omega

/-- Two digits are read as the byte they denote. -/
theorem parseByte_of_hexDenotes {b : UInt8} (h : HexDenotes high low b) :
    parseByte [high, low] = some b := by
  rw [parseByte, if_pos h.isAscii.isUtf8, h.u8FromStrRadix]

/-- The checks in front of the digits are those of the parser. -/
theorem holdsField_iff_slice (hascii : IsAscii payload) {hex : List UInt8} :
    HoldsField hex payload ↔ ∃ marker, Text.find (Text.ascii "EE:") payload = some marker ∧
      payload.slice? (marker + 3) (marker + 9) = some hex ∧
      payload[marker + 9]? = some 0x3b := by
  rw [holdsField_iff]
  constructor
  · rintro ⟨-, marker, hfind, hget, hend⟩
    refine ⟨marker, hfind, ?_, hend⟩
    obtain ⟨hlength, -⟩ := List.getElem?_eq_some_iff.1 hend
    rw [hascii.get (by omega) (by omega)] at hget
    exact List.slice?_eq_some_iff.2 ⟨⟨by omega, by omega⟩, Option.some.inj hget⟩
  · rintro ⟨marker, hfind, hslice, hend⟩
    obtain ⟨⟨-, hlength⟩, hhex⟩ := List.slice?_eq_some_iff.1 hslice
    refine ⟨hascii.isUtf8, marker, hfind, ?_, hend⟩
    rw [hascii.get (by omega) (by omega)]
    exact congrArg some hhex

/-- The digits of a record are shown. -/
theorem asciiResponseFields_of_digits {b0 b1 b2 : UInt8} (hascii : IsAscii payload)
    (h : HoldsField [h0, l0, h1, l1, h2, l2] payload) (d0 : HexDenotes h0 l0 b0)
    (d1 : HexDenotes h1 l1 b1) (d2 : HexDenotes h2 l2 b2) :
    asciiResponseFields payload =
      asciiResponseBase payload ++ recordFields (UInt16.fromBeBytes b0 b1) b2 := by
  obtain ⟨marker, hfind, hslice, hend⟩ := (holdsField_iff_slice hascii).1 h
  have hdigits : [h0, l0, h1, l1, h2, l2].all isAsciiHexdigit = true := by
    simp [isAsciiHexdigit_iff, d0.isSome, d1.isSome, d2.isSome]
  unfold asciiResponseFields
  simp only [hfind, hslice]
  rw [if_neg (by simp [hend, hdigits])]
  show (match parseByte [h0, l0], parseByte [h1, l1], parseByte [h2, l2] with
    | some high, some low, some value => _
    | _, _, _ => _) = _
  rw [parseByte_of_hexDenotes d0, parseByte_of_hexDenotes d1, parseByte_of_hexDenotes d2]

/-- Without six digits there is no record. -/
theorem asciiResponseFields_of_not (hascii : IsAscii payload)
    (h : ∀ hex, HoldsField hex payload → hex.all isAsciiHexdigit = false) :
    asciiResponseFields payload = asciiResponseBase payload := by
  unfold asciiResponseFields
  dsimp only
  rcases hfind : Text.find (Text.ascii "EE:") payload with _ | marker
  case none => rfl
  dsimp only
  rcases hslice : payload.slice? (marker + 3) (marker + 9) with _ | hex
  case none => rfl
  dsimp only
  by_cases hend : payload[marker + 9]? = some 0x3b
  case neg => exact if_pos (.inl hend)
  have hnot := h hex ((holdsField_iff_slice hascii).2 ⟨marker, hfind, hslice, hend⟩)
  exact if_pos (.inr (by simp [hnot]))

end

/-- **The grammar of a read reply.** For an ASCII response the parser accepts the records and gives
what their digits denote, and the trace shows an address and a value exactly where the parser for
two-byte addresses accepts, with the same numbers: if and only if no record in it has a plus sign
for a digit. -/
theorem parser_reads_records_iff [CharTables] {response : List UInt8}
    (hascii : IsAscii response) :
    ((∀ width reply, parseEepromReadReply response width = .ok reply ↔
        HoldsRecord width reply response) ∧
      (Text.ascii "@" <+: response ∨ Text.ascii "EE:" <+: response →
        asciiResponseFields response = asciiResponseBase response ++
          match parseEepromReadReply response .two with
          | .ok reply => recordFields reply.address reply.value
          | _ => [])) ↔
      ¬ HoldsSignedRecord response := by
  rw [← reads_records_iff hascii, and_iff_left_iff_imp]
  intro hreads _
  by_cases hrecord : ∃ reply, HoldsRecord .two reply response
  case pos =>
    obtain ⟨reply, hrecord⟩ := hrecord
    rw [(hreads .two reply).2 hrecord]
    obtain ⟨h0, l0, h1, l1, h2, l2, b0, b1, b2, hfield, ⟨d0, d1, d2⟩, rfl⟩ :=
      (holdsRecord_iff hascii).1 hrecord
    exact asciiResponseFields_of_digits hascii hfield d0 d1 d2
  case neg =>
    have hfields : asciiResponseFields response = asciiResponseBase response := by
      refine asciiResponseFields_of_not hascii fun hex hfield ↦ ?_
      by_contra hdigits
      obtain ⟨h0, l0, h1, l1, _, rfl, hlast⟩ := List.exists_of_length_add_four hfield.length
      obtain ⟨h2, l2, rfl⟩ := List.length_eq_two.1 hlast
      rw [Bool.not_eq_false, List.all_eq_true] at hdigits
      have hdigit : ∀ digit ∈ [h0, l0, h1, l1, h2, l2], (digitValue 16 digit).isSome :=
        fun digit hmem ↦ isAsciiHexdigit_iff.1 (hdigits digit hmem)
      obtain ⟨b0, d0⟩ := exists_hexDenotes (hdigit h0 (by simp)) (hdigit l0 (by simp))
      obtain ⟨b1, d1⟩ := exists_hexDenotes (hdigit h1 (by simp)) (hdigit l1 (by simp))
      obtain ⟨b2, d2⟩ := exists_hexDenotes (hdigit h2 (by simp)) (hdigit l2 (by simp))
      exact hrecord ⟨_, (holdsRecord_iff hascii).2
        ⟨h0, l0, h1, l1, h2, l2, b0, b1, b2, hfield, ⟨d0, d1, d2⟩, rfl⟩⟩
    rw [hfields]
    split
    case h_1 reply hreply => exact absurd ⟨reply, (hreads .two reply).1 hreply⟩ hrecord
    case h_2 => exact (List.append_nil _).symm

/-- The reply of a printer to a read. -/
theorem parser_reads_records_of_reply :
    let _ := CharTables.ascii
    let response := Text.ascii "@BDC PS\r\nEE:000C42;"
    parseEepromReadReply response .two = .ok ⟨0x0c, 0x42⟩ ∧
      asciiResponseFields response =
        asciiResponseBase response ++ ["eeprom_address=0x000C", "eeprom_value=0x42"] := by
  intro _ response
  have hfield : HoldsField (Text.ascii "000C42") response :=
    (holdsField_iff_slice (by decide)).2 ⟨9, by decide, by decide, by decide⟩
  have hunsigned : ¬ HoldsSignedRecord response := by
    rintro ⟨h0, l0, h1, l1, h2, l2, hsigned, -, -, hsign⟩
    have hbytes : Text.ascii "000C42" = [0x30, 0x30, 0x30, 0x43, 0x34, 0x32] := by decide
    cases (hsigned.inj hfield).trans hbytes
    revert hsign
    decide
  obtain ⟨-, hfields⟩ := (parser_reads_records_iff (show IsAscii response by decide)).2 hunsigned
  have hparse : parseEepromReadReply response .two = .ok ⟨0x0c, 0x42⟩ := by decide +kernel
  refine ⟨hparse, (hfields (by decide)).trans ?_⟩
  rw [hparse]
  decide +kernel

/-- A sign in front of each of three digits: the parser takes them for a record, and the trace does
not. -/
theorem parser_reads_signed_record :
    let _ := CharTables.ascii
    let response := Text.ascii "EE:+1+2+3;"
    parseEepromReadReply response .two = .ok ⟨0x0102, 3⟩ ∧
      asciiResponseFields response = asciiResponseBase response := by
  decide +kernel

end Reink
