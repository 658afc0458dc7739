import Reink.Core.Record

/-!
# The language of the reply parser

What the parser of read replies accepts, and where it panics. The parser slices six bytes behind the
first marker with checked access, but their pairs without: a character across two pairs is a failed
assertion. And it reads a pair as an integer, so that a sign may stand in front of one digit.
-/

namespace Reink

open Text (IsAscii IsUtf8 isCharBoundary digitValue digitValue_lt)

/-- The six bytes stand behind the first marker of the text, which starts a character there, and in
front of a semicolon. -/
structure HoldsField (hex response : List UInt8) : Prop where
  utf8 : IsUtf8 response
  length : hex.length = 6
  split : ∃ before after, response = before ++ (Text.ascii "EE:" ++ (hex ++ ([0x3b] ++ after))) ∧
    ¬ Text.ascii "EE:" <:+: before ++ Text.ascii "EE" ∧
    isCharBoundary response (before.length + 3) = true

section Parse

variable {hex response : List UInt8} {width : AddressWidth}

/-- The checks in front of the digits find the six bytes. -/
theorem holdsField_iff : HoldsField hex response ↔ IsUtf8 response ∧ ∃ marker,
    Text.find (Text.ascii "EE:") response = some marker ∧
    Text.get response (marker + 3) (marker + 3 + 6) = some hex ∧
    response[marker + 3 + 6]? = some 0x3b := by
  constructor
  · rintro ⟨hutf8, hlength, before, after, rfl, hfirst, hboundary⟩
    refine ⟨hutf8, before.length, Text.find_append (by decide) hfirst, ?_⟩
    have hend : (before ++ (Text.ascii "EE:" ++ (hex ++ ([0x3b] ++ after))))[
        before.length + 3 + 6]? = some 0x3b := by
      rw [Nat.add_assoc, List.getElem?_append_right (Nat.le_add_right _ _),
        Nat.add_sub_cancel_left, List.getElem?_append_right (by decide),
        List.getElem?_append_right (by rw [hlength]; decide), hlength]
      rfl
    refine ⟨?_, hend⟩
    rw [Text.get, if_pos ⟨by omega, hboundary, Text.isCharBoundary_of_ascii hend (by decide)⟩,
      Nat.add_sub_cancel_left, List.drop_length_add_append]
    have htake : (hex ++ ([0x3b] ++ after)).take 6 = hex := by rw [← hlength, List.take_left]
    exact congrArg some htake
  · rintro ⟨hutf8, marker, hfind, hget, hend⟩
    obtain ⟨before, after, rfl, rfl, hfirst⟩ := (Text.find_eq_some_iff (by decide)).1 hfind
    unfold Text.get at hget
    split at hget
    case isFalse => cases hget
    case isTrue hbounds =>
      rw [List.drop_length_add_append, Nat.add_sub_cancel_left] at hget
      obtain rfl : after.take 6 = hex := Option.some.inj hget
      rw [Nat.add_assoc, List.getElem?_append_right (Nat.le_add_right _ _),
        Nat.add_sub_cancel_left] at hend
      have hsix : after[6]? = some 0x3b := hend
      obtain ⟨hlength, hsemicolon⟩ := List.getElem?_eq_some_iff.1 hsix
      refine ⟨hutf8, by rw [List.length_take]; omega, before, after.drop 7, ?_, hfirst, hbounds.2.1⟩
      have hsplit : after = after.take 6 ++ ([0x3b] ++ after.drop 7) := by
        conv_lhs => rw [← List.take_append_drop 6 after, List.drop_eq_getElem_cons hlength,
          hsemicolon]
        rfl
      rw [← hsplit]

variable [CharTables]

/-- What is parsed is what the six bytes decode to. -/
theorem parseEepromReadReply_of_holdsField (h : HoldsField hex response) :
    parseEepromReadReply response width =
      (decodeHex hex).bind fun bytes ↦ .ok (replyOfBytes width bytes.1 bytes.2.1 bytes.2.2) := by
  obtain ⟨hutf8, marker, hfind, hget, hend⟩ := holdsField_iff.1 h
  unfold parseEepromReadReply
  dsimp only
  rw [if_pos hutf8, hfind, Outcome.orErr_some, Outcome.ok_bind, hget, Outcome.orErr_some,
    Outcome.ok_bind, if_pos hend]
  cases width <;> rfl

/-- Without them there is an error. -/
theorem parseEepromReadReply_of_not (width : AddressWidth)
    (h : ∀ hex, ¬ HoldsField hex response) :
    ∃ error, parseEepromReadReply response width = .err error := by
  unfold parseEepromReadReply
  by_cases hutf8 : IsUtf8 response
  case neg => exact ⟨_, if_neg hutf8⟩
  rw [if_pos hutf8]
  rcases hfind : Text.find (Text.ascii "EE:") response with _ | marker
  case none => exact ⟨_, rfl⟩
  rw [Outcome.orErr_some, Outcome.ok_bind]
  dsimp only
  rcases hget : Text.get response (marker + 3) (marker + 3 + 6) with _ | hex
  case none => exact ⟨_, rfl⟩
  rw [Outcome.orErr_some, Outcome.ok_bind]
  by_cases hend : response[marker + 3 + 6]? = some 0x3b
  case neg => exact ⟨_, if_neg hend⟩
  exact absurd (holdsField_iff.2 ⟨hutf8, marker, hfind, hget, hend⟩) (h hex)

/-! ### Six bytes -/

/-- What the pair at the index is read as. -/
def pairAt (hex : List UInt8) (index : Nat) : Option UInt8 :=
  Text.u8FromStrRadix ((hex.drop (index * 2)).take 2) 16

/-- A pair between two boundaries is read or is an error. -/
theorem decodeHexByte_of_boundaries (index : Nat)
    (hstart : isCharBoundary hex (index * 2) = true)
    (hstop : isCharBoundary hex (index * 2 + 2) = true) :
    ∃ error, decodeHexByte hex index = Outcome.orErr (pairAt hex index) error := by
  unfold decodeHexByte
  dsimp only
  rw [Text.get, if_pos ⟨Nat.le_add_right _ _, hstart, hstop⟩, Nat.add_sub_cancel_left,
    Outcome.orPanic_some, Outcome.ok_bind]
  exact ⟨_, rfl⟩

theorem decodeHexByte_of_cut (index : Nat)
    (hcut : ¬ (isCharBoundary hex (index * 2) = true ∧
      isCharBoundary hex (index * 2 + 2) = true)) :
    decodeHexByte hex index = .panic "byte index is not a char boundary" := by
  unfold decodeHexByte
  dsimp only
  rw [Text.get, if_neg fun h ↦ hcut h.2]
  rfl

omit [CharTables] in
theorem isCharBoundary_ends (h : hex.length = 6) :
    isCharBoundary hex 0 = true ∧ isCharBoundary hex 6 = true := by
  constructor
  · rw [isCharBoundary, List.getElem?_eq_getElem (by omega)]
    rfl
  · rw [isCharBoundary, List.getElem?_eq_none h.le, h]
    rfl

/-- Six bytes whose pairs are characters are read pair by pair. -/
theorem decodeHex_of_boundaries (hlength : hex.length = 6)
    (h2 : isCharBoundary hex 2 = true) (h4 : isCharBoundary hex 4 = true) :
    (∀ b0 b1 b2, decodeHex hex = .ok (b0, b1, b2) ↔
      pairAt hex 0 = some b0 ∧ pairAt hex 1 = some b1 ∧ pairAt hex 2 = some b2) ∧
    ((∃ bytes, decodeHex hex = .ok bytes) ∨ ∃ error, decodeHex hex = .err error) := by
  obtain ⟨h0, h6⟩ := isCharBoundary_ends hlength
  obtain ⟨e0, hfirst⟩ := decodeHexByte_of_boundaries 0 h0 h2
  obtain ⟨e1, hsecond⟩ := decodeHexByte_of_boundaries 1 h2 h4
  obtain ⟨e2, hthird⟩ := decodeHexByte_of_boundaries 2 h4 h6
  unfold decodeHex
  rw [hfirst, hsecond, hthird]
  rcases pairAt hex 0 with _ | b0
  · exact ⟨by simp [Outcome.orErr], .inr ⟨e0, rfl⟩⟩
  rcases pairAt hex 1 with _ | b1
  · exact ⟨by simp [Outcome.orErr], .inr ⟨e1, rfl⟩⟩
  rcases pairAt hex 2 with _ | b2
  · exact ⟨by simp [Outcome.orErr], .inr ⟨e2, rfl⟩⟩
  · exact ⟨by simp [Outcome.orErr], .inl ⟨_, rfl⟩⟩

/-- The decoding of six bytes cuts a character: the second boundary is reached if the first pair has
been read. -/
def CutsPair (hex : List UInt8) : Prop :=
  isCharBoundary hex 2 = false ∨ (pairAt hex 0).isSome ∧ isCharBoundary hex 4 = false

/-- **Six bytes are decoded or an error exactly if no character is cut.** -/
theorem decodeHex_returns_iff (hlength : hex.length = 6) :
    ((∃ bytes, decodeHex hex = .ok bytes) ∨ ∃ error, decodeHex hex = .err error) ↔
      ¬ CutsPair hex := by
  obtain ⟨h0, -⟩ := isCharBoundary_ends hlength
  unfold CutsPair
  rcases h2 : isCharBoundary hex 2 with _ | _
  case false =>
    have hpanic : decodeHex hex = .panic "byte index is not a char boundary" := by
      rw [decodeHex, decodeHexByte_of_cut 0 (by simp [h2]), Outcome.panic_bind]
    simp [hpanic]
  case true =>
    rcases h4 : isCharBoundary hex 4 with _ | _
    case true => exact iff_of_true (decodeHex_of_boundaries hlength h2 h4).2 (by simp)
    case false =>
      -- the second pair is reached if the first is read
      obtain ⟨error, hfirst⟩ := decodeHexByte_of_boundaries 0 h0 h2
      rcases hpair : pairAt hex 0 with _ | b0
      · have herr : decodeHex hex = .err error := by
          rw [decodeHex, hfirst, hpair]
          rfl
        simp [herr]
      · have hpanic : decodeHex hex = .panic "byte index is not a char boundary" := by
          rw [decodeHex, hfirst, hpair, Outcome.orErr_some, Outcome.ok_bind,
            decodeHexByte_of_cut 1 (by simp [h4]), Outcome.panic_bind]
        simp [hpanic]

end Parse

/-- A character is cut between the pairs behind the first marker. -/
def CutsCharacter (response : List UInt8) : Prop := ∃ hex, HoldsField hex response ∧ CutsPair hex

/-- The six bytes are determined. -/
theorem HoldsField.inj {hex hex' response : List UInt8} (h : HoldsField hex response)
    (h' : HoldsField hex' response) : hex = hex' := by
  obtain ⟨-, marker, hfind, hget, -⟩ := holdsField_iff.1 h
  obtain ⟨-, marker', hfind', hget', -⟩ := holdsField_iff.1 h'
  cases hfind.symm.trans hfind'
  exact Option.some.inj (hget.symm.trans hget')

/-- **When the parser returns.** For every byte string and both widths it gives a reply or an error,
and does not panic, exactly if no character is cut. -/
theorem parseEepromReadReply_returns_iff [CharTables] (response : List UInt8)
    (width : AddressWidth) :
    ((∃ reply, parseEepromReadReply response width = .ok reply) ∨
        ∃ error, parseEepromReadReply response width = .err error) ↔
      ¬ CutsCharacter response := by
  by_cases hfield : ∃ hex, HoldsField hex response
  case neg =>
    have herror := parseEepromReadReply_of_not width fun hex h ↦ hfield ⟨hex, h⟩
    exact ⟨fun _ ⟨hex, h, _⟩ ↦ hfield ⟨hex, h⟩, fun _ ↦ .inr herror⟩
  obtain ⟨hex, h⟩ := hfield
  have hcuts : CutsCharacter response ↔ CutsPair hex :=
    ⟨fun ⟨_, h', hcut⟩ ↦ h'.inj h ▸ hcut, fun hcut ↦ ⟨hex, h, hcut⟩⟩
  rw [hcuts, ← decodeHex_returns_iff h.length, parseEepromReadReply_of_holdsField h]
  rcases decodeHex hex with bytes | error | message | _
  · exact ⟨fun _ ↦ .inl ⟨bytes, rfl⟩, fun _ ↦ .inl ⟨_, rfl⟩⟩
  · exact ⟨fun _ ↦ .inr ⟨error, rfl⟩, fun _ ↦ .inr ⟨error, rfl⟩⟩
  · simp [Outcome.bind]
  · simp [Outcome.bind]

/-- An accented letter behind the first digit, where the pairs of the other digits do not start. -/
theorem parseEepromReadReply_panics :
    let _ := CharTables.ascii
    parseEepromReadReply
        [0x45, 0x45, 0x3a, 0x30, 0xc3, 0xa9, 0x30, 0x30, 0x30, 0x3b] .two =
      .panic "byte index is not a char boundary" := by
  decide +kernel

/-! ### ASCII responses -/

section Ascii

variable {response : List UInt8} {h0 l0 h1 l1 h2 l2 high low b : UInt8}

/-- A sign denotes nothing. -/
theorem HexDenotes.ne_sign (h : HexDenotes high low b) : high ≠ 0x2b := by
  obtain ⟨hhigh, -⟩ := h
  rintro rfl
  cases hhigh

/-- A digit behind a plus sign is read as its value. -/
theorem u8FromStrRadix_signed :
    Text.u8FromStrRadix [0x2b, low] 16 = (digitValue 16 low).map UInt8.ofNat := by
  refine Option.ext fun b ↦ ?_
  rw [u8FromStrRadix_pair_iff, or_iff_right fun h ↦ h.ne_sign rfl]
  exact and_iff_right rfl

/-- Without a sign what a pair is read as is what its digits denote. -/
theorem hexDenotes_of_u8FromStrRadix (hsign : high ≠ 0x2b)
    (h : Text.u8FromStrRadix [high, low] 16 = some b) : HexDenotes high low b :=
  (u8FromStrRadix_pair_iff.1 h).resolve_right fun h ↦ hsign h.1

theorem HexDenotes.isSome (h : HexDenotes high low b) :
    (digitValue 16 high).isSome ∧ (digitValue 16 low).isSome := by
  obtain ⟨hhigh, hlow⟩ := h
  rw [hhigh, hlow]
  exact ⟨rfl, rfl⟩

theorem exists_hexDenotes (hhigh : (digitValue 16 high).isSome)
    (hlow : (digitValue 16 low).isSome) : ∃ b, HexDenotes high low b := by
  obtain ⟨dh, hdh⟩ := Option.isSome_iff_exists.1 hhigh
  obtain ⟨dl, hdl⟩ := Option.isSome_iff_exists.1 hlow
  exact ⟨_, .intro hdh hdl⟩

/-- **The language of a pair**: two digits, or a plus sign and a digit. -/
theorem isSome_u8FromStrRadix_iff : (Text.u8FromStrRadix [high, low] 16).isSome ↔
    ((digitValue 16 high).isSome ∨ high = 0x2b) ∧ (digitValue 16 low).isSome := by
  by_cases hsign : high = 0x2b
  case pos =>
    rw [hsign, u8FromStrRadix_signed, Option.isSome_map]
    simp
  case neg =>
    constructor
    · intro h
      obtain ⟨b, hb⟩ := Option.isSome_iff_exists.1 h
      exact (hexDenotes_of_u8FromStrRadix hsign hb).isSome.imp_left .inl
    · rintro ⟨hhigh, hlow⟩
      obtain ⟨b, hb⟩ := exists_hexDenotes (hhigh.resolve_right hsign) hlow
      rw [hb.u8FromStrRadix]
      rfl

/-- The six characters behind the first marker are pairs of digits, with a plus sign for the first
digit of at least one of them. -/
def HoldsSignedRecord (response : List UInt8) : Prop :=
  ∃ h0 l0 h1 l1 h2 l2, HoldsField [h0, l0, h1, l1, h2, l2] response ∧
    (∀ low ∈ [l0, l1, l2], (digitValue 16 low).isSome) ∧
    (∀ high ∈ [h0, h1, h2], (digitValue 16 high).isSome ∨ high = 0x2b) ∧ 0x2b ∈ [h0, h1, h2]

/-- The record of an ASCII response is six digits in the place of its first record. -/
theorem holdsRecord_iff {width : AddressWidth} {reply : EepromReadReply}
    (hascii : IsAscii response) : HoldsRecord width reply response ↔
      ∃ h0 l0 h1 l1 h2 l2 b0 b1 b2, HoldsField [h0, l0, h1, l1, h2, l2] response ∧
        (HexDenotes h0 l0 b0 ∧ HexDenotes h1 l1 b1 ∧ HexDenotes h2 l2 b2) ∧
        replyOfBytes width b0 b1 b2 = reply := by
  constructor
  · rintro @⟨before, after, h0, l0, h1, l1, h2, l2, b0, b1, b2, -, -, hfirst, d0, d1, d2⟩
    refine ⟨h0, l0, h1, l1, h2, l2, b0, b1, b2, ⟨hascii.isUtf8, rfl, before, after, rfl, hfirst,
      hascii.isCharBoundary ?_⟩, ⟨d0, d1, d2⟩, rfl⟩
    have hmarker : (Text.ascii "EE:").length = 3 := rfl
    rw [List.length_append, List.length_append, hmarker]
    omega
  · rintro ⟨h0, l0, h1, l1, h2, l2, b0, b1, b2, ⟨-, -, before, after, rfl, hfirst, -⟩,
      ⟨d0, d1, d2⟩, rfl⟩
    have hbefore : IsAscii before := fun b hb ↦ hascii b (by simp [hb])
    have hafter : IsAscii after := fun b hb ↦ hascii b (by simp [hb])
    exact .intro hbefore.isUtf8 hafter.isUtf8 hfirst d0 d1 d2

variable [CharTables]

/-- ASCII digits are read pair by pair. -/
theorem decodeHex_ascii_iff {b0 b1 b2 : UInt8} (hascii : IsAscii [h0, l0, h1, l1, h2, l2]) :
    decodeHex [h0, l0, h1, l1, h2, l2] = .ok (b0, b1, b2) ↔
      Text.u8FromStrRadix [h0, l0] 16 = some b0 ∧ Text.u8FromStrRadix [h1, l1] 16 = some b1 ∧
        Text.u8FromStrRadix [h2, l2] 16 = some b2 :=
  (decodeHex_of_boundaries rfl (hascii.isCharBoundary (by simp))
    (hascii.isCharBoundary (by simp))).1 b0 b1 b2

omit [CharTables] in
theorem HoldsField.isAscii {hex : List UInt8} (h : HoldsField hex response)
    (hascii : IsAscii response) : IsAscii hex := by
  obtain ⟨-, -, before, after, rfl, -, -⟩ := h
  exact fun b hb ↦ hascii b (by simp [hb])

/-- **The language of the parser** on ASCII responses: three pairs behind the first marker, each of
which is read. -/
theorem parseEepromReadReply_ascii_iff {width : AddressWidth} {reply : EepromReadReply}
    (hascii : IsAscii response) : parseEepromReadReply response width = .ok reply ↔
      ∃ h0 l0 h1 l1 h2 l2 b0 b1 b2, HoldsField [h0, l0, h1, l1, h2, l2] response ∧
        (Text.u8FromStrRadix [h0, l0] 16 = some b0 ∧ Text.u8FromStrRadix [h1, l1] 16 = some b1 ∧
          Text.u8FromStrRadix [h2, l2] 16 = some b2) ∧ replyOfBytes width b0 b1 b2 = reply := by
  constructor
  · intro hparse
    by_cases hfield : ∃ hex, HoldsField hex response
    case neg =>
      obtain ⟨error, herror⟩ :=
        parseEepromReadReply_of_not width fun hex h ↦ hfield ⟨hex, h⟩
      cases hparse.symm.trans herror
    obtain ⟨hex, h⟩ := hfield
    obtain ⟨h0, l0, h1, l1, _, rfl, hlast⟩ := List.exists_of_length_add_four h.length
    obtain ⟨h2, l2, rfl⟩ := List.length_eq_two.1 hlast
    rw [parseEepromReadReply_of_holdsField h] at hparse
    rcases hdecode : decodeHex [h0, l0, h1, l1, h2, l2] with ⟨b0, b1, b2⟩ | error | message | _
    · rw [hdecode] at hparse
      exact ⟨h0, l0, h1, l1, h2, l2, b0, b1, b2, h,
        (decodeHex_ascii_iff (h.isAscii hascii)).1 hdecode, Outcome.ok.inj hparse⟩
    all_goals
      rw [hdecode] at hparse
      cases hparse
  · rintro ⟨h0, l0, h1, l1, h2, l2, b0, b1, b2, h, hpairs, rfl⟩
    rw [parseEepromReadReply_of_holdsField h,
      (decodeHex_ascii_iff (h.isAscii hascii)).2 hpairs]
    rfl

/-- **The parser reads records**, and nothing else, exactly where no plus sign stands for a digit.
-/
theorem reads_records_iff (hascii : IsAscii response) :
    (∀ width reply, parseEepromReadReply response width = .ok reply ↔
        HoldsRecord width reply response) ↔ ¬ HoldsSignedRecord response := by
  constructor
  · rintro hreads ⟨h0, l0, h1, l1, h2, l2, hfield, hlow, hhigh, hsign⟩
    simp only [List.forall_mem_cons, List.not_mem_nil, false_implies, implies_true, and_true]
      at hlow hhigh
    obtain ⟨b0, hb0⟩ := Option.isSome_iff_exists.1
      (isSome_u8FromStrRadix_iff.2 ⟨hhigh.1, hlow.1⟩)
    obtain ⟨b1, hb1⟩ := Option.isSome_iff_exists.1
      (isSome_u8FromStrRadix_iff.2 ⟨hhigh.2.1, hlow.2.1⟩)
    obtain ⟨b2, hb2⟩ := Option.isSome_iff_exists.1
      (isSome_u8FromStrRadix_iff.2 ⟨hhigh.2.2, hlow.2.2⟩)
    have hparse : parseEepromReadReply response .two = .ok (replyOfBytes .two b0 b1 b2) :=
      (parseEepromReadReply_ascii_iff hascii).2
        ⟨h0, l0, h1, l1, h2, l2, b0, b1, b2, hfield, ⟨hb0, hb1, hb2⟩, rfl⟩
    obtain ⟨_, _, _, _, _, _, _, _, _, hfield', ⟨d0, d1, d2⟩, -⟩ :=
      (holdsRecord_iff hascii).1 ((hreads _ _).1 hparse)
    cases hfield.inj hfield'
    simp [d0.ne_sign.symm, d1.ne_sign.symm, d2.ne_sign.symm] at hsign
  · intro hsigned width reply
    rw [parseEepromReadReply_ascii_iff hascii, holdsRecord_iff hascii]
    constructor
    · rintro ⟨h0, l0, h1, l1, h2, l2, b0, b1, b2, hfield, ⟨hb0, hb1, hb2⟩, hreply⟩
      have hp0 := isSome_u8FromStrRadix_iff.1 (Option.isSome_of_mem hb0)
      have hp1 := isSome_u8FromStrRadix_iff.1 (Option.isSome_of_mem hb1)
      have hp2 := isSome_u8FromStrRadix_iff.1 (Option.isSome_of_mem hb2)
      have hno : 0x2b ∉ [h0, h1, h2] := fun hsign ↦ hsigned
        ⟨h0, l0, h1, l1, h2, l2, hfield, by simp [hp0.2, hp1.2, hp2.2],
          by simp [hp0.1, hp1.1, hp2.1], hsign⟩
      simp only [List.mem_cons, List.not_mem_nil, or_false, not_or] at hno
      exact ⟨h0, l0, h1, l1, h2, l2, b0, b1, b2, hfield,
        ⟨hexDenotes_of_u8FromStrRadix (Ne.symm hno.1) hb0,
          hexDenotes_of_u8FromStrRadix (Ne.symm hno.2.1) hb1,
          hexDenotes_of_u8FromStrRadix (Ne.symm hno.2.2) hb2⟩, hreply⟩
    · rintro ⟨h0, l0, h1, l1, h2, l2, b0, b1, b2, hfield, ⟨d0, d1, d2⟩, hreply⟩
      exact ⟨h0, l0, h1, l1, h2, l2, b0, b1, b2, hfield,
        ⟨d0.u8FromStrRadix, d1.u8FromStrRadix, d2.u8FromStrRadix⟩, hreply⟩

end Ascii

end Reink
