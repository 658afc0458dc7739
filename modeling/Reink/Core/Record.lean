import Reink.Core.Command
import Reink.Library.Radix

/-!
# The record of a read reply

What a printer sends for a read: a text, and somewhere in it `EE:`, six hexadecimal digits of either
case and a semicolon. Such a reply is parsed to the address and the value that the digits
denote.
-/

namespace Reink

open Text (IsAscii IsUtf8 digitValue lt_of_digitValue upperDigit)

/-- The two hexadecimal digits denote the byte. -/
inductive HexDenotes (high low : UInt8) : UInt8 → Prop where
  | intro {h l : Nat} (hhigh : digitValue 16 high = some h) (hlow : digitValue 16 low = some l) :
      HexDenotes high low (UInt8.ofNat (h * 16 + l))

/-- The reply that the three bytes of a record are. -/
def replyOfBytes (width : AddressWidth) (b0 b1 b2 : UInt8) : EepromReadReply :=
  match width with
  | .one => ⟨b0.toUInt16, b1⟩
  | .two => ⟨UInt16.fromBeBytes b0 b1, b2⟩

/-- The response holds, as its first record, the one of the reply. -/
inductive HoldsRecord (width : AddressWidth) : EepromReadReply → List UInt8 → Prop where
  | intro {before after : List UInt8} {h0 l0 h1 l1 h2 l2 b0 b1 b2 : UInt8}
      (hbefore : IsUtf8 before) (hafter : IsUtf8 after)
      (hfirst : ¬ Text.ascii "EE:" <:+: before ++ Text.ascii "EE")
      (d0 : HexDenotes h0 l0 b0) (d1 : HexDenotes h1 l1 b1) (d2 : HexDenotes h2 l2 b2) :
      HoldsRecord width (replyOfBytes width b0 b1 b2)
        (before ++ (Text.ascii "EE:" ++ ([h0, l0, h1, l1, h2, l2, 0x3b] ++ after)))

/-! ### Digits -/

section Digits

variable {high low b : UInt8}

theorem HexDenotes.isAscii (h : HexDenotes high low b) : IsAscii [high, low] := by
  obtain ⟨hhigh, hlow⟩ := h
  simp [IsAscii, (lt_of_digitValue hhigh).1, (lt_of_digitValue hlow).1]

theorem hexDenotes_iff : HexDenotes high low b ↔
    ∃ n, Text.denoted 16 [high, low] = some n ∧ UInt8.ofNat n = b := by
  rw [Text.denoted_pair]
  constructor
  · rintro ⟨hhigh, hlow⟩
    exact ⟨_, by rw [hhigh, hlow]; rfl, rfl⟩
  · rintro ⟨n, hn, rfl⟩
    obtain ⟨h, hhigh, hn⟩ := Option.bind_eq_some_iff.1 hn
    obtain ⟨l, hlow, rfl⟩ := Option.map_eq_some_iff.1 hn
    exact .intro hhigh hlow

/-- **What a pair is read as**: the byte it denotes, or the digit behind a plus sign. -/
theorem u8FromStrRadix_pair_iff : Text.u8FromStrRadix [high, low] 16 = some b ↔
    HexDenotes high low b ∨ high = 0x2b ∧ (digitValue 16 low).map UInt8.ofNat = some b := by
  have hroom : 16 ^ [high, low].length ≤ 2 ^ 8 := Nat.le_refl _
  rw [Text.u8FromStrRadix, Option.map_eq_some_iff, Option.map_eq_some_iff, hexDenotes_iff]
  simp only [Text.fromStrRadix_eq_some_iff hroom (by decide : 0 < 16)]
  constructor
  · rintro ⟨n, ⟨-, hn⟩ | ⟨rest, heq, -, hn⟩, rfl⟩
    · exact .inl ⟨n, hn, rfl⟩
    · cases heq
      exact .inr ⟨rfl, n, Text.denoted_singleton low ▸ hn, rfl⟩
  · rintro (⟨n, hn, rfl⟩ | ⟨rfl, n, hn, rfl⟩)
    · exact ⟨n, .inl ⟨by simp, hn⟩, rfl⟩
    · exact ⟨n, .inr ⟨[low], rfl, by simp, (Text.denoted_singleton low).trans hn⟩, rfl⟩

/-- Two digits are read as the byte they denote. -/
theorem HexDenotes.u8FromStrRadix (h : HexDenotes high low b) :
    Text.u8FromStrRadix [high, low] 16 = some b :=
  u8FromStrRadix_pair_iff.2 (.inl h)

end Digits

/-! ### The parser on a record -/

section Parse

variable [CharTables]

theorem decodeHexByte_eq {hex : List UInt8} (hascii : IsAscii hex) {index : Nat}
    {high low b : UInt8} (hdigits : (hex.drop (index * 2)).take 2 = [high, low])
    (h : HexDenotes high low b) : decodeHexByte hex index = .ok b := by
  have hlength : index * 2 + 2 ≤ hex.length := by
    have := congrArg List.length hdigits
    simp at this
    omega
  unfold decodeHexByte
  dsimp only
  rw [hascii.get (by omega) hlength, Nat.add_sub_cancel_left, hdigits, Outcome.orPanic_some,
    Outcome.ok_bind, h.u8FromStrRadix, Outcome.orErr_some]

/-- Three pairs of digits are read as the bytes they denote. -/
theorem decodeHex_eq {h0 l0 h1 l1 h2 l2 b0 b1 b2 : UInt8} (d0 : HexDenotes h0 l0 b0)
    (d1 : HexDenotes h1 l1 b1) (d2 : HexDenotes h2 l2 b2) :
    decodeHex [h0, l0, h1, l1, h2, l2] = .ok (b0, b1, b2) := by
  have hascii : IsAscii [h0, l0, h1, l1, h2, l2] := (d0.isAscii.append d1.isAscii).append d2.isAscii
  unfold decodeHex
  rw [decodeHexByte_eq hascii rfl d0, Outcome.ok_bind, decodeHexByte_eq hascii rfl d1,
    Outcome.ok_bind, decodeHexByte_eq hascii rfl d2, Outcome.ok_bind]
  rfl

/-- **A reply that holds a record is parsed to it.** -/
theorem parseEepromReadReply_of_holdsRecord {width : AddressWidth} {reply : EepromReadReply}
    {response : List UInt8} (h : HoldsRecord width reply response) :
    parseEepromReadReply response width = .ok reply := by
  obtain @⟨before, after, h0, l0, h1, l1, h2, l2, b0, b1, b2, hbefore, hafter, hfirst, d0, d1,
    d2⟩ := h
  have hdigits : IsAscii [h0, l0, h1, l1, h2, l2, 0x3b] :=
    ((d0.isAscii.append d1.isAscii).append d2.isAscii).append (show IsAscii [0x3b] by decide)
  have hmarker : IsAscii (Text.ascii "EE:") := by decide
  have hutf8 := hbefore.append (hmarker.isUtf8.append (hdigits.isUtf8.append hafter))
  have hfind : Text.find (Text.ascii "EE:") (before ++ (Text.ascii "EE:" ++
      ([h0, l0, h1, l1, h2, l2, 0x3b] ++ after))) = some before.length :=
    Text.find_append (by decide) hfirst
  have hstart : (before ++ (Text.ascii "EE:" ++ ([h0, l0, h1, l1, h2, l2, 0x3b] ++ after)))[
      before.length + 3]? = some h0 := by
    rw [List.getElem?_append_right (by omega), Nat.add_sub_cancel_left]
    rfl
  have hend : (before ++ (Text.ascii "EE:" ++ ([h0, l0, h1, l1, h2, l2, 0x3b] ++ after)))[
      before.length + 3 + 6]? = some 0x3b := by
    rw [Nat.add_assoc, List.getElem?_append_right (by omega), Nat.add_sub_cancel_left]
    rfl
  -- The digits and the semicolon behind them are ASCII, so the slice begins and ends on boundaries.
  have hget : Text.get (before ++ (Text.ascii "EE:" ++ ([h0, l0, h1, l1, h2, l2, 0x3b] ++ after)))
      (before.length + 3) (before.length + 3 + 6) = some [h0, l0, h1, l1, h2, l2] := by
    rw [Text.get, if_pos ⟨by omega, Text.isCharBoundary_of_ascii hstart (hdigits h0 (by simp)),
      Text.isCharBoundary_of_ascii hend (by decide)⟩, Nat.add_sub_cancel_left,
      List.drop_length_add_append]
    rfl
  generalize before ++ (Text.ascii "EE:" ++ ([h0, l0, h1, l1, h2, l2, 0x3b] ++ after)) =
    response at *
  unfold parseEepromReadReply
  dsimp only
  rw [if_pos hutf8, hfind, Outcome.orErr_some, Outcome.ok_bind, hget, Outcome.orErr_some,
    Outcome.ok_bind, if_pos hend, decodeHex_eq d0 d1 d2, Outcome.ok_bind]
  cases width <;> rfl

end Parse

/-! ### Writing a record -/

/-- The two digits of the byte. -/
def hexDigits (b : UInt8) : List UInt8 := [upperDigit (b.toNat / 16), upperDigit (b.toNat % 16)]

theorem hexDenotes_upperDigit (b : UInt8) :
    HexDenotes (upperDigit (b.toNat / 16)) (upperDigit (b.toNat % 16)) b := by
  have hb := b.toNat_lt
  have h := HexDenotes.intro (Text.digitValue_upperDigit (b.toNat / 16) (by omega))
    (Text.digitValue_upperDigit (b.toNat % 16) (by omega))
  rwa [Nat.div_add_mod', UInt8.ofNat_toNat] at h

/-- The three bytes of the record of a reply. -/
def recordBytes (width : AddressWidth) (reply : EepromReadReply) : UInt8 × UInt8 × UInt8 :=
  match width with
  | .one => (reply.address.toUInt8, reply.value, 0)
  | .two => (UInt8.ofNat (reply.address.toNat / 256), UInt8.ofNat (reply.address.toNat % 256),
      reply.value)

/-- The record of a reply, and nothing around it. -/
def record (width : AddressWidth) (reply : EepromReadReply) : List UInt8 :=
  let (b0, b1, b2) := recordBytes width reply
  Text.ascii "EE:" ++ (hexDigits b0 ++ hexDigits b1 ++ hexDigits b2 ++ [0x3b])

theorem length_record (width : AddressWidth) (reply : EepromReadReply) :
    (record width reply).length = 10 := by
  cases width <;> rfl

/-- The record of a reply holds it, when the width can encode its address. -/
theorem holdsRecord_record {width : AddressWidth} {reply : EepromReadReply}
    (h : width = .one → reply.address ≤ 0xff) :
    HoldsRecord width reply (record width reply) := by
  obtain ⟨b0, b1, b2, hbytes⟩ : ∃ b0 b1 b2, recordBytes width reply = (b0, b1, b2) := ⟨_, _, _, rfl⟩
  have hreply : replyOfBytes width b0 b1 b2 = reply := by
    cases width with
    | one =>
      cases hbytes
      simp [replyOfBytes, UInt16.toUInt16_toUInt8_of_le (h rfl)]
    | two =>
      cases hbytes
      simp [replyOfBytes, UInt16.fromBeBytes_div_mod]
  have hempty : IsUtf8 [] := IsAscii.isUtf8 (by decide)
  have hrecord : HoldsRecord width (replyOfBytes width b0 b1 b2) _ :=
    .intro hempty hempty (by decide) (hexDenotes_upperDigit b0) (hexDenotes_upperDigit b1)
      (hexDenotes_upperDigit b2)
  rw [hreply] at hrecord
  rw [record, hbytes]
  exact hrecord

end Reink
