import Mathlib.Data.List.Basic
import Mathlib.Data.List.Infix
import Mathlib.Data.UInt

/-!
# Text as bytes

A text slice is the list of its bytes, as it is in memory; that it is valid UTF-8 is a fact about
the list. Offsets count bytes, and a slice may be taken only at offsets on a character boundary, so
taking one is partial.

Debug formatting depends on tables of the standard library for characters beyond ASCII. They are the
class `CharTables`.
-/

/-- The Unicode tables that debug formatting consults. -/
class CharTables where
  /-- Whether a character beyond ASCII is written as it is. -/
  printable : Char → Bool

/-- Tables that know no character beyond ASCII. -/
@[reducible] def CharTables.ascii : CharTables where
  printable _ := false

namespace Text

/-- The bytes of an ASCII text. -/
def ascii (text : String) : List UInt8 := text.toList.map fun c ↦ UInt8.ofNat c.toNat

/-- Whether every byte is ASCII. -/
def IsAscii (bytes : List UInt8) : Prop := ∀ b ∈ bytes, b < 0x80

instance (bytes : List UInt8) : Decidable (IsAscii bytes) :=
  List.decidableBAll (fun b ↦ b < 0x80) bytes

/-- The bytes are the UTF-8 encoding of a text. -/
def IsUtf8 (bytes : List UInt8) : Prop := bytes.toByteArray.IsValidUTF8

instance (bytes : List UInt8) : Decidable (IsUtf8 bytes) :=
  inferInstanceAs (Decidable bytes.toByteArray.IsValidUTF8)

/-- Whether a character starts or the text ends at the offset. -/
def isCharBoundary (bytes : List UInt8) (index : Nat) : Bool :=
  match bytes[index]? with
  | some b => index = 0 || b < 0x80 || 0xC0 ≤ b
  | none => index = bytes.length

/-- The slice between two offsets, when both are on a boundary. -/
def get (bytes : List UInt8) (start stop : Nat) : Option (List UInt8) :=
  if start ≤ stop ∧ isCharBoundary bytes start ∧ isCharBoundary bytes stop then
    some ((bytes.drop start).take (stop - start))
  else none

/-- The offset of the first occurrence of the pattern. -/
def find (pattern : List UInt8) : List UInt8 → Option Nat
  | [] => if pattern = [] then some 0 else none
  | b :: rest => if pattern <+: b :: rest then some 0 else (find pattern rest).map (· + 1)

/-- Whether the pattern occurs as a window of the bytes. -/
def contains (pattern bytes : List UInt8) : Bool := pattern <:+: bytes

/-- Whether the bytes are the same up to the case of ASCII letters. -/
def eqIgnoreAsciiCase (bytes bytes' : List UInt8) : Bool :=
  bytes.map UInt8.toAsciiLower == bytes'.map UInt8.toAsciiLower

/-- The offset of the first window of the bytes that is the pattern up to case. -/
def findIgnoreAsciiCase (pattern bytes : List UInt8) : Option Nat :=
  (List.range (bytes.length + 1 - pattern.length)).find? fun offset ↦
    eqIgnoreAsciiCase ((bytes.drop offset).take pattern.length) pattern

/-- The text with its ASCII letters in lower case. -/
def toAsciiLowercase (text : String) : String := String.ofList (text.toList.map Char.toLower)

/-- Whether the fragment occurs in the text. -/
def occursIn (fragment text : String) : Bool := fragment.toList <:+: text.toList

/-! ### Numbers -/

/-- The value of a digit in the radix. -/
def digitValue (radix : Nat) (digit : UInt8) : Option Nat :=
  let value :=
    if 48 ≤ digit ∧ digit ≤ 57 then some (digit.toNat - 48)
    else if 97 ≤ digit ∧ digit ≤ 122 then some (digit.toNat - 97 + 10)
    else if 65 ≤ digit ∧ digit ≤ 90 then some (digit.toNat - 65 + 10)
    else none
  value.filter (· < radix)

/-- An unsigned number below the bound. A plus sign may stand in front of the digits. -/
def fromStrRadix (bound : Nat) (text : List UInt8) (radix : Nat) : Option Nat :=
  match text with
  | [] | [43] | [45] => none
  | 43 :: digits => value digits
  | digits => value digits
where
  value (digits : List UInt8) : Option Nat :=
    digits.foldlM (fun total digit ↦
      (digitValue radix digit).bind fun d ↦
        if total * radix + d < bound then some (total * radix + d) else none) 0

/-- `u8::from_str_radix`. -/
def u8FromStrRadix (text : List UInt8) (radix : Nat) : Option UInt8 :=
  (fromStrRadix (2 ^ 8) text radix).map UInt8.ofNat

/-- `u16::from_str_radix`. -/
def u16FromStrRadix (text : List UInt8) (radix : Nat) : Option UInt16 :=
  (fromStrRadix (2 ^ 16) text radix).map UInt16.ofNat

/-- The number in lower-case hexadecimal after `0x`, padded with zeros to the width over all. -/
def hexadecimal (width value : Nat) : String :=
  "0x" ++ String.ofList ((Nat.toDigits 16 value).leftpad (width - 2) '0')

/-- The number in upper-case hexadecimal, padded with zeros to the width. -/
def upperHexadecimal (width value : Nat) : String :=
  String.ofList (((Nat.toDigits 16 value).map Char.toUpper).leftpad width '0')

/-! ### Debug formatting -/

/-- The character as debug formatting writes it inside a text. -/
def debugChar [CharTables] (c : Char) : String :=
  match c with
  | '\x00' => "\\0"
  | '\t' => "\\t"
  | '\r' => "\\r"
  | '\n' => "\\n"
  | '"' => "\\\""
  | '\\' => "\\\\"
  | _ =>
    if (32 ≤ c.toNat ∧ c.toNat < 127) ∨ (128 ≤ c.toNat ∧ CharTables.printable c) then c.toString
    else "\\u\x7b" ++ String.ofList (Nat.toDigits 16 c.toNat) ++ "\x7d"

/-- The text in quotes, as debug formatting writes it. -/
def debug [CharTables] (text : String) : String :=
  "\"" ++ String.join (text.toList.map debugChar) ++ "\""

/-- The bytes of a text. -/
def utf8 (text : String) : List UInt8 := text.toList.flatMap String.utf8EncodeChar

/-- The text with the bytes. -/
def ofBytes (bytes : List UInt8) : String := (String.fromUTF8? bytes.toByteArray).getD ""

/-! ### The bytes of a text -/

theorem toByteArray_utf8 (text : String) : (utf8 text).toByteArray = text.toByteArray :=
  String.utf8Encode_toList

/-- A text is known by its bytes. -/
theorem utf8_inj {text text' : String} : utf8 text = utf8 text' ↔ text = text' := by
  refine ⟨fun h ↦ String.toByteArray_inj.1 ?_, congrArg utf8⟩
  rw [← toByteArray_utf8, h, toByteArray_utf8]

/-- The bytes of a text are text. -/
theorem isUtf8_utf8 (text : String) : IsUtf8 (utf8 text) := by
  rw [IsUtf8, toByteArray_utf8]
  exact text.isValidUTF8

theorem ofBytes_utf8 (text : String) : ofBytes (utf8 text) = text := by
  rw [ofBytes, toByteArray_utf8, String.fromUTF8?, dif_pos text.isValidUTF8]
  rfl

theorem utf8_join (texts : List String) : utf8 (String.join texts) = texts.flatMap utf8 := by
  rw [utf8, String.toList_join, List.flatMap_assoc]
  rfl

/-! ### ASCII texts -/

section Ascii

variable {bytes before after pattern : List UInt8}

theorem IsAscii.append (h : IsAscii before) (h' : IsAscii after) : IsAscii (before ++ after) := by
  intro b hb
  exact (List.mem_append.1 hb).elim (h b) (h' b)

/-- A byte is the code of a character. -/
theorem toNat_charOfNat (b : UInt8) : (Char.ofNat b.toNat).toNat = b.toNat := by
  have hb := b.toNat_lt
  have hvalid : b.toNat.isValidChar := .inl (by omega)
  rw [Char.ofNat, dif_pos hvalid]
  rfl

/-- An ASCII byte is the whole encoding of its character. -/
theorem utf8EncodeChar_ofNat {b : UInt8} (h : b < 0x80) :
    String.utf8EncodeChar (Char.ofNat b.toNat) = [b] := by
  have hb : b.toNat < 128 := UInt8.lt_iff_toNat_lt.1 h
  have hchar := toNat_charOfNat b
  have hsize : (Char.ofNat b.toNat).utf8Size = 1 := by
    rw [Char.utf8Size_eq_one_iff, UInt32.le_iff_toNat_le]
    show (Char.ofNat b.toNat).toNat ≤ 127
    omega
  rw [String.utf8EncodeChar_eq_singleton hsize]
  congr 1
  apply UInt8.toNat_inj.1
  show (Char.ofNat b.toNat).toNat % 256 = b.toNat
  omega

theorem IsAscii.isUtf8 (h : IsAscii bytes) : IsUtf8 bytes := by
  refine ⟨bytes.map fun b ↦ Char.ofNat b.toNat, ?_⟩
  show bytes.toByteArray = (List.flatMap _ _).toByteArray
  congr 1
  induction bytes with
  | nil => rfl
  | cons b rest ih =>
    rw [List.map_cons, List.flatMap_cons, utf8EncodeChar_ofNat (h b List.mem_cons_self),
      ← ih fun c hc ↦ h c (List.mem_cons_of_mem b hc)]
    rfl

theorem IsUtf8.append (h : IsUtf8 before) (h' : IsUtf8 after) : IsUtf8 (before ++ after) := by
  unfold IsUtf8
  rw [List.toByteArray_append]
  exact ByteArray.IsValidUTF8.append h h'

/-- A character starts at an ASCII byte. -/
theorem isCharBoundary_of_ascii {index : Nat} {b : UInt8} (h : bytes[index]? = some b)
    (hb : b < 0x80) : isCharBoundary bytes index = true := by
  simp [isCharBoundary, h, hb]

theorem IsAscii.isCharBoundary (h : IsAscii bytes) {index : Nat} (hle : index ≤ bytes.length) :
    isCharBoundary bytes index = true := by
  rcases hb : bytes[index]? with _ | b
  · have hlength := List.getElem?_eq_none_iff.1 hb
    simp only [Text.isCharBoundary, hb]
    exact decide_eq_true (by omega)
  · exact isCharBoundary_of_ascii hb (h b (List.mem_of_getElem? hb))

/-- In an ASCII text every slice inside it can be taken. -/
theorem IsAscii.get (h : IsAscii bytes) {start stop : Nat} (hle : start ≤ stop)
    (hstop : stop ≤ bytes.length) :
    Text.get bytes start stop = some ((bytes.drop start).take (stop - start)) :=
  if_pos ⟨hle, h.isCharBoundary (hle.trans hstop), h.isCharBoundary hstop⟩

end Ascii

/-! ### The first occurrence -/

theorem contains_iff {pattern bytes : List UInt8} :
    contains pattern bytes = true ↔ pattern <:+: bytes := decide_eq_true_iff

/-- A pattern that has not occurred before is found where it stands. -/
theorem find_append {pattern before after : List UInt8} (hne : pattern ≠ [])
    (h : ¬ pattern <:+: before ++ pattern.dropLast) :
    find pattern (before ++ (pattern ++ after)) = some before.length := by
  induction before with
  | nil =>
    obtain ⟨b, rest, rfl⟩ := List.exists_cons_of_ne_nil hne
    exact if_pos (List.prefix_append (b :: rest) after)
  | cons b before ih =>
    have hnot : ¬ pattern <+: b :: (before ++ (pattern ++ after)) := by
      intro hstart
      have hlonger : b :: before ++ pattern.dropLast <+: b :: (before ++ (pattern ++ after)) :=
        (List.prefix_append_right_inj (b :: before)).2
          ((List.dropLast_prefix pattern).trans (List.prefix_append pattern after))
      refine h (List.prefix_of_prefix_length_le hstart hlonger ?_).isInfix
      simp only [List.length_append, List.length_cons, List.length_dropLast]
      omega
    rw [List.cons_append, find, if_neg hnot, ih fun hoccurs ↦ h (hoccurs.trans ?_)]
    · rfl
    · exact List.suffix_cons b _ |>.isInfix

/-- **What is found is the first occurrence.** -/
theorem find_eq_some_iff {pattern bytes : List UInt8} {offset : Nat} (hne : pattern ≠ []) :
    find pattern bytes = some offset ↔ ∃ before after, bytes = before ++ (pattern ++ after) ∧
      before.length = offset ∧ ¬ pattern <:+: before ++ pattern.dropLast := by
  constructor
  · intro h
    induction bytes generalizing offset with
    | nil => exact absurd ((if_neg hne).symm.trans h) (by simp)
    | cons b rest ih =>
      rw [find] at h
      split at h
      case isTrue hstart =>
        cases h
        obtain ⟨after, hafter⟩ := hstart
        refine ⟨[], after, hafter.symm, rfl, fun hinner ↦ ?_⟩
        have hlength := hinner.length_le
        have hpos := List.length_pos_iff.2 hne
        rw [List.nil_append, List.length_dropLast] at hlength
        omega
      case isFalse hnot =>
        -- an occurrence that starts at the first byte would be a prefix
        obtain ⟨offset, hfind, rfl⟩ := Option.map_eq_some_iff.1 h
        obtain ⟨before, after, rfl, rfl, hfirst⟩ := ih hfind
        refine ⟨b :: before, after, rfl, rfl, fun hinner ↦ ?_⟩
        rcases List.infix_cons_iff.1 hinner with hstart | hinner
        · have hlonger : b :: before ++ pattern.dropLast <+: b :: (before ++ (pattern ++ after)) :=
            (List.prefix_append_right_inj (b :: before)).2
              ((List.dropLast_prefix pattern).trans (List.prefix_append pattern after))
          exact hnot (hstart.trans hlonger)
        · exact hfirst hinner
  · rintro ⟨before, after, rfl, rfl, hfirst⟩
    exact find_append hne hfirst

/-- Up to the end of the first occurrence there is no other. -/
theorem eq_of_infix_of_isPrefix {pattern before bytes : List UInt8} (hne : pattern ≠ [])
    (hfirst : ¬ pattern <:+: before ++ pattern.dropLast) (hpattern : pattern <:+: bytes)
    (hstarts : bytes <+: before ++ pattern) : bytes = before ++ pattern := by
  refine hstarts.eq_of_length_le (Nat.le_of_not_lt fun hshort ↦ hfirst (hpattern.trans ?_))
  have hdrop : (before ++ pattern).dropLast = before ++ pattern.dropLast :=
    List.dropLast_append_of_ne_nil hne
  rw [← hdrop]
  refine (List.prefix_of_prefix_length_le hstarts (List.dropLast_prefix _) ?_).isInfix
  rw [List.length_dropLast]
  omega

end Text
