import Mathlib.Tactic.Ring
import Reink.Library.Text

/-!
# Numbers in a radix

The numbers that the parsers of the fixed-width types read. What a text of digits denotes needs
neither a sign nor a bound; `fromStrRadix` allows a plus sign in front of the digits and refuses a
number that reaches the bound, which as many digits as the bound has places cannot do.
-/

namespace Text

/-- The number that the digits denote in the radix. -/
def denoted (radix : Nat) (digits : List UInt8) : Option Nat :=
  digits.foldlM (fun total digit ↦ (digitValue radix digit).map (total * radix + ·)) 0

variable {radix bound d : Nat} {digits : List UInt8} {digit : UInt8} {n : Nat}

theorem denoted_singleton (digit : UInt8) : denoted radix [digit] = digitValue radix digit := by
  rw [denoted, List.foldlM_cons]
  rcases digitValue radix digit with - | d
  · rfl
  · show some (0 * radix + d) = some d
    rw [Nat.zero_mul, Nat.zero_add]

theorem denoted_pair (high low : UInt8) : denoted radix [high, low] =
    (digitValue radix high).bind fun h ↦ (digitValue radix low).map (h * radix + ·) := by
  simp only [denoted, List.foldlM_cons, List.foldlM_nil]
  rcases digitValue radix high with - | h
  · rfl
  rcases digitValue radix low with - | l
  · rfl
  · show some ((0 * radix + h) * radix + l) = some (h * radix + l)
    rw [Nat.zero_mul, Nat.zero_add]

theorem digitValue_lt (h : digitValue radix digit = some d) : d < radix := by
  have hfilter := Option.filter_eq_some_iff.1 h
  exact of_decide_eq_true hfilter.2

/-- A digit is ASCII and no sign. -/
theorem lt_of_digitValue (h : digitValue radix digit = some d) : digit < 0x80 ∧ 47 < digit := by
  have hvalue := (Option.filter_eq_some_iff.1 h).1
  simp only [UInt8.le_iff_toNat_le, UInt8.lt_iff_toNat_lt, UInt8.reduceToNat] at hvalue ⊢
  split at hvalue
  · omega
  split at hvalue
  · omega
  split at hvalue
  · omega
  · cases hvalue

/-- The bound is not reached while it leaves room for the digits to come. -/
theorem foldlM_value (total : Nat) (h : (total + 1) * radix ^ digits.length ≤ bound) :
    digits.foldlM (fun total digit ↦ (digitValue radix digit).bind fun d ↦
        if total * radix + d < bound then some (total * radix + d) else none) total =
      digits.foldlM (fun total digit ↦ (digitValue radix digit).map (total * radix + ·)) total := by
  induction digits generalizing total with
  | nil => rfl
  | cons digit rest ih =>
    rw [List.foldlM_cons, List.foldlM_cons]
    rcases hdigit : digitValue radix digit with - | d
    · rfl
    have hlt := digitValue_lt hdigit
    have hroom : (total * radix + d + 1) * radix ^ rest.length ≤ bound := by
      refine Nat.le_trans ?_ h
      rw [List.length_cons, Nat.pow_succ, Nat.mul_comm (radix ^ _) radix, ← Nat.mul_assoc]
      refine Nat.mul_le_mul_right _ ?_
      rw [Nat.add_mul]
      omega
    have hbound : total * radix + d < bound := by
      have hpos : 0 < radix ^ rest.length := Nat.pow_pos (by omega)
      exact Nat.lt_of_lt_of_le (Nat.lt_succ_self _)
        (Nat.le_trans (Nat.le_mul_of_pos_right _ hpos) hroom)
    show Option.bind _ _ = Option.bind _ _
    rw [Option.bind_some, if_pos hbound, Option.map_some, Option.bind_some, Option.bind_some]
    exact ih _ hroom

/-- Digits that the bound has places for are read as the number that they denote. -/
theorem value_eq_denoted (h : radix ^ digits.length ≤ bound) :
    fromStrRadix.value bound radix digits = denoted radix digits :=
  foldlM_value 0 (by rwa [Nat.zero_add, Nat.one_mul])

theorem lt_of_foldlM_denoted {total : Nat}
    (h : digits.foldlM (fun total digit ↦ (digitValue radix digit).map (total * radix + ·)) total =
      some n) : n < (total + 1) * radix ^ digits.length := by
  induction digits generalizing total with
  | nil =>
    obtain rfl := Option.some.inj h
    simp
  | cons digit rest ih =>
    obtain ⟨next, hnext, h⟩ := Option.bind_eq_some_iff.1 h
    obtain ⟨d, hdigit, rfl⟩ := Option.map_eq_some_iff.1 hnext
    have hlt := digitValue_lt hdigit
    refine Nat.lt_of_lt_of_le (ih h) ?_
    rw [List.length_cons, Nat.pow_succ, Nat.mul_comm (radix ^ _) radix, ← Nat.mul_assoc]
    refine Nat.mul_le_mul_right _ ?_
    rw [Nat.add_mul]
    omega

theorem lt_of_denoted (h : denoted radix digits = some n) : n < radix ^ digits.length := by
  simpa using lt_of_foldlM_denoted h

/-- A sign is no digit. -/
theorem denoted_cons_eq_none {rest : List UInt8} (h : digitValue radix digit = none) :
    denoted radix (digit :: rest) = none := by
  rw [denoted, List.foldlM_cons, h]
  rfl

theorem digitValue_of_le (h : digit ≤ 47) : digitValue radix digit = none := by
  by_contra hne
  obtain ⟨d, hd⟩ := Option.ne_none_iff_exists'.1 hne
  exact absurd (lt_of_digitValue hd).2 (UInt8.not_lt.2 h)

/-- **What is read as a number**: digits, or a plus sign and digits. -/
theorem fromStrRadix_eq_some_iff (h : radix ^ digits.length ≤ bound) (hradix : 0 < radix) :
    fromStrRadix bound digits radix = some n ↔
      (digits ≠ [] ∧ denoted radix digits = some n) ∨
      ∃ rest, digits = 43 :: rest ∧ rest ≠ [] ∧ denoted radix rest = some n := by
  unfold fromStrRadix
  split
  case h_1 => simp
  case h_2 => simp [denoted_cons_eq_none (digitValue_of_le (by decide : (43 : UInt8) ≤ 47))]
  case h_3 => simp [denoted_cons_eq_none (digitValue_of_le (by decide : (45 : UInt8) ≤ 47))]
  case h_4 rest hne =>
    have hle : radix ^ rest.length ≤ bound :=
      Nat.le_trans (Nat.pow_le_pow_right hradix (Nat.le_succ _)) h
    rw [value_eq_denoted hle, denoted_cons_eq_none (digitValue_of_le (by decide))]
    constructor
    · exact fun hrest ↦ .inr ⟨rest, rfl, hne, hrest⟩
    · rintro (⟨-, hnone⟩ | ⟨rest', heq, -, hrest⟩)
      · cases hnone
      · exact (List.cons.inj heq).2 ▸ hrest
  case h_5 h0 h1 h2 h3 =>
    rw [value_eq_denoted h]
    constructor
    · exact fun hdigits ↦ .inl ⟨h0, hdigits⟩
    · rintro (⟨-, hdigits⟩ | ⟨rest, heq, -⟩)
      · exact hdigits
      · exact (h3 rest heq).elim

/-! ### Bytes in upper-case hexadecimal -/

/-- The byte is a hexadecimal digit, the letters in capitals. -/
def isUpperHexDigit (byte : UInt8) : Bool :=
  (48 ≤ byte && byte ≤ 57) || (65 ≤ byte && byte ≤ 70)

/-- The digit for a value below sixteen. -/
def upperDigit (value : Nat) : UInt8 := UInt8.ofNat (if value < 10 then 48 + value else 55 + value)

theorem digitValue_upperDigit : ∀ value < 16, digitValue 16 (upperDigit value) = some value := by
  decide

theorem isUpperHexDigit_iff : isUpperHexDigit digit = true ↔
    ∃ value < 16, upperDigit value = digit := by
  constructor
  · intro h
    simp only [isUpperHexDigit, Bool.or_eq_true, Bool.and_eq_true, decide_eq_true_eq,
      UInt8.le_iff_toNat_le, UInt8.reduceToNat] at h
    rcases h with ⟨hlow, hhigh⟩ | ⟨hlow, hhigh⟩
    · refine ⟨digit.toNat - 48, by omega, ?_⟩
      rw [upperDigit, if_pos (by omega), Nat.add_sub_cancel' hlow, UInt8.ofNat_toNat]
    · refine ⟨digit.toNat - 55, by omega, ?_⟩
      rw [upperDigit, if_neg (by omega), Nat.add_sub_cancel' (by omega), UInt8.ofNat_toNat]
  · rintro ⟨value, hvalue, rfl⟩
    have hall : ∀ value < 16, isUpperHexDigit (upperDigit value) = true := by decide
    exact hall value hvalue

/-- A byte is written as its two digits. -/
theorem utf8_upperHexadecimal (byte : UInt8) : utf8 (upperHexadecimal 2 byte.toNat) =
    [upperDigit (byte.toNat / 16), upperDigit (byte.toNat % 16)] := by
  have hall : ∀ value < 256,
      (((Nat.toDigits 16 value).map Char.toUpper).leftpad 2 '0').flatMap String.utf8EncodeChar =
        [upperDigit (value / 16), upperDigit (value % 16)] := by decide +kernel
  rw [utf8, upperHexadecimal, String.toList_ofList]
  exact hall byte.toNat byte.toNat_lt

/-- Two digits are read as the byte that they are written for. -/
theorem u8FromStrRadix_upperDigit {high low : Nat} (hhigh : high < 16) (hlow : low < 16) :
    u8FromStrRadix [upperDigit high, upperDigit low] 16 = some (UInt8.ofNat (high * 16 + low)) := by
  have hall : ∀ high < 16, ∀ low < 16, u8FromStrRadix [upperDigit high, upperDigit low] 16 =
      some (UInt8.ofNat (high * 16 + low)) := by decide +kernel
  exact hall high hhigh low hlow

/-- **Two upper-case digits are read as a byte exactly when it is written as them.** -/
theorem u8FromStrRadix_eq_some_iff {first second byte : UInt8}
    (hfirst : isUpperHexDigit first = true) (hsecond : isUpperHexDigit second = true) :
    u8FromStrRadix [first, second] 16 = some byte ↔
      utf8 (upperHexadecimal 2 byte.toNat) = [first, second] := by
  rw [utf8_upperHexadecimal]
  constructor
  · intro h
    obtain ⟨high, hhigh, rfl⟩ := isUpperHexDigit_iff.1 hfirst
    obtain ⟨low, hlow, rfl⟩ := isUpperHexDigit_iff.1 hsecond
    rw [u8FromStrRadix_upperDigit hhigh hlow] at h
    obtain rfl := Option.some.inj h
    have hvalue : (UInt8.ofNat (high * 16 + low)).toNat = high * 16 + low :=
      UInt8.toNat_ofNat_of_lt' (by show _ < 256; omega)
    rw [hvalue, show (high * 16 + low) / 16 = high by omega,
      show (high * 16 + low) % 16 = low by omega]
  · intro h
    have hbyte := byte.toNat_lt
    obtain ⟨rfl, rfl⟩ : upperDigit _ = first ∧ upperDigit _ = second := by simpa using h
    rw [u8FromStrRadix_upperDigit (by omega) (Nat.mod_lt _ (by decide)),
      Nat.div_add_mod', UInt8.ofNat_toNat]

end Text
