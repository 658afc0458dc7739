import Mathlib.Data.List.Basic
import Mathlib.Data.UInt

/-!
# Fixed-width integers and their bytes

The machine-integer operations that the model uses: the two bytes of a 16-bit word in either
order, and addition that reports overflow. Sizes and offsets are those of a 64-bit target.
-/

namespace UInt16

/-- Most significant byte first. -/
def toBeBytes (value : UInt16) : List UInt8 :=
  [UInt8.ofNat (value.toNat / 256), UInt8.ofNat (value.toNat % 256)]

/-- Least significant byte first. -/
def toLeBytes (value : UInt16) : List UInt8 :=
  [UInt8.ofNat (value.toNat % 256), UInt8.ofNat (value.toNat / 256)]

/-- The word with the given high and low bytes. -/
def fromBeBytes (high low : UInt8) : UInt16 :=
  UInt16.ofNat (high.toNat * 256 + low.toNat)

/-- The word with the given low and high bytes. -/
def fromLeBytes (low high : UInt8) : UInt16 := fromBeBytes high low

/-- The sum, or nothing where it does not fit. -/
def checkedAdd (a b : UInt16) : Option UInt16 :=
  if a.toNat + b.toNat < 65536 then some (a + b) else none

/-- The difference, or nothing where it would be negative. -/
def checkedSub (a b : UInt16) : Option UInt16 :=
  if b ≤ a then some (a - b) else none

@[simp] theorem length_toBeBytes (value : UInt16) : value.toBeBytes.length = 2 := rfl

@[simp] theorem length_toLeBytes (value : UInt16) : value.toLeBytes.length = 2 := rfl

theorem toNat_fromBeBytes (high low : UInt8) :
    (fromBeBytes high low).toNat = high.toNat * 256 + low.toNat := by
  have hh := high.toNat_lt
  have hl := low.toNat_lt
  rw [fromBeBytes, UInt16.toNat_ofNat', Nat.mod_eq_of_lt (by omega)]

/-- A word is read back from its two bytes. -/
theorem fromBeBytes_div_mod (value : UInt16) :
    fromBeBytes (UInt8.ofNat (value.toNat / 256)) (UInt8.ofNat (value.toNat % 256)) = value := by
  have h := value.toNat_lt
  apply UInt16.toNat_inj.1
  rw [toNat_fromBeBytes, UInt8.toNat_ofNat', UInt8.toNat_ofNat']
  omega

/-- Two bytes are read back from their word. -/
theorem toBeBytes_fromBeBytes (high low : UInt8) :
    (fromBeBytes high low).toBeBytes = [high, low] := by
  have hh := high.toNat_lt
  have hl := low.toNat_lt
  rw [toBeBytes, toNat_fromBeBytes, show (high.toNat * 256 + low.toNat) / 256 = high.toNat by omega,
    show (high.toNat * 256 + low.toNat) % 256 = low.toNat by omega]
  simp

/-- A word that fits a byte is read back from it. -/
theorem toUInt16_toUInt8_of_le {value : UInt16} (h : value ≤ 0xff) :
    value.toUInt8.toUInt16 = value := by
  have hvalue : value.toNat ≤ 255 := UInt16.le_iff_toNat_le.1 h
  apply UInt16.toNat_inj.1
  rw [UInt8.toNat_toUInt16, UInt16.toNat_toUInt8]
  omega

/-- A sum that fits is the sum of the values. -/
theorem toNat_of_checkedAdd {a b c : UInt16} (h : checkedAdd a b = some c) :
    c.toNat = a.toNat + b.toNat := by
  unfold checkedAdd at h
  split at h
  · rename_i hlt
    rw [← Option.some.inj h, UInt16.toNat_add, Nat.mod_eq_of_lt hlt]
  · cases h

theorem checkedAdd_zero_left (a : UInt16) : checkedAdd 0 a = some a := by
  have ha := a.toNat_lt
  rw [checkedAdd, if_pos (by simpa using ha), UInt16.zero_add]

/-- A byte and one more fit a word. -/
theorem exists_checkedAdd_one (b : UInt8) : ∃ c, checkedAdd b.toUInt16 1 = some c := by
  have hb := b.toNat_lt
  refine ⟨b.toUInt16 + 1, if_pos ?_⟩
  simp only [UInt8.toNat_toUInt16, UInt16.reduceToNat]
  omega

/-- Taking one away from a word that is not zero. -/
theorem toNat_of_checkedSub_one {a c : UInt16} (h : checkedSub a 1 = some c) :
    c.toNat + 1 = a.toNat := by
  unfold checkedSub at h
  split at h
  · rename_i hle
    rw [← Option.some.inj h, UInt16.toNat_sub_of_le _ _ hle]
    have h1 : (1 : UInt16).toNat ≤ a.toNat := UInt16.le_iff_toNat_le.1 hle
    simp only [UInt16.reduceToNat] at h1 ⊢
    omega
  · cases h

theorem exists_checkedSub_one {a : UInt16} (h : a ≠ 0) : ∃ c, checkedSub a 1 = some c := by
  refine ⟨a - 1, if_pos ?_⟩
  rw [UInt16.le_iff_toNat_le]
  have h0 : a.toNat ≠ 0 := fun h0 ↦ h (UInt16.toNat_inj.1 h0)
  simp only [UInt16.reduceToNat]
  omega

end UInt16

/-- The word with the given bytes, from the lowest on. -/
def UInt32.fromLeBytes (b₀ b₁ b₂ b₃ : UInt8) : UInt32 :=
  UInt32.ofNat (b₀.toNat + 256 * (b₁.toNat + 256 * (b₂.toNat + 256 * b₃.toNat)))

/-- The number with the given bytes, least significant first. -/
def littleEndian : List UInt8 → Nat
  | [] => 0
  | b :: bytes => b.toNat + 256 * littleEndian bytes

theorem UInt16.toNat_fromLeBytes (low high : UInt8) :
    (fromLeBytes low high).toNat = littleEndian [low, high] := by
  rw [fromLeBytes, toNat_fromBeBytes]
  simp only [littleEndian]
  omega

theorem UInt32.toNat_fromLeBytes (b₀ b₁ b₂ b₃ : UInt8) :
    (fromLeBytes b₀ b₁ b₂ b₃).toNat = littleEndian [b₀, b₁, b₂, b₃] := by
  have h₀ := b₀.toNat_lt
  have h₁ := b₁.toNat_lt
  have h₂ := b₂.toNat_lt
  have h₃ := b₃.toNat_lt
  rw [fromLeBytes, UInt32.toNat_ofNat', Nat.mod_eq_of_lt (by omega)]
  rfl

/-! ### Sizes -/

/-- The sum of two sizes, or nothing where it does not fit 64 bits. -/
def Nat.checkedAdd (a b : Nat) : Option Nat := if a + b < 2 ^ 64 then some (a + b) else none

/-- The difference of two sizes, or nothing where it would be negative. -/
def Nat.checkedSub (a b : Nat) : Option Nat := if b ≤ a then some (a - b) else none

/-- The sum of two sizes, or the largest size where it does not fit. -/
def Nat.saturatingAdd (a b : Nat) : Nat := min (a + b) (2 ^ 64 - 1)

/-- A slice of memory. None is larger than the largest signed size. -/
structure Slice (α : Type) where
  toList : List α
  length_lt : toList.length < 2 ^ 63

/-- The slice of the list, or nothing where it does not lie inside it. -/
def List.slice? {α : Type} (l : List α) (start stop : Nat) : Option (List α) :=
  if start ≤ stop ∧ stop ≤ l.length then some ((l.drop start).take (stop - start)) else none

theorem Nat.checkedAdd_eq_some_iff {a b c : Nat} :
    a.checkedAdd b = some c ↔ a + b < 2 ^ 64 ∧ a + b = c :=
  Option.ite_none_right_eq_some.trans (by rw [Option.some.injEq])

theorem Nat.checkedSub_eq_some_iff {a b c : Nat} : a.checkedSub b = some c ↔ b ≤ a ∧ a - b = c :=
  Option.ite_none_right_eq_some.trans (by rw [Option.some.injEq])

theorem List.slice?_eq_some_iff {α : Type} {l l' : List α} {start stop : Nat} :
    l.slice? start stop = some l' ↔
      (start ≤ stop ∧ stop ≤ l.length) ∧ (l.drop start).take (stop - start) = l' :=
  Option.ite_none_right_eq_some.trans (by rw [Option.some.injEq])

/-- The first four elements of a list of a known length, and the rest of it. -/
theorem List.exists_of_length_add_four {α : Type} {l : List α} {n : Nat} (h : l.length = n + 4) :
    ∃ a b c d rest, a :: b :: c :: d :: rest = l ∧ rest.length = n := by
  obtain ⟨a, la, rfl, ha⟩ := List.length_eq_succ_iff.1 h
  obtain ⟨b, lb, rfl, hb⟩ := List.length_eq_succ_iff.1 ha
  obtain ⟨c, lc, rfl, hc⟩ := List.length_eq_succ_iff.1 hb
  obtain ⟨d, rest, rfl, hrest⟩ := List.length_eq_succ_iff.1 hc
  exact ⟨a, b, c, d, rest, rfl, hrest⟩
