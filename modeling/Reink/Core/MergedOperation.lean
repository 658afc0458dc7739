import Mathlib.Logic.Function.Basic
import Reink.Core.Epson
import Reink.Library.Dictionary
import Reink.Library.Program
import Reink.Library.Text

/-!
# Merged counter operations

`EpsonSpec::merged_operation` puts the declared reset values of several operations together. The
code keeps two vectors, of addresses and of their values, and a map from each address to its
position in them; a value that comes later is written over the one before through that position.
`MergedPairs.Represents` says that the three hold a dictionary, and each step of the loop is an
insertion into it.
-/

namespace Reink

/-- The accumulators of the loop. -/
structure MergedPairs where
  addressPositions : UInt16 → Option Nat
  addresses : List UInt16
  resetValues : List UInt8

namespace MergedPairs

/-- One pair of an operation. -/
def add (merged : MergedPairs) (pair : UInt16 × UInt8) : Outcome Empty MergedPairs :=
  match merged.addressPositions pair.1 with
  | some position =>
    if position < merged.resetValues.length then
      .ok { merged with resetValues := merged.resetValues.set position pair.2 }
    else .panic "index out of bounds"
  | none => .ok
    { addressPositions :=
        Function.update merged.addressPositions pair.1 (some merged.addresses.length)
      addresses := merged.addresses ++ [pair.1]
      resetValues := merged.resetValues ++ [pair.2] }

/-- One operation. -/
def addOperation (fragment : String) (merged : MergedPairs) (operation : MemoryOperation) :
    Outcome Empty MergedPairs :=
  if ¬ Text.occursIn fragment (Text.toAsciiLowercase operation.description) then .ok merged
  else if ¬ operation.hasDeclaredResetValues then .ok merged
  else (operation.addresses.zip operation.resetValues).foldlM add merged

end MergedPairs

/-- A counter family with separately declared Epson reset semantics. -/
inductive CounterResetTarget where
  | waste
  | platenPad
deriving DecidableEq, Repr

namespace CounterResetTarget

/-- What the description of an operation on the counter holds. -/
def descriptionFragment : CounterResetTarget → String
  | waste => "waste counter"
  | platenPad => "platen pad counter"

/-- The displayed name of the counter. -/
def displayName : CounterResetTarget → String
  | waste => "waste counter"
  | platenPad => "platen pad counter"

end CounterResetTarget

namespace EpsonSpec

/-- Merges matching operations with explicit reset bytes while retaining the first address order.
-/
def mergedOperation (spec : EpsonSpec) (descriptionFragment : String) :
    Outcome Empty (Option MemoryOperation) := do
  let fragment := Text.toAsciiLowercase descriptionFragment
  let merged ← spec.memoryOperations.foldlM (MergedPairs.addOperation fragment)
    ⟨fun _ ↦ none, [], []⟩
  return if merged.addresses ≠ [] then
    some ⟨"All " ++ descriptionFragment ++ "s", merged.addresses, merged.resetValues, true, none⟩
  else none

/-- Returns a physical-reset operation composed only of explicitly declared byte values for the
requested counter family. -/
def counterReset (spec : EpsonSpec) (target : CounterResetTarget) :
    Outcome Empty (Option MemoryOperation) :=
  spec.mergedOperation target.descriptionFragment

example : (c90.counterReset .waste).bind (fun merged ↦ .ok (merged.map fun operation ↦
      (operation.addresses, operation.resetValues))) =
    .ok (some ([0x06, 0x07, 0x0a, 0x0b, 0x16, 0x17, 0x34, 0x35, 0x0c, 0x0d],
      [0, 0, 0, 0, 0, 0, 4, 0x57, 1, 0xf4])) := by
  decide +kernel

/-! ### What is merged -/

/-- The operation is of the family and declares its reset values. -/
def Declares (descriptionFragment : String) (operation : MemoryOperation) : Prop :=
  Text.occursIn (Text.toAsciiLowercase descriptionFragment)
      (Text.toAsciiLowercase operation.description) = true ∧
    operation.resetValuesDeclared = true

instance (descriptionFragment : String) : DecidablePred (Declares descriptionFragment) :=
  fun _ ↦ inferInstanceAs (Decidable (_ ∧ _))

/-- The pairs of address and value that these operations declare, in the order of the
specification. -/
def declaredPairs (spec : EpsonSpec) (descriptionFragment : String) : List (UInt16 × UInt8) :=
  (spec.memoryOperations.filter (Declares descriptionFragment)).flatMap fun operation ↦
    operation.addresses.zip operation.resetValues

end EpsonSpec

/-! ### The accumulators hold a dictionary -/

namespace MergedPairs

/-- The vectors are the keys and the values, and the map gives the positions of the keys. -/
structure Represents (merged : MergedPairs) (d : Dictionary UInt16 UInt8) : Prop where
  addresses : merged.addresses = d.keys
  resetValues : merged.resetValues = d.values
  positions : ∀ address, merged.addressPositions address =
    if address ∈ d.keys then some (d.keys.idxOf address) else none

theorem represents_empty : Represents ⟨fun _ ↦ none, [], []⟩ .empty :=
  ⟨rfl, rfl, fun _ ↦ by simp⟩

/-- **A step of the loop is an insertion.** -/
theorem Represents.add {merged : MergedPairs} {d : Dictionary UInt16 UInt8}
    (h : merged.Represents d) (pair : UInt16 × UInt8) :
    ∃ merged', merged.add pair = .ok merged' ∧ merged'.Represents (d.insert pair.1 pair.2) := by
  have hposition := h.positions pair.1
  unfold MergedPairs.add
  by_cases hpair : pair.1 ∈ d.keys
  · rw [if_pos hpair] at hposition
    rw [hposition]
    have hlt : d.keys.idxOf pair.1 < merged.resetValues.length := by
      rw [h.resetValues, d.length_values]
      exact List.idxOf_lt_length_of_mem hpair
    refine ⟨_, if_pos hlt, ?_, ?_, ?_⟩
    · rw [d.keys_insert_of_mem hpair, h.addresses]
    · rw [d.values_insert_of_mem hpair, h.resetValues]
    · rw [d.keys_insert_of_mem hpair]
      exact h.positions
  · rw [if_neg hpair] at hposition
    rw [hposition]
    refine ⟨_, rfl, ?_, ?_, fun address ↦ ?_⟩
    · rw [d.keys_insert_of_notMem hpair, h.addresses]
    · rw [d.values_insert_of_notMem hpair, h.resetValues]
    · rw [d.keys_insert_of_notMem hpair]
      dsimp only
      rw [h.addresses]
      by_cases haddress : address = pair.1
      · subst haddress
        rw [Function.update_self, if_pos (by simp), List.idxOf_append_of_notMem hpair,
          List.idxOf_cons_self, Nat.add_zero]
      · rw [Function.update_of_ne haddress, h.positions]
        by_cases hkey : address ∈ d.keys
        · rw [if_pos hkey, if_pos (List.mem_append_left _ hkey), List.idxOf_append_of_mem hkey]
        · rw [if_neg hkey, if_neg (by simp [hkey, haddress])]

/-- The pairs of an operation, by induction on them. -/
theorem Represents.addPairs {merged : MergedPairs} {pairs : List (UInt16 × UInt8)}
    (h : merged.Represents (.ofPairs pairs)) (more : List (UInt16 × UInt8)) :
    ∃ merged', more.foldlM MergedPairs.add merged = .ok merged' ∧
      merged'.Represents (.ofPairs (pairs ++ more)) := by
  induction more generalizing merged pairs with
  | nil => exact ⟨merged, rfl, by rwa [List.append_nil]⟩
  | cons pair more ih =>
    obtain ⟨added, hadded, hrepresents⟩ := h.add pair
    rw [← Dictionary.ofPairs_append_singleton] at hrepresents
    rw [List.foldlM_cons, hadded, List.append_cons]
    exact ih hrepresents

/-- The operations, by induction on them: those that do not declare anything add nothing. -/
theorem Represents.addOperations {merged : MergedPairs} {pairs : List (UInt16 × UInt8)}
    (h : merged.Represents (.ofPairs pairs)) (descriptionFragment : String)
    (operations : List MemoryOperation) :
    ∃ merged', operations.foldlM
        (addOperation (Text.toAsciiLowercase descriptionFragment)) merged = .ok merged' ∧
      merged'.Represents (.ofPairs (pairs ++
        (operations.filter (EpsonSpec.Declares descriptionFragment)).flatMap fun operation ↦
          operation.addresses.zip operation.resetValues)) := by
  induction operations generalizing merged pairs with
  | nil => exact ⟨merged, rfl, by simpa using h⟩
  | cons operation operations ih =>
    rw [List.foldlM_cons]
    by_cases hdeclares : EpsonSpec.Declares descriptionFragment operation
    · obtain ⟨added, hadded, hrepresents⟩ :=
        h.addPairs (operation.addresses.zip operation.resetValues)
      have hrun : addOperation (Text.toAsciiLowercase descriptionFragment) merged operation =
          .ok added := by
        rw [addOperation, if_neg (not_not.2 hdeclares.1),
          if_neg (not_not.2 (show operation.hasDeclaredResetValues = true from hdeclares.2)),
          hadded]
      rw [hrun, List.filter_cons_of_pos (by simpa using hdeclares), List.flatMap_cons,
        ← List.append_assoc]
      exact ih hrepresents
    · have hrun : addOperation (Text.toAsciiLowercase descriptionFragment) merged operation =
          .ok merged := by
        unfold addOperation
        by_cases hoccurs : Text.occursIn (Text.toAsciiLowercase descriptionFragment)
            (Text.toAsciiLowercase operation.description) = true
        · have hundeclared : ¬ operation.hasDeclaredResetValues = true :=
            fun hdeclared ↦ hdeclares ⟨hoccurs, hdeclared⟩
          rw [if_neg (not_not.2 hoccurs), if_pos hundeclared]
        · rw [if_pos hoccurs]
      rw [hrun, List.filter_cons_of_neg (by simpa using hdeclares)]
      exact ih h

end MergedPairs

namespace EpsonSpec

/-- **What merging gives**: the keys and the values of the dictionary of the declared pairs, or
nothing where there are none. -/
theorem mergedOperation_eq (spec : EpsonSpec) (descriptionFragment : String) :
    let d := Dictionary.ofPairs (spec.declaredPairs descriptionFragment)
    spec.mergedOperation descriptionFragment = .ok (if d.keys ≠ [] then
      some ⟨"All " ++ descriptionFragment ++ "s", d.keys, d.values, true, none⟩ else none) := by
  intro d
  have hempty : MergedPairs.Represents ⟨fun _ ↦ none, [], []⟩ (.ofPairs []) :=
    MergedPairs.represents_empty
  obtain ⟨merged, hrun, hrepresents⟩ :=
    hempty.addOperations descriptionFragment spec.memoryOperations
  rw [List.nil_append] at hrepresents
  unfold mergedOperation
  dsimp only
  rw [hrun, Outcome.ok_bind, hrepresents.addresses, hrepresents.resetValues]
  rfl

end EpsonSpec

end Reink
