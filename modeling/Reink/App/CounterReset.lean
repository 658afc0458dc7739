import Reink.App.Image
import Reink.Core.MergedOperation

/-!
# Counter resets

The updates of a counter reset are those of the merged operation of the counter's family, after the
check of a write plan. The merged operation is the reference update of a dictionary with the pairs
that the specification declares, so that every byte of a reset is one that it declares.
-/

namespace Reink

/-- The text of an error. A shutdown without a failure is not one. -/
def ApplicationError.display {ε : Type} : ApplicationError → Outcome ε String
  | transport error => return "transport error: " ++ error.display
  | d4 error => return "D4 error: " ++ error.display
  | setupRecovered setup => return "D4 service setup failed: " ++ setup.display ++
      "; orderly D4 exit succeeded"
  | setupRecovery setup recovery => return "D4 service setup failed: " ++ setup.display ++
      "; orderly D4 exit also failed: " ++ recovery.display
  | shutdown (some close) (some exit) => return "D4 control channel close failed: " ++
      close.display ++ "; D4 conversation exit also failed: " ++ exit.display
  | shutdown (some close) none => return "D4 control channel close failed: " ++ close.display ++
      "; D4 conversation exit succeeded"
  | shutdown none (some exit) =>
    return "D4 control channel close succeeded; D4 conversation exit failed: " ++ exit.display
  | shutdown none none => .panic "shutdown errors contain at least one failure"
  | epson error => return "Epson error: " ++ error.display
  | writePlan error => return "invalid EEPROM write plan: " ++ error
  | entryReplyMissing => return "Epson D4 entry reply was not received"
  | entryReplyInvalid => return "Epson D4 entry reply was not recognized"

/-- Returns the explicitly declared updates for one counter family after checking them against the
model range. -/
def declaredCounterResetUpdates (spec : EpsonSpec) (target : CounterResetTarget) :
    Outcome String (List (UInt16 × UInt8)) := do
  let undeclared := "model " ++ spec.model ++ " has no explicitly declared " ++
    target.displayName ++ " reset bytes"
  let operation ← ((spec.counterReset target).mapErr Empty.elim).bind
    (Outcome.orErr · undeclared)
  if ¬ operation.hasDeclaredResetValues then .err undeclared
  else
    let updates := operation.addresses.zip operation.resetValues
    match validateEepromUpdates spec updates with
    | .error error => error.display.bind .err
    | .ok () => return updates

/-- The operation is the dictionary update with the pairs. -/
structure MemoryOperation.Updates (operation : MemoryOperation) (pairs : List (UInt16 × UInt8)) :
    Prop where
  nodup : operation.addresses.Nodup
  mem_addresses : ∀ address, address ∈ operation.addresses ↔ address ∈ pairs.map Prod.fst
  /-- The addresses are in the order of their first occurrence. -/
  order : operation.addresses.Pairwise fun address address' ↦
    (pairs.map Prod.fst).idxOf address < (pairs.map Prod.fst).idxOf address'
  length_resetValues : operation.resetValues.length = operation.addresses.length
  /-- Every address carries the value of its last pair. -/
  isLast : ∀ address value, (address, value) ∈ operation.addresses.zip operation.resetValues ↔
    Dictionary.IsLast pairs address value

namespace EpsonSpec

theorem updates_mergedOperation {spec : EpsonSpec} {descriptionFragment : String}
    {operation : MemoryOperation}
    (h : spec.mergedOperation descriptionFragment = .ok (some operation)) :
    operation.Updates (spec.declaredPairs descriptionFragment) := by
  rw [mergedOperation_eq, Outcome.ok.injEq, ite_eq_iff] at h
  obtain ⟨-, h⟩ | ⟨-, h⟩ := h
  · obtain rfl := Option.some.inj h
    constructor
    case nodup => exact Dictionary.nodup _
    case mem_addresses => exact Dictionary.keys_ofPairs.1
    case order => exact Dictionary.keys_ofPairs.2
    case length_resetValues => exact Dictionary.length_values _
    case isLast =>
      intro address value
      dsimp only
      rw [Dictionary.zip_keys_values]
      exact Dictionary.mem_entries_ofPairs
  · cases h

theorem mergedOperation_eq_none_iff {spec : EpsonSpec} {descriptionFragment : String} :
    spec.mergedOperation descriptionFragment = .ok none ↔
      spec.declaredPairs descriptionFragment = [] := by
  rw [mergedOperation_eq, Outcome.ok.injEq, ← Dictionary.ofPairs_eq_empty_iff]
  split
  case isTrue h => exact ⟨nofun, fun hnil ↦ absurd hnil h⟩
  case isFalse h => exact ⟨fun _ ↦ not_not.1 h, fun _ ↦ rfl⟩

/-- A pair is declared by an operation of the family. -/
theorem mem_declaredPairs {spec : EpsonSpec} {descriptionFragment : String}
    {pair : UInt16 × UInt8} : pair ∈ spec.declaredPairs descriptionFragment ↔
      ∃ operation ∈ spec.memoryOperations, Declares descriptionFragment operation ∧
        pair ∈ operation.addresses.zip operation.resetValues := by
  simp only [declaredPairs, List.mem_flatMap, List.mem_filter, decide_eq_true_eq, and_assoc]

end EpsonSpec

theorem ApplicationError.display_ne_ok {e : ApplicationError} {updates : List (UInt16 × UInt8)} :
    e.display.bind .err ≠ .ok updates := by
  unfold ApplicationError.display
  split <;> exact nofun

/-- What a counter reset returns has passed the check and is the merged operation. -/
theorem declaredCounterResetUpdates_eq_ok {spec : EpsonSpec} {target : CounterResetTarget}
    {updates : List (UInt16 × UInt8)} (h : declaredCounterResetUpdates spec target = .ok updates) :
    ValidUpdates spec updates ∧ ∃ operation,
      spec.mergedOperation target.descriptionFragment = .ok (some operation) ∧
        updates = operation.addresses.zip operation.resetValues := by
  obtain ⟨merged, hmerged⟩ : ∃ merged, spec.counterReset target = .ok merged :=
    ⟨_, spec.mergedOperation_eq _⟩
  unfold declaredCounterResetUpdates at h
  rw [hmerged] at h
  rcases merged with _ | operation
  case none => cases h
  case some =>
    change (if ¬ operation.hasDeclaredResetValues = true then _ else _) = _ at h
    split at h
    case isTrue => cases h
    case isFalse =>
      split at h
      case h_1 => exact absurd h ApplicationError.display_ne_ok
      case h_2 hvalid =>
        cases h
        exact ⟨validateEepromUpdates_eq_ok.1 hvalid, operation, hmerged, rfl⟩

/-- **Merging is the reference update of a dictionary.** For every fragment the merged operation is
the update with the declared pairs, and there is none exactly where there are no pairs. So every
update of a counter reset is a declared pair of its family, in the model's range and with an address
of its own. -/
theorem mergedOperation_updates (spec : EpsonSpec) :
    (∀ descriptionFragment, ∃ merged, spec.mergedOperation descriptionFragment = .ok merged ∧
      (merged = none ↔ (spec.declaredPairs descriptionFragment).map Prod.fst = []) ∧
      ∀ operation ∈ merged, operation.Updates (spec.declaredPairs descriptionFragment)) ∧
    ∀ target updates, declaredCounterResetUpdates spec target = .ok updates →
      (updates.map Prod.fst).Nodup ∧ ∀ update ∈ updates, spec.Contains update.1 ∧
        ∃ operation ∈ spec.memoryOperations,
          EpsonSpec.Declares target.descriptionFragment operation ∧
            update ∈ operation.addresses.zip operation.resetValues := by
  constructor
  · intro descriptionFragment
    refine ⟨_, spec.mergedOperation_eq descriptionFragment, ?_, fun operation hoperation ↦ ?_⟩
    · rw [List.map_eq_nil_iff, ← EpsonSpec.mergedOperation_eq_none_iff,
        spec.mergedOperation_eq descriptionFragment, Outcome.ok.injEq]
    · refine EpsonSpec.updates_mergedOperation ?_
      rw [spec.mergedOperation_eq descriptionFragment, Option.mem_def.1 hoperation]
  · intro target updates h
    obtain ⟨hvalid, operation, hmerged, rfl⟩ := declaredCounterResetUpdates_eq_ok h
    refine ⟨hvalid.nodup, fun update hupdate ↦ ⟨hvalid.contains update hupdate, ?_⟩⟩
    have hlast := (EpsonSpec.updates_mergedOperation hmerged).isLast update.1 update.2
    obtain ⟨before, after, hpairs, -⟩ := hlast.1 hupdate
    refine EpsonSpec.mem_declaredPairs.1 ?_
    rw [hpairs]
    exact List.mem_append_right _ List.mem_cons_self

example : declaredCounterResetUpdates EpsonSpec.c90 .waste = .ok
    [(0x06, 0), (0x07, 0), (0x0a, 0), (0x0b, 0), (0x16, 0), (0x17, 0), (0x34, 4), (0x35, 0x57),
      (0x0c, 1), (0x0d, 0xf4)] := by
  decide +kernel

end Reink
