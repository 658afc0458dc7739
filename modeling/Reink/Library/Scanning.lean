import Mathlib.Data.List.Basic

/-!
# Scans from the left

What a scan over positions finds. A scan for matches of a fixed width goes on behind a match, so
that it finds a match exactly if it does not start inside the one found before. A scan for runs
finds the maximal intervals of positions that have a property.
-/

/-! ### Matches -/

/-- The positions from `start` on at which a scan finds a match: those that do not lie inside the
match that it found before. -/
structure Leftmost (P : Nat → Prop) (width start : Nat) (found : List Nat) : Prop where
  pairwise : found.Pairwise (· < ·)
  mem_iff : ∀ position, position ∈ found ↔
    start ≤ position ∧ P position ∧ ∀ other ∈ found, other < position → other + width ≤ position

namespace Leftmost

variable {P : Nat → Prop} {width start : Nat} {found : List Nat}

/-- The scan has come behind the last match. -/
theorem done (h : ∀ position, start ≤ position → ¬ P position) : Leftmost P width start [] := by
  refine ⟨List.Pairwise.nil, fun position ↦ ⟨fun hmem ↦ absurd hmem List.not_mem_nil, ?_⟩⟩
  exact fun ⟨hle, hmatch, _⟩ ↦ absurd hmatch (h position hle)

/-- There is no match here. -/
theorem skip (h : ¬ P start) (hrest : Leftmost P width (start + 1) found) :
    Leftmost P width start found := by
  refine ⟨hrest.pairwise, fun position ↦ ?_⟩
  rw [hrest.mem_iff]
  constructor
  · exact fun ⟨hle, hmatch⟩ ↦ ⟨by omega, hmatch⟩
  · rintro ⟨hle, hmatch, hclear⟩
    refine ⟨Nat.lt_of_le_of_ne hle ?_, hmatch, hclear⟩
    rintro rfl
    exact h hmatch

/-- There is a match here, and the scan goes on behind it. -/
theorem take (h : P start) (hwidth : 0 < width)
    (hrest : Leftmost P width (start + width) found) :
    Leftmost P width start (start :: found) := by
  have hbehind : ∀ position ∈ found, start + width ≤ position :=
    fun position hmem ↦ ((hrest.mem_iff position).1 hmem).1
  refine ⟨List.pairwise_cons.2 ⟨fun position hmem ↦ ?_, hrest.pairwise⟩, fun position ↦ ?_⟩
  · have hle := hbehind position hmem
    omega
  · rw [List.mem_cons, hrest.mem_iff, List.forall_mem_cons]
    constructor
    · rintro (rfl | ⟨hle, hmatch, hclear⟩)
      · refine ⟨Nat.le_refl _, h, fun hlt ↦ absurd hlt (Nat.lt_irrefl _), fun other hmem hlt ↦ ?_⟩
        have hle := hbehind other hmem
        omega
      · exact ⟨by omega, hmatch, fun _ ↦ hle, hclear⟩
    · rintro ⟨hle, hmatch, hfirst, hclear⟩
      rcases Nat.eq_or_lt_of_le hle with heq | hlt
      · exact .inl heq.symm
      · exact .inr ⟨hfirst hlt, hmatch, hclear⟩

/-- A match that overlaps no match before it is found. -/
theorem mem_of_isolated {position : Nat} (hfound : Leftmost P width start found)
    (hle : start ≤ position) (hmatch : P position)
    (hisolated : ∀ other, P other → other < position → other + width ≤ position) :
    position ∈ found := by
  refine (hfound.mem_iff position).2 ⟨hle, hmatch, fun other hmem hlt ↦ ?_⟩
  exact hisolated other ((hfound.mem_iff other).1 hmem).2.1 hlt

end Leftmost

/-! ### Runs -/

/-- The positions from `start` to before `stop` have the property, and none next to them has. -/
structure MaximalRun (P : Nat → Prop) (start stop : Nat) : Prop where
  lt : start < stop
  all : ∀ position, start ≤ position → position < stop → P position
  not_before : ∀ position, position + 1 = start → ¬ P position
  not_behind : ¬ P stop

/-- The list has the maximal runs from `start` on, in their order. -/
structure ListsRuns (P : Nat → Prop) (start : Nat) (runs : List (Nat × Nat)) : Prop where
  pairwise : runs.Pairwise fun run run' ↦ run.1 < run'.1
  mem_iff : ∀ first stop, (first, stop) ∈ runs ↔ start ≤ first ∧ MaximalRun P first stop

namespace ListsRuns

variable {P : Nat → Prop} {start stop : Nat} {runs : List (Nat × Nat)}

theorem done (h : ∀ position, start ≤ position → ¬ P position) : ListsRuns P start [] := by
  refine ⟨List.Pairwise.nil, fun first stop ↦ ⟨fun hmem ↦ absurd hmem List.not_mem_nil, ?_⟩⟩
  exact fun ⟨hle, hrun⟩ ↦ absurd (hrun.all first (Nat.le_refl _) hrun.lt) (h first hle)

theorem skip (h : ¬ P start) (hrest : ListsRuns P (start + 1) runs) : ListsRuns P start runs := by
  refine ⟨hrest.pairwise, fun first stop ↦ ?_⟩
  rw [hrest.mem_iff]
  constructor
  · exact fun ⟨hle, hrun⟩ ↦ ⟨by omega, hrun⟩
  · rintro ⟨hle, hrun⟩
    refine ⟨Nat.lt_of_le_of_ne hle ?_, hrun⟩
    rintro rfl
    exact h (hrun.all _ (Nat.le_refl _) hrun.lt)

/-- A run starts here, and the scan goes on behind it. -/
theorem take (h : MaximalRun P start stop) (hrest : ListsRuns P stop runs) :
    ListsRuns P start ((start, stop) :: runs) := by
  have hlt := h.lt
  refine ⟨List.pairwise_cons.2 ⟨fun run hmem ↦ ?_, hrest.pairwise⟩, fun first stop' ↦ ?_⟩
  · exact Nat.lt_of_lt_of_le hlt ((hrest.mem_iff run.1 run.2).1 hmem).1
  · rw [List.mem_cons, hrest.mem_iff, Prod.mk.injEq]
    constructor
    · rintro (⟨rfl, rfl⟩ | ⟨hle, hrun⟩)
      · exact ⟨Nat.le_refl _, h⟩
      · exact ⟨by omega, hrun⟩
    · rintro ⟨hle, hrun⟩
      have hlt' := hrun.lt
      rcases Nat.lt_or_ge first stop with hinside | hbehind
      case inr => exact .inr ⟨hbehind, hrun⟩
      -- a run that starts inside this one starts with it and ends with it
      left
      have hfirst : first = start := by
        by_contra hne
        exact hrun.not_before (first - 1) (by omega) (h.all (first - 1) (by omega) (by omega))
      subst hfirst
      refine ⟨rfl, Nat.le_antisymm ?_ ?_⟩
      · by_contra hgt
        exact h.not_behind (hrun.all stop (Nat.le_of_lt hlt) (by omega))
      · by_contra hgt
        exact hrun.not_behind (h.all stop' (Nat.le_of_lt hlt') (by omega))

end ListsRuns
