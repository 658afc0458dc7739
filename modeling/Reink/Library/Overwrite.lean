import Mathlib.Data.List.Basic
import Mathlib.Logic.Function.Basic

/-!
# Overwriting a memory

A memory is a function from addresses. `overwrite` stores a list of values in their order, so that
for each address the last one stays, and two memories are `EqOff` a list of addresses when they
differ at most there. A memory that is equal off the addresses still to be restored, with the value
restored at each, ends as it began: that is the whole idea of undoing a list of writes, and it
needs neither an order nor distinct addresses.
-/

variable {α β : Type}

/-- The memories differ at most at the addresses. -/
def EqOff (addresses : List α) (m m' : α → β) : Prop := ∀ a ∉ addresses, m a = m' a

namespace EqOff

variable {addresses rest : List α} {m m' m'' : α → β}

theorem refl (addresses : List α) (m : α → β) : EqOff addresses m m := fun _ _ ↦ rfl

theorem trans (h : EqOff addresses m m') (h' : EqOff rest m' m'') :
    EqOff (addresses ++ rest) m m'' := fun a ha ↦
  (h a fun hmem ↦ ha (List.mem_append_left _ hmem)).trans
    (h' a fun hmem ↦ ha (List.mem_append_right _ hmem))

/-- With no address left the memories are equal. -/
theorem eq_of_nil (h : EqOff [] m m') : m = m' := funext fun a ↦ h a List.not_mem_nil

/-- Which addresses may differ matters only as a set. -/
theorem of_subset (h : EqOff addresses m m') (hsub : addresses ⊆ rest) : EqOff rest m m' :=
  fun a ha ↦ h a fun hmem ↦ ha (hsub hmem)

end EqOff

variable [DecidableEq α]

/-- Restoring an address takes it off those that may differ. -/
theorem EqOff.restore {rest : List α} {m m' : α → β} {a : α} (h : EqOff (a :: rest) m m') :
    EqOff rest (Function.update m a (m' a)) m' := by
  intro x hx
  by_cases hxa : x = a
  · subst hxa
    exact Function.update_self x _ m
  · rw [Function.update_of_ne hxa]
    exact h x (by simp [hxa, hx])

/-- The memory after the updates, in their order. -/
def overwrite (memory : α → β) (updates : List (α × β)) : α → β :=
  updates.foldl (fun m u ↦ Function.update m u.1 u.2) memory

@[simp] theorem overwrite_nil (memory : α → β) : overwrite memory [] = memory := rfl

@[simp] theorem overwrite_cons (memory : α → β) (u : α × β) (updates : List (α × β)) :
    overwrite memory (u :: updates) = overwrite (Function.update memory u.1 u.2) updates := rfl

/-- What a memory holds after the updates: the last value for the address, or what it held. -/
theorem overwrite_apply (memory : α → β) (updates : List (α × β)) (a : α) :
    overwrite memory updates a =
      ((updates.reverse.find? fun u ↦ u.1 = a).map Prod.snd).getD (memory a) := by
  induction updates generalizing memory with
  | nil => rfl
  | cons u updates ih =>
    rw [overwrite_cons, ih, List.reverse_cons, List.find?_append]
    rcases hlast : updates.reverse.find? (fun u ↦ u.1 = a) with _ | v
    · by_cases h : u.1 = a
      · subst h
        simp [hlast]
      · simp [hlast, h, Function.update_of_ne (Ne.symm h)]
    · simp [hlast]

/-- An address that no update names keeps its value. -/
theorem overwrite_of_notMem (memory : α → β) {updates : List (α × β)} {a : α}
    (h : a ∉ updates.map Prod.fst) : overwrite memory updates a = memory a := by
  have hnone : updates.reverse.find? (fun u ↦ u.1 = a) = none := by
    refine List.find?_eq_none.2 fun u hu ↦ ?_
    simpa using fun heq : u.1 = a ↦ h (heq ▸ List.mem_map_of_mem (List.mem_reverse.1 hu))
  rw [overwrite_apply, hnone]
  rfl

/-- With each address named at most once, every update is stored. -/
theorem overwrite_of_mem (memory : α → β) {updates : List (α × β)} {a : α} {b : β}
    (hnodup : (updates.map Prod.fst).Nodup) (h : (a, b) ∈ updates) :
    overwrite memory updates a = b := by
  induction updates generalizing memory with
  | nil => cases h
  | cons u updates ih =>
    obtain ⟨hfresh, hrest⟩ := List.nodup_cons.1 hnodup
    rw [overwrite_cons]
    rcases List.mem_cons.1 h with rfl | hmem
    · rw [overwrite_of_notMem _ hfresh, Function.update_self]
    · exact ih _ hrest hmem
