import Mathlib.Data.List.Forall2

/-!
# Computations that may fail

What is known when a computation in `Except` has given a value: of a sequence, of a check, of a list
whose elements are each converted, and of a loop.
-/

namespace Except

variable {ε α β σ : Type}

theorem bind_eq_ok {x : Except ε α} {f : α → Except ε β} {b : β} :
    (x >>= f) = .ok b ↔ ∃ a, x = .ok a ∧ f a = .ok b := by
  rcases x with e | a
  · exact ⟨fun h ↦ (nomatch h), fun ⟨_, h, _⟩ ↦ (nomatch h)⟩
  · exact ⟨fun h ↦ ⟨a, rfl, h⟩, fun ⟨_, h, h'⟩ ↦ by cases h; exact h'⟩

/-- A check that ends the computation where its condition holds. -/
theorem ite_eq_ok {c : Prop} [Decidable c] {e : ε} {x : Except ε α} {a : α} :
    (if c then .error e else x) = .ok a ↔ ¬ c ∧ x = .ok a := by
  by_cases hc : c
  · rw [if_pos hc]
    exact ⟨fun h ↦ (nomatch h), fun h ↦ absurd hc h.1⟩
  · rw [if_neg hc]
    exact ⟨fun h ↦ ⟨hc, h⟩, fun h ↦ h.2⟩

/-- The value, or the error where there is none. -/
def okOr (error : ε) : Option α → Except ε α
  | some value => .ok value
  | none => .error error

theorem okOr_eq_ok_iff {error : ε} {x : Option α} {a : α} :
    okOr error x = .ok a ↔ x = some a := by
  rcases x with _ | value
  · exact iff_of_false (fun h ↦ nomatch h) fun h ↦ nomatch h
  · rw [okOr, Except.ok.injEq, Option.some_inj]

/-- Every element has been converted. -/
theorem mapM_eq_ok {f : α → Except ε β} {l : List α} {l' : List β} :
    l.mapM f = .ok l' ↔ List.Forall₂ (fun a b ↦ f a = .ok b) l l' := by
  induction l generalizing l' with
  | nil =>
    rw [List.mapM_nil, List.forall₂_nil_left_iff]
    exact ⟨fun h ↦ (Except.ok.inj h).symm, fun h ↦ by rw [h]; rfl⟩
  | cons a l ih =>
    rw [List.mapM_cons, bind_eq_ok, List.forall₂_cons_left_iff]
    constructor
    · rintro ⟨b, hb, h⟩
      obtain ⟨rest, hrest, h⟩ := bind_eq_ok.1 h
      cases h
      exact ⟨b, rest, hb, ih.1 hrest, rfl⟩
    · rintro ⟨b, rest, hb, hrest, rfl⟩
      exact ⟨b, hb, bind_eq_ok.2 ⟨rest, ih.2 hrest, rfl⟩⟩

/-- What a conversion makes sure of holds of every converted element. -/
theorem forall_of_mapM {f : α → Except ε β} {l : List α} {l' : List β} {P : β → Prop}
    (hf : ∀ a b, f a = .ok b → P b) (h : l.mapM f = .ok l') : ∀ b ∈ l', P b := by
  have hall := mapM_eq_ok.1 h
  clear h
  induction hall with
  | nil => exact fun b hb ↦ absurd hb List.not_mem_nil
  | cons hab _ ih => exact List.forall_mem_cons.2 ⟨hf _ _ hab, ih⟩

/-- **A conversion that inverts a writing** reads a list as what it is written for. -/
theorem mapM_eq_ok_iff_map_eq {γ : Type} {f : α → Except ε β} {l : List α} {l' : List β}
    {source : α → γ} {write : β → γ} (h : ∀ a ∈ l, ∀ b, f a = .ok b ↔ source a = write b) :
    l.mapM f = .ok l' ↔ l.map source = l'.map write := by
  rw [mapM_eq_ok]
  induction l generalizing l' with
  | nil =>
    rcases l' with _ | ⟨b, l'⟩
    · exact iff_of_true .nil rfl
    · exact iff_of_false (fun hall ↦ nomatch hall) fun heq ↦ nomatch heq
  | cons a l ih =>
    obtain ⟨hfirst, hrest⟩ := List.forall_mem_cons.1 h
    rcases l' with _ | ⟨b, l'⟩
    · exact iff_of_false (fun hall ↦ nomatch hall) (List.cons_ne_nil _ _)
    · rw [List.forall₂_cons, hfirst, ih hrest, List.map_cons, List.map_cons, List.cons.injEq]

/-- Every check has passed. -/
theorem forM_eq_ok {check : α → Except ε Unit} {l : List α} :
    forM l check = .ok () ↔ ∀ a ∈ l, check a = .ok () := by
  induction l with
  | nil => exact iff_of_true rfl fun _ h ↦ absurd h List.not_mem_nil
  | cons a l ih =>
    rw [List.forM_cons, bind_eq_ok, List.forall_mem_cons, ih]
    constructor
    · rintro ⟨_, hfirst, hrest⟩
      exact ⟨hfirst, hrest⟩
    · rintro ⟨hfirst, hrest⟩
      exact ⟨(), hfirst, hrest⟩

end Except
