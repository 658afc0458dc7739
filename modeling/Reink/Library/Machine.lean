import Mathlib.Logic.Relation

/-!
# Machines

A machine is a transition system whose steps carry labels: what a user or the surroundings do, or
what one of several threads does next. A safety property holds in every reachable state if it holds
at the start and every step keeps it (`Reachable.induction`).

The other two rules go back from a state to a step. What holds now and did not at the start has been
entered (`Reachable.entered`). If it can only be entered by steps of a certain kind, there is a last
of them, and it has held since (`Reachable.since`).
-/

open Relation (ReflTransGen)

/-- States, and the labelled steps between them. -/
structure Machine (σ L : Type) where
  start : σ → Prop
  step : L → σ → σ → Prop

namespace Machine

variable {σ L : Type} (M : Machine σ L)

/-- The state is followed by the other after some steps. -/
def Leads : σ → σ → Prop := ReflTransGen fun s s' ↦ ∃ label, M.step label s s'

/-- The states of a run. -/
def Reachable (s : σ) : Prop := ∃ first, M.start first ∧ M.Leads first s

/-- Some steps of which none has a label of the kind, with a property behind each of them. -/
def LeadsWithout (kind : L → Prop) (P : σ → Prop) : σ → σ → Prop :=
  ReflTransGen fun s s' ↦ ∃ label, ¬ kind label ∧ M.step label s s' ∧ P s'

variable {M} {s s' : σ} {label : L} {P : σ → Prop}

theorem Reachable.of_start (h : M.start s) : M.Reachable s := ⟨s, h, .refl⟩

theorem Reachable.leads (h : M.Reachable s) (hleads : M.Leads s s') : M.Reachable s' := by
  obtain ⟨first, hstart, hfirst⟩ := h
  exact ⟨first, hstart, hfirst.trans hleads⟩

theorem Reachable.step (h : M.Reachable s) (hstep : M.step label s s') : M.Reachable s' :=
  h.leads (.single ⟨label, hstep⟩)

/-- **The invariant rule.** What holds at the start and is kept by the steps from reachable states
holds in every reachable state. -/
theorem Reachable.induction (hstart : ∀ s, M.start s → P s)
    (hstep : ∀ label s s', M.Reachable s → P s → M.step label s s' → P s') (h : M.Reachable s) :
    P s := by
  obtain ⟨first, hfirst, hleads⟩ := h
  induction hleads with
  | refl => exact hstart first hfirst
  | tail hbefore hlast ih =>
    obtain ⟨label, hlast⟩ := hlast
    exact hstep label _ _ ⟨first, hfirst, hbefore⟩ ih hlast

/-- **What holds has been entered**, if it did not hold at the start. -/
theorem Reachable.entered (hstart : ∀ s, M.start s → ¬ P s) (h : M.Reachable s) (hP : P s) :
    ∃ before label after, M.Reachable before ∧ ¬ P before ∧ M.step label before after ∧ P after ∧
      M.Leads after s := by
  obtain ⟨first, hfirst, hleads⟩ := h
  induction hleads with
  | refl => exact absurd hP (hstart first hfirst)
  | @tail before after hbefore hlast ih =>
    by_cases hentered : P before
    · obtain ⟨s₀, label, s₁, hreachable, hnot, hstep, hholds, hsince⟩ := ih hentered
      exact ⟨s₀, label, s₁, hreachable, hnot, hstep, hholds, hsince.tail hlast⟩
    · obtain ⟨label, hlast⟩ := hlast
      exact ⟨before, label, after, ⟨first, hfirst, hbefore⟩, hentered, hlast, hP, .refl⟩

/-- **The last step that entered.** What does not hold at the start, and is entered by steps of a
kind only, has held since the last step of that kind. -/
theorem Reachable.since {K : L → Prop} (hstart : ∀ s, M.start s → ¬ P s)
    (henter : ∀ label s s', M.step label s s' → P s' → P s ∨ K label)
    (h : M.Reachable s) (hP : P s) :
    ∃ before label opened, M.Reachable before ∧ K label ∧ M.step label before opened ∧
      P opened ∧ M.LeadsWithout K P opened s := by
  obtain ⟨first, hfirst, hleads⟩ := h
  induction hleads with
  | refl => exact absurd hP (hstart first hfirst)
  | @tail before after hbefore hlast ih =>
    obtain ⟨label, hlast⟩ := hlast
    by_cases hkind : K label
    · exact ⟨before, label, after, ⟨first, hfirst, hbefore⟩, hkind, hlast, hP, .refl⟩
    · have hheld := (henter label _ _ hlast hP).resolve_right hkind
      obtain ⟨s₀, opening, s₁, hreachable, hopens, hstep, hholds, hsince⟩ := ih hheld
      exact ⟨s₀, opening, s₁, hreachable, hopens, hstep, hholds,
        hsince.tail ⟨label, hkind, hlast, hP⟩⟩

/-- Steps of no such kind are steps. -/
theorem LeadsWithout.leads {K : L → Prop} (h : M.LeadsWithout K P s s') : M.Leads s s' :=
  ReflTransGen.mono (fun _ _ ⟨label, _, hstep, _⟩ ↦ ⟨label, hstep⟩) _ _ h

/-- What is kept by the steps of no such kind is kept by a run of them. -/
theorem LeadsWithout.induction {K : L → Prop} {Q : σ → Prop}
    (hstep : ∀ label s s', ¬ K label → M.step label s s' → P s → P s' → Q s → Q s')
    (h : M.LeadsWithout K P s s') (hP : P s) (hQ : Q s) : P s' ∧ Q s' := by
  induction h with
  | refl => exact ⟨hP, hQ⟩
  | tail _ hlast ih =>
    obtain ⟨label, hkind, hlast, hholds⟩ := hlast
    exact ⟨hholds, hstep label _ _ hkind hlast ih.1 hholds ih.2⟩

end Machine
