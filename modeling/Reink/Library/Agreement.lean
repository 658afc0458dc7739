import Reink.Library.Recorded

/-!
# Two runs that agree

A relational rule system for programs that record their steps. Two programs, run from related
states, `Agree` when they end alike in related states, provided that both have ended and that
neither has made a step that disturbs the relation. Which steps those are is a parameter,
`Disturbs`; the rules ask for nothing where such a step is made.

The programs are two because the second half of a sequence is a function of what the first half has
observed, and related states may be observed differently.
-/

namespace Recorded

variable {σ η : Type}

/-- None of the steps so far disturbs. -/
def Undisturbed (Disturbs : η → Prop) (w : Recorded σ η) : Prop :=
  ∀ step ∈ w.history, ¬ Disturbs step.event

instance (Disturbs : η → Prop) [DecidablePred Disturbs] (w : Recorded σ η) :
    Decidable (w.Undisturbed Disturbs) :=
  inferInstanceAs (Decidable (∀ step ∈ w.history, ¬ Disturbs step.event))

variable {Disturbs : η → Prop} {w w' : Recorded σ η}

theorem undisturbed_push_iff {event : η} {after : σ} :
    (w.push event after).Undisturbed Disturbs ↔ w.Undisturbed Disturbs ∧ ¬ Disturbs event := by
  simp only [Undisturbed, push_history, List.forall_mem_append, List.forall_mem_singleton]

theorem Undisturbed.of_isPrefix (h : w.history <+: w'.history) (hw : w'.Undisturbed Disturbs) :
    w.Undisturbed Disturbs :=
  fun step hstep ↦ hw step (h.subset hstep)

end Recorded

open Recorded

namespace Program

variable {σ η ε α β : Type}

/-- The record only grows. -/
def Grows (m : Program (Recorded σ η) ε α) : Prop := ∀ w, w.history <+: (m w).2.history

/-- The two programs end alike from related states, unless they are disturbed. -/
structure Agree (R : σ → σ → Prop) (Disturbs : η → Prop) (m m' : Program (Recorded σ η) ε α) :
    Prop where
  grows : Grows m
  grows' : Grows m'
  ends : ∀ w w', R w.state w'.state → (m w).1 ≠ .running → (m' w').1 ≠ .running →
    (m w).2.Undisturbed Disturbs → (m' w').2.Undisturbed Disturbs →
    (m w).1 = (m' w').1 ∧ R (m w).2.state (m' w').2.state

section Sequence

variable {m : Program (Recorded σ η) ε α} {f : α → Program (Recorded σ η) ε β}

/-- The record after the first half is there after the whole. -/
theorem Grows.first (hf : ∀ a, Grows (f a)) (w : Recorded σ η) :
    (m w).2.history <+: ((m >>= f) w).2.history := by
  rcases bind_cases m f w with ⟨a, v, h, hb⟩ | ⟨e, v, h, hb⟩ | ⟨p, v, h, hb⟩ | ⟨v, h, hb⟩
  · rw [h, hb]
    exact hf a v
  all_goals simp [h, hb]

theorem Grows.bind (hm : Grows m) (hf : ∀ a, Grows (f a)) : Grows (m >>= f) :=
  fun w ↦ (hm w).trans (Grows.first hf w)

end Sequence

namespace Agree

variable {R : σ → σ → Prop} {Disturbs : η → Prop}

theorem pure (a : α) :
    Agree R Disturbs (Pure.pure a : Program (Recorded σ η) ε α) (Pure.pure a) :=
  ⟨fun _ ↦ List.prefix_rfl, fun _ ↦ List.prefix_rfl, fun _ _ hR _ _ _ _ ↦ ⟨rfl, hR⟩⟩

theorem throw (e : ε) :
    Agree R Disturbs (Program.throw e : Program (Recorded σ η) ε α) (Program.throw e) :=
  ⟨fun _ ↦ List.prefix_rfl, fun _ ↦ List.prefix_rfl, fun _ _ hR _ _ _ _ ↦ ⟨rfl, hR⟩⟩

theorem running :
    Agree R Disturbs (Program.running : Program (Recorded σ η) ε α) Program.running :=
  ⟨fun _ ↦ List.prefix_rfl, fun _ ↦ List.prefix_rfl, fun _ _ _ h _ _ _ ↦ absurd rfl h⟩

theorem mark (event : η) :
    Agree R Disturbs (Program.mark event : Program (Recorded σ η) ε Unit) (Program.mark event) :=
  ⟨fun _ ↦ List.prefix_append _ _, fun _ ↦ List.prefix_append _ _,
    fun _ _ hR _ _ _ _ ↦ ⟨rfl, hR⟩⟩

/-- Blocks of code that end alike from related states. -/
theorem atomic {event : Outcome ε α → η} {body body' : Program σ ε α}
    (hbody : ∀ s s', R s s' → (body s).1 = (body' s').1 ∧ R (body s).2 (body' s').2) :
    Agree R Disturbs (Program.atomic event body) (Program.atomic event body') :=
  ⟨fun _ ↦ List.prefix_append _ _, fun _ ↦ List.prefix_append _ _,
    fun w w' hR _ _ _ _ ↦ hbody w.state w'.state hR⟩

/-- A step that disturbs. -/
theorem disturbed {event : Outcome ε α → η} {body body' : Program σ ε α}
    (hevent : ∀ o, Disturbs (event o)) :
    Agree R Disturbs (Program.atomic event body) (Program.atomic event body') :=
  ⟨fun _ ↦ List.prefix_append _ _, fun _ ↦ List.prefix_append _ _,
    fun _ _ _ _ _ hw _ ↦ absurd (hevent _) (undisturbed_push_iff.1 hw).2⟩

/-- **Sequencing.** -/
theorem bind {m m' : Program (Recorded σ η) ε α} {f f' : α → Program (Recorded σ η) ε β}
    (hm : Agree R Disturbs m m') (hf : ∀ a, Agree R Disturbs (f a) (f' a)) :
    Agree R Disturbs (m >>= f) (m' >>= f') := by
  refine ⟨hm.grows.bind fun a ↦ (hf a).grows, hm.grows'.bind fun a ↦ (hf a).grows', ?_⟩
  intro w w' hR hended hended' hw hw'
  have hfirst : (m w).1 ≠ .running := fun h ↦
    hended (congrArg Prod.fst (bind_run_running (Prod.ext h rfl)))
  have hfirst' : (m' w').1 ≠ .running := fun h ↦
    hended' (congrArg Prod.fst (bind_run_running (Prod.ext h rfl)))
  obtain ⟨heq, hstate⟩ := hm.ends w w' hR hfirst hfirst'
    (hw.of_isPrefix (Grows.first (fun a ↦ (hf a).grows) w))
    (hw'.of_isPrefix (Grows.first (fun a ↦ (hf a).grows') w'))
  rcases h : m w with ⟨a | e | p | _, v⟩ <;> rcases h' : m' w' with ⟨o', v'⟩ <;>
    rw [h, h'] at heq hstate <;> cases heq
  case ok =>
    rw [bind_run_ok h] at hended hw ⊢
    rw [bind_run_ok h'] at hended' hw' ⊢
    exact (hf a).ends v v' hstate hended hended' hw hw'
  case err =>
    rw [bind_run_err h, bind_run_err h']
    exact ⟨rfl, hstate⟩
  case panic =>
    rw [bind_run_panic h, bind_run_panic h']
    exact ⟨rfl, hstate⟩
  case running =>
    rw [h] at hfirst
    exact absurd rfl hfirst

/-- What is observed are related states; a weaker relation on them, that every state has to itself,
may be all that the code depends on. -/
theorem observe_bind {Q : σ → σ → Prop} {f f' : σ → Program (Recorded σ η) ε β}
    (hQ : ∀ s, Q s s) (hRQ : ∀ s s', R s s' → Q s s')
    (hf : ∀ s s', Q s s' → Agree R Disturbs (f s) (f' s')) :
    Agree R Disturbs (Program.observe >>= f) (Program.observe >>= f') :=
  ⟨fun w ↦ (hf w.state w.state (hQ _)).grows w, fun w ↦ (hf w.state w.state (hQ _)).grows' w,
    fun w w' hR ↦ (hf w.state w'.state (hRQ _ _ hR)).ends w w' hR⟩

theorem rejectIf {c : Prop} [Decidable c] (e : ε) :
    Agree R Disturbs (Program.rejectIf c e : Program (Recorded σ η) ε Unit)
      (Program.rejectIf c e) := by
  unfold Program.rejectIf
  split
  · exact throw e
  · exact pure ()

theorem orThrow (o : Option α) (e : ε) :
    Agree R Disturbs (Program.orThrow o e : Program (Recorded σ η) ε α) (Program.orThrow o e) := by
  cases o with
  | none => exact throw e
  | some a => exact pure a

theorem ofExcept {ε' : Type} (g : ε' → ε) (r : Except ε' α) :
    Agree R Disturbs (Program.ofExcept g r : Program (Recorded σ η) ε α)
      (Program.ofExcept g r) := by
  cases r with
  | error e => exact throw (g e)
  | ok a => exact pure a

theorem when {c : Prop} [Decidable c] {m m' : Program (Recorded σ η) ε Unit}
    (hm : Agree R Disturbs m m') :
    Agree R Disturbs (Program.when c m) (Program.when c m') := by
  unfold Program.when
  split
  · exact hm
  · exact pure ()

end Agree

end Program
