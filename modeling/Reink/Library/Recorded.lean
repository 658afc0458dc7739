import Mathlib.Data.List.Basic
import Reink.Library.Program

/-!
# Programs that record their steps

A `Recorded σ η` is a state together with the list of steps that led to it: each step holds the
state before it, a label, and the state after it. A program over `Recorded σ η` changes the state
through `atomic` only, which runs a block of code on the plain state and appends one step, so the
record is complete by construction; code never reads it.

`Trail S w w'` says that `w'` continues `w` by steps that all obey the law `S`. A law sees the whole
record before the step, so it may speak of what was done just before. `Trail` is the one induction
of this development over runs: what each step preserves (`Trail.invariant`) holds of every state
reached, and what each step satisfies (`Trail.forall_history`) holds of the whole record.

`Follows S F m w` says that the program `m`, run from `w`, goes along such a path, and that where it
panics its last step is one of the faults `F` instead. It is proved along the structure of the
program.
-/

/-- One step of a run. -/
structure Step (σ η : Type) where
  /-- The state the step starts in. -/
  before : σ
  /-- What the step does. -/
  event : η
  /-- The state the step ends in. -/
  after : σ

/-- A state and the steps that led to it, oldest first. -/
structure Recorded (σ η : Type) where
  /-- Where the run stands. -/
  state : σ
  /-- The steps so far. -/
  history : List (Step σ η)

namespace Recorded

variable {σ η : Type}

/-- A run that has made no step. -/
def start (s : σ) : Recorded σ η := ⟨s, []⟩

/-- The run after one more step. -/
def push (w : Recorded σ η) (event : η) (after : σ) : Recorded σ η :=
  ⟨after, w.history ++ [⟨w.state, event, after⟩]⟩

/-- The states of the run, oldest first, the current one last. -/
def states (w : Recorded σ η) : List σ := w.history.map Step.before ++ [w.state]

@[simp] theorem start_state (s : σ) : (start s : Recorded σ η).state = s := rfl

@[simp] theorem start_history (s : σ) : (start s : Recorded σ η).history = [] := rfl

@[simp] theorem push_state (w : Recorded σ η) (event : η) (after : σ) :
    (w.push event after).state = after := rfl

@[simp] theorem push_history (w : Recorded σ η) (event : η) (after : σ) :
    (w.push event after).history = w.history ++ [⟨w.state, event, after⟩] := rfl

@[simp] theorem start_states (s : σ) : (start s : Recorded σ η).states = [s] := rfl

@[simp] theorem push_states (w : Recorded σ η) (event : η) (after : σ) :
    (w.push event after).states = w.states ++ [after] := by
  simp [states]

/-- The last step of a record and the record before it are determined. -/
theorem push_inj {w v : Recorded σ η} {event event' : η} {after after' : σ} :
    w.push event after = v.push event' after' ↔ w = v ∧ event = event' ∧ after = after' := by
  constructor
  · intro h
    obtain ⟨hhistory, hlast⟩ := List.append_inj' (congrArg history h) rfl
    obtain ⟨state, past⟩ := w
    obtain ⟨state', past'⟩ := v
    cases hlast
    cases hhistory
    exact ⟨rfl, rfl, rfl⟩
  · rintro ⟨rfl, rfl, rfl⟩
    rfl

theorem state_mem_states (w : Recorded σ η) : w.state ∈ w.states := by
  simp [states]

/-- A property that every state passes on to all later ones keeps doing so over one more step
exactly when that step passes it on. -/
theorem pairwise_push_iff {P : σ → Prop} (w : Recorded σ η) (event : η) (after : σ) :
    (w.push event after).states.Pairwise (fun s t ↦ P s → P t) ↔
      w.states.Pairwise (fun s t ↦ P s → P t) ∧ (P w.state → P after) := by
  rw [push_states, List.pairwise_append]
  simp only [List.pairwise_singleton, true_and, List.mem_singleton, forall_eq]
  refine and_congr_right fun hpairwise ↦ ⟨fun h ↦ h _ w.state_mem_states, fun h s hs hP ↦ h ?_⟩
  -- The current state is the last one, so an earlier state has passed the property on to it.
  rcases List.mem_append.1 hs with hs | hs
  · exact (List.pairwise_append.1 hpairwise).2.2 s hs _ (List.mem_singleton.2 rfl) hP
  · rwa [← List.mem_singleton.1 hs]

/-- The steps made after the record `w`. -/
def since (w' w : Recorded σ η) : List (Step σ η) := w'.history.drop w.history.length

@[simp] theorem since_self (w : Recorded σ η) : w.since w = [] := List.drop_length

theorem since_push {w w' : Recorded σ η} (h : w.history <+: w'.history) (event : η) (after : σ) :
    (w'.push event after).since w = w'.since w ++ [⟨w'.state, event, after⟩] := by
  rw [since, push_history, List.drop_append_of_le_length h.length_le]
  rfl

/-- A longer record holds the same steps since `w`. -/
theorem since_subset {w v v' : Recorded σ η} (h : v.history <+: v'.history) :
    v.since w ⊆ v'.since w := by
  obtain ⟨later, hlater⟩ := h
  intro step hmem
  rw [since, ← hlater, List.drop_append]
  exact List.mem_append_left _ hmem

/-- The run passed through the record `v`. -/
def Passed (w v : Recorded σ η) : Prop :=
  v = w ∨ ∃ event after future, w.history = v.history ++ ⟨v.state, event, after⟩ :: future

/-- The run made this step after the record `v`. -/
def Stepped (w v : Recorded σ η) (event : η) (after : σ) : Prop :=
  ∃ future, w.history = v.history ++ ⟨v.state, event, after⟩ :: future

theorem Stepped.passed {w v : Recorded σ η} {event : η} {after : σ} (h : w.Stepped v event after) :
    w.Passed v :=
  .inr ⟨event, after, h⟩

/-- The step before a step of the run is one too. -/
theorem Stepped.earlier {w v : Recorded σ η} {event event' : η} {after after' : σ}
    (h : w.Stepped (v.push event after) event' after') : w.Stepped v event after := by
  obtain ⟨future, h⟩ := h
  refine ⟨⟨after, event', after'⟩ :: future, ?_⟩
  rw [h, push_history, push_state, List.append_assoc, List.singleton_append]

theorem stepped_of_isPrefix {w v : Recorded σ η} {event : η} {after : σ}
    (h : (v.push event after).history <+: w.history) : w.Stepped v event after := by
  obtain ⟨future, h⟩ := h
  refine ⟨future, ?_⟩
  rw [← h, push_history, List.append_assoc, List.singleton_append]

theorem Stepped.mono {w w' v : Recorded σ η} {event : η} {after : σ}
    (h : w.Stepped v event after) (hgrows : w.history <+: w'.history) :
    w'.Stepped v event after := by
  obtain ⟨future, h⟩ := h
  obtain ⟨later, hlater⟩ := hgrows
  refine ⟨future ++ later, ?_⟩
  rw [← hlater, h, List.append_assoc, List.cons_append]

/-- Every step in the record was made after some record. -/
theorem exists_stepped {w : Recorded σ η} {step : Step σ η} (h : step ∈ w.history) :
    ∃ v, v.state = step.before ∧ w.Stepped v step.event step.after := by
  obtain ⟨past, future, hsplit⟩ := List.append_of_mem h
  exact ⟨⟨step.before, past⟩, rfl, future, hsplit⟩

theorem passed_self (w : Recorded σ η) : w.Passed w := .inl rfl

theorem stepped_push_iff {w v : Recorded σ η} {event event' : η} {after after' : σ} :
    (w.push event after).Stepped v event' after' ↔
      w.Stepped v event' after' ∨ v = w ∧ event' = event ∧ after' = after := by
  unfold Stepped
  rw [push_history]
  constructor
  · rintro ⟨future, h⟩
    rcases future.eq_nil_or_concat with rfl | ⟨earlier, last, rfl⟩
    · obtain ⟨hhistory, hlast⟩ := List.append_inj' h rfl
      obtain ⟨vstate, vhistory⟩ := v
      cases hlast
      cases hhistory
      exact .inr ⟨rfl, rfl, rfl⟩
    · rw [List.concat_eq_append, ← List.cons_append, ← List.append_assoc] at h
      exact .inl ⟨earlier, (List.append_inj' h rfl).1⟩
  · rintro (⟨future, h⟩ | ⟨rfl, rfl, rfl⟩)
    · exact ⟨future ++ [⟨w.state, event, after⟩], by rw [h, List.append_assoc, List.cons_append]⟩
    · exact ⟨[], rfl⟩

theorem passed_push_iff {w v : Recorded σ η} {event : η} {after : σ} :
    (w.push event after).Passed v ↔ v = w.push event after ∨ w.Passed v := by
  have hstepped : ∀ w : Recorded σ η, w.Passed v ↔ v = w ∨ ∃ event after, w.Stepped v event after :=
    fun _ ↦ Iff.rfl
  rw [hstepped, hstepped]
  refine or_congr_right ⟨?_, ?_⟩
  · rintro ⟨event', after', h⟩
    rcases stepped_push_iff.1 h with h | ⟨rfl, -, -⟩
    · exact .inr ⟨event', after', h⟩
    · exact .inl rfl
  · rintro (rfl | ⟨event', after', h⟩)
    · exact ⟨event, after, stepped_push_iff.2 (.inr ⟨rfl, rfl, rfl⟩)⟩
    · exact ⟨event', after', stepped_push_iff.2 (.inl h)⟩

theorem passed_start_iff {s : σ} {v : Recorded σ η} : (start s).Passed v ↔ v = start s := by
  refine ⟨?_, fun h ↦ .inl h⟩
  rintro (h | ⟨event, after, future, h⟩)
  · exact h
  · simp at h

theorem not_stepped_start {s : σ} {v : Recorded σ η} {event : η} {after : σ} :
    ¬ (start s).Stepped v event after := by
  rintro ⟨future, h⟩
  simp at h

/-- No step of a run is behind its end. -/
theorem not_stepped_of_isPrefix {w v : Recorded σ η} {event : η} {after : σ}
    (h : w.history <+: v.history) : ¬ w.Stepped v event after := by
  rintro ⟨future, hsplit⟩
  have hlength := h.length_le
  rw [hsplit, List.length_append, List.length_cons] at hlength
  omega

/-- What holds of every step of a run can be checked on its record. -/
theorem forall_stepped_iff {w : Recorded σ η} {P : Recorded σ η → η → σ → Prop} :
    (∀ v event after, w.Stepped v event after → P v event after) ↔
      ∀ i : Fin w.history.length,
        P ⟨(w.history.get i).before, w.history.take i⟩ (w.history.get i).event
          (w.history.get i).after := by
  constructor
  · intro h i
    refine h _ _ _ ⟨w.history.drop (i + 1), ?_⟩
    have hdrop : w.history.drop i = w.history.get i :: w.history.drop (i + 1) :=
      List.drop_eq_getElem_cons i.isLt
    calc w.history = w.history.take i ++ w.history.drop i := (List.take_append_drop _ _).symm
      _ = w.history.take i ++ w.history.get i :: w.history.drop (i + 1) := by rw [hdrop]
  · rintro h ⟨state, past⟩ event after ⟨future, hsplit⟩
    have hlt : past.length < w.history.length := by
      rw [hsplit]
      simp
    have hget : w.history.get ⟨past.length, hlt⟩ = ⟨state, event, after⟩ := by
      simp [hsplit]
    have htake : w.history.take past.length = past := by
      rw [hsplit]
      exact List.take_left
    have hstep := h ⟨past.length, hlt⟩
    rw [hget, htake] at hstep
    exact hstep

end Recorded

open Recorded

/-! ### Paths -/

/-- What a step with the given label and result may do after the given record. -/
abbrev Law (σ η : Type) : Type := Recorded σ η → η → σ → Prop

/-- `w'` continues `w` by steps that obey `S`. -/
inductive Trail {σ η : Type} (S : Law σ η) (w : Recorded σ η) : Recorded σ η → Prop
  | refl : Trail S w w
  | snoc {w' : Recorded σ η} {event : η} {after : σ} (path : Trail S w w')
      (step : S w' event after) : Trail S w (w'.push event after)

namespace Trail

variable {σ η : Type} {S S' : Law σ η} {w w' w'' : Recorded σ η} {s : σ}

theorem single {event : η} {after : σ} (step : S w event after) : Trail S w (w.push event after) :=
  Trail.refl.snoc step

theorem trans (h : Trail S w w') (h' : Trail S w' w'') : Trail S w w'' := by
  induction h' with
  | refl => exact h
  | snoc _ step ih => exact ih.snoc step

theorem mono (hS : ∀ v event after, S v event after → S' v event after) (h : Trail S w w') :
    Trail S' w w' := by
  induction h with
  | refl => exact .refl
  | snoc _ step ih => exact ih.snoc (hS _ _ _ step)

/-- **The invariant rule.** What every step preserves is preserved along the path. The property
may speak of the record as well as of the state. -/
theorem invariant {I : Recorded σ η → Prop}
    (hI : ∀ (v : Recorded σ η) (event : η) (after : σ), S v event after → I v →
      I (v.push event after))
    (h : Trail S w w') (hw : I w) : I w' := by
  induction h with
  | refl => exact hw
  | snoc _ step ih => exact hI _ _ _ step ih

/-- The invariant rule for a property of the state. -/
theorem state_invariant {I : σ → Prop}
    (hI : ∀ (v : Recorded σ η) (event : η) (after : σ), S v event after → I v.state → I after)
    (h : Trail S w w') (hw : I w.state) : I w'.state :=
  h.invariant (I := fun v ↦ I v.state) hI hw

/-- **The invariant rule, both ways.** If across every step an invariant is kept exactly when the
step is fine, then it holds everywhere on the path exactly when every step is fine. -/
theorem invariant_iff {I : Recorded σ η → Prop} {Q : Recorded σ η → η → σ → Prop}
    (hI : ∀ (v : Recorded σ η) (event : η) (after : σ), S v event after → I v →
      (I (v.push event after) ↔ Q v event after))
    (h : Trail S (start s) w') (hs : I (start s)) :
    (∀ v, w'.Passed v → I v) ↔ ∀ v event after, w'.Stepped v event after → Q v event after := by
  refine h.invariant (I := fun u ↦ (∀ v, u.Passed v → I v) ↔
    ∀ v event after, u.Stepped v event after → Q v event after) ?_ ?_
  · -- with one step more there is one more record to pass, and one more step to be fine
    intro u event after hstep hu
    have hpassed : (∀ v, (u.push event after).Passed v → I v) ↔
        I (u.push event after) ∧ ∀ v, u.Passed v → I v := by
      simp only [passed_push_iff, forall_eq_or_imp]
    have hstepped : (∀ v event' after', (u.push event after).Stepped v event' after' →
        Q v event' after') ↔
        (∀ v event' after', u.Stepped v event' after' → Q v event' after') ∧ Q u event after := by
      constructor
      · exact fun hQ ↦ ⟨fun v event' after' hv ↦ hQ v event' after' (stepped_push_iff.2 (.inl hv)),
          hQ u event after (stepped_push_iff.2 (.inr ⟨rfl, rfl, rfl⟩))⟩
      · rintro ⟨hQ, hlast⟩ v event' after' hv
        rcases stepped_push_iff.1 hv with hv | ⟨rfl, rfl, rfl⟩
        · exact hQ v event' after' hv
        · exact hlast
    rw [hpassed, hstepped, ← hu]
    constructor
    · rintro ⟨hlast, hall⟩
      exact ⟨hall, (hI u event after hstep (hall u u.passed_self)).1 hlast⟩
    · rintro ⟨hall, hlast⟩
      exact ⟨(hI u event after hstep (hall u u.passed_self)).2 hlast, hall⟩
  · refine ⟨fun _ v event after hv ↦ absurd hv not_stepped_start, fun _ v hv ↦ ?_⟩
    rw [passed_start_iff.1 hv]
    exact hs

/-- Every step the run made obeys the law. -/
theorem stepped (h : Trail S (start s) w') {v : Recorded σ η} {event : η} {after : σ}
    (hv : w'.Stepped v event after) : S v event after := by
  revert v event after
  refine h.invariant (I := fun u ↦ ∀ {v : Recorded σ η} {event : η} {after : σ},
    u.Stepped v event after → S v event after) ?_ fun hv ↦ absurd hv not_stepped_start
  intro u event after hstep hu v event' after' hv
  rcases stepped_push_iff.1 hv with hv | ⟨rfl, rfl, rfl⟩
  · exact hu hv
  · exact hstep

/-- So does every step of a path, behind its start. -/
theorem stepped_since (h : Trail S w w') {v : Recorded σ η} {event : η} {after : σ}
    (hgrown : w.history <+: v.history) (hv : w'.Stepped v event after) : S v event after := by
  induction h with
  | refl => exact absurd hv (not_stepped_of_isPrefix hgrown)
  | snoc _ hstep ih =>
    rcases stepped_push_iff.1 hv with hv | ⟨rfl, rfl, rfl⟩
    · exact ih hv
    · exact hstep

/-- An invariant that a step keeps when it is fine holds everywhere on a path of fine steps. -/
theorem passed {I : Recorded σ η → Prop} {Q : Recorded σ η → η → σ → Prop}
    (hI : ∀ (v : Recorded σ η) (event : η) (after : σ), S v event after → Q v event after → I v →
      I (v.push event after))
    (h : Trail S (start s) w') (hs : I (start s))
    (hQ : ∀ v event after, w'.Stepped v event after → Q v event after) {v : Recorded σ η}
    (hv : w'.Passed v) : I v := by
  revert hQ v
  refine h.invariant (I := fun u ↦ (∀ v event after, u.Stepped v event after → Q v event after) →
    ∀ {v : Recorded σ η}, u.Passed v → I v) ?_ ?_
  · intro u event after hstep hu hQ v hv
    have hearlier : ∀ v event after, u.Stepped v event after → Q v event after :=
      fun v event' after' h ↦ hQ v event' after' (stepped_push_iff.2 (.inl h))
    rcases passed_push_iff.1 hv with rfl | hv
    · exact hI u event after hstep (hQ u event after (stepped_push_iff.2 (.inr ⟨rfl, rfl, rfl⟩)))
        (hu hearlier u.passed_self)
    · exact hu hearlier hv
  · intro _ v hv
    rw [passed_start_iff.1 hv]
    exact hs

/-- An invariant of every step holds everywhere on the path. -/
theorem always {I : Recorded σ η → Prop}
    (hI : ∀ (v : Recorded σ η) (event : η) (after : σ), S v event after → I v →
      I (v.push event after))
    (h : Trail S (start s) w') (hs : I (start s)) {v : Recorded σ η} (hv : w'.Passed v) : I v :=
  h.passed (Q := fun _ _ _ ↦ True) (fun u event after hstep _ ↦ hI u event after hstep) hs
    (fun _ _ _ _ ↦ trivial) hv

/-- A path goes on from every record it has passed since its start. -/
theorem of_passed {u : Recorded σ η} (h : Trail S w w') (hu : w'.Passed u)
    (hgrown : w.history <+: u.history) : Trail S u w' := by
  induction h with
  | refl =>
    rcases hu with rfl | ⟨event, after, future, hfuture⟩
    · exact .refl
    · have hlength := hgrown.length_le
      rw [hfuture, List.length_append, List.length_cons] at hlength
      omega
  | snoc _ step ih =>
    rcases passed_push_iff.1 hu with rfl | hearlier
    · exact .refl
    · exact (ih hearlier).snoc step

/-- The record only grows. -/
theorem exists_history_append (h : Trail S w w') : ∃ new, w'.history = w.history ++ new := by
  induction h with
  | refl => exact ⟨[], by simp⟩
  | snoc _ _ ih =>
    obtain ⟨new, hnew⟩ := ih
    exact ⟨new ++ [_], by rw [push_history, hnew, List.append_assoc]⟩

theorem isPrefix (h : Trail S w w') : w.history <+: w'.history := by
  obtain ⟨new, hnew⟩ := h.exists_history_append
  exact ⟨new, hnew.symm⟩

/-- What holds of the steps made so far, and of each step that obeys the law in a state with the
invariant, holds of every step of the path. -/
theorem forall_history {I : σ → Prop} {Q : Step σ η → Prop}
    (hI : ∀ (v : Recorded σ η) (event : η) (after : σ), S v event after → I v.state → I after)
    (hQ : ∀ (v : Recorded σ η) (event : η) (after : σ), S v event after → I v.state →
      Q ⟨v.state, event, after⟩)
    (h : Trail S w w') (hw : I w.state) (hist : ∀ step ∈ w.history, Q step) :
    ∀ step ∈ w'.history, Q step := by
  have key : I w'.state ∧ ∀ step ∈ w'.history, Q step := by
    refine h.invariant (I := fun v ↦ I v.state ∧ ∀ step ∈ v.history, Q step) ?_ ⟨hw, hist⟩
    rintro v event after hstep ⟨hv, hall⟩
    refine ⟨hI _ _ _ hstep hv, fun step hmem ↦ ?_⟩
    rcases List.mem_append.1 hmem with hmem | hmem
    · exact hall step hmem
    · rw [List.mem_singleton.1 hmem]
      exact hQ _ _ _ hstep hv
  exact key.2

end Trail

/-! ### Recording programs -/

namespace Program

variable {σ η ε α β : Type}

/-- Run a block of code on the plain state and record it as one step. The label may depend on how
the block ends. -/
def atomic (event : Outcome ε α → η) (body : Program σ ε α) : Program (Recorded σ η) ε α := fun w ↦
  ((body w.state).1, w.push (event (body w.state).1) (body w.state).2)

/-- Record a step that changes nothing. -/
def mark (event : η) : Program (Recorded σ η) ε Unit := fun w ↦ (.ok (), w.push event w.state)

/-- Read the state. -/
def observe : Program (Recorded σ η) ε σ := fun w ↦ (.ok w.state, w)

@[simp] theorem mark_run (event : η) (w : Recorded σ η) :
    (mark event : Program (Recorded σ η) ε Unit) w = (.ok (), w.push event w.state) := rfl

@[simp] theorem observe_run (w : Recorded σ η) :
    (observe : Program (Recorded σ η) ε σ) w = (.ok w.state, w) := rfl

theorem atomic_run (event : Outcome ε α → η) (body : Program σ ε α) (w : Recorded σ η)
    {o : Outcome ε α} {s : σ} (h : body w.state = (o, s)) :
    atomic event body w = (o, w.push (event o) s) := by
  rw [atomic, h]

/-- `m`, run from `w`, goes along a path of `S`-steps, and where it panics it does so in one more
step, an `F`-step. -/
def Follows (S F : Law σ η) (m : Program (Recorded σ η) ε α) (w : Recorded σ η) : Prop :=
  match m w with
  | (.panic _, w') => ∃ v event after, Trail S w v ∧ F v event after ∧ w' = v.push event after
  | (_, w') => Trail S w w'

namespace Follows

variable {S S' F F' : Law σ η} {w w' : Recorded σ η}

/-- The path of a run that did not panic. -/
theorem path {m : Program (Recorded σ η) ε α} {o : Outcome ε α} (h : Follows S F m w)
    (hm : m w = (o, w')) (ho : ∀ message, o ≠ .panic message) : Trail S w w' := by
  unfold Follows at h
  rw [hm] at h
  cases o with
  | panic message => exact absurd rfl (ho message)
  | ok a => exact h
  | err e => exact h
  | running => exact h

theorem path_ok {m : Program (Recorded σ η) ε α} {a : α} (h : Follows S F m w)
    (hm : m w = (.ok a, w')) : Trail S w w' :=
  h.path hm (by simp)

/-- The last step of a run that panicked. -/
theorem fault {m : Program (Recorded σ η) ε α} {message : String} (h : Follows S F m w)
    (hm : m w = (.panic message, w')) :
    ∃ v event after, Trail S w v ∧ F v event after ∧ w' = v.push event after := by
  unfold Follows at h
  rwa [hm] at h

/-- All steps of a run, the fault among them. -/
theorem path_or (m : Program (Recorded σ η) ε α) (h : Follows S F m w) :
    Trail (fun v event after ↦ S v event after ∨ F v event after) w (m w).2 := by
  rcases hm : m w with ⟨a | e | message | _, w'⟩
  case panic =>
    obtain ⟨v, event, after, hpath, hfault, rfl⟩ := h.fault hm
    exact (hpath.mono fun _ _ _ hS ↦ .inl hS).snoc (.inr hfault)
  all_goals exact (h.path hm (by simp)).mono fun _ _ _ hS ↦ .inl hS

/-- A run that made one step and did not panic. -/
theorem of_step {m : Program (Recorded σ η) ε α} {o : Outcome ε α} {event : η} {after : σ}
    (hm : m w = (o, w.push event after)) (ho : ∀ message, o ≠ .panic message)
    (h : S w event after) : Follows S F m w := by
  unfold Follows
  rw [hm]
  cases o with
  | panic message => exact absurd rfl (ho message)
  | _ => exact Trail.single h

/-- A run that panicked in its only step. -/
theorem of_fault {m : Program (Recorded σ η) ε α} {message : String} {event : η} {after : σ}
    (hm : m w = (.panic message, w.push event after)) (h : F w event after) :
    Follows S F m w := by
  unfold Follows
  rw [hm]
  exact ⟨w, event, after, .refl, h, rfl⟩

/-- A block of code is one step, or one fault where it panics. -/
theorem atomic {event : Outcome ε α → η} {body : Program σ ε α} (h : ∀ o s, S w (event o) s) :
    Follows S S (Program.atomic event body) w := by
  unfold Follows
  rw [Program.atomic_run event body w rfl]
  rcases (body w.state).1 with a | e | message | _
  case panic => exact ⟨w, _, _, .refl, h _ _, rfl⟩
  all_goals exact Trail.single (h _ _)

/-- A run that made no step and did not panic. -/
theorem of_stay {m : Program (Recorded σ η) ε α} {o : Outcome ε α} (hm : m w = (o, w))
    (ho : ∀ message, o ≠ .panic message) : Follows S F m w := by
  unfold Follows
  rw [hm]
  cases o with
  | panic message => exact absurd rfl (ho message)
  | _ => exact .refl

/-- Two programs that run alike from here follow the same laws from here. -/
theorem congr {m m' : Program (Recorded σ η) ε α} (hm : m w = m' w) (h : Follows S F m' w) :
    Follows S F m w := by
  unfold Follows at h ⊢
  rwa [hm]

theorem pure (a : α) : Follows S F (Pure.pure a : Program (Recorded σ η) ε α) w := Trail.refl

theorem throw (e : ε) : Follows S F (Program.throw e : Program (Recorded σ η) ε α) w := Trail.refl

theorem running : Follows S F (Program.running : Program (Recorded σ η) ε α) w := Trail.refl

theorem rejectIf {c : Prop} [Decidable c] (e : ε) :
    Follows S F (Program.rejectIf c e : Program (Recorded σ η) ε Unit) w := by
  unfold Program.rejectIf
  split
  · exact throw e
  · exact pure ()

theorem when {c : Prop} [Decidable c] {m : Program (Recorded σ η) ε Unit}
    (hm : Follows S F m w) : Follows S F (Program.when c m) w := by
  unfold Program.when
  split
  · exact hm
  · exact pure ()

theorem mark {event : η} (h : S w event w.state) :
    Follows S F (Program.mark event : Program (Recorded σ η) ε Unit) w :=
  Trail.single h

/-- Sequencing: the second part is asked only where the first gives a value. -/
theorem bind {m : Program (Recorded σ η) ε α} {f : α → Program (Recorded σ η) ε β}
    (hm : Follows S F m w) (hf : ∀ a w', m w = (.ok a, w') → Follows S F (f a) w') :
    Follows S F (m >>= f) w := by
  rcases bind_cases m f w with ⟨a, w', h, hb⟩ | ⟨e, w', h, hb⟩ | ⟨p, w', h, hb⟩ | ⟨w', h, hb⟩
  · have hpath : Trail S w w' := hm.path_ok h
    have hrest := hf a w' h
    unfold Follows at hrest ⊢
    rw [hb]
    rcases hfa : f a w' with ⟨_ | _ | _ | _, w''⟩ <;> rw [hfa] at hrest
    case panic =>
      obtain ⟨v, event, after, hv, hF, hw''⟩ := hrest
      exact ⟨v, event, after, hpath.trans hv, hF, hw''⟩
    all_goals exact hpath.trans hrest
  all_goals
    unfold Follows at hm ⊢
    rw [hb]
    rwa [h] at hm

/-- Reading the state first. -/
theorem observe_bind {f : σ → Program (Recorded σ η) ε β} (hf : Follows S F (f w.state) w) :
    Follows S F (Program.observe >>= f) w :=
  hf

/-- A check first: what follows may use that it passed. -/
theorem rejectIf_bind {c : Prop} [Decidable c] {e : ε} {f : Unit → Program (Recorded σ η) ε β}
    (hf : ¬ c → Follows S F (f ()) w) : Follows S F (Program.rejectIf c e >>= f) w := by
  by_cases hc : c
  · rw [rejectIf_pos hc]
    exact throw e
  · rw [rejectIf_neg hc]
    exact hf hc

/-- A lookup first: what follows may use that it succeeded. -/
theorem orThrow_bind {o : Option α} {e : ε} {f : α → Program (Recorded σ η) ε β}
    (hf : ∀ a, o = some a → Follows S F (f a) w) : Follows S F (Program.orThrow o e >>= f) w := by
  cases o with
  | none => exact throw e
  | some a => exact hf a rfl

theorem ofExcept_bind {ε' : Type} {g : ε' → ε} {r : Except ε' α}
    {f : α → Program (Recorded σ η) ε β} (hf : ∀ a, r = .ok a → Follows S F (f a) w) :
    Follows S F (Program.ofExcept g r >>= f) w := by
  cases r with
  | error e => exact throw (g e)
  | ok a => exact hf a rfl

/-- A law that follows from another and an invariant of it. -/
theorem strengthen {I : Recorded σ η → Prop}
    (hI : ∀ v event after, S v event after → I v → I (v.push event after))
    (hS : ∀ v event after, S v event after → I v → S' v event after)
    {m : Program (Recorded σ η) ε α} (h : Follows S F m w) (hw : I w) : Follows S' F m w := by
  have key : ∀ w', Trail S w w' → Trail S' w w' ∧ I w' := by
    intro w' hpath
    refine hpath.invariant (I := fun v ↦ Trail S' w v ∧ I v) ?_ ⟨.refl, hw⟩
    rintro v event after hstep ⟨hv, hinv⟩
    exact ⟨hv.snoc (hS v event after hstep hinv), hI v event after hstep hinv⟩
  unfold Follows at h ⊢
  rcases hm : m w with ⟨_ | _ | _ | _, w'⟩ <;> rw [hm] at h
  case panic =>
    obtain ⟨v, event, after, hv, hfault, hw'⟩ := h
    exact ⟨v, event, after, (key v hv).1, hfault, hw'⟩
  all_goals exact (key w' h).1

theorem mono (hS : ∀ v event after, S v event after → S' v event after)
    (hF : ∀ v event after, F v event after → F' v event after)
    {m : Program (Recorded σ η) ε α} (h : Follows S F m w) : Follows S' F' m w := by
  unfold Follows at h ⊢
  rcases hm : m w with ⟨_ | _ | _ | _, w'⟩ <;> rw [hm] at h
  case panic =>
    obtain ⟨v, event, after, hv, hfault, hw'⟩ := h
    exact ⟨v, event, after, hv.mono hS, hF _ _ _ hfault, hw'⟩
  all_goals exact Trail.mono hS h

end Follows

/-! ### Which labels a program makes -/

/-- One step with a label in `E`. -/
def Makes (E : η → Prop) (w w' : Recorded σ η) : Prop :=
  ∃ event after, E event ∧ w' = w.push event after

/-- The steps made are at the end of the record, and their labels are in `E`. -/
theorem Makes.history {E : η → Prop} {w w' : Recorded σ η}
    (h : Relation.ReflTransGen (Makes E) w w') :
    ∃ new, w'.history = w.history ++ new ∧ ∀ step ∈ new, E step.event := by
  induction h with
  | refl => exact ⟨[], by simp⟩
  | tail _ hstep ih =>
    obtain ⟨new, hnew, hall⟩ := ih
    obtain ⟨event, after, hevent, rfl⟩ := hstep
    refine ⟨new ++ [_], by rw [push_history, hnew, List.append_assoc], fun step hmem ↦ ?_⟩
    rcases List.mem_append.1 hmem with hold | hlast
    · exact hall step hold
    · rw [List.mem_singleton.1 hlast]
      exact hevent

/-- The run has passed through the record it started from. -/
theorem Makes.passed {E : η → Prop} {w w' : Recorded σ η}
    (h : Relation.ReflTransGen (Makes E) w w') : w'.Passed w := by
  induction h with
  | refl => exact passed_self w
  | tail _ hstep ih =>
    obtain ⟨event, after, -, rfl⟩ := hstep
    exact passed_push_iff.2 (.inr ih)

/-- A path whose labels are known. -/
theorem Makes.restrict {E : η → Prop} {S : Law σ η} {w w' : Recorded σ η}
    (h : Relation.ReflTransGen (Makes E) w w') (hpath : Trail S w w') :
    Trail (fun v event after ↦ S v event after ∧ E event) w w' := by
  obtain ⟨new, hnew, hall⟩ := Makes.history h
  clear h
  induction hpath generalizing new with
  | refl => exact .refl
  | @snoc v event after path step ih =>
    obtain ⟨earlier, hearlier⟩ := path.exists_history_append
    obtain rfl : earlier ++ [⟨v.state, event, after⟩] = new := by
      rw [push_history, hearlier, List.append_assoc] at hnew
      exact List.append_cancel_left hnew
    rw [List.forall_mem_append] at hall
    exact (ih earlier hearlier hall.1).snoc ⟨step, hall.2 _ (List.mem_singleton.2 rfl)⟩

namespace Moves

variable {E : η → Prop}

theorem observe {R : Recorded σ η → Recorded σ η → Prop} :
    Moves R (Program.observe : Program (Recorded σ η) ε σ) := fun _ ↦ .refl

theorem mark {event : η} (h : E event) :
    Moves (Makes E) (Program.mark event : Program (Recorded σ η) ε Unit) :=
  fun w ↦ .single ⟨event, w.state, h, rfl⟩

theorem atomic {event : Outcome ε α → η} {body : Program σ ε α} (h : ∀ o, E (event o)) :
    Moves (Makes E) (Program.atomic event body) :=
  fun w ↦ .single ⟨_, _, h (body w.state).1, rfl⟩

end Moves

end Program
