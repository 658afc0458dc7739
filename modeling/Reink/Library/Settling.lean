import Reink.Library.Recorded

/-!
# Programs that run on only when they are stuck

A loop with a bound stands in `running` when the bound is used up, whether it would have ended later
or not. To tell the two apart one names the steps at which the program can no longer end, here
`Sticks`, and a size of the state that bounds the work still to be done. `Settles n m w` says that
the program `m`, run from `w`, leaves a state of size at most `n`, and that it is still running
exactly when it has made a step of that kind. So it is a statement about a bound that was large
enough: a loop that has come to nothing but the end of its bound does not settle. A second kind of
steps, `Turns`, are those that a stuck loop is seen to make again and again.

The rules follow the structure of the program. The budget `n` is threaded through a sequence by
`bind`: the second part may assume that the first has kept to it.
-/

namespace Recorded

variable {σ η : Type}

/-- None of the steps so far is one at which the program sticks. -/
def Clean (Sticks : σ → η → Prop) (w : Recorded σ η) : Prop :=
  ∀ step ∈ w.history, ¬ Sticks step.before step.event

variable {Sticks : σ → η → Prop} {w w' : Recorded σ η}

theorem clean_start (s : σ) : Clean Sticks (start s) := by
  simp [Clean]

theorem clean_push_iff {event : η} {after : σ} :
    Clean Sticks (w.push event after) ↔ Clean Sticks w ∧ ¬ Sticks w.state event := by
  simp only [Clean, push_history, List.forall_mem_append, List.forall_mem_singleton]

theorem Clean.of_isPrefix (h : w.history <+: w'.history) (hw : Clean Sticks w') :
    Clean Sticks w :=
  fun step hstep ↦ hw step (h.subset hstep)

end Recorded

open Recorded

namespace Program

variable {σ η ε α β : Type}

/-- The program keeps to the budget, and it is still running exactly when it is stuck. -/
structure Settles (size : σ → Nat) (Sticks : σ → η → Prop) (Turns : η → Prop) (n : Nat)
    (m : Program (Recorded σ η) ε α) (w : Recorded σ η) : Prop where
  size_le : size (m w).2.state ≤ n
  running_iff : Clean Sticks w → ((m w).1 = .running ↔ ¬ Clean Sticks (m w).2)
  turns : (m w).1 = .running → ∃ step ∈ (m w).2.history, Turns step.event

namespace Settles

variable {size : σ → Nat} {Sticks : σ → η → Prop} {Turns : η → Prop} {n n' : Nat}
  {w w' : Recorded σ η}

/-- What the run of a program that gave a value has kept. -/
theorem of_ok {m : Program (Recorded σ η) ε α} {a : α} (h : Settles size Sticks Turns n m w)
    (hm : m w = (.ok a, w')) : size w'.state ≤ n ∧ (Clean Sticks w → Clean Sticks w') := by
  obtain ⟨hsize, hrunning, -⟩ := h
  rw [hm] at hsize hrunning
  refine ⟨hsize, fun hw ↦ ?_⟩
  by_contra hstuck
  have hrun := (hrunning hw).2 hstuck
  cases hrun

/-- A run that ended, without a step at which it sticks. -/
theorem of_ended {m : Program (Recorded σ η) ε α} (hsize : size (m w).2.state ≤ n)
    (hended : (m w).1 ≠ .running) (hclean : Clean Sticks w → Clean Sticks (m w).2) :
    Settles size Sticks Turns n m w :=
  ⟨hsize, fun hw ↦ ⟨fun h ↦ absurd h hended, fun h ↦ absurd (hclean hw) h⟩,
    fun h ↦ absurd h hended⟩

/-- A run that is stuck. -/
theorem of_stuck {m : Program (Recorded σ η) ε α} (hsize : size (m w).2.state ≤ n)
    (hrunning : (m w).1 = .running) (hstuck : ¬ Clean Sticks (m w).2)
    (hturns : ∃ step ∈ (m w).2.history, Turns step.event) :
    Settles size Sticks Turns n m w :=
  ⟨hsize, fun _ ↦ ⟨fun _ ↦ hstuck, fun _ ↦ hrunning⟩, fun _ ↦ hturns⟩

theorem congr {m m' : Program (Recorded σ η) ε α} (hm : m w = m' w)
    (h : Settles size Sticks Turns n m' w) : Settles size Sticks Turns n m w := by
  obtain ⟨hsize, hrunning, hturns⟩ := h
  rw [← hm] at hsize hrunning hturns
  exact ⟨hsize, hrunning, hturns⟩

theorem pure (a : α) (hw : size w.state ≤ n) :
    Settles size Sticks Turns n (Pure.pure a : Program (Recorded σ η) ε α) w :=
  .of_ended hw (by simp) id

theorem throw (e : ε) (hw : size w.state ≤ n) :
    Settles size Sticks Turns n (Program.throw e : Program (Recorded σ η) ε α) w :=
  .of_ended hw (by simp) id

theorem mark {event : η} (hevent : ¬ Sticks w.state event) (hw : size w.state ≤ n) :
    Settles size Sticks Turns n (Program.mark event : Program (Recorded σ η) ε Unit) w :=
  .of_ended hw (by simp) fun h ↦ clean_push_iff.2 ⟨h, hevent⟩

/-- A block of code that ends, in one step. -/
theorem atomic {event : Outcome ε α → η} {body : Program σ ε α}
    (hevent : ∀ o, ¬ Sticks w.state (event o)) (hended : (body w.state).1 ≠ .running)
    (hsize : size (body w.state).2 ≤ n) :
    Settles size Sticks Turns n (Program.atomic event body) w :=
  .of_ended hsize hended fun h ↦ clean_push_iff.2 ⟨h, hevent _⟩

/-- **Sequencing.** The first part may have a budget of its own. -/
theorem bind {m : Program (Recorded σ η) ε α} {f : α → Program (Recorded σ η) ε β} (hn : n' ≤ n)
    (hm : Settles size Sticks Turns n' m w)
    (hf : ∀ a v, m w = (.ok a, v) → size v.state ≤ n' → Settles size Sticks Turns n (f a) v) :
    Settles size Sticks Turns n (m >>= f) w := by
  rcases bind_cases m f w with ⟨a, v, h, hb⟩ | ⟨e, v, h, hb⟩ | ⟨p, v, h, hb⟩ | ⟨v, h, hb⟩
  · obtain ⟨hv, hclean⟩ := hm.of_ok h
    obtain ⟨hsize, hrunning, hturns⟩ := hf a v h hv
    rw [← hb] at hsize hrunning hturns
    exact ⟨hsize, fun hw ↦ hrunning (hclean hw), hturns⟩
  all_goals
    obtain ⟨hsize, hrunning, hturns⟩ := hm
    rw [h] at hsize hrunning hturns
    refine ⟨?_, fun hw ↦ ?_, ?_⟩
    · rw [hb]
      exact Nat.le_trans hsize hn
    · rw [hb]
      simpa using hrunning hw
    · rw [hb]
      exact fun hrun ↦ hturns (by cases hrun <;> rfl)

/-- A block of code that gives a value is gone through. -/
theorem atomic_bind_ok {event : Outcome ε α → η} {body : Program σ ε α} {a : α} {s : σ}
    {f : α → Program (Recorded σ η) ε β} (hrun : body w.state = (.ok a, s))
    (hevent : ¬ Sticks w.state (event (.ok a)))
    (hf : Settles size Sticks Turns n (f a) (w.push (event (.ok a)) s)) :
    Settles size Sticks Turns n (Program.atomic event body >>= f) w := by
  obtain ⟨hsize, hrunning, hturns⟩ := hf
  have hbind := bind_run_ok (m := Program.atomic event body) (f := f) (atomic_run event body w hrun)
  rw [← hbind] at hsize hrunning hturns
  exact ⟨hsize, fun hw ↦ hrunning (clean_push_iff.2 ⟨hw, hevent⟩), hturns⟩

/-- A block of code that fails is the end of the sequence. -/
theorem atomic_bind_err {event : Outcome ε α → η} {body : Program σ ε α} {e : ε} {s : σ}
    {f : α → Program (Recorded σ η) ε β} (hrun : body w.state = (.err e, s))
    (hevent : ¬ Sticks w.state (event (.err e))) (hsize : size s ≤ n) :
    Settles size Sticks Turns n (Program.atomic event body >>= f) w := by
  have hbind := bind_run_err (m := Program.atomic event body) (f := f)
    (atomic_run event body w hrun)
  refine of_ended ?_ ?_ ?_ <;> rw [hbind]
  · exact hsize
  · simp
  · exact fun hw ↦ clean_push_iff.2 ⟨hw, hevent⟩

theorem observe_bind {f : σ → Program (Recorded σ η) ε β}
    (hf : Settles size Sticks Turns n (f w.state) w) :
    Settles size Sticks Turns n (Program.observe >>= f) w :=
  .congr (bind_run_ok (observe_run w)) hf

theorem rejectIf {c : Prop} [Decidable c] {e : ε} (hw : size w.state ≤ n) :
    Settles size Sticks Turns n (Program.rejectIf c e : Program (Recorded σ η) ε Unit) w := by
  unfold Program.rejectIf
  split
  · exact throw e hw
  · exact pure () hw

theorem rejectIf_bind {c : Prop} [Decidable c] {e : ε} {f : Unit → Program (Recorded σ η) ε β}
    (hw : size w.state ≤ n) (hf : ¬ c → Settles size Sticks Turns n (f ()) w) :
    Settles size Sticks Turns n (Program.rejectIf c e >>= f) w := by
  by_cases hc : c
  · rw [rejectIf_pos hc]
    exact throw e hw
  · rw [rejectIf_neg hc]
    exact hf hc

theorem orThrow_bind {o : Option α} {e : ε} {f : α → Program (Recorded σ η) ε β}
    (hw : size w.state ≤ n) (hf : ∀ a, o = some a → Settles size Sticks Turns n (f a) w) :
    Settles size Sticks Turns n (Program.orThrow o e >>= f) w := by
  cases o with
  | none => exact throw e hw
  | some a => exact hf a rfl

theorem ofExcept_bind {ε' : Type} {g : ε' → ε} {r : Except ε' α}
    {f : α → Program (Recorded σ η) ε β} (hw : size w.state ≤ n)
    (hf : ∀ a, r = .ok a → Settles size Sticks Turns n (f a) w) :
    Settles size Sticks Turns n (Program.ofExcept g r >>= f) w := by
  cases r with
  | error e => exact throw (g e) hw
  | ok a => exact hf a rfl

theorem when {c : Prop} [Decidable c] {m : Program (Recorded σ η) ε Unit} (hw : size w.state ≤ n)
    (hm : c → Settles size Sticks Turns n m w) :
    Settles size Sticks Turns n (Program.when c m) w := by
  by_cases hc : c
  · rw [Program.when, if_pos hc]
    exact hm hc
  · rw [Program.when, if_neg hc]
    exact pure () hw

end Settles

end Program
