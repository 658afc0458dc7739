import Mathlib.Logic.Relation

/-!
# Programs over a state that may fail, panic, or still be running

A `Program σ ε α` is imperative code as a function: it starts in a state and stands, when it is
looked at, in an `Outcome` and a state. Besides a value and an error there are two more outcomes.
`panic` is an assertion of the code that did not hold. `running` is a loop whose bound was used up:
a loop is written by recursion on a number of iterations, and `running` says that more of them
were needed. So a program that takes the number as an argument has the state of the loop after
every number of iterations among its results, and it comes to an end exactly when some number
gives an outcome other than `running`.

Nothing here knows what the state is. What a run leaves behind is the subject of
`Reink.Library.Recorded`.
-/

/-- How a run of a program stands. -/
inductive Outcome (ε α : Type) where
  | ok (value : α)
  | err (error : ε)
  | panic (message : String)
  | running
deriving DecidableEq, Repr

namespace Outcome

variable {ε ε' α β : Type}

/-- The call has come back to its caller, with a value or with an error. -/
def Returned : Outcome ε α → Prop
  | ok _ | err _ => True
  | panic _ | running => False

instance (o : Outcome ε α) : Decidable o.Returned := by
  cases o <;> unfold Returned <;> infer_instance

@[simp] theorem returned_ok (a : α) : (ok a : Outcome ε α).Returned := trivial

@[simp] theorem returned_err (e : ε) : (err e : Outcome ε α).Returned := trivial

@[simp] theorem not_returned_panic (message : String) :
    ¬ (panic message : Outcome ε α).Returned := id

@[simp] theorem not_returned_running : ¬ (running : Outcome ε α).Returned := id

/-- A returned call has neither panicked nor is it still running. -/
theorem returned_iff {o : Outcome ε α} :
    o.Returned ↔ (∀ message, o ≠ panic message) ∧ o ≠ running := by
  cases o <;> simp

/-- There is a value, and it passes the test. -/
def any (test : α → Bool) : Outcome ε α → Bool
  | ok a => test a
  | _ => false

theorem any_iff {test : α → Bool} {o : Outcome ε α} :
    o.any test = true ↔ ∃ a, o = ok a ∧ test a = true := by
  cases o <;> simp [any]

/-- Rewrite the error, as `map_err` does. -/
def mapErr (f : ε → ε') : Outcome ε α → Outcome ε' α
  | ok a => ok a
  | err e => err (f e)
  | panic message => panic message
  | running => running

/-- Sequencing: everything but a value ends the whole. -/
protected def bind (o : Outcome ε α) (f : α → Outcome ε β) : Outcome ε β :=
  match o with
  | ok a => f a
  | err e => err e
  | panic message => panic message
  | running => running

/-- A pure computation that may fail or panic is an outcome on its own. -/
instance : Monad (Outcome ε) where
  pure := ok
  bind := Outcome.bind

@[simp] theorem pure_eq_ok (a : α) : (pure a : Outcome ε α) = ok a := rfl

@[simp] theorem ok_bind (a : α) (f : α → Outcome ε β) : (ok a >>= f) = f a := rfl

@[simp] theorem err_bind (e : ε) (f : α → Outcome ε β) : (err e >>= f) = err e := rfl

@[simp] theorem panic_bind (message : String) (f : α → Outcome ε β) :
    (panic message >>= f) = panic message := rfl

theorem mapErr_eq_ok {o : Outcome ε α} {f : ε → ε'} {a : α} : o.mapErr f = ok a ↔ o = ok a := by
  cases o <;> simp [mapErr]

theorem bind_eq_ok {o : Outcome ε α} {f : α → Outcome ε β} {b : β} :
    (o >>= f) = ok b ↔ ∃ a, o = ok a ∧ f a = ok b := by
  constructor
  · intro h
    cases o with
    | ok a => exact ⟨a, rfl, h⟩
    | _ => cases h
  · rintro ⟨a, rfl, h⟩
    exact h

/-- A computation that may fail but not panic. -/
def ofExcept : Except ε α → Outcome ε α
  | .ok a => ok a
  | .error e => err e

@[simp] theorem ofExcept_ok (a : α) : ofExcept (.ok a : Except ε α) = ok a := rfl

@[simp] theorem ofExcept_error (e : ε) : ofExcept (.error e : Except ε α) = err e := rfl

theorem ofExcept_eq_ok {r : Except ε α} {a : α} : ofExcept r = ok a ↔ r = .ok a := by
  cases r <;> simp

theorem ofExcept_ne_panic {r : Except ε α} {message : String} : ofExcept r ≠ panic message := by
  cases r <;> simp

theorem returned_ofExcept (r : Except ε α) : (ofExcept r).Returned := by
  cases r <;> trivial

/-- A sequence of calls comes back if each of them does. -/
theorem Returned.bind {o : Outcome ε α} {f : α → Outcome ε β} (h : o.Returned)
    (hf : ∀ a, (f a).Returned) : (o >>= f).Returned := by
  cases o with
  | ok a => exact hf a
  | err e => trivial
  | panic message => exact h.elim
  | running => exact h.elim

/-- The value of an option, or an error when there is none. -/
def orErr (o : Option α) (e : ε) : Outcome ε α :=
  match o with
  | some a => ok a
  | none => err e

/-- The value of an option, or a failed assertion when there is none. -/
def orPanic (o : Option α) (message : String) : Outcome ε α :=
  match o with
  | some a => ok a
  | none => panic message

@[simp] theorem orErr_some (a : α) (e : ε) : orErr (some a) e = ok a := rfl

@[simp] theorem orPanic_some (a : α) (message : String) :
    (orPanic (some a) message : Outcome ε α) = ok a := rfl

theorem orPanic_eq_ok {o : Option α} {message : String} {a : α} :
    (orPanic o message : Outcome ε α) = ok a ↔ o = some a := by
  cases o <;> simp [orPanic]

end Outcome

/-- A program over the state `σ` with errors `ε` and result `α`. -/
def Program (σ ε α : Type) : Type := σ → Outcome ε α × σ

namespace Program

variable {σ ε α β : Type}

/-- Sequencing: everything but a value ends the whole. -/
protected def bind (m : Program σ ε α) (f : α → Program σ ε β) : Program σ ε β := fun s ↦
  match m s with
  | (.ok a, s') => f a s'
  | (.err e, s') => (.err e, s')
  | (.panic message, s') => (.panic message, s')
  | (.running, s') => (.running, s')

instance : Monad (Program σ ε) where
  pure a := fun s ↦ (.ok a, s)
  bind := Program.bind

/-- End with an error. -/
def throw (e : ε) : Program σ ε α := fun s ↦ (.err e, s)

/-- End with a failed assertion. -/
def panic (message : String) : Program σ ε α := fun s ↦ (.panic message, s)

/-- Stand in a loop whose bound is used up. -/
def running : Program σ ε α := fun s ↦ (.running, s)

/-- The current state. -/
def get : Program σ ε σ := fun s ↦ (.ok s, s)

/-- Replace the state. -/
def modify (f : σ → σ) : Program σ ε Unit := fun s ↦ (.ok (), f s)

/-- End with an error when the condition holds. -/
def rejectIf (c : Prop) [Decidable c] (e : ε) : Program σ ε Unit :=
  if c then throw e else pure ()

/-- Run the program only when the condition holds. -/
def when (c : Prop) [Decidable c] (m : Program σ ε Unit) : Program σ ε Unit :=
  if c then m else pure ()

/-- The value of an option, or an error when there is none. -/
def orThrow (o : Option α) (e : ε) : Program σ ε α :=
  match o with
  | some a => pure a
  | none => throw e

/-- The value of an option, or a failed assertion when there is none. -/
def orPanic (o : Option α) (message : String) : Program σ ε α :=
  match o with
  | some a => pure a
  | none => panic message

/-- A pure computation that may fail, its error translated. -/
def ofExcept {ε' : Type} (f : ε' → ε) : Except ε' α → Program σ ε α
  | .ok a => pure a
  | .error e => throw (f e)

/-- A pure computation that may fail or panic, its error translated. -/
def ofOutcome {ε' : Type} (f : ε' → ε) (o : Outcome ε' α) : Program σ ε α :=
  fun s ↦ (o.mapErr f, s)

/-- The program with its error translated. -/
def mapErr {ε' : Type} (f : ε' → ε) (m : Program σ ε' α) : Program σ ε α :=
  fun s ↦ ((m s).1.mapErr f, (m s).2)

/-- Run the program on a part of the state. -/
def zoom {τ : Type} (part : σ → τ) (replace : σ → τ → σ) (m : Program τ ε α) : Program σ ε α :=
  fun s ↦ ((m (part s)).1, replace s (m (part s)).2)

/-- Run the program and go on with its value or its error. -/
def attempt {ε' : Type} (m : Program σ ε' α) : Program σ ε (Except ε' α) := fun s ↦
  match m s with
  | (.ok a, s') => (.ok (.ok a), s')
  | (.err e, s') => (.ok (.error e), s')
  | (.panic message, s') => (.panic message, s')
  | (.running, s') => (.running, s')

/-! ### Running the combinators -/

@[simp] theorem pure_run (a : α) (s : σ) : (pure a : Program σ ε α) s = (.ok a, s) := rfl

@[simp] theorem throw_run (e : ε) (s : σ) : (throw e : Program σ ε α) s = (.err e, s) := rfl

@[simp] theorem panic_run (message : String) (s : σ) :
    (panic message : Program σ ε α) s = (.panic message, s) := rfl

@[simp] theorem running_run (s : σ) : (running : Program σ ε α) s = (.running, s) := rfl

@[simp] theorem get_run (s : σ) : (get : Program σ ε σ) s = (.ok s, s) := rfl

@[simp] theorem modify_run (f : σ → σ) (s : σ) :
    (modify f : Program σ ε Unit) s = (.ok (), f s) := rfl

@[simp] theorem orThrow_some (a : α) (e : ε) : (orThrow (some a) e : Program σ ε α) = pure a := rfl

@[simp] theorem orThrow_none (e : ε) : (orThrow none e : Program σ ε α) = throw e := rfl

@[simp] theorem orPanic_some (a : α) (message : String) :
    (orPanic (some a) message : Program σ ε α) = pure a := rfl

@[simp] theorem orPanic_none (message : String) :
    (orPanic none message : Program σ ε α) = panic message := rfl

@[simp] theorem ofExcept_ok {ε' : Type} (f : ε' → ε) (a : α) :
    (ofExcept f (.ok a) : Program σ ε α) = pure a := rfl

@[simp] theorem ofExcept_error {ε' : Type} (f : ε' → ε) (e : ε') :
    (ofExcept f (.error e) : Program σ ε α) = throw (f e) := rfl

/-- A pure computation leaves the state alone. -/
theorem ofExcept_eq_ok {ε' : Type} {f : ε' → ε} {r : Except ε' α} {a : α} {s s' : σ} :
    (ofExcept f r : Program σ ε α) s = (.ok a, s') ↔ r = .ok a ∧ s' = s := by
  cases r <;> simp [eq_comm]

theorem rejectIf_pos {c : Prop} [Decidable c] (h : c) (e : ε) :
    (rejectIf c e : Program σ ε Unit) = throw e := if_pos h

theorem rejectIf_neg {c : Prop} [Decidable c] (h : ¬ c) (e : ε) :
    (rejectIf c e : Program σ ε Unit) = pure () := if_neg h

theorem rejectIf_eq_ok {c : Prop} [Decidable c] {e : ε} {u : Unit} {s s' : σ} :
    (rejectIf c e : Program σ ε Unit) s = (.ok u, s') ↔ ¬ c ∧ s' = s := by
  by_cases h : c <;> simp [rejectIf, h, eq_comm]

@[simp] theorem pure_bind (a : α) (f : α → Program σ ε β) : (pure a >>= f) = f a := rfl

@[simp] theorem throw_bind (e : ε) (f : α → Program σ ε β) : (throw e >>= f) = throw e := rfl

@[simp] theorem panic_bind (message : String) (f : α → Program σ ε β) :
    (panic message >>= f) = panic message := rfl

theorem bind_assoc {γ : Type} (m : Program σ ε α) (f : α → Program σ ε β)
    (g : β → Program σ ε γ) : (m >>= f) >>= g = m >>= fun a ↦ f a >>= g := by
  funext s
  show Program.bind (Program.bind m f) g s = Program.bind m (fun a ↦ Program.bind (f a) g) s
  unfold Program.bind
  rcases m s with ⟨_ | _ | _ | _, s'⟩ <;> rfl

/-! ### Taking a sequence apart -/

section Bind

variable {m : Program σ ε α} {f : α → Program σ ε β} {s s' : σ}

/-- A first part that gives a value hands it on. -/
theorem bind_run_ok {a : α} (h : m s = (.ok a, s')) : (m >>= f) s = f a s' := by
  show Program.bind m f s = _
  rw [Program.bind, h]

theorem bind_run_err {e : ε} (h : m s = (.err e, s')) : (m >>= f) s = (.err e, s') := by
  show Program.bind m f s = _
  rw [Program.bind, h]

theorem bind_run_panic {message : String} (h : m s = (.panic message, s')) :
    (m >>= f) s = (.panic message, s') := by
  show Program.bind m f s = _
  rw [Program.bind, h]

theorem bind_run_running (h : m s = (.running, s')) : (m >>= f) s = (.running, s') := by
  show Program.bind m f s = _
  rw [Program.bind, h]

/-- First parts that run alike give sequences that do. -/
theorem bind_run_congr {m' : Program σ ε α} (h : m s = m' s') : (m >>= f) s = (m' >>= f) s' := by
  show Program.bind m f s = Program.bind m' f s'
  rw [Program.bind, Program.bind, h]

/-- **The four ways a sequence runs.** Either the first part gives a value and the second runs
from there, or the first part ends the whole. -/
theorem bind_cases (m : Program σ ε α) (f : α → Program σ ε β) (s : σ) :
    (∃ a s', m s = (.ok a, s') ∧ (m >>= f) s = f a s') ∨
    (∃ e s', m s = (.err e, s') ∧ (m >>= f) s = (.err e, s')) ∨
    (∃ message s', m s = (.panic message, s') ∧ (m >>= f) s = (.panic message, s')) ∨
    (∃ s', m s = (.running, s') ∧ (m >>= f) s = (.running, s')) := by
  rcases h : m s with ⟨a | e | message | _, s'⟩
  · exact .inl ⟨a, s', rfl, bind_run_ok h⟩
  · exact .inr (.inl ⟨e, s', rfl, bind_run_err h⟩)
  · exact .inr (.inr (.inl ⟨message, s', rfl, bind_run_panic h⟩))
  · exact .inr (.inr (.inr ⟨s', rfl, bind_run_running h⟩))

/-- A sequence gives a value exactly when both parts do. -/
theorem bind_eq_ok {b : β} {s'' : σ} :
    (m >>= f) s = (.ok b, s'') ↔ ∃ a s', m s = (.ok a, s') ∧ f a s' = (.ok b, s'') := by
  constructor
  · intro h
    rcases bind_cases m f s with ⟨a, s', hm, hb⟩ | ⟨e, s', hm, hb⟩ | ⟨p, s', hm, hb⟩ |
      ⟨s', hm, hb⟩
    · exact ⟨a, s', hm, hb ▸ h⟩
    · rw [hb] at h; cases h
    · rw [hb] at h; cases h
    · rw [hb] at h; cases h
  · rintro ⟨a, s', hm, hf⟩
    rw [bind_run_ok hm, hf]

/-- A sequence fails when its first part does, or its second part after the first. -/
theorem bind_eq_err {e : ε} {s'' : σ} :
    (m >>= f) s = (.err e, s'') ↔
      m s = (.err e, s'') ∨ ∃ a s', m s = (.ok a, s') ∧ f a s' = (.err e, s'') := by
  constructor
  · intro h
    rcases bind_cases m f s with ⟨a, s', hm, hb⟩ | ⟨e', s', hm, hb⟩ | ⟨p, s', hm, hb⟩ |
      ⟨s', hm, hb⟩
    · exact .inr ⟨a, s', hm, hb ▸ h⟩
    · cases hb.symm.trans h
      exact .inl hm
    · rw [hb] at h; cases h
    · rw [hb] at h; cases h
  · rintro (hm | ⟨a, s', hm, hf⟩)
    · exact bind_run_err hm
    · rw [bind_run_ok hm, hf]

end Bind

section Translate

variable {ε' : Type} {s s' : σ}

theorem mapErr_eq_ok {f : ε' → ε} {m : Program σ ε' α} {a : α} :
    (mapErr f m : Program σ ε α) s = (.ok a, s') ↔ m s = (.ok a, s') := by
  rcases h : m s with ⟨o, t⟩
  simp [mapErr, h, Outcome.mapErr_eq_ok]

/-- A pure computation leaves the state alone. -/
theorem ofOutcome_eq_ok {f : ε' → ε} {o : Outcome ε' α} {a : α} :
    (ofOutcome f o : Program σ ε α) s = (.ok a, s') ↔ o = .ok a ∧ s' = s := by
  simp [ofOutcome, Outcome.mapErr_eq_ok, eq_comm]

theorem attempt_eq_ok {m : Program σ ε' α} {a : α} :
    (attempt m : Program σ ε (Except ε' α)) s = (.ok (.ok a), s') ↔ m s = (.ok a, s') := by
  rcases h : m s with ⟨_ | _ | _ | _, t⟩ <;> simp [attempt, h]

theorem attempt_eq_error {m : Program σ ε' α} {e : ε'} :
    (attempt m : Program σ ε (Except ε' α)) s = (.ok (.error e), s') ↔ m s = (.err e, s') := by
  rcases h : m s with ⟨_ | _ | _ | _, t⟩ <;> simp [attempt, h]

/-- Trying a program gives no error. -/
theorem attempt_ne_err {m : Program σ ε' α} {e : ε} :
    (attempt m : Program σ ε (Except ε' α)) s ≠ (.err e, s') := by
  rcases h : m s with ⟨_ | _ | _ | _, t⟩ <;> simp [attempt, h]

end Translate

/-! ### What no run changes -/

/-- However the program ends, this part of the state is as it was. -/
def Keeps {γ : Type} (part : σ → γ) (m : Program σ ε α) : Prop := ∀ s, part (m s).2 = part s

namespace Keeps

variable {γ ε' : Type} {part : σ → γ}

theorem pure (a : α) : Keeps part (Pure.pure a : Program σ ε α) := fun _ ↦ rfl

theorem throw (e : ε) : Keeps part (Program.throw e : Program σ ε α) := fun _ ↦ rfl

theorem bind {m : Program σ ε α} {f : α → Program σ ε β} (hm : Keeps part m)
    (hf : ∀ a, Keeps part (f a)) : Keeps part (m >>= f) := by
  intro s
  have h := hm s
  rcases bind_cases m f s with ⟨a, s', hs, hb⟩ | ⟨e, s', hs, hb⟩ | ⟨p, s', hs, hb⟩ | ⟨s', hs, hb⟩
  · rw [hs] at h
    rw [hb, hf a s', h]
  all_goals rw [hs] at h; rw [hb]; exact h

/-- What goes on after a pure computation may use what that has given. -/
theorem ofExcept_bind {f : ε' → ε} {r : Except ε' α} {g : α → Program σ ε β}
    (hg : ∀ a, r = .ok a → Keeps part (g a)) : Keeps part (Program.ofExcept f r >>= g) := by
  cases r with
  | ok a => exact hg a rfl
  | error e => exact throw _

theorem ofOutcome {f : ε' → ε} (o : Outcome ε' α) :
    Keeps part (Program.ofOutcome f o : Program σ ε α) := fun _ ↦ rfl

theorem mapErr {f : ε' → ε} {m : Program σ ε' α} (hm : Keeps part m) :
    Keeps part (Program.mapErr f m : Program σ ε α) := hm

theorem rejectIf {c : Prop} [Decidable c] (e : ε) :
    Keeps part (Program.rejectIf c e : Program σ ε Unit) := by
  unfold Program.rejectIf
  split
  · exact throw e
  · exact pure ()

theorem when {c : Prop} [Decidable c] {m : Program σ ε Unit} (hm : Keeps part m) :
    Keeps part (Program.when c m) := by
  unfold Program.when
  split
  · exact hm
  · exact pure ()

end Keeps

/-! ### What a run goes through -/

/-- However the program ends, it has gone from state to state along the relation. -/
def Moves (R : σ → σ → Prop) (m : Program σ ε α) : Prop := ∀ s, Relation.ReflTransGen R s (m s).2

namespace Moves

variable {ε' : Type} {R R' : σ → σ → Prop}

theorem pure (a : α) : Moves R (Pure.pure a : Program σ ε α) := fun _ ↦ .refl

theorem throw (e : ε) : Moves R (Program.throw e : Program σ ε α) := fun _ ↦ .refl

theorem bind {m : Program σ ε α} {f : α → Program σ ε β} (hm : Moves R m)
    (hf : ∀ a, Moves R (f a)) : Moves R (m >>= f) := by
  intro s
  have h := hm s
  rcases bind_cases m f s with ⟨a, s', hs, hb⟩ | ⟨e, s', hs, hb⟩ | ⟨p, s', hs, hb⟩ | ⟨s', hs, hb⟩
  · rw [hs] at h
    rw [hb]
    exact h.trans (hf a s')
  all_goals rw [hs] at h; rw [hb]; exact h

/-- What goes on after a pure computation may use what that has given. -/
theorem ofExcept_bind {f : ε' → ε} {r : Except ε' α} {g : α → Program σ ε β}
    (hg : ∀ a, r = .ok a → Moves R (g a)) : Moves R (Program.ofExcept f r >>= g) := by
  cases r with
  | ok a => exact hg a rfl
  | error e => exact throw _

theorem ofOutcome {f : ε' → ε} (o : Outcome ε' α) :
    Moves R (Program.ofOutcome f o : Program σ ε α) := fun _ ↦ .refl

theorem mapErr {f : ε' → ε} {m : Program σ ε' α} (hm : Moves R m) :
    Moves R (Program.mapErr f m : Program σ ε α) := hm

theorem attempt {m : Program σ ε' α} (hm : Moves R m) :
    Moves R (Program.attempt m : Program σ ε (Except ε' α)) := by
  intro s
  have h := hm s
  unfold Program.attempt
  rcases hs : m s with ⟨_ | _ | _ | _, s'⟩ <;> rw [hs] at h <;> exact h

theorem running : Moves R (Program.running : Program σ ε α) := fun _ ↦ .refl

theorem orThrow (o : Option α) (e : ε) : Moves R (Program.orThrow o e : Program σ ε α) := by
  cases o with
  | none => exact throw e
  | some a => exact pure a

theorem rejectIf {c : Prop} [Decidable c] (e : ε) :
    Moves R (Program.rejectIf c e : Program σ ε Unit) := by
  unfold Program.rejectIf
  split
  · exact throw e
  · exact pure ()

theorem when {c : Prop} [Decidable c] {m : Program σ ε Unit} (hm : Moves R m) :
    Moves R (Program.when c m) := by
  unfold Program.when
  split
  · exact hm
  · exact pure ()

end Moves

end Program
