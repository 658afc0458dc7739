import Reink.Library.Recorded

/-!
# Programs that simulate each other

A relational rule system for programs over two kinds of states. Two programs that `Simulates` puts
side by side, run from related states, end alike and in related states.

The relation may be known to hold only in hindsight: `A` says of a last state which runs are spoken
of, and a run that has left `A` does not come back to it. With `A` true of every state the rules are
those of an ordinary simulation; with `A` a statement about what a state has on record, the relation
may speak of steps that are yet to come.
-/

namespace Program

variable {σ τ ε α β : Type}

/-- From related states the two programs end alike and in related states, if the first one ends in
an allowed state. -/
structure Simulates (R : σ → τ → Prop) (A : σ → Prop) (m : Program σ ε α) (n : Program τ ε α) :
    Prop where
  /-- A run that ends in an allowed state has begun in one. -/
  allowed : ∀ s, A (m s).2 → A s
  alike : ∀ s t, R s t → A (m s).2 → (m s).1 = (n t).1 ∧ R (m s).2 (n t).2

namespace Simulates

variable {R : σ → τ → Prop} {A : σ → Prop}

/-- Programs that leave the state alone. -/
theorem of_stay {m : Program σ ε α} {n : Program τ ε α} (o : Outcome ε α)
    (hm : ∀ s, m s = (o, s)) (hn : ∀ t, n t = (o, t)) : Simulates R A m n := by
  refine ⟨fun s h ↦ ?_, fun s t hR _ ↦ ?_⟩
  · rwa [hm] at h
  · rw [hm, hn]
    exact ⟨rfl, hR⟩

theorem pure (a : α) :
    Simulates R A (Pure.pure a : Program σ ε α) (Pure.pure a : Program τ ε α) :=
  of_stay (.ok a) (fun _ ↦ rfl) fun _ ↦ rfl

theorem throw (e : ε) :
    Simulates R A (Program.throw e : Program σ ε α) (Program.throw e : Program τ ε α) :=
  of_stay (.err e) (fun _ ↦ rfl) fun _ ↦ rfl

theorem panic (message : String) :
    Simulates R A (Program.panic message : Program σ ε α)
      (Program.panic message : Program τ ε α) :=
  of_stay (.panic message) (fun _ ↦ rfl) fun _ ↦ rfl

theorem running :
    Simulates R A (Program.running : Program σ ε α) (Program.running : Program τ ε α) :=
  of_stay .running (fun _ ↦ rfl) fun _ ↦ rfl

theorem ofOutcome {ε' : Type} (f : ε' → ε) (o : Outcome ε' α) :
    Simulates R A (Program.ofOutcome f o : Program σ ε α)
      (Program.ofOutcome f o : Program τ ε α) :=
  of_stay (o.mapErr f) (fun _ ↦ rfl) fun _ ↦ rfl

theorem rejectIf {c : Prop} [Decidable c] (e : ε) :
    Simulates R A (Program.rejectIf c e : Program σ ε Unit)
      (Program.rejectIf c e : Program τ ε Unit) := by
  by_cases h : c
  · rw [rejectIf_pos h, rejectIf_pos h]
    exact throw e
  · rw [rejectIf_neg h, rejectIf_neg h]
    exact pure ()

theorem orThrow (o : Option α) (e : ε) :
    Simulates R A (Program.orThrow o e : Program σ ε α)
      (Program.orThrow o e : Program τ ε α) := by
  cases o with
  | none => exact throw e
  | some a => exact pure a

theorem orPanic (o : Option α) (message : String) :
    Simulates R A (Program.orPanic o message : Program σ ε α)
      (Program.orPanic o message : Program τ ε α) := by
  cases o with
  | none => exact panic message
  | some a => exact pure a

theorem ofExcept {ε' : Type} (f : ε' → ε) (r : Except ε' α) :
    Simulates R A (Program.ofExcept f r : Program σ ε α)
      (Program.ofExcept f r : Program τ ε α) := by
  cases r with
  | error e => exact throw (f e)
  | ok a => exact pure a

/-- A change of both states that keeps the relation. -/
theorem modify {f : σ → σ} {g : τ → τ} (hA : ∀ s, A (f s) → A s)
    (hfg : ∀ s t, R s t → R (f s) (g t)) :
    Simulates R A (Program.modify f : Program σ ε Unit) (Program.modify g : Program τ ε Unit) :=
  ⟨hA, fun s t hR _ ↦ ⟨rfl, hfg s t hR⟩⟩

/-- The states are read first. What the code depends on may be a weaker relation of them, one that
every state is in with some other. -/
theorem get_bind {Q : σ → τ → Prop} {f : σ → Program σ ε β} {g : τ → Program τ ε β}
    (hQ : ∀ s, ∃ t, Q s t) (hRQ : ∀ s t, R s t → Q s t)
    (hf : ∀ s t, Q s t → Simulates R A (f s) (g t)) :
    Simulates R A (Program.get >>= f) (Program.get >>= g) := by
  refine ⟨fun s hA ↦ ?_, fun s t hR ↦ (hf s t (hRQ s t hR)).alike s t hR⟩
  obtain ⟨t, ht⟩ := hQ s
  exact (hf s t ht).allowed s hA

/-- **Sequencing.** If the whole ends in an allowed state, then so has the first half. -/
theorem bind {m : Program σ ε α} {n : Program τ ε α} {f : α → Program σ ε β}
    {g : α → Program τ ε β} (hm : Simulates R A m n) (hf : ∀ a, Simulates R A (f a) (g a)) :
    Simulates R A (m >>= f) (n >>= g) := by
  have hfirst : ∀ s, A ((m >>= f) s).2 → A (m s).2 := by
    intro s h
    rcases bind_cases m f s with ⟨a, s', hs, hb⟩ | ⟨e, s', hs, hb⟩ | ⟨p, s', hs, hb⟩ | ⟨s', hs, hb⟩
    · rw [hb] at h
      rw [hs]
      exact (hf a).allowed s' h
    all_goals rw [hb] at h; rw [hs]; exact h
  refine ⟨fun s h ↦ hm.allowed s (hfirst s h), fun s t hR h ↦ ?_⟩
  obtain ⟨heq, hstate⟩ := hm.alike s t hR (hfirst s h)
  rcases hs : m s with ⟨a | e | p | _, s'⟩ <;> rcases ht : n t with ⟨o, t'⟩ <;>
    rw [hs, ht] at heq hstate <;> cases heq
  case ok =>
    rw [bind_run_ok hs] at h ⊢
    rw [bind_run_ok ht]
    exact (hf a).alike s' t' hstate h
  case err => rw [bind_run_err hs, bind_run_err ht]; exact ⟨rfl, hstate⟩
  case panic => rw [bind_run_panic hs, bind_run_panic ht]; exact ⟨rfl, hstate⟩
  case running => rw [bind_run_running hs, bind_run_running ht]; exact ⟨rfl, hstate⟩

theorem when {c : Prop} [Decidable c] {m : Program σ ε Unit} {n : Program τ ε Unit}
    (h : Simulates R A m n) : Simulates R A (Program.when c m) (Program.when c n) := by
  unfold Program.when
  split
  · exact h
  · exact pure ()

theorem mapErr {ε' : Type} {f : ε' → ε} {m : Program σ ε' α} {n : Program τ ε' α}
    (h : Simulates R A m n) :
    Simulates R A (Program.mapErr f m : Program σ ε α) (Program.mapErr f n : Program τ ε α) := by
  refine ⟨h.allowed, fun s t hR hA ↦ ?_⟩
  obtain ⟨heq, hstate⟩ := h.alike s t hR hA
  refine ⟨?_, hstate⟩
  show (m s).1.mapErr f = (n t).1.mapErr f
  rw [heq]

/-- The state after an attempt is the state after what was attempted. -/
theorem attempt_snd {ε' : Type} (m : Program σ ε' α) (s : σ) :
    ((Program.attempt m : Program σ ε (Except ε' α)) s).2 = (m s).2 := by
  rcases h : m s with ⟨_ | _ | _ | _, s'⟩ <;> simp [Program.attempt, h]

theorem attempt {ε' : Type} {m : Program σ ε' α} {n : Program τ ε' α} (h : Simulates R A m n) :
    Simulates R A (Program.attempt m : Program σ ε (Except ε' α))
      (Program.attempt n : Program τ ε (Except ε' α)) := by
  refine ⟨fun s hA ↦ h.allowed s (by rwa [attempt_snd] at hA), fun s t hR hA ↦ ?_⟩
  rw [attempt_snd] at hA ⊢
  rw [attempt_snd]
  obtain ⟨heq, hstate⟩ := h.alike s t hR hA
  refine ⟨?_, hstate⟩
  rcases hs : m s with ⟨_ | _ | _ | _, s'⟩ <;> rcases ht : n t with ⟨o, t'⟩ <;>
    rw [hs, ht] at heq <;> cases heq <;> simp [Program.attempt, hs, ht]

/-- Programs on parts of the states. -/
theorem zoom {σ' τ' : Type} {Q : σ' → τ' → Prop} {B : σ' → Prop} {part : σ → σ'} {part' : τ → τ'}
    {replace : σ → σ' → σ} {replace' : τ → τ' → τ} {m : Program σ' ε α} {n : Program τ' ε α}
    (h : Simulates Q B m n) (hpart : ∀ s t, R s t → Q (part s) (part' t))
    (hreplace : ∀ s t, R s t → ∀ s' t', Q s' t' → R (replace s s') (replace' t t'))
    (hA : ∀ s, A s ↔ B (part s)) (hB : ∀ s s', A (replace s s') ↔ B s') :
    Simulates R A (Program.zoom part replace m) (Program.zoom part' replace' n) := by
  refine ⟨fun s hs ↦ (hA s).2 (h.allowed _ ((hB _ _).1 hs)), fun s t hR hs ↦ ?_⟩
  obtain ⟨heq, hstate⟩ := h.alike _ _ (hpart s t hR) ((hB _ _).1 hs)
  exact ⟨heq, hreplace s t hR _ _ hstate⟩

end Simulates

end Program

/-! ### Programs that record their steps -/

namespace Recorded

variable {σ τ η : Type}

/-- The run stands in a state with the property. -/
def StandsIn (A : σ → Prop) (w : Recorded σ η) : Prop := A w.state

/-- Runs that have made the same steps, to related states, the second one with an invariant. -/
structure Beside (R : σ → τ → Prop) (I : Recorded τ η → Prop) (w : Recorded σ η)
    (v : Recorded τ η) : Prop where
  state : R w.state v.state
  events : w.history.map Step.event = v.history.map Step.event
  kept : I v

theorem Beside.push {R : σ → τ → Prop} {I : Recorded τ η → Prop} {w : Recorded σ η}
    {v : Recorded τ η} (h : Beside R I w v) {event : η} {s : σ} {t : τ} (hstate : R s t)
    (hkept : I (v.push event t)) : Beside R I (w.push event s) (v.push event t) :=
  ⟨hstate, by simp [h.events], hkept⟩

end Recorded

namespace Program.Simulates

open Recorded

variable {σ τ η ε α β : Type} {R : σ → τ → Prop} {A : σ → Prop} {I : Recorded τ η → Prop}

/-- Recording programs side by side: the steps are the same ones, and the second program keeps the
invariant. -/
abbrev Recording (R : σ → τ → Prop) (A : σ → Prop) (I : Recorded τ η → Prop)
    (m : Program (Recorded σ η) ε α) (n : Program (Recorded τ η) ε α) : Prop :=
  Simulates (Beside R I) (StandsIn A) m n

theorem mark {event : η} (hI : ∀ v, I v → I (v.push event v.state)) :
    Recording R A I (Program.mark event : Program (Recorded σ η) ε Unit) (Program.mark event) :=
  ⟨fun _ h ↦ h, fun _ v hR _ ↦ ⟨rfl, hR.push hR.state (hI v hR.kept)⟩⟩

theorem atomic {event : Outcome ε α → η} {body : Program σ ε α} {body' : Program τ ε α}
    (h : Simulates R A body body')
    (hI : ∀ v, I v → I (v.push (event (body' v.state).1) (body' v.state).2)) :
    Recording R A I (Program.atomic event body) (Program.atomic event body') := by
  refine ⟨fun w hA ↦ h.allowed w.state hA, fun w v hR hA ↦ ?_⟩
  obtain ⟨heq, hstate⟩ := h.alike w.state v.state hR.state hA
  refine ⟨heq, ?_⟩
  show Beside R I (w.push (event (body w.state).1) _) (v.push (event (body' v.state).1) _)
  rw [heq]
  exact hR.push hstate (hI v hR.kept)

/-- What is observed are related states. What the code depends on may be a weaker relation, one
that every state is in with some other. -/
theorem observe_bind {Q : σ → τ → Prop} {f : σ → Program (Recorded σ η) ε β}
    {g : τ → Program (Recorded τ η) ε β} (hQ : ∀ s, ∃ t, Q s t) (hRQ : ∀ s t, R s t → Q s t)
    (hf : ∀ s t, Q s t → Recording R A I (f s) (g t)) :
    Recording R A I (Program.observe >>= f) (Program.observe >>= g) := by
  refine ⟨fun w hA ↦ ?_, fun w v hR ↦ (hf w.state v.state (hRQ _ _ hR.state)).alike w v hR⟩
  obtain ⟨t, ht⟩ := hQ w.state
  exact (hf w.state t ht).allowed w hA

end Program.Simulates
