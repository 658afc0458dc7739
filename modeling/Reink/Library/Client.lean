import Reink.Library.Simulation

/-!
# Clients of a service

A piece of code that is handed a service knows of the state behind it what its calls return. Such
code is a tree: it calls, and goes on with the reply. What holds of the service call by call then
holds of every client, by induction on the tree.
-/

/-- Code that calls a service, with what it does on each reply. -/
inductive Client (Q : Type) (A : Q → Type) (ε α : Type) where
  | done (a : α)
  | fail (e : ε)
  | call (q : Q) (next : A q → Client Q A ε α)

namespace Client

variable {Q : Type} {A : Q → Type} {ε α β : Type}

/-- Sequencing: a failure ends the whole. -/
protected def bind : Client Q A ε α → (α → Client Q A ε β) → Client Q A ε β
  | .done a, f => f a
  | .fail e, _ => .fail e
  | .call q next, f => .call q fun reply ↦ (next reply).bind f

instance : Monad (Client Q A ε) where
  pure := .done
  bind := Client.bind

@[simp] theorem pure_eq (a : α) : (pure a : Client Q A ε α) = .done a := rfl

@[simp] theorem done_bind (a : α) (f : α → Client Q A ε β) : (Client.done a >>= f) = f a := rfl

@[simp] theorem fail_bind (e : ε) (f : α → Client Q A ε β) : (Client.fail e >>= f) = .fail e := rfl

@[simp] theorem call_bind (q : Q) (next : A q → Client Q A ε α) (f : α → Client Q A ε β) :
    (Client.call q next >>= f) = .call q fun reply ↦ next reply >>= f := rfl

/-- One call. -/
def ask (q : Q) : Client Q A ε (A q) := .call q .done

/-- The value of a computation, or the end. -/
def ofExcept : Except ε α → Client Q A ε α
  | .ok a => .done a
  | .error e => .fail e

@[simp] theorem ask_bind (q : Q) (f : A q → Client Q A ε β) : (ask q >>= f) = .call q f := rfl

@[simp] theorem ofExcept_ok (a : α) : (ofExcept (.ok a) : Client Q A ε α) = .done a := rfl

@[simp] theorem ofExcept_error (e : ε) : (ofExcept (.error e) : Client Q A ε α) = .fail e := rfl

section Run

variable {σ τ : Type} {serve : (q : Q) → Program σ ε (A q)}

/-- The client on a state behind the service. -/
def run (serve : (q : Q) → Program σ ε (A q)) : Client Q A ε α → Program σ ε α
  | .done a => pure a
  | .fail e => Program.throw e
  | .call q next => serve q >>= fun reply ↦ (next reply).run serve

@[simp] theorem run_done (a : α) : (Client.done a : Client Q A ε α).run serve = pure a := rfl

@[simp] theorem run_fail (e : ε) :
    (Client.fail e : Client Q A ε α).run serve = Program.throw e := rfl

@[simp] theorem run_call (q : Q) (next : A q → Client Q A ε α) :
    (Client.call q next).run serve = serve q >>= fun reply ↦ (next reply).run serve := rfl

theorem run_bind (c : Client Q A ε α) (f : α → Client Q A ε β) :
    (c >>= f).run serve = c.run serve >>= fun a ↦ (f a).run serve := by
  induction c with
  | done a => rfl
  | fail e => rfl
  | call q next ih =>
    rw [call_bind, run_call, run_call, Program.bind_assoc]
    congr 1
    funext reply
    exact ih reply

/-- **Clients cannot tell** services that answer alike. -/
theorem simulates {R : σ → τ → Prop} {allowed : σ → Prop}
    {serve' : (q : Q) → Program τ ε (A q)}
    (h : ∀ q, Program.Simulates R allowed (serve q) (serve' q)) (c : Client Q A ε α) :
    Program.Simulates R allowed (c.run serve) (c.run serve') := by
  induction c with
  | done a => exact .pure a
  | fail e => exact .throw e
  | call q next ih => exact .bind (h q) ih

/-- The calls a client may make are of the kind. -/
def Calls (P : Q → Prop) : Client Q A ε α → Prop
  | .done _ => True
  | .fail _ => True
  | .call q next => P q ∧ ∀ reply, (next reply).Calls P

theorem Calls.mono {P P' : Q → Prop} (h : ∀ q, P q → P' q) {c : Client Q A ε α} (hc : c.Calls P) :
    c.Calls P' := by
  induction c with
  | done a => trivial
  | fail e => trivial
  | call q next ih => exact ⟨h q hc.1, fun reply ↦ ih reply (hc.2 reply)⟩

theorem Calls.bind {P : Q → Prop} {c : Client Q A ε α} {f : α → Client Q A ε β}
    (hc : c.Calls P) (hf : ∀ a, (f a).Calls P) : (c >>= f).Calls P := by
  induction c with
  | done a => exact hf a
  | fail e => trivial
  | call q next ih => exact ⟨hc.1, fun reply ↦ ih reply (hc.2 reply)⟩

theorem Calls.ofExcept {P : Q → Prop} (r : Except ε α) :
    (Client.ofExcept r : Client Q A ε α).Calls P := by
  cases r <;> trivial

/-- A run goes where its calls go. -/
theorem moves {R : σ → σ → Prop} {P : Q → Prop} (h : ∀ q, P q → Program.Moves R (serve q))
    {c : Client Q A ε α} (hc : c.Calls P) : Program.Moves R (c.run serve) := by
  induction c with
  | done a => exact .pure a
  | fail e => exact .throw e
  | call q next ih => exact .bind (h q hc.1) fun reply ↦ ih reply (hc.2 reply)

end Run

end Client
