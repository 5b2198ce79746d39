import Wardroom.Library.Program

/-! # Tasks that run call by call

A task is an asynchronous program cut at its calls: it has returned, has
thrown, or waits for the answer of one call. What a call does is left to an
interpretation, so the same task can run alone from beginning to end, or take
its calls in turn with other tasks over a shared world.
-/

namespace Wardroom.Library

inductive Task (κ : Type) (ρ : κ → Type) (ε α : Type) where
  | done (a : α)
  | thrown (e : ε)
  | call (k : κ) (next : Except ε (ρ k) → Task κ ρ ε α)

namespace Task

variable {κ : Type} {ρ : κ → Type} {σ ε α β γ : Type}

protected def bind : Task κ ρ ε α → (α → Task κ ρ ε β) → Task κ ρ ε β
  | done a, f => f a
  | thrown e, _ => thrown e
  | call k next, f => call k fun r => (next r).bind f

instance : Monad (Task κ ρ ε) where
  pure := done
  bind := Task.bind

def fail (e : ε) : Task κ ρ ε α := thrown e

def ofExcept : Except ε α → Task κ ρ ε α
  | .ok a => done a
  | .error e => thrown e

/-- One call, with its exception thrown on. -/
def perform (k : κ) : Task κ ρ ε (ρ k) := call k ofExcept

/-- `try { … } catch (e) { … }`. -/
def tryCatch (handler : ε → Task κ ρ ε α) : Task κ ρ ε α → Task κ ρ ε α
  | done a => done a
  | thrown e => handler e
  | call k next => call k fun r => (next r).tryCatch handler

/-- The way a task ends, as a value. -/
def attempt : Task κ ρ ε α → Task κ ρ ε (Except ε α)
  | done a => done (.ok a)
  | thrown e => done (.error e)
  | call k next => call k fun r => (next r).attempt

def require (c : Bool) (e : ε) : Task κ ρ ε Unit := if c then done () else thrown e

/-- `for (const item of items) await body(item)`. -/
def forEach (body : β → Task κ ρ ε Unit) : List β → Task κ ρ ε Unit
  | [] => done ()
  | item :: items => do
    body item
    forEach body items

def run (exec : (k : κ) → Prog σ ε (ρ k)) : Task κ ρ ε α → Prog σ ε α
  | done a => pure a
  | thrown e => Prog.fail e
  | call k next => fun s => (next (exec k s).1).run exec (exec k s).2

/-- The task takes its next call. -/
def advance (exec : (k : κ) → Prog σ ε (ρ k)) : Task κ ρ ε α → σ → Task κ ρ ε α × σ
  | done a, s => (done a, s)
  | thrown e, s => (thrown e, s)
  | call k next, s => (next (exec k s).1, (exec k s).2)

/-- The call a task waits for. -/
def pending : Task κ ρ ε α → Option κ
  | call k _ => some k
  | _ => none

/-- Whatever the answers, every call of the task satisfies `P`. -/
def Calls (P : κ → Prop) : Task κ ρ ε α → Prop
  | done _ => True
  | thrown _ => True
  | call k next => P k ∧ ∀ r, (next r).Calls P

section Calls

variable {P P' : κ → Prop} {x : Task κ ρ ε α}

theorem calls_pure (a : α) : Calls P (pure a : Task κ ρ ε α) := trivial

theorem calls_fail (e : ε) : Calls P (fail e : Task κ ρ ε α) := trivial

theorem calls_ofExcept (r : Except ε α) : Calls P (ofExcept r : Task κ ρ ε α) := by
  cases r <;> trivial

theorem calls_require (c : Bool) (e : ε) : Calls P (require c e : Task κ ρ ε Unit) := by
  cases c <;> trivial

theorem calls_perform {k : κ} (h : P k) : Calls P (perform k : Task κ ρ ε (ρ k)) :=
  ⟨h, fun r => calls_ofExcept r⟩

variable {f : α → Task κ ρ ε β}

theorem calls_bind (hx : Calls P x) (hf : ∀ a, Calls P (f a)) :
    Calls P (x >>= f) := by
  change Calls P (x.bind f)
  induction x with
  | done a => exact hf a
  | thrown e => trivial
  | call k next ih => exact ⟨hx.1, fun r => ih r (hx.2 r)⟩

theorem calls_tryCatch {handler : ε → Task κ ρ ε α} (hx : Calls P x)
    (hhandler : ∀ e, Calls P (handler e)) : Calls P (x.tryCatch handler) := by
  induction x with
  | done a => trivial
  | thrown e => exact hhandler e
  | call k next ih => exact ⟨hx.1, fun r => ih r (hx.2 r)⟩

theorem calls_attempt (hx : Calls P x) : Calls P x.attempt := by
  induction x with
  | done a => trivial
  | thrown e => trivial
  | call k next ih => exact ⟨hx.1, fun r => ih r (hx.2 r)⟩

theorem calls_ite {c : Prop} [Decidable c] {y : Task κ ρ ε α} (hx : Calls P x) (hy : Calls P y) :
    Calls P (if c then x else y) := by
  by_cases h : c
  · rwa [if_pos h]
  · rwa [if_neg h]

theorem calls_forEach {body : β → Task κ ρ ε Unit} (h : ∀ item, Calls P (body item))
    (items : List β) : Calls P (forEach body items) := by
  induction items with
  | nil => trivial
  | cons item items ih => exact calls_bind (h item) fun _ => ih

/-- Whatever the answers, what the task returns satisfies `Q`. -/
def Yields (Q : α → Prop) : Task κ ρ ε α → Prop
  | done a => Q a
  | thrown _ => True
  | call _ next => ∀ r, (next r).Yields Q

theorem yields_pure {Q : α → Prop} {a : α} (h : Q a) : Yields Q (pure a : Task κ ρ ε α) := h

theorem yields_true (x : Task κ ρ ε α) : Yields (fun _ => True) x := by
  induction x with
  | done a => trivial
  | thrown e => trivial
  | call k next ih => exact ih

theorem yields_bind {Q : β → Prop} {R : α → Prop} (hx : Yields R x)
    (hf : ∀ a, R a → Yields Q (f a)) : Yields Q (x >>= f) := by
  change Yields Q (x.bind f)
  induction x with
  | done a => exact hf a hx
  | thrown e => trivial
  | call k next ih => exact fun r => ih r (hx r)

theorem yields_attempt {Q : α → Prop} (hx : Yields Q x) :
    Yields (fun outcome => ∀ a, outcome = .ok a → Q a) x.attempt := by
  induction x with
  | done a => exact fun b hb => Except.ok.inj hb ▸ hx
  | thrown e => exact fun _ h => nomatch h
  | call k next ih => exact fun r => ih r (hx r)

theorem calls_bind_of_yields {R : α → Prop} (hx : Calls P x)
    (hyields : Yields R x) (hf : ∀ a, R a → Calls P (f a)) : Calls P (x >>= f) := by
  change Calls P (x.bind f)
  induction x with
  | done a => exact hf a hyields
  | thrown e => trivial
  | call k next ih => exact ⟨hx.1, fun r => ih r (hx.2 r) (hyields r)⟩

end Calls
end Task
end Wardroom.Library
