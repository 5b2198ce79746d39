import Mathlib.Data.List.Basic

/-! # Programs that throw over a mutable world

A program returns or throws, and the world it has changed so far survives an
exception. A transaction is the one construct that gives the durable part of
the world back. The rules below compute the weakest condition under which a
program ends in a given pair of postconditions, one for each way to end.
-/

namespace Wardroom.Library

theorem ok_of_bind {ε α β : Type} {x : Except ε α} {f : α → Except ε β} {b : β}
    (h : (x >>= f) = .ok b) : ∃ a, x = .ok a ∧ f a = .ok b := by
  cases x with
  | error e => cases h
  | ok a => exact ⟨a, rfl, h⟩

def Prog (σ ε α : Type) : Type := σ → Except ε α × σ

namespace Prog

variable {σ δ ε α β : Type}

protected def pure (a : α) : Prog σ ε α := fun s => (.ok a, s)

protected def bind (x : Prog σ ε α) (f : α → Prog σ ε β) : Prog σ ε β := fun s =>
  match x s with
  | (.ok a, s') => f a s'
  | (.error e, s') => (.error e, s')

instance : Monad (Prog σ ε) where
  pure := Prog.pure
  bind := Prog.bind

def fail (e : ε) : Prog σ ε α := fun s => (.error e, s)

theorem bind_eq (x : Prog σ ε α) (f : α → Prog σ ε β) (s : σ) :
    (x >>= f) s = match x s with
      | (.ok a, s') => f a s'
      | (.error e, s') => (.error e, s') := rfl

theorem lawful : LawfulMonad (Prog σ ε) := by
  refine LawfulMonad.mk' _ (fun x => ?_) (fun _ _ => rfl) fun x f g => ?_
  · funext s
    change Prog.bind x pure s = x s
    unfold Prog.bind
    rcases x s with ⟨r, s'⟩
    cases r <;> rfl
  · funext s
    simp only [bind_eq]
    rcases x s with ⟨r, s'⟩
    cases r <;> rfl

theorem fail_bind (e : ε) (f : α → Prog σ ε β) :
    (fail e : Prog σ ε α) >>= f = fail e := rfl

/-- Throw what a computation without a world threw, or return what it returned. -/
def ofExcept : Except ε α → Prog σ ε α
  | .ok a => pure a
  | .error e => fail e

def read : Prog σ ε σ := fun s => (.ok s, s)

def modify (f : σ → σ) : Prog σ ε Unit := fun s => (.ok (), f s)

theorem read_bind (f : σ → Prog σ ε β) (s : σ) : (read >>= f) s = f s s := rfl

/-- Run the handler's clean-up and throw the same exception again. -/
def onError (x : Prog σ ε α) (cleanUp : σ → σ) : Prog σ ε α := fun s =>
  match x s with
  | (.ok a, s') => (.ok a, s')
  | (.error e, s') => (.error e, cleanUp s')

/-- `try … catch`: the handler runs in the world that the exception left. -/
def tryCatch (x : Prog σ ε α) (handler : ε → Prog σ ε α) : Prog σ ε α := fun s =>
  match x s with
  | (.ok a, s') => (.ok a, s')
  | (.error e, s') => handler e s'

/-- Whether the program returned; its exception is dropped. -/
def succeeds (x : Prog σ ε α) : Prog σ ε Bool := fun s =>
  match x s with
  | (.ok _, s') => (.ok true, s')
  | (.error _, s') => (.ok false, s')

/-- A transaction over the part of the world that `durable` reads and `restore` puts back. -/
def atomically (durable : σ → δ) (restore : δ → σ → σ) (x : Prog σ ε α) : Prog σ ε α := fun s =>
  x.onError (restore (durable s)) s

/-- The weakest precondition for returning in `Q` or throwing in `E`. -/
def wp (x : Prog σ ε α) (Q : α → σ → Prop) (E : ε → σ → Prop) (s : σ) : Prop :=
  match x s with
  | (.ok a, s') => Q a s'
  | (.error e, s') => E e s'

variable {x : Prog σ ε α} {Q Q' : α → σ → Prop} {E E' : ε → σ → Prop} {s s' : σ}

theorem wp_of_ok {a : α} (h : wp x Q E s) (hx : x s = (.ok a, s')) : Q a s' := by
  simpa only [wp, hx] using h

theorem wp_of_error {e : ε} (h : wp x Q E s) (hx : x s = (.error e, s')) : E e s' := by
  simpa only [wp, hx] using h

theorem wp_of_cases (hok : ∀ a s', x s = (.ok a, s') → Q a s')
    (herr : ∀ e s', x s = (.error e, s') → E e s') : wp x Q E s := by
  unfold wp
  rcases hx : x s with ⟨r, s'⟩
  cases r with
  | ok a => exact hok a s' hx
  | error e => exact herr e s' hx

theorem cases_of_wp (h : wp x Q E s) :
    (∃ a, (x s).1 = .ok a ∧ Q a (x s).2) ∨ (∃ e, (x s).1 = .error e ∧ E e (x s).2) := by
  rcases hx : x s with ⟨r, s'⟩
  cases r with
  | ok a => exact .inl ⟨a, rfl, wp_of_ok h hx⟩
  | error e => exact .inr ⟨e, rfl, wp_of_error h hx⟩

theorem exists_ok_of_wp (h : wp x Q (fun _ _ => False) s) : ∃ a s', x s = (.ok a, s') ∧ Q a s' := by
  rcases hx : x s with ⟨r, s'⟩
  cases r with
  | ok a => exact ⟨a, s', rfl, wp_of_ok h hx⟩
  | error e =>
    have hfalse := wp_of_error h hx
    exact hfalse.elim

theorem wp_mono (h : wp x Q E s) (hQ : ∀ a s', Q a s' → Q' a s') (hE : ∀ e s', E e s' → E' e s') :
    wp x Q' E' s :=
  wp_of_cases (fun a s' hx => hQ a s' (wp_of_ok h hx)) (fun e s' hx => hE e s' (wp_of_error h hx))

theorem wp_and (h : wp x Q E s) (h' : wp x Q' E' s) :
    wp x (fun a s' => Q a s' ∧ Q' a s') (fun e s' => E e s' ∧ E' e s') s :=
  wp_of_cases (fun _ _ hx => ⟨wp_of_ok h hx, wp_of_ok h' hx⟩)
    (fun _ _ hx => ⟨wp_of_error h hx, wp_of_error h' hx⟩)

theorem wp_mono_ok (h : wp x Q E s) (hQ : ∀ a s', Q a s' → Q' a s') : wp x Q' E s :=
  wp_mono h hQ fun _ _ herror => herror

@[simp] theorem wp_pure (a : α) : wp (pure a) Q E s ↔ Q a s := Iff.rfl

@[simp] theorem wp_fail (e : ε) : wp (fail e) Q E s ↔ E e s := Iff.rfl

@[simp] theorem wp_ofExcept (outcome : Except ε α) :
    wp (ofExcept outcome) Q E s ↔
      (∀ a, outcome = .ok a → Q a s) ∧ (∀ e, outcome = .error e → E e s) := by
  cases outcome <;> simp [ofExcept]

@[simp] theorem wp_read {Q : σ → σ → Prop} : wp read Q E s ↔ Q s s := Iff.rfl

@[simp] theorem wp_modify {Q : Unit → σ → Prop} (f : σ → σ) :
    wp (modify f) Q E s ↔ Q () (f s) := Iff.rfl

@[simp] theorem wp_bind {Q : β → σ → Prop} (f : α → Prog σ ε β) :
    wp (x >>= f) Q E s ↔ wp x (fun a => wp (f a) Q E) E s := by
  change wp (Prog.bind x f) Q E s ↔ _
  unfold wp Prog.bind
  rcases x s with ⟨r, s'⟩
  cases r <;> rfl

theorem wp_seq {Q : β → σ → Prop} {R : α → σ → Prop} {f : α → Prog σ ε β} (hx : wp x R E s)
    (hf : ∀ a s', R a s' → wp (f a) Q E s') : wp (x >>= f) Q E s :=
  (wp_bind f).mpr (wp_mono_ok hx hf)

@[simp] theorem wp_ite (c : Prop) [Decidable c] (y : Prog σ ε α) :
    wp (if c then x else y) Q E s ↔ (c → wp x Q E s) ∧ (¬c → wp y Q E s) := by
  by_cases h : c <;> simp [h]

@[simp] theorem wp_onError (cleanUp : σ → σ) :
    wp (x.onError cleanUp) Q E s ↔ wp x Q (fun e s' => E e (cleanUp s')) s := by
  unfold wp onError
  rcases x s with ⟨r, s'⟩
  cases r <;> rfl

@[simp] theorem wp_tryCatch (handler : ε → Prog σ ε α) :
    wp (x.tryCatch handler) Q E s ↔ wp x Q (fun e s' => wp (handler e) Q E s') s := by
  unfold wp tryCatch
  rcases x s with ⟨r, s'⟩
  cases r <;> rfl

@[simp] theorem wp_succeeds {Q : Bool → σ → Prop} :
    wp x.succeeds Q E s ↔ wp x (fun _ => Q true) (fun _ => Q false) s := by
  unfold wp succeeds
  rcases x s with ⟨r, s'⟩
  cases r <;> rfl

@[simp] theorem wp_atomically (durable : σ → δ) (restore : δ → σ → σ) :
    wp (atomically durable restore x) Q E s ↔
      wp x Q (fun e s' => E e (restore (durable s) s')) s :=
  wp_onError _

/-- However it ends, the program leaves what `part` reads of the world as it was. -/
def Frame {π : Type} (part : σ → π) (x : Prog σ ε α) : Prop := ∀ s, part (x s).2 = part s

section Frame

variable {π : Type} {part : σ → π}

theorem frame_of_wp (h : ∀ s, wp x (fun _ s' => part s' = part s) (fun _ s' => part s' = part s) s) :
    Frame part x := by
  intro s
  rcases cases_of_wp (h s) with ⟨_, _, hsame⟩ | ⟨_, _, hsame⟩ <;> exact hsame

theorem Frame.wp (h : Frame part x) (s : σ) :
    Prog.wp x (fun _ s' => part s' = part s) (fun _ s' => part s' = part s) s :=
  wp_of_cases (fun _ _ hok => by simpa only [hok] using h s)
    fun _ _ herror => by simpa only [herror] using h s

theorem frame_pure (a : α) : Frame part (pure a : Prog σ ε α) := fun _ => rfl

theorem frame_fail (e : ε) : Frame part (fail e : Prog σ ε α) := fun _ => rfl

theorem frame_read : Frame part (read : Prog σ ε σ) := fun _ => rfl

theorem frame_modify {f : σ → σ} (h : ∀ s, part (f s) = part s) :
    Frame part (modify f : Prog σ ε Unit) := h

theorem frame_ofExcept (outcome : Except ε α) : Frame part (ofExcept outcome : Prog σ ε α) := by
  cases outcome with
  | ok a => exact frame_pure a
  | error e => exact frame_fail e

theorem frame_bind {f : α → Prog σ ε β} (hx : Frame part x) (hf : ∀ a, Frame part (f a)) :
    Frame part (x >>= f) := by
  refine frame_of_wp fun s => ?_
  rw [wp_bind]
  refine wp_mono (hx.wp s) (fun a s' hsame => ?_) fun _ _ hsame => hsame
  exact wp_mono ((hf a).wp s') (fun _ _ hlater => hlater.trans hsame)
    fun _ _ hlater => hlater.trans hsame

theorem frame_ite {c : Prop} [Decidable c] {y : Prog σ ε α} (hx : Frame part x)
    (hy : Frame part y) : Frame part (if c then x else y) := by
  by_cases h : c
  · rwa [if_pos h]
  · rwa [if_neg h]

theorem frame_tryCatch {handler : ε → Prog σ ε α} (hx : Frame part x)
    (hhandler : ∀ e, Frame part (handler e)) : Frame part (x.tryCatch handler) := by
  refine frame_of_wp fun s => ?_
  rw [wp_tryCatch]
  refine wp_mono (hx.wp s) (fun _ _ hsame => hsame) fun e s' hsame => ?_
  exact wp_mono ((hhandler e).wp s') (fun _ _ hlater => hlater.trans hsame)
    fun _ _ hlater => hlater.trans hsame

theorem frame_succeeds (h : Frame part x) : Frame part x.succeeds := by
  refine frame_of_wp fun s => ?_
  rw [wp_succeeds]
  exact h.wp s

end Frame

/-- However it ends, the program leads to a world that is related to the one it began in. -/
def Leads (R : σ → σ → Prop) (x : Prog σ ε α) : Prop := ∀ s, R s (x s).2

section Leads

variable {R : σ → σ → Prop}

theorem leads_of_wp (h : ∀ s, Prog.wp x (fun _ s' => R s s') (fun _ s' => R s s') s) :
    Leads R x := by
  intro s
  rcases cases_of_wp (h s) with ⟨_, _, hled⟩ | ⟨_, _, hled⟩ <;> exact hled

theorem Leads.wp (h : Leads R x) (s : σ) :
    Prog.wp x (fun _ s' => R s s') (fun _ s' => R s s') s :=
  wp_of_cases (fun _ _ hok => by simpa only [hok] using h s)
    fun _ _ herror => by simpa only [herror] using h s

theorem leads_ite {c : Prop} [Decidable c] {y : Prog σ ε α} (hx : Leads R x) (hy : Leads R y) :
    Leads R (if c then x else y) := by
  by_cases h : c
  · rwa [if_pos h]
  · rwa [if_neg h]

variable [IsPreorder σ R]

theorem leads_pure (a : α) : Leads R (pure a : Prog σ ε α) := fun s => refl_of R s

theorem leads_fail (e : ε) : Leads R (fail e : Prog σ ε α) := fun s => refl_of R s

theorem leads_read : Leads R (read : Prog σ ε σ) := fun s => refl_of R s

theorem leads_ofExcept (outcome : Except ε α) : Leads R (ofExcept outcome : Prog σ ε α) := by
  cases outcome with
  | ok a => exact leads_pure a
  | error e => exact leads_fail e

theorem leads_bind {f : α → Prog σ ε β} (hx : Leads R x) (hf : ∀ a, Leads R (f a)) :
    Leads R (x >>= f) := by
  intro s
  change R s (Prog.bind x f s).2
  unfold Prog.bind
  have hfirst := hx s
  rcases hs : x s with ⟨r, s'⟩
  rw [hs] at hfirst
  cases r with
  | ok a => exact trans_of R hfirst (hf a s')
  | error e => exact hfirst

theorem leads_tryCatch {handler : ε → Prog σ ε α} (hx : Leads R x)
    (hhandler : ∀ e, Leads R (handler e)) : Leads R (x.tryCatch handler) := by
  refine leads_of_wp fun s => ?_
  rw [wp_tryCatch]
  refine wp_mono (hx.wp s) (fun _ _ h => h) fun e s' h => ?_
  exact wp_mono ((hhandler e).wp s') (fun _ _ h' => trans_of R h h') fun _ _ h' => trans_of R h h'

end Leads

end Prog
end Wardroom.Library
