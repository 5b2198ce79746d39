import Mathlib.Order.Defs.Unbundled
import Wardroom.Library.Pool

/-! # Tasks among others that they can rely on

Between two calls of a task the world changes as a relation allows it. A task is
guarded when, under any such changes, each of its calls is made where a condition
on the call and the world holds; the same is then true in a pool.
-/

namespace Wardroom.Library
namespace Task

variable {κ σ ε α β : Type} {ρ : κ → Type}

section Guarded
variable (exec : (k : κ) → Prog σ ε (ρ k)) (R : σ → σ → Prop) (G : κ → σ → Prop)

/-- Each call is made where `G` holds, and what is returned satisfies `Q` right after the last call. -/
def Guarded (Q : α → σ → Prop) : Task κ ρ ε α → σ → Prop
  | done a, s => Q a s
  | thrown _, _ => True
  | call k next, s => ∀ s', R s s' → G k s' ∧ (next (exec k s').1).Guarded Q (exec k s').2

variable {exec R G} {x : Task κ ρ ε α} {s : σ} {Q : α → σ → Prop}

theorem guarded_perform {k : κ} {Q : ρ k → σ → Prop}
    (h : ∀ s', R s s' → G k s' ∧ ∀ a s'', exec k s' = (.ok a, s'') → Q a s'') :
    Guarded exec R G Q (perform k) s := by
  intro s' hs'
  obtain ⟨hguard, hends⟩ := h s' hs'
  refine ⟨hguard, ?_⟩
  rcases hcall : exec k s' with ⟨answer, s''⟩
  cases answer with
  | ok a => exact hends a s'' hcall
  | error e => trivial

theorem guarded_bind {P : β → σ → Prop} {f : α → Task κ ρ ε β} (hx : Guarded exec R G Q x s)
    (hf : ∀ a s', Q a s' → Guarded exec R G P (f a) s') : Guarded exec R G P (x >>= f) s := by
  change Guarded exec R G P (x.bind f) s
  induction x generalizing s with
  | done a => exact hf a s hx
  | thrown e => trivial
  | call k next ih =>
    intro s' hs'
    exact ⟨(hx s' hs').1, ih _ (hx s' hs').2⟩

theorem guarded_tryCatch {handler : ε → Task κ ρ ε α} (hx : Guarded exec R G Q x s)
    (hhandler : ∀ e s', Guarded exec R G Q (handler e) s') : Guarded exec R G Q (x.tryCatch handler) s := by
  induction x generalizing s with
  | done a => exact hx
  | thrown e => exact hhandler e s
  | call k next ih =>
    intro s' hs'
    exact ⟨(hx s' hs').1, ih _ (hx s' hs').2⟩

theorem guarded_ofExcept {outcome : Except ε α} (h : ∀ a, outcome = .ok a → Q a s) :
    Guarded exec R G Q (ofExcept outcome) s := by
  cases outcome with
  | ok a => exact h a rfl
  | error e => trivial

theorem guarded_require {c : Bool} {e : ε} {Q : Unit → σ → Prop} (h : c = true → Q () s) :
    Guarded exec R G Q (require c e) s := by
  cases c with
  | true => exact h rfl
  | false => trivial

theorem guarded_calls {P : κ → Prop} {I : σ → Prop} (hcalls : Calls P x) (hrely : ∀ s s', R s s' → I s → I s')
    (hkeeps : ∀ k s, P k → I s → G k s ∧ I (exec k s).2) (hs : I s) : Guarded exec R G (fun _ => I) x s := by
  induction x generalizing s with
  | done a => exact hs
  | thrown e => trivial
  | call k next ih =>
    intro s' hs'
    obtain ⟨hguard, hkept⟩ := hkeeps k s' hcalls.1 (hrely s s' hs' hs)
    exact ⟨hguard, ih _ (hcalls.2 _) hkept⟩

theorem guarded_forEach {J : List β → σ → Prop} {body : β → Task κ ρ ε Unit} (items : List β)
    (hbody : ∀ before item s, J before s → Guarded exec R G (fun _ => J (before ++ [item])) (body item) s)
    {before : List β} (hs : J before s) : Guarded exec R G (fun _ => J (before ++ items)) (forEach body items) s := by
  induction items generalizing before s with
  | nil =>
    rw [List.append_nil]
    exact hs
  | cons item items ih =>
    refine guarded_bind (hbody before item s hs) fun _ s' hs' => ?_
    have hrest := ih hs'
    rwa [List.append_assoc] at hrest

theorem Guarded.relied (h : Guarded exec R G (fun _ _ => True) x s) [IsPreorder σ R] {s' : σ} (hs' : R s s') :
    Guarded exec R G (fun _ _ => True) x s' := by
  cases x with
  | done a => trivial
  | thrown e => trivial
  | call k next => exact fun s'' hs'' => h s'' (trans_of R hs' hs'')

end Guarded
end Task

namespace Pool

variable {σ ι κ : Type} {ρ : κ → Type} {ε : Type} {exec : ι → (k : κ) → Prog σ ε (ρ k)} {R : σ → σ → Prop}
  [IsPreorder σ R] {G : κ → σ → Prop} {p : Pool σ ι κ ρ ε} {i : Nat} {agent : ι}

/-- The party is in place, and guarded from here on. -/
def Attends (exec : ι → (k : κ) → Prog σ ε (ρ k)) (R : σ → σ → Prop) (G : κ → σ → Prop) (p : Pool σ ι κ ρ ε) (i : Nat)
    (agent : ι) : Prop :=
  ∃ task, p.parties[i]? = some ⟨agent, task⟩ ∧ task.Guarded (exec agent) R G (fun _ _ => True) p.world

theorem attends_step (h : Attends exec R G p i agent) (m : Move σ ι κ ρ ε)
    (hothers : m ≠ .advance i → R p.world (step exec p m).world) : Attends exec R G (step exec p m) i agent := by
  obtain ⟨task, hparty, hguarded⟩ := h
  obtain ⟨hlt, -⟩ := List.getElem?_eq_some_iff.mp hparty
  by_cases hm : m = .advance i
  · subst hm
    rw [step, hparty, turn]
    refine ⟨_, List.getElem?_set_self hlt, ?_⟩
    cases task with
    | done a => trivial
    | thrown e => trivial
    | call k next => exact (hguarded p.world (refl_of R p.world)).2
  · refine ⟨task, ?_, hguarded.relied (hothers hm)⟩
    cases m with
    | join party => exact (List.getElem?_append_left hlt).trans hparty
    | disturb change => exact hparty
    | advance j =>
      have hij : j ≠ i := fun hij => hm (hij ▸ rfl)
      rw [step]
      cases p.parties[j]? with
      | none => exact hparty
      | some party => exact (List.getElem?_set_ne hij).trans hparty

/-- In a run whose other moves can be relied on, the party makes each call where it may. -/
theorem guarded_run (h : Attends exec R G p i agent) {ms : List (Move σ ι κ ρ ε)}
    (hothers : Trace.Meets (step exec) (fun p m => m ≠ .advance i → R p.world (step exec p m).world) p ms)
    {k : κ} (hpending : (Trace.run (step exec) p ms).pending i = some k) : G k (Trace.run (step exec) p ms).world := by
  obtain ⟨task, hparty, hguarded⟩ := Trace.invariant_run (I := fun p => Attends exec R G p i agent)
    (fun p m hp hm => attends_step hp m hm) h hothers
  rw [pending, hparty] at hpending
  cases task with
  | done a => cases hpending
  | thrown e => cases hpending
  | call k' next =>
    cases hpending
    exact (hguarded _ (refl_of R _)).1

end Pool
end Wardroom.Library
