import Wardroom.Library.Task
import Wardroom.Library.Trace

/-! # Tasks over one world

Every party of a pool is a task that an agent runs. The parties take their
calls in any order, new parties join, and the world changes between the calls.
What a party keeps in each of its calls, it keeps over a whole run, whatever
the others do in between.
-/

namespace Wardroom.Library

/-- A task, and the agent that makes its calls. -/
structure Party (ι κ : Type) (ρ : κ → Type) (ε : Type) where
  agent : ι
  task : Task κ ρ ε Unit

structure Pool (σ ι κ : Type) (ρ : κ → Type) (ε : Type) where
  world : σ
  parties : List (Party ι κ ρ ε)

namespace Pool

variable {σ ι κ β : Type} {ρ : κ → Type} {ε : Type}

inductive Move (σ ι κ : Type) (ρ : κ → Type) (ε : Type) where
  | join (party : Party ι κ ρ ε)
  | advance (i : Nat)
  | disturb (change : σ → σ)

variable (exec : ι → (k : κ) → Prog σ ε (ρ k))

/-- The turn of the party in place `i`, where there is one. -/
def turn (p : Pool σ ι κ ρ ε) (i : Nat) : Option (Party ι κ ρ ε) → Pool σ ι κ ρ ε
  | none => p
  | some party =>
    ⟨(party.task.advance (exec party.agent) p.world).2,
      p.parties.set i ⟨party.agent, (party.task.advance (exec party.agent) p.world).1⟩⟩

def step (p : Pool σ ι κ ρ ε) : Move σ ι κ ρ ε → Pool σ ι κ ρ ε
  | .join party => { p with parties := p.parties ++ [party] }
  | .advance i => turn exec p i p.parties[i]?
  | .disturb change => { p with world := change p.world }

/-- The call that a party is about to make. -/
def pending (p : Pool σ ι κ ρ ε) (i : Nat) : Option κ :=
  p.parties[i]?.bind fun party => party.task.pending

variable {exec} {p : Pool σ ι κ ρ ε} {i : Nat} {agent : ι} {P : κ → Prop}

/-- A party stays what it is: its agent, and what every call of its task satisfies. -/
def Runs (p : Pool σ ι κ ρ ε) (i : Nat) (agent : ι) (P : κ → Prop) : Prop :=
  ∃ task, p.parties[i]? = some ⟨agent, task⟩ ∧ task.Calls P

theorem calls_advance {x : Task κ ρ ε Unit} (hx : x.Calls P)
    (f : (k : κ) → Prog σ ε (ρ k)) (s : σ) : (x.advance f s).1.Calls P := by
  cases x with
  | done a => trivial
  | thrown e => trivial
  | call k next => exact hx.2 _

theorem runs_step (h : p.Runs i agent P) (m : Move σ ι κ ρ ε) : (step exec p m).Runs i agent P := by
  obtain ⟨task, hparty, hcalls⟩ := h
  cases m with
  | join party =>
    refine ⟨task, ?_, hcalls⟩
    obtain ⟨hlt, -⟩ := List.getElem?_eq_some_iff.mp hparty
    exact (List.getElem?_append_left hlt).trans hparty
  | disturb change => exact ⟨task, hparty, hcalls⟩
  | advance j =>
    change (turn exec p j p.parties[j]?).Runs i agent P
    cases hj : p.parties[j]? with
    | none => exact ⟨task, hparty, hcalls⟩
    | some other =>
      by_cases hij : j = i
      · subst hij
        obtain rfl : other = ⟨agent, task⟩ := Option.some.inj (hj.symm.trans hparty)
        refine ⟨_, ?_, calls_advance hcalls (exec agent) p.world⟩
        obtain ⟨hlt, -⟩ := List.getElem?_eq_some_iff.mp hparty
        exact List.getElem?_set_self hlt
      · refine ⟨task, ?_, hcalls⟩
        exact (List.getElem?_set_ne hij).trans hparty

theorem world_advance (h : p.Runs i agent P) : (step exec p (.advance i)).world = p.world ∨
    ∃ k, p.pending i = some k ∧ P k ∧
      (step exec p (.advance i)).world = (exec agent k p.world).2 := by
  obtain ⟨task, hparty, hcalls⟩ := h
  change (turn exec p i p.parties[i]?).world = p.world ∨
    ∃ k, p.pending i = some k ∧ P k ∧ (turn exec p i p.parties[i]?).world = (exec agent k p.world).2
  unfold pending
  rw [hparty]
  cases task with
  | done a => exact .inl rfl
  | thrown e => exact .inl rfl
  | call k next => exact .inr ⟨k, rfl, hcalls.1, rfl⟩

/-- What the calls of a party keep under a guard, and the other moves keep as well, is kept by the
run. -/
theorem kept_by_run (part : σ → β) (G : σ → κ → Prop)
    (hcall : ∀ s k, P k → G s k → part (exec agent k s).2 = part s)
    (hruns : p.Runs i agent P) {ms : List (Move σ ι κ ρ ε)}
    (hown : Trace.Meets (step exec)
      (fun p m => m = .advance i → ∀ k, p.pending i = some k → G p.world k) p ms)
    (hother : Trace.Meets (step exec)
      (fun p m => m ≠ .advance i → part (step exec p m).world = part p.world) p ms) :
    part (Trace.run (step exec) p ms).world = part p.world := by
  induction ms generalizing p with
  | nil => rfl
  | cons m ms ih =>
    refine (ih (runs_step hruns m) hown.2 hother.2).trans ?_
    by_cases hm : m = .advance i
    · subst hm
      rcases world_advance hruns with hsame | ⟨k, hpending, hk, hworld⟩
      · rw [hsame]
      · rw [hworld]
        exact hcall p.world k hk (hown.1 rfl k hpending)
    · exact hother.1 hm

end Pool
end Wardroom.Library
