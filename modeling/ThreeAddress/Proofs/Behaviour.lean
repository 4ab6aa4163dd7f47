import Mathlib.Data.List.Infix
import ThreeAddress.Source

set_option autoImplicit false

/- What can be observed of a run: how it ends and the events up to then. Two systems behave
   alike if they end alike and show the same events, also where they run forever. -/
namespace ThreeAddress

abbrev Word := Int64

def Word.ofBool (value : Bool) : Word := if value then 1 else 0

inductive Effect where
  | called (callee : Handle .symbol) (name : String) (args : List Word) (answer : Word)
  | wrote (value : Word) (type : DataType)
  | read (value : Word) (type : DataType)
deriving DecidableEq

structure World where
  history : List Effect
  choices : Nat
  inputs : Nat

abbrev Store := Handle .symbol → Word

structure Outcome where
  returned : Option Word
  store : Store
  world : World

inductive Reaction (σ : Type) where
  | next (state : σ)
  | finished (outcome : Outcome)
  | stuck

def Reaction.history {σ : Type} (world : σ → World) : Reaction σ → List Effect
  | .next state => (world state).history
  | .finished outcome => outcome.world.history
  | .stuck => []

def iterate {σ : Type} (step : σ → Reaction σ) : Nat → σ → Reaction σ
  | 0, state => .next state
  | n + 1, state =>
      match step state with
      | .next later => iterate step n later
      | .finished outcome => .finished outcome
      | .stuck => .stuck

section Iterate

variable {σ : Type} {step : σ → Reaction σ}

theorem iterate_add (a b : Nat) (state : σ) :
    iterate step (a + b) state =
      match iterate step a state with
      | .next later => iterate step b later
      | .finished outcome => .finished outcome
      | .stuck => .stuck := by
  induction a generalizing state with
  | zero => rw [Nat.zero_add]; rfl
  | succ a ih =>
      rw [Nat.succ_add, iterate, iterate]
      cases step state with
      | next later => exact ih later
      | finished outcome => rfl
      | stuck => rfl

theorem iterate_next (a b : Nat) (state later : σ) (runs : iterate step a state = .next later) :
    iterate step (a + b) state = iterate step b later := by rw [iterate_add, runs]

theorem iterate_finished (a b : Nat) (state : σ) (outcome : Outcome) (upTo : a ≤ b)
    (runs : iterate step a state = .finished outcome) : iterate step b state = .finished outcome := by
  obtain ⟨more, rfl⟩ := Nat.exists_eq_add_of_le upTo
  rw [iterate_add, runs]

theorem iterate_stuck (a b : Nat) (state : σ) (upTo : a ≤ b) (runs : iterate step a state = .stuck) :
    iterate step b state = .stuck := by
  obtain ⟨more, rfl⟩ := Nat.exists_eq_add_of_le upTo
  rw [iterate_add, runs]

theorem iterate_succ (n : Nat) (state later : σ) (steps : step state = .next later) :
    iterate step (n + 1) state = iterate step n later := by simp only [iterate, steps]

theorem iterate_one (state later : σ) (steps : step state = .next later) :
    iterate step 1 state = .next later := iterate_succ 0 state later steps

def Reaches (step : σ → Reaction σ) (state later : σ) : Prop := ∃ n, iterate step n state = .next later

theorem Reaches.refl (state : σ) : Reaches step state state := ⟨0, rfl⟩

theorem Reaches.trans {state middle later : σ} (first : Reaches step state middle)
    (second : Reaches step middle later) : Reaches step state later := by
  obtain ⟨a, first⟩ := first
  obtain ⟨b, second⟩ := second
  exact ⟨a + b, by rw [iterate_next a b state middle first, second]⟩

theorem Reaches.single {state later : σ} (steps : step state = .next later) : Reaches step state later :=
  ⟨1, iterate_one state later steps⟩

end Iterate

-- Both ways: a run of either side ends, or shows events, exactly as one of the other side does.
structure SameBehaviour {σ τ : Type} (source : σ → Reaction σ) (sourceWorld : σ → World) (s : σ)
    (target : τ → Reaction τ) (targetWorld : τ → World) (t : τ) : Prop where
  finishes : ∀ outcome, (∃ n, iterate source n s = .finished outcome) ↔
    ∃ n, iterate target n t = .finished outcome
  shows : ∀ events, (∃ n, events <+: (iterate source n s).history sourceWorld) ↔
    ∃ n, events <+: (iterate target n t).history targetWorld
  sourceSafe : ∀ n, iterate source n s ≠ .stuck
  targetSafe : ∀ n, iterate target n t ≠ .stuck

-- Each step of the source is answered by steps of the target. Where the target stands still
-- the measure goes down, so it cannot stand still forever.
structure Simulation {σ τ : Type} (source : σ → Reaction σ) (sourceWorld : σ → World) (target : τ → Reaction τ)
    (targetWorld : τ → World) (related : σ → τ → Prop) (measure : σ → Nat) : Prop where
  sameWorld : ∀ s t, related s t → targetWorld t = sourceWorld s
  step : ∀ s t, related s t →
    match source s with
    | .next later => ∃ n t', iterate target n t = .next t' ∧ related later t' ∧
        (0 < n ∨ measure later < measure s)
    | .finished outcome => ∃ n, iterate target n t = .finished outcome
    | .stuck => False

section Simulation

variable {σ τ : Type} {source : σ → Reaction σ} {sourceWorld : σ → World} {target : τ → Reaction τ}
  {targetWorld : τ → World} {related : σ → τ → Prop} {measure : σ → Nat}

theorem Simulation.forward (sim : Simulation source sourceWorld target targetWorld related measure)
    (k : Nat) (s : σ) (t : τ) (start : related s t) :
    match iterate source k s with
    | .next later => ∃ t', Reaches target t t' ∧ related later t'
    | .finished outcome => ∃ n, iterate target n t = .finished outcome
    | .stuck => False := by
  induction k generalizing s t with
  | zero => exact ⟨t, .refl t, start⟩
  | succ k ih =>
      have answered := sim.step s t start
      cases steps : source s with
      | stuck =>
          rw [steps] at answered
          exact answered.elim
      | finished outcome =>
          rw [steps] at answered
          simp only [iterate, steps]
          exact answered
      | next later =>
          rw [steps] at answered
          rw [iterate_succ k s later steps]
          obtain ⟨n, t', runs, relates, _⟩ := answered
          have rest := ih later t' relates
          cases ends : iterate source k later with
          | stuck =>
              rw [ends] at rest
              exact rest
          | finished outcome =>
              rw [ends] at rest
              obtain ⟨m, done⟩ := rest
              exact ⟨n + m, by rw [iterate_next n m t t' runs, done]⟩
          | next last =>
              rw [ends] at rest
              obtain ⟨t'', reaches, lastRelated⟩ := rest
              exact ⟨t'', Reaches.trans ⟨n, runs⟩ reaches, lastRelated⟩

theorem Simulation.covers (sim : Simulation source sourceWorld target targetWorld related measure)
    (need : Nat) (s : σ) (t : τ) (start : related s t) :
    ∃ k n, (∃ s' t', need ≤ n ∧ iterate source k s = .next s' ∧ iterate target n t = .next t' ∧ related s' t') ∨
      ∃ outcome, iterate source k s = .finished outcome ∧ iterate target n t = .finished outcome := by
  by_cases none : need = 0
  · exact ⟨0, 0, .inl ⟨s, t, by omega, rfl, rfl, start⟩⟩
  · have answered := sim.step s t start
    cases steps : source s with
    | stuck =>
        rw [steps] at answered
        exact answered.elim
    | finished outcome =>
        rw [steps] at answered
        obtain ⟨n, done⟩ := answered
        exact ⟨1, n, .inr ⟨outcome, by simp only [iterate, steps], done⟩⟩
    | next later =>
        rw [steps] at answered
        obtain ⟨n, t', runs, relates, progress⟩ := answered
        obtain ⟨k, m, caught⟩ := covers sim (need - n) later t' relates
        refine ⟨k + 1, n + m, ?_⟩
        rw [iterate_succ k s later steps, iterate_next n m t t' runs]
        rcases caught with ⟨s'', t'', enough, sourceRuns, targetRuns, lastRelated⟩ | ended
        · exact .inl ⟨s'', t'', by omega, sourceRuns, targetRuns, lastRelated⟩
        · exact .inr ended
termination_by (need, measure s)
decreasing_by
  by_cases still : n = 0
  · subst still
    rw [Nat.sub_zero]
    exact Prod.Lex.right _ (progress.resolve_left (Nat.lt_irrefl 0))
  · exact Prod.Lex.left _ _ (by omega)

def Accumulates (target : τ → Reaction τ) (targetWorld : τ → World) : Prop :=
  ∀ t, target t ≠ .stuck → (targetWorld t).history <+: (target t).history targetWorld

theorem Accumulates.steps (grows : Accumulates target targetWorld) (n : Nat) (t : τ)
    (safe : iterate target n t ≠ .stuck) :
    (targetWorld t).history <+: (iterate target n t).history targetWorld := by
  induction n generalizing t with
  | zero => exact List.prefix_refl _
  | succ n ih =>
      rw [iterate] at safe ⊢
      cases steps : target t with
      | stuck => simp [steps] at safe
      | finished outcome =>
          have first := grows t (by simp [steps])
          rwa [steps] at first
      | next later =>
          have first := grows t (by simp [steps])
          rw [steps] at first safe
          exact first.trans (ih later safe)

theorem Accumulates.up_to (grows : Accumulates target targetWorld) (n m : Nat) (t : τ) (le : n ≤ m)
    (safe : iterate target m t ≠ .stuck) :
    (iterate target n t).history targetWorld <+:
      (iterate target m t).history targetWorld := by
  obtain ⟨more, rfl⟩ := Nat.exists_eq_add_of_le le
  rw [iterate_add] at safe ⊢
  cases runs : iterate target n t with
  | stuck => simp [runs] at safe
  | finished outcome => exact List.prefix_refl _
  | next later =>
      rw [runs] at safe
      exact grows.steps more later safe

theorem Simulation.same_behaviour (sim : Simulation source sourceWorld target targetWorld related measure)
    (grows : Accumulates target targetWorld) (s : σ) (t t' : τ) (arrives : Reaches target t t')
    (start : related s t') : SameBehaviour source sourceWorld s target targetWorld t := by
  obtain ⟨first, enters⟩ := arrives
  have later (n : Nat) : iterate target (first + n) t = iterate target n t' :=
    iterate_next first n t t' enters
  have targetSafe : ∀ n, iterate target n t ≠ .stuck := by
    intro n runs
    obtain ⟨k, m, ⟨s', t'', enough, _, targetRuns, _⟩ | ⟨outcome, _, done⟩⟩ := sim.covers n s t' start
    · have stuck := iterate_stuck n (first + m) t (by omega) runs
      rw [later, targetRuns] at stuck
      cases stuck
    · have stuck := iterate_stuck n (first + (n + m)) t (by omega) runs
      rw [later, iterate_finished m (n + m) t' outcome (by omega) done] at stuck
      cases stuck
  refine ⟨?_, ?_, ?_, targetSafe⟩
  · intro outcome
    constructor
    · rintro ⟨k, ends⟩
      have answered := sim.forward k s t' start
      rw [ends] at answered
      obtain ⟨n, done⟩ := answered
      exact ⟨first + n, by rw [later, done]⟩
    · rintro ⟨n, ends⟩
      obtain ⟨k, m, ⟨s', t'', enough, _, targetRuns, _⟩ | ⟨other, sourceEnds, done⟩⟩ := sim.covers n s t' start
      · have finished := iterate_finished n (first + m) t outcome (by omega) ends
        rw [later, targetRuns] at finished
        cases finished
      · have finished := iterate_finished n (first + (n + m)) t outcome (by omega) ends
        rw [later, iterate_finished m (n + m) t' other (by omega) done] at finished
        cases finished
        exact ⟨k, sourceEnds⟩
  · intro events
    constructor
    · rintro ⟨k, shown⟩
      have answered := sim.forward k s t' start
      cases ends : iterate source k s with
      | stuck =>
          rw [ends] at answered
          exact answered.elim
      | finished outcome =>
          rw [ends] at answered shown
          obtain ⟨n, done⟩ := answered
          exact ⟨first + n, by rw [later, done]; exact shown⟩
      | next s' =>
          rw [ends] at answered shown
          obtain ⟨t'', ⟨n, runs⟩, relates⟩ := answered
          refine ⟨first + n, ?_⟩
          rw [later, runs, Reaction.history, sim.sameWorld s' t'' relates]
          exact shown
    · rintro ⟨n, shown⟩
      obtain ⟨k, m, ⟨s', t'', enough, sourceRuns, targetRuns, relates⟩ | ⟨outcome, sourceEnds, done⟩⟩ :=
        sim.covers n s t' start
      · refine ⟨k, shown.trans ?_⟩
        have grown := grows.up_to n (first + m) t (by omega) (targetSafe _)
        rw [later, targetRuns, Reaction.history, sim.sameWorld s' t'' relates] at grown
        rw [sourceRuns]
        exact grown
      · refine ⟨k, shown.trans ?_⟩
        have grown := grows.up_to n (first + (n + m)) t (by omega) (targetSafe _)
        rw [later, iterate_finished m (n + m) t' outcome (by omega) done] at grown
        rw [sourceEnds]
        exact grown
  · intro k stuck
    have answered := sim.forward k s t' start
    rw [stuck] at answered
    exact answered

end Simulation

end ThreeAddress
