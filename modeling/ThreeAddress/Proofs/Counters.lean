import Mathlib.Algebra.GroupWithZero.Nat
import ThreeAddress.Proofs.Maps
import ThreeAddress.Proofs.Steps

set_option autoImplicit false

namespace ThreeAddress.Handle

variable {k : Kind}

inductive Step where
  | incrementBy (amount : UInt64)
  | postIncrement
deriving DecidableEq

namespace Step

def amount : Step → Nat
  | .incrementBy amount => amount.toNat
  | .postIncrement => 1

def answer (counter : Handle k) : Step → Option (Handle k)
  | .incrementBy _ => none
  | .postIncrement => some counter

def perform : Step → Counting k (Option (Handle k))
  | .incrementBy amount => do
      Handle.incrementBy amount
      return none
  | .postIncrement => do
      let previous ← Handle.postIncrement
      return some previous

end Step

def settled {α : Type} : EStateM.Result Fault (Handle k) α → Except Fault α × Handle k
  | .ok answer counter => (.ok answer, counter)
  | .error fault counter => (.error fault, counter)

def run (counter : Handle k) : List Step → List (Except Fault (Option (Handle k))) × Handle k
  | [] => ([], counter)
  | step :: rest =>
      let (outcome, moved) := settled (step.perform counter)
      let (outcomes, last) := moved.run rest
      (outcome :: outcomes, last)

def passed {α : Type} (steps : List Step) (outcomes : List (Except Fault α)) : List Nat :=
  ((steps.zip outcomes).filter fun entry => entry.2.isOk).map fun entry => entry.1.amount

section Steps

variable (counter : Handle k)

theorem increment_by_run (amount : UInt64) :
    incrementBy amount counter =
      if counter.index + amount.toNat < 2 ^ 64 then .ok () (counter.raise amount.toNat)
      else .error .addOverflow counter := by
  have sum : counter.plus amount =
      if counter.index + amount.toNat < 2 ^ 64 then .ok (counter.raise amount.toNat)
      else .error .addOverflow := rfl
  rw [incrementBy, bind_of_ok get _ _ _ _ rfl, sum]
  by_cases fits : counter.index + amount.toNat < 2 ^ 64
  · rw [if_pos fits, if_pos fits]
    rfl
  · rw [if_neg fits, if_neg fits]
    rfl

theorem perform_run (step : Step) :
    step.perform counter =
      if counter.index + step.amount < 2 ^ 64 then .ok (step.answer counter) (counter.raise step.amount)
      else .error .addOverflow counter := by
  cases step with
  | incrementBy amount =>
      have added := increment_by_run counter amount
      rw [Step.amount, Step.perform]
      by_cases fits : counter.index + amount.toNat < 2 ^ 64
      · rw [if_pos fits] at added
        rw [if_pos fits, bind_of_ok _ _ _ _ _ added]
        rfl
      · rw [if_neg fits] at added
        rw [if_neg fits, bind_of_error _ _ _ _ _ added]
  | postIncrement =>
      have bound := counter.index_lt
      rw [Step.amount, if_pos (by omega), Step.perform, bind_of_ok _ _ _ _ _ (post_increment_run counter),
        next_eq_raise]
      rfl

theorem settled_perform (step : Step) :
    settled (step.perform counter) =
      if counter.index + step.amount < 2 ^ 64 then (.ok (step.answer counter), counter.raise step.amount)
      else (.error .addOverflow, counter) := by
  rw [perform_run]
  split <;> rfl

theorem settled_post_increment :
    settled (Step.postIncrement.perform counter) = (.ok (some counter), counter.next) := by
  rw [Step.perform, bind_of_ok _ _ _ _ _ (post_increment_run counter)]
  rfl

end Steps

theorem run_cons (start : Handle k) (step : Step) (rest : List Step) :
    start.run (step :: rest) =
      ((settled (step.perform start)).1 :: ((settled (step.perform start)).2.run rest).1,
        ((settled (step.perform start)).2.run rest).2) := rfl

theorem run_last (start : Handle k) (steps : List Step) :
    (start.run steps).2 = start.raise (passed steps (start.run steps).1).sum := by
  induction steps generalizing start with
  | nil => exact start.raise_zero.symm
  | cons step rest ih =>
      rw [run_cons, ih, settled_perform]
      by_cases fits : start.index + step.amount < 2 ^ 64
      · rw [if_pos fits, raise_raise]
        rfl
      · rw [if_neg fits]
        rfl

theorem run_append (start : Handle k) (front back : List Step) :
    start.run (front ++ back) =
      ((start.run front).1 ++ ((start.run front).2.run back).1, ((start.run front).2.run back).2) := by
  induction front generalizing start with
  | nil => rfl
  | cons step rest ih =>
      rw [List.cons_append, run_cons, ih]
      rfl

theorem length_run (start : Handle k) (steps : List Step) : (start.run steps).1.length = steps.length := by
  induction steps generalizing start with
  | nil => rfl
  | cons step rest ih => exact congrArg (· + 1) (ih _)

theorem run_outcome (start : Handle k) (steps : List Step) (place : Nat) (step : Step)
    (taken : steps[place]? = some step) :
    (start.run steps).1[place]? = some (settled (step.perform (start.run (steps.take place)).2)).1 := by
  induction steps generalizing start place with
  | nil => cases taken
  | cons first rest ih =>
      rw [run_cons]
      cases place with
      | zero =>
          cases taken
          rfl
      | succ place => exact ih _ place taken

theorem run_post_increments (start : Handle k) (count : Nat) :
    (start.run (List.replicate count .postIncrement)).1 =
      (List.range count).map fun place => .ok (some (start.raise place)) := by
  induction count generalizing start with
  | zero => rfl
  | succ count ih =>
      have shifted : ∀ place, start.next.raise place = start.raise (place + 1) := by
        intro place
        rw [next_eq_raise, raise_raise, Nat.add_comm]
      rw [List.replicate_succ, run_cons, settled_post_increment, ih, List.range_succ_eq_map, List.map_cons, List.map_map,
        raise_zero]
      simp only [shifted]
      rfl

structure CountsExactly (start : Handle k) (steps : List Step) : Prop where
  last : (start.run steps).2.index = (start.index + (passed steps (start.run steps).1).sum) % 2 ^ 32
  length : (start.run steps).1.length = steps.length
  faults : ∀ place step, steps[place]? = some step →
    ((∃ fault, (start.run steps).1[place]? = some (.error fault)) ↔
      2 ^ 64 ≤ (start.run (steps.take place)).2.index + step.amount)
  given : ∀ place, steps[place]? = some .postIncrement →
    (start.run steps).1[place]? = some (.ok (some (start.run (steps.take place)).2)) ∧
      (start.run (steps.take (place + 1))).2 = (start.run (steps.take place)).2.next
  repeated : (∀ step ∈ steps, step = .postIncrement) → ∀ i j, i ≤ j → j < steps.length →
    ((start.run steps).1[i]? = (start.run steps).1[j]? ↔ 2 ^ 32 ∣ j - i)

theorem counting_exact (start : Handle k) (steps : List Step) : CountsExactly start steps := by
  constructor
  case last => rw [run_last, raise, index_of_nat]
  case length => exact start.length_run steps
  case faults =>
    intro place step taken
    rw [start.run_outcome steps place step taken, settled_perform]
    split
    · rename_i fits
      simpa using fits
    · rename_i beyond
      simpa using beyond
  case given =>
    intro place taken
    constructor
    · rw [start.run_outcome steps place .postIncrement taken, settled_post_increment]
    · rw [List.take_add_one, taken, run_append, Option.toList_some, run_cons, settled_post_increment]
      rfl
  case repeated =>
    intro alone i j ordered inside
    have same := List.eq_replicate_of_mem alone
    rw [same, run_post_increments, List.getElem?_map, List.getElem?_map, List.getElem?_range inside,
      List.getElem?_range (Nat.lt_of_le_of_lt ordered inside)]
    simp only [Option.map_some, Option.some.injEq, Except.ok.injEq]
    constructor
    · intro equal
      have indices := congrArg index equal
      simp only [raise, index_of_nat] at indices
      omega
    · intro multiple
      apply index_injective
      simp only [raise, index_of_nat]
      omega

example : (ofNat 7 : Handle .label).run
      [.incrementBy 18446744073709551610, .postIncrement, .incrementBy 18446744073709551607, .incrementBy 4294967290] =
    ([.error .addOverflow, .ok (some (.ofNat 7)), .ok none, .ok none], .ofNat 4294967289) := rfl

end ThreeAddress.Handle
