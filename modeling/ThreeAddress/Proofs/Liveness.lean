import Mathlib.Data.List.Induction
import ThreeAddress.Proofs.Growth

set_option autoImplicit false

namespace ThreeAddress

structure Supplies (quads : List Quad) (temp : Temp) (i j : Nat) : Prop where
  before : i < j
  defines : ∃ quad, quads[i]? = some quad ∧ quad.instr.defines? = some (.temp temp)
  unlabelled : ∀ k quad, i < k → k ≤ j → quads[k]? = some quad → quad.labels = []
  straight : ∀ k quad, i ≤ k → k < j → quads[k]? = some quad → quad.instr.diverts = false

def Live (quads : List Quad) (temp : Temp) : Prop := ∃ i, Supplies quads temp i quads.length

theorem Supplies.append {quads : List Quad} {temp : Temp} {i j : Nat} (supplies : Supplies quads temp i j)
    (inside : j < quads.length) (more : List Quad) : Supplies (quads ++ more) temp i j := by
  obtain ⟨quad, found, defined⟩ := supplies.defines
  have same : ∀ k, k ≤ j → (quads ++ more)[k]? = quads[k]? := fun k bound =>
    List.getElem?_append_left (by omega)
  refine ⟨supplies.before, ⟨quad, ?_, defined⟩, ?_, ?_⟩
  · rw [same i (by have := supplies.before; omega)]
    exact found
  · intro k quad above below at_
    exact supplies.unlabelled k quad above below (same k below ▸ at_)
  · intro k quad above below at_
    exact supplies.straight k quad above below (same k (by omega) ▸ at_)

theorem Live.at_end {quads : List Quad} {temp : Temp} (live : Live quads temp) (instr : Instr) :
    ∃ i, Supplies (quads ++ [.plain instr]) temp i quads.length := by
  obtain ⟨i, supplies⟩ := live
  obtain ⟨quad, found, defined⟩ := supplies.defines
  have bound := supplies.before
  refine ⟨i, bound, ⟨quad, ?_, defined⟩, ?_, ?_⟩
  · rw [List.getElem?_append_left bound]
    exact found
  · intro k quad above below at_
    rcases get_elem?_concat_cases _ _ quad k at_ with ⟨_, at_⟩ | ⟨_, rfl⟩
    · exact supplies.unlabelled k quad above below at_
    · rfl
  · intro k quad above below at_
    rw [List.getElem?_append_left below] at at_
    exact supplies.straight k quad above below at_

theorem Live.append {quads : List Quad} {temp : Temp} (live : Live quads temp) (instr : Instr)
    (straight : instr.diverts = false) : Live (quads ++ [.plain instr]) temp := by
  obtain ⟨i, supplies⟩ := live.at_end instr
  have bound := supplies.before
  rw [Live, List.length_append, List.length_singleton]
  refine ⟨i, by omega, supplies.defines, ?_, ?_⟩
  · intro k quad above below at_
    by_cases past : k = quads.length + 1
    · subst past
      rw [List.getElem?_eq_none (by simp)] at at_
      cases at_
    · exact supplies.unlabelled k quad above (by omega) at_
  · intro k quad above below at_
    by_cases last : k = quads.length
    · subst last
      rw [List.getElem?_concat_length] at at_
      cases at_
      exact straight
    · exact supplies.straight k quad above (by omega) at_

theorem live_defined (quads : List Quad) (instr : Instr) (temp : Temp) (straight : instr.diverts = false)
    (defined : instr.defines? = some (.temp temp)) : Live (quads ++ [.plain instr]) temp := by
  rw [Live, List.length_append, List.length_singleton]
  refine ⟨quads.length, Nat.lt_succ_self _, ⟨_, List.getElem?_concat_length, defined⟩, ?_, ?_⟩
  · intro k quad above below at_
    rw [List.getElem?_eq_none (by simp; omega)] at at_
    cases at_
  · intro k quad above below at_
    obtain rfl : k = quads.length := by omega
    rw [List.getElem?_concat_length] at at_
    cases at_
    exact straight

theorem Live.straight {before after : Builder} {temp : Temp} (live : Live before.quads temp)
    (straight : Builder.Straight before after) : Live after.quads temp := by
  obtain ⟨code, quads, computes⟩ := straight.code
  rw [quads]
  clear quads
  induction code using List.reverseRecOn with
  | nil => simpa using live
  | append_singleton front instr ih =>
      rw [List.map_append, ← List.append_assoc]
      refine Live.append (ih fun other member => computes other (by simp [member])) instr ?_
      exact Instr.computes_straight instr (computes instr (by simp))

def Ready (quads : List Quad) (operand : Operand) : Prop := ∀ temp, operand = .temp temp → Live quads temp

theorem Ready.append {quads : List Quad} {operand : Operand} (ready : Ready quads operand) (instr : Instr)
    (straight : instr.diverts = false) : Ready (quads ++ [.plain instr]) operand :=
  fun temp same => (ready temp same).append instr straight

theorem Ready.straight {before after : Builder} {operand : Operand} (ready : Ready before.quads operand)
    (straight : Builder.Straight before after) : Ready after.quads operand :=
  fun temp same => (ready temp same).straight straight

theorem ready_literal (quads : List Quad) (value : Literal) (width : Nat) :
    Ready quads (.literal value width) := by
  intro temp same
  cases same

theorem ready_slot (quads : List Quad) (place : Slot) : Ready quads (.slot place) := by
  intro temp same
  cases same

end ThreeAddress
