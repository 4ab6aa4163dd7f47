import ThreeAddress.Proofs.Preservation
import ThreeAddress.Proofs.Temporaries

set_option autoImplicit false

namespace ThreeAddress

open Lower

def Carries (quads : List Quad) (label : Handle .label) (i : Nat) : Prop :=
  ∃ quad, quads[i]? = some quad ∧ label ∈ quad.labels

theorem Carries.mono {quads more : List Quad} {label : Handle .label} {i : Nat} (carries : Carries quads label i)
    (grown : quads <+: more) : Carries more label i := by
  obtain ⟨quad, found, carried⟩ := carries
  obtain ⟨rest, rfl⟩ := grown
  refine ⟨quad, ?_, carried⟩
  rw [List.getElem?_append_left (List.getElem?_eq_some_iff.mp found).1]
  exact found

theorem carries_last (quads : List Quad) (quad : Quad) (label : Handle .label) (carried : label ∈ quad.labels) :
    Carries (quads ++ [quad]) label quads.length := ⟨quad, List.getElem?_concat_length, carried⟩

/- The jumps of a piece of code: those at `backs` go to a label before them, and every other one
   to a label behind it or to one that is still to be placed. -/
structure Routed (pending : List (Handle .label)) (quads : List Quad) (backs : List Nat) : Prop where
  distinct : backs.Nodup
  back : ∀ i ∈ backs, ∃ label j, quads[i]? = some (.plain (.goto label)) ∧ j < i ∧ Carries quads label j
  forth : ∀ i quad label, quads[i]? = some quad → quad.jumpTarget? = some label → i ∉ backs →
    label ∈ pending ∨ ∃ j, i < j ∧ Carries quads label j

namespace Routed

variable {pending later : List (Handle .label)} {quads : List Quad} {backs : List Nat}

theorem nil : Routed [] [] [] := by
  refine ⟨List.nodup_nil, ?_, ?_⟩
  · intro i member
    cases member
  · intro i quad label found
    cases found

theorem back_append (routed : Routed pending quads backs) (quad : Quad) :
    ∀ i ∈ backs, ∃ label j, (quads ++ [quad])[i]? = some (.plain (.goto label)) ∧ j < i ∧
      Carries (quads ++ [quad]) label j := by
  intro i member
  obtain ⟨label, j, found, before, carries⟩ := routed.back i member
  refine ⟨label, j, ?_, before, carries.mono (List.prefix_append _ _)⟩
  rw [List.getElem?_append_left (List.getElem?_eq_some_iff.mp found).1]
  exact found

-- The next quad settles the labels that it carries and may ask for further ones.
theorem push (routed : Routed pending quads backs) (quad : Quad)
    (settled : ∀ label ∈ pending, label ∈ quad.labels ∨ label ∈ later)
    (asked : ∀ label, quad.jumpTarget? = some label → label ∈ later) : Routed later (quads ++ [quad]) backs := by
  refine ⟨routed.distinct, routed.back_append quad, ?_⟩
  intro i found label at_ jumps other
  rcases get_elem?_concat_cases quads quad found i at_ with ⟨inside, at_⟩ | ⟨_, rfl⟩
  · rcases routed.forth i found label at_ jumps other with waiting | ⟨j, after, carries⟩
    · rcases settled label waiting with carried | waits
      · exact .inr ⟨quads.length, inside, carries_last quads quad label carried⟩
      · exact .inl waits
    · exact .inr ⟨j, after, carries.mono (List.prefix_append _ _)⟩
  · exact .inl (asked label jumps)

theorem still (routed : Routed pending quads backs) (instr : Instr) (stays : instr.jumpTarget? = none) :
    Routed pending (quads ++ [.plain instr]) backs := by
  apply routed.push
  · exact fun label waiting => .inr waiting
  · intro label jumps
    cases stays.symm.trans jumps

theorem jump (routed : Routed pending quads backs) (instr : Instr) (label : Handle .label)
    (jumps : instr.jumpTarget? = some label) : Routed (label :: pending) (quads ++ [.plain instr]) backs := by
  apply routed.push
  · exact fun other waiting => .inr (List.mem_cons_of_mem label waiting)
  · intro other target
    cases jumps.symm.trans target
    exact List.mem_cons_self

theorem loop (routed : Routed pending quads backs) (label : Handle .label) (i : Nat)
    (carries : Carries quads label i) :
    Routed pending (quads ++ [.plain (.goto label)]) (backs ++ [quads.length]) := by
  have inside : i < quads.length := (List.getElem?_eq_some_iff.mp carries.choose_spec.1).1
  refine ⟨?_, ?_, ?_⟩
  · rw [List.nodup_append]
    refine ⟨routed.distinct, List.nodup_singleton _, ?_⟩
    intro a old b new
    obtain ⟨_, _, found, _⟩ := routed.back a old
    have below := (List.getElem?_eq_some_iff.mp found).1
    rw [List.mem_singleton.mp new]
    omega
  · intro k member
    rcases List.mem_append.mp member with old | new
    · exact routed.back_append _ k old
    · rw [List.mem_singleton.mp new]
      exact ⟨label, i, List.getElem?_concat_length, inside, carries.mono (List.prefix_append _ _)⟩
  · intro k found other at_ jumps apart
    rw [List.mem_append, List.mem_singleton, not_or] at apart
    rcases get_elem?_concat_cases quads _ found k at_ with ⟨_, at_⟩ | ⟨here, _⟩
    · refine (routed.forth k found other at_ jumps apart.1).imp_right ?_
      rintro ⟨j, after, carried⟩
      exact ⟨j, after, carried.mono (List.prefix_append _ _)⟩
    · exact absurd here apart.2

theorem plain (routed : Routed pending quads backs) (code : List Instr)
    (stays : ∀ instr ∈ code, instr.jumpTarget? = none) : Routed pending (quads ++ code.map .plain) backs := by
  induction code generalizing quads with
  | nil => simpa using routed
  | cons instr tail ih =>
      have next := ih (routed.still instr (stays instr List.mem_cons_self)) fun other member =>
        stays other (List.mem_cons_of_mem instr member)
      rwa [List.append_assoc] at next

theorem place (routed : Routed pending quads backs) (label : Handle .label) (later : List (Handle .label))
    (settled : ∀ other ∈ pending, other = label ∨ other ∈ later) : Routed later (quads ++ [.landing label]) backs := by
  apply routed.push
  · exact fun other waiting => (settled other waiting).imp_left fun same => List.mem_singleton.mpr same
  · intro other target
    cases target

end Routed

theorem Layout.routed {first count loops : Nat} {code : List Quad} (layout : Layout first count loops code)
    (pending : List (Handle .label)) (quads : List Quad) (backs : List Nat) (routed : Routed pending quads backs) :
    ∃ new, new.length = loops ∧ Routed pending (quads ++ code) (backs ++ new) := by
  induction layout generalizing pending quads backs with
  | plain first code still =>
      refine ⟨[], rfl, ?_⟩
      rw [List.append_nil]
      exact routed.plain code still
  | append first a b m n code more front back left right =>
      obtain ⟨new, count, halfway⟩ := left pending quads backs routed
      obtain ⟨others, further, done⟩ := right pending _ _ halfway
      refine ⟨new ++ others, by rw [List.length_append, count, further], ?_⟩
      rwa [List.append_assoc, List.append_assoc] at done
  | skip first count loops cond body inside ih =>
      obtain ⟨new, count, through⟩ := ih _ _ _ (routed.jump (.ifZero cond (.ofNat first)) _ rfl)
      refine ⟨new, count, ?_⟩
      have landed := through.place (.ofNat first) pending (by grind)
      simpa using landed
  | choose first a b m n cond positive negative taken missed left right =>
      obtain ⟨new, count, chosen⟩ := left _ _ _ (routed.jump (.ifZero cond (.ofNat first)) _ rfl)
      have landed := (chosen.jump (.goto (.ofNat (first + 1))) _ rfl).place (.ofNat first) (.ofNat (first + 1) :: pending)
        (by grind)
      obtain ⟨others, further, done⟩ := right _ _ _ landed
      have left := done.place (.ofNat (first + 1)) pending (by grind)
      refine ⟨new ++ others, by rw [List.length_append, count, further], ?_⟩
      simpa using left
  | loop first count loops cond test still body inside ih =>
      have headed := routed.place (.ofNat first) pending fun label waiting => .inr waiting
      have tested := (headed.plain test still).jump (.ifZero cond (.ofNat (first + 1))) _ rfl
      obtain ⟨new, count, looped⟩ := ih _ _ _ tested
      -- The head stands where the loop began, and all code since then was added behind it.
      have head := carries_last quads (.landing (.ofNat first)) _ (List.mem_singleton_self _)
      have since := ((List.prefix_append (quads ++ [.landing (.ofNat first)]) (test.map .plain)).trans
        (List.prefix_append _ [.plain (.ifZero cond (.ofNat (first + 1)))])).trans (List.prefix_append _ body)
      have left := (looped.loop (.ofNat first) _ (head.mono since)).place (.ofNat (first + 1)) pending (by grind)
      simp only [List.append_assoc] at left
      refine ⟨_, ?_, left⟩
      rw [List.length_append, count, List.length_singleton]

theorem Function.lower_loops (definition : Function) (session : Session) (builder : Builder)
    (lowered : definition.lower (session.openProcedure definition.symbol.name) = .ok () builder) :
    ∃ backs, backs.length = Stmt.loopsAll definition.body ∧ Routed [] builder.quads backs := by
  have layout := definition.lower_lays session builder _ lowered (Handle.of_nat_index _).symm
  exact layout.routed [] [] [] Routed.nil

theorem Carries.unique {quads : List Quad} (distinct : (quads.flatMap Quad.labels).Nodup) {label : Handle .label}
    {i j : Nat} (carries : Carries quads label i) (other : Carries quads label j) : i = j := by
  obtain ⟨quad, found, carried⟩ := carries
  obtain ⟨same, there, too⟩ := other
  obtain ⟨inside, rfl⟩ := List.getElem?_eq_some_iff.mp found
  obtain ⟨within, rfl⟩ := List.getElem?_eq_some_iff.mp there
  have apart := List.pairwise_iff_getElem.mp (List.nodup_flatMap.mp distinct).2
  rcases Nat.lt_trichotomy i j with before | here | after
  · exact absurd too (apart i j inside within before carried)
  · exact here
  · exact absurd carried (apart j i within inside after too)

def instrAt (quads : List Quad) (i : Nat) : Option Instr := quads[i]?.map Quad.instr

def goesBack (quads : List Quad) (i : Nat) : Bool :=
  match instrAt quads i with
  | some (.goto label) => (quads.take i).any fun quad => quad.labels.contains label
  | _ => false

def backEdges (quads : List Quad) : List Nat := (List.range quads.length).filter (goesBack quads)

theorem carried_before (quads : List Quad) (label : Handle .label) (i : Nat) :
    ((quads.take i).any fun quad => quad.labels.contains label) = true ↔ ∃ j, j < i ∧ Carries quads label j := by
  rw [List.any_eq_true]
  constructor
  · rintro ⟨quad, member, carried⟩
    obtain ⟨j, inside, rfl⟩ := List.mem_take_iff_getElem.mp member
    exact ⟨j, by omega, quads[j], List.getElem?_eq_getElem (by omega), List.contains_iff_mem.mp carried⟩
  · rintro ⟨j, before, quad, found, carried⟩
    obtain ⟨inside, rfl⟩ := List.getElem?_eq_some_iff.mp found
    exact ⟨quads[j], List.mem_take_iff_getElem.mpr ⟨j, by omega, rfl⟩, List.contains_iff_mem.mpr carried⟩

theorem goes_back_iff (quads : List Quad) (i : Nat) :
    goesBack quads i = true ↔
      ∃ label, instrAt quads i = some (.goto label) ∧ ∃ j, j < i ∧ Carries quads label j := by
  unfold goesBack
  split
  · rename_i label found
    rw [carried_before, found]
    constructor
    · exact fun earlier => ⟨label, rfl, earlier⟩
    · rintro ⟨_, same, earlier⟩
      cases same
      exact earlier
  · rename_i other
    constructor
    · intro holds
      cases holds
    · rintro ⟨label, found, _⟩
      exact absurd found (other label)

def SitsAt (quads : List Quad) (label : Handle .label) (j : Nat) : Prop := ∀ k, Carries quads label k ↔ k = j

structure ControlFlow (quads : List Quad) (loops : Nat) : Prop where
  tests : ∀ i cond label, instrAt quads i = some (.ifZero cond label) → ∃ j, SitsAt quads label j ∧ i < j
  gotos : ∀ i label, instrAt quads i = some (.goto label) →
    ∃ j, SitsAt quads label j ∧ (i ∈ backEdges quads ∧ j < i ∨ i < j)
  loops : (backEdges quads).length = loops

section ControlFlow

variable {quads : List Quad} {backs : List Nat} (routed : Routed [] quads backs)
  (distinct : (quads.flatMap Quad.labels).Nodup)

include distinct in
theorem Carries.sits_at {label : Handle .label} {j : Nat} (carries : Carries quads label j) : SitsAt quads label j := by
  intro k
  constructor
  · exact fun other => other.unique distinct carries
  · rintro rfl
    exact carries

include routed in
theorem Routed.forward (i : Nat) (instr : Instr) (label : Handle .label) (found : instrAt quads i = some instr)
    (jumps : instr.jumpTarget? = some label) (other : i ∉ backs) : ∃ j, i < j ∧ Carries quads label j := by
  obtain ⟨quad, here, rfl⟩ := Option.map_eq_some_iff.mp found
  exact (routed.forth i quad label here jumps other).resolve_left List.not_mem_nil

include routed in
theorem Routed.backward (i : Nat) (listed : i ∈ backs) :
    ∃ label, instrAt quads i = some (.goto label) ∧ ∃ j, j < i ∧ Carries quads label j := by
  obtain ⟨label, j, found, before, carries⟩ := routed.back i listed
  exact ⟨label, by rw [instrAt, found]; rfl, j, before, carries⟩

include routed distinct

theorem Routed.mem_back_edges (i : Nat) : i ∈ backEdges quads ↔ i ∈ backs := by
  rw [backEdges, List.mem_filter, List.mem_range, goes_back_iff]
  constructor
  · rintro ⟨_, label, found, j, before, carries⟩
    by_contra other
    obtain ⟨k, after, carried⟩ := routed.forward i _ label found rfl other
    have same := carries.unique distinct carried
    omega
  · intro listed
    have backward := routed.backward i listed
    obtain ⟨_, _, found, _⟩ := routed.back i listed
    exact ⟨(List.getElem?_eq_some_iff.mp found).1, backward⟩

theorem Routed.control_flow : ControlFlow quads backs.length := by
  refine ⟨?_, ?_, ?_⟩
  · intro i cond label found
    have other : i ∉ backs := by
      intro listed
      obtain ⟨_, goto, _⟩ := routed.backward i listed
      cases found.symm.trans goto
    obtain ⟨j, after, carries⟩ := routed.forward i _ label found rfl other
    exact ⟨j, carries.sits_at distinct, after⟩
  · intro i label found
    by_cases listed : i ∈ backs
    · obtain ⟨same, goto, j, before, carries⟩ := routed.backward i listed
      cases found.symm.trans goto
      exact ⟨j, carries.sits_at distinct, .inl ⟨(routed.mem_back_edges distinct i).mpr listed, before⟩⟩
    · obtain ⟨j, after, carries⟩ := routed.forward i _ label found rfl listed
      exact ⟨j, carries.sits_at distinct, .inr after⟩
  · have edges : (backEdges quads).Nodup := List.nodup_range.filter _
    exact ((List.perm_ext_iff_of_nodup edges routed.distinct).mpr (routed.mem_back_edges distinct)).length_eq

end ControlFlow

theorem Machine.jump_flows (setting : Setting) (machine : Machine) (quad : Quad) (label : Handle .label)
    (here : setting.code[machine.pc]? = some quad) (jumps : quad.jumpTarget? = some label) (i : Nat)
    (carries : Carries setting.code label i) :
    ∃ later, machine.jump setting label = .next later ∧ Flows setting.code machine.pc later.pc := by
  obtain ⟨target, found, carried⟩ := carries
  cases located : setting.find? label with
  | none =>
      have absent := List.findIdx?_eq_none_iff.mp located target (List.mem_of_getElem? found)
      rw [List.contains_iff_mem.mpr carried] at absent
      cases absent
  | some j =>
      obtain ⟨inside, holds, _⟩ := List.findIdx?_eq_some_iff_getElem.mp located
      refine ⟨{ machine with pc := j }, by rw [Machine.jump, located], quad, here, .inr ?_⟩
      exact ⟨label, setting.code[j], jumps, List.getElem?_eq_getElem inside, List.contains_iff_mem.mp holds⟩

theorem Machine.step_flows (setting : Setting) (machine : Machine) (quad : Quad)
    (here : setting.code[machine.pc]? = some quad)
    (placed : ∀ label, quad.jumpTarget? = some label → ∃ i, Carries setting.code label i) :
    (∃ later, machine.step setting = .next later ∧ Flows setting.code machine.pc later.pc) ∨
      ∃ outcome, machine.step setting = .finished outcome := by
  obtain ⟨labels, instr⟩ := quad
  have next : ∀ later : Machine, instr.fallsThrough = true → later.pc = machine.pc + 1 →
      Flows setting.code machine.pc later.pc := fun later falls moved => ⟨_, here, .inl ⟨falls, moved⟩⟩
  rw [machine.step_quad setting _ here]
  cases instr with
  | ifZero cond label =>
      obtain ⟨i, carries⟩ := placed label rfl
      rw [Machine.execute]
      by_cases zero : machine.value setting cond = 0
      · rw [if_pos zero]
        exact .inl (machine.jump_flows setting _ label here rfl i carries)
      · rw [if_neg zero]
        exact .inl ⟨_, rfl, next _ rfl rfl⟩
  | goto label =>
      obtain ⟨i, carries⟩ := placed label rfl
      exact .inl (machine.jump_flows setting _ label here rfl i carries)
  | ret => exact .inr ⟨_, rfl⟩
  | nop | call | setArg | setRet | write => exact .inl ⟨_, rfl, next _ rfl rfl⟩
  | assign | unary | binary | getArg | getRet | magic | read =>
      exact .inl ⟨_, rfl, next _ rfl (by simp [Machine.advance])⟩

/- Control may take any path and the machine may run on any values. `visited` and `n` count the
   quads that were executed; where control has not passed the end there is one more. -/
structure Ends (quads : List Quad) : Prop where
  paths : ∀ visited j, Path quads visited j →
    visited.length ≤ quads.length ∧ (j < quads.length → visited.length < quads.length)
  runs : ∀ (setting : Setting) (machine : Machine), setting.code = quads → machine.pc = 0 →
    ∃ n last outcome, iterate (Machine.step setting) n machine = .next last ∧
      last.step setting = .finished outcome ∧ n ≤ quads.length ∧ (last.pc < quads.length → n < quads.length)

section LoopFree

variable {quads : List Quad} (flow : ControlFlow quads 0)

include flow

theorem ControlFlow.forward (i : Nat) (quad : Quad) (label : Handle .label) (here : quads[i]? = some quad)
    (jumps : quad.jumpTarget? = some label) : ∃ j, SitsAt quads label j ∧ i < j := by
  have none : backEdges quads = [] := List.length_eq_zero_iff.mp flow.loops
  obtain ⟨labels, instr⟩ := quad
  have found : instrAt quads i = some instr := by
    rw [instrAt, here]
    rfl
  cases instr with
  | ifZero cond target =>
      cases jumps
      exact flow.tests i cond label found
  | goto target =>
      cases jumps
      obtain ⟨j, sits, ⟨listed, _⟩ | after⟩ := flow.gotos i label found
      · rw [none] at listed
        cases listed
      · exact ⟨j, sits, after⟩
  | assign | unary | binary | nop | call | setArg | getArg | setRet | getRet | ret | magic | write | read => cases jumps

theorem ControlFlow.flows {i j : Nat} (flows : Flows quads i j) : i < j ∧ j ≤ quads.length := by
  obtain ⟨quad, here, ⟨_, rfl⟩ | ⟨label, target, jumps, lands, carried⟩⟩ := flows
  · exact ⟨Nat.lt_succ_self i, (List.getElem?_eq_some_iff.mp here).1⟩
  · obtain ⟨k, sits, after⟩ := flow.forward i quad label here jumps
    have same := (sits j).mp ⟨target, lands, carried⟩
    have inside := (List.getElem?_eq_some_iff.mp lands).1
    omega

theorem ControlFlow.path {visited : List Nat} {j : Nat} (path : Path quads visited j) :
    visited.length ≤ j ∧ j ≤ quads.length := by
  induction path with
  | entry => exact ⟨Nat.le_refl 0, Nat.zero_le _⟩
  | step visited i j start flows ih =>
      have forward := flow.flows flows
      rw [List.length_append, List.length_singleton]
      exact ⟨by omega, forward.2⟩

theorem ControlFlow.run (setting : Setting) (code : setting.code = quads) (machine : Machine)
    (inside : machine.pc ≤ quads.length) :
    ∃ n last outcome, iterate (Machine.step setting) n machine = .next last ∧
      last.step setting = .finished outcome ∧ machine.pc + n ≤ last.pc ∧ last.pc ≤ quads.length := by
  cases here : setting.code[machine.pc]? with
  | none => exact ⟨0, machine, _, rfl, by rw [Machine.step, here]; rfl, Nat.le_refl _, inside⟩
  | some quad =>
      have placed : ∀ label, quad.jumpTarget? = some label → ∃ i, Carries setting.code label i := by
        intro label jumps
        obtain ⟨j, sits, _⟩ := flow.forward machine.pc quad label (code ▸ here) jumps
        exact ⟨j, code ▸ (sits j).mpr rfl⟩
      rcases machine.step_flows setting quad here placed with ⟨later, steps, flows⟩ | ⟨outcome, ends⟩
      · have forward := flow.flows (code ▸ flows)
        obtain ⟨n, last, outcome, ran, ends, further, stays⟩ := ControlFlow.run setting code later forward.2
        refine ⟨n + 1, last, outcome, ?_, ends, by omega, stays⟩
        rw [iterate_succ n machine later steps, ran]
      · exact ⟨0, machine, outcome, rfl, ends, Nat.le_refl _, inside⟩
termination_by quads.length - machine.pc

theorem ControlFlow.ends : Ends quads := by
  constructor
  · intro visited j path
    have bounds := flow.path path
    exact ⟨by omega, fun inside => by omega⟩
  · intro setting machine code starts
    obtain ⟨n, last, outcome, ran, ends, further, stays⟩ := flow.run setting code machine (by omega)
    exact ⟨n, last, outcome, ran, ends, by omega, fun inside => by omega⟩

end LoopFree

theorem lowered_back_edges (decls : List Decl) (program : Program) (log : Array Event)
    (few : (functions decls).length < 2 ^ 32 - 1) (fits : labelCount decls < 2 ^ 32)
    (accepted : lower decls = (.ok program, log)) (index : Nat) (procedure : Procedure)
    (listed : program.procedures.items[index]? = some procedure) :
    ∃ body, (bodies decls)[index]? = some body ∧
      ControlFlow procedure.quads.toList (Stmt.loopsAll body) ∧
      (Stmt.loopsAll body = 0 → Ends procedure.quads.toList) := by
  obtain ⟨session, runs, rfl⟩ := runs_of_accepted decls program log (by omega) accepted
  rw [← Array.getElem?_toList] at listed
  obtain ⟨body, found, entry⟩ := runs.procedure_body index procedure listed
  have flow : ControlFlow procedure.quads.toList (Stmt.loopsAll body) := by
    rcases entry with ⟨rfl, rfl⟩ | ⟨earlier, definition, later, middle, builder, rfl, rfl, _, lowered, rfl⟩
    · exact Routed.nil.control_flow List.nodup_nil
    · rw [labelCount, functions_append, List.map_append, List.map_cons, List.sum_append, List.sum_cons] at fits
      have distinct := definition.lower_distinct middle builder lowered (by omega)
      obtain ⟨backs, count, routed⟩ := definition.lower_loops middle builder lowered
      rw [← count]
      exact routed.control_flow distinct
  exact ⟨body, found, flow, fun none => ControlFlow.ends (none ▸ flow)⟩

theorem sample_back_edges :
    ∃ program log halve main, lower Sample.program = (.ok program, log) ∧
      program.procedures.items[1]? = some halve ∧ Ends halve.quads.toList ∧
      program.procedures.items[2]? = some main ∧ ControlFlow main.quads.toList 1 := by
  obtain ⟨program, log, accepted⟩ := Sample.accepted
  obtain ⟨halve, first⟩ := listed_of_lt Sample.program program log accepted 1 (by decide +kernel)
  obtain ⟨main, second⟩ := listed_of_lt Sample.program program log accepted 2 (by decide +kernel)
  obtain ⟨_, straight, _, ends⟩ :=
    lowered_back_edges Sample.program program log (by decide) (by decide) accepted 1 halve first
  obtain ⟨_, looping, flow, _⟩ :=
    lowered_back_edges Sample.program program log (by decide) (by decide) accepted 2 main second
  cases straight
  cases looping
  exact ⟨program, log, halve, main, accepted, first, ends (by decide), second, flow⟩

end ThreeAddress
