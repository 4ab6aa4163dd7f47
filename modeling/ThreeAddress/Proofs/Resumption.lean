import Mathlib.Data.List.Nodup
import ThreeAddress.Proofs.Simulation

set_option autoImplicit false

namespace ThreeAddress

open Lower

namespace Builder

theorem slot?_bind_local (builder : Builder) (symbol : Symbol) (id : Handle .symbol) :
    (builder.bindLocal symbol).slot? id =
      if id = symbol.id then some (.ofSymbol symbol) else builder.slot? id := by
  simp only [slot?, bindLocal, Procedure.bindLocal, Procedure.slot?, HandleMap.get?_insert]
  split <;> rfl

theorem slot?_bind_formal (builder : Builder) (symbol : Symbol) (id : Handle .symbol) :
    (builder.bindFormal symbol).slot? id =
      if id = symbol.id then some (.ofSymbol symbol) else builder.slot? id :=
  builder.slot?_bind_local symbol id

theorem bound_keyed {before after : Handle .symbol → Option Slot} (symbol : Symbol)
    (slots : ∀ id, after id = if id = symbol.id then some (.ofSymbol symbol) else before id)
    (keyed : ∀ id slot, before id = some slot → slot.symbol = id) :
    ∀ id slot, after id = some slot → slot.symbol = id := by
  intro id slot found
  rw [slots] at found
  by_cases same : id = symbol.id
  · rw [if_pos same] at found
    cases found
    exact same.symm
  · rw [if_neg same] at found
    exact keyed id slot found

theorem Builds.keyed {before after : Builder} (step : Builds before after) (keyed : before.Keyed) : after.Keyed := by
  cases step with
  | emit | temp | string | label | place => exact keyed
  | bindLocal symbol => exact bound_keyed symbol (before.slot?_bind_local symbol) keyed
  | bindFormal symbol => exact bound_keyed symbol (before.slot?_bind_formal symbol) keyed

theorem Trace.keyed {marks : List Mark} {before after : Builder} (trace : Trace before marks after)
    (keyed : before.Keyed) : after.Keyed := trace.builds_keep (fun _ _ step => step.keyed) keyed

end Builder

theorem Stmt.lower_keyed (stmt : Stmt) (before after : Builder) (lowered : stmt.lower before = .ok () after)
    (keyed : before.Keyed) : after.Keyed := (stmt.lower_trace before after lowered).keyed keyed

theorem Stmt.lower_all_keyed (stmts : List Stmt) (before after : Builder)
    (lowered : Stmt.lowerAll stmts before = .ok () after) (keyed : before.Keyed) : after.Keyed :=
  (Stmt.lower_all_trace stmts before after lowered).keyed keyed

theorem find_landing (setting : Setting) (distinct : (setting.code.flatMap Quad.labels).Nodup) (target : Nat)
    (label : Handle .label) (lands : setting.code[target]? = some (.landing label)) :
    setting.find? label = some target := by
  obtain ⟨inside, here⟩ := List.getElem?_eq_some_iff.mp lands
  rw [Setting.find?, List.findIdx?_eq_some_iff_getElem]
  refine ⟨inside, by simp [here, Quad.landing], ?_⟩
  intro earlier before carries
  have apart := List.pairwise_iff_getElem.mp (List.nodup_flatMap.mp distinct).2 earlier target
    (Nat.lt_trans before inside) inside before
  refine apart (List.contains_iff_mem.mp carries) ?_
  rw [here]
  exact List.mem_singleton_self label

theorem Expr.lower_place (dst : Expr) (before after : Builder) (target : Operand)
    (lowered : dst.lower before = .ok target after) (keyed : before.Keyed) (machine : Machine) (value : Word) :
    (machine.put target value).store = machine.store.assign dst value := by
  cases dst with
  | int type literal =>
      obtain ⟨rfl, _⟩ := (Expr.lower_int ..).mp lowered
      rfl
  | bool type literal =>
      obtain ⟨rfl, _⟩ := (Expr.lower_bool ..).mp lowered
      rfl
  | string type text =>
      obtain ⟨rfl, _⟩ := (Expr.lower_string ..).mp lowered
      rfl
  | eh type =>
      obtain ⟨rfl, _⟩ := (Expr.lower_eh ..).mp lowered
      rfl
  | name type symbol =>
      obtain ⟨slot, found, rfl, _⟩ := (Expr.lower_name ..).mp lowered
      simp only [Machine.put, Store.assign]
      rw [keyed symbol.id slot found]
  | call type callee args =>
      obtain ⟨result, operands, middle, _, _, _, rfl, _⟩ := (Expr.lower_call ..).mp lowered
      rfl
  | unary type op operand =>
      obtain ⟨src, middle, _, rfl, _⟩ := (Expr.lower_unary ..).mp lowered
      rfl
  | binary type op lhs rhs =>
      obtain ⟨pair, middle, _, rfl, _⟩ := (Expr.lower_binary ..).mp lowered
      rfl

inductive Resumes (setting : Setting) : Nat → List Stmt → Prop where
  | done (pc : Nat) (past : setting.code.length ≤ pc) : Resumes setting pc []
  | stmt (pc : Nat) (stmt : Stmt) (rest : List Stmt) (seen : List String) (before after : Builder)
      (here : pc = before.quads.length) (lowered : stmt.lower before = .ok () after)
      (installed : Installed setting seen stmt.texts before after)
      (next : Resumes setting after.quads.length rest) : Resumes setting pc (stmt :: rest)
  | goto (pc target : Nat) (label : Handle .label) (rest : List Stmt)
      (found : setting.code[pc]? = some (.plain (.goto label)))
      (lands : setting.code[target]? = some (.landing label)) (next : Resumes setting target rest) :
      Resumes setting pc rest
  | land (pc : Nat) (label : Handle .label) (rest : List Stmt)
      (found : setting.code[pc]? = some (.landing label)) (next : Resumes setting (pc + 1) rest) :
      Resumes setting pc rest

theorem Resumes.block {setting : Setting} (stmts rest : List Stmt) (seen : List String) (before after : Builder)
    (lowered : Stmt.lowerAll stmts before = .ok () after)
    (installed : Installed setting seen (Stmt.textsAll stmts) before after)
    (next : Resumes setting after.quads.length rest) : Resumes setting before.quads.length (stmts ++ rest) := by
  induction stmts generalizing before seen with
  | nil =>
      obtain rfl := (Stmt.lower_all_nil ..).mp lowered
      exact next
  | cons stmt tail ih =>
      obtain ⟨middle, first, others⟩ := (Stmt.lower_all_cons ..).mp lowered
      have rest := ih (seen ++ stmt.texts) middle others
        (installed.second (stmt.lower_keyed _ _ first installed.keyed) (stmt.lower_pools _ _ first))
      exact .stmt _ stmt _ seen before middle rfl first
        (installed.first (Stmt.lower_all_grows tail middle after others)) rest

structure Related (setting : Setting) (source : Source) (machine : Machine) : Prop where
  resumes : Resumes setting machine.pc source.todo
  store : machine.store = source.store
  world : machine.world = source.world
  args : machine.args = []
  returned : machine.returned = none

-- What the machine does where the source reacts so. Unless it takes a step, less is left to run.
def Answers (setting : Setting) (machine : Machine) (size : Nat) : Reaction Source → Prop
  | .next later => ∃ n finish, iterate (Machine.step setting) n machine = .next finish ∧
      Related setting later finish ∧ (0 < n ∨ later.todo.length < size)
  | .finished outcome => ∃ n, iterate (Machine.step setting) n machine = .finished outcome
  | .stuck => False

structure Poised (builder : Builder) (machine : Machine) : Prop where
  pc : machine.pc = builder.quads.length
  args : machine.args = []
  returned : machine.returned = none

theorem Computed.poised {setting : Setting} {after : Builder} {start finish : Machine} {world : World}
    (computed : Computed setting after start finish world) (fresh : start.returned = none) :
    Poised after finish := ⟨computed.pc, computed.args, computed.returned.trans fresh⟩

section Answers

variable {setting : Setting}

theorem answers_shorter (machine finish : Machine) (later : Source) (size : Nat)
    (reaches : Reaches (Machine.step setting) machine finish) (related : Related setting later finish)
    (shorter : later.todo.length < size) : Answers setting machine size (.next later) := by
  obtain ⟨n, runs⟩ := reaches
  exact ⟨n, finish, runs, related, .inr shorter⟩

theorem answers_step (machine middle finish : Machine) (later : Source) (size : Nat)
    (reaches : Reaches (Machine.step setting) machine middle) (steps : middle.step setting = .next finish)
    (related : Related setting later finish) : Answers setting machine size (.next later) := by
  obtain ⟨n, runs⟩ := reaches
  refine ⟨n + 1, finish, ?_, related, .inl (Nat.succ_pos n)⟩
  rw [iterate_next n 1 machine middle runs, iterate_one middle finish steps]

theorem Answers.before {machine later : Machine} {size : Nat} {reaction : Reaction Source}
    (answers : Answers setting later size reaction) (steps : machine.step setting = .next later) :
    Answers setting machine size reaction := by
  cases reaction with
  | next source =>
      obtain ⟨n, finish, runs, related, _⟩ := answers
      exact ⟨n + 1, finish, by rw [iterate_succ n machine later steps, runs], related, .inl (Nat.succ_pos n)⟩
  | finished outcome =>
      obtain ⟨n, runs⟩ := answers
      exact ⟨n + 1, by rw [iterate_succ n machine later steps, runs]⟩
  | stuck => exact answers

theorem Poised.step {builder : Builder} {machine : Machine} (poised : Poised builder machine) (instr : Instr)
    (code : (builder.emit instr).quads <+: setting.code) : machine.step setting = machine.execute setting instr := by
  have found := fetch builder.quads _ (Builder.quads_emit builder instr ▸ code)
  rw [← poised.pc] at found
  exact machine.step_quad setting _ found

theorem Poised.advance {builder : Builder} {machine : Machine} (poised : Poised builder machine) (instr : Instr) :
    Poised (builder.emit instr) machine.advance := by
  refine ⟨?_, poised.args, poised.returned⟩
  rw [Builder.quads_emit, List.length_append, List.length_singleton, ← poised.pc]
  rfl

theorem Poised.add_label {builder : Builder} {machine : Machine} (poised : Poised builder machine) :
    Poised builder.addLabel machine := ⟨poised.pc, poised.args, poised.returned⟩

theorem related_put (dst : Expr) (before after builder : Builder) (target : Operand) (instr : Instr)
    (rest : List Stmt) (lowered : dst.lower before = .ok target after) (keyed : before.Keyed) (machine : Machine)
    (value : Word) (poised : Poised builder machine)
    (next : Resumes setting (builder.emit instr).quads.length rest) :
    Related setting ⟨rest, machine.store.assign dst value, machine.world⟩ (machine.put target value).advance := by
  have moved : (machine.put target value).advance.pc = (builder.emit instr).quads.length := by
    rw [← (poised.advance instr).pc]
    simp [Machine.advance]
  refine ⟨moved ▸ next, dst.lower_place before after target lowered keyed machine value, ?_, ?_, ?_⟩
  · exact machine.world_put target value
  · exact (machine.args_put target value).trans poised.args
  · exact (machine.returned_put target value).trans poised.returned

theorem fetch_landing (builder last : Builder) (label : Handle .label)
    (grows : Builder.Grows (builder.place label) last) (code : last.quads <+: setting.code) :
    setting.code[builder.quads.length]? = some (.landing label) :=
  fetch builder.quads _ (Builder.quads_place builder label ▸ grows.quads.trans code)

theorem Resumes.leave (builder : Builder) (label : Handle .label) (rest : List Stmt)
    (code : (builder.place label).quads <+: setting.code)
    (next : Resumes setting (builder.place label).quads.length rest) :
    Resumes setting builder.quads.length rest := by
  refine .land _ label rest (fetch_landing builder _ label (.refl _) code) ?_
  rwa [Builder.quads_place, List.length_append, List.length_singleton] at next

theorem Resumes.jump (builder : Builder) (label : Handle .label) (target : Nat) (rest : List Stmt)
    (code : (builder.emit (.goto label)).quads <+: setting.code)
    (lands : setting.code[target]? = some (.landing label)) (next : Resumes setting target rest) :
    Resumes setting builder.quads.length rest :=
  .goto _ target label rest (fetch builder.quads _ (Builder.quads_emit builder _ ▸ code)) lands next

-- The source of an assignment is computed and stored. The operand of the destination may
-- come from code that was lowered before and did not run.
theorem store_answers (dst src : Expr) (placing placed before last : Builder) (target source : Operand)
    (rest : List Stmt) (seen : List String) (start machine : Machine) (size : Nat)
    (places : dst.lower placing = .ok target placed) (keyed : placing.Keyed)
    (computes : src.lower before = .ok source last)
    (installed : Installed setting seen src.texts before (last.emit (.assign target source)))
    (reaches : Reaches (Machine.step setting) start machine) (poised : Poised before machine)
    (next : Resumes setting (last.emit (.assign target source)).quads.length rest) :
    Answers setting start size (.next ⟨rest,
      machine.store.assign dst (src.eval setting.meaning machine.store machine.world).1,
      (src.eval setting.meaning machine.store machine.world).2⟩) := by
  obtain ⟨done, computed, value⟩ := src.lower_computed _ _ seen machine poised.pc poised.args _ computes
    (installed.shrink (last.emit_grows _))
  have stands := computed.poised poised.returned
  have related := related_put dst placing placed last target (.assign target source) rest places keyed
    done (done.value setting source) stands next
  rw [value, computed.store, computed.world] at related
  refine answers_step start done _ _ _ (reaches.trans computed.reaches) ?_ related
  rw [stands.step (.assign target source) installed.code, Machine.execute, value]

variable (distinct : (setting.code.flatMap Quad.labels).Nodup)

include distinct

theorem branch_answers (builder : Builder) (test : Operand) (label : Handle .label) (start machine : Machine)
    (size target : Nat) (missed taken : List Stmt) (reaches : Reaches (Machine.step setting) start machine)
    (poised : Poised builder machine) (code : (builder.emit (.ifZero test label)).quads <+: setting.code)
    (lands : setting.code[target]? = some (.landing label)) (zero : Resumes setting target missed)
    (nonzero : Resumes setting (builder.emit (.ifZero test label)).quads.length taken) :
    Answers setting start size
      (.next ⟨if machine.value setting test = 0 then missed else taken, machine.store, machine.world⟩) := by
  have steps := poised.step (.ifZero test label) code
  rw [Machine.execute, Machine.jump, find_landing setting distinct target label lands] at steps
  by_cases holds : machine.value setting test = 0
  · rw [if_pos holds] at steps ⊢
    exact answers_step start machine _ _ size reaches steps ⟨zero, rfl, rfl, poised.args, poised.returned⟩
  · rw [if_neg holds] at steps ⊢
    have moved := poised.advance (.ifZero test label)
    exact answers_step start machine _ _ size reaches steps
      ⟨moved.pc ▸ nonzero, rfl, rfl, moved.args, moved.returned⟩

end Answers

end ThreeAddress
