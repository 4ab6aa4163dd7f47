import ThreeAddress.Proofs.Declarations

set_option autoImplicit false

namespace ThreeAddress

structure Disciplined (quads : List Quad) (temps : List Temp) : Prop where
  defined : quads.filterMap (fun quad => quad.instr.defines?) = temps.map .temp
  supplied : ∀ j quad temp, quads[j]? = some quad → .temp temp ∈ quad.instr.reads →
    ∃ i, Supplies quads temp i j

namespace Disciplined

theorem nil : Disciplined [] [] := ⟨rfl, by simp⟩

theorem append {quads : List Quad} {temps : List Temp} (disciplined : Disciplined quads temps) (quad : Quad)
    (new : List Temp) (defines : quad.instr.defines?.toList = new.map .temp)
    (supplies : ∀ temp, .temp temp ∈ quad.instr.reads → ∃ i, Supplies (quads ++ [quad]) temp i quads.length) :
    Disciplined (quads ++ [quad]) (temps ++ new) := by
  constructor
  · rw [List.filterMap_append, disciplined.defined, List.map_append, ← defines]
    cases found : quad.instr.defines? <;> simp [found]
  · intro j other temp at_ read
    rcases get_elem?_concat_cases quads quad other j at_ with ⟨inside, at_⟩ | ⟨rfl, rfl⟩
    · obtain ⟨i, supplied⟩ := disciplined.supplied j other temp at_ read
      exact ⟨i, supplied.append inside [quad]⟩
    · exact supplies temp read

end Disciplined

namespace Builder

def Disciplined (builder : Builder) : Prop := ThreeAddress.Disciplined builder.quads builder.temps

variable {builder : Builder}

theorem Disciplined.emit (disciplined : builder.Disciplined) (instr : Instr) (silent : instr.defines? = none)
    (ready : ∀ operand ∈ instr.reads, Ready builder.quads operand) : (builder.emit instr).Disciplined := by
  rw [Disciplined, quads_emit, temps_emit, ← List.append_nil builder.temps]
  refine ThreeAddress.Disciplined.append disciplined _ [] (by simp [Quad.plain, silent]) ?_
  intro temp read
  exact (ready _ read temp rfl).at_end instr

theorem Disciplined.place (disciplined : builder.Disciplined) (label : Handle .label) :
    (builder.place label).Disciplined := by
  rw [Disciplined, quads_place, temps_place, ← List.append_nil builder.temps]
  exact ThreeAddress.Disciplined.append disciplined _ [] rfl nofun

theorem Disciplined.compute (disciplined : builder.Disciplined) (width : Nat) (instr : Operand → Instr)
    (defines : (instr (.temp (builder.nextTemp width))).defines? = some (.temp (builder.nextTemp width)))
    (ready : ∀ operand ∈ (instr (.temp (builder.nextTemp width))).reads, Ready builder.quads operand) :
    (builder.compute width instr).Disciplined := by
  rw [Disciplined, Builder.compute, quads_emit, quads_add_temp, temps_emit, temps_add_temp]
  refine ThreeAddress.Disciplined.append disciplined _ _ (by simp [Quad.plain, defines]) ?_
  intro temp read
  exact (ready _ read temp rfl).at_end _

theorem Disciplined.pass (disciplined : builder.Disciplined) (position : Nat) (operands : List Operand)
    (ready : ∀ operand ∈ operands, Ready builder.quads operand) :
    (builder.pass position operands).Disciplined := by
  induction operands generalizing builder position with
  | nil => exact disciplined
  | cons operand tail ih =>
      refine ih (disciplined.emit (.setArg position operand) rfl ?_) (position + 1) ?_
      · simpa [Instr.reads] using ready operand (by simp)
      · intro other member
        rw [quads_emit]
        exact (ready other (by simp [member])).append _ rfl

theorem Disciplined.invoke (disciplined : builder.Disciplined) (callee : Symbol) (operands : List Operand)
    (ready : ∀ operand ∈ operands, Ready builder.quads operand) :
    (builder.invoke callee operands).Disciplined :=
  (disciplined.pass 1 operands ready).emit _ rfl (by simp [Instr.reads])

theorem Disciplined.receive (disciplined : builder.Disciplined) (position : Nat) (formals : List Slot) :
    (builder.receive position formals).Disciplined := by
  induction formals generalizing builder position with
  | nil => exact disciplined
  | cons formal tail ih => exact ih (disciplined.emit _ rfl (by simp [Instr.reads])) (position + 1)

theorem Step.disciplined {mark : Mark} {before after : Builder} (step : Step before mark after)
    (disciplined : before.Disciplined) : after.Disciplined := by
  cases step with
  | text | use | check | label | bindLocal | bindFormal => exact disciplined
  | compute width instr action sources computing offered =>
      refine disciplined.compute width instr (computing.defines _) ?_
      rw [computing.reads]
      exact fun operand member => (offered operand member).ready
  | run start callee args operands type lowered offered =>
      exact disciplined.invoke callee operands fun operand member => (offered operand member).ready
  | call start callee args operands result type value lowered offered =>
      exact (disciplined.invoke callee operands fun operand member => (offered operand member).ready).compute _ _ rfl
        (by simp [Instr.reads])
  | emit instr silent apart mute still has ready => exact disciplined.emit instr silent ready
  | say text type =>
      have pooled : (before.addString text).Disciplined := disciplined
      exact pooled.emit _ rfl (by simpa [Instr.reads] using ready_literal _ _ _)
  | test cond label offered => exact disciplined.emit _ rfl (by simpa [Instr.reads] using offered.ready)
  | jump label => exact disciplined.emit _ rfl (by simp [Instr.reads])
  | land label => exact disciplined.place label
  | receive formals listed => exact disciplined.receive 1 formals

end Builder

def Numbered (temps : List Temp) : Prop :=
  ∀ (i : Nat) (temp : Temp), temps[i]? = some temp → temp.id = .ofNat i

theorem numbered_nil : Numbered [] := nofun

theorem Builder.Builds.numbered {before after : Builder} (step : Builds before after)
    (numbered : Numbered before.temps) : Numbered after.temps := by
  cases step with
  | temp width =>
      intro i temp at_
      rw [temps_add_temp] at at_
      rcases get_elem?_concat_cases _ _ temp i at_ with ⟨_, at_⟩ | ⟨rfl, rfl⟩
      · exact numbered i temp at_
      · rw [next_temp_eq]
  | emit | string | label | place | bindLocal | bindFormal => exact numbered

theorem Function.lower_temps (function : Function) (before after : Builder)
    (lowered : function.lower before = .ok () after) (disciplined : before.Disciplined)
    (numbered : Numbered before.temps) : after.Disciplined ∧ Numbered after.temps := by
  obtain ⟨last, trace, rfl⟩ := function.lower_trace before after lowered
  have body : last.Disciplined := trace.keeps (fun _ _ _ step => step.disciplined) disciplined
  have numbers : Numbered last.temps := trace.builds_keep (fun _ _ step => step.numbered) numbered
  exact ⟨body, numbers⟩

def Flows (quads : List Quad) (i j : Nat) : Prop :=
  ∃ quad, quads[i]? = some quad ∧
    (quad.instr.fallsThrough = true ∧ j = i + 1 ∨
      ∃ label target, quad.jumpTarget? = some label ∧ quads[j]? = some target ∧ label ∈ target.labels)

-- A path from the first quad that has passed the quads `visited`, in that order, and arrives at `j`.
inductive Path (quads : List Quad) : List Nat → Nat → Prop where
  | entry : Path quads [] 0
  | step (visited : List Nat) (i j : Nat) (start : Path quads visited i) (flows : Flows quads i j) :
      Path quads (visited ++ [i]) j

-- Backwards along the path there is no way into the straight piece but through its first quad.
theorem Path.visits {quads : List Quad} {visited : List Nat} {j : Nat} (path : Path quads visited j)
    (i : Nat) (temp : Temp) (supplies : Supplies quads temp i j) : i ∈ visited := by
  induction path with
  | entry => exact absurd supplies.before (Nat.not_lt_zero i)
  | step visited k j start flows ih =>
      obtain ⟨quad, _, falls | jumps⟩ := flows
      · obtain ⟨_, rfl⟩ := falls
        by_cases first : i = k
        · simp [first]
        · have later : i < k := by
            have := supplies.before
            omega
          refine List.mem_append_left _ (ih ⟨later, supplies.defines, ?_, ?_⟩)
          · intro m other above below at_
            exact supplies.unlabelled m other above (by omega) at_
          · intro m other above below at_
            exact supplies.straight m other above (by omega) at_
      · obtain ⟨label, target, _, lands, carries⟩ := jumps
        rw [supplies.unlabelled j target supplies.before (Nat.le_refl j) lands] at carries
        cases carries

structure TempDiscipline (procedure : Procedure) : Prop where
  numbered : ∀ (i : Nat) (temp : Temp), procedure.temps.items.toList[i]? = some temp → temp.id.index = i
  defined : procedure.quads.toList.filterMap (fun quad => quad.instr.defines?) =
    procedure.temps.items.toList.map .temp
  once : ∀ (i j : Nat) (quad other : Quad) (temp same : Temp),
    procedure.quads.toList[i]? = some quad → procedure.quads.toList[j]? = some other →
      quad.instr.defines? = some (.temp temp) → other.instr.defines? = some (.temp same) →
        temp.id = same.id → i = j
  supplied : ∀ j quad temp, procedure.quads.toList[j]? = some quad → .temp temp ∈ quad.instr.reads →
    ∃ i, Supplies procedure.quads.toList temp i j
  written : ∀ visited j quad temp, Path procedure.quads.toList visited j →
    procedure.quads.toList[j]? = some quad → .temp temp ∈ quad.instr.reads →
      ∃ i ∈ visited, ∃ definition, procedure.quads.toList[i]? = some definition ∧
        definition.instr.defines? = some (.temp temp)

-- Two definitions of one number would put it at two places of the list of temporaries.
theorem Disciplined.once {quads : List Quad} {temps : List Temp} (disciplined : Disciplined quads temps)
    (numbered : Numbered temps) (few : temps.length < 2 ^ 32) :
    quads.Pairwise fun quad other => ∀ temp same, quad.instr.defines? = some (.temp temp) →
      other.instr.defines? = some (.temp same) → temp.id ≠ same.id := by
  have distinct : temps.Pairwise fun temp same => temp.id ≠ same.id := by
    rw [List.pairwise_iff_getElem]
    intro i j inside inside' before equal
    rw [numbered i _ (List.getElem?_eq_getElem inside), numbered j _ (List.getElem?_eq_getElem inside')] at equal
    have indices := congrArg Handle.index equal
    rw [Handle.index_of_nat_of_lt _ (by omega), Handle.index_of_nat_of_lt _ (by omega)] at indices
    omega
  have operands : (temps.map Operand.temp).Pairwise fun operand other => ∀ temp same,
      operand = .temp temp → other = .temp same → temp.id ≠ same.id := by
    rw [List.pairwise_map]
    refine distinct.imp ?_
    rintro temp same differ _ _ ⟨⟩ ⟨⟩
    exact differ
  rw [← disciplined.defined, List.pairwise_filterMap] at operands
  refine operands.imp ?_
  intro quad other apart temp same first second
  exact apart _ first _ second temp same rfl rfl

theorem Disciplined.procedure (procedure : Procedure)
    (disciplined : Disciplined procedure.quads.toList procedure.temps.items.toList)
    (numbered : Numbered procedure.temps.items.toList) (few : procedure.temps.size < 2 ^ 32) :
    TempDiscipline procedure := by
  have once := disciplined.once numbered few
  refine ⟨?_, disciplined.defined, ?_, disciplined.supplied, ?_⟩
  · intro i temp at_
    have inside : i < procedure.temps.size := (List.getElem?_eq_some_iff.mp at_).1
    rw [numbered i temp at_, Handle.index_of_nat_of_lt _ (by omega)]
  · intro i j quad other temp same first second defines redefines equal
    obtain ⟨inside, rfl⟩ := List.getElem?_eq_some_iff.mp first
    obtain ⟨inside', rfl⟩ := List.getElem?_eq_some_iff.mp second
    rcases Nat.lt_trichotomy i j with before | here | after
    · exact absurd equal (List.pairwise_iff_getElem.mp once i j inside inside' before _ _ defines redefines)
    · exact here
    · exact absurd equal.symm (List.pairwise_iff_getElem.mp once j i inside' inside after _ _ redefines defines)
  · intro visited j quad temp path at_ read
    obtain ⟨i, supplies⟩ := disciplined.supplied j quad temp at_ read
    exact ⟨i, path.visits i temp supplies, supplies.defines⟩

theorem lowered_temp_discipline (decls : List Decl) (program : Program) (log : Array Event)
    (few : (functions decls).length < 2 ^ 32 - 1) (accepted : lower decls = (.ok program, log))
    (procedure : Procedure) (listed : procedure ∈ program.procedures.items)
    (small : procedure.temps.size < 2 ^ 32) : TempDiscipline procedure := by
  obtain ⟨session, runs, rfl⟩ := runs_of_accepted decls program log (by omega) accepted
  have all := runs.procedures_forall
    (fun procedure => Disciplined procedure.quads.toList procedure.temps.items.toList ∧
      Numbered procedure.temps.items.toList) ?_ ?_
  · obtain ⟨disciplined, numbered⟩ := all procedure (Array.mem_toList_iff.mpr listed)
    exact disciplined.procedure procedure numbered small
  · intro initial member
    obtain rfl := List.mem_singleton.mp member
    exact ⟨.nil, numbered_nil⟩
  · intro definition session builder lowered
    exact definition.lower_temps _ builder lowered .nil numbered_nil

namespace Sample

def total : Symbol := ⟨.ofNat 0, "total", .int⟩

def halve : Symbol := ⟨.ofNat 1, "halve", .function [.int] .int⟩

def value : Symbol := ⟨.ofNat 2, "value", .int⟩

def main : Symbol := ⟨.ofNat 3, "main", .function [] .void⟩

def step : Symbol := ⟨.ofNat 4, "step", .int⟩

def halveDefinition : Function :=
  ⟨halve, [value], [.ret (some (.applyBinary .div (.ofSymbol value) (.ofInt 2)))]⟩

def mainDefinition : Function :=
  ⟨main, [],
    [.localVariable step,
      .read (.ofSymbol total),
      .maybe (.ofSymbol step) (.ofInt 1) (.apply halve [.ofSymbol total]),
      .whileDo (.applyBinary .lt (.ofSymbol step) (.ofSymbol total))
        [.ifElse .unspecified [.increment (.ofSymbol step)]
          [.assign (.ofSymbol total) (.apply halve [.ofSymbol total])]],
      .write (.ofString "done")]⟩

def program : List Decl := [.global total, .function halveDefinition, .function mainDefinition]

theorem accepted : ∃ lowered log, lower program = (.ok lowered, log) :=
  accepted_of_is_ok program (by decide +kernel)

theorem main_temps (lowered : Program) (log : Array Event) (accepted : lower program = (.ok lowered, log)) :
    ∃ procedure, lowered.procedures.items[2]? = some procedure ∧ procedure.temps.size = 6 := by
  have counted : ((lower program).1.toOption.bind fun lowered =>
      lowered.procedures.items[2]?.map fun procedure => procedure.temps.size) = some 6 := by decide +kernel
  rw [accepted] at counted
  simpa [Except.toOption] using counted

end Sample

theorem sample_temp_discipline :
    ∃ program log procedure, lower Sample.program = (.ok program, log) ∧
      program.procedures.items[2]? = some procedure ∧ procedure.temps.size = 6 ∧ TempDiscipline procedure := by
  obtain ⟨program, log, accepted⟩ := Sample.accepted
  obtain ⟨procedure, found, size⟩ := Sample.main_temps program log accepted
  exact ⟨program, log, procedure, accepted, found, size,
    lowered_temp_discipline Sample.program program log (by decide) accepted procedure
      (Array.mem_of_getElem? found) (by omega)⟩

end ThreeAddress
