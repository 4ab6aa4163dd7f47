import ThreeAddress.Proofs.Correspondence
import ThreeAddress.Proofs.Temporaries

set_option autoImplicit false

namespace ThreeAddress

open Lower

def Mark.Within (known : Set (Handle .symbol)) : Mark → Prop
  | .use symbol | .declare symbol => symbol.id ∈ known
  | _ => True

section Marks

variable {known : Set (Handle .symbol)}

mutual

theorem Expr.marks_within (expr : Expr) (inside : ∀ id ∈ expr.ids, id ∈ known) :
    ∀ mark ∈ expr.marks, mark.Within known := by
  cases expr with
  | int | bool | string | eh => simp [Expr.marks, Mark.Within]
  | name type symbol => simpa [Expr.marks, Expr.ids, Mark.Within] using inside
  | call type callee args =>
      rw [Expr.ids, List.forall_mem_cons] at inside
      have within := Expr.marks_all_within args inside.2
      simp only [Expr.marks, List.forall_mem_append, List.forall_mem_cons]
      simpa [Mark.Within] using within
  | unary type op operand =>
      have within := Expr.marks_within operand inside
      simp only [Expr.marks, List.forall_mem_append]
      simpa [Mark.Within] using within
  | binary type op lhs rhs =>
      rw [Expr.ids, List.forall_mem_append] at inside
      have left := Expr.marks_within lhs inside.1
      have right := Expr.marks_within rhs inside.2
      rw [Expr.marks]
      split <;> grind [Mark.Within]

theorem Expr.marks_all_within (exprs : List Expr) (inside : ∀ id ∈ Expr.idsAll exprs, id ∈ known) :
    ∀ mark ∈ Expr.marksAll exprs, mark.Within known := by
  cases exprs with
  | nil => simp [Expr.marksAll]
  | cons expr tail =>
      rw [Expr.idsAll, List.forall_mem_append] at inside
      rw [Expr.marksAll, List.forall_mem_append]
      exact ⟨Expr.marks_within expr inside.1, Expr.marks_all_within tail inside.2⟩

end

mutual

theorem Stmt.marks_within (stmt : Stmt) (inside : ∀ id ∈ stmt.ids, id ∈ known) :
    ∀ mark ∈ stmt.marks, mark.Within known := by
  cases stmt with
  | localVariable symbol | localFormal symbol => simpa [Stmt.marks, Stmt.ids, Mark.Within] using inside
  | localFunction => simp [Stmt.marks, Mark.Within]
  | write value =>
      have within := Expr.marks_within value inside
      rw [Stmt.marks]
      cases value.literal? with
      | some text => simp [Mark.Within]
      | none =>
          simp only [List.forall_mem_append]
          simpa [Mark.Within] using within
  | maybe dst first second =>
      rw [Stmt.ids, List.forall_mem_append, List.forall_mem_append] at inside
      have target := dst.marks_within inside.1
      have chosen := first.marks_within inside.2.1
      have other := second.marks_within inside.2.2
      simp only [Stmt.marks, List.mem_append, List.mem_cons]
      grind [Mark.Within]
  | ifThen cond body | whileDo cond body =>
      rw [Stmt.ids, List.forall_mem_append] at inside
      have tested := cond.marks_within inside.1
      have within := Stmt.marks_all_within body inside.2
      grind [Stmt.marks, Mark.Within]
  | ifElse cond positive negative =>
      rw [Stmt.ids, List.forall_mem_append, List.forall_mem_append] at inside
      have tested := cond.marks_within inside.1
      have chosen := Stmt.marks_all_within positive inside.2.1
      have other := Stmt.marks_all_within negative inside.2.2
      grind [Stmt.marks, Mark.Within]
  | call callee args =>
      rw [Stmt.ids, List.forall_mem_cons] at inside
      have within := Expr.marks_all_within args inside.2
      grind [Stmt.marks, Mark.Within]
  | ret value => cases value <;> grind [Stmt.marks, Stmt.ids, Mark.Within, Expr.marks_within]
  | assign | increment | decrement | read => grind [Stmt.marks, Stmt.ids, Mark.Within, Expr.marks_within]

theorem Stmt.marks_all_within (stmts : List Stmt) (inside : ∀ id ∈ Stmt.idsAll stmts, id ∈ known) :
    ∀ mark ∈ Stmt.marksAll stmts, mark.Within known := by
  cases stmts with
  | nil => simp [Stmt.marksAll]
  | cons stmt tail =>
      rw [Stmt.idsAll, List.forall_mem_append] at inside
      rw [Stmt.marksAll, List.forall_mem_append]
      exact ⟨Stmt.marks_within stmt inside.1, Stmt.marks_all_within tail inside.2⟩

end

end Marks

namespace Renaming

open Bridge

def bridge (via : Renaming) (known : Set (Handle .symbol)) : Bridge Violation Builder :=
  ⟨.builder, via.translation, Mark.Within known, fun left right => left.Within known ∧ right = left.rename via⟩

variable {via : Renaming} {known : Set (Handle .symbol)}

theorem carries_step {α β : Type} (image : α → β) (work : Lower α) (other : Lower β)
    (ran : ∀ builder, builder.Within known → ∃ answer after, work builder = .ok answer after ∧
      other (builder.rename via) = .ok (image answer) (after.rename via) ∧ after.Within known) :
    (via.bridge known).Carries image work other := by
  apply carries_ok
  rintro builder _ ⟨within, rfl⟩
  obtain ⟨answer, after, first, second, kept⟩ := ran builder within
  exact ⟨answer, after, after.rename via, first, second, kept, rfl⟩

theorem emit_renames (builder : Builder) (instr : Instr) :
    (builder.rename via).emit (instr.rename via) = (builder.emit instr).rename via := by
  simp [Builder.emit, Builder.rename, Procedure.push, Procedure.rename, Quad.plain, Quad.rename]

theorem emit_carries (instr : Instr) : (via.bridge known).Carries id (emit instr) (emit (instr.rename via)) :=
  carries_step _ _ _ fun builder within =>
    ⟨(), builder.emit instr, rfl, congrArg (EStateM.Result.ok ()) (emit_renames builder instr), within.bindings,
      within.globals⟩

theorem place_carries (label : Handle .label) : (via.bridge known).Carries id (place label) (place label) := by
  apply carries_step
  intro builder within
  refine ⟨(), builder.place label, rfl, ?_, within.bindings, within.globals⟩
  simp [Builder.place, Builder.rename, Procedure.push, Procedure.rename, Quad.landing, Quad.rename, Instr.rename,
    Instr.translate, Event.rename]

theorem pass_carries (position : Nat) (operands : List Operand) :
    (via.bridge known).Carries id (pass position operands)
      (pass position (operands.map (Operand.rename via))) := by
  induction operands generalizing position with
  | nil => exact carries_pure id ()
  | cons operand tail ih =>
      exact carries_bind (emit_carries (.setArg position operand)) fun _ _ => ih (position + 1)

variable (distinct : Set.InjOn via.handle known)

include distinct

theorem storage_carries (symbol : Symbol) (member : symbol.id ∈ known) :
    (via.bridge known).Carries (Operand.rename via) (storage symbol) (storage (symbol.rename via)) := by
  rintro builder _ ⟨within, rfl⟩
  have bound : (builder.procedure.bindings.rename via).get? (via.handle symbol.id) = _ :=
    HandleMap.get?_transport distinct _ within.bindings.keys symbol.id member
  have shared : (builder.program.globals.rename via).get? (via.handle symbol.id) = _ :=
    HandleMap.get?_transport distinct _ within.globals.keys symbol.id member
  have found : (builder.rename via).slot? (symbol.rename via).id = (builder.slot? symbol.id).map (Slot.rename via) := by
    rw [Builder.slot?, Builder.slot?, Option.map_or]
    exact congrArg₂ Option.or bound shared
  rw [storage_run, storage_run, found]
  cases builder.slot? symbol.id with
  | none => exact ⟨rfl, within, rfl⟩
  | some slot => exact ⟨rfl, within, rfl⟩

theorem sound : (via.bridge known).Sound where
  int _ _ := rfl
  bool _ _ := rfl
  text _ := trivial
  emit := emit_carries
  place := place_carries
  freshTemp width :=
    carries_step _ _ _ fun builder within => ⟨_, builder.addTemp width, rfl, rfl, within.bindings, within.globals⟩
  freshLabel :=
    carries_step _ _ _ fun builder within =>
      ⟨_, builder.addLabel, fresh_label_run builder, fresh_label_run _, within.bindings, within.globals⟩
  poolString text :=
    carries_step _ _ _ fun builder within =>
      ⟨_, builder.addString text, pool_string_run text builder, pool_string_run text _, within.bindings, within.globals⟩
  storage := storage_carries distinct
  bindLocal symbol member :=
    carries_step _ _ _ fun builder within => ⟨(), builder.bindLocal symbol, rfl,
      congrArg (EStateM.Result.ok ()) (bind_local_renames distinct builder within symbol member),
      within.bindings.insert _ _ member, within.globals⟩
  bindFormal symbol member :=
    carries_step _ _ _ fun builder within => ⟨(), builder.bindFormal symbol, rfl,
      congrArg (EStateM.Result.ok ()) (bind_formal_renames distinct builder within symbol member),
      within.bindings.insert _ _ member, within.globals⟩
  pass _ _ operands _ _ := pass_carries 1 operands

end Renaming

section Functions

variable {via : Renaming} {known : Set (Handle .symbol)}

theorem Builder.Within.bind_formals {builder : Builder} (within : builder.Within known) (formals : List Symbol)
    (inside : ∀ id ∈ formals.map Symbol.id, id ∈ known) : (builder.bindFormals formals).Within known := by
  induction formals generalizing builder with
  | nil => exact within
  | cons formal tail ih =>
      rw [List.map_cons, List.forall_mem_cons] at inside
      exact ih ⟨within.bindings.insert _ _ inside.1, within.globals⟩ inside.2

theorem bind_formals_renames (distinct : Set.InjOn via.handle known) (formals : List Symbol) (builder : Builder)
    (within : builder.Within known) (inside : ∀ id ∈ formals.map Symbol.id, id ∈ known) :
    (builder.rename via).bindFormals (formals.map (Symbol.rename via)) = (builder.bindFormals formals).rename via := by
  induction formals generalizing builder with
  | nil => rfl
  | cons formal tail ih =>
      rw [List.map_cons, List.forall_mem_cons] at inside
      rw [List.map_cons, Builder.bindFormals, bind_formal_renames distinct builder within formal inside.1]
      exact ih _ ⟨within.bindings.insert _ _ inside.1, within.globals⟩ inside.2

theorem receive_renames (position : Nat) (formals : List Slot) (builder : Builder) :
    (builder.rename via).receive position (formals.map (Slot.rename via)) =
      (builder.receive position formals).rename via := by
  induction formals generalizing position builder with
  | nil => rfl
  | cons formal tail ih =>
      rw [List.map_cons, Builder.receive, Builder.receive, ← ih]
      exact congrArg (Builder.receive · (position + 1) _) (Renaming.emit_renames builder (.getArg position (.slot formal)))

theorem receive_within (position : Nat) (formals : List Slot) (builder : Builder)
    (within : builder.Within known) : (builder.receive position formals).Within known := by
  induction formals generalizing position builder with
  | nil => exact within
  | cons formal tail ih => exact ih _ _ ⟨within.bindings, within.globals⟩

theorem Builder.enter_renames (distinct : Set.InjOn via.handle known) (definition : Function) (builder : Builder)
    (within : builder.Within known) (inside : ∀ id ∈ definition.formals.map Symbol.id, id ∈ known) :
    (builder.rename via).enter (definition.rename via) = (builder.enter definition).rename via := by
  have bound := bind_formals_renames distinct definition.formals builder within inside
  have formals : ((builder.bindFormals definition.formals).rename via).procedure.formals.toList =
      (builder.bindFormals definition.formals).procedure.formals.toList.map (Slot.rename via) := by
    simp [Builder.rename, Procedure.rename]
  simp only [Builder.enter, Function.rename, bound, formals]
  exact receive_renames 1 _ _

theorem Stmt.lower_all_renames (distinct : Set.InjOn via.handle known) (stmts : List Stmt)
    (inside : ∀ id ∈ Stmt.idsAll stmts, id ∈ known) :
    (via.bridge known).Carries id (Stmt.lowerAll stmts) (Stmt.lowerAll (Stmt.renameAll via stmts)) := by
  rw [← Stmt.lower_all_in_builder (Stmt.renameAll via stmts)]
  exact Stmt.lower_all_carries (Renaming.sound distinct) stmts (Stmt.marks_all_within stmts inside)

theorem Function.lower_renames (distinct : Set.InjOn via.handle known) (definition : Function)
    (inside : ∀ id ∈ definition.ids, id ∈ known) (builder : Builder) (within : builder.Within known) :
    (∃ after, definition.lower builder = .ok () after ∧
      (definition.rename via).lower (builder.rename via) = .ok () (after.rename via) ∧ after.Within known) ∨
    ∃ violation after, definition.lower builder = .error violation after ∧
      (definition.rename via).lower (builder.rename via) = .error (violation.rename via) (after.rename via) := by
  rw [Function.ids, List.forall_mem_cons, List.forall_mem_append] at inside
  have entered := Builder.enter_renames distinct definition builder within inside.2.1
  have start : (builder.enter definition).Within known :=
    receive_within 1 _ _ (within.bind_formals definition.formals inside.2.1)
  have body : (definition.rename via).body = Stmt.renameAll via definition.body := rfl
  rw [Function.lower_run, Function.lower_run, entered, body]
  rcases (Stmt.lower_all_renames distinct definition.body inside.2.2 _ _ ⟨start, rfl⟩).cases with
    ⟨_, last, _, ran, matched, kept, rfl⟩ | ⟨violation, last, _, ran, matched, kept, rfl⟩
  · have left : (last.rename via).leave = last.leave.rename via := by
      simp [Builder.leave, Builder.rename, Procedure.rename, Event.rename]
    rw [ran, matched]
    exact .inl ⟨last.leave, rfl, congrArg (EStateM.Result.ok ()) left, kept.bindings, kept.globals⟩
  · rw [ran, matched]
    exact .inr ⟨violation, last, rfl, rfl⟩

end Functions

section Sessions

variable (via : Renaming)

def Failure.rename : Failure → Failure
  | .violation detected => .violation (detected.rename via)
  | .fault reason => .fault reason

def Session.rename (session : Session) : Session :=
  ⟨session.program.rename via, session.log.map (Event.rename via)⟩

structure Session.Within (known : Set (Handle .symbol)) (session : Session) : Prop where
  globals : session.program.globals.Within known
  opened : session.program.procedures.items.size ≠ 0

theorem Session.initial_within (known : Set (Handle .symbol)) : Session.initial.Within known :=
  ⟨.empty known, Nat.one_ne_zero⟩

theorem Session.initial_renames : Session.initial.rename via = .initial := by
  simp [Session.rename, Session.initial, Program.rename, Program.initial, Program.addProcedure, Arena.push,
    Arena.empty, Procedure.renameAt, Procedure.rename, Procedure.empty, HandleMap.rename, HandleMap.transport,
    HandleMap.empty]

theorem Session.size_rename (session : Session) :
    (session.rename via).program.procedures.size = session.program.procedures.size :=
  Array.size_mapIdx

theorem procedures_push_renames (procedures : Array Procedure) (added : Procedure) (opened : procedures.size ≠ 0) :
    (procedures.push added).mapIdx (Procedure.renameAt via) =
      (procedures.mapIdx (Procedure.renameAt via)).push (added.rename via) := by
  rw [Array.mapIdx_push, Procedure.renameAt, if_neg opened]

variable {via} {known : Set (Handle .symbol)}

theorem open_procedure_renames (session : Session) (name : String) (within : session.Within known) :
    (session.rename via).openProcedure (via.name name) = (session.openProcedure name).rename via := by
  have handle : (session.rename via).program.procedures.nextHandle = session.program.procedures.nextHandle :=
    congrArg Handle.ofNat (session.size_rename via)
  have fresh : (Procedure.empty session.program.procedures.nextHandle name).rename via =
      .empty session.program.procedures.nextHandle (via.name name) := by
    simp [Procedure.rename, Procedure.empty, HandleMap.rename, HandleMap.transport, HandleMap.empty]
  have pushed := procedures_push_renames via session.program.procedures.items
    (.empty session.program.procedures.nextHandle name) within.opened
  simp only [Session.openProcedure, Program.addProcedure, Arena.push, handle, Builder.rename, Program.rename, pushed,
    fresh]
  rfl

theorem close_renames (session : Session) (builder : Builder) (within : session.Within known) :
    (session.rename via).close (builder.rename via) = (session.close builder).rename via := by
  have pushed := procedures_push_renames via session.program.procedures.items builder.procedure within.opened
  simp only [Session.close, Session.rename, Program.rename, pushed]
  rfl

theorem open_procedure_within (session : Session) (name : String) (within : session.Within known) :
    (session.openProcedure name).Within known :=
  ⟨.empty known, within.globals⟩

theorem close_within (session : Session) (builder : Builder) (within : builder.Within known) :
    (session.close builder).Within known := by
  constructor
  · exact within.globals
  · rw [Session.close, Array.size_push]
    exact Nat.succ_ne_zero _

variable (distinct : Set.InjOn via.handle known)

include distinct

theorem bind_global_renames (session : Session) (symbol : Symbol) (within : session.Within known)
    (member : symbol.id ∈ known) :
    (session.rename via).bindGlobal (symbol.rename via) = (session.bindGlobal symbol).rename via := by
  have found : ((session.rename via).program.global? (symbol.rename via).id).isSome =
      (session.program.global? symbol.id).isSome := by
    rw [Program.global?, Program.global?]
    exact (congrArg Option.isSome
      (HandleMap.get?_transport distinct session.program.globals within.globals.keys symbol.id member)).trans
      Option.isSome_map
  have globals : (session.program.globals.insert symbol.id (.ofSymbol symbol)).rename via =
      (session.program.globals.rename via).insert (via.handle symbol.id) (.ofSymbol (symbol.rename via)) :=
    HandleMap.transport_insert distinct session.program.globals within.globals.keys symbol.id member _
  have program : (session.rename via).program.bindGlobal (symbol.rename via) =
      (session.program.bindGlobal symbol).rename via := by
    simp only [Program.bindGlobal, Program.rename, globals]
    rfl
  rw [Session.bindGlobal, found, program, Session.bindGlobal]
  by_cases bound : (session.program.global? symbol.id).isSome
  · simp only [if_pos bound, Session.rename, Array.map_push]
    rfl
  · simp only [if_neg bound]
    rfl

end Sessions

section Programs

variable (via : Renaming)

def Renaming.outcome : EStateM.Result Failure Session Unit → EStateM.Result Failure Session Unit
  | .ok answer session => .ok answer (session.rename via)
  | .error failure session => .error (failure.rename via) (session.rename via)

variable {via} {known : Set (Handle .symbol)} (distinct : Set.InjOn via.handle known)

include distinct

theorem Decl.lower_renames (decl : Decl) (session : Session) (within : session.Within known)
    (room : session.procedures.length + (functions [decl]).length ≤ 2 ^ 32) (inside : ∀ id ∈ decl.ids, id ∈ known) :
    (decl.rename via).lower (session.rename via) = via.outcome (decl.lower session) ∧
      ∀ after, decl.lower session = .ok () after →
        after.Within known ∧ after.procedures.length = session.procedures.length + (functions [decl]).length := by
  cases decl with
  | global symbol =>
      have member : symbol.id ∈ known := inside symbol.id (List.mem_singleton.mpr rfl)
      constructor
      · exact congrArg (EStateM.Result.ok ()) (bind_global_renames distinct session symbol within member)
      · intro after ran
        cases ran
        exact ⟨⟨within.globals.insert _ _ member, within.opened⟩, rfl⟩
  | formal symbol =>
      constructor
      · rfl
      · intro after ran
        cases ran
  | function definition =>
      have counted : (functions [Decl.function definition]).length = 1 := rfl
      have free : session.program.procedures.size < 2 ^ 32 := by
        rw [session.size_procedures]
        omega
      have start := open_procedure_within session definition.symbol.name within
      have opened : (session.rename via).openProcedure (via.name definition.symbol.name) = _ :=
        open_procedure_renames session definition.symbol.name within
      have moved := Decl.lower_function (definition.rename via) (session.rename via)
        (by rw [session.size_rename via]; exact free)
      have name : (definition.rename via).symbol.name = via.name definition.symbol.name := rfl
      rw [name, opened] at moved
      rw [Decl.lower_function definition session free]
      rcases definition.lower_renames distinct inside _ start with
        ⟨builder, ran, same, kept⟩ | ⟨violation, builder, ran, same⟩
      · rw [same] at moved
        rw [ran]
        constructor
        · exact moved.trans (congrArg (EStateM.Result.ok ()) (close_renames session builder within))
        · intro after closed
          cases closed
          rw [Session.procedures_close, List.length_append, counted]
          exact ⟨close_within session builder kept, rfl⟩
      · rw [same] at moved
        rw [ran]
        have closed : (session.rename via).close (builder.rename via) = _ := close_renames session builder within
        constructor
        · exact moved.trans (congrArg (EStateM.Result.error (Failure.violation (violation.rename via))) closed)
        · intro after stopped
          cases stopped

-- The bound keeps the handle of a new procedure from wrapping round to the entry, which is not
-- renamed as the others are.
theorem Decl.lower_all_renames (decls : List Decl) (session : Session) (within : session.Within known)
    (room : session.procedures.length + (functions decls).length ≤ 2 ^ 32)
    (inside : ∀ id ∈ decls.flatMap Decl.ids, id ∈ known) :
    Decl.lowerAll (decls.map (Decl.rename via)) (session.rename via) = via.outcome (Decl.lowerAll decls session) ∧
      ∀ after, Decl.lowerAll decls session = .ok () after → after.Within known := by
  induction decls generalizing session with
  | nil =>
      constructor
      · rfl
      · intro after ran
        cases ran
        exact within
  | cons decl tail ih =>
      rw [List.flatMap_cons, List.forall_mem_append] at inside
      have counted : (functions (decl :: tail)).length = (functions [decl]).length + (functions tail).length := by
        rw [← List.length_append, functions, functions, functions, ← List.filterMap_append, List.singleton_append]
      obtain ⟨first, kept⟩ := decl.lower_renames distinct session within (by omega) inside.1
      rw [List.map_cons, Decl.lowerAll, Decl.lowerAll]
      cases ran : decl.lower session with
      | ok answer middle =>
          obtain ⟨held, grown⟩ := kept middle ran
          rw [ran] at first
          rw [bind_of_ok _ _ _ _ _ ran, bind_of_ok _ _ _ _ _ first]
          exact ih middle held (by omega) inside.2
      | error failure middle =>
          rw [ran] at first
          rw [bind_of_error _ _ _ _ _ ran, bind_of_error _ _ _ _ _ first]
          constructor
          · rfl
          · intro after stopped
            cases stopped

end Programs

theorem lowering_equivariant (via : Renaming) (decls : List Decl) (few : (functions decls).length < 2 ^ 32)
    (distinct : Set.InjOn via.handle {id | id ∈ decls.flatMap Decl.ids}) :
    lower (decls.map (Decl.rename via)) =
      (((lower decls).1.map (Program.rename via)).mapError (Failure.rename via),
        (lower decls).2.map (Event.rename via)) := by
  have room : Session.initial.procedures.length + (functions decls).length ≤ 2 ^ 32 := by
    change 1 + _ ≤ _
    omega
  obtain ⟨same, kept⟩ := Decl.lower_all_renames distinct decls .initial (Session.initial_within _) room
    fun _ member => member
  rw [Session.initial_renames] at same
  rw [lower_outcome, lower_outcome, same]
  cases ran : Decl.lowerAll decls .initial with
  | ok answer session =>
      have globals : (session.rename via).program.globals.size = session.program.globals.size :=
        HandleMap.size_transport distinct session.program.globals (kept session ran).globals.keys
          (kept session ran).globals.ascending
      simp only [Renaming.outcome, Session.answerOf, session.size_rename via, globals, Array.map_push]
      rfl
  | error failure session => rfl

def Sample.collapse : Renaming := ⟨fun id => .ofNat (9 - id.index), fun _ => "x"⟩

theorem Sample.collapse_apart (decls : List Decl)
    (small : (decls.flatMap Decl.ids).all fun id => id.index < 10) :
    Set.InjOn Sample.collapse.handle {id | id ∈ decls.flatMap Decl.ids} := by
  intro first firstIn second secondIn same
  have low := of_decide_eq_true (List.all_eq_true.mp small first firstIn)
  have high := of_decide_eq_true (List.all_eq_true.mp small second secondIn)
  have indices := congrArg Handle.index same
  simp only [Sample.collapse] at indices
  rw [Handle.index_of_nat_of_lt _ (by omega), Handle.index_of_nat_of_lt _ (by omega)] at indices
  exact Handle.index_injective first second (by omega)

def Sample.valueless : List Decl := [.function ⟨main, [], [.write (.apply main [])]⟩]

theorem sample_equivariant :
    lower (Sample.program.map (Decl.rename Sample.collapse)) =
        (((lower Sample.program).1.map (Program.rename Sample.collapse)).mapError (Failure.rename Sample.collapse),
          (lower Sample.program).2.map (Event.rename Sample.collapse)) ∧
      (lower (Sample.valueless.map (Decl.rename Sample.collapse))).1 = .error (.violation (.voidValue "x")) := by
  constructor
  · exact lowering_equivariant Sample.collapse Sample.program (by decide)
      (Sample.collapse_apart Sample.program (by decide))
  · rw [lowering_equivariant Sample.collapse Sample.valueless (by decide)
      (Sample.collapse_apart Sample.valueless (by decide))]
    decide +kernel

end ThreeAddress
