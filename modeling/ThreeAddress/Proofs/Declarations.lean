import ThreeAddress.Lowering.Program
import ThreeAddress.Proofs.Trace

set_option autoImplicit false

namespace ThreeAddress

open Lower Relation

namespace Builder

def bindFormals (builder : Builder) : List Symbol → Builder
  | [] => builder
  | formal :: tail => (builder.bindFormal formal).bindFormals tail

def enter (builder : Builder) (function : Function) : Builder :=
  (builder.bindFormals function.formals).receive 1
    (builder.bindFormals function.formals).procedure.formals.toList

def leave (builder : Builder) : Builder :=
  { builder with
    log := builder.log.push
      (.procedureLowered builder.procedure.name builder.procedure.quads.size builder.procedure.temps.size) }

theorem program_bind_formals (builder : Builder) (formals : List Symbol) :
    (builder.bindFormals formals).program = builder.program := by
  induction formals generalizing builder with
  | nil => rfl
  | cons formal tail ih => exact ih (builder.bindFormal formal)

theorem program_receive (builder : Builder) (position : Nat) (formals : List Slot) :
    (builder.receive position formals).program = builder.program := by
  induction formals generalizing builder position with
  | nil => rfl
  | cons formal tail ih => exact ih _ (position + 1)

theorem slot_receive (builder : Builder) (position : Nat) (formals : List Slot) (id : Handle .symbol) :
    (builder.receive position formals).slot? id = builder.slot? id := by
  induction formals generalizing builder position with
  | nil => rfl
  | cons formal tail ih => exact ih _ (position + 1)

@[simp] theorem program_enter (builder : Builder) (function : Function) :
    (builder.enter function).program = builder.program := by
  rw [enter, program_receive, program_bind_formals]

theorem quads_bind_formals (builder : Builder) (formals : List Symbol) :
    (builder.bindFormals formals).quads = builder.quads := by
  induction formals generalizing builder with
  | nil => rfl
  | cons formal tail ih => exact ih (builder.bindFormal formal)

theorem formals_bind_formals (builder : Builder) (formals : List Symbol) :
    (builder.bindFormals formals).procedure.formals.toList =
      builder.procedure.formals.toList ++ formals.map .ofSymbol := by
  induction formals generalizing builder with
  | nil => simp [bindFormals]
  | cons formal tail ih =>
      rw [bindFormals, ih]
      simp [bindFormal, Procedure.bindFormal]

def arrivals (position : Nat) (formals : List Slot) : List Instr :=
  (formals.zipIdx position).map fun entry => .getArg entry.2 (.slot entry.1)

theorem quads_receive (builder : Builder) (position : Nat) (formals : List Slot) :
    (builder.receive position formals).quads = builder.quads ++ (arrivals position formals).map .plain := by
  induction formals generalizing builder position with
  | nil => simp [receive, arrivals]
  | cons formal tail ih =>
      rw [receive, ih, quads_emit, List.append_assoc]
      rfl

theorem quads_enter (builder : Builder) (function : Function) :
    (builder.enter function).quads = builder.quads ++
      (arrivals 1 (builder.procedure.formals.toList ++ function.formals.map .ofSymbol)).map .plain := by
  rw [enter, quads_receive, quads_bind_formals, formals_bind_formals]

theorem bind_formals_trace (builder : Builder) (formals : List Symbol) :
    Trace builder (formals.map .declare) (builder.bindFormals formals) := by
  induction formals generalizing builder with
  | nil => exact .nil builder
  | cons formal tail ih => exact .cons _ _ _ _ _ (.bindFormal formal) (ih (builder.bindFormal formal))

theorem enter_trace (builder : Builder) (function : Function) {marks : List Mark} {after : Builder}
    (rest : Trace (builder.enter function) marks after) :
    Trace builder (function.formals.map .declare ++ .arrive :: marks) after :=
  (builder.bind_formals_trace function.formals).append
    (.cons _ _ _ _ _ (.receive _ fun _ => Array.mem_toList_iff.mp) rest)

theorem leave_grows (builder : Builder) : Grows builder builder.leave := { Grows.refl builder with }

end Builder

theorem Lower.bind_formals_run (formals : List Symbol) (builder : Builder) :
    (formals.forM fun formal => onProcedure fun procedure => procedure.bindFormal formal) builder =
      .ok () (builder.bindFormals formals) := by
  induction formals generalizing builder with
  | nil => rfl
  | cons formal tail ih => exact ih (builder.bindFormal formal)

namespace Function

theorem lower_run (function : Function) (builder : Builder) :
    function.lower builder =
      match Stmt.lowerAll function.body (builder.enter function) with
      | .ok _ last => .ok () last.leave
      | .error violation last => .error violation last := by
  let bound := builder.bindFormals function.formals
  unfold Function.lower
  rw [bind_of_ok _ _ _ bound () (bind_formals_run function.formals builder),
    bind_of_ok get _ bound bound bound rfl,
    bind_of_ok _ _ _ (builder.enter function) () (receive_run 1 bound.procedure.formals.toList bound)]
  cases ran : Stmt.lowerAll function.body (builder.enter function) with
  | ok _ last =>
      rw [bind_of_ok _ _ _ last () ran]
      rfl
  | error violation last => rw [bind_of_error _ _ _ last violation ran]

theorem lower_ok (function : Function) (before after : Builder) :
    function.lower before = .ok () after ↔
      ∃ last, Stmt.lowerAll function.body (before.enter function) = .ok () last ∧ after = last.leave := by
  rw [lower_run]
  cases Stmt.lowerAll function.body (before.enter function) with
  | ok _ last => simp [ok_iff, -EStateM.Result.ok.injEq, eq_comm]
  | error violation last => simp

theorem lower_trace (function : Function) (before after : Builder) (lowered : function.lower before = .ok () after) :
    ∃ last, Builder.Trace before function.marks last ∧ after = last.leave := by
  obtain ⟨last, body, rfl⟩ := (lower_ok ..).mp lowered
  exact ⟨last, before.enter_trace function (Stmt.lower_all_trace function.body _ last body), rfl⟩

theorem lower_stops (function : Function) (before after : Builder) (violation : Violation)
    (failed : function.lower before = .error violation after) :
    ∃ front stop back, function.marks = front ++ stop :: back ∧ Builder.Trace before front after ∧
      Builder.Stops after stop violation := by
  have goes := Stmt.lower_all_goes function.body (before.enter function)
  rw [lower_run] at failed
  cases ran : Stmt.lowerAll function.body (before.enter function) with
  | ok _ last => simp [ran] at failed
  | error _ last =>
      simp only [ran, EStateM.Result.error.injEq] at failed
      obtain ⟨rfl, rfl⟩ := failed
      rw [ran] at goes
      obtain ⟨front, stop, back, marks, trace, stops⟩ := goes
      exact ⟨_, stop, back, by rw [Function.marks, marks, List.append_assoc]; rfl, before.enter_trace function trace, stops⟩

theorem lower_reaches (function : Function) (builder : Builder) :
    Builder.Grows builder (reached (function.lower builder)) := by
  cases ran : function.lower builder with
  | ok _ after =>
      obtain ⟨last, trace, rfl⟩ := function.lower_trace builder after ran
      exact trace.grows.trans last.leave_grows
  | error violation after =>
      obtain ⟨_, _, _, _, trace, _⟩ := function.lower_stops builder after violation ran
      exact trace.grows

theorem lower_procedures (function : Function) (builder : Builder) :
    (reached (function.lower builder)).program.procedures = builder.program.procedures :=
  (function.lower_reaches builder).procedures

theorem lower_grows (definition : Function) (before after : Builder)
    (lowered : definition.lower before = .ok () after) : Builder.Grows before after := by
  have reaches := definition.lower_reaches before
  rw [lowered] at reaches
  exact reaches

theorem lower_globals (definition : Function) (before after : Builder)
    (lowered : definition.lower before = .ok () after) : after.program.globals = before.program.globals :=
  (definition.lower_grows before after lowered).globals

end Function

namespace Session

def openProcedure (session : Session) (name : String) : Builder :=
  ⟨(session.program.addProcedure name).2, .empty session.program.procedures.nextHandle name, session.log⟩

def close (session : Session) (builder : Builder) : Session :=
  ⟨{ builder.program with procedures := ⟨session.program.procedures.items.push builder.procedure⟩ },
    builder.log⟩

def procedures (session : Session) : List Procedure := session.program.procedures.items.toList

theorem size_procedures (session : Session) :
    session.program.procedures.size = session.procedures.length := by
  rw [procedures, Array.length_toList]
  rfl

@[simp] theorem procedures_close (session : Session) (builder : Builder) :
    (session.close builder).procedures = session.procedures ++ [builder.procedure] := by
  simp [procedures, close]

end Session

namespace LowerProgram

variable (session : Session) (name : String) (room : session.program.procedures.size < 2 ^ 32)

include room

theorem index_next_handle :
    session.program.procedures.nextHandle.index = session.program.procedures.items.size := by
  rw [Arena.nextHandle, Handle.index_of_nat_of_lt _ room]
  rfl

theorem opened_procedure :
    (session.openProcedure name).program.procedure session.program.procedures.nextHandle =
      .ok (.empty session.program.procedures.nextHandle name) := by
  simp [Session.openProcedure, Program.addProcedure, Program.procedure, Arena.get, Arena.get?, Arena.push,
    index_next_handle session room]

theorem stored_procedure (builder : Builder)
    (same : builder.program.procedures = (session.openProcedure name).program.procedures) :
    builder.program.setProcedure session.program.procedures.nextHandle builder.procedure =
      .ok (session.close builder).program := by
  have items : builder.program.procedures.items =
      session.program.procedures.items.push (.empty session.program.procedures.nextHandle name) := by
    rw [same]
    rfl
  have last : session.program.procedures.nextHandle.index < builder.program.procedures.size := by
    rw [index_next_handle session room, Arena.size, items, Array.size_push]
    omega
  have replaced : builder.program.procedures.items.setIfInBounds session.program.procedures.items.size
      builder.procedure = session.program.procedures.items.push builder.procedure := by
    rw [items]
    apply Array.toList_inj.mp
    simp
  rw [Program.setProcedure, Arena.set, if_pos last, index_next_handle session room, replaced]
  rfl

theorem close_run (builder : Builder) (start : Session)
    (same : builder.program.procedures = (session.openProcedure name).program.procedures) :
    close session.program.procedures.nextHandle builder start = .ok () (session.close builder) := by
  unfold close
  rw [stored_procedure session name room builder same]
  rfl

theorem within_run (body : Lower Unit)
    (kept : (reached (body (session.openProcedure name))).program.procedures =
      (session.openProcedure name).program.procedures) :
    within session.program.procedures.nextHandle body ⟨(session.openProcedure name).program, session.log⟩ =
      match body (session.openProcedure name) with
      | .ok _ builder => .ok () (session.close builder)
      | .error violation builder => .error (.violation violation) (session.close builder) := by
  unfold within
  rw [bind_of_ok get _ _ _ _ rfl, opened_procedure session name room]
  change (match body (session.openProcedure name) with
    | .ok _ builder => close session.program.procedures.nextHandle builder
    | .error violation builder => do
      close session.program.procedures.nextHandle builder
      throw (Failure.violation violation)) _ = _
  cases ran : body (session.openProcedure name) with
  | ok _ builder =>
      rw [ran] at kept
      exact close_run session name room builder _ kept
  | error violation builder =>
      rw [ran] at kept
      exact bind_of_ok _ _ _ _ () (close_run session name room builder _ kept)

end LowerProgram

theorem Decl.lower_function (definition : Function) (session : Session)
    (room : session.program.procedures.size < 2 ^ 32) :
    (Decl.function definition).lower session =
      match definition.lower (session.openProcedure definition.symbol.name) with
      | .ok _ builder => .ok () (session.close builder)
      | .error violation builder => .error (.violation violation) (session.close builder) :=
  LowerProgram.within_run session definition.symbol.name room definition.lower
    (definition.lower_procedures _)

def Decl.function? : Decl → Option Function
  | .function definition => some definition
  | _ => none

def functions (decls : List Decl) : List Function := decls.filterMap Decl.function?

theorem functions_append (earlier : List Decl) (definition : Function) (later : List Decl) :
    functions (earlier ++ .function definition :: later) = functions earlier ++ definition :: functions later := by
  rw [functions, List.filterMap_append]
  rfl

def bodies (decls : List Decl) : List (List Stmt) := [] :: (functions decls).map Function.body

theorem length_functions_cons (definition : Function) (tail : List Decl) :
    (functions (.function definition :: tail)).length = (functions tail).length + 1 := rfl

theorem functions_split (decls : List Decl) (index : Nat) (definition : Function)
    (listed : (functions decls)[index]? = some definition) :
    ∃ earlier later, decls = earlier ++ .function definition :: later ∧ (functions earlier).length = index := by
  induction decls generalizing index with
  | nil => cases listed
  | cons decl tail ih =>
      cases decl with
      | global symbol =>
          obtain ⟨earlier, later, split, counted⟩ := ih index listed
          exact ⟨.global symbol :: earlier, later, by rw [split]; rfl, counted⟩
      | formal symbol =>
          obtain ⟨earlier, later, split, counted⟩ := ih index listed
          exact ⟨.formal symbol :: earlier, later, by rw [split]; rfl, counted⟩
      | function first =>
          have listedTail : (first :: functions tail)[index]? = some definition := listed
          cases index with
          | zero =>
              cases listedTail
              exact ⟨[], tail, rfl, rfl⟩
          | succ index =>
              obtain ⟨earlier, later, split, counted⟩ := ih index listedTail
              exact ⟨.function first :: earlier, later, by rw [split]; rfl, congrArg (· + 1) counted⟩

namespace Session

inductive Runs : Session → List Decl → Session → Prop where
  | nil (session : Session) : Runs session [] session
  | global (session after : Session) (symbol : Symbol) (tail : List Decl)
      (rest : Runs (session.bindGlobal symbol) tail after) : Runs session (.global symbol :: tail) after
  | function (session after : Session) (definition : Function) (builder : Builder) (tail : List Decl)
      (lowered : definition.lower (session.openProcedure definition.symbol.name) = .ok () builder)
      (rest : Runs (session.close builder) tail after) : Runs session (.function definition :: tail) after

theorem runs_of_lower_all (decls : List Decl) (before after : Session)
    (room : before.procedures.length + (functions decls).length ≤ 2 ^ 32)
    (ran : Decl.lowerAll decls before = .ok () after) : Runs before decls after := by
  induction decls generalizing before with
  | nil =>
      cases ran
      exact .nil _
  | cons decl tail ih =>
      obtain ⟨_, middle, first, rest⟩ := (bind_ok ..).mp ran
      cases decl with
      | global symbol =>
          cases first
          exact .global before after symbol tail (ih _ room rest)
      | formal symbol => cases first
      | function definition =>
          rw [length_functions_cons] at room
          have free : before.program.procedures.size < 2 ^ 32 := by
            rw [size_procedures]
            omega
          rw [Decl.lower_function definition before free] at first
          cases lowered : definition.lower (before.openProcedure definition.symbol.name) with
          | error violation builder => simp [lowered] at first
          | ok _ builder =>
              simp only [lowered, EStateM.Result.ok.injEq, true_and] at first
              subst middle
              refine .function before after definition builder tail lowered (ih _ ?_ rest)
              simp only [procedures_close, List.length_append, List.length_singleton]
              omega

theorem Runs.lower_all {before after : Session} {decls : List Decl} (runs : Runs before decls after)
    (room : before.procedures.length + (functions decls).length ≤ 2 ^ 32) :
    Decl.lowerAll decls before = .ok () after := by
  induction runs with
  | nil session => rfl
  | global session after symbol tail rest ih => exact (bind_ok ..).mpr ⟨(), _, rfl, ih room⟩
  | function session after definition builder tail lowered rest ih =>
      rw [length_functions_cons] at room
      have free : session.program.procedures.size < 2 ^ 32 := by
        rw [size_procedures]
        omega
      refine (bind_ok ..).mpr ⟨(), session.close builder, ?_, ih ?_⟩
      · rw [Decl.lower_function definition session free, lowered]
      · rw [procedures_close, List.length_append, List.length_singleton]
        omega

theorem Runs.append {before middle after : Session} {front back : List Decl} (first : Runs before front middle)
    (second : Runs middle back after) : Runs before (front ++ back) after := by
  induction first with
  | nil session => exact second
  | global session middle symbol tail rest ih => exact .global session after symbol _ (ih second)
  | function session middle definition builder tail lowered rest ih =>
      exact .function session after definition builder _ lowered (ih second)

theorem Runs.split {before after : Session} (front : List Decl) {back : List Decl}
    (runs : Runs before (front ++ back) after) : ∃ middle, Runs before front middle ∧ Runs middle back after := by
  induction front generalizing before with
  | nil => exact ⟨before, .nil before, runs⟩
  | cons decl tail ih =>
      cases runs with
      | global _ _ symbol _ rest =>
          obtain ⟨middle, first, second⟩ := ih rest
          exact ⟨middle, .global before middle symbol tail first, second⟩
      | function _ _ definition builder _ lowered rest =>
          obtain ⟨middle, first, second⟩ := ih rest
          exact ⟨middle, .function before middle definition builder tail lowered first, second⟩

theorem Runs.procedures_prefix {before after : Session} {decls : List Decl} (runs : Runs before decls after) :
    before.procedures <+: after.procedures := by
  induction runs with
  | nil session => exact List.prefix_refl _
  | global session after symbol tail rest ih => exact ih
  | function session after definition builder tail lowered rest ih =>
      rw [procedures_close] at ih
      exact (List.prefix_append _ _).trans ih

theorem Runs.length_procedures {before after : Session} {decls : List Decl} (runs : Runs before decls after) :
    after.procedures.length = before.procedures.length + (functions decls).length := by
  induction runs with
  | nil session => rfl
  | global session after symbol tail rest ih => exact ih
  | function session after definition builder tail lowered rest ih =>
      rw [ih, length_functions_cons, procedures_close, List.length_append, List.length_singleton]
      omega

theorem Runs.closed_listed {session after : Session} {builder : Builder} {later : List Decl}
    (rest : Runs (session.close builder) later after) :
    after.procedures[session.procedures.length]? = some builder.procedure := by
  obtain ⟨added, grown⟩ := rest.procedures_prefix
  rw [← grown, procedures_close]
  simp

theorem Runs.at_function {before after : Session} {earlier later : List Decl} {definition : Function}
    (runs : Runs before (earlier ++ .function definition :: later) after) :
    ∃ middle builder, Runs before earlier middle ∧
      definition.lower (middle.openProcedure definition.symbol.name) = .ok () builder ∧
      Runs (middle.close builder) later after ∧
      after.procedures[before.procedures.length + (functions earlier).length]? = some builder.procedure := by
  obtain ⟨middle, first, rest⟩ := runs.split earlier
  cases rest with
  | function _ _ _ builder _ lowered rest =>
      refine ⟨middle, builder, first, lowered, rest, ?_⟩
      rw [← first.length_procedures]
      exact rest.closed_listed

theorem Runs.procedure_cases {decls : List Decl} {after : Session} (runs : Runs .initial decls after) (index : Nat)
    (procedure : Procedure) (listed : after.procedures[index]? = some procedure) :
    index = 0 ∧ procedure = .empty Program.initId "init" ∨
      ∃ earlier definition later middle builder, decls = earlier ++ .function definition :: later ∧
        index = (functions earlier).length + 1 ∧ Runs .initial earlier middle ∧
        definition.lower (middle.openProcedure definition.symbol.name) = .ok () builder ∧
        Runs (middle.close builder) later after ∧ builder.procedure = procedure := by
  have start : Session.initial.procedures.length = 1 := rfl
  cases index with
  | zero =>
      obtain ⟨added, grown⟩ := runs.procedures_prefix
      rw [← grown] at listed
      exact .inl ⟨rfl, (Option.some.inj listed).symm⟩
  | succ index =>
      have inside := (List.getElem?_eq_some_iff.mp listed).1
      rw [runs.length_procedures, start] at inside
      obtain ⟨definition, at_⟩ : ∃ definition, (functions decls)[index]? = some definition :=
        ⟨_, List.getElem?_eq_getElem (by omega)⟩
      obtain ⟨earlier, later, rfl, counted⟩ := functions_split decls index definition at_
      obtain ⟨middle, builder, first, lowered, rest, found⟩ := runs.at_function
      rw [start, counted, Nat.add_comm, listed] at found
      exact .inr ⟨earlier, definition, later, middle, builder, rfl, by rw [counted], first, lowered, rest,
        (Option.some.inj found).symm⟩

theorem Runs.procedure_body {decls : List Decl} {after : Session} (runs : Runs .initial decls after) (index : Nat)
    (procedure : Procedure) (listed : after.procedures[index]? = some procedure) :
    ∃ body, (bodies decls)[index]? = some body ∧
      (body = [] ∧ procedure = .empty Program.initId "init" ∨
        ∃ earlier definition later middle builder, decls = earlier ++ .function definition :: later ∧
          definition.body = body ∧ Runs .initial earlier middle ∧
          definition.lower (middle.openProcedure definition.symbol.name) = .ok () builder ∧
          builder.procedure = procedure) := by
  rcases runs.procedure_cases index procedure listed with ⟨rfl, empty⟩ | entry
  · exact ⟨[], rfl, .inl ⟨rfl, empty⟩⟩
  · obtain ⟨earlier, definition, later, middle, builder, rfl, rfl, first, lowered, _, same⟩ := entry
    refine ⟨definition.body, ?_, .inr ⟨earlier, definition, later, middle, builder, rfl, rfl, first, lowered, same⟩⟩
    rw [bodies, functions_append]
    simp

theorem Runs.procedures_forall {before after : Session} {decls : List Decl} (runs : Runs before decls after)
    (holds : Procedure → Prop) (start : ∀ procedure ∈ before.procedures, holds procedure)
    (each : ∀ (definition : Function) (session : Session) (builder : Builder),
      definition.lower (session.openProcedure definition.symbol.name) = .ok () builder →
        holds builder.procedure) : ∀ procedure ∈ after.procedures, holds procedure := by
  induction runs with
  | nil session => exact start
  | global session after symbol tail rest ih => exact ih start
  | function session after definition builder tail lowered rest ih =>
      apply ih
      intro procedure member
      rw [procedures_close, List.mem_append, List.mem_singleton] at member
      rcases member with earlier | rfl
      · exact start procedure earlier
      · exact each definition session builder lowered

theorem Runs.function_at {before after : Session} {decls : List Decl} (runs : Runs before decls after)
    (index : Nat) (definition : Function) (listed : (functions decls)[index]? = some definition) :
    ∃ earlier later middle builder, decls = earlier ++ .function definition :: later ∧
      Runs before earlier middle ∧
      definition.lower (middle.openProcedure definition.symbol.name) = .ok () builder ∧
      Runs (middle.close builder) later after ∧
      after.procedures[before.procedures.length + index]? = some builder.procedure := by
  obtain ⟨earlier, later, rfl, counted⟩ := functions_split decls index definition listed
  obtain ⟨middle, builder, first, lowered, rest, found⟩ := runs.at_function
  rw [counted] at found
  exact ⟨earlier, later, middle, builder, rfl, first, lowered, rest, found⟩

end Session

def Session.programOf : EStateM.Result Failure Session Unit → Except Failure Program
  | .ok _ session => .ok session.program
  | .error failure _ => .error failure

def Session.answerOf : EStateM.Result Failure Session Unit → Except Failure Program × Array Event
  | .ok _ session => (.ok session.program, session.log.push
      (.programLowered session.program.procedures.size session.program.globals.size session.program.strings.size))
  | .error failure session => (.error failure, session.log)

theorem lower_outcome (decls : List Decl) : lower decls = Session.answerOf (Decl.lowerAll decls .initial) := by
  cases ran : Decl.lowerAll decls .initial with
  | ok _ session =>
      have finished : lowerDecls decls .initial = _ := bind_of_ok _ _ _ _ _ ran
      rw [lower, EStateM.run, finished]
      rfl
  | error failure session =>
      have stopped : lowerDecls decls .initial = _ := bind_of_error _ _ _ _ _ ran
      rw [lower, EStateM.run, stopped]
      rfl

theorem lower_result (decls : List Decl) :
    (lower decls).1 = Session.programOf (Decl.lowerAll decls .initial) := by
  rw [lower_outcome]
  cases Decl.lowerAll decls .initial with
  | ok _ session => rfl
  | error failure session => rfl

theorem runs_of_accepted (decls : List Decl) (program : Program) (log : Array Event)
    (few : (functions decls).length < 2 ^ 32) (accepted : lower decls = (.ok program, log)) :
    ∃ session, Session.Runs .initial decls session ∧ session.program = program := by
  have result := lower_result decls
  rw [accepted] at result
  cases ran : Decl.lowerAll decls .initial with
  | error failure session => simp [ran, Session.programOf] at result
  | ok _ session =>
      simp only [ran, Session.programOf, Except.ok.injEq] at result
      refine ⟨session, Session.runs_of_lower_all decls .initial session ?_ ran, result.symm⟩
      change 1 + (functions decls).length ≤ 2 ^ 32
      omega

theorem accepted_of_runs (decls : List Decl) (session : Session) (few : (functions decls).length < 2 ^ 32)
    (runs : Session.Runs .initial decls session) : ∃ log, lower decls = (.ok session.program, log) := by
  have room : Session.initial.procedures.length + (functions decls).length ≤ 2 ^ 32 := by
    change 1 + _ ≤ _
    omega
  refine ⟨(lower decls).2, Prod.ext ?_ rfl⟩
  rw [lower_result, runs.lower_all room]
  rfl

theorem accepted_of_is_ok (decls : List Decl) (succeeds : (lower decls).1.isOk = true) :
    ∃ lowered log, lower decls = (.ok lowered, log) := by
  cases ran : (lower decls).1 with
  | error failure =>
      rw [ran] at succeeds
      cases succeeds
  | ok lowered => exact ⟨lowered, (lower decls).2, by rw [← ran]⟩

theorem listed_of_lt (decls : List Decl) (lowered : Program) (log : Array Event)
    (accepted : lower decls = (.ok lowered, log)) (index : Nat)
    (inside : index < (lower decls).1.toOption.elim 0 fun lowered => lowered.procedures.items.size) :
    ∃ procedure, lowered.procedures.items[index]? = some procedure := by
  rw [accepted] at inside
  exact ⟨_, Array.getElem?_eq_getElem inside⟩

end ThreeAddress
