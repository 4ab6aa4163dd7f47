import ThreeAddress.Proofs.AppendOnly
import ThreeAddress.Proofs.Checker
import ThreeAddress.Proofs.InPlace

set_option autoImplicit false

namespace ThreeAddress

open Lower

namespace Program

variable (program : Program) (id : Handle .procedure)

theorem procedure_faults :
    (∃ fault, program.procedure id = .error fault) ↔ program.procedures.size ≤ id.index := by
  rw [procedure, Arena.get, Arena.get?, Arena.size]
  cases found : program.procedures.items[id.index]? with
  | none => simpa using Array.getElem?_eq_none_iff.mp found
  | some item => simpa using (Array.getElem?_eq_some_iff.mp found).1

theorem on_procedure_faults {α : Type} (step : Procedure → α × Procedure) :
    (∃ fault, program.onProcedure id step = .error fault) ↔ program.procedures.size ≤ id.index := by
  rw [← program.procedure_faults id, onProcedure]
  cases found : program.procedure id with
  | error fault => simp [Bind.bind, Except.bind]
  | ok target =>
      have inside : id.index < program.procedures.size := by
        have reads : ¬ ∃ fault, program.procedure id = .error fault := by simp [found]
        rw [procedure_faults] at reads
        omega
      simp [Bind.bind, Except.bind, Pure.pure, Except.pure, setProcedure, Arena.set, inside]

end Program

namespace Builder

def stored (builder : Builder) (id : Handle .procedure) : Session :=
  ⟨{ builder.program with
      procedures := ⟨builder.program.procedures.items.setIfInBounds id.index builder.procedure⟩ }, builder.log⟩

def Holds (builder : Builder) (id : Handle .procedure) : Prop := id.index < builder.program.procedures.size

theorem procedure_stored (builder : Builder) (id : Handle .procedure) (room : builder.Holds id) :
    (builder.stored id).program.procedure id = .ok builder.procedure := by
  have inside : id.index < builder.program.procedures.items.size := room
  simp [stored, Program.procedure, Arena.get, Arena.get?, inside]

theorem set_procedure_stored (builder : Builder) (id : Handle .procedure) (room : builder.Holds id)
    (target : Procedure) :
    (builder.stored id).program.setProcedure id target =
      .ok (({ builder with procedure := target } : Builder).stored id).program := by
  have inside : id.index < builder.program.procedures.items.size := room
  have kept : id.index < (builder.stored id).program.procedures.size := by
    simpa [stored, Arena.size] using inside
  rw [Program.setProcedure, Arena.set, if_pos kept]
  simp [stored, Bind.bind, Except.bind, Pure.pure, Except.pure]

end Builder

namespace InPlace

-- A fault arises exactly where a handle is not below the number of procedures, or where a sum
-- does not fit in 64 bits.
structure Guarded : Prop where
  reads : ∀ (program : Program) (id : Handle .procedure),
    (∃ fault, program.procedure id = .error fault) ↔ program.procedures.size ≤ id.index
  changes : ∀ (program : Program) (id : Handle .procedure) (α : Type) (step : Procedure → α × Procedure),
    (∃ fault, program.onProcedure id step = .error fault) ↔ program.procedures.size ≤ id.index
  counters : ∀ (kind : Handle.Kind) (handle : Handle kind) (amount : UInt64),
    (∃ fault, handle.plus amount = .error fault) ↔ 2 ^ 64 ≤ handle.index + amount.toNat
  positions : ∀ index, (∃ fault, position index = .error fault) ↔ 2 ^ 64 ≤ index + 1

theorem sum_faults {α : Type} (sum : Nat) (answer : α) :
    (∃ fault, (if sum < 2 ^ 64 then .ok answer else .error .addOverflow : Except Fault α) = .error fault) ↔
      2 ^ 64 ≤ sum := by
  by_cases fits : sum < 2 ^ 64
  · rw [if_pos fits]
    simpa using fits
  · rw [if_neg fits]
    simpa using fits

theorem guarded : Guarded := by
  refine ⟨Program.procedure_faults, fun program id _ => program.on_procedure_faults id, ?_, ?_⟩
  · intro kind handle amount
    exact sum_faults (handle.index + amount.toNat) (Handle.ofNat (handle.index + amount.toNat) : Handle kind)
  · intro index
    exact sum_faults (index + 1) (index + 1)

end InPlace

def Mark.Short : Mark → Prop
  | .call _ args => args.length < 2 ^ 64
  | _ => True

def Function.Short (function : Function) : Prop :=
  function.formals.length < 2 ^ 64 ∧ ∀ mark ∈ Stmt.marksAll function.body, mark.Short

theorem Instr.translate_identity (instr : Instr) :
    instr.translate ⟨.identity, fun operand => operand, fun label => label⟩ = instr := by
  cases instr <;> rfl

namespace InPlace

open Bridge

def bridge (id : Handle .procedure) : Bridge Failure Session :=
  ⟨steps id, ⟨.identity, fun operand => operand, fun label => label⟩, Mark.Short,
    fun builder session => builder.Holds id ∧ session = builder.stored id⟩

def outcome {α : Type} (id : Handle .procedure) :
    EStateM.Result Violation Builder α → EStateM.Result Failure Session α
  | .ok answer builder => .ok answer (builder.stored id)
  | .error violation builder => .error (.violation violation) (builder.stored id)

section Steps

variable {id : Handle .procedure} (builder : Builder) (room : builder.Holds id)

theorem advance_run {kind : Handle.Kind} (counter : Handle kind) (session : Session) :
    advance counter session = .ok (counter, counter.next) session := by
  rw [advance, Handle.post_increment_run]
  rfl

theorem check_position (index : Nat) (session : Session) (small : index + 1 < 2 ^ 64) :
    LowerProgram.check (position index) session = .ok (index + 1) session := by
  rw [position, if_pos small]
  rfl

theorem fresh_label_stored : freshLabel (builder.stored id) = .ok builder.nextLabel (builder.addLabel.stored id) := by
  rw [freshLabel, bind_of_ok get _ _ _ _ rfl, bind_of_ok _ _ _ _ _ (advance_run _ _)]
  rfl

theorem pool_string_stored (text : String) :
    poolString text (builder.stored id) =
      .ok (.literal (.string builder.nextString) DataType.string.width) ((builder.addString text).stored id) := by
  rw [poolString, bind_of_ok get _ _ _ _ rfl, bind_of_ok _ _ _ _ _ (advance_run _ _)]
  rfl

include room

theorem procedure_read : procedure id (builder.stored id) = .ok builder.procedure (builder.stored id) := by
  rw [procedure, bind_of_ok get _ _ _ _ rfl, builder.procedure_stored id room]
  rfl

theorem on_procedure_stored {α : Type} (step : Procedure → α × Procedure) :
    onProcedure id step (builder.stored id) =
      .ok (step builder.procedure).1
        (({ builder with procedure := (step builder.procedure).2 } : Builder).stored id) := by
  have done : (builder.stored id).program.onProcedure id step =
      .ok ((step builder.procedure).1,
        (({ builder with procedure := (step builder.procedure).2 } : Builder).stored id).program) := by
    rw [Program.onProcedure, builder.procedure_stored id room]
    simp only [Bind.bind, Except.bind, builder.set_procedure_stored id room]
    rfl
  rw [onProcedure, bind_of_ok get _ _ _ _ rfl, done]
  rfl

theorem change_stored (step : Procedure → Procedure) :
    change id step (builder.stored id) =
      .ok () (({ builder with procedure := step builder.procedure } : Builder).stored id) :=
  on_procedure_stored builder room _

theorem emit_stored (instr : Instr) : emit id instr (builder.stored id) = .ok () ((builder.emit instr).stored id) :=
  change_stored builder room _

theorem place_stored (label : Handle .label) :
    place id label (builder.stored id) = .ok () ((builder.place label).stored id) := by
  rw [place, bind_of_ok _ _ _ _ _ (procedure_read builder room), bind_of_ok (note _) _ _ _ _ rfl]
  exact change_stored { builder with log := builder.log.push (.labelPlaced builder.procedure.name label) } room _

theorem storage_stored (symbol : Symbol) :
    storage id symbol (builder.stored id) = outcome id (Lower.storage symbol builder) := by
  have globals : (builder.stored id).program.global? symbol.id = builder.program.global? symbol.id := rfl
  rw [storage, bind_of_ok _ _ _ _ _ (procedure_read builder room), bind_of_ok get _ _ _ _ rfl, globals, storage_run,
    Builder.slot?]
  cases (builder.procedure.slot? symbol.id).or (builder.program.global? symbol.id) <;> rfl

end Steps

section Sequences

variable {id : Handle .procedure}

theorem receive_stored (formals : List Slot) (builder : Builder) (room : builder.Holds id) (index : Nat)
    (short : index + formals.length < 2 ^ 64) :
    receive id index formals (builder.stored id) = .ok () ((builder.receive (index + 1) formals).stored id) := by
  induction formals generalizing builder index with
  | nil => rfl
  | cons formal tail ih =>
      rw [List.length_cons] at short
      rw [receive, bind_of_ok _ _ _ _ _ (check_position index _ (by omega)),
        bind_of_ok _ _ _ _ _ (emit_stored builder room _)]
      exact ih (builder.emit (.getArg (index + 1) (.slot formal))) room (index + 1) (by omega)

theorem pass_stored (operands : List Operand) (builder : Builder) (room : builder.Holds id) (index : Nat)
    (short : index + operands.length < 2 ^ 64) :
    pass id index operands (builder.stored id) = .ok () ((builder.pass (index + 1) operands).stored id) := by
  induction operands generalizing builder index with
  | nil => rfl
  | cons operand tail ih =>
      rw [List.length_cons] at short
      rw [pass, bind_of_ok _ _ _ _ _ (check_position index _ (by omega)),
        bind_of_ok _ _ _ _ _ (emit_stored builder room _)]
      exact ih (builder.emit (.setArg (index + 1) operand)) room (index + 1) (by omega)

theorem bind_formals_stored (formals : List Symbol) (builder : Builder) (room : builder.Holds id) :
    (formals.forM fun formal => change id fun target => target.bindFormal formal) (builder.stored id) =
      .ok () ((builder.bindFormals formals).stored id) := by
  induction formals generalizing builder with
  | nil => rfl
  | cons formal tail ih =>
      rw [List.forM, bind_of_ok _ _ _ _ _ (change_stored builder room _)]
      exact ih (builder.bindFormal formal) room

end Sequences

section Bodies

variable {id : Handle .procedure}

theorem carries_step {α : Type} (work : Lower α) (other : LowerProgram α)
    (ran : ∀ builder, builder.Holds id → ∃ answer after, work builder = .ok answer after ∧
      other (builder.stored id) = .ok answer (after.stored id) ∧ after.Holds id) :
    (bridge id).Carries (fun answer => answer) work other := by
  apply carries_ok
  rintro builder _ ⟨room, rfl⟩
  obtain ⟨answer, after, first, second, stays⟩ := ran builder room
  exact ⟨answer, after, after.stored id, first, second, stays, rfl⟩

theorem change_carries (step : Procedure → Procedure) :
    (bridge id).Carries (fun answer => answer) (Lower.onProcedure step) (change id step) :=
  carries_step _ _ fun builder room => ⟨(), _, rfl, change_stored builder room step, room⟩

theorem sound (id : Handle .procedure) : (bridge id).Sound where
  int _ _ := rfl
  bool _ _ := rfl
  text _ := trivial
  emit instr := instr.translate_identity.symm ▸ change_carries _
  place label := carries_step _ _ fun builder room => ⟨(), _, rfl, place_stored builder room label, room⟩
  freshTemp width := carries_step _ _ fun builder room => ⟨_, _, rfl, on_procedure_stored builder room _, room⟩
  freshLabel := carries_step _ _ fun builder room => ⟨_, _, fresh_label_run builder, fresh_label_stored builder, room⟩
  poolString text :=
    carries_step _ _ fun builder room => ⟨_, _, pool_string_run text builder, pool_string_stored builder text, room⟩
  storage symbol _ := by
    rintro builder _ ⟨room, rfl⟩
    change (bridge id).Matches _ _ (storage id symbol (builder.stored id))
    rw [storage_stored builder room, storage_run]
    cases builder.slot? symbol.id with
    | none => exact ⟨rfl, room, rfl⟩
    | some slot => exact ⟨rfl, room, rfl⟩
  bindLocal _ _ := change_carries _
  bindFormal _ _ := change_carries _
  pass callee args operands short length := by
    have few : 0 + operands.length < 2 ^ 64 := by
      rw [Nat.zero_add, length]
      exact short
    change (bridge id).Carries _ _ (pass id 0 (operands.map fun operand => operand))
    rw [List.map_id']
    refine carries_step _ _ fun builder room => ⟨(), _, pass_run 1 operands builder,
      pass_stored operands builder room 0 few, ?_⟩
    rw [Builder.Holds, builder.program_pass]
    exact room

theorem body_carries (stmts : List Stmt) (short : ∀ mark ∈ Stmt.marksAll stmts, mark.Short) :
    (bridge id).Carries (fun answer => answer) (Stmt.lowerAll stmts) (Stmt.lowerAllIn (steps id) stmts) := by
  have carried := Stmt.lower_all_carries (sound id) stmts short
  have same : Stmt.renameAll (bridge id).into.toRenaming stmts = stmts := Stmt.rename_all_identity stmts
  rw [same] at carried
  exact carried

theorem lower_function_stored (function : Function) (short : function.Short) (builder : Builder)
    (room : builder.Holds id) (fresh : builder.procedure.formals = #[]) :
    lowerFunction id function (builder.stored id) = outcome id (function.lower builder) := by
  have bound : (builder.bindFormals function.formals).Holds id := by
    rw [Builder.Holds, Builder.program_bind_formals]
    exact room
  have entered : (builder.enter function).Holds id := by
    rw [Builder.Holds, Builder.program_enter]
    exact room
  have few : 0 + (builder.bindFormals function.formals).procedure.formals.toList.length < 2 ^ 64 := by
    rw [Builder.formals_bind_formals, fresh]
    simpa using short.1
  have received : receive id 0 (builder.bindFormals function.formals).procedure.formals.toList
      ((builder.bindFormals function.formals).stored id) = .ok () ((builder.enter function).stored id) :=
    receive_stored _ _ bound 0 few
  rw [Function.lower_run, lowerFunction, bind_of_ok _ _ _ _ _ (bind_formals_stored function.formals builder room),
    bind_of_ok _ _ _ _ _ (procedure_read _ bound), bind_of_ok _ _ _ _ _ received]
  rcases (body_carries function.body short.2 _ _ ⟨entered, rfl⟩).cases with
    ⟨_, last, _, ran, matched, stays, rfl⟩ | ⟨violation, last, _, ran, matched, stays, rfl⟩
  · rw [ran, bind_of_ok _ _ _ _ _ matched, bind_of_ok _ _ _ _ _ (procedure_read last stays)]
    rfl
  · rw [ran, bind_of_error _ _ _ _ _ matched]
    exact congrArg (fun reason => EStateM.Result.error (Failure.violation reason) _) violation.rename_identity

end Bodies

section Declarations

variable (session : Session) (name : String) (free : session.program.procedures.size < 2 ^ 32) (builder : Builder)
  (kept : builder.program.procedures = (session.openProcedure name).program.procedures)

include free kept

theorem opened_holds : builder.Holds session.program.procedures.nextHandle := by
  rw [Builder.Holds, LowerProgram.index_next_handle session free, kept]
  change _ < (session.program.procedures.items.push _).size
  rw [Array.size_push]
  omega

theorem stored_close : builder.stored session.program.procedures.nextHandle = session.close builder := by
  have inside : session.program.procedures.nextHandle.index < builder.program.procedures.size :=
    opened_holds session name free builder kept
  have closed := LowerProgram.stored_procedure session name free builder kept
  rw [Program.setProcedure, Arena.set, if_pos inside] at closed
  exact congrArg (Session.mk · builder.log) (Except.ok.inj closed)

end Declarations

theorem lower_function_eq (definition : Function) (short : definition.Short) (session : Session)
    (free : session.program.procedures.size < 2 ^ 32) :
    lowerDecl (.function definition) session = (Decl.function definition).lower session := by
  have start : (session.openProcedure definition.symbol.name).stored session.program.procedures.nextHandle =
      ⟨(session.openProcedure definition.symbol.name).program, session.log⟩ :=
    stored_close session definition.symbol.name free _ rfl
  have followed := lower_function_stored definition short (session.openProcedure definition.symbol.name)
    (opened_holds session definition.symbol.name free _ rfl) rfl
  have same : lowerDecl (.function definition) session = outcome session.program.procedures.nextHandle
      (definition.lower (session.openProcedure definition.symbol.name)) := by
    rw [← followed, start]
    rfl
  have kept := definition.lower_procedures (session.openProcedure definition.symbol.name)
  have expected := Decl.lower_function definition session free
  cases ran : definition.lower (session.openProcedure definition.symbol.name) with
  | ok _ builder =>
      simp only [ran] at kept expected
      rw [same, expected, ran, outcome, stored_close session _ free builder kept]
  | error violation builder =>
      simp only [ran] at kept expected
      rw [same, expected, ran, outcome, stored_close session _ free builder kept]

theorem lower_decls_eq (decls : List Decl) (session : Session)
    (room : session.procedures.length + (functions decls).length ≤ 2 ^ 32)
    (short : ∀ definition ∈ functions decls, definition.Short) :
    lowerDecls decls session = Decl.lowerAll decls session := by
  induction decls generalizing session with
  | nil => rfl
  | cons decl tail ih =>
      rw [lowerDecls, Decl.lowerAll]
      cases decl with
      | global symbol => exact ih (session.bindGlobal symbol) room short
      | formal symbol => rfl
      | function definition =>
          rw [length_functions_cons] at room
          have free : session.program.procedures.size < 2 ^ 32 := by
            rw [Session.size_procedures]
            omega
          have first := lower_function_eq definition (short definition List.mem_cons_self) session free
          have ran := Decl.lower_function definition session free
          cases lowered : definition.lower (session.openProcedure definition.symbol.name) with
          | ok _ builder =>
              simp only [lowered] at ran
              rw [bind_of_ok _ _ _ _ _ (first.trans ran), bind_of_ok _ _ _ _ _ ran]
              refine ih (session.close builder) ?_ fun other listed => short other (List.mem_cons_of_mem _ listed)
              rw [Session.procedures_close, List.length_append, List.length_singleton]
              omega
          | error violation builder =>
              simp only [lowered] at ran
              rw [bind_of_error _ _ _ _ _ (first.trans ran), bind_of_error _ _ _ _ _ ran]

-- All that a function is lowered to stands in a new procedure of its own, under the handle that
-- was given out for it; the procedures before it are what they were.
structure Lands (definition : Function) (before after : Session) : Prop where
  handle : before.program.procedures.nextHandle.index = before.procedures.length
  procedures : ∃ added, after.procedures = before.procedures ++ [added] ∧
    added.id = before.program.procedures.nextHandle ∧ added.name = definition.symbol.name ∧
    added = (reached (definition.lower (before.openProcedure definition.symbol.name))).procedure

theorem function_lands (definition : Function) (short : definition.Short) (session : Session)
    (free : session.program.procedures.size < 2 ^ 32) :
    Lands definition session (Session.reached (lowerDecl (.function definition) session)) := by
  have grown := definition.lower_reaches (session.openProcedure definition.symbol.name)
  have handle : session.program.procedures.nextHandle.index = session.procedures.length := by
    rw [LowerProgram.index_next_handle session free]
    exact session.size_procedures
  refine ⟨handle, _, ?_, grown.id, grown.name, rfl⟩
  rw [lower_function_eq definition short session free, Decl.lower_function definition session free]
  cases definition.lower (session.openProcedure definition.symbol.name) with
  | ok _ builder => exact session.procedures_close builder
  | error violation builder => exact session.procedures_close builder

end InPlace

theorem lower_ends (decls : List Decl) (few : (functions decls).length < 2 ^ 32) :
    (∃ program, (lower decls).1 = .ok program) ∨
      ∃ violation, (lower decls).1 = .error (.violation violation) := by
  have same := initial_verdict decls few
  rw [lower_result]
  cases ran : Decl.lowerAll decls .initial with
  | ok _ session => exact .inl ⟨session.program, rfl⟩
  | error failure session =>
      cases checked : Decl.checkAll [] decls with
      | ok _ => simp only [checked, ran, SameVerdict] at same
      | error violation =>
          simp only [checked, ran, SameVerdict] at same
          exact .inr ⟨violation, congrArg Except.error same⟩

theorem lowering_never_faults (decls : List Decl) (few : (functions decls).length < 2 ^ 32 - 1)
    (short : ∀ definition ∈ functions decls, definition.Short) :
    InPlace.Guarded ∧ InPlace.lowerProgram decls = lower decls ∧
    ((∃ program, (InPlace.lowerProgram decls).1 = .ok program) ∨
      ∃ violation, (InPlace.lowerProgram decls).1 = .error (.violation violation)) ∧
    ∀ (earlier : List Decl) (definition : Function) (later : List Decl) (session : Session),
      decls = earlier ++ .function definition :: later →
        InPlace.lowerDecls earlier .initial = .ok () session →
          InPlace.Lands definition session
            (Session.reached (InPlace.lowerDecl (.function definition) session)) := by
  have room : 1 + (functions decls).length ≤ 2 ^ 32 := by omega
  have same : InPlace.lowerProgram decls = lower decls := by
    rw [lower_outcome, InPlace.lowerProgram, InPlace.lower_decls_eq decls .initial room short]
  refine ⟨InPlace.guarded, same, ?_, ?_⟩
  · rw [same]
    exact lower_ends decls (by omega)
  · rintro earlier definition later session rfl ran
    rw [functions_append] at short
    rw [functions_append, List.length_append, List.length_cons] at room
    have start : Session.initial.procedures.length = 1 := rfl
    have before : Session.initial.procedures.length + (functions earlier).length ≤ 2 ^ 32 := by omega
    rw [InPlace.lower_decls_eq earlier .initial before fun other listed =>
      short other (List.mem_append_left _ listed)] at ran
    have runs := Session.runs_of_lower_all earlier .initial session before ran
    refine InPlace.function_lands definition (short definition (by simp)) session ?_
    rw [Session.size_procedures, runs.length_procedures]
    omega

theorem broken_never_faults :
    InPlace.lowerProgram (Sample.opening ++ [.function Sample.broken]) =
      lower (Sample.opening ++ [.function Sample.broken]) ∧
    (∃ violation, (InPlace.lowerProgram (Sample.opening ++ [.function Sample.broken])).1 =
      .error (.violation violation)) ∧
    ∃ session, InPlace.lowerDecls Sample.opening .initial = .ok () session ∧
      InPlace.Lands Sample.broken session
        (Session.reached (InPlace.lowerDecl (.function Sample.broken) session)) := by
  have short : ∀ definition ∈ functions (Sample.opening ++ [.function Sample.broken]), definition.Short := by
    intro definition listed
    have either : Sample.halveDefinition = definition ∨ Sample.broken = definition := by
      simpa [functions, Sample.opening, Decl.function?] using listed
    rcases either with rfl | rfl
    · simp [Function.Short, Sample.halveDefinition, Stmt.marksAll, Stmt.marks, Expr.applyBinary, Expr.ofSymbol,
        Expr.ofInt, Expr.marks, Mark.Short]
    · simp [Function.Short, Sample.broken, Stmt.marksAll, Stmt.marks, Expr.unspecified, Expr.ofString, Expr.marks,
        Expr.literal?, Mark.Short]
  obtain ⟨_, same, ends, lands⟩ := lowering_never_faults (Sample.opening ++ [.function Sample.broken]) (by decide) short
  refine ⟨same, ?_, ?_⟩
  · rcases ends with ⟨program, accepted⟩ | stopped
    · have fails : (InPlace.lowerProgram (Sample.opening ++ [.function Sample.broken])).1.isOk = false := by
        decide +kernel
      rw [accepted] at fails
      cases fails
    · exact stopped
  · have succeeds : (Session.programOf (InPlace.lowerDecls Sample.opening .initial)).isOk = true := by decide +kernel
    cases ran : InPlace.lowerDecls Sample.opening .initial with
    | ok _ session => exact ⟨session, rfl, lands _ _ [] session rfl ran⟩
    | error failure session =>
        rw [ran] at succeeds
        cases succeeds

end ThreeAddress
