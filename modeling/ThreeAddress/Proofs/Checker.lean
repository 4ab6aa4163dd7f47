import ThreeAddress.Proofs.Declarations
import ThreeAddress.Proofs.Temporaries

set_option autoImplicit false

namespace ThreeAddress

open Lower

abbrev Scope := List (Handle .symbol)

mutual

def Expr.check (scope : Scope) : Expr → Except Violation Unit
  | .int .. | .bool .. | .string .. | .eh _ => .ok ()
  | .name _ symbol => if symbol.id ∈ scope then .ok () else .error (.unboundIdentifier symbol.name)
  | .call _ callee args =>
      match callee.type with
      | .function _ result => do
          Expr.checkAll scope args
          if result = .void then .error (.voidValue callee.name) else .ok ()
      | _ => .error (.notAFunction callee.name)
  | .unary _ _ operand => operand.check scope
  | .binary _ op lhs rhs =>
      match op with
      | .add | .div => do
          rhs.check scope
          lhs.check scope
      | _ => do
          lhs.check scope
          rhs.check scope

def Expr.checkAll (scope : Scope) : List Expr → Except Violation Unit
  | [] => .ok ()
  | expr :: tail => do
      expr.check scope
      Expr.checkAll scope tail

end

mutual

/- The scope that a statement leaves behind. Blocks open no scope of their own: what is
   declared inside one stays bound after it. -/
def Stmt.check (scope : Scope) : Stmt → Except Violation Scope
  | .localVariable symbol | .localFormal symbol => .ok (symbol.id :: scope)
  | .localFunction symbol _ _ => .error (.functionAtLocalScope symbol.name)
  | .assign dst src => do
      dst.check scope
      src.check scope
      return scope
  | .maybe dst first second => do
      dst.check scope
      first.check scope
      second.check scope
      return scope
  | .increment expr | .decrement expr | .write expr | .read expr | .ret (some expr) => do
      expr.check scope
      return scope
  | .ifThen cond body | .whileDo cond body => do
      cond.check scope
      Stmt.checkAll scope body
  | .ifElse cond positive negative => do
      cond.check scope
      let after ← Stmt.checkAll scope positive
      Stmt.checkAll after negative
  | .call callee args =>
      match callee.type with
      | .function _ _ => do
          Expr.checkAll scope args
          return scope
      | _ => .error (.notAFunction callee.name)
  | .ret none => .ok scope

def Stmt.checkAll (scope : Scope) : List Stmt → Except Violation Scope
  | [] => .ok scope
  | stmt :: tail => do
      let after ← stmt.check scope
      Stmt.checkAll after tail

end

def Decl.checkAll (globals : Scope) : List Decl → Except Violation Unit
  | [] => .ok ()
  | .global symbol :: tail => Decl.checkAll (symbol.id :: globals) tail
  | .formal symbol :: _ => .error (.formalAtGlobalScope symbol.name)
  | .function definition :: tail => do
      let _ ← Stmt.checkAll (definition.formals.map Symbol.id ++ globals) definition.body
      Decl.checkAll globals tail

def check (decls : List Decl) : Except Violation Unit := Decl.checkAll [] decls

def Agrees (scope : Scope) (builder : Builder) : Prop :=
  ∀ symbol, symbol ∈ scope ↔ (builder.slot? symbol).isSome = true

theorem agrees_bind (scope : Scope) (builder after : Builder) (symbol : Symbol) (agrees : Agrees scope builder)
    (program : after.program = builder.program)
    (bindings : after.procedure.bindings = builder.procedure.bindings.insert symbol.id (.ofSymbol symbol)) :
    Agrees (symbol.id :: scope) after := by
  intro query
  have before := agrees query
  simp only [Builder.slot?, Procedure.slot?, Program.global?, program, bindings, HandleMap.get?_insert,
    List.mem_cons] at before ⊢
  by_cases same : query = symbol.id
  · simp [same]
  · simpa [same] using before

theorem agrees_same (scope : Scope) (builder after : Builder) (agrees : Agrees scope builder)
    (slots : ∀ symbol, after.slot? symbol = builder.slot? symbol) : Agrees scope after := by
  intro query
  rw [slots]
  exact agrees query

theorem ok_pure {α : Type} (value : α) : (Except.ok value : Except Violation α) = pure value := rfl

theorem error_map {α β : Type} (violation : Violation) (f : α → β) :
    f <$> (Except.error violation : Except Violation α) = .error violation := rfl

theorem error_then {α β : Type} (violation : Violation) (rest : α → Except Violation β) :
    (Except.error violation >>= rest) = .error violation := rfl

namespace Mark

def judge (scope : Scope) : Mark → Except Violation Scope
  | .use symbol => if symbol.id ∈ scope then .ok scope else .error (.unboundIdentifier symbol.name)
  | .check (some violation) => .error violation
  | .declare symbol => .ok (symbol.id :: scope)
  | _ => .ok scope

def judgeAll (scope : Scope) : List Mark → Except Violation Scope
  | [] => .ok scope
  | mark :: tail => do
      let after ← mark.judge scope
      judgeAll after tail

theorem judge_append (scope : Scope) (front back : List Mark) :
    judgeAll scope (front ++ back) = judgeAll scope front >>= fun after => judgeAll after back := by
  induction front generalizing scope with
  | nil => rfl
  | cons mark tail ih => simp only [List.cons_append, judgeAll, ih, bind_assoc]

end Mark

def Verdict {α : Type} : Except Violation Scope → EStateM.Result Violation Builder α → Prop
  | .ok scope, .ok _ builder => Agrees scope builder
  | .error expected, .error violation _ => violation = expected
  | _, _ => False

namespace Builder

variable {scope : Scope} {mark : Mark} {marks : List Mark} {before after : Builder} {violation : Violation}

theorem Step.judged (step : Step before mark after) (agrees : Agrees scope before) :
    ∃ left, mark.judge scope = .ok left ∧ Agrees left after := by
  have straight := step.straight
  cases step with
  | use symbol bound => exact ⟨scope, if_pos ((agrees symbol.id).mpr bound), agrees⟩
  | bindLocal symbol => exact ⟨_, rfl, agrees_bind scope before _ symbol agrees rfl rfl⟩
  | bindFormal symbol => exact ⟨_, rfl, agrees_bind scope before _ symbol agrees rfl rfl⟩
  | run | call => exact ⟨scope, rfl, agrees_same scope before _ agrees (straight rfl).slots⟩
  | receive formals listed => exact ⟨scope, rfl, agrees_same scope before _ agrees (before.slot_receive 1 formals)⟩
  | text | check | compute | emit | say | label | test | jump | land => exact ⟨scope, rfl, agrees⟩

theorem Trace.judged (trace : Trace before marks after) (agrees : Agrees scope before) :
    ∃ left, Mark.judgeAll scope marks = .ok left ∧ Agrees left after := by
  induction trace generalizing scope with
  | nil builder => exact ⟨scope, rfl, agrees⟩
  | cons before middle after mark marks step rest ih =>
      obtain ⟨between, checked, kept⟩ := step.judged agrees
      rw [Mark.judgeAll, checked]
      exact ih kept

theorem Stops.judged (stops : Stops before mark violation) (agrees : Agrees scope before) :
    mark.judge scope = .error violation := by
  cases stops with
  | use symbol missing =>
      refine if_neg fun bound => ?_
      have present := (agrees symbol.id).mp bound
      rw [missing] at present
      cases present
  | check violation => rfl

end Builder

theorem Lower.Goes.verdict {α : Type} {scope : Scope} {marks : List Mark} {good : α → Builder → Prop}
    {before : Builder} {result : EStateM.Result Violation Builder α} (goes : Goes marks good before result)
    (agrees : Agrees scope before) : Verdict (Mark.judgeAll scope marks) result := by
  cases result with
  | ok answer after =>
      obtain ⟨left, checked, kept⟩ := goes.1.judged agrees
      rw [checked]
      exact kept
  | error violation after =>
      obtain ⟨front, stop, back, rfl, trace, stops⟩ := goes
      obtain ⟨left, checked, kept⟩ := trace.judged agrees
      have failed : Mark.judgeAll left (stop :: back) = .error violation := by
        rw [Mark.judgeAll, stops.judged kept]
        rfl
      rw [Mark.judge_append, checked]
      exact (congrArg (Verdict · (.error violation after)) failed).mpr rfl

theorem Expr.check_binary (scope : Scope) (type : DataType) (op : BinaryOp) (lhs rhs : Expr) :
    (Expr.binary type op lhs rhs).check scope =
      if op.rightFirst then rhs.check scope >>= fun _ => lhs.check scope
      else lhs.check scope >>= fun _ => rhs.check scope := by
  cases op <;> rfl

section Marks

attribute [local simp] ok_pure error_map error_then Mark.judge_append Mark.judgeAll Mark.judge

mutual

theorem Expr.check_marks (expr : Expr) (scope : Scope) :
    Mark.judgeAll scope expr.marks = expr.check scope >>= fun _ => .ok scope := by
  cases expr with
  | int | bool | string | eh => rfl
  | name type symbol =>
      rw [Expr.check]
      by_cases bound : symbol.id ∈ scope
      · simp [Expr.marks, bound]
      · simp [Expr.marks, bound]
  | call type callee args =>
      have inside := Expr.check_marks_all args scope
      rw [Expr.check, Expr.marks]
      cases typed : callee.type with
      | function params result =>
          have callable : callee.uncallable? = none := by simp [Symbol.uncallable?, typed, DataType.result?]
          by_cases void : result = .void
          · have missing : callee.valueless? = some (.voidValue callee.name) := by
              simp [Symbol.valueless?, typed, DataType.result?, void]
            simp [inside, callable, missing, void]
          · have present : callee.valueless? = none := by simp [Symbol.valueless?, typed, DataType.result?, void]
            simp [inside, callable, present, void]
      | int | bool | string | void =>
          have wrong : callee.uncallable? = some (.notAFunction callee.name) := by
            simp [Symbol.uncallable?, typed, DataType.result?]
          simp [wrong]
  | unary type op operand => simp [Expr.marks, Expr.check, Expr.check_marks operand]
  | binary type op lhs rhs =>
      rw [Expr.marks, Expr.check_binary]
      split <;> simp [Expr.check_marks lhs, Expr.check_marks rhs]

theorem Expr.check_marks_all (exprs : List Expr) (scope : Scope) :
    Mark.judgeAll scope (Expr.marksAll exprs) = Expr.checkAll scope exprs >>= fun _ => .ok scope := by
  cases exprs with
  | nil => rfl
  | cons expr tail =>
      simp [Expr.marksAll, Expr.checkAll, Expr.check_marks expr, Expr.check_marks_all tail]

end

theorem Expr.check_literal (value : Expr) (text : String) (literal : value.literal? = some text) (scope : Scope) :
    value.check scope = .ok () := by
  rw [value.eq_string_of_literal text literal]
  rfl

mutual

theorem Stmt.check_marks (stmt : Stmt) (scope : Scope) : Mark.judgeAll scope stmt.marks = stmt.check scope := by
  cases stmt with
  | write value =>
      rw [Stmt.marks, Stmt.check]
      cases literal : value.literal? with
      | some text => simp [value.check_literal text literal]
      | none => simp [Expr.check_marks]
  | ifThen cond body => simp [Stmt.marks, Stmt.check, Expr.check_marks, Stmt.check_marks_all body]
  | ifElse cond positive negative =>
      simp [Stmt.marks, Stmt.check, Expr.check_marks, Stmt.check_marks_all positive, Stmt.check_marks_all negative]
  | whileDo cond body => simp [Stmt.marks, Stmt.check, Expr.check_marks, Stmt.check_marks_all body]
  | call callee args =>
      have inside := Expr.check_marks_all args scope
      rw [Stmt.check, Stmt.marks]
      cases typed : callee.type with
      | function params result =>
          have callable : callee.uncallable? = none := by simp [Symbol.uncallable?, typed, DataType.result?]
          simp [inside, callable]
      | int | bool | string | void =>
          have wrong : callee.uncallable? = some (.notAFunction callee.name) := by
            simp [Symbol.uncallable?, typed, DataType.result?]
          simp [wrong]
  | ret value => cases value <;> simp [Stmt.marks, Stmt.check, Expr.check_marks]
  | localVariable | localFormal | localFunction | assign | maybe | increment | decrement | read =>
      simp [Stmt.marks, Stmt.check, Expr.check_marks]

theorem Stmt.check_marks_all (stmts : List Stmt) (scope : Scope) :
    Mark.judgeAll scope (Stmt.marksAll stmts) = Stmt.checkAll scope stmts := by
  cases stmts with
  | nil => rfl
  | cons stmt tail => simp [Stmt.marksAll, Stmt.checkAll, Stmt.check_marks stmt, Stmt.check_marks_all tail]

end

end Marks

theorem Stmt.lower_all_verdict (stmts : List Stmt) (scope : Scope) (builder : Builder)
    (agrees : Agrees scope builder) : Verdict (Stmt.checkAll scope stmts) (Stmt.lowerAll stmts builder) := by
  rw [← Stmt.check_marks_all]
  exact (Stmt.lower_all_goes stmts builder).verdict agrees

theorem bind_formals_agrees (scope : Scope) (builder : Builder) (formals : List Symbol)
    (agrees : Agrees scope builder) :
    Agrees (formals.map Symbol.id ++ scope) (builder.bindFormals formals) := by
  induction formals generalizing scope builder with
  | nil => exact agrees
  | cons formal tail ih =>
      have bound := ih (formal.id :: scope) _ (agrees_bind scope builder (builder.bindFormal formal) formal
        agrees rfl rfl)
      intro symbol
      rw [Builder.bindFormals, ← bound symbol]
      simp [or_left_comm]

theorem enter_agrees (globals : Scope) (session : Session) (definition : Function)
    (bound : ∀ symbol, symbol ∈ globals ↔ (session.program.global? symbol).isSome = true) :
    Agrees (definition.formals.map Symbol.id ++ globals)
      ((session.openProcedure definition.symbol.name).enter definition) := by
  have opened : Agrees globals (session.openProcedure definition.symbol.name) := bound
  exact agrees_same _ _ _ (bind_formals_agrees globals _ definition.formals opened) (Builder.slot_receive _ 1 _)

def SameVerdict : Except Violation Unit → EStateM.Result Failure Session Unit → Prop
  | .ok _, .ok _ _ => True
  | .error expected, .error failure _ => failure = .violation expected
  | _, _ => False

section Declarations

variable (globals : Scope) (session : Session)
  (bound : ∀ symbol, symbol ∈ globals ↔ (session.program.global? symbol).isSome = true)

include bound

theorem bind_global_agrees (symbol : Symbol) :
    ∀ query, query ∈ symbol.id :: globals ↔ ((session.bindGlobal symbol).program.global? query).isSome = true := by
  intro query
  have before := bound query
  simp only [Session.bindGlobal, Program.bindGlobal, Program.global?, HandleMap.get?_insert, List.mem_cons] at before ⊢
  by_cases same : query = symbol.id
  · simp [same]
  · simpa [same] using before

theorem Function.lower_verdict (definition : Function) (free : session.program.procedures.size < 2 ^ 32) :
    (∃ expected last, Stmt.checkAll (definition.formals.map Symbol.id ++ globals) definition.body = .error expected ∧
        (Decl.function definition).lower session = .error (.violation expected) last) ∨
      ∃ scope builder, Stmt.checkAll (definition.formals.map Symbol.id ++ globals) definition.body = .ok scope ∧
        definition.lower (session.openProcedure definition.symbol.name) = .ok () builder ∧
        (Decl.function definition).lower session = .ok () (session.close builder) := by
  have body := Stmt.lower_all_verdict definition.body _ _ (enter_agrees globals session definition bound)
  have ran := Decl.lower_function definition session free
  rw [Function.lower_run] at ran
  cases checked : Stmt.checkAll (definition.formals.map Symbol.id ++ globals) definition.body with
  | error expected =>
      rw [checked] at body
      cases lowered : Stmt.lowerAll definition.body
          ((session.openProcedure definition.symbol.name).enter definition) with
      | ok _ last => simp only [lowered, Verdict] at body
      | error violation last =>
          simp only [lowered, Verdict] at body ran
          exact .inl ⟨expected, _, rfl, body ▸ ran⟩
  | ok scope =>
      rw [checked] at body
      cases lowered : Stmt.lowerAll definition.body
          ((session.openProcedure definition.symbol.name).enter definition) with
      | error violation last => simp only [lowered, Verdict] at body
      | ok _ last =>
          simp only [lowered] at ran
          exact .inr ⟨scope, last.leave, rfl, (Function.lower_ok ..).mpr ⟨last, lowered, rfl⟩, ran⟩

end Declarations

theorem Decl.lower_all_verdict (decls : List Decl) (globals : Scope) (session : Session)
    (bound : ∀ symbol, symbol ∈ globals ↔ (session.program.global? symbol).isSome = true)
    (room : session.procedures.length + (functions decls).length ≤ 2 ^ 32) :
    SameVerdict (Decl.checkAll globals decls) (Decl.lowerAll decls session) := by
  induction decls generalizing globals session with
  | nil => trivial
  | cons decl tail ih =>
      cases decl with
      | global symbol =>
          exact ih (symbol.id :: globals) (session.bindGlobal symbol) (bind_global_agrees globals session bound symbol)
            room
      | formal symbol => exact rfl
      | function definition =>
          rw [length_functions_cons] at room
          have free : session.program.procedures.size < 2 ^ 32 := by
            rw [Session.size_procedures]
            omega
          rw [Decl.lowerAll, Decl.checkAll]
          rcases Function.lower_verdict globals session bound definition free with
            ⟨expected, last, checked, ran⟩ | ⟨scope, builder, checked, lowered, ran⟩
          · rw [checked, bind_of_error _ _ _ _ _ ran]
            exact rfl
          · rw [checked, bind_of_ok _ _ _ _ _ ran]
            refine ih globals (session.close builder) ?_ ?_
            · intro symbol
              rw [bound symbol, Program.global?, Program.global?, Session.close, definition.lower_globals _ _ lowered]
              rfl
            · rw [Session.procedures_close, List.length_append, List.length_singleton]
              omega

theorem initial_verdict (decls : List Decl) (few : (functions decls).length < 2 ^ 32) :
    SameVerdict (Decl.checkAll [] decls) (Decl.lowerAll decls .initial) := by
  apply Decl.lower_all_verdict
  · intro symbol
    constructor
    · intro member
      cases member
    · intro bound
      cases bound
  · change 1 + _ ≤ _
    omega

theorem lower_eq_check (decls : List Decl) (few : (functions decls).length < 2 ^ 32 - 1) :
    (lower decls).1.map (fun _ => ()) = (check decls).mapError .violation := by
  have same := initial_verdict decls (by omega)
  rw [lower_result, check]
  cases checked : Decl.checkAll [] decls with
  | ok _ =>
      cases ran : Decl.lowerAll decls .initial with
      | ok _ session => rfl
      | error failure session => simp only [checked, ran, SameVerdict] at same
  | error expected =>
      cases ran : Decl.lowerAll decls .initial with
      | ok _ session => simp only [checked, ran, SameVerdict] at same
      | error failure session =>
          simp only [checked, ran, SameVerdict] at same
          rw [same]
          rfl

namespace Sample

-- Several violations at once. The right operand of the sum is evaluated first, and there
-- the void call counts only after its argument.
def faulty : List Decl :=
  [.function ⟨main, [],
    [.whileDo (.ofBool true) [.localVariable step],
      .write (.applyBinary .add (.ofSymbol total) (.apply main [.ofSymbol step])),
      .localFunction halve [] []]⟩,
    .formal value]

end Sample

theorem lower_eq_check_sample :
    (functions Sample.faulty).length < 2 ^ 32 - 1 ∧
      (lower Sample.faulty).1.map (fun _ => ()) = .error (.violation (.voidValue "main")) :=
  ⟨by decide, (lower_eq_check Sample.faulty (by decide)).trans rfl⟩

end ThreeAddress
