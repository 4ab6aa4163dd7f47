import Mathlib.Algebra.GroupWithZero.Nat
import ThreeAddress.Proofs.Declarations
import ThreeAddress.Proofs.Maps

set_option autoImplicit false

namespace ThreeAddress

open Lower Builder

mutual

def Expr.texts : Expr → List String
  | .string _ text => [text]
  | .call _ _ args => Expr.textsAll args
  | .unary _ _ operand => operand.texts
  | .binary _ op lhs rhs =>
      match op with
      | .add | .div => rhs.texts ++ lhs.texts
      | _ => lhs.texts ++ rhs.texts
  | .int .. | .bool .. | .eh _ | .name .. => []

def Expr.textsAll : List Expr → List String
  | [] => []
  | expr :: tail => expr.texts ++ Expr.textsAll tail

end

mutual

def Stmt.texts : Stmt → List String
  | .assign dst src => dst.texts ++ src.texts
  | .maybe dst first second => dst.texts ++ first.texts ++ second.texts
  | .increment expr | .decrement expr | .write expr | .read expr | .ret (some expr) => expr.texts
  | .ifThen cond body => cond.texts ++ Stmt.textsAll body
  | .ifElse cond positive negative => cond.texts ++ Stmt.textsAll positive ++ Stmt.textsAll negative
  | .whileDo cond body => cond.texts ++ Stmt.textsAll body
  | .call _ args => Expr.textsAll args
  | .localVariable _ | .localFormal _ | .localFunction .. | .ret none => []

def Stmt.textsAll : List Stmt → List String
  | [] => []
  | stmt :: tail => stmt.texts ++ Stmt.textsAll tail

end

def texts (decls : List Decl) : List String :=
  (functions decls).flatMap fun definition => Stmt.textsAll definition.body

theorem texts_append (earlier later : List Decl) : texts (earlier ++ later) = texts earlier ++ texts later := by
  simp only [texts, functions, List.filterMap_append, List.flatMap_append]

mutual

def Stmt.labelCount : Stmt → Nat
  | .maybe .. => 2
  | .ifThen _ body => 1 + Stmt.labelCountAll body
  | .ifElse _ positive negative => 2 + (Stmt.labelCountAll positive + Stmt.labelCountAll negative)
  | .whileDo _ body => 2 + Stmt.labelCountAll body
  | _ => 0

def Stmt.labelCountAll : List Stmt → Nat
  | [] => 0
  | stmt :: tail => stmt.labelCount + Stmt.labelCountAll tail

end

def labelCount (decls : List Decl) : Nat :=
  ((functions decls).map fun definition => Stmt.labelCountAll definition.body).sum

namespace Program

def allocate (program : Program) (labels : Nat) (texts : List String) : Program :=
  { program with
    strings := program.strings.insertAll program.nextString texts
    nextLabel := program.nextLabel.raise labels
    nextString := program.nextString.raise texts.length }

theorem allocate_nothing (program : Program) : program.allocate 0 [] = program := by
  simp [allocate, HandleMap.insertAll]

theorem allocate_allocate (program : Program) (a b : Nat) (front back : List String) :
    (program.allocate a front).allocate b back = program.allocate (a + b) (front ++ back) := by
  simp only [allocate, HandleMap.insert_all_append, Handle.raise_raise, List.length_append]

end Program

theorem Builder.program_add_label (builder : Builder) : builder.addLabel.program = builder.program.allocate 1 [] := by
  simp [addLabel, nextLabel, Program.allocate, HandleMap.insertAll, Handle.next_eq_raise]

theorem Builder.program_add_string (builder : Builder) (text : String) :
    (builder.addString text).program = builder.program.allocate 0 [text] := by
  simp [addString, nextString, Program.allocate, HandleMap.insertAll, Handle.next_eq_raise]

structure Pooled (program : Program) (seen : List String) : Prop where
  counter : program.nextString = .ofNat seen.length
  kept : seen.length ≤ 2 ^ 32 → ∀ (i : Nat) (text : String), seen[i]? = some text →
    program.string? (.ofNat i) = some text

theorem Pooled.concat {program : Program} {seen : List String} (pooled : Pooled program seen) (text : String) :
    Pooled (program.allocate 0 [text]) (seen ++ [text]) := by
  constructor
  · change program.nextString.raise 1 = _
    rw [pooled.counter, ← Handle.next_eq_raise, Handle.next_of_nat, List.length_append, List.length_singleton]
  · intro room i other at_
    rw [List.length_append, List.length_singleton] at room
    change (program.strings.insert program.nextString text).get? _ = _
    rw [HandleMap.get?_insert, pooled.counter]
    rcases get_elem?_concat_cases seen text other i at_ with ⟨inside, at_⟩ | ⟨rfl, rfl⟩
    · have apart : (Handle.ofNat i : Handle .string) ≠ .ofNat seen.length := by
        intro same
        have indices := congrArg Handle.index same
        rw [Handle.index_of_nat, Handle.index_of_nat] at indices
        omega
      rw [if_neg apart]
      exact pooled.kept (by omega) i other at_
    · rw [if_pos rfl]

theorem Pooled.allocate {program : Program} {seen : List String} (pooled : Pooled program seen) (new : List String) :
    Pooled (program.allocate 0 new) (seen ++ new) := by
  induction new generalizing program seen with
  | nil =>
      rw [Program.allocate_nothing, List.append_nil]
      exact pooled
  | cons text tail ih =>
      have rest := ih (pooled.concat text)
      rwa [Program.allocate_allocate, List.append_assoc] at rest

theorem Pooled.extend {before after : Program} {seen : List String} (pooled : Pooled before seen) (new : List String)
    (strings : after.strings = before.strings.insertAll before.nextString new)
    (nextString : after.nextString = before.nextString.raise new.length) : Pooled after (seen ++ new) := by
  have allocated := pooled.allocate new
  refine ⟨nextString.trans allocated.counter, ?_⟩
  intro room i text at_
  rw [Program.string?, strings]
  exact allocated.kept room i text at_

def Pools (new : List String) (before after : Builder) : Prop :=
  ∀ seen, Pooled before.program seen → Pooled after.program (seen ++ new)

namespace Pools

variable {new later : List String} {before middle after : Builder}

theorem trans (first : Pools new before middle) (second : Pools later middle after) :
    Pools (new ++ later) before after := by
  intro seen pooled
  rw [← List.append_assoc]
  exact second _ (first seen pooled)

theorem same (strings : after.program.strings = before.program.strings)
    (counter : after.nextString = before.nextString) : Pools [] before after := by
  intro seen pooled
  rw [List.append_nil]
  refine ⟨counter.trans pooled.counter, ?_⟩
  intro room i text at_
  rw [Program.string?, strings]
  exact pooled.kept room i text at_

theorem then_same (first : Pools new before middle) (program : after.program = middle.program) :
    Pools new before after := by
  have done := first.trans (same (by rw [program]) (by rw [Builder.nextString, program]; rfl))
  rwa [List.append_nil] at done

end Pools

def Mark.texts : Mark → List String
  | .text literal | .say literal _ => [literal]
  | _ => []

def Mark.isLabel : Mark → Bool
  | .label => true
  | _ => false

namespace Builder

theorem program_pass (builder : Builder) (position : Nat) (operands : List Operand) :
    (builder.pass position operands).program = builder.program := by
  induction operands generalizing builder position with
  | nil => rfl
  | cons operand tail ih => exact ih _ (position + 1)

@[simp] theorem program_invoke (builder : Builder) (callee : Symbol) (operands : List Operand) :
    (builder.invoke callee operands).program = builder.program := builder.program_pass 1 operands

theorem Step.allocates {mark : Mark} {before after : Builder} (step : Step before mark after) :
    after.program = before.program.allocate (if mark.isLabel then 1 else 0) mark.texts := by
  cases step with
  | text text => exact before.program_add_string text
  | say text type => exact before.program_add_string text
  | label => exact before.program_add_label
  | run start callee args operands type lowered offered =>
      rw [program_invoke]
      exact before.program.allocate_nothing.symm
  | call start callee args operands result type value lowered offered =>
      exact (before.program_invoke callee operands).trans before.program.allocate_nothing.symm
  | receive formals listed =>
      rw [program_receive]
      exact before.program.allocate_nothing.symm
  | use | check | compute | emit | test | jump | land | bindLocal | bindFormal =>
      exact before.program.allocate_nothing.symm

theorem Trace.allocates {marks : List Mark} {before after : Builder} (trace : Trace before marks after) :
    after.program = before.program.allocate (marks.countP Mark.isLabel) (marks.flatMap Mark.texts) := by
  induction trace with
  | nil builder => exact builder.program.allocate_nothing.symm
  | cons before middle after mark marks step rest ih =>
      rw [ih, step.allocates, Program.allocate_allocate, List.countP_cons, Nat.add_comm, List.flatMap_cons]

theorem Trace.pools {marks : List Mark} {before after : Builder} (trace : Trace before marks after) :
    Pools (marks.flatMap Mark.texts) before after := by
  intro seen pooled
  have allocated := trace.allocates
  exact pooled.extend _ (congrArg Program.strings allocated) (congrArg Program.nextString allocated)

end Builder

mutual

theorem Expr.texts_marks (expr : Expr) : expr.marks.flatMap Mark.texts = expr.texts := by
  cases expr with
  | int | bool | string | eh | name => rfl
  | call type callee args => simp [Expr.marks, Expr.texts, Mark.texts, Expr.texts_marks_all args]
  | unary type op operand => simp [Expr.marks, Expr.texts, Mark.texts, Expr.texts_marks operand]
  | binary type op lhs rhs =>
      cases op <;> simp [Expr.marks, Expr.texts, Mark.texts, BinaryOp.rightFirst, Expr.texts_marks lhs, Expr.texts_marks rhs]

theorem Expr.texts_marks_all (exprs : List Expr) :
    (Expr.marksAll exprs).flatMap Mark.texts = Expr.textsAll exprs := by
  cases exprs with
  | nil => rfl
  | cons expr tail => simp [Expr.marksAll, Expr.textsAll, Expr.texts_marks expr, Expr.texts_marks_all tail]

end

theorem Expr.texts_binary (type : DataType) (op : BinaryOp) (lhs rhs : Expr) :
    (Expr.binary type op lhs rhs).texts =
      if op.rightFirst then rhs.texts ++ lhs.texts else lhs.texts ++ rhs.texts := by
  cases op <;> rfl

theorem Expr.texts_literal (value : Expr) (text : String) (literal : value.literal? = some text) :
    value.texts = [text] := by
  rw [value.eq_string_of_literal text literal]
  rfl

mutual

theorem Stmt.texts_marks (stmt : Stmt) : stmt.marks.flatMap Mark.texts = stmt.texts := by
  cases stmt with
  | write value =>
      rw [Stmt.marks, Stmt.texts]
      cases literal : value.literal? with
      | some text => simp [Mark.texts, value.texts_literal text literal]
      | none => simp [Mark.texts, Expr.texts_marks]
  | ifThen cond body =>
      simp [Stmt.marks, Stmt.texts, Mark.texts, Expr.texts_marks, Stmt.texts_marks_all body]
  | ifElse cond positive negative =>
      simp [Stmt.marks, Stmt.texts, Mark.texts, Expr.texts_marks, Stmt.texts_marks_all positive,
        Stmt.texts_marks_all negative]
  | whileDo cond body =>
      simp [Stmt.marks, Stmt.texts, Mark.texts, Expr.texts_marks, Stmt.texts_marks_all body]
  | ret value => cases value <;> simp [Stmt.marks, Stmt.texts, Mark.texts, Expr.texts_marks]
  | localVariable | localFormal | localFunction | assign | maybe | increment | decrement | read | call =>
      simp [Stmt.marks, Stmt.texts, Mark.texts, Expr.texts_marks, Expr.texts_marks_all]

theorem Stmt.texts_marks_all (stmts : List Stmt) :
    (Stmt.marksAll stmts).flatMap Mark.texts = Stmt.textsAll stmts := by
  cases stmts with
  | nil => rfl
  | cons stmt tail => simp [Stmt.marksAll, Stmt.textsAll, Stmt.texts_marks stmt, Stmt.texts_marks_all tail]

end

theorem Expr.labels_marks (expr : Expr) : expr.marks.countP Mark.isLabel = 0 := by
  rw [List.countP_eq_zero]
  intro mark member
  have straight := expr.marks_straight mark member
  cases mark <;> simp_all [Mark.straight, Mark.isLabel]

theorem Expr.labels_marks_all (exprs : List Expr) : (Expr.marksAll exprs).countP Mark.isLabel = 0 := by
  rw [List.countP_eq_zero]
  intro mark member
  have straight := Expr.marks_all_straight exprs mark member
  cases mark <;> simp_all [Mark.straight, Mark.isLabel]

mutual

theorem Stmt.labels_marks (stmt : Stmt) : stmt.marks.countP Mark.isLabel = stmt.labelCount := by
  cases stmt with
  | write value =>
      rw [Stmt.marks]
      cases value.literal? <;> simp [Stmt.labelCount, Mark.isLabel, Expr.labels_marks]
  | ifThen cond body =>
      simp [Stmt.marks, Stmt.labelCount, List.countP_cons, Mark.isLabel, Expr.labels_marks, Stmt.labels_marks_all body]
      omega
  | ifElse cond positive negative =>
      simp [Stmt.marks, Stmt.labelCount, List.countP_cons, Mark.isLabel, Expr.labels_marks,
        Stmt.labels_marks_all positive, Stmt.labels_marks_all negative]
      omega
  | whileDo cond body =>
      simp [Stmt.marks, Stmt.labelCount, List.countP_cons, Mark.isLabel, Expr.labels_marks, Stmt.labels_marks_all body]
      omega
  | ret value => cases value <;> simp [Stmt.marks, Stmt.labelCount, Mark.isLabel, Expr.labels_marks]
  | localVariable | localFormal | localFunction | assign | maybe | increment | decrement | read | call =>
      simp [Stmt.marks, Stmt.labelCount, List.countP_cons, Mark.isLabel, Expr.labels_marks, Expr.labels_marks_all]

theorem Stmt.labels_marks_all (stmts : List Stmt) :
    (Stmt.marksAll stmts).countP Mark.isLabel = Stmt.labelCountAll stmts := by
  cases stmts with
  | nil => rfl
  | cons stmt tail =>
      rw [Stmt.marksAll, List.countP_append, Stmt.labels_marks stmt, Stmt.labels_marks_all tail, Stmt.labelCountAll]

end

theorem Function.texts_marks (definition : Function) :
    definition.marks.flatMap Mark.texts = Stmt.textsAll definition.body := by
  have declared : (definition.formals.map Mark.declare).flatMap Mark.texts = [] := by
    simp [List.flatMap_map, Mark.texts]
  rw [Function.marks, List.flatMap_append, declared, List.flatMap_cons, Stmt.texts_marks_all]
  rfl

theorem Function.labels_marks (definition : Function) :
    definition.marks.countP Mark.isLabel = Stmt.labelCountAll definition.body := by
  have declared : (definition.formals.map Mark.declare).countP Mark.isLabel = 0 := by
    simp [List.countP_map, Function.comp_def, Mark.isLabel]
  rw [Function.marks, List.countP_append, declared, Nat.zero_add, List.countP_cons, Stmt.labels_marks_all]
  rfl

theorem Expr.lower_pools (expr : Expr) (before after : Builder) (operand : Operand)
    (lowered : expr.lower before = .ok operand after) : Pools expr.texts before after :=
  expr.texts_marks ▸ (expr.lower_trace before after operand lowered).1.pools

theorem Stmt.lower_pools (stmt : Stmt) (before after : Builder)
    (lowered : stmt.lower before = .ok () after) : Pools stmt.texts before after :=
  stmt.texts_marks ▸ (stmt.lower_trace before after lowered).pools

theorem Stmt.lower_all_pools (stmts : List Stmt) (before after : Builder)
    (lowered : Stmt.lowerAll stmts before = .ok () after) : Pools (Stmt.textsAll stmts) before after :=
  Stmt.texts_marks_all stmts ▸ (Stmt.lower_all_trace stmts before after lowered).pools

-- What the work takes if it succeeds; if it fails, it has taken the first part of that.
def Spent {α : Type} (labels : Nat) (texts : List String) (program : Program) :
    EStateM.Result Violation Builder α → Prop
  | .ok _ after => after.program = program.allocate labels texts
  | .error _ after => ∃ taken new, taken ≤ labels ∧ new <+: texts ∧ after.program = program.allocate taken new

theorem Function.lower_spends (definition : Function) (builder : Builder) :
    Spent (Stmt.labelCountAll definition.body) (Stmt.textsAll definition.body) builder.program
      (definition.lower builder) := by
  rw [← definition.labels_marks, ← definition.texts_marks]
  cases ran : definition.lower builder with
  | ok _ after =>
      obtain ⟨last, trace, rfl⟩ := definition.lower_trace builder after ran
      exact trace.allocates
  | error violation after =>
      obtain ⟨front, stop, back, marks, trace, _⟩ := definition.lower_stops builder after violation ran
      refine ⟨_, _, ?_, ?_, trace.allocates⟩
      · rw [marks, List.countP_append]
        exact Nat.le_add_right _ _
      · rw [marks, List.flatMap_append]
        exact List.prefix_append _ _

namespace Session

structure Allocated (labels : Nat) (texts : List String) (before after : Session) : Prop where
  strings : after.program.strings = before.program.strings.insertAll before.program.nextString texts
  nextLabel : after.program.nextLabel = before.program.nextLabel.raise labels
  nextString : after.program.nextString = before.program.nextString.raise texts.length

theorem Allocated.close (session : Session) (name : String) (builder : Builder) (labels : Nat)
    (texts : List String)
    (spent : builder.program = (session.openProcedure name).program.allocate labels texts) :
    Allocated labels texts session (session.close builder) := by
  refine ⟨?_, ?_, ?_⟩
  · rw [Session.close, spent]
    rfl
  · rw [Session.close, spent]
    rfl
  · rw [Session.close, spent]
    rfl

theorem Allocated.trans {a b : Nat} {front back : List String} {before middle after : Session}
    (first : Allocated a front before middle) (second : Allocated b back middle after) :
    Allocated (a + b) (front ++ back) before after := by
  refine ⟨?_, ?_, ?_⟩
  · rw [second.strings, first.strings, first.nextString, HandleMap.insert_all_append]
  · rw [second.nextLabel, first.nextLabel, Handle.raise_raise]
  · rw [second.nextString, first.nextString, Handle.raise_raise, List.length_append]

theorem Allocated.nothing (before after : Session) (strings : after.program.strings = before.program.strings)
    (nextLabel : after.program.nextLabel = before.program.nextLabel)
    (nextString : after.program.nextString = before.program.nextString) : Allocated 0 [] before after :=
  ⟨strings, by rw [nextLabel, Handle.raise_zero], by rw [nextString, List.length_nil, Handle.raise_zero]⟩

theorem Runs.allocated {before after : Session} {decls : List Decl} (runs : Runs before decls after) :
    Allocated (labelCount decls) (texts decls) before after := by
  induction runs with
  | nil session => exact .nothing _ _ rfl rfl rfl
  | global session after symbol tail rest ih => exact ⟨ih.strings, ih.nextLabel, ih.nextString⟩
  | function session after definition builder tail lowered rest ih =>
      have spent := definition.lower_spends (session.openProcedure definition.symbol.name)
      rw [lowered] at spent
      exact (Allocated.close session _ builder _ _ spent).trans ih

theorem Runs.pooled {before after : Session} {decls : List Decl} (runs : Runs before decls after)
    (seen : List String) (pooled : Pooled before.program seen) : Pooled after.program (seen ++ texts decls) :=
  pooled.extend (texts decls) runs.allocated.strings runs.allocated.nextString

theorem Runs.pool {after : Session} {decls : List Decl} (runs : Runs .initial decls after) :
    after.program.strings = HandleMap.empty.insertAll .first (texts decls) := runs.allocated.strings

end Session

end ThreeAddress
