import ThreeAddress.Proofs.Declarations
import ThreeAddress.Proofs.Temporaries

set_option autoImplicit false

namespace ThreeAddress

def Quad.action? (quad : Quad) : Option Action := quad.instr.action?

mutual

def Expr.actions : Expr → List Action
  | .int .. | .bool .. | .string .. | .name .. => []
  | .eh _ => [.magic]
  | .call _ callee args => Expr.actionsAll args ++ [.call callee.id callee.name]
  | .unary _ op operand => operand.actions ++ [.unary op]
  | .binary _ op lhs rhs =>
      match op with
      | .add | .div => rhs.actions ++ lhs.actions ++ [.binary op]
      | _ => lhs.actions ++ rhs.actions ++ [.binary op]

def Expr.actionsAll : List Expr → List Action
  | [] => []
  | expr :: tail => expr.actions ++ Expr.actionsAll tail

end

mutual

def Stmt.actions : Stmt → List Action
  | .localVariable _ | .localFormal _ | .localFunction .. => []
  | .assign dst src => dst.actions ++ src.actions
  | .maybe dst first second => .magic :: (dst.actions ++ (first.actions ++ second.actions))
  | .increment target => target.actions ++ [.binary .add]
  | .decrement target => target.actions ++ [.binary .sub]
  | .write value => value.actions ++ [.write value.type]
  | .read target => target.actions ++ [.read target.type]
  | .ifThen cond body | .whileDo cond body => cond.actions ++ Stmt.actionsAll body
  | .ifElse cond positive negative =>
      cond.actions ++ (Stmt.actionsAll positive ++ Stmt.actionsAll negative)
  | .call callee args => Expr.actionsAll args ++ [.call callee.id callee.name]
  | .ret none => [.ret]
  | .ret (some value) => value.actions ++ [.setRet, .ret]

def Stmt.actionsAll : List Stmt → List Action
  | [] => []
  | stmt :: tail => stmt.actions ++ Stmt.actionsAll tail

end

def Mark.actions : Mark → List Action
  | .compute action => [action]
  | .call callee _ => [.call callee.id callee.name]
  | .emit action? => action?.toList
  | .say _ type => [.write type]
  | _ => []

namespace Builder

def actions (builder : Builder) : List Action := builder.quads.filterMap Quad.action?

theorem actions_emit (builder : Builder) (instr : Instr) :
    (builder.emit instr).actions = builder.actions ++ instr.action?.toList := by
  rw [actions, quads_emit, List.filterMap_append]
  congr 1

theorem actions_pass (builder : Builder) (position : Nat) (operands : List Operand) :
    (builder.pass position operands).actions = builder.actions := by
  induction operands generalizing builder position with
  | nil => rfl
  | cons operand tail ih => exact (ih _ (position + 1)).trans ((builder.actions_emit _).trans (List.append_nil _))

theorem actions_receive (builder : Builder) (position : Nat) (formals : List Slot) :
    (builder.receive position formals).actions = builder.actions := by
  induction formals generalizing builder position with
  | nil => rfl
  | cons formal tail ih => exact (ih _ (position + 1)).trans ((builder.actions_emit _).trans (List.append_nil _))

theorem actions_invoke (builder : Builder) (callee : Symbol) (operands : List Operand) :
    (builder.invoke callee operands).actions = builder.actions ++ [.call callee.id callee.name] := by
  rw [invoke, actions_emit, actions_pass]
  rfl

theorem Step.actions {mark : Mark} {before after : Builder} (step : Step before mark after) :
    after.actions = before.actions ++ mark.actions := by
  cases step with
  | text | use | check | label | bindLocal | bindFormal => exact (List.append_nil _).symm
  | compute width instr action sources computing offered =>
      rw [Builder.compute, actions_emit, computing.acts]
      rfl
  | run start callee args operands type lowered offered => exact before.actions_invoke callee operands
  | call start callee args operands result type value lowered offered =>
      rw [Builder.compute, actions_emit]
      exact (List.append_nil _).trans (before.actions_invoke callee operands)
  | emit instr silent apart mute still has ready => exact before.actions_emit instr
  | say text type => exact actions_emit _ _
  | test cond label offered => exact before.actions_emit _
  | jump label => exact before.actions_emit _
  | land label =>
      rw [Builder.actions, quads_place, List.filterMap_append]
      rfl
  | receive formals listed => exact (before.actions_receive 1 formals).trans (List.append_nil _).symm

end Builder

mutual

theorem Expr.actions_marks (expr : Expr) : expr.marks.flatMap Mark.actions = expr.actions := by
  cases expr with
  | int | bool | string | eh | name => rfl
  | call type callee args => simp [Expr.marks, Expr.actions, Mark.actions, Expr.actions_marks_all args]
  | unary type op operand => simp [Expr.marks, Expr.actions, Mark.actions, Expr.actions_marks operand]
  | binary type op lhs rhs =>
      cases op <;> simp [Expr.marks, Expr.actions, Mark.actions, BinaryOp.rightFirst, Expr.actions_marks lhs,
        Expr.actions_marks rhs]

theorem Expr.actions_marks_all (exprs : List Expr) :
    (Expr.marksAll exprs).flatMap Mark.actions = Expr.actionsAll exprs := by
  cases exprs with
  | nil => rfl
  | cons expr tail => simp [Expr.marksAll, Expr.actionsAll, Expr.actions_marks expr, Expr.actions_marks_all tail]

end

theorem Expr.actions_literal (value : Expr) (text : String) (literal : value.literal? = some text) :
    value.actions = [] := by
  rw [value.eq_string_of_literal text literal]
  rfl

mutual

theorem Stmt.actions_marks (stmt : Stmt) : stmt.marks.flatMap Mark.actions = stmt.actions := by
  cases stmt with
  | write value =>
      rw [Stmt.marks, Stmt.actions]
      cases literal : value.literal? with
      | some text => simp [Mark.actions, value.actions_literal text literal]
      | none => simp [Mark.actions, Expr.actions_marks]
  | ifThen cond body =>
      simp [Stmt.marks, Stmt.actions, Mark.actions, Expr.actions_marks, Stmt.actions_marks_all body]
  | ifElse cond positive negative =>
      simp [Stmt.marks, Stmt.actions, Mark.actions, Expr.actions_marks, Stmt.actions_marks_all positive,
        Stmt.actions_marks_all negative]
  | whileDo cond body =>
      simp [Stmt.marks, Stmt.actions, Mark.actions, Expr.actions_marks, Stmt.actions_marks_all body]
  | ret value => cases value <;> simp [Stmt.marks, Stmt.actions, Mark.actions, Expr.actions_marks]
  | localVariable | localFormal | localFunction | assign | maybe | increment | decrement | read | call =>
      simp [Stmt.marks, Stmt.actions, Mark.actions, Expr.actions_marks, Expr.actions_marks_all]

theorem Stmt.actions_marks_all (stmts : List Stmt) :
    (Stmt.marksAll stmts).flatMap Mark.actions = Stmt.actionsAll stmts := by
  cases stmts with
  | nil => rfl
  | cons stmt tail => simp [Stmt.marksAll, Stmt.actionsAll, Stmt.actions_marks stmt, Stmt.actions_marks_all tail]

end

theorem Function.actions_marks (definition : Function) :
    definition.marks.flatMap Mark.actions = Stmt.actionsAll definition.body := by
  have declared : (definition.formals.map Mark.declare).flatMap Mark.actions = [] := by
    simp [List.flatMap_map, Mark.actions]
  rw [Function.marks, List.flatMap_append, declared, List.flatMap_cons, Stmt.actions_marks_all]
  rfl

theorem Function.lower_actions (definition : Function) (before after : Builder)
    (lowered : definition.lower before = .ok () after) :
    after.actions = before.actions ++ Stmt.actionsAll definition.body := by
  obtain ⟨last, trace, rfl⟩ := definition.lower_trace before after lowered
  rw [← definition.actions_marks]
  exact trace.view Builder.actions Mark.actions fun _ _ _ step => step.actions

theorem lowered_actions_in_order (decls : List Decl) (program : Program) (log : Array Event)
    (few : (functions decls).length < 2 ^ 32 - 1) (accepted : lower decls = (.ok program, log)) (index : Nat)
    (definition : Function) (listed : (functions decls)[index]? = some definition) :
    ∃ procedure, program.procedures.items[index + 1]? = some procedure ∧
      procedure.quads.toList.filterMap Quad.action? = Stmt.actionsAll definition.body := by
  obtain ⟨session, runs, rfl⟩ := runs_of_accepted decls program log (by omega) accepted
  obtain ⟨_, _, middle, builder, _, _, lowered, _, found⟩ := runs.function_at index definition listed
  refine ⟨builder.procedure, ?_, ?_⟩
  · rw [← Array.getElem?_toList, Nat.add_comm]
    exact found
  · exact definition.lower_actions _ builder lowered

def Sample.counting : Function :=
  ⟨main, [],
    [.maybe (.apply halve [.ofInt 1]) (.applyBinary .div (.applyUnary .neg (.ofInt 8)) .unspecified) (.ofInt 2),
      .increment (.apply halve [.ofInt 3]),
      .ret (some (.applyBinary .sub (.apply halve [.ofInt 4]) .unspecified))]⟩

theorem counting_actions_in_order :
    ∃ program log procedure, lower [.function Sample.counting] = (.ok program, log) ∧
      program.procedures.items[1]? = some procedure ∧
      procedure.quads.toList.filterMap Quad.action? =
        [.magic, .call Sample.halve.id "halve", .magic, .unary .neg, .binary .div,
          .call Sample.halve.id "halve", .binary .add,
          .call Sample.halve.id "halve", .magic, .binary .sub, .setRet, .ret] := by
  obtain ⟨program, log, accepted⟩ := accepted_of_is_ok [.function Sample.counting] (by decide +kernel)
  obtain ⟨procedure, found, ordered⟩ :=
    lowered_actions_in_order [.function Sample.counting] program log (by decide) accepted 0 Sample.counting rfl
  exact ⟨program, log, procedure, accepted, found, ordered⟩

end ThreeAddress
