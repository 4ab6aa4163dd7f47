import Mathlib.Logic.Unique
import ThreeAddress.Proofs.Steps

set_option autoImplicit false

namespace ThreeAddress

namespace Lower

theorem storage_ok (symbol : Symbol) (before after : Builder) (operand : Operand) :
    storage symbol before = .ok operand after ↔
      ∃ slot, before.slot? symbol.id = some slot ∧ operand = .slot slot ∧ after = before := by
  rw [storage_run]
  cases before.slot? symbol.id with
  | none => simp
  | some slot => simp [eq_comm]

theorem operands_ok (rightFirst : Bool) (left right : Lower Operand) (before after : Builder)
    (pair : Operand × Operand) :
    operands rightFirst left right before = .ok pair after ↔
      ∃ middle, if rightFirst then right before = .ok pair.2 middle ∧ left middle = .ok pair.1 after
        else left before = .ok pair.1 middle ∧ right middle = .ok pair.2 after := by
  cases rightFirst with
  | true =>
      rw [operands, if_pos rfl]
      constructor
      · intro ran
        obtain ⟨_, middle, first, rest⟩ := (bind_ok ..).mp ran
        obtain ⟨_, _, last, done⟩ := (bind_ok ..).mp rest
        cases done
        exact ⟨middle, by rw [if_pos rfl]; exact ⟨first, last⟩⟩
      · rintro ⟨middle, both⟩
        rw [if_pos rfl] at both
        exact (bind_ok ..).mpr ⟨_, middle, both.1, (bind_ok ..).mpr ⟨_, after, both.2, rfl⟩⟩
  | false =>
      rw [operands, if_neg Bool.false_ne_true]
      constructor
      · intro ran
        obtain ⟨_, middle, first, rest⟩ := (bind_ok ..).mp ran
        obtain ⟨_, _, last, done⟩ := (bind_ok ..).mp rest
        cases done
        exact ⟨middle, by rw [if_neg Bool.false_ne_true]; exact ⟨first, last⟩⟩
      · rintro ⟨middle, both⟩
        rw [if_neg Bool.false_ne_true] at both
        exact (bind_ok ..).mpr ⟨_, middle, both.1, (bind_ok ..).mpr ⟨_, after, both.2, rfl⟩⟩

theorem call_ok (callee : Symbol) (args : Lower (List Operand)) (before after : Builder)
    (answer : Option Operand) :
    call callee args before = .ok answer after ↔
      ∃ result operands middle, callee.type.result? = some result ∧ args before = .ok operands middle ∧
        if result.isVoid then answer = none ∧ after = middle.invoke callee operands
        else answer = some (.temp ((middle.invoke callee operands).nextTemp result.width)) ∧
          after = (middle.invoke callee operands).compute result.width .getRet := by
  unfold call
  cases callee.type.result? with
  | none => simp
  | some result =>
      cases void : result.isVoid <;>
        simp [bind_ok, ok_iff, and_assoc, void, Builder.invoke, Builder.compute, -EStateM.Result.ok.injEq, -bind_pure_comp]

end Lower

namespace Expr

open Lower

attribute [local simp] lower lowerAll lowerStep

variable (before after : Builder) (operand : Operand) (type : DataType)

theorem lower_int (value : Int64) :
    (Expr.int type value).lower before = .ok operand after ↔
      operand = .literal (.int value) type.width ∧ after = before := by
  simp [ok_iff, -EStateM.Result.ok.injEq]

theorem lower_bool (value : Bool) :
    (Expr.bool type value).lower before = .ok operand after ↔
      operand = .literal (.bool value) type.width ∧ after = before := by
  simp [ok_iff, -EStateM.Result.ok.injEq]

theorem lower_string (text : String) :
    (Expr.string type text).lower before = .ok operand after ↔
      operand = .literal (.string before.nextString) DataType.string.width ∧
        after = before.addString text := by
  simp [ok_iff, -EStateM.Result.ok.injEq]

theorem lower_eh :
    (Expr.eh type).lower before = .ok operand after ↔
      operand = .temp (before.nextTemp type.width) ∧ after = before.compute type.width .magic := by
  simp [bind_ok, ok_iff, and_assoc, Builder.compute, -EStateM.Result.ok.injEq, -bind_pure_comp]

theorem lower_name (symbol : Symbol) :
    (Expr.name type symbol).lower before = .ok operand after ↔
      ∃ slot, before.slot? symbol.id = some slot ∧ operand = .slot slot ∧ after = before := by
  simp [storage_ok]

theorem lower_call (callee : Symbol) (args : List Expr) :
    (Expr.call type callee args).lower before = .ok operand after ↔
      ∃ result operands middle, callee.type.result? = some result ∧ result.isVoid = false ∧
        lowerAll args before = .ok operands middle ∧
        operand = .temp ((middle.invoke callee operands).nextTemp result.width) ∧
        after = (middle.invoke callee operands).compute result.width .getRet := by
  simp only [lower, bind_ok]
  constructor
  · rintro ⟨answer, last, called, returned⟩
    obtain ⟨result, operands, middle, typed, evaluated, ends⟩ := (call_ok ..).mp called
    cases void : result.isVoid with
    | true =>
        rw [void, if_pos rfl] at ends
        simp [ends.1] at returned
    | false =>
        rw [void, if_neg Bool.false_ne_true] at ends
        simp only [ends.1, pure_run, EStateM.Result.ok.injEq] at returned
        exact ⟨result, operands, middle, typed, void, evaluated, returned.1.symm, returned.2 ▸ ends.2⟩
  · rintro ⟨result, operands, middle, typed, void, evaluated, rfl, rfl⟩
    have called := (call_ok callee (lowerAll args) before _ _).mpr
      ⟨result, operands, middle, typed, evaluated, by rw [void, if_neg Bool.false_ne_true]; exact ⟨rfl, rfl⟩⟩
    exact ⟨_, _, called, rfl⟩

theorem lower_unary (op : UnaryOp) (source : Expr) :
    (Expr.unary type op source).lower before = .ok operand after ↔
      ∃ src middle, source.lower before = .ok src middle ∧
        operand = .temp (middle.nextTemp type.width) ∧
        after = middle.compute type.width fun dst => .unary op dst src := by
  simp [bind_ok, ok_iff, and_assoc, Builder.compute, -EStateM.Result.ok.injEq, -bind_pure_comp]

theorem lower_binary (op : BinaryOp) (lhs rhs : Expr) :
    (Expr.binary type op lhs rhs).lower before = .ok operand after ↔
      ∃ pair middle, operands op.rightFirst lhs.lower rhs.lower before = .ok pair middle ∧
        operand = .temp (middle.nextTemp type.width) ∧
        after = middle.compute type.width fun dst => .binary op dst pair.1 pair.2 := by
  simp [bind_ok, ok_iff, and_assoc, Builder.compute, -EStateM.Result.ok.injEq, -bind_pure_comp]

theorem lower_all_nil (operands : List Operand) :
    lowerAll [] before = .ok operands after ↔ operands = [] ∧ after = before := by
  simp [ok_iff, -EStateM.Result.ok.injEq]

theorem lower_all_cons (expr : Expr) (tail : List Expr) (operands : List Operand) :
    lowerAll (expr :: tail) before = .ok operands after ↔
      ∃ first middle rest, expr.lower before = .ok first middle ∧
        lowerAll tail middle = .ok rest after ∧ operands = first :: rest := by
  simp [bind_ok, ok_iff, -EStateM.Result.ok.injEq, -bind_pure_comp]

theorem lower_all_length (exprs : List Expr) (before after : Builder) (operands : List Operand)
    (lowered : lowerAll exprs before = .ok operands after) : operands.length = exprs.length := by
  induction exprs generalizing before operands with
  | nil =>
      obtain ⟨rfl, _⟩ := (lower_all_nil ..).mp lowered
      rfl
  | cons expr tail ih =>
      obtain ⟨first, middle, rest, _, others, rfl⟩ := (lower_all_cons ..).mp lowered
      rw [List.length_cons, List.length_cons, ih middle rest others]

theorem lower_step_ok (target : Expr) (op : BinaryOp) :
    target.lowerStep op before = .ok () after ↔
      ∃ place middle, target.lower before = .ok place middle ∧
        after = (middle.compute target.type.width fun dst =>
          .binary op dst place (.literal (.int 1) DataType.int.width)).emit
            (.assign place (.temp (middle.nextTemp target.type.width))) := by
  simp [bind_ok, ok_iff, and_assoc, Builder.compute, -EStateM.Result.ok.injEq]

end Expr

namespace Stmt

open Lower

attribute [local simp] lower lowerAll

variable (before after : Builder)

theorem lower_local_variable (symbol : Symbol) :
    (Stmt.localVariable symbol).lower before = .ok () after ↔ after = before.bindLocal symbol := by
  change (.ok () (before.bindLocal symbol) : EStateM.Result ..) = .ok () after ↔ _
  simp [ok_iff, -EStateM.Result.ok.injEq]

theorem lower_local_formal (symbol : Symbol) :
    (Stmt.localFormal symbol).lower before = .ok () after ↔ after = before.bindFormal symbol := by
  change (.ok () (before.bindFormal symbol) : EStateM.Result ..) = .ok () after ↔ _
  simp [ok_iff, -EStateM.Result.ok.injEq]

theorem lower_local_function (symbol : Symbol) (formals : List Symbol) (body : List Stmt) :
    ¬ (Stmt.localFunction symbol formals body).lower before = .ok () after := by
  simp

theorem lower_assign (dst src : Expr) :
    (Stmt.assign dst src).lower before = .ok () after ↔
      ∃ target middle source last, dst.lower before = .ok target middle ∧
        src.lower middle = .ok source last ∧ after = last.emit (.assign target source) := by
  simp [bind_ok, ok_iff, -EStateM.Result.ok.injEq]

/- The destination is lowered on the way to the first source only; its operand serves
   both assignments. -/
theorem lower_maybe (dst first second : Expr) :
    (Stmt.maybe dst first second).lower before = .ok () after ↔
      ∃ target opened source chosen other last,
        dst.lower ((before.addLabel.addLabel.compute DataType.bool.width .magic).emit
          (.ifZero (.temp (before.nextTemp DataType.bool.width)) before.nextLabel)) = .ok target opened ∧
        first.lower opened = .ok source chosen ∧
        second.lower (((chosen.emit (.assign target source)).emit (.goto before.nextLabel.next)).place
          before.nextLabel) = .ok other last ∧
        after = (last.emit (.assign target other)).place before.nextLabel.next := by
  simp [bind_ok, ok_iff, and_assoc, Builder.compute, -EStateM.Result.ok.injEq]
  rfl

theorem lower_write (value : Expr) :
    (Stmt.write value).lower before = .ok () after ↔
      ∃ source middle, value.lower before = .ok source middle ∧
        after = middle.emit (.write source value.type) := by
  simp [bind_ok, ok_iff, -EStateM.Result.ok.injEq]

theorem lower_read (target : Expr) :
    (Stmt.read target).lower before = .ok () after ↔
      ∃ place middle, target.lower before = .ok place middle ∧
        after = middle.emit (.read place target.type) := by
  simp [bind_ok, ok_iff, -EStateM.Result.ok.injEq]

theorem lower_if_then (cond : Expr) (body : List Stmt) :
    (Stmt.ifThen cond body).lower before = .ok () after ↔
      ∃ test middle last, cond.lower before = .ok test middle ∧
        lowerAll body (middle.addLabel.emit (.ifZero test middle.nextLabel)) = .ok () last ∧
        after = last.place middle.nextLabel := by
  simp [bind_ok, ok_iff, and_assoc, Unique.exists_iff, -EStateM.Result.ok.injEq]

theorem lower_if_else (cond : Expr) (positive negative : List Stmt) :
    (Stmt.ifElse cond positive negative).lower before = .ok () after ↔
      ∃ test middle turned last, cond.lower before = .ok test middle ∧
        lowerAll positive (middle.addLabel.addLabel.emit (.ifZero test middle.nextLabel)) = .ok () turned ∧
        lowerAll negative ((turned.emit (.goto middle.nextLabel.next)).place middle.nextLabel) = .ok () last ∧
        after = last.place middle.nextLabel.next := by
  simp [bind_ok, ok_iff, and_assoc, Unique.exists_iff, -EStateM.Result.ok.injEq]

theorem lower_while_do (cond : Expr) (body : List Stmt) :
    (Stmt.whileDo cond body).lower before = .ok () after ↔
      ∃ test middle last,
        cond.lower (before.addLabel.addLabel.place before.nextLabel) = .ok test middle ∧
        lowerAll body (middle.emit (.ifZero test before.nextLabel.next)) = .ok () last ∧
        after = (last.emit (.goto before.nextLabel)).place before.nextLabel.next := by
  simp [bind_ok, ok_iff, and_assoc, Unique.exists_iff, -EStateM.Result.ok.injEq]

theorem lower_call (callee : Symbol) (args : List Expr) :
    (Stmt.call callee args).lower before = .ok () after ↔
      ∃ answer, Lower.call callee (Expr.lowerAll args) before = .ok answer after := by
  simp [bind_ok, ok_iff, -EStateM.Result.ok.injEq, -bind_pure_comp]

theorem lower_ret_none : (Stmt.ret none).lower before = .ok () after ↔ after = before.emit .ret := by
  simp [ok_iff, -EStateM.Result.ok.injEq]

theorem lower_ret_some (value : Expr) :
    (Stmt.ret (some value)).lower before = .ok () after ↔
      ∃ source middle, value.lower before = .ok source middle ∧
        after = (middle.emit (.setRet source)).emit .ret := by
  simp [bind_ok, ok_iff, -EStateM.Result.ok.injEq]

theorem lower_all_nil : lowerAll [] before = .ok () after ↔ after = before := by
  simp [ok_iff, -EStateM.Result.ok.injEq]

theorem lower_all_cons (stmt : Stmt) (tail : List Stmt) :
    lowerAll (stmt :: tail) before = .ok () after ↔
      ∃ middle, stmt.lower before = .ok () middle ∧ lowerAll tail middle = .ok () after := by
  simp [bind_ok, Unique.exists_iff]

end Stmt

end ThreeAddress
