import ThreeAddress.Lowering.Builder

set_option autoImplicit false

namespace ThreeAddress

open Lower

mutual

def Expr.lower : Expr → Lower Operand
  | .int type value => return .literal (.int value) type.width
  | .bool type value => return .literal (.bool value) type.width
  | .string _ text => poolString text
  | .eh type => do
      let dst ← freshTemp type.width
      emit (.magic dst)
      return dst
  | .name _ symbol => storage symbol
  | .call _ callee args => do
      match ← Lower.call callee (Expr.lowerAll args) with
      | some operand => return operand
      | none => throw (.voidValue callee.name)
  | .unary type op operand => do
      let src ← operand.lower
      let dst ← freshTemp type.width
      emit (.unary op dst src)
      return dst
  | .binary type op lhs rhs => do
      let (left, right) ← operands op.rightFirst lhs.lower rhs.lower
      let dst ← freshTemp type.width
      emit (.binary op dst left right)
      return dst

def Expr.lowerAll : List Expr → Lower (List Operand)
  | [] => return []
  | expr :: tail => do
      let operand ← expr.lower
      let rest ← Expr.lowerAll tail
      return operand :: rest

end

def Expr.lowerStep (target : Expr) (op : BinaryOp) : Lower Unit := do
  let operand ← target.lower
  let temp ← freshTemp target.type.width
  emit (.binary op temp operand (.literal (.int 1) DataType.int.width))
  emit (.assign operand temp)

mutual

def Stmt.lower : Stmt → Lower Unit
  | .localVariable symbol => onProcedure fun procedure => procedure.bindLocal symbol
  | .localFormal symbol => onProcedure fun procedure => procedure.bindFormal symbol
  | .localFunction symbol _ _ => throw (.functionAtLocalScope symbol.name)
  | .assign dst src => do
      let dst ← dst.lower
      let src ← src.lower
      emit (.assign dst src)
  | .maybe dst first second => do
      let otherwise ← freshLabel
      let done ← freshLabel
      let choice ← freshTemp DataType.bool.width
      emit (.magic choice)
      emit (.ifZero choice otherwise)
      let dst ← dst.lower
      let src ← first.lower
      emit (.assign dst src)
      emit (.goto done)
      place otherwise
      let src ← second.lower
      emit (.assign dst src)
      place done
  | .increment target => target.lowerStep .add
  | .decrement target => target.lowerStep .sub
  | .write value => do
      let src ← value.lower
      emit (.write src value.type)
  | .read target => do
      let dst ← target.lower
      emit (.read dst target.type)
  | .ifThen cond body => do
      let cond ← cond.lower
      let done ← freshLabel
      emit (.ifZero cond done)
      Stmt.lowerAll body
      place done
  | .ifElse cond positive negative => do
      let cond ← cond.lower
      let otherwise ← freshLabel
      let done ← freshLabel
      emit (.ifZero cond otherwise)
      Stmt.lowerAll positive
      emit (.goto done)
      place otherwise
      Stmt.lowerAll negative
      place done
  | .whileDo cond body => do
      let head ← freshLabel
      let done ← freshLabel
      place head
      let cond ← cond.lower
      emit (.ifZero cond done)
      Stmt.lowerAll body
      emit (.goto head)
      place done
  | .call callee args => do
      let _ ← Lower.call callee (Expr.lowerAll args)
  | .ret none => emit .ret
  | .ret (some value) => do
      let src ← value.lower
      emit (.setRet src)
      emit .ret

def Stmt.lowerAll : List Stmt → Lower Unit
  | [] => return
  | stmt :: tail => do
      stmt.lower
      Stmt.lowerAll tail

end

end ThreeAddress
