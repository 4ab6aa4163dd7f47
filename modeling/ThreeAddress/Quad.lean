import ThreeAddress.Operand
import ThreeAddress.Operator

set_option autoImplicit false

namespace ThreeAddress

inductive Instr where
  | assign (dst src : Operand)
  | unary (op : UnaryOp) (dst src : Operand)
  | binary (op : BinaryOp) (dst lhs rhs : Operand)
  | ifZero (cond : Operand) (target : Handle .label)
  | goto (target : Handle .label)
  | nop
  | call (callee : Handle .symbol) (name : String)
  | setArg (position : Nat) (src : Operand)
  | getArg (position : Nat) (dst : Operand)
  | setRet (src : Operand)
  | getRet (dst : Operand)
  | ret
  | magic (dst : Operand)
  | write (src : Operand) (type : DataType)
  | read (dst : Operand) (type : DataType)
deriving DecidableEq

def Instr.jumpTarget? : Instr → Option (Handle .label)
  | .ifZero _ target | .goto target => some target
  | _ => none

structure Quad where
  labels : List (Handle .label)
  instr : Instr
deriving DecidableEq

namespace Quad

def plain (instr : Instr) : Quad := ⟨[], instr⟩

def landing (label : Handle .label) : Quad := ⟨[label], .nop⟩

def jumpTarget? (quad : Quad) : Option (Handle .label) := quad.instr.jumpTarget?

end Quad

end ThreeAddress
