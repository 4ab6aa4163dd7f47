import ThreeAddress.Quad

set_option autoImplicit false

namespace ThreeAddress

inductive Action where
  | unary (op : UnaryOp)
  | binary (op : BinaryOp)
  | call (callee : Handle .symbol) (name : String)
  | magic
  | write (type : DataType)
  | read (type : DataType)
  | setRet
  | ret
deriving DecidableEq

namespace Instr

def action? : Instr → Option Action
  | .unary op _ _ => some (.unary op)
  | .binary op _ _ _ => some (.binary op)
  | .call callee name => some (.call callee name)
  | .magic _ => some .magic
  | .write _ type => some (.write type)
  | .read _ type => some (.read type)
  | .setRet _ => some .setRet
  | .ret => some .ret
  | .assign .. | .ifZero .. | .goto _ | .nop | .setArg .. | .getArg .. | .getRet _ => none

def computes : Instr → Bool
  | .unary .. | .binary .. | .call .. | .setArg .. | .getRet _ | .magic _ => true
  | _ => false

def operands : Instr → List Operand
  | .assign dst src | .unary _ dst src => [dst, src]
  | .binary _ dst lhs rhs => [dst, lhs, rhs]
  | .setArg _ operand | .getArg _ operand | .setRet operand | .getRet operand | .ifZero operand _
  | .magic operand | .write operand _ | .read operand _ => [operand]
  | .goto _ | .nop | .call .. | .ret => []

def defines? : Instr → Option Operand
  | .unary _ dst _ | .binary _ dst _ _ | .getRet dst | .magic dst => some dst
  | _ => none

def reads : Instr → List Operand
  | .assign _ src | .unary _ _ src | .setArg _ src | .setRet src | .write src _ => [src]
  | .binary _ _ lhs rhs => [lhs, rhs]
  | .ifZero cond _ => [cond]
  | _ => []

def diverts : Instr → Bool
  | .ifZero .. | .goto _ | .ret => true
  | _ => false

def fallsThrough : Instr → Bool
  | .goto _ | .ret => false
  | _ => true

def transfers : Instr → Bool
  | .setArg .. | .getArg .. | .call .. | .getRet _ => true
  | _ => false

def written? : Instr → Option (Handle .string)
  | .write (.literal (.string id) _) _ => some id
  | _ => none

theorem computes_straight (instr : Instr) (computes : instr.computes = true) : instr.diverts = false := by
  cases instr <;> first | rfl | cases computes

theorem computes_still (instr : Instr) (computes : instr.computes = true) : instr.jumpTarget? = none := by
  cases instr <;> first | rfl | cases computes

theorem defines_straight (instr : Instr) (operand : Operand) (defines : instr.defines? = some operand) :
    instr.diverts = false := by
  cases instr <;> first | rfl | cases defines

structure Computing (instr : Operand → Instr) (action : Action) (sources : List Operand) : Prop where
  defines : ∀ dst, (instr dst).defines? = some dst
  operands : ∀ dst, (instr dst).operands = dst :: sources
  reads : ∀ dst, (instr dst).reads = sources
  acts : ∀ dst, (instr dst).action? = some action

theorem computing_magic : Computing .magic .magic [] :=
  ⟨fun _ => rfl, fun _ => rfl, fun _ => rfl, fun _ => rfl⟩

theorem computing_unary (op : UnaryOp) (src : Operand) :
    Computing (fun dst => .unary op dst src) (.unary op) [src] :=
  ⟨fun _ => rfl, fun _ => rfl, fun _ => rfl, fun _ => rfl⟩

theorem computing_binary (op : BinaryOp) (lhs rhs : Operand) :
    Computing (fun dst => .binary op dst lhs rhs) (.binary op) [lhs, rhs] :=
  ⟨fun _ => rfl, fun _ => rfl, fun _ => rfl, fun _ => rfl⟩

section Computing

variable {instr : Operand → Instr} {action : Action} {sources : List Operand} (computing : Computing instr action sources)
  (dst : Operand)

include computing

theorem Computing.computes : (instr dst).computes = true := by
  have defines := computing.defines dst
  cases shape : instr dst with
  | unary | binary | getRet | magic => rfl
  | assign | ifZero | goto | nop | call | setArg | getArg | setRet | ret | write | read =>
      rw [shape] at defines
      cases defines

theorem Computing.apart : (instr dst).transfers = false := by
  have defines := computing.defines dst
  have acts := computing.acts dst
  cases shape : instr dst with
  | unary | binary | magic => rfl
  | getRet =>
      rw [shape] at acts
      cases acts
  | assign | ifZero | goto | nop | call | setArg | getArg | setRet | ret | write | read =>
      rw [shape] at defines
      cases defines

end Computing

end Instr

end ThreeAddress
