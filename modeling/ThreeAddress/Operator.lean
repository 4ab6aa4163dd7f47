import ThreeAddress.DataType

set_option autoImplicit false

namespace ThreeAddress

inductive UnaryOp where
  | neg
  | not
deriving DecidableEq

inductive BinaryOp where
  | add
  | sub
  | mul
  | div
  | and
  | or
  | eq
  | neq
  | lt
  | gt
  | lte
  | gte
deriving DecidableEq

namespace UnaryOp

def mnemonic : UnaryOp → String
  | .neg => "NEG64"
  | .not => "NOT64"

def resultType : UnaryOp → DataType
  | .neg => .int
  | .not => .bool

end UnaryOp

namespace BinaryOp

def all : List BinaryOp := [.add, .sub, .mul, .div, .and, .or, .eq, .neq, .lt, .gt, .lte, .gte]

def mnemonic : BinaryOp → String
  | .add => "ADD64"
  | .sub => "SUB64"
  | .mul => "MULT64"
  | .div => "DIV64"
  | .and => "AND64"
  | .or => "OR64"
  | .eq => "EQ64"
  | .neq => "NEQ64"
  | .lt => "LT64"
  | .gt => "GT64"
  | .lte => "LTE64"
  | .gte => "GTE64"

def resultType : BinaryOp → DataType
  | .add | .sub | .mul | .div => .int
  | _ => .bool

/-- Whether the right operand is evaluated before the left one: so for `+` and `/` alone. -/
def rightFirst : BinaryOp → Bool
  | .add | .div => true
  | _ => false

theorem mem_all (op : BinaryOp) : op ∈ all := by
  cases op <;> decide

end BinaryOp

end ThreeAddress
