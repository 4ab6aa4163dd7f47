set_option autoImplicit false

namespace ThreeAddress

inductive Fault where
  | indexOutOfBounds (length index : Nat)
  | addOverflow
deriving DecidableEq

def Fault.message : Fault → String
  | .indexOutOfBounds length index =>
      s!"index out of bounds: the len is {length} but the index is {index}"
  | .addOverflow => "attempt to add with overflow"

end ThreeAddress
