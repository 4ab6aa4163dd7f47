import ThreeAddress.Handle

set_option autoImplicit false

namespace ThreeAddress

inductive Event where
  | labelPlaced (procedure : String) (label : Handle .label)
  | procedureLowered (procedure : String) (quads temps : Nat)
  | programLowered (procedures globals strings : Nat)
  | globalRebound (name : String)
deriving DecidableEq

namespace Event

def level : Event → String
  | .labelPlaced .. => "TRACE"
  | .procedureLowered .. | .programLowered .. => "DEBUG"
  | .globalRebound .. => "WARN"

def message : Event → String
  | .labelPlaced .. => "placed label"
  | .procedureLowered .. => "lowered procedure"
  | .programLowered .. => "lowered program"
  | .globalRebound .. => "global declared twice, keeping the latest binding"

end Event

end ThreeAddress
