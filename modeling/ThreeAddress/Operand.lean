import ThreeAddress.Symbol

set_option autoImplicit false

namespace ThreeAddress

inductive Literal where
  | int (value : Int64)
  | bool (value : Bool)
  | string (id : Handle .string)
deriving DecidableEq

structure Slot where
  symbol : Handle .symbol
  name : String
  width : Nat
deriving DecidableEq

def Slot.ofSymbol (symbol : Symbol) : Slot := ⟨symbol.id, symbol.name, symbol.type.width⟩

structure Temp where
  id : Handle .temp
  width : Nat
deriving DecidableEq

inductive Operand where
  | literal (value : Literal) (width : Nat)
  | slot (place : Slot)
  | temp (place : Temp)
deriving DecidableEq

def Operand.width : Operand → Nat
  | .literal _ width => width
  | .slot place => place.width
  | .temp place => place.width

def Handle.labelName (h : Handle .label) : String := s!"lbl_{h.index}"

def Handle.tempName (h : Handle .temp) : String := s!"tmp{h.index}"

def Handle.stringName (h : Handle .string) : String := s!"str_{h.index}"

def Literal.text : Literal → String
  | .int value => toString value.toInt
  | .bool value => if value then "1" else "0"
  | .string id => id.stringName

end ThreeAddress
