import ThreeAddress.HandleMap
import ThreeAddress.Quad

set_option autoImplicit false

namespace ThreeAddress

structure Procedure where
  id : Handle .procedure
  name : String
  formals : Array Slot
  locals : Array Slot
  temps : Arena .temp Temp
  quads : Array Quad
  -- Storage of every formal and local; the latest declaration of a symbol wins.
  bindings : HandleMap .symbol Slot
deriving DecidableEq

namespace Procedure

def empty (id : Handle .procedure) (name : String) : Procedure :=
  ⟨id, name, #[], #[], .empty, #[], .empty⟩

def freshTemp (procedure : Procedure) (width : Nat) : Temp × Procedure :=
  let temp : Temp := ⟨procedure.temps.nextHandle, width⟩
  (temp, { procedure with temps := (procedure.temps.push temp).2 })

def bindFormal (procedure : Procedure) (symbol : Symbol) : Procedure :=
  { procedure with
    formals := procedure.formals.push (.ofSymbol symbol)
    bindings := procedure.bindings.insert symbol.id (.ofSymbol symbol) }

def bindLocal (procedure : Procedure) (symbol : Symbol) : Procedure :=
  { procedure with
    locals := procedure.locals.push (.ofSymbol symbol)
    bindings := procedure.bindings.insert symbol.id (.ofSymbol symbol) }

def push (procedure : Procedure) (quad : Quad) : Procedure :=
  { procedure with quads := procedure.quads.push quad }

def slot? (procedure : Procedure) (symbol : Handle .symbol) : Option Slot :=
  procedure.bindings.get? symbol

def labels (procedure : Procedure) : List (Handle .label) :=
  procedure.quads.toList.flatMap Quad.labels

def jumps (procedure : Procedure) : List (Option (Handle .label)) :=
  procedure.quads.toList.map Quad.jumpTarget?

end Procedure

end ThreeAddress
