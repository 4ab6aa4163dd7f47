import ThreeAddress.Procedure

set_option autoImplicit false

namespace ThreeAddress

structure Program where
  procedures : Arena .procedure Procedure
  globals : HandleMap .symbol Slot
  strings : HandleMap .string String
  nextLabel : Handle .label
  nextString : Handle .string
deriving DecidableEq

namespace Program

def addProcedure (program : Program) (name : String) : Handle .procedure × Program :=
  let (id, procedures) := program.procedures.push (.empty program.procedures.nextHandle name)
  (id, { program with procedures := procedures })

def initial : Program := (addProcedure ⟨.empty, .empty, .empty, .first, .first⟩ "init").2

def initId : Handle .procedure := .first

def freshLabel (program : Program) : Handle .label × Program :=
  let (label, next) := program.nextLabel.take
  (label, { program with nextLabel := next })

/-- Adds a string to the pool. Equal texts are pooled apart. -/
def poolString (program : Program) (text : String) : Operand × Program :=
  let (id, next) := program.nextString.take
  (.literal (.string id) DataType.string.width,
    { program with strings := program.strings.insert id text, nextString := next })

def bindGlobal (program : Program) (symbol : Symbol) : Program :=
  { program with globals := program.globals.insert symbol.id (.ofSymbol symbol) }

def global? (program : Program) (symbol : Handle .symbol) : Option Slot :=
  program.globals.get? symbol

def string? (program : Program) (id : Handle .string) : Option String :=
  program.strings.get? id

def procedure (program : Program) (id : Handle .procedure) : Except Fault Procedure :=
  program.procedures.get id

def setProcedure (program : Program) (id : Handle .procedure) (procedure : Procedure) :
    Except Fault Program := do
  let procedures ← program.procedures.set id procedure
  return { program with procedures := procedures }

def onProcedure {α : Type} (program : Program) (id : Handle .procedure)
    (operation : Procedure → α × Procedure) : Except Fault (α × Program) := do
  let procedure ← program.procedure id
  let (answer, procedure) := operation procedure
  return (answer, ← program.setProcedure id procedure)

def named? (program : Program) (name : String) : Option Procedure :=
  program.procedures.items.find? fun procedure => procedure.name == name

def globalOperands (program : Program) : List Operand := program.globals.values.map .slot

end Program

end ThreeAddress
