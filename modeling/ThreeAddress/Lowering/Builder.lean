import ThreeAddress.Session
import ThreeAddress.Source
import ThreeAddress.Violation

set_option autoImplicit false

namespace ThreeAddress

structure Builder where
  program : Program
  procedure : Procedure
  log : Array Event

abbrev Lower := EStateM Violation Builder

namespace Lower

def onProcedure (step : Procedure → Procedure) : Lower Unit :=
  modify fun builder => { builder with procedure := step builder.procedure }

def emit (instr : Instr) : Lower Unit := onProcedure fun procedure => procedure.push (.plain instr)

def freshTemp (width : Nat) : Lower Operand :=
  modifyGet fun builder =>
    let (temp, procedure) := builder.procedure.freshTemp width
    (.temp temp, { builder with procedure := procedure })

def freshLabel : Lower (Handle .label) :=
  modifyGet fun builder =>
    let (label, program) := builder.program.freshLabel
    (label, { builder with program := program })

def poolString (text : String) : Lower Operand :=
  modifyGet fun builder =>
    let (operand, program) := builder.program.poolString text
    (operand, { builder with program := program })

def note (event : Event) : Lower Unit :=
  modify fun builder => { builder with log := builder.log.push event }

def place (label : Handle .label) : Lower Unit := do
  note (.labelPlaced (← get).procedure.name label)
  onProcedure fun procedure => procedure.push (.landing label)

def storage (symbol : Symbol) : Lower Operand := do
  let builder ← get
  match (builder.procedure.slot? symbol.id).or (builder.program.global? symbol.id) with
  | some slot => return .slot slot
  | none => throw (.unboundIdentifier symbol.name)

def receive (position : Nat) : List Slot → Lower Unit
  | [] => return
  | formal :: tail => do
      emit (.getArg position (.slot formal))
      receive (position + 1) tail

def pass (position : Nat) : List Operand → Lower Unit
  | [] => return
  | operand :: tail => do
      emit (.setArg position operand)
      pass (position + 1) tail

def operands (rightFirst : Bool) (left right : Lower Operand) : Lower (Operand × Operand) := do
  if rightFirst then
    let right ← right
    let left ← left
    return (left, right)
  else
    let left ← left
    let right ← right
    return (left, right)

/-- Calling sequence. The callee is checked before its arguments are computed; there is
no result operand if the callee returns `void`. -/
def call (callee : Symbol) (args : Lower (List Operand)) : Lower (Option Operand) := do
  match callee.type.result? with
  | none => throw (.notAFunction callee.name)
  | some result =>
      pass 1 (← args)
      emit (.call callee.id callee.name)
      if result.isVoid then
        return none
      else
        let dst ← freshTemp result.width
        emit (.getRet dst)
        return some dst

end Lower

end ThreeAddress
