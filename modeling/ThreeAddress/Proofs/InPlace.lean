import ThreeAddress.Proofs.Correspondence
import ThreeAddress.Proofs.Declarations

set_option autoImplicit false

/- Lowering that holds no procedure of its own. It knows a procedure by its handle only and
   looks it up in the program at every read and every change, so each access may fault, and
   so may each sum that a counter or a position is formed by. -/
namespace ThreeAddress.InPlace

def position (index : Nat) : Except Fault Nat :=
  if index + 1 < 2 ^ 64 then .ok (index + 1) else .error .addOverflow

def note (event : Event) : LowerProgram Unit :=
  modify fun session => { session with log := session.log.push event }

def advance {kind : Handle.Kind} (counter : Handle kind) : LowerProgram (Handle kind × Handle kind) :=
  match Handle.postIncrement counter with
  | .ok given next => return (given, next)
  | .error fault _ => throw (.fault fault)

def freshLabel : LowerProgram (Handle .label) := do
  let session ← get
  let (label, next) ← advance session.program.nextLabel
  set { session with program := { session.program with nextLabel := next } }
  return label

def poolString (text : String) : LowerProgram Operand := do
  let session ← get
  let (id, next) ← advance session.program.nextString
  set { session with program :=
    { session.program with strings := session.program.strings.insert id text, nextString := next } }
  return .literal (.string id) DataType.string.width

section Procedure

variable (id : Handle .procedure)

def procedure : LowerProgram Procedure := do
  LowerProgram.check ((← get).program.procedure id)

def onProcedure {α : Type} (step : Procedure → α × Procedure) : LowerProgram α := do
  let session ← get
  let (answer, program) ← LowerProgram.check (session.program.onProcedure id step)
  set { session with program := program }
  return answer

def change (step : Procedure → Procedure) : LowerProgram Unit := onProcedure id fun target => ((), step target)

def emit (instr : Instr) : LowerProgram Unit := change id fun target => target.push (.plain instr)

def freshTemp (width : Nat) : LowerProgram Operand :=
  onProcedure id fun target => (.temp (target.freshTemp width).1, (target.freshTemp width).2)

def place (label : Handle .label) : LowerProgram Unit := do
  note (.labelPlaced (← procedure id).name label)
  change id fun target => target.push (.landing label)

def storage (symbol : Symbol) : LowerProgram Operand := do
  let owner ← procedure id
  let session ← get
  match (owner.slot? symbol.id).or (session.program.global? symbol.id) with
  | some slot => return .slot slot
  | none => throw (.violation (.unboundIdentifier symbol.name))

def receive (index : Nat) : List Slot → LowerProgram Unit
  | [] => return
  | formal :: tail => do
      let next ← LowerProgram.check (position index)
      emit id (.getArg next (.slot formal))
      receive next tail

def pass (index : Nat) : List Operand → LowerProgram Unit
  | [] => return
  | operand :: tail => do
      let next ← LowerProgram.check (position index)
      emit id (.setArg next operand)
      pass next tail

def steps : Steps Failure Session where
  emit := emit id
  place := place id
  freshTemp := freshTemp id
  freshLabel := freshLabel
  poolString := poolString
  storage := storage id
  bindLocal symbol := change id fun target => target.bindLocal symbol
  bindFormal symbol := change id fun target => target.bindFormal symbol
  pass := pass id 0
  fail := .violation

def lowerFunction (function : Function) : LowerProgram Unit := do
  function.formals.forM fun formal => change id fun target => target.bindFormal formal
  receive id 0 (← procedure id).formals.toList
  Stmt.lowerAllIn (steps id) function.body
  let done ← procedure id
  note (.procedureLowered done.name done.quads.size done.temps.size)

end Procedure

def lowerDecl : Decl → LowerProgram Unit
  | .global symbol => modify fun session => session.bindGlobal symbol
  | .formal symbol => throw (.violation (.formalAtGlobalScope symbol.name))
  | .function definition => do
      let id ← LowerProgram.onProgram fun program => program.addProcedure definition.symbol.name
      lowerFunction id definition

def lowerDecls : List Decl → LowerProgram Unit
  | [] => return
  | decl :: tail => do
      lowerDecl decl
      lowerDecls tail

def lowerProgram (decls : List Decl) : Except Failure Program × Array Event :=
  Session.answerOf (lowerDecls decls .initial)

end ThreeAddress.InPlace
