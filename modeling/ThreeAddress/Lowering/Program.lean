import ThreeAddress.Lowering.Body

set_option autoImplicit false

namespace ThreeAddress

def Function.lower (function : Function) : Lower Unit := do
  function.formals.forM fun formal => Lower.onProcedure fun procedure => procedure.bindFormal formal
  Lower.receive 1 (← get).procedure.formals.toList
  Stmt.lowerAll function.body
  let procedure := (← get).procedure
  Lower.note (.procedureLowered procedure.name procedure.quads.size procedure.temps.size)

abbrev LowerProgram := EStateM Failure Session

namespace LowerProgram

def onProgram {α : Type} (step : Program → α × Program) : LowerProgram α :=
  modifyGet fun session =>
    let (answer, program) := step session.program
    (answer, { session with program := program })

def check {α : Type} : Except Fault α → LowerProgram α
  | .ok answer => return answer
  | .error fault => throw (.fault fault)

def close (id : Handle .procedure) (builder : Builder) : LowerProgram Unit := do
  set (⟨builder.program, builder.log⟩ : Session)
  let program ← check (builder.program.setProcedure id builder.procedure)
  set (⟨program, builder.log⟩ : Session)

-- Opens a procedure, runs `body` on it and closes it, also when `body` fails.
def within (id : Handle .procedure) (body : Lower Unit) : LowerProgram Unit := do
  let session ← get
  let procedure ← check (session.program.procedure id)
  match body.run ⟨session.program, procedure, session.log⟩ with
  | .ok _ builder => close id builder
  | .error violation builder => do
      close id builder
      throw (.violation violation)

end LowerProgram

open LowerProgram

def Decl.lower : Decl → LowerProgram Unit
  | .global symbol => modify fun session => session.bindGlobal symbol
  | .formal symbol => throw (.violation (.formalAtGlobalScope symbol.name))
  | .function definition => do
      let id ← onProgram fun program => program.addProcedure definition.symbol.name
      within id definition.lower

def Decl.lowerAll : List Decl → LowerProgram Unit
  | [] => return
  | decl :: tail => do
      decl.lower
      Decl.lowerAll tail

def lowerDecls (decls : List Decl) : LowerProgram Program := do
  Decl.lowerAll decls
  let session ← get
  let program := session.program
  set { session with
    log := session.log.push
      (.programLowered program.procedures.size program.globals.size program.strings.size) }
  return program

def lower (decls : List Decl) : Except Failure Program × Array Event :=
  match (lowerDecls decls).run .initial with
  | .ok program session => (.ok program, session.log)
  | .error failure session => (.error failure, session.log)

end ThreeAddress
