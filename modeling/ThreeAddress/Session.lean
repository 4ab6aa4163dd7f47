import ThreeAddress.Event
import ThreeAddress.Program

set_option autoImplicit false

namespace ThreeAddress

structure Session where
  program : Program
  log : Array Event

namespace Session

def initial : Session := ⟨.initial, #[]⟩

def bindGlobal (session : Session) (symbol : Symbol) : Session :=
  { program := session.program.bindGlobal symbol
    log :=
      if (session.program.global? symbol.id).isSome then
        session.log.push (.globalRebound symbol.name)
      else session.log }

end Session

end ThreeAddress
