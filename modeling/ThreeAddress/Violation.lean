import ThreeAddress.Fault

set_option autoImplicit false

namespace ThreeAddress

inductive Violation where
  | functionAtLocalScope (name : String)
  | formalAtGlobalScope (name : String)
  | unboundIdentifier (name : String)
  | voidValue (name : String)
  | notAFunction (name : String)
deriving DecidableEq

namespace Violation

def name : Violation → String
  | .functionAtLocalScope name | .formalAtGlobalScope name | .unboundIdentifier name
  | .voidValue name | .notAFunction name => name

def message : Violation → String
  | .functionAtLocalScope name => s!"function declaration `{name}` at a local scope"
  | .formalAtGlobalScope name => s!"formal declaration `{name}` at a global scope"
  | .unboundIdentifier name => s!"identifier `{name}` has no storage bound in this context"
  | .voidValue name => s!"call to void function `{name}` used as a value"
  | .notAFunction name => s!"`{name}` is called but does not have a function type"

def site : Violation → String
  | .functionAtLocalScope _ => "quadc::middle::tac::ast_lowering::lower_local_declaration"
  | .formalAtGlobalScope _ => "quadc::middle::tac::ast_lowering::lower_global_declaration"
  | .unboundIdentifier _ => "quadc::middle::tac::ast_lowering::lookup"
  | .voidValue _ => "quadc::middle::tac::ast_lowering::flatten_expression"
  | .notAFunction _ => "quadc::middle::tac::ast_lowering::lower_call"

end Violation

structure Report where
  violation : Violation
  site : Option String
deriving DecidableEq

namespace Report

def ofViolation (violation : Violation) : Report := ⟨violation, some violation.site⟩

def message (report : Report) : String :=
  "internal consistency violation: " ++ report.violation.message ++
    match report.site with
    | some site => "\n  detected in " ++ site
    | none => ""

end Report

inductive Failure where
  | violation (violation : Violation)
  | fault (fault : Fault)
deriving DecidableEq

end ThreeAddress
