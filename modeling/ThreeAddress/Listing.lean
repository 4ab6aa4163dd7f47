import ThreeAddress.Program
import ThreeAddress.Terminal.Strip

set_option autoImplicit false

namespace ThreeAddress

open Terminal

def newline : Piece := .plain "\n"

def Operand.piece : Operand → Piece
  | .literal value _ => .painted .magenta value.text
  | .slot place => .painted .green ("[" ++ place.name ++ "]")
  | .temp place => .painted .yellow ("[" ++ place.id.tempName ++ "]")

namespace Instr

def keyword (text : String) : Piece := .painted .cyan text

def becomes : Piece := .painted .white ":="

def target (label : Handle .label) : Piece := .painted .blue label.labelName

def position (n : Nat) : Piece := .painted .magenta (toString n)

def words : Instr → List Piece
  | .assign dst src => [dst.piece, becomes, src.piece]
  | .unary op dst src => [dst.piece, becomes, keyword op.mnemonic, src.piece]
  | .binary op dst lhs rhs => [dst.piece, becomes, lhs.piece, keyword op.mnemonic, rhs.piece]
  | .ifZero cond label => [keyword "IFZ", cond.piece, keyword "GOTO", target label]
  | .goto label => [keyword "goto", target label]
  | .nop => [keyword "nop"]
  | .call _ name => [keyword "call", .painted .blue name]
  | .setArg n src => [keyword "setarg", position n, src.piece]
  | .getArg n dst => [keyword "getarg", position n, dst.piece]
  | .setRet src => [keyword "setret", src.piece]
  | .getRet dst => [keyword "getret", dst.piece]
  | .ret => [keyword "return"]
  | .magic dst => [dst.piece, becomes, keyword "MAGIC"]
  | .write src _ => [keyword "WRITE", src.piece]
  | .read dst _ => [keyword "READ", dst.piece]

def listing (instr : Instr) : Styled := instr.words.intersperse (.plain " ")

end Instr

namespace Quad

def labelColumn (quad : Quad) : String :=
  String.join (quad.labels.map fun label => label.labelName ++ ": ")

def labelWidth : Nat := 8

def padding (quad : Quad) : String :=
  String.ofList (List.replicate (labelWidth - quad.labelColumn.length) ' ')

def listing (quad : Quad) : Styled :=
  .painted .red quad.labelColumn :: .plain quad.padding :: quad.instr.listing

end Quad

def storageLine (name : Piece) (role : String) (width : Nat) : Styled :=
  [name, .plain " ", .painted .white s!"({role} of {width} bytes)", newline]

def Slot.line (role : String) (slot : Slot) : Styled :=
  storageLine (.painted .green slot.name) role slot.width

def Temp.line (temp : Temp) : Styled :=
  storageLine (.painted .yellow temp.id.tempName) "tmp var" temp.width

def heading (text : String) : Styled := [.painted .magenta ("[" ++ text ++ "]"), newline]

def Procedure.listing (procedure : Procedure) : Styled :=
  heading ("BEGIN " ++ procedure.name ++ " LOCALS") ++
    procedure.formals.toList.flatMap (Slot.line "formal arg") ++
    procedure.locals.toList.flatMap (Slot.line "local var") ++
    procedure.temps.items.toList.flatMap Temp.line ++
    heading ("END " ++ procedure.name ++ " LOCALS") ++
    procedure.quads.toList.flatMap fun quad => quad.listing ++ [newline]

def stringLine (entry : Handle .string × String) : Styled :=
  [.painted .magenta entry.1.stringName, .plain " ", .plain entry.2, newline]

def Program.listing (program : Program) : Styled :=
  heading "BEGIN GLOBALS" ++
    program.globals.values.flatMap (Slot.line "global var") ++
    program.strings.entries.flatMap stringLine ++
    heading "END GLOBALS" ++
    (program.procedures.items.toList.filter fun procedure => procedure.id != Program.initId).flatMap
      Procedure.listing

def display (colored : Bool) (styled : Styled) : String := String.ofList (styled.chars colored)

/-- Text with all escapes removed, those inside names and strings included. -/
def render (colored : Bool) (styled : Styled) : String := String.ofList (strip (styled.chars colored))

end ThreeAddress
