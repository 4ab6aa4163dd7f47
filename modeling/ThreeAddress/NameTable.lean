import Std.Data.HashMap
import ThreeAddress.Text.Quoted

set_option autoImplicit false

/- Interned names. Each distinct name is stored once and stands for its position.
   Interning is a lookup and, when that misses, an insertion that looks again first;
   the two steps may be separated by those of other users of the table. -/
namespace ThreeAddress

structure NameTable where
  names : Array String
  positions : Std.HashMap String UInt32

namespace NameTable

def empty : NameTable := ⟨#[], ∅⟩

def find? (table : NameTable) (name : String) : Option UInt32 := table.positions[name]?

def insertIfAbsent (table : NameTable) (name : String) : UInt32 × NameTable :=
  match table.find? name with
  | some position => (position, table)
  | none =>
      let position := UInt32.ofNat table.names.size
      (position, ⟨table.names.push name, table.positions.insert name position⟩)

def intern (table : NameTable) (name : String) : UInt32 × NameTable :=
  match table.find? name with
  | some position => (position, table)
  | none => table.insertIfAbsent name

def value (table : NameTable) (position : UInt32) : String :=
  (table.names[position.toNat]?).getD ""

/-- Diagnostic form of an interned name. The position depends on everything interned
before, so a blank stands for it. -/
def describe (table : NameTable) (position : UInt32) : String :=
  "InternedSymbol(_, " ++ Text.quoted (table.value position) ++ ")"

end NameTable

end ThreeAddress
