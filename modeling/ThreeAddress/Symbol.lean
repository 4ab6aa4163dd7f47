import ThreeAddress.Arena
import ThreeAddress.DataType

set_option autoImplicit false

namespace ThreeAddress

structure Symbol where
  id : Handle .symbol
  name : String
  type : DataType
deriving DecidableEq

structure SymbolTable where
  symbols : Arena .symbol Symbol

namespace SymbolTable

def empty : SymbolTable := ⟨.empty⟩

def declare (table : SymbolTable) (name : String) (type : DataType) : Symbol × SymbolTable :=
  let symbol : Symbol := ⟨table.symbols.nextHandle, name, type⟩
  (symbol, ⟨(table.symbols.push symbol).2⟩)

def get? (table : SymbolTable) (h : Handle .symbol) : Option Symbol := table.symbols.get? h

end SymbolTable

end ThreeAddress
