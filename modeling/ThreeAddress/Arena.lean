import ThreeAddress.Handle

set_option autoImplicit false

namespace ThreeAddress

structure Arena (kind : Handle.Kind) (α : Type) where
  items : Array α
deriving DecidableEq

namespace Arena

variable {k : Handle.Kind} {α : Type}

def empty : Arena k α := ⟨#[]⟩

def size (arena : Arena k α) : Nat := arena.items.size

def isEmpty (arena : Arena k α) : Bool := arena.items.isEmpty

def nextHandle (arena : Arena k α) : Handle k := .ofNat arena.size

def push (arena : Arena k α) (value : α) : Handle k × Arena k α :=
  (arena.nextHandle, ⟨arena.items.push value⟩)

def get? (arena : Arena k α) (h : Handle k) : Option α := arena.items[h.index]?

def outOfBounds (arena : Arena k α) (h : Handle k) : Fault :=
  .indexOutOfBounds arena.size h.index

def get (arena : Arena k α) (h : Handle k) : Except Fault α :=
  match arena.get? h with
  | some value => .ok value
  | none => .error (arena.outOfBounds h)

def set (arena : Arena k α) (h : Handle k) (value : α) : Except Fault (Arena k α) :=
  if h.index < arena.size then .ok ⟨arena.items.setIfInBounds h.index value⟩
  else .error (arena.outOfBounds h)

def inlineText (arena : Arena k α) (item : α → String) : String :=
  "[" ++ ", ".intercalate (arena.items.toList.map item) ++ "]"

def blockText (arena : Arena k α) (item : α → String) : String :=
  if arena.isEmpty then "[]"
  else "[\n" ++ String.join (arena.items.toList.map fun value => "    " ++ item value ++ ",\n") ++ "]"

end Arena

end ThreeAddress
