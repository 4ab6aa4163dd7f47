import ThreeAddress.Fault

set_option autoImplicit false

/- A handle is a 32-bit number of one kind of thing. The kind is part of the type,
   so a label is never taken for a temporary. Sums are formed in 64 bits, where they
   may overflow, and only then cut back to the low 32 bits. -/
namespace ThreeAddress

inductive Handle.Kind where
  | label
  | temp
  | string
  | procedure
  | symbol
deriving DecidableEq

structure Handle (kind : Handle.Kind) where
  val : UInt32
deriving DecidableEq

namespace Handle

variable {k : Kind}

def ofNat (n : Nat) : Handle k := ⟨UInt32.ofNat n⟩

def index (h : Handle k) : Nat := h.val.toNat

def first : Handle k := ⟨0⟩

def plus (h : Handle k) (amount : UInt64) : Except Fault (Handle k) :=
  if h.index + amount.toNat < UInt64.size then .ok (ofNat (h.index + amount.toNat))
  else .error .addOverflow

abbrev Counting (k : Kind) := EStateM Fault (Handle k)

def incrementBy (amount : UInt64) : Counting k Unit := do
  match (← get).plus amount with
  | .ok sum => set sum
  | .error fault => throw fault

def postIncrement : Counting k (Handle k) := do
  let previous ← get
  incrementBy 1
  return previous

-- The handle given out, and the counter after it. One more than a 32-bit number fits in 64
-- bits, so the second case does not arise.
def take (counter : Handle k) : Handle k × Handle k :=
  match postIncrement counter with
  | .ok previous moved => (previous, moved)
  | .error _ kept => (kept, kept)

def next (h : Handle k) : Handle k := h.take.2

def order (a b : Handle k) : Ordering := compare a.index b.index

def Kind.typeName : Kind → String
  | .label => "LabelId"
  | .temp => "TempId"
  | .string => "StringId"
  | .procedure => "ProcedureId"
  | .symbol => "SymbolId"

def describe (h : Handle k) : String := s!"{k.typeName}({h.index})"

theorem index_injective (a b : Handle k) (same : a.index = b.index) : a = b := by
  cases a
  cases b
  simpa [index, UInt32.toNat_inj] using same

end Handle

end ThreeAddress
