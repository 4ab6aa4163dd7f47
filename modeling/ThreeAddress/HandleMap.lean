import ThreeAddress.Handle

set_option autoImplicit false

namespace ThreeAddress

structure HandleMap (kind : Handle.Kind) (α : Type) where
  entries : List (Handle kind × α)
deriving DecidableEq

namespace HandleMap

variable {k : Handle.Kind} {α : Type}

def empty : HandleMap k α := ⟨[]⟩

def size (map : HandleMap k α) : Nat := map.entries.length

def values (map : HandleMap k α) : List α := map.entries.map Prod.snd

def insertEntry (h : Handle k) (value : α) : List (Handle k × α) → List (Handle k × α)
  | [] => [(h, value)]
  | (key, other) :: tail =>
      if h.val < key.val then (h, value) :: (key, other) :: tail
      else if h = key then (h, value) :: tail
      else (key, other) :: insertEntry h value tail

def lookup (h : Handle k) : List (Handle k × α) → Option α
  | [] => none
  | (key, value) :: tail => if h = key then some value else lookup h tail

def insert (map : HandleMap k α) (h : Handle k) (value : α) : HandleMap k α :=
  ⟨insertEntry h value map.entries⟩

def get? (map : HandleMap k α) (h : Handle k) : Option α := lookup h map.entries

theorem lookup_insert_entry (h query : Handle k) (value : α) (entries : List (Handle k × α)) :
    lookup query (insertEntry h value entries) =
      if query = h then some value else lookup query entries := by
  induction entries with
  | nil => simp [insertEntry, lookup]
  | cons entry tail ih =>
      obtain ⟨key, other⟩ := entry
      by_cases before : h.val < key.val
      · simp [insertEntry, lookup, before]
      · by_cases same : h = key
        · subst same
          by_cases hit : query = h <;> simp [insertEntry, lookup, hit]
        · by_cases hit : query = key
          · have other : ¬ key = h := fun eq => same eq.symm
            simp [insertEntry, lookup, before, same, hit, other]
          · simp [insertEntry, lookup, before, same, hit, ih]

@[simp] theorem get?_insert (map : HandleMap k α) (h query : Handle k) (value : α) :
    (map.insert h value).get? query = if query = h then some value else map.get? query :=
  lookup_insert_entry h query value map.entries

end HandleMap

end ThreeAddress
