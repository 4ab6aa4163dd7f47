import ThreeAddress.Operand
import ThreeAddress.Proofs.Maps

set_option autoImplicit false

namespace ThreeAddress

def bindAll (map : HandleMap .symbol Slot) (symbols : List Symbol) : HandleMap .symbol Slot :=
  symbols.foldl (fun map symbol => map.insert symbol.id (.ofSymbol symbol)) map

def latest (symbols : List Symbol) (id : Handle .symbol) : Option Slot :=
  ((symbols.filter fun symbol => symbol.id = id).getLast?).map .ofSymbol

theorem bind_all_concat (map : HandleMap .symbol Slot) (symbols : List Symbol) (symbol : Symbol) :
    bindAll map (symbols ++ [symbol]) = (bindAll map symbols).insert symbol.id (.ofSymbol symbol) := by
  rw [bindAll, List.foldl_append]
  rfl

theorem latest_cons (symbol : Symbol) (tail : List Symbol) (id : Handle .symbol) :
    latest (symbol :: tail) id =
      (latest tail id).or (if id = symbol.id then some (.ofSymbol symbol) else none) := by
  by_cases hit : symbol.id = id
  · rw [latest, List.filter_cons_of_pos (by simpa using hit), List.getLast?_cons, if_pos hit.symm, latest]
    cases (tail.filter fun symbol => symbol.id = id).getLast? <;> rfl
  · rw [latest, List.filter_cons_of_neg (by simpa using hit), if_neg (Ne.symm hit), Option.or_none, latest]

theorem latest_append (front back : List Symbol) (id : Handle .symbol) :
    latest (front ++ back) id = (latest back id).or (latest front id) := by
  rw [latest, List.filter_append, List.getLast?_append, Option.map_or]
  rfl

theorem latest_is_some (symbols : List Symbol) (id : Handle .symbol) :
    (latest symbols id).isSome = true ↔ id ∈ symbols.map Symbol.id := by
  induction symbols with
  | nil => simp [latest]
  | cons symbol tail ih =>
      rw [latest_cons, List.map_cons, List.mem_cons, ← ih, Option.isSome_or]
      by_cases hit : id = symbol.id <;> simp [hit]

theorem mem_of_latest (symbols : List Symbol) (id : Handle .symbol) (slot : Slot) (found : latest symbols id = some slot) :
    ∃ symbol ∈ symbols, symbol.id = id ∧ slot = .ofSymbol symbol := by
  obtain ⟨symbol, last, rfl⟩ := Option.map_eq_some_iff.mp found
  obtain ⟨member, same⟩ := List.mem_filter.mp (List.mem_of_getLast? last)
  exact ⟨symbol, member, by simpa using same, rfl⟩

theorem get?_bind_all (map : HandleMap .symbol Slot) (symbols : List Symbol) (id : Handle .symbol) :
    (bindAll map symbols).get? id = (latest symbols id).or (map.get? id) := by
  induction symbols generalizing map with
  | nil => rfl
  | cons symbol tail ih =>
      change (bindAll (map.insert symbol.id (.ofSymbol symbol)) tail).get? id = _
      rw [ih, HandleMap.get?_insert, latest_cons, Option.or_assoc]
      by_cases hit : id = symbol.id
      · rw [if_pos hit, if_pos hit, Option.some_or]
      · rw [if_neg hit, if_neg hit, Option.none_or]

structure Tabled (map : HandleMap .symbol Slot) : Prop where
  ascending : map.Ascending
  keyed : ∀ entry ∈ map.entries, entry.2.symbol = entry.1

theorem Tabled.empty : Tabled .empty where
  ascending := .nil
  keyed := fun _ member => absurd member List.not_mem_nil

theorem Tabled.insert (map : HandleMap .symbol Slot) (tabled : Tabled map) (symbol : Symbol) :
    Tabled (map.insert symbol.id (.ofSymbol symbol)) := by
  constructor
  · exact tabled.ascending.insert map symbol.id _
  · intro entry member
    rcases HandleMap.mem_insert_entry _ _ _ entry member with rfl | old
    · rfl
    · exact tabled.keyed entry old

theorem Tabled.bind_all (map : HandleMap .symbol Slot) (tabled : Tabled map) (symbols : List Symbol) :
    Tabled (bindAll map symbols) := by
  induction symbols generalizing map with
  | nil => exact tabled
  | cons symbol tail ih => exact ih _ (tabled.insert map symbol)

theorem Tabled.values (map : HandleMap .symbol Slot) (tabled : Tabled map) :
    map.values.Pairwise fun earlier later => earlier.symbol.index < later.symbol.index := by
  refine List.pairwise_map.mpr (List.Pairwise.imp_of_mem ?_ tabled.ascending)
  intro earlier later member follower below
  rw [tabled.keyed earlier member, tabled.keyed later follower]
  exact below

end ThreeAddress
