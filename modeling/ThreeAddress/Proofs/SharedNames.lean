import Mathlib.Data.Finset.Card
import Mathlib.Logic.Relation
import ThreeAddress.NameTable
import ThreeAddress.Proofs.Handles

set_option autoImplicit false

/- Names interned from several threads at once. A call looks its name up and, when that
   misses, enters the name in a step of its own; between the two steps the other threads go
   on. Whatever the order of the steps, each name keeps the one position that it was given. -/
namespace ThreeAddress

open Relation

namespace NameTable

def Indexed (table : NameTable) : Prop :=
  ∀ (name : String) (i : Nat), (table.find? name).map UInt32.toNat = some i ↔ table.names[i]? = some name

theorem empty_indexed : empty.Indexed := by
  intro name i
  simp [empty, find?]

theorem insert_if_absent_of_found (table : NameTable) (name : String) (position : UInt32)
    (found : table.find? name = some position) : table.insertIfAbsent name = (position, table) := by
  rw [insertIfAbsent, found]

theorem insert_if_absent_of_absent (table : NameTable) (name : String) (absent : table.find? name = none) :
    table.insertIfAbsent name =
      (.ofNat table.names.size,
        ⟨table.names.push name, table.positions.insert name (.ofNat table.names.size)⟩) := by
  rw [insertIfAbsent, absent]

theorem find?_insert_if_absent (table : NameTable) (name query : String) :
    (table.insertIfAbsent name).2.find? query =
      if query = name then some (table.insertIfAbsent name).1 else table.find? query := by
  cases looked : table.find? name with
  | some position =>
      rw [insert_if_absent_of_found table name position looked]
      by_cases same : query = name
      · rw [if_pos same, same, looked]
      · rw [if_neg same]
  | none =>
      rw [insert_if_absent_of_absent table name looked]
      change (table.positions.insert name _)[query]? = _
      rw [Std.HashMap.getElem?_insert]
      by_cases same : query = name
      · simp [same]
      · simp [same, Ne.symm same, find?]

theorem find?_stays (table : NameTable) (name query : String) (position : UInt32)
    (found : table.find? query = some position) : (table.insertIfAbsent name).2.find? query = some position := by
  rw [find?_insert_if_absent]
  by_cases same : query = name
  · rw [if_pos same, insert_if_absent_of_found table name position (same ▸ found)]
  · rw [if_neg same, found]

namespace Indexed

variable {table : NameTable} (indexed : table.Indexed)

include indexed

theorem nodup : table.names.toList.Nodup := by
  rw [List.nodup_iff_getElem?_ne_getElem?]
  intro i j before inside same
  rw [Array.getElem?_toList, Array.getElem?_toList] at same
  obtain ⟨name, here⟩ : ∃ name, table.names[j]? = some name :=
    ⟨_, Array.getElem?_eq_getElem (by simpa using inside)⟩
  have first := (indexed name i).mpr (same.trans here)
  have second := (indexed name j).mpr here
  rw [first] at second
  cases second
  omega

theorem stored (name : String) (position : UInt32) (found : table.find? name = some position) :
    table.names[position.toNat]? = some name := by
  apply (indexed name position.toNat).mp
  rw [found, Option.map_some]

theorem value (name : String) (position : UInt32) (found : table.find? name = some position) :
    table.value position = name := by
  rw [NameTable.value, indexed.stored name position found, Option.getD_some]

theorem absent (name : String) (missed : table.find? name = none) (i : Nat) : table.names[i]? ≠ some name := by
  intro here
  have found := (indexed name i).mpr here
  rw [missed] at found
  cases found

theorem insert_if_absent (name : String) (room : table.names.size < 2 ^ 32) :
    (table.insertIfAbsent name).2.Indexed := by
  intro query i
  rw [find?_insert_if_absent]
  cases looked : table.find? name with
  | some position =>
      rw [insert_if_absent_of_found table name position looked]
      by_cases same : query = name
      · rw [if_pos same, same, ← looked]
        exact indexed name i
      · rw [if_neg same]
        exact indexed query i
  | none =>
      rw [insert_if_absent_of_absent table name looked]
      have last : (UInt32.ofNat table.names.size).toNat = table.names.size := UInt32.toNat_ofNat_of_lt' room
      rw [Array.getElem?_push]
      by_cases same : query = name
      · rw [if_pos same, Option.map_some, last, same]
        by_cases atEnd : i = table.names.size
        · simp [atEnd]
        · rw [if_neg atEnd]
          constructor
          · intro here
            cases here
            exact absurd rfl atEnd
          · intro here
            exact absurd here (indexed.absent name looked i)
      · rw [if_neg same, indexed query i]
        by_cases atEnd : i = table.names.size
        · rw [if_pos atEnd, atEnd, Array.getElem?_eq_none (Nat.le_refl _)]
          constructor
          · intro here
            cases here
          · intro here
            exact absurd (Option.some.inj here).symm same
        · rw [if_neg atEnd]

end Indexed

structure Interned where
  thread : Nat
  name : String
  position : UInt32
deriving DecidableEq

structure Shared where
  table : NameTable
  waiting : Nat → Option String
  asked : List String
  done : List Interned

namespace Shared

def initial : Shared := ⟨.empty, fun _ => none, [], []⟩

-- First step of a call, under the read lock. A name that is found ends the call.
def look (shared : Shared) (thread : Nat) (name : String) : Shared :=
  match shared.table.find? name with
  | some position =>
      { shared with asked := name :: shared.asked, done := ⟨thread, name, position⟩ :: shared.done }
  | none =>
      { shared with
        asked := name :: shared.asked
        waiting := Function.update shared.waiting thread (some name) }

def enter (shared : Shared) (thread : Nat) (name : String) : Shared :=
  { shared with
    table := (shared.table.insertIfAbsent name).2
    waiting := Function.update shared.waiting thread none
    done := ⟨thread, name, (shared.table.insertIfAbsent name).1⟩ :: shared.done }

inductive Step : Shared → Shared → Prop where
  | look (shared : Shared) (thread : Nat) (name : String) (idle : shared.waiting thread = none) :
      Step shared (shared.look thread name)
  | enter (shared : Shared) (thread : Nat) (name : String) (waits : shared.waiting thread = some name) :
      Step shared (shared.enter thread name)

-- What all steps keep. Of a call that waits only its name is known: by now another thread
-- may have entered that name, or any other.
structure Coherent (shared : Shared) : Prop where
  indexed : shared.table.Indexed
  stored : ∀ name ∈ shared.table.names, name ∈ shared.asked
  waiting : ∀ thread name, shared.waiting thread = some name → name ∈ shared.asked
  done : ∀ call ∈ shared.done, shared.table.find? call.name = some call.position

theorem initial_coherent : initial.Coherent := by
  constructor
  · exact empty_indexed
  · simp [initial, empty]
  · simp [initial]
  · simp [initial]

section Look

variable (shared : Shared) (thread : Nat) (name : String)

theorem look_of_found (position : UInt32) (found : shared.table.find? name = some position) :
    shared.look thread name =
      { shared with asked := name :: shared.asked, done := ⟨thread, name, position⟩ :: shared.done } := by
  rw [look, found]

theorem look_of_absent (absent : shared.table.find? name = none) :
    shared.look thread name =
      { shared with
        asked := name :: shared.asked
        waiting := Function.update shared.waiting thread (some name) } := by
  rw [look, absent]

@[simp] theorem table_look : (shared.look thread name).table = shared.table := by
  unfold look
  split <;> rfl

@[simp] theorem asked_look : (shared.look thread name).asked = name :: shared.asked := by
  unfold look
  split <;> rfl

end Look

theorem Coherent.look {shared : Shared} (coherent : shared.Coherent) (thread : Nat) (name : String) :
    (shared.look thread name).Coherent := by
  constructor
  · rw [table_look]
    exact coherent.indexed
  · intro other member
    rw [table_look] at member
    rw [asked_look]
    exact List.mem_cons_of_mem name (coherent.stored other member)
  · intro other missed waits
    rw [asked_look]
    cases looked : shared.table.find? name with
    | some position =>
        rw [look_of_found shared thread name position looked] at waits
        exact List.mem_cons_of_mem name (coherent.waiting other missed waits)
    | none =>
        rw [look_of_absent shared thread name looked] at waits
        by_cases same : other = thread
        · simp only [same, Function.update_self, Option.some.injEq] at waits
          exact waits ▸ List.mem_cons_self
        · simp only [Function.update_of_ne same] at waits
          exact List.mem_cons_of_mem name (coherent.waiting other missed waits)
  · intro call member
    rw [table_look]
    cases looked : shared.table.find? name with
    | some position =>
        rw [look_of_found shared thread name position looked] at member
        rcases List.mem_cons.mp member with rfl | earlier
        · exact looked
        · exact coherent.done call earlier
    | none =>
        rw [look_of_absent shared thread name looked] at member
        exact coherent.done call member

-- Names are stored once each, so there are no more of them than distinct names asked for.
theorem Coherent.room {shared : Shared} (coherent : shared.Coherent)
    (few : shared.asked.toFinset.card < 2 ^ 32) : shared.table.names.size < 2 ^ 32 := by
  have counted := List.toFinset_card_of_nodup coherent.indexed.nodup
  have within : shared.table.names.toList.toFinset ⊆ shared.asked.toFinset := by
    intro name member
    rw [List.mem_toFinset, Array.mem_toList_iff] at member
    exact List.mem_toFinset.mpr (coherent.stored name member)
  have bound := Finset.card_le_card within
  rw [counted, Array.length_toList] at bound
  omega

theorem Coherent.enter {shared : Shared} (coherent : shared.Coherent) (thread : Nat) (name : String)
    (waits : shared.waiting thread = some name) (few : shared.asked.toFinset.card < 2 ^ 32) :
    (shared.enter thread name).Coherent := by
  constructor
  · exact coherent.indexed.insert_if_absent name (coherent.room few)
  · intro other member
    cases looked : shared.table.find? name with
    | some position =>
        simp only [Shared.enter, insert_if_absent_of_found _ _ _ looked] at member
        exact coherent.stored other member
    | none =>
        simp only [Shared.enter, insert_if_absent_of_absent _ _ looked, Array.mem_push] at member
        rcases member with old | rfl
        · exact coherent.stored other old
        · exact coherent.waiting thread other waits
  · intro other missed still
    by_cases same : other = thread
    · rw [same] at still
      simp [Shared.enter] at still
    · simp only [Shared.enter, Function.update_of_ne same] at still
      exact coherent.waiting other missed still
  · intro call member
    rcases List.mem_cons.mp member with rfl | earlier
    · simp only [Shared.enter, find?_insert_if_absent, if_pos]
    · exact find?_stays shared.table name call.name call.position (coherent.done call earlier)

structure Grows (before after : Shared) : Prop where
  asked : before.asked ⊆ after.asked
  found : ∀ name position, before.table.find? name = some position → after.table.find? name = some position

theorem Step.grows {before after : Shared} (step : Step before after) : Grows before after := by
  cases step with
  | look thread name idle =>
      constructor
      · rw [asked_look]
        exact List.subset_cons_self name before.asked
      · rw [table_look]
        exact fun _ _ found => found
  | enter thread name waits => exact ⟨List.Subset.refl _, find?_stays before.table name⟩

theorem grows_of_steps {before after : Shared} (steps : ReflTransGen Step before after) : Grows before after := by
  induction steps with
  | refl => exact ⟨List.Subset.refl _, fun _ _ found => found⟩
  | tail _ step ih =>
      constructor
      · exact List.Subset.trans ih.asked step.grows.asked
      · exact fun name position found => step.grows.found name position (ih.found name position found)

theorem Grows.few {before after : Shared} (grows : Grows before after)
    (few : after.asked.toFinset.card < 2 ^ 32) : before.asked.toFinset.card < 2 ^ 32 := by
  have within : before.asked.toFinset ⊆ after.asked.toFinset := by
    intro name member
    rw [List.mem_toFinset] at member ⊢
    exact grows.asked member
  exact Nat.lt_of_le_of_lt (Finset.card_le_card within) few

theorem Step.coherent {before after : Shared} (step : Step before after) (coherent : before.Coherent)
    (few : after.asked.toFinset.card < 2 ^ 32) : after.Coherent := by
  have earlier := step.grows.few few
  cases step with
  | look thread name idle => exact coherent.look thread name
  | enter thread name waits => exact coherent.enter thread name waits earlier

theorem coherent_of_steps {before after : Shared} (steps : ReflTransGen Step before after)
    (coherent : before.Coherent) (few : after.asked.toFinset.card < 2 ^ 32) : after.Coherent := by
  induction steps with
  | refl => exact coherent
  | tail _ step ih => exact step.coherent (ih (step.grows.few few)) few

end Shared

open Shared

theorem interning_stable_bijection (state later : Shared) (reached : ReflTransGen Step .initial state)
    (continued : ReflTransGen Step state later) (few : later.asked.toFinset.card < 2 ^ 32) :
    state.table.names.toList.Nodup ∧
    (∀ name i, (state.table.find? name).map UInt32.toNat = some i ↔ state.table.names[i]? = some name) ∧
    (∀ call ∈ state.done, later.table.value call.position = call.name) ∧
    ∀ a ∈ state.done, ∀ b ∈ state.done, a.position = b.position ↔ a.name = b.name := by
  have grows := grows_of_steps continued
  have now := coherent_of_steps reached initial_coherent (grows.few few)
  have then_ := coherent_of_steps continued now few
  refine ⟨now.indexed.nodup, now.indexed, ?_, ?_⟩
  · intro call member
    exact then_.indexed.value call.name call.position (grows.found _ _ (now.done call member))
  · intro a first b second
    have foundFirst := now.done a first
    have foundSecond := now.done b second
    constructor
    · intro same
      rw [← now.indexed.value a.name a.position foundFirst, same, now.indexed.value b.name b.position foundSecond]
    · intro same
      rw [same, foundSecond] at foundFirst
      exact (Option.some.inj foundFirst).symm

namespace Shared

-- Two threads miss the same name before either has entered it, and the second one to enter
-- it finds it there. Then a third thread enters another name.
def missed : Shared := (initial.look 0 "x").look 1 "x"

def raced : Shared := (missed.enter 1 "x").enter 0 "x"

def settled : Shared := (raced.look 2 "y").enter 2 "y"

theorem initial_absent : initial.table.find? "x" = none := by simp [initial, empty, find?]

theorem missed_eq :
    missed = ⟨.empty, Function.update (Function.update (fun _ => none) 0 (some "x")) 1 (some "x"), ["x", "x"], []⟩ := by
  rw [missed, look_of_absent _ _ _ (by rw [table_look, initial_absent]), look_of_absent _ _ _ initial_absent]
  rfl

theorem missed_reached : ReflTransGen Step .initial missed := by
  have first : Step .initial (initial.look 0 "x") := .look _ _ _ rfl
  have second : Step (initial.look 0 "x") missed := by
    apply Step.look
    rw [look_of_absent _ _ _ initial_absent]
    rfl
  exact (ReflTransGen.single first).tail second

theorem raced_eq : raced = ⟨⟨#["x"], Std.HashMap.insert ∅ "x" 0⟩, fun _ => none, ["x", "x"],
    [⟨0, "x", 0⟩, ⟨1, "x", 0⟩]⟩ := by
  have entered : missed.enter 1 "x" = ⟨⟨#["x"], Std.HashMap.insert ∅ "x" 0⟩,
      Function.update (fun _ => none) 0 (some "x"), ["x", "x"], [⟨1, "x", 0⟩]⟩ := by
    rw [missed_eq, enter, insert_if_absent_of_absent _ _ (by simp [empty, find?])]
    simp [empty]
  rw [raced, entered, enter, insert_if_absent_of_found _ _ 0 (by simp [find?])]
  simp

theorem raced_reached : ReflTransGen Step missed raced := by
  have first : Step missed (missed.enter 1 "x") := by
    apply Step.enter
    rw [missed_eq]
    rfl
  have second : Step (missed.enter 1 "x") raced := by
    apply Step.enter
    rw [missed_eq]
    rfl
  exact (ReflTransGen.single first).tail second

theorem raced_absent : raced.table.find? "y" = none := by simp [raced_eq, find?]

theorem raced_look : raced.look 2 "y" =
    { raced with asked := ["y", "x", "x"], waiting := Function.update (fun _ => none) 2 (some "y") } := by
  rw [look_of_absent _ _ _ raced_absent, raced_eq]

theorem settled_reached : ReflTransGen Step raced settled := by
  have first : Step raced (raced.look 2 "y") := by
    apply Step.look
    rw [raced_eq]
  have second : Step (raced.look 2 "y") settled := by
    apply Step.enter
    rw [raced_look]
    rfl
  exact (ReflTransGen.single first).tail second

theorem settled_done : settled.done = [⟨2, "y", 1⟩, ⟨0, "x", 0⟩, ⟨1, "x", 0⟩] := by
  rw [settled, raced_look, enter, insert_if_absent_of_absent _ _ raced_absent, raced_eq]
  rfl

end Shared

theorem raced_stable_bijection :
    ∃ state later : Shared, ReflTransGen Step .initial state ∧ ReflTransGen Step state later ∧
      state.done = [⟨0, "x", 0⟩, ⟨1, "x", 0⟩] ∧ later.done = ⟨2, "y", 1⟩ :: state.done ∧
      state.table.names.toList.Nodup ∧
      (∀ name i, (state.table.find? name).map UInt32.toNat = some i ↔ state.table.names[i]? = some name) ∧
      (∀ call ∈ state.done, later.table.value call.position = call.name) ∧
      ∀ a ∈ later.done, ∀ b ∈ later.done, a.position = b.position ↔ a.name = b.name := by
  have few : settled.asked.toFinset.card < 2 ^ 32 := by
    have asked : settled.asked = ["y", "x", "x"] := by rw [settled, raced_look, enter]
    rw [asked]
    decide
  have started := missed_reached.trans raced_reached
  obtain ⟨distinct, indexed, kept, _⟩ := interning_stable_bijection raced settled started settled_reached few
  obtain ⟨_, _, _, told⟩ :=
    interning_stable_bijection settled settled (started.trans settled_reached) .refl few
  refine ⟨raced, settled, started, settled_reached, ?_, ?_, distinct, indexed, kept, told⟩
  · rw [raced_eq]
  · rw [settled_done, raced_eq]

end NameTable

end ThreeAddress
