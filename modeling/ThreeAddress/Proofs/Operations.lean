import ThreeAddress.Program
import ThreeAddress.Proofs.Bindings

set_option autoImplicit false

namespace ThreeAddress

theorem filter_map_concat {α β : Type} (f : α → Option β) (items : List α) (item : α) :
    (items ++ [item]).filterMap f = items.filterMap f ++ (f item).toList := by
  rw [List.filterMap_append, List.filterMap_cons, List.filterMap_nil]
  cases f item <;> rfl

inductive Answer where
  | procedure (id : Handle .procedure)
  | label (label : Handle .label)
  | operand (operand : Operand)
  | done
deriving DecidableEq

def Answer.label? : Answer → Option (Handle .label)
  | .label id => some id
  | _ => none

inductive Procedure.Operation where
  | freshTemp (width : Nat)
  | bindFormal (symbol : Symbol)
  | bindLocal (symbol : Symbol)
  | push (quad : Quad)
deriving DecidableEq

namespace Procedure

def perform (procedure : Procedure) : Operation → Answer × Procedure
  | .freshTemp width =>
      let (temp, procedure) := procedure.freshTemp width
      (.operand (.temp temp), procedure)
  | .bindFormal symbol => (.operand (.slot (.ofSymbol symbol)), procedure.bindFormal symbol)
  | .bindLocal symbol => (.operand (.slot (.ofSymbol symbol)), procedure.bindLocal symbol)
  | .push quad => (.done, procedure.push quad)

namespace Operation

@[simp] def width? : Operation → Option Nat
  | .freshTemp width => some width
  | _ => none

@[simp] def formal? : Operation → Option Symbol
  | .bindFormal symbol => some symbol
  | _ => none

@[simp] def local? : Operation → Option Symbol
  | .bindLocal symbol => some symbol
  | _ => none

@[simp] def symbol? : Operation → Option Symbol
  | .bindFormal symbol | .bindLocal symbol => some symbol
  | .freshTemp _ | .push _ => none

@[simp] def quad? : Operation → Option Quad
  | .push quad => some quad
  | _ => none

def answer (earlier : List Operation) : Operation → Answer
  | .freshTemp width => .operand (.temp ⟨.ofNat (earlier.filterMap width?).length, width⟩)
  | .bindFormal symbol | .bindLocal symbol => .operand (.slot (.ofSymbol symbol))
  | .push _ => .done

end Operation

def ofHistory (id : Handle .procedure) (name : String) (history : List Operation) : Procedure where
  id := id
  name := name
  formals := ((history.filterMap Operation.formal?).map Slot.ofSymbol).toArray
  locals := ((history.filterMap Operation.local?).map Slot.ofSymbol).toArray
  temps := ⟨((history.filterMap Operation.width?).mapIdx fun i width => ⟨.ofNat i, width⟩).toArray⟩
  quads := (history.filterMap Operation.quad?).toArray
  bindings := bindAll .empty (history.filterMap Operation.symbol?)

theorem perform_of_history (id : Handle .procedure) (name : String) (history : List Operation) (operation : Operation) :
    (ofHistory id name history).perform operation =
      (operation.answer history, ofHistory id name (history ++ [operation])) := by
  simp only [ofHistory, filter_map_concat]
  cases operation <;>
    simp [perform, Operation.answer, freshTemp, bindFormal, bindLocal, push, Arena.push, Arena.nextHandle, Arena.size,
      bind_all_concat, List.mapIdx_append]

end Procedure

inductive Program.Operation where
  | addProcedure (name : String)
  | freshLabel
  | poolString (text : String)
  | bindGlobal (symbol : Symbol)
  | within (owner : Handle .procedure) (operation : Procedure.Operation)
deriving DecidableEq

namespace Program

def perform (program : Program) : Operation → Except Fault (Answer × Program)
  | .addProcedure name =>
      let (id, program) := program.addProcedure name
      .ok (.procedure id, program)
  | .freshLabel =>
      let (label, program) := program.freshLabel
      .ok (.label label, program)
  | .poolString text =>
      let (operand, program) := program.poolString text
      .ok (.operand operand, program)
  | .bindGlobal symbol => .ok (.operand (.slot (.ofSymbol symbol)), program.bindGlobal symbol)
  | .within owner operation => program.onProcedure owner fun procedure => procedure.perform operation

def performAll (program : Program) : List Operation → Except Fault (List Answer × Program)
  | [] => .ok ([], program)
  | operation :: rest => do
      let (answer, program) ← program.perform operation
      let (answers, program) ← program.performAll rest
      return (answer :: answers, program)

namespace Operation

@[simp] def name? : Operation → Option String
  | .addProcedure name => some name
  | _ => none

@[simp] def text? : Operation → Option String
  | .poolString text => some text
  | _ => none

@[simp] def global? : Operation → Option Symbol
  | .bindGlobal symbol => some symbol
  | _ => none

@[simp] def inside? (owner : Handle .procedure) : Operation → Option Procedure.Operation
  | .within target operation => if target = owner then some operation else none
  | _ => none

def names (history : List Operation) : List String := "init" :: history.filterMap name?

def texts (history : List Operation) : List String := history.filterMap text?

def globals (history : List Operation) : List Symbol := history.filterMap global?

def inside (owner : Handle .procedure) (history : List Operation) : List Procedure.Operation :=
  history.filterMap (inside? owner)

def answer (earlier : List Operation) : Operation → Answer
  | .addProcedure _ => .procedure (.ofNat (names earlier).length)
  | .freshLabel => .label (.ofNat (earlier.count .freshLabel))
  | .poolString _ => .operand (.literal (.string (.ofNat (texts earlier).length)) DataType.string.width)
  | .bindGlobal symbol => .operand (.slot (.ofSymbol symbol))
  | .within owner operation => operation.answer (inside owner earlier)

def answers (earlier : List Operation) : List Operation → List Answer
  | [] => []
  | operation :: rest => operation.answer earlier :: answers (earlier ++ [operation]) rest

def Aimed (earlier : List Operation) : Operation → Prop
  | .within owner _ => owner.index < (names earlier).length
  | _ => True

instance (earlier : List Operation) (operation : Operation) : Decidable (operation.Aimed earlier) :=
  match operation with
  | .within owner _ => inferInstanceAs (Decidable (owner.index < _))
  | .addProcedure _ | .freshLabel | .poolString _ | .bindGlobal _ => .isTrue trivial

end Operation

def procedureTable (names : List String) (history : List Operation) : List Procedure :=
  names.mapIdx fun i name => .ofHistory (.ofNat i) name (Operation.inside (.ofNat i) history)

def ofHistory (history : List Operation) : Program where
  procedures := ⟨(procedureTable (Operation.names history) history).toArray⟩
  globals := bindAll .empty (Operation.globals history)
  strings := HandleMap.empty.insertAll .first (Operation.texts history)
  nextLabel := .ofNat (history.count .freshLabel)
  nextString := .ofNat (Operation.texts history).length

theorem initial_eq_of_history : initial = ofHistory [] := rfl

namespace Operation

variable (history : List Operation)

theorem names_concat (operation : Operation) :
    names (history ++ [operation]) = names history ++ operation.name?.toList :=
  congrArg ("init" :: ·) (filter_map_concat name? history operation)

theorem texts_concat (operation : Operation) :
    texts (history ++ [operation]) = texts history ++ operation.text?.toList :=
  filter_map_concat text? history operation

theorem globals_concat (operation : Operation) :
    globals (history ++ [operation]) = globals history ++ operation.global?.toList :=
  filter_map_concat global? history operation

theorem inside_concat (owner : Handle .procedure) (operation : Operation) :
    inside owner (history ++ [operation]) = inside owner history ++ (operation.inside? owner).toList :=
  filter_map_concat (inside? owner) history operation

theorem inside_unused (owner : Handle .procedure)
    (unused : ∀ target operation, .within target operation ∈ history → target ≠ owner) :
    inside owner history = [] := by
  refine List.filterMap_eq_nil_iff.mpr ?_
  intro operation member
  cases operation with
  | within target operation => exact if_neg (unused target operation member)
  | addProcedure name => rfl
  | freshLabel => rfl
  | poolString text => rfl
  | bindGlobal symbol => rfl

end Operation

theorem procedure_at (program : Program) (id : Handle .procedure) (procedure : Procedure)
    (found : program.procedures.items[id.index]? = some procedure) : program.procedure id = .ok procedure := by
  rw [Program.procedure, Arena.get, Arena.get?, found]

theorem on_procedure_at {α : Type} (program : Program) (owner : Handle .procedure) (procedure : Procedure)
    (operation : Procedure → α × Procedure) (found : program.procedures.items[owner.index]? = some procedure) :
    program.onProcedure owner operation = .ok ((operation procedure).1,
      { program with
        procedures := ⟨program.procedures.items.setIfInBounds owner.index (operation procedure).2⟩ }) := by
  have present : owner.index < program.procedures.size := (Array.getElem?_eq_some_iff.mp found).1
  rw [onProcedure, procedure_at program owner procedure found]
  change (do return ((operation procedure).1, ← program.setProcedure owner (operation procedure).2)) = _
  rw [setProcedure, Arena.set, if_pos present]
  rfl

theorem length_procedure_table (names : List String) (history : List Operation) :
    (procedureTable names history).length = names.length := List.length_mapIdx

theorem procedure_table_apart (names : List String) (history : List Operation) (operation : Operation)
    (apart : ∀ owner, operation.inside? owner = none) :
    procedureTable names (history ++ [operation]) = procedureTable names history := by
  simp only [procedureTable, Operation.inside_concat, apart, Option.toList_none, List.append_nil]

theorem procedure_table_add (history : List Operation) (name : String)
    (room : (Operation.names history).length < 2 ^ 32)
    (used : ∀ owner operation, .within owner operation ∈ history → owner.index < (Operation.names history).length) :
    procedureTable (Operation.names history ++ [name]) history =
      procedureTable (Operation.names history) history ++ [.empty (.ofNat (Operation.names history).length) name] := by
  have unused : Operation.inside (.ofNat (Operation.names history).length) history = [] := by
    apply Operation.inside_unused
    intro owner operation member same
    have below := used owner operation member
    rw [same, Handle.index_of_nat_of_lt _ room] at below
    exact Nat.lt_irrefl _ below
  rw [procedureTable, List.mapIdx_concat, unused]
  rfl

theorem procedure_table_within (names : List String) (history : List Operation) (owner : Handle .procedure)
    (operation : Procedure.Operation) (room : names.length ≤ 2 ^ 32) (name : String)
    (found : names[owner.index]? = some name) :
    procedureTable names (history ++ [.within owner operation]) =
      (procedureTable names history).set owner.index
        (.ofHistory owner name (Operation.inside owner history ++ [operation])) := by
  rw [procedureTable, List.mapIdx_eq_iff]
  intro i
  have size := length_procedure_table names history
  have present := (List.getElem?_eq_some_iff.mp found).1
  rw [List.getElem?_set]
  by_cases same : owner.index = i
  · subst same
    rw [if_pos rfl, if_pos (by omega), found, Option.map_some, Handle.of_nat_index, Operation.inside_concat]
    simp
  · rw [if_neg same, procedureTable, List.getElem?_mapIdx]
    cases other : names[i]? with
    | none => rfl
    | some neighbour =>
        have inside := (List.getElem?_eq_some_iff.mp other).1
        have apart : owner ≠ .ofNat i := by
          intro equal
          rw [equal, Handle.index_of_nat_of_lt _ (by omega)] at same
          exact same rfl
        simp [Operation.inside_concat, apart]

theorem of_history_concat (history : List Operation) (operation : Operation) :
    ofHistory (history ++ [operation]) =
      { procedures := ⟨(procedureTable (Operation.names history ++ operation.name?.toList)
          (history ++ [operation])).toArray⟩
        globals := bindAll .empty (Operation.globals history ++ operation.global?.toList)
        strings := HandleMap.empty.insertAll .first (Operation.texts history ++ operation.text?.toList)
        nextLabel := .ofNat (history.count .freshLabel + [operation].count .freshLabel)
        nextString := .ofNat ((Operation.texts history).length + operation.text?.toList.length) } := by
  rw [ofHistory, Operation.names_concat, Operation.globals_concat, Operation.texts_concat, List.count_append,
    List.length_append]

theorem perform_of_history (history : List Operation) (operation : Operation) (aimed : operation.Aimed history)
    (room : (Operation.names (history ++ [operation])).length ≤ 2 ^ 32)
    (used : ∀ owner operation, .within owner operation ∈ history → owner.index < (Operation.names history).length) :
    (ofHistory history).perform operation = .ok (operation.answer history, ofHistory (history ++ [operation])) := by
  rw [of_history_concat]
  cases operation with
  | addProcedure name =>
      rw [Operation.names_concat, List.length_append] at room
      have table := (procedure_table_apart _ history (.addProcedure name) fun _ => rfl).trans
        (procedure_table_add history name (Nat.lt_of_succ_le room) used)
      simp [perform, addProcedure, Arena.push, Arena.nextHandle, Arena.size, length_procedure_table, ofHistory,
        Operation.answer, table]
  | freshLabel =>
      have table := fun names => procedure_table_apart names history .freshLabel fun _ => rfl
      simp [perform, freshLabel, ofHistory, Operation.answer, table, Handle.next_of_nat]
  | poolString text =>
      have table := fun names => procedure_table_apart names history (.poolString text) fun _ => rfl
      simp [perform, poolString, ofHistory, Operation.answer, table, Handle.next_of_nat, HandleMap.insert_all_append,
        HandleMap.insertAll, Handle.first_raise]
  | bindGlobal symbol =>
      have table := fun names => procedure_table_apart names history (.bindGlobal symbol) fun _ => rfl
      simp [perform, bindGlobal, ofHistory, Operation.answer, table, bind_all_concat]
  | within owner operation =>
      obtain ⟨name, found⟩ : ∃ name, (Operation.names history)[owner.index]? = some name :=
        ⟨_, List.getElem?_eq_getElem aimed⟩
      rw [Operation.names_concat, List.length_append] at room
      have table := procedure_table_within _ history owner operation (Nat.le_of_add_right_le room) name found
      have held : (ofHistory history).procedures.items[owner.index]? =
          some (.ofHistory owner name (Operation.inside owner history)) := by
        simp [ofHistory, procedureTable, found]
      rw [perform, on_procedure_at _ owner _ _ held, Procedure.perform_of_history]
      simp [ofHistory, Operation.answer, table]

namespace Operation

-- Operations that a program can take: a procedure is added before it is worked on, and no
-- counter goes round.
structure Admissible (operations : List Operation) : Prop where
  aimed : ∀ place (present : place < operations.length), operations[place].Aimed (operations.take place)
  procedures : (names operations).length ≤ 2 ^ 32
  labels : operations.count .freshLabel ≤ 2 ^ 32
  strings : (texts operations).length ≤ 2 ^ 32
  temps : ∀ owner, ((inside owner operations).filterMap Procedure.Operation.width?).length ≤ 2 ^ 32

theorem Admissible.of_short (operations : List Operation) (short : operations.length < 2 ^ 32)
    (aimed : ∀ place (present : place < operations.length), operations[place].Aimed (operations.take place)) :
    Admissible operations where
  aimed := aimed
  procedures := Nat.lt_of_le_of_lt (List.length_filterMap_le _ _) short
  labels := Nat.le_trans List.count_le_length (Nat.le_of_lt short)
  strings := Nat.le_trans (List.length_filterMap_le _ _) (Nat.le_of_lt short)
  temps := fun _ =>
    Nat.le_trans (List.length_filterMap_le _ _) (Nat.le_trans (List.length_filterMap_le _ _) (Nat.le_of_lt short))

theorem length_names_append (front back : List Operation) :
    (names front).length ≤ (names (front ++ back)).length := by
  simp [names]

variable (front : List Operation) (operation : Operation) (back : List Operation)

theorem Admissible.next (admissible : Admissible (front ++ operation :: back)) : operation.Aimed front := by
  have aimed := admissible.aimed front.length (by simp)
  simpa using aimed

theorem Admissible.used (admissible : Admissible (front ++ back)) (owner : Handle .procedure)
    (operation : Procedure.Operation) (member : .within owner operation ∈ front) :
    owner.index < (names front).length := by
  obtain ⟨before, after, rfl⟩ := List.append_of_mem member
  rw [List.append_assoc] at admissible
  exact Nat.lt_of_lt_of_le (admissible.next before _ _) (length_names_append before _)

theorem Admissible.room (admissible : Admissible (front ++ back)) : (names front).length ≤ 2 ^ 32 :=
  Nat.le_trans (length_names_append front back) admissible.procedures

end Operation

theorem perform_all_of_history (earlier later : List Operation) (admissible : Operation.Admissible (earlier ++ later)) :
    (ofHistory earlier).performAll later = .ok (Operation.answers earlier later, ofHistory (earlier ++ later)) := by
  induction later generalizing earlier with
  | nil => rw [List.append_nil]; rfl
  | cons operation rest ih =>
      have shifted : Operation.Admissible ((earlier ++ [operation]) ++ rest) := by
        rw [List.append_assoc]
        exact admissible
      have step := perform_of_history earlier operation admissible.next (shifted.room _ _) (admissible.used _ _)
      rw [performAll, step]
      change (do
        let result ← (ofHistory (earlier ++ [operation])).performAll rest
        return (operation.answer earlier :: result.1, result.2)) = _
      rw [ih _ shifted, List.append_assoc]
      rfl

end Program

end ThreeAddress
