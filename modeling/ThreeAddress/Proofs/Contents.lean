import ThreeAddress.Proofs.Operations

set_option autoImplicit false

namespace ThreeAddress

theorem map_map_idx_cancel {α β : Type} (values : List α) (store : Nat → α → β) (read : β → α)
    (kept : ∀ i value, read (store i value) = value) : (values.mapIdx store).map read = values := by
  apply List.ext_getElem
  · rw [List.length_map, List.length_mapIdx]
  · intro i stored present
    rw [List.getElem_map, List.getElem_mapIdx, kept]

namespace Procedure

structure Represents (procedure : Procedure) (history : List Operation) : Prop where
  numbered : ∀ i (temp : Temp), procedure.temps.items[i]? = some temp → temp.id.index = i
  widths : procedure.temps.items.toList.map Temp.width = history.filterMap Operation.width?
  formals : procedure.formals.toList = (history.filterMap Operation.formal?).map .ofSymbol
  locals : procedure.locals.toList = (history.filterMap Operation.local?).map .ofSymbol
  quads : procedure.quads.toList = history.filterMap Operation.quad?
  slots : ∀ symbol, procedure.slot? symbol = latest (history.filterMap Operation.symbol?) symbol

theorem of_history_represents (id : Handle .procedure) (name : String) (history : List Operation)
    (room : (history.filterMap Operation.width?).length ≤ 2 ^ 32) : (ofHistory id name history).Represents history where
  numbered := by
    intro i temp found
    simp only [ofHistory, List.getElem?_toArray, List.getElem?_mapIdx, Option.map_eq_some_iff] at found
    obtain ⟨width, present, rfl⟩ := found
    have inside := (List.getElem?_eq_some_iff.mp present).1
    exact Handle.index_of_nat_of_lt i (by omega)
  widths := map_map_idx_cancel _ _ Temp.width fun _ _ => rfl
  formals := rfl
  locals := rfl
  quads := rfl
  slots := by
    intro symbol
    rw [slot?, ofHistory, get?_bind_all]
    exact Option.or_none

end Procedure

namespace Program

structure Represents (program : Program) (operations : List Operation) (answers : List Answer) : Prop where
  names : program.procedures.items.toList.map Procedure.name = Operation.names operations
  numbered : ∀ i (procedure : Procedure), program.procedures.items[i]? = some procedure → procedure.id.index = i
  procedures : ∀ procedure ∈ program.procedures.items.toList,
    procedure.Represents (Operation.inside procedure.id operations)
  entry : ∃ init, program.procedure initId = .ok init ∧ program.procedures.items[0]? = some init ∧ init.name = "init"
  -- The first procedure of a name is found, whatever was added later.
  named : ∀ name, program.named? name =
    ((Operation.names operations).findIdx? (· == name)).bind (program.procedures.items[·]?)
  labels : (answers.filterMap Answer.label?).Nodup
  labelled : (answers.filterMap Answer.label?).length = operations.count .freshLabel
  keys : program.strings.entries.map (·.1.index) = List.range (Operation.texts operations).length
  -- A handle resolves to the text of the call that returned it, and no other handle resolves.
  strings : ∀ id text, program.string? id = some text ↔
    (.poolString text, .operand (.literal (.string id) DataType.string.width)) ∈ operations.zip answers
  ascending : program.globals.values.Pairwise fun earlier later => earlier.symbol.index < later.symbol.index
  globals : ∀ symbol, program.global? symbol = latest (Operation.globals operations) symbol
  listed : ∀ slot, slot ∈ program.globals.values ↔ ∃ symbol, program.global? symbol = some slot

namespace Operation

theorem labels_answers (earlier later : List Operation) :
    (answers earlier later).filterMap Answer.label? =
      (List.range' (earlier.count .freshLabel) (later.count .freshLabel)).map Handle.ofNat := by
  induction later generalizing earlier with
  | nil => rfl
  | cons operation rest ih =>
      rw [answers, List.filterMap_cons, ih, List.count_append, List.count_cons (l := rest)]
      cases operation with
      | freshLabel => simp [answer, Answer.label?, List.range'_succ]
      | within owner operation => cases operation <;> simp [answer, Procedure.Operation.answer, Answer.label?]
      | addProcedure name => simp [answer, Answer.label?]
      | poolString text => simp [answer, Answer.label?]
      | bindGlobal symbol => simp [answer, Answer.label?]

theorem pooled_answers (earlier later : List Operation) (id : Handle .string) (text : String) :
    (.poolString text, .operand (.literal (.string id) DataType.string.width)) ∈ later.zip (answers earlier later) ↔
      ∃ i, (texts later)[i]? = some text ∧ id = .ofNat ((texts earlier).length + i) := by
  induction later generalizing earlier with
  | nil => simp [texts]
  | cons operation rest ih =>
      rw [answers, List.zip_cons_cons, List.mem_cons, ih, texts_concat]
      cases operation with
      | poolString first =>
          change _ ↔ ∃ i, (first :: texts rest)[i]? = some text ∧ _
          simp only [answer, text?, Prod.mk.injEq, poolString.injEq, Answer.operand.injEq, Operand.literal.injEq,
            Literal.string.injEq, and_true, Option.toList_some, List.length_append, List.length_singleton]
          constructor
          · rintro (⟨rfl, rfl⟩ | ⟨i, found, rfl⟩)
            · exact ⟨0, rfl, rfl⟩
            · exact ⟨i + 1, found, congrArg Handle.ofNat (Nat.add_right_comm _ _ _)⟩
          · rintro ⟨i, found, rfl⟩
            cases i with
            | zero => exact .inl ⟨(Option.some.inj found).symm, rfl⟩
            | succ i => exact .inr ⟨i, found, congrArg Handle.ofNat (by omega)⟩
      | freshLabel => simp [texts, List.filterMap_cons]
      | within owner operation => simp [texts, List.filterMap_cons]
      | addProcedure name => simp [texts, List.filterMap_cons]
      | bindGlobal symbol => simp [texts, List.filterMap_cons]

end Operation

theorem numbered_of_history (history : List Operation) (room : (Operation.names history).length ≤ 2 ^ 32) (i : Nat)
    (procedure : Procedure) (found : (ofHistory history).procedures.items[i]? = some procedure) :
    procedure.id.index = i ∧ ∃ name, procedure = .ofHistory procedure.id name (Operation.inside procedure.id history) := by
  simp only [ofHistory, procedureTable, List.getElem?_toArray, List.getElem?_mapIdx, Option.map_eq_some_iff] at found
  obtain ⟨name, present, rfl⟩ := found
  have inside := (List.getElem?_eq_some_iff.mp present).1
  exact ⟨Handle.index_of_nat_of_lt i (by omega), name, rfl⟩

theorem names_of_history (history : List Operation) :
    (ofHistory history).procedures.items.toList.map Procedure.name = Operation.names history :=
  map_map_idx_cancel _ _ Procedure.name fun _ _ => rfl

theorem entry_of_history (history : List Operation) :
    (ofHistory history).procedures.items[0]? = some (.ofHistory initId "init" (Operation.inside initId history)) := by
  rw [ofHistory, procedureTable, Operation.names, List.mapIdx_cons]
  rfl

theorem named?_of_history (history : List Operation) (name : String) :
    (ofHistory history).named? name =
      ((Operation.names history).findIdx? (· == name)).bind ((ofHistory history).procedures.items[·]?) := by
  rw [named?, ← Array.find?_toList, List.find?_eq_bind_findIdx?_getElem?, ← names_of_history, List.findIdx?_map]
  simp only [Array.getElem?_toList]
  rfl

theorem string?_of_history (history : List Operation) (room : (Operation.texts history).length ≤ 2 ^ 32)
    (id : Handle .string) (text : String) :
    (ofHistory history).string? id = some text ↔
      ∃ i, (Operation.texts history)[i]? = some text ∧ id = .ofNat i := by
  rw [string?, ofHistory, HandleMap.get?_insert_all_empty id _ room]
  constructor
  · intro found
    exact ⟨id.index, found, (Handle.of_nat_index id).symm⟩
  · rintro ⟨i, found, rfl⟩
    have inside := (List.getElem?_eq_some_iff.mp found).1
    rw [Handle.index_of_nat_of_lt _ (by omega)]
    exact found

theorem keys_of_history (history : List Operation) (room : (Operation.texts history).length ≤ 2 ^ 32) :
    (ofHistory history).strings.entries.map (·.1.index) = List.range (Operation.texts history).length := by
  rw [ofHistory, HandleMap.entries_insert_all_empty _ room]
  apply List.ext_getElem
  · rw [List.length_map, List.length_mapIdx, List.length_range]
  · intro i stored present
    rw [List.length_range] at present
    rw [List.getElem_map, List.getElem_mapIdx, List.getElem_range, Handle.index_of_nat_of_lt _ (by omega)]

theorem perform_all_represents (operations : List Operation) (admissible : Operation.Admissible operations) :
    ∃ answers program, initial.performAll operations = .ok (answers, program) ∧
      program.Represents operations answers := by
  rw [initial_eq_of_history]
  refine ⟨_, _, perform_all_of_history [] operations admissible, ?_⟩
  have numbered := numbered_of_history operations admissible.procedures
  constructor
  case names => exact names_of_history operations
  case numbered =>
    intro i procedure found
    exact (numbered i procedure found).1
  case procedures =>
    intro procedure member
    obtain ⟨i, found⟩ := List.getElem?_of_mem member
    obtain ⟨-, name, told⟩ := numbered i procedure (by simpa using found)
    have held := Procedure.of_history_represents procedure.id name _ (admissible.temps procedure.id)
    rwa [← told] at held
  case entry =>
    have first := entry_of_history operations
    exact ⟨_, procedure_at _ initId _ first, first, rfl⟩
  case named => exact named?_of_history operations
  case labels =>
    rw [Operation.labels_answers]
    exact Handle.block_nodup _ _ admissible.labels
  case labelled => rw [Operation.labels_answers, List.length_map, List.length_range']
  case keys => exact keys_of_history operations admissible.strings
  case strings =>
    intro id text
    rw [Operation.pooled_answers, List.nil_append, string?_of_history operations admissible.strings]
    simp [Operation.texts]
  case ascending => exact Tabled.values _ (Tabled.bind_all _ Tabled.empty _)
  case globals =>
    intro symbol
    exact (get?_bind_all _ _ symbol).trans Option.or_none
  case listed => exact (Tabled.bind_all _ Tabled.empty _).ascending.mem_values

end Program

def Sample.busy : List Program.Operation :=
  [.addProcedure "init", .bindGlobal ⟨.ofNat 7, "sum", .int⟩, .freshLabel,
    .within (.ofNat 1) (.bindFormal ⟨.ofNat 3, "score", .int⟩), .within (.ofNat 1) (.freshTemp 8),
    .within (.ofNat 1) (.bindLocal ⟨.ofNat 3, "points", .bool⟩), .poolString "high", .poolString "high",
    .bindGlobal ⟨.ofNat 2, "best", .bool⟩, .within (.ofNat 0) (.freshTemp 1), .bindGlobal ⟨.ofNat 7, "total", .bool⟩,
    .within (.ofNat 1) (.push (.plain .nop)), .freshLabel]

theorem busy_represented :
    Program.Operation.Admissible Sample.busy ∧
      ∃ answers program, Program.initial.performAll Sample.busy = .ok (answers, program) ∧
        program.Represents Sample.busy answers := by
  have admissible := Program.Operation.Admissible.of_short Sample.busy (by decide) (by decide)
  exact ⟨admissible, Program.perform_all_represents Sample.busy admissible⟩

end ThreeAddress
