import ThreeAddress.Proofs.Allocation
import ThreeAddress.Proofs.Temporaries

set_option autoImplicit false

namespace ThreeAddress

def Decl.rebind (globals : HandleMap .symbol Slot) : Decl → HandleMap .symbol Slot
  | .global symbol => globals.insert symbol.id (.ofSymbol symbol)
  | .formal _ | .function _ => globals

namespace Session

def reached : EStateM.Result Failure Session Unit → Session
  | .ok _ session | .error _ session => session

structure Extends (decl : Decl) (taken : Nat) (new : List String) (before after : Session) : Prop where
  labels : taken ≤ labelCount [decl]
  literals : new <+: texts [decl]
  allocated : Allocated taken new before after
  globals : after.program.globals = decl.rebind before.program.globals
  procedures : ∃ added, after.procedures = before.procedures ++ added ∧
    added.map Procedure.name = (functions [decl]).map fun definition => definition.symbol.name

theorem Extends.function (session : Session) (definition : Function) (builder : Builder) (taken : Nat)
    (new : List String) (fewer : taken ≤ Stmt.labelCountAll definition.body)
    (shorter : new <+: Stmt.textsAll definition.body)
    (spent : builder.program = (session.openProcedure definition.symbol.name).program.allocate taken new)
    (name : builder.procedure.name = definition.symbol.name) :
    Extends (.function definition) taken new session (session.close builder) := by
  refine ⟨?_, ?_, .close session _ builder taken new spent, ?_, [builder.procedure], procedures_close .., ?_⟩
  · simpa [labelCount, functions, Decl.function?] using fewer
  · simpa [texts, functions, Decl.function?] using shorter
  · rw [close, spent]
    rfl
  · rw [List.map_singleton, name]
    rfl

theorem lower_extends (decl : Decl) (session : Session)
    (room : session.procedures.length + (functions [decl]).length ≤ 2 ^ 32) :
    ∃ taken new, Extends decl taken new session (reached (decl.lower session)) := by
  cases decl with
  | global symbol =>
      exact ⟨0, [], Nat.zero_le _, List.nil_prefix, .nothing _ _ rfl rfl rfl, rfl, [], (List.append_nil _).symm, rfl⟩
  | formal symbol =>
      exact ⟨0, [], Nat.zero_le _, List.nil_prefix, .nothing _ _ rfl rfl rfl, rfl, [], (List.append_nil _).symm, rfl⟩
  | function definition =>
      have free : session.program.procedures.size < 2 ^ 32 := by
        rw [size_procedures]
        exact room
      have spent := definition.lower_spends (session.openProcedure definition.symbol.name)
      have name := (definition.lower_reaches (session.openProcedure definition.symbol.name)).name
      rw [Decl.lower_function definition session free]
      cases ran : definition.lower (session.openProcedure definition.symbol.name) with
      | ok _ builder =>
          rw [ran] at spent name
          exact ⟨_, _, .function session definition builder _ _ (Nat.le_refl _) (List.prefix_refl _) spent name⟩
      | error violation builder =>
          rw [ran] at spent name
          obtain ⟨taken, new, fewer, shorter, program⟩ := spent
          exact ⟨taken, new, .function session definition builder taken new fewer shorter program name⟩

structure AppendOnly (decl : Decl) (before after : Session) : Prop where
  procedures : ∃ added, after.procedures = before.procedures ++ added ∧
    added.length = (functions [decl]).length
  strings : ∀ id text, before.program.string? id = some text → after.program.string? id = some text
  nextLabel : before.program.nextLabel.index ≤ after.program.nextLabel.index
  nextString : before.program.nextString.index ≤ after.program.nextString.index
  globals : after.program.globals = decl.rebind before.program.globals

theorem Extends.append_only {decl : Decl} {taken : Nat} {new : List String} {before after : Session}
    (extends_ : Extends decl taken new before after) (labels : Nat) (seen : List String)
    (start : Allocated labels seen .initial before) (fewLabels : labels + taken < 2 ^ 32)
    (fewTexts : seen.length + new.length < 2 ^ 32) : AppendOnly decl before after := by
  have total := start.trans extends_.allocated
  have firstLabel : Session.initial.program.nextLabel.index = 0 := rfl
  have firstString : Session.initial.program.nextString.index = 0 := rfl
  obtain ⟨added, procedures, names⟩ := extends_.procedures
  refine ⟨⟨added, procedures, ?_⟩, ?_, ?_, ?_, extends_.globals⟩
  · simpa using congrArg List.length names
  · intro id text found
    rw [Program.string?, start.strings] at found
    rw [Program.string?, total.strings]
    have earlier : seen[id.index]? = some text :=
      (HandleMap.get?_insert_all_empty id seen (by omega)).symm.trans found
    refine (HandleMap.get?_insert_all_empty id _ (by rw [List.length_append]; omega)).trans ?_
    rw [List.getElem?_append_left (List.getElem?_eq_some_iff.mp earlier).1]
    exact earlier
  · rw [start.nextLabel, total.nextLabel, Handle.index_raise _ _ (by rw [firstLabel]; omega),
      Handle.index_raise _ _ (by rw [firstLabel]; omega)]
    omega
  · rw [start.nextString, total.nextString, List.length_append, Handle.index_raise _ _ (by rw [firstString]; omega),
      Handle.index_raise _ _ (by rw [firstString]; omega)]
    omega

theorem Runs.procedure_names {before after : Session} {decls : List Decl} (runs : Runs before decls after) :
    ∃ added, after.procedures = before.procedures ++ added ∧
      added.map Procedure.name = (functions decls).map fun definition => definition.symbol.name := by
  induction runs with
  | nil session => exact ⟨[], (List.append_nil _).symm, rfl⟩
  | global session after symbol tail rest ih => exact ih
  | function session after definition builder tail lowered rest ih =>
      obtain ⟨added, procedures, names⟩ := ih
      have name := (definition.lower_reaches (session.openProcedure definition.symbol.name)).name
      rw [lowered] at name
      refine ⟨builder.procedure :: added, ?_, ?_⟩
      · rw [procedures, procedures_close, List.append_assoc]
        rfl
      · rw [List.map_cons, names]
        exact congrArg (· :: _) name

end Session

open Session

theorem lowering_append_only :
    (∀ (earlier : List Decl) (decl : Decl) (session : Session),
      Decl.lowerAll earlier .initial = .ok () session → (functions (earlier ++ [decl])).length < 2 ^ 32 →
        ∃ taken new, taken ≤ labelCount [decl] ∧ new <+: texts [decl] ∧
          Allocated taken new session (reached (decl.lower session)) ∧
          (labelCount earlier + taken < 2 ^ 32 → (texts earlier).length + new.length < 2 ^ 32 →
            AppendOnly decl session (reached (decl.lower session)))) ∧
    (∀ (earlier later : List Decl) (program : Program) (log : Array Event),
      (functions (earlier ++ later)).length < 2 ^ 32 → lower (earlier ++ later) = (.ok program, log) →
        ∃ start startLog, lower earlier = (.ok start, startLog) ∧
          start.procedures.items.toList <+: program.procedures.items.toList) ∧
    (∀ (decls : List Decl) (program : Program) (log : Array Event),
      (functions decls).length < 2 ^ 32 → lower decls = (.ok program, log) →
        ∃ rest, program.procedures.items.toList = .empty Program.initId "init" :: rest ∧
          rest.map Procedure.name = (functions decls).map fun definition => definition.symbol.name) := by
  refine ⟨?_, ?_, ?_⟩
  · intro earlier decl session ran few
    rw [functions, List.filterMap_append, List.length_append] at few
    have counted : Session.initial.procedures.length = 1 := rfl
    have runs := runs_of_lower_all earlier .initial session (by rw [counted, functions]; omega) ran
    obtain ⟨taken, new, extended⟩ := lower_extends decl session (by
      rw [runs.length_procedures, counted, functions, functions]
      omega)
    exact ⟨taken, new, extended.labels, extended.literals, extended.allocated, fun fewLabels fewTexts =>
      extended.append_only _ _ runs.allocated fewLabels fewTexts⟩
  · intro earlier later program log few accepted
    obtain ⟨session, runs, rfl⟩ := runs_of_accepted _ program log few accepted
    obtain ⟨middle, first, second⟩ := runs.split earlier
    rw [functions, List.filterMap_append, List.length_append] at few
    obtain ⟨startLog, started⟩ := accepted_of_runs earlier middle (by rw [functions]; omega) first
    exact ⟨middle.program, startLog, started, second.procedures_prefix⟩
  · intro decls program log few accepted
    obtain ⟨session, runs, rfl⟩ := runs_of_accepted decls program log few accepted
    exact runs.procedure_names

namespace Sample

def opening : List Decl := [.global total, .function halveDefinition]

def broken : Function :=
  ⟨main, [], [.ifThen .unspecified [.write (.ofString "half"), .localFunction halve [] []]]⟩

end Sample

theorem sample_append_only :
    (∃ session, Decl.lowerAll Sample.opening .initial = .ok () session ∧
      AppendOnly (.function Sample.broken) session (reached ((Decl.function Sample.broken).lower session))) ∧
    (∃ program log start startLog, lower Sample.program = (.ok program, log) ∧
      lower Sample.opening = (.ok start, startLog) ∧
      start.procedures.items.toList <+: program.procedures.items.toList ∧
      ∃ rest, program.procedures.items.toList = .empty Program.initId "init" :: rest ∧
        rest.map Procedure.name = ["halve", "main"]) := by
  obtain ⟨each, initial, named⟩ := lowering_append_only
  constructor
  · have succeeds : (lower Sample.opening).1.isOk = true := by decide +kernel
    rw [lower_result] at succeeds
    cases ran : Decl.lowerAll Sample.opening .initial with
    | error failure session =>
        rw [ran] at succeeds
        cases succeeds
    | ok _ session =>
        obtain ⟨taken, new, labels, literals, _, extended⟩ :=
          each Sample.opening (.function Sample.broken) session ran (by decide)
        have fewLabels : taken ≤ 1 := labels
        have fewTexts : new.length ≤ 1 := literals.length_le
        have none : labelCount Sample.opening = 0 := by decide
        have silent : (texts Sample.opening).length = 0 := by decide
        exact ⟨session, rfl, extended (by omega) (by omega)⟩
  · obtain ⟨program, log, accepted⟩ := Sample.accepted
    obtain ⟨start, startLog, started, grown⟩ :=
      initial Sample.opening [.function Sample.mainDefinition] program log (by decide) accepted
    exact ⟨program, log, start, startLog, accepted, started, grown,
      named Sample.program program log (by decide) accepted⟩

end ThreeAddress
