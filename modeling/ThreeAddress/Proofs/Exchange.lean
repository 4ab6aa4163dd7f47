import ThreeAddress.Proofs.Relocation
import ThreeAddress.Proofs.Temporaries

set_option autoImplicit false

namespace ThreeAddress

open Lower Relocation

namespace Session

variable {labels strings : Nat} {left right : Session}

def relocation (apart : Apart labels strings left.program right.program) (name : String) : Relocation :=
  ⟨(left.openProcedure name).program, (right.openProcedure name).program, labels, strings, apart.globals,
    apart.nextLabel, apart.nextString⟩

theorem opened_alike (apart : Apart labels strings left.program right.program) (name : String) :
    (relocation apart name).Alike (left.openProcedure name) (right.openProcedure name) :=
  ⟨⟨0, [], (Program.allocate_nothing _).symm, (Program.allocate_nothing _).symm⟩, by
    simp [openProcedure, Procedure.empty, Procedure.relocate]⟩

theorem function_cases (definition : Function) (apart : Apart labels strings left.program right.program) :
    (∃ builder copy, definition.lower (left.openProcedure definition.symbol.name) = .ok () builder ∧
      definition.lower (right.openProcedure definition.symbol.name) = .ok () copy ∧
      (relocation apart definition.symbol.name).Alike builder copy) ∨
    ∃ violation builder copy, definition.lower (left.openProcedure definition.symbol.name) = .error violation builder ∧
      definition.lower (right.openProcedure definition.symbol.name) = .error violation copy ∧
      (relocation apart definition.symbol.name).Alike builder copy :=
  definition.lower_mirrors _ _ _ (opened_alike apart definition.symbol.name)

structure SameCode (start other : Numbering) (procedure copy : Procedure) : Prop where
  name : copy.name = procedure.name
  formals : copy.formals = procedure.formals
  locals : copy.locals = procedure.locals
  temps : copy.temps = procedure.temps
  quads : copy.quads.map (Quad.renumber other) = procedure.quads.map (Quad.renumber start)

structure Copied (left right leftAfter rightAfter : Session) : Prop where
  procedures : ∃ procedure copy, leftAfter.procedures = left.procedures ++ [procedure] ∧
    rightAfter.procedures = right.procedures ++ [copy] ∧
    SameCode (.since left.program.nextLabel left.program.nextString)
      (.since right.program.nextLabel right.program.nextString) procedure copy
  taken : ∃ labels texts, Allocated labels texts left leftAfter ∧ Allocated labels texts right rightAfter

theorem copied_of_alike (apart : Apart labels strings left.program right.program) (name : String)
    (builder copy : Builder) (alike : (relocation apart name).Alike builder copy) :
    Copied left right (left.close builder) (right.close copy) := by
  obtain ⟨taken, texts, source, target⟩ := alike.program
  refine ⟨⟨builder.procedure, copy.procedure, procedures_close .., procedures_close .., ?_⟩,
    taken, texts, .close left name builder taken texts source, .close right name copy taken texts target⟩
  rw [alike.procedure]
  refine ⟨rfl, rfl, rfl, rfl, ?_⟩
  rw [Procedure.relocate, Array.map_map]
  apply Array.map_congr_left
  intro quad _
  rw [Function.comp, Quad.renumber_after, apart.nextLabel, apart.nextString, numbering, relocation,
    Numbering.since_after_raise]

structure Parallel (left right : Session) : Prop where
  globals : right.program.globals = left.program.globals
  nextLabel : right.program.nextLabel = left.program.nextLabel
  nextString : right.program.nextString = left.program.nextString
  count : right.procedures.length = left.procedures.length

theorem Parallel.apart (parallel : Parallel left right) : Apart 0 0 left.program right.program := by
  refine ⟨fun id => ?_, ?_, ?_⟩
  · rw [Program.global?, Program.global?, parallel.globals]
  · rw [parallel.nextLabel, Handle.raise_zero]
  · rw [parallel.nextString, Handle.raise_zero]

theorem lowered_id (session : Session) (definition : Function) (builder : Builder)
    (lowered : definition.lower (session.openProcedure definition.symbol.name) = .ok () builder) :
    builder.procedure.id = .ofNat session.procedures.length :=
  (definition.lower_grows _ builder lowered).id.trans (congrArg Handle.ofNat session.size_procedures)

theorem apart_close (session : Session) (definition : Function) (builder : Builder)
    (lowered : definition.lower (session.openProcedure definition.symbol.name) = .ok () builder) :
    Apart (labelCount [.function definition]) (texts [.function definition]).length session.program
      (session.close builder).program := by
  have taken := (Runs.function session _ definition builder [] lowered (.nil _)).allocated
  refine ⟨fun id => ?_, taken.nextLabel, taken.nextString⟩
  have globals := definition.lower_globals _ builder lowered
  rw [Program.global?, close, globals]
  rfl

theorem Parallel.function (parallel : Parallel left right) (definition : Function) (builder : Builder)
    (lowered : definition.lower (left.openProcedure definition.symbol.name) = .ok () builder) :
    ∃ copy, definition.lower (right.openProcedure definition.symbol.name) = .ok () copy ∧
      copy.procedure = builder.procedure ∧ Parallel (left.close builder) (right.close copy) := by
  rcases function_cases definition parallel.apart with
    ⟨_, copy, same, matched, alike⟩ | ⟨violation, _, copy, failed, _⟩
  · cases lowered.symm.trans same
    have taken := apart_close left definition builder lowered
    have others := apart_close right definition copy matched
    refine ⟨copy, matched, ?_, ?_, ?_, ?_, ?_⟩
    · have handle : copy.procedure.id = builder.procedure.id := by
        rw [lowered_id _ _ _ matched, lowered_id _ _ _ lowered, parallel.count]
      rw [alike.procedure, handle]
      exact Procedure.relocate_self _
    · have kept := definition.lower_globals _ builder lowered
      have others := definition.lower_globals _ copy matched
      exact others.trans (parallel.globals.trans kept.symm)
    · rw [others.nextLabel, taken.nextLabel, parallel.nextLabel]
    · rw [others.nextString, taken.nextString, parallel.nextString]
    · simp only [procedures_close, List.length_append, List.length_singleton, parallel.count]
  · cases lowered.symm.trans failed

theorem Runs.parallel {before after : Session} {decls : List Decl} (runs : Runs before decls after)
    (other : Session) (parallel : Parallel before other) :
    ∃ added last, Runs other decls last ∧ after.procedures = before.procedures ++ added ∧
      last.procedures = other.procedures ++ added ∧ Parallel after last := by
  induction runs generalizing other with
  | nil session => exact ⟨[], other, .nil other, by simp, by simp, parallel⟩
  | global session after symbol tail rest ih =>
      have bound : Parallel (session.bindGlobal symbol) (other.bindGlobal symbol) :=
        ⟨congrArg (HandleMap.insert · symbol.id (Slot.ofSymbol symbol)) parallel.globals, parallel.nextLabel,
          parallel.nextString, parallel.count⟩
      obtain ⟨added, last, ran, grown, copied, ends⟩ := ih _ bound
      exact ⟨added, last, .global other last symbol tail ran, grown, copied, ends⟩
  | function session after definition builder tail lowered rest ih =>
      obtain ⟨copy, matched, procedure, closed⟩ := parallel.function definition builder lowered
      obtain ⟨added, last, ran, grown, copied, ends⟩ := ih _ closed
      refine ⟨builder.procedure :: added, last, .function other last definition copy tail matched ran, ?_, ?_, ends⟩
      · rw [grown, procedures_close, List.append_assoc, List.singleton_append]
      · rw [copied, procedures_close, List.append_assoc, procedure, List.singleton_append]

theorem exchange (session : Session) (first second : Function) (builder next : Builder)
    (lowered : first.lower (session.openProcedure first.symbol.name) = .ok () builder)
    (followed : second.lower ((session.close builder).openProcedure second.symbol.name) = .ok () next) :
    ∃ copy last, second.lower (session.openProcedure second.symbol.name) = .ok () copy ∧
      first.lower ((session.close copy).openProcedure first.symbol.name) = .ok () last ∧
      copy.procedure.id = builder.procedure.id ∧
      next.procedure = copy.procedure.relocate next.procedure.id
        (.raise (labelCount [.function first]) (texts [.function first]).length) ∧
      last.procedure = builder.procedure.relocate next.procedure.id
        (.raise (labelCount [.function second]) (texts [.function second]).length) ∧
      Parallel ((session.close builder).close next) ((session.close copy).close last) := by
  have apart := apart_close session first builder lowered
  rcases function_cases second apart with ⟨copy, _, early, same, alike⟩ | ⟨violation, _, _, _, failed, _⟩
  · cases followed.symm.trans same
    have apartCopy := apart_close session second copy early
    rcases function_cases first apartCopy with ⟨_, last, same, late, alikeLast⟩ | ⟨violation, _, _, failed, _⟩
    · cases lowered.symm.trans same
      have apartNext := apart_close _ second next followed
      have apartLast := apart_close _ first last late
      have handle : last.procedure.id = next.procedure.id := by
        rw [lowered_id _ _ _ late, lowered_id _ _ _ followed]
        simp
      refine ⟨copy, last, early, late, ?_, alike.procedure, ?_, ?_, ?_, ?_, ?_⟩
      · rw [lowered_id _ _ _ early, lowered_id _ _ _ lowered]
      · rw [← handle]
        exact alikeLast.procedure
      · exact ((first.lower_globals _ last late).trans (second.lower_globals _ copy early)).trans
          ((second.lower_globals _ next followed).trans (first.lower_globals _ builder lowered)).symm
      · rw [apartLast.nextLabel, apartCopy.nextLabel, apartNext.nextLabel, apart.nextLabel, Handle.raise_raise,
          Handle.raise_raise, Nat.add_comm]
      · rw [apartLast.nextString, apartCopy.nextString, apartNext.nextString, apart.nextString, Handle.raise_raise,
          Handle.raise_raise, Nat.add_comm]
      · simp
    · cases lowered.symm.trans failed
  · cases followed.symm.trans failed

end Session

open Session

-- What the exchange of two neighbouring functions changes in a program. The procedure of
-- each is renumbered by what the other takes.
structure Exchanged (earlier later : List Decl) (first second : Function) (before after : Program) : Prop where
  procedures : ∃ front back procedure next copy,
    before.procedures.items.toList = front ++ procedure :: next :: back ∧
    after.procedures.items.toList = front ++ copy :: procedure.relocate next.id
      (.raise (labelCount [.function second]) (texts [.function second]).length) :: back ∧
    front.length = (functions earlier).length + 1 ∧ copy.id = procedure.id ∧
    next = copy.relocate next.id (.raise (labelCount [.function first]) (texts [.function first]).length)
  globals : after.globals = before.globals
  nextLabel : after.nextLabel = before.nextLabel
  nextString : after.nextString = before.nextString
  strings : before.strings = HandleMap.empty.insertAll .first
    (texts earlier ++ texts [.function first] ++ texts [.function second] ++ texts later)
  stringsAfter : after.strings = HandleMap.empty.insertAll .first
    (texts earlier ++ texts [.function second] ++ texts [.function first] ++ texts later)

theorem texts_neighbours (earlier later : List Decl) (first second : Function) :
    texts (earlier ++ .function first :: .function second :: later) =
      texts earlier ++ texts [.function first] ++ texts [.function second] ++ texts later := by
  simp [texts, functions, Decl.function?]

theorem Session.Runs.exchanged {earlier later : List Decl} {first second : Function} {session : Session}
    (runs : Runs .initial (earlier ++ .function first :: .function second :: later) session) :
    ∃ final, Runs .initial (earlier ++ .function second :: .function first :: later) final ∧
      Exchanged earlier later first second session.program final.program := by
  obtain ⟨middle, start, rest⟩ := runs.split earlier
  cases rest with
  | function _ _ _ builder _ lowered rest =>
      cases rest with
      | function _ _ _ next _ followed rest =>
          obtain ⟨copy, last, early, late, handle, moved, movedLast, parallel⟩ :=
            exchange middle first second builder next lowered followed
          obtain ⟨added, final, ran, grown, copied, ends⟩ := rest.parallel _ parallel
          have others := start.append (.function middle final second copy _ early
            (.function _ final first last _ late ran))
          rw [procedures_close, procedures_close, List.append_assoc, List.append_assoc] at grown copied
          refine ⟨final, others, ?_, ends.globals, ends.nextLabel, ends.nextString, ?_, ?_⟩
          · refine ⟨middle.procedures, added, builder.procedure, next.procedure, copy.procedure, grown, ?_, ?_, handle,
              moved⟩
            · rw [← movedLast]
              exact copied
            · rw [start.length_procedures, Nat.add_comm]
              rfl
          · rw [← texts_neighbours]
            exact runs.allocated.strings
          · rw [← texts_neighbours]
            exact others.allocated.strings

theorem lowering_position_independent :
    (∀ (definition : Function) (left right : Session),
      (∀ id, right.program.global? id = left.program.global? id) → left.procedures.length < 2 ^ 32 →
        right.procedures.length < 2 ^ 32 →
          ∃ leftAfter rightAfter, Copied left right leftAfter rightAfter ∧
            ((Decl.function definition).lower left = .ok () leftAfter ∧
                (Decl.function definition).lower right = .ok () rightAfter ∨
              ∃ violation, (Decl.function definition).lower left = .error (.violation violation) leftAfter ∧
                (Decl.function definition).lower right = .error (.violation violation) rightAfter)) ∧
    (∀ (earlier later : List Decl) (first second : Function) (program : Program) (log : Array Event),
      (functions (earlier ++ .function first :: .function second :: later)).length < 2 ^ 32 →
        lower (earlier ++ .function first :: .function second :: later) = (.ok program, log) →
          ∃ exchanged logAfter,
            lower (earlier ++ .function second :: .function first :: later) = (.ok exchanged, logAfter) ∧
            Exchanged earlier later first second program exchanged) := by
  constructor
  · intro definition left right globals room roomRight
    -- Some distance between the counters can always be found, since they go round.
    have apart : Apart (left.program.nextLabel.since right.program.nextLabel).index
        (left.program.nextString.since right.program.nextString).index left.program right.program :=
      ⟨globals, (Handle.raise_since ..).symm, (Handle.raise_since ..).symm⟩
    rw [← size_procedures] at room roomRight
    rw [Decl.lower_function definition left room, Decl.lower_function definition right roomRight]
    rcases function_cases definition apart with
      ⟨builder, copy, ran, matched, alike⟩ | ⟨violation, builder, copy, ran, matched, alike⟩
    · rw [ran, matched]
      exact ⟨_, _, copied_of_alike apart _ builder copy alike, .inl ⟨rfl, rfl⟩⟩
    · rw [ran, matched]
      exact ⟨_, _, copied_of_alike apart _ builder copy alike, .inr ⟨violation, rfl, rfl⟩⟩
  · intro earlier later first second program log few accepted
    obtain ⟨session, runs, rfl⟩ := runs_of_accepted _ program log few accepted
    obtain ⟨final, others, exchanged⟩ := runs.exchanged
    have fewToo : (functions (earlier ++ .function second :: .function first :: later)).length < 2 ^ 32 := by
      simpa [functions, Decl.function?] using few
    obtain ⟨logAfter, acceptedAfter⟩ := accepted_of_runs _ final fewToo others
    exact ⟨final.program, logAfter, acceptedAfter, exchanged⟩

namespace Sample

def report : Function :=
  ⟨⟨.ofNat 5, "report", .function [] .void⟩, [], [.ifThen .unspecified [.write (.ofString "half")]]⟩

end Sample

theorem sample_position_independent :
    (∃ leftAfter rightAfter,
      Copied .initial ⟨{ Program.initial with nextLabel := .ofNat 7, nextString := .ofNat 3 }, #[]⟩ leftAfter
        rightAfter ∧
      (Decl.function Sample.report).lower .initial = .ok () leftAfter) ∧
    ∃ program log exchanged logAfter,
      lower (.global Sample.total :: .function Sample.mainDefinition :: .function Sample.report ::
        [.function Sample.halveDefinition]) = (.ok program, log) ∧
      lower (.global Sample.total :: .function Sample.report :: .function Sample.mainDefinition ::
        [.function Sample.halveDefinition]) = (.ok exchanged, logAfter) ∧
      Exchanged [.global Sample.total] [.function Sample.halveDefinition] Sample.mainDefinition Sample.report program
        exchanged := by
  obtain ⟨relocated, swapped⟩ := lowering_position_independent
  constructor
  · obtain ⟨leftAfter, rightAfter, copied, ⟨ran, _⟩ | ⟨violation, failed, _⟩⟩ :=
      relocated Sample.report .initial ⟨{ Program.initial with nextLabel := .ofNat 7, nextString := .ofNat 3 }, #[]⟩
        (fun _ => rfl) (by decide) (by decide)
    · exact ⟨leftAfter, rightAfter, copied, ran⟩
    · have succeeds : (programOf ((Decl.function Sample.report).lower .initial)).isOk = true := by decide +kernel
      rw [failed] at succeeds
      cases succeeds
  · obtain ⟨program, log, accepted⟩ := accepted_of_is_ok
      (.global Sample.total :: .function Sample.mainDefinition :: .function Sample.report ::
        [.function Sample.halveDefinition]) (by decide +kernel)
    obtain ⟨exchanged, logAfter, acceptedAfter, same⟩ := swapped [.global Sample.total]
      [.function Sample.halveDefinition] Sample.mainDefinition Sample.report program log (by decide) accepted
    exact ⟨program, log, exchanged, logAfter, accepted, acceptedAfter, same⟩

end ThreeAddress
