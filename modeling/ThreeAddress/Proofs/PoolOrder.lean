import ThreeAddress.Proofs.Allocation
import ThreeAddress.Proofs.Preservation

set_option autoImplicit false

namespace ThreeAddress

mutual

def Stmt.written : Stmt → List String
  | .write value => value.literal?.toList
  | .ifThen _ body | .whileDo _ body => Stmt.writtenAll body
  | .ifElse _ positive negative => Stmt.writtenAll positive ++ Stmt.writtenAll negative
  | .localVariable _ | .localFormal _ | .localFunction .. | .assign .. | .maybe .. | .increment _ | .decrement _
  | .read _ | .call .. | .ret _ => []

def Stmt.writtenAll : List Stmt → List String
  | [] => []
  | stmt :: tail => stmt.written ++ Stmt.writtenAll tail

end

def Quad.written? (quad : Quad) : Option (Handle .string) := quad.instr.written?

def shown (program : Program) (quads : List Quad) : List (Option String) :=
  (quads.filterMap Quad.written?).map program.string?

theorem shown_append (program : Program) (front back : List Quad) :
    shown program (front ++ back) = shown program front ++ shown program back := by
  rw [shown, List.filterMap_append, List.map_append]
  rfl

theorem shown_plain (program : Program) (code : List Instr) (silent : ∀ instr ∈ code, instr.written? = none) :
    shown program (code.map .plain) = [] := by
  have none : (code.map Quad.plain).filterMap Quad.written? = [] := by
    rw [List.filterMap_map, List.filterMap_eq_nil_iff]
    exact silent
  rw [shown, none]
  rfl

theorem shown_emit (program : Program) (builder : Builder) (instr : Instr) :
    shown program (builder.emit instr).quads =
      shown program builder.quads ++ (instr.written?.map program.string?).toList := by
  rw [Builder.quads_emit, shown_append]
  cases handle : instr.written? <;> simp [shown, Quad.written?, Quad.plain, handle]

def Mark.written : Mark → List String
  | .say literal _ => [literal]
  | _ => []

namespace Builder

variable {program : Program} {mark : Mark} {marks : List Mark} {before after : Builder} {first : Nat}

theorem Step.counter (step : Step before mark after) (counter : before.nextString = .ofNat first) :
    after.nextString = .ofNat (first + mark.texts.length) := by
  have raised : after.nextString = before.nextString.raise mark.texts.length := congrArg Program.nextString step.allocates
  rw [raised, counter, ← Handle.first_raise, Handle.raise_raise, Handle.first_raise]

theorem Straight.shown (program : Program) (straight : Straight before after) :
    shown program after.quads = shown program before.quads := by
  obtain ⟨code, quads, computes⟩ := straight.code
  rw [quads, shown_append, shown_plain program code, List.append_nil]
  intro instr member
  have computed := computes instr member
  cases instr <;> first | rfl | cases computed

theorem Step.shown (step : Step before mark after) (counter : before.nextString = .ofNat first)
    (resolves : Resolves program first mark.texts) :
    shown program after.quads = shown program before.quads ++ mark.written.map some := by
  have straight := step.straight
  cases step with
  | text | use | check | compute | run | call =>
      rw [(straight rfl).shown program]
      exact (List.append_nil _).symm
  | label | bindLocal | bindFormal => exact (List.append_nil _).symm
  | emit instr silent apart mute still has ready =>
      rw [shown_emit, mute]
      rfl
  | say text type =>
      have found := resolves 0 text rfl
      rw [Nat.add_zero, ← counter] at found
      rw [shown_emit]
      exact congrArg _ (congrArg (fun text? => [text?]) found)
  | test cond label offered => exact shown_emit program before _
  | jump label => exact shown_emit program before _
  | land label =>
      rw [quads_place, shown_append]
      rfl
  | receive formals listed =>
      rw [quads_receive, shown_append, shown_plain]
      · rfl
      · intro instr member
        obtain ⟨entry, _, rfl⟩ := List.mem_map.mp member
        rfl

theorem Trace.shown (trace : Trace before marks after) (counter : before.nextString = .ofNat first)
    (resolves : Resolves program first (marks.flatMap Mark.texts)) :
    shown program after.quads = shown program before.quads ++ (marks.flatMap Mark.written).map some := by
  induction trace generalizing first with
  | nil builder => exact (List.append_nil _).symm
  | cons before middle after mark marks step rest ih =>
      rw [List.flatMap_cons] at resolves
      rw [ih (step.counter counter) resolves.right, step.shown counter resolves.left, List.flatMap_cons, List.map_append,
        List.append_assoc]

end Builder

theorem Mark.written_straight (mark : Mark) (straight : mark.straight = true) : mark.written = [] := by
  cases mark <;> first | rfl | cases straight

theorem Expr.written_marks (expr : Expr) : expr.marks.flatMap Mark.written = [] :=
  expr.marks_silent Mark.written Mark.written_straight

theorem Expr.written_marks_all (exprs : List Expr) : (Expr.marksAll exprs).flatMap Mark.written = [] :=
  Expr.marks_all_silent Mark.written Mark.written_straight exprs

mutual

theorem Stmt.written_marks (stmt : Stmt) : stmt.marks.flatMap Mark.written = stmt.written := by
  cases stmt with
  | write value =>
      rw [Stmt.marks, Stmt.written]
      cases value.literal? <;> simp [Mark.written, Expr.written_marks]
  | ifThen cond body =>
      simp [Stmt.marks, Stmt.written, Mark.written, Expr.written_marks, Stmt.written_marks_all body]
  | ifElse cond positive negative =>
      simp [Stmt.marks, Stmt.written, Mark.written, Expr.written_marks, Stmt.written_marks_all positive,
        Stmt.written_marks_all negative]
  | whileDo cond body =>
      simp [Stmt.marks, Stmt.written, Mark.written, Expr.written_marks, Stmt.written_marks_all body]
  | ret value => cases value <;> simp [Stmt.marks, Stmt.written, Mark.written, Expr.written_marks]
  | localVariable | localFormal | localFunction | assign | maybe | increment | decrement | read | call =>
      simp [Stmt.marks, Stmt.written, Mark.written, Expr.written_marks, Expr.written_marks_all]

theorem Stmt.written_marks_all (stmts : List Stmt) :
    (Stmt.marksAll stmts).flatMap Mark.written = Stmt.writtenAll stmts := by
  cases stmts with
  | nil => rfl
  | cons stmt tail => simp [Stmt.marksAll, Stmt.writtenAll, Stmt.written_marks stmt, Stmt.written_marks_all tail]

end

theorem Function.written_marks (definition : Function) :
    definition.marks.flatMap Mark.written = Stmt.writtenAll definition.body := by
  have declared : (definition.formals.map Mark.declare).flatMap Mark.written = [] := by
    simp [List.flatMap_map, Mark.written]
  rw [Function.marks, List.flatMap_append, declared, List.flatMap_cons, Stmt.written_marks_all]
  rfl

theorem Function.lower_shown (program : Program) (definition : Function) (session : Session) (builder : Builder)
    (first : Nat) (lowered : definition.lower (session.openProcedure definition.symbol.name) = .ok () builder)
    (counter : session.program.nextString = .ofNat first)
    (resolves : Resolves program first (Stmt.textsAll definition.body)) :
    shown program builder.quads = (Stmt.writtenAll definition.body).map some := by
  obtain ⟨last, trace, rfl⟩ := definition.lower_trace _ builder lowered
  rw [← definition.written_marks]
  exact trace.shown counter (by rwa [definition.texts_marks])

structure PoolInOrder (decls : List Decl) (program : Program) : Prop where
  entries : (program.strings.entries.map fun entry => (entry.1.index, entry.2)) =
    (List.range (texts decls).length).zip (texts decls)
  written : ∀ (index : Nat) (procedure : Procedure), program.procedures.items[index]? = some procedure →
    ∃ body, (bodies decls)[index]? = some body ∧
      shown program procedure.quads.toList = (Stmt.writtenAll body).map some

theorem lowered_pool_in_order (decls : List Decl) (program : Program) (log : Array Event)
    (few : (functions decls).length < 2 ^ 32 - 1) (fits : (texts decls).length < 2 ^ 32)
    (accepted : lower decls = (.ok program, log)) : PoolInOrder decls program := by
  obtain ⟨session, runs, rfl⟩ := runs_of_accepted decls program log (by omega) accepted
  refine ⟨?_, ?_⟩
  · rw [runs.pool, HandleMap.entries_insert_all_empty _ (Nat.le_of_lt fits)]
    apply List.ext_getElem
    · simp
    · intro i inside _
      rw [List.length_map, List.length_mapIdx] at inside
      have index : (Handle.ofNat i : Handle .string).index = i := Handle.index_of_nat_of_lt i (by omega)
      simp only [List.getElem_map, List.getElem_mapIdx, List.getElem_zip, List.getElem_range, index]
  · intro index procedure listed
    rw [← Array.getElem?_toList] at listed
    obtain ⟨body, found, entry⟩ := runs.procedure_body index procedure listed
    refine ⟨body, found, ?_⟩
    rcases entry with ⟨rfl, rfl⟩ | ⟨earlier, definition, later, middle, builder, rfl, rfl, first, lowered, rfl⟩
    · rfl
    · have counter : middle.program.nextString = .ofNat (texts earlier).length := by
        rw [first.allocated.nextString]
        exact Handle.first_raise _
      exact definition.lower_shown session.program middle builder _ lowered counter (runs.resolves (Nat.le_of_lt fits))

namespace Sample

def chatty : Function :=
  ⟨main, [],
    [.write (.ofString "half"),
      .whileDo (.applyBinary .eq (.ofString "left") (.ofString "right"))
        [.write (.applyBinary .add (.ofString "left") (.ofString "right")), .write (.ofString "half")]]⟩

end Sample

theorem chatty_pool_in_order :
    ∃ program log procedure,
      lower (Sample.program ++ [.function Sample.chatty]) = (.ok program, log) ∧
      (program.strings.entries.map fun entry => (entry.1.index, entry.2)) =
        [(0, "done"), (1, "half"), (2, "left"), (3, "right"), (4, "right"), (5, "left"), (6, "half")] ∧
      program.procedures.items[3]? = some procedure ∧
      shown program procedure.quads.toList = [some "half", some "half"] := by
  obtain ⟨program, log, accepted⟩ :=
    accepted_of_is_ok (Sample.program ++ [.function Sample.chatty]) (by decide +kernel)
  obtain ⟨procedure, listed⟩ := listed_of_lt _ program log accepted 3 (by decide +kernel)
  have pool := lowered_pool_in_order _ program log (by decide) (by decide) accepted
  obtain ⟨_, found, written⟩ := pool.written 3 procedure listed
  cases found
  exact ⟨program, log, procedure, accepted, pool.entries, listed, written⟩

end ThreeAddress
