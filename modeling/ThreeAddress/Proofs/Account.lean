import Mathlib.Data.Finset.Card
import ThreeAddress.Proofs.AppendOnly
import ThreeAddress.Proofs.Closedness
import ThreeAddress.Proofs.PoolOrder

set_option autoImplicit false

namespace ThreeAddress

def Event.heading (event : Event) : String × String := (event.level, event.message)

def Procedure.account (procedure : Procedure) (name : String) : List Event :=
  procedure.labels.map (.labelPlaced name) ++
    [.procedureLowered name procedure.quads.size procedure.temps.size]

-- What is told of a declaration that stands behind others, the program being that of all declarations.
def Decl.account (program : Program) (earlier : List Decl) : Decl → List Event
  | .global symbol =>
      if (globals earlier).any fun other => other.id = symbol.id then [.globalRebound symbol.name] else []
  | .formal _ => []
  | .function definition =>
      program.procedures.items[(functions earlier).length + 1]?.elim [] fun procedure =>
        procedure.account definition.symbol.name

def account (program : Program) (earlier : List Decl) : List Decl → List Event
  | [] => []
  | decl :: tail => decl.account program earlier ++ account program (earlier ++ [decl]) tail

mutual

def Expr.literalCount : Expr → Nat
  | .string .. => 1
  | .call _ _ args => Expr.literalCountAll args
  | .unary _ _ operand => operand.literalCount
  | .binary _ _ lhs rhs => lhs.literalCount + rhs.literalCount
  | .int .. | .bool .. | .eh _ | .name .. => 0

def Expr.literalCountAll : List Expr → Nat
  | [] => 0
  | expr :: tail => expr.literalCount + Expr.literalCountAll tail

end

mutual

def Stmt.literalCount : Stmt → Nat
  | .localFunction _ _ body => Stmt.literalCountAll body
  | .assign dst src => dst.literalCount + src.literalCount
  | .maybe dst first second => dst.literalCount + first.literalCount + second.literalCount
  | .increment expr | .decrement expr | .write expr | .read expr | .ret (some expr) => expr.literalCount
  | .ifThen cond body | .whileDo cond body => cond.literalCount + Stmt.literalCountAll body
  | .ifElse cond positive negative =>
      cond.literalCount + Stmt.literalCountAll positive + Stmt.literalCountAll negative
  | .call _ args => Expr.literalCountAll args
  | .localVariable _ | .localFormal _ | .ret none => 0

def Stmt.literalCountAll : List Stmt → Nat
  | [] => 0
  | stmt :: tail => stmt.literalCount + Stmt.literalCountAll tail

end

def literalCount (decls : List Decl) : Nat :=
  ((functions decls).map fun definition => Stmt.literalCountAll definition.body).sum

mutual

theorem Expr.length_texts (expr : Expr) : expr.texts.length = expr.literalCount := by
  cases expr with
  | int | bool | string | eh | name => rfl
  | call type callee args => exact Expr.length_texts_all args
  | unary type op operand => exact Expr.length_texts operand
  | binary type op lhs rhs =>
      have left := Expr.length_texts lhs
      have right := Expr.length_texts rhs
      rw [Expr.texts_binary, Expr.literalCount]
      split <;> rw [List.length_append] <;> omega

theorem Expr.length_texts_all (exprs : List Expr) : (Expr.textsAll exprs).length = Expr.literalCountAll exprs := by
  cases exprs with
  | nil => rfl
  | cons expr tail =>
      rw [Expr.textsAll, List.length_append, Expr.length_texts expr, Expr.length_texts_all tail, Expr.literalCountAll]

end

mutual

-- The literals inside a nested function are not lowered, but neither is the statement it stands in.
theorem Stmt.length_texts (stmt : Stmt) (before after : Builder) (lowered : stmt.lower before = .ok () after) :
    stmt.texts.length = stmt.literalCount := by
  cases stmt with
  | localVariable | localFormal => rfl
  | localFunction symbol formals body => exact absurd lowered (Stmt.lower_local_function _ _ _ _ _)
  | assign dst src => simp only [Stmt.texts, Stmt.literalCount, List.length_append, Expr.length_texts]
  | maybe dst first second => simp only [Stmt.texts, Stmt.literalCount, List.length_append, Expr.length_texts]
  | increment expr | decrement expr | write expr | read expr => exact expr.length_texts
  | ifThen cond body =>
      obtain ⟨_, _, _, _, ran, _⟩ := (Stmt.lower_if_then ..).mp lowered
      rw [Stmt.texts, List.length_append, cond.length_texts, Stmt.length_texts_all body _ _ ran, Stmt.literalCount]
  | ifElse cond positive negative =>
      obtain ⟨_, _, _, _, _, ran, others, _⟩ := (Stmt.lower_if_else ..).mp lowered
      rw [Stmt.texts, List.length_append, List.length_append, cond.length_texts, Stmt.length_texts_all positive _ _ ran,
        Stmt.length_texts_all negative _ _ others, Stmt.literalCount]
  | whileDo cond body =>
      obtain ⟨_, _, _, _, ran, _⟩ := (Stmt.lower_while_do ..).mp lowered
      rw [Stmt.texts, List.length_append, cond.length_texts, Stmt.length_texts_all body _ _ ran, Stmt.literalCount]
  | call callee args => exact Expr.length_texts_all args
  | ret value =>
      cases value with
      | none => rfl
      | some value => exact value.length_texts

theorem Stmt.length_texts_all (stmts : List Stmt) (before after : Builder)
    (lowered : Stmt.lowerAll stmts before = .ok () after) :
    (Stmt.textsAll stmts).length = Stmt.literalCountAll stmts := by
  cases stmts with
  | nil => rfl
  | cons stmt tail =>
      obtain ⟨middle, first, rest⟩ := (Stmt.lower_all_cons ..).mp lowered
      rw [Stmt.textsAll, List.length_append, Stmt.length_texts stmt _ _ first, Stmt.length_texts_all tail _ _ rest,
        Stmt.literalCountAll]

end

namespace HandleMap

variable {k : Handle.Kind} {α : Type}

theorem mem_keys (map : HandleMap k α) (h : Handle k) :
    h ∈ map.entries.map Prod.fst ↔ (map.get? h).isSome = true := by
  obtain ⟨entries⟩ := map
  change _ ↔ (lookup h entries).isSome = true
  induction entries with
  | nil => simp [lookup]
  | cons entry tail ih =>
      by_cases same : h = entry.1
      · simp [lookup, same]
      · rw [lookup, if_neg same, ← ih, List.map_cons, List.mem_cons]
        simp [same]

theorem Ascending.size_eq_card {map : HandleMap k α} (ascending : map.Ascending) (keys : List (Handle k))
    (held : ∀ h, (map.get? h).isSome = true ↔ h ∈ keys) : map.size = keys.toFinset.card := by
  have distinct : (map.entries.map Prod.fst).Nodup := by
    refine List.pairwise_map.mpr (List.Pairwise.imp ?_ ascending)
    intro earlier later below same
    rw [same] at below
    exact Nat.lt_irrefl _ below
  have same : (map.entries.map Prod.fst).toFinset = keys.toFinset := by
    ext h
    rw [List.mem_toFinset, List.mem_toFinset, mem_keys, held]
  calc
    map.size = (map.entries.map Prod.fst).length := (List.length_map _).symm
    _ = (map.entries.map Prod.fst).toFinset.card := (List.toFinset_card_of_nodup distinct).symm
    _ = keys.toFinset.card := by rw [same]

end HandleMap

namespace Builder

def Recorded (start : List Event) (builder : Builder) : Prop :=
  builder.log.toList = start ++ builder.procedure.labels.map (.labelPlaced builder.procedure.name)

variable {start : List Event} {before after : Builder}

theorem Recorded.emit (recorded : Recorded start before) (instr : Instr) : Recorded start (before.emit instr) := by
  have labels : (before.emit instr).procedure.labels = before.procedure.labels := by
    simp [Builder.emit, Procedure.labels, Procedure.push, Quad.plain]
  rw [Recorded, labels]
  exact recorded

theorem Recorded.place (recorded : Recorded start before) (label : Handle .label) :
    Recorded start (before.place label) := by
  have labels : (before.place label).procedure.labels = before.procedure.labels ++ [label] := by
    simp [Builder.place, Procedure.labels, Procedure.push, Quad.landing]
  have log : (before.place label).log.toList =
      before.log.toList ++ [.labelPlaced before.procedure.name label] := Array.toList_push
  rw [Recorded, labels, log, recorded, List.map_append, List.append_assoc]
  rfl

theorem Builds.recorded (step : Builds before after) (recorded : Recorded start before) : Recorded start after := by
  cases step with
  | emit instr => exact recorded.emit instr
  | place label => exact recorded.place label
  | temp | string | label | bindLocal | bindFormal => exact recorded

end Builder

theorem Function.lower_log (definition : Function) (session : Session) (builder : Builder)
    (lowered : definition.lower (session.openProcedure definition.symbol.name) = .ok () builder) :
    builder.log.toList = session.log.toList ++ builder.procedure.account definition.symbol.name := by
  obtain ⟨last, trace, rfl⟩ := definition.lower_trace _ builder lowered
  have opened : Builder.Recorded session.log.toList (session.openProcedure definition.symbol.name) :=
    (List.append_nil _).symm
  have recorded : Builder.Recorded session.log.toList last :=
    trace.builds_keep (fun _ _ step => step.recorded) opened
  have named : last.procedure.name = definition.symbol.name := trace.grows.name
  rw [Builder.Recorded, named] at recorded
  rw [Builder.leave, Array.toList_push, recorded, named, List.append_assoc]
  rfl

namespace Session

theorem Runs.global_is_some {decls : List Decl} {after : Session} (runs : Runs .initial decls after)
    (id : Handle .symbol) : (after.program.global? id).isSome = true ↔ id ∈ (globals decls).map Symbol.id := by
  rw [runs.global_latest, latest_is_some]

theorem Runs.size_globals {decls : List Decl} {after : Session} (runs : Runs .initial decls after) :
    after.program.globals.size = ((globals decls).map Symbol.id).toFinset.card := by
  apply HandleMap.Ascending.size_eq_card
  · rw [runs.globals_bound]
    exact (Tabled.bind_all _ Tabled.empty _).ascending
  · exact runs.global_is_some

theorem Runs.length_texts {before after : Session} {decls : List Decl} (runs : Runs before decls after) :
    (texts decls).length = literalCount decls := by
  induction runs with
  | nil session => rfl
  | global session after symbol tail rest ih => exact ih
  | function session after definition builder tail lowered rest ih =>
      obtain ⟨last, ran, rfl⟩ := (Function.lower_ok ..).mp lowered
      have body := Stmt.length_texts_all definition.body _ _ ran
      change (Stmt.textsAll definition.body ++ texts tail).length =
        Stmt.literalCountAll definition.body + literalCount tail
      rw [List.length_append, body, ih]

theorem Runs.size_strings {decls : List Decl} {after : Session} (runs : Runs .initial decls after)
    (fits : literalCount decls ≤ 2 ^ 32) : after.program.strings.size = literalCount decls := by
  rw [← runs.length_texts] at fits ⊢
  rw [runs.pool, HandleMap.size, HandleMap.entries_insert_all_empty _ fits, List.length_mapIdx]

theorem Runs.log_global {earlier : List Decl} {session : Session} (first : Runs .initial earlier session)
    (symbol : Symbol) (program : Program) :
    (session.bindGlobal symbol).log.toList =
      session.log.toList ++ (Decl.global symbol).account program earlier := by
  have bound : (session.program.global? symbol.id).isSome =
      (globals earlier).any fun other => other.id = symbol.id := by
    rw [Bool.eq_iff_iff, first.global_is_some]
    simp
  rw [Session.bindGlobal, Decl.account, bound]
  by_cases seen : ((globals earlier).any fun other => other.id = symbol.id) = true
  · rw [if_pos seen, if_pos seen, Array.toList_push]
  · rw [if_neg seen, if_neg seen, List.append_nil]

-- The run is followed from its first declaration on; the account is that of the program at its end.
theorem Runs.log_account {earlier decls : List Decl} {before after : Session} (first : Runs .initial earlier before)
    (runs : Runs before decls after) :
    after.log.toList = before.log.toList ++ account after.program earlier decls := by
  induction runs generalizing earlier with
  | nil session => exact (List.append_nil _).symm
  | global session after symbol tail rest ih =>
      have extended := first.append (.global session _ symbol [] (.nil _))
      rw [ih extended, first.log_global symbol after.program, List.append_assoc]
      rfl
  | function session after definition builder tail lowered rest ih =>
      have extended := first.append (.function session _ definition builder [] lowered (.nil _))
      have told := definition.lower_log session builder lowered
      have listed : after.program.procedures.items[(functions earlier).length + 1]? = some builder.procedure := by
        have place : session.procedures.length = (functions earlier).length + 1 := by
          rw [first.length_procedures, Nat.add_comm]
          rfl
        rw [← Array.getElem?_toList, ← place]
        exact rest.closed_listed
      have closed : (session.close builder).log.toList = _ := told
      rw [ih extended, closed, account, Decl.account, listed, List.append_assoc]
      rfl

end Session

structure Accounted (decls : List Decl) (program : Program) (log : List Event) : Prop where
  events : log = account program [] decls ++
    [.programLowered (1 + (functions decls).length) ((globals decls).map Symbol.id).toFinset.card (literalCount decls)]
  procedures : program.procedures.size = 1 + (functions decls).length
  globals : program.globals.size = ((globals decls).map Symbol.id).toFinset.card
  strings : program.strings.size = literalCount decls
  rebound : ∀ name, (Event.globalRebound name).heading = ("WARN", "global declared twice, keeping the latest binding")
  placed : ∀ name label, (Event.labelPlaced name label).heading = ("TRACE", "placed label")
  lowered : ∀ name quads temps, (Event.procedureLowered name quads temps).heading = ("DEBUG", "lowered procedure")
  finished : ∀ procedures globals strings,
    (Event.programLowered procedures globals strings).heading = ("DEBUG", "lowered program")

theorem lowered_log_accounted (decls : List Decl) (program : Program) (log : Array Event)
    (few : (functions decls).length < 2 ^ 32) (fits : literalCount decls ≤ 2 ^ 32)
    (accepted : lower decls = (.ok program, log)) : Accounted decls program log.toList := by
  obtain ⟨session, runs, rfl⟩ := runs_of_accepted decls program log few accepted
  have procedures : session.program.procedures.size = 1 + (functions decls).length := by
    rw [Session.size_procedures, runs.length_procedures]
    rfl
  have globals := runs.size_globals
  have strings := runs.size_strings fits
  refine ⟨?_, procedures, globals, strings, fun _ => rfl, fun _ _ => rfl, fun _ _ _ => rfl, fun _ _ _ => rfl⟩
  have outcome := lower_outcome decls
  rw [accepted, runs.lower_all (by change 1 + _ ≤ _; omega)] at outcome
  cases outcome
  have told := Session.Runs.log_account (.nil .initial) runs
  rw [Array.toList_push, told, procedures, globals, strings]
  rfl

def Sample.rebound : List Decl :=
  [.global total, .function halveDefinition, .global ⟨total.id, "sum", .int⟩, .function mainDefinition]

theorem rebound_log_accounted :
    ∃ program log halve main, lower Sample.rebound = (.ok program, log) ∧
      program.procedures.items[1]? = some halve ∧ program.procedures.items[2]? = some main ∧
      log.toList = halve.account "halve" ++ .globalRebound "sum" :: main.account "main" ++ [.programLowered 3 1 1] := by
  obtain ⟨program, log, accepted⟩ := accepted_of_is_ok Sample.rebound (by decide +kernel)
  obtain ⟨halve, first⟩ := listed_of_lt _ program log accepted 1 (by decide +kernel)
  obtain ⟨main, second⟩ := listed_of_lt _ program log accepted 2 (by decide +kernel)
  have accounted := lowered_log_accounted Sample.rebound program log (by decide) (by decide) accepted
  have told : account program [] Sample.rebound =
      program.procedures.items[1]?.elim [] (·.account "halve") ++ ([.globalRebound "sum"] ++
        (program.procedures.items[2]?.elim [] (·.account "main") ++ [])) := rfl
  have events := accounted.events
  rw [told, first, second, Option.elim_some, Option.elim_some, List.append_nil] at events
  exact ⟨program, log, halve, main, accepted, first, second, events⟩

-- The loop takes its two labels before the branch inside it, and places the second one after those of the branch.
example : (lower Sample.rebound).2.toList =
    [.procedureLowered "halve" 4 1, .globalRebound "sum", .labelPlaced "main" (.ofNat 0), .labelPlaced "main" (.ofNat 1),
      .labelPlaced "main" (.ofNat 2), .labelPlaced "main" (.ofNat 4), .labelPlaced "main" (.ofNat 5),
      .labelPlaced "main" (.ofNat 3), .procedureLowered "main" 28 6, .programLowered 3 1 1] := by decide +kernel

end ThreeAddress
