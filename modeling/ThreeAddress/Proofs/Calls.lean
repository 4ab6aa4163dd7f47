import ThreeAddress.Proofs.Allocation
import ThreeAddress.Proofs.Closedness

set_option autoImplicit false

/- The calling convention. A procedure first receives its arguments. After that, the quads of
   every call stand together: its arguments are passed only when all of them have been
   computed, so the code of a call inside an argument never comes in between. -/
namespace ThreeAddress

open Lower Builder

-- A call with the symbols that are declared and the texts that are pooled when it is made.
structure CallSite where
  callee : Symbol
  args : List Expr
  visible : List Symbol
  pooled : List String

namespace CallSite

def after (symbols : List Symbol) (texts : List String) (site : CallSite) : CallSite :=
  { site with visible := symbols ++ site.visible, pooled := texts ++ site.pooled }

@[simp] theorem after_nothing : after [] [] = id := rfl

@[simp] theorem after_comp (symbols others : List Symbol) (texts more : List String) :
    after symbols texts ∘ after others more = after (symbols ++ others) (texts ++ more) := by
  funext site
  simp [after]

end CallSite

mutual

def Expr.calls : Expr → List CallSite
  | .call _ callee args => Expr.callsAll args ++ [⟨callee, args, [], Expr.textsAll args⟩]
  | .unary _ _ operand => operand.calls
  | .binary _ op lhs rhs =>
      if op.rightFirst then rhs.calls ++ lhs.calls.map (.after [] rhs.texts)
      else lhs.calls ++ rhs.calls.map (.after [] lhs.texts)
  | .int .. | .bool .. | .string .. | .eh _ | .name .. => []

def Expr.callsAll : List Expr → List CallSite
  | [] => []
  | expr :: tail => expr.calls ++ (Expr.callsAll tail).map (.after [] expr.texts)

end

mutual

def Stmt.declared : Stmt → List Symbol
  | .localVariable symbol | .localFormal symbol => [symbol]
  | .ifThen _ body | .whileDo _ body => Stmt.declaredAll body
  | .ifElse _ positive negative => Stmt.declaredAll positive ++ Stmt.declaredAll negative
  | _ => []

def Stmt.declaredAll : List Stmt → List Symbol
  | [] => []
  | stmt :: tail => stmt.declared ++ Stmt.declaredAll tail

end

mutual

def Stmt.calls : Stmt → List CallSite
  | .assign dst src => dst.calls ++ src.calls.map (.after [] dst.texts)
  | .maybe dst first second =>
      dst.calls ++ first.calls.map (.after [] dst.texts) ++ second.calls.map (.after [] (dst.texts ++ first.texts))
  | .increment expr | .decrement expr | .write expr | .read expr | .ret (some expr) => expr.calls
  | .ifThen cond body | .whileDo cond body => cond.calls ++ (Stmt.callsAll body).map (.after [] cond.texts)
  | .ifElse cond positive negative =>
      cond.calls ++ (Stmt.callsAll positive).map (.after [] cond.texts) ++
        (Stmt.callsAll negative).map (.after (Stmt.declaredAll positive) (cond.texts ++ Stmt.textsAll positive))
  | .call callee args => Expr.callsAll args ++ [⟨callee, args, [], Expr.textsAll args⟩]
  | .localVariable _ | .localFormal _ | .localFunction .. | .ret none => []

def Stmt.callsAll : List Stmt → List CallSite
  | [] => []
  | stmt :: tail => stmt.calls ++ (Stmt.callsAll tail).map (.after stmt.declared stmt.texts)

end

namespace Builder

-- A name stands for the storage of its last declaration, and a text is pooled after these.
structure Sees (builder : Builder) (symbols : List Symbol) (texts : List String) : Prop where
  slots : ∀ id, builder.slot? id = latest symbols id
  strings : builder.nextString = .ofNat texts.length

def departures (position : Nat) (operands : List Operand) : List Instr :=
  (operands.zipIdx position).map fun entry => .setArg entry.2 entry.1

end Builder

namespace CallSite

def group (site : CallSite) (operands : List Operand) (result : Option Temp) : List Quad :=
  (departures 1 operands ++
    Instr.call site.callee.id site.callee.name :: result.toList.map fun temp => .getRet (.temp temp)).map .plain

-- The operands are those that the arguments were lowered to where the call stands, by the code
-- that ends where the group begins. There is a result exactly if the callee does not return `void`.
structure Made (site : CallSite) (front : List Quad) (operands : List Operand) (result : Option Temp) : Prop where
  args : ∃ before middle, Expr.lowerAll site.args before = .ok operands middle ∧ middle.quads = front ∧
    middle.Sees site.visible site.pooled
  count : operands.length = site.args.length
  result : ∃ type, site.callee.type.result? = some type ∧ (result = none ↔ type = .void) ∧
    ∀ temp ∈ result, temp.width = type.width

end CallSite

-- Code after `front` that consists of the groups of these calls, in this order, and of quads
-- that have nothing to do with calls.
inductive Bracketed : List Quad → List CallSite → List Quad → Prop where
  | nil (front : List Quad) : Bracketed front [] []
  | other (front : List Quad) (quad : Quad) (sites : List CallSite) (code : List Quad)
      (apart : quad.instr.transfers = false) (rest : Bracketed (front ++ [quad]) sites code) :
      Bracketed front sites (quad :: code)
  | group (front : List Quad) (site : CallSite) (operands : List Operand) (result : Option Temp)
      (sites : List CallSite) (code : List Quad) (made : site.Made front operands result)
      (rest : Bracketed (front ++ site.group operands result) sites code) :
      Bracketed front (site :: sites) (site.group operands result ++ code)

theorem Bracketed.append {front code more : List Quad} {sites others : List CallSite}
    (first : Bracketed front sites code) (second : Bracketed (front ++ code) others more) :
    Bracketed front (sites ++ others) (code ++ more) := by
  induction first with
  | nil front =>
      rw [List.append_nil] at second
      exact second
  | other front quad sites code apart rest ih =>
      refine .other front quad _ _ apart (ih ?_)
      rw [List.append_assoc]
      exact second
  | group front site operands result sites code made rest ih =>
      rw [List.append_assoc]
      refine .group front site operands result _ _ made (ih ?_)
      rw [List.append_assoc]
      exact second

def Calls (sites : List CallSite) (before after : Builder) : Prop :=
  ∃ code, after.quads = before.quads ++ code ∧ Bracketed before.quads sites code

namespace Calls

variable {sites others : List CallSite} {before middle after : Builder}

theorem trans (first : Calls sites before middle) (second : Calls others middle after) :
    Calls (sites ++ others) before after := by
  obtain ⟨code, quads, bracketed⟩ := first
  obtain ⟨more, further, rest⟩ := second
  rw [quads] at further rest
  exact ⟨code ++ more, by rw [further, List.append_assoc], bracketed.append rest⟩

theorem same (quads : after.quads = before.quads) : Calls [] before after :=
  ⟨[], by rw [quads, List.append_nil], .nil _⟩

theorem single (quad : Quad) (quads : after.quads = before.quads ++ [quad]) (apart : quad.instr.transfers = false) :
    Calls [] before after := ⟨[quad], quads, .other _ quad [] [] apart (.nil _)⟩

theorem group (site : CallSite) (operands : List Operand) (result : Option Temp)
    (quads : after.quads = before.quads ++ site.group operands result)
    (made : site.Made before.quads operands result) : Calls [site] before after := by
  refine ⟨site.group operands result ++ [], ?_, .group _ site operands result [] [] made (.nil _)⟩
  rw [List.append_nil]
  exact quads

end Calls

theorem Builder.quads_pass (builder : Builder) (position : Nat) (operands : List Operand) :
    (builder.pass position operands).quads = builder.quads ++ (departures position operands).map .plain := by
  induction operands generalizing builder position with
  | nil => simp [Builder.pass, departures]
  | cons operand tail ih =>
      rw [Builder.pass, ih, quads_emit, List.append_assoc]
      rfl

namespace Mark

def declared : Mark → List Symbol
  | .declare symbol => [symbol]
  | _ => []

def sites : Mark → List CallSite
  | .call callee args => [⟨callee, args, [], []⟩]
  | _ => []

-- The calls among the marks, each with what the marks before it declare and pool.
def sitesAll : List Mark → List CallSite
  | [] => []
  | mark :: tail => mark.sites ++ (sitesAll tail).map (.after mark.declared mark.texts)

end Mark

namespace Builder

variable {symbols : List Symbol} {texts : List String}

theorem Sees.bind {before after : Builder} (sees : before.Sees symbols texts) (symbol : Symbol)
    (program : after.program = before.program)
    (bindings : after.procedure.bindings = before.procedure.bindings.insert symbol.id (.ofSymbol symbol)) :
    after.Sees (symbols ++ [symbol]) texts := by
  refine ⟨?_, by rw [nextString, program]; exact sees.strings⟩
  intro id
  rw [latest_append, latest_cons, ← sees.slots id, slot?, slot?, Procedure.slot?, bindings, program,
    HandleMap.get?_insert]
  split <;> rfl

theorem Sees.keep {before after : Builder} (sees : before.Sees symbols texts)
    (slots : ∀ id, after.slot? id = before.slot? id) (strings : after.nextString = before.nextString) :
    after.Sees symbols texts := ⟨fun id => (slots id).trans (sees.slots id), strings.trans sees.strings⟩

theorem Sees.add_string {builder : Builder} (sees : builder.Sees symbols texts) (text : String) :
    (builder.addString text).Sees symbols (texts ++ [text]) := by
  refine ⟨sees.slots, ?_⟩
  change builder.nextString.next = _
  rw [sees.strings, Handle.next_of_nat, List.length_append, List.length_singleton]

theorem Step.sees {mark : Mark} {before after : Builder} (step : Step before mark after)
    (sees : before.Sees symbols texts) : after.Sees (symbols ++ mark.declared) (texts ++ mark.texts) := by
  have straight := step.straight
  have allocates := step.allocates
  cases step with
  | text text =>
      simp only [Mark.declared, List.append_nil]
      exact sees.add_string text
  | say text type =>
      simp only [Mark.declared, List.append_nil]
      exact (sees.add_string text).keep (fun _ => rfl) rfl
  | bindLocal symbol =>
      simp only [Mark.texts, List.append_nil]
      exact sees.bind symbol rfl rfl
  | bindFormal symbol =>
      simp only [Mark.texts, List.append_nil]
      exact sees.bind symbol rfl rfl
  | use | check | compute | emit | label | test | jump | land =>
      simp only [Mark.declared, Mark.texts, List.append_nil]
      exact sees.keep (fun _ => rfl) rfl
  | run | call =>
      simp only [Mark.declared, Mark.texts, List.append_nil]
      refine sees.keep (straight rfl).slots ?_
      rw [nextString, allocates]
      exact Handle.raise_zero _
  | receive formals listed =>
      simp only [Mark.declared, Mark.texts, List.append_nil]
      refine sees.keep (before.slot_receive 1 formals) ?_
      rw [nextString, program_receive]
      rfl

theorem Trace.sees {marks : List Mark} {before after : Builder} (trace : Trace before marks after)
    (sees : before.Sees symbols texts) :
    after.Sees (symbols ++ marks.flatMap Mark.declared) (texts ++ marks.flatMap Mark.texts) := by
  induction trace generalizing symbols texts with
  | nil builder => simpa using sees
  | cons before middle after mark marks step rest ih => simpa [List.append_assoc] using ih (step.sees sees)

theorem Step.calls {mark : Mark} {before after : Builder} (step : Step before mark after) (inside : mark ≠ .arrive)
    (sees : before.Sees symbols texts) : Calls (mark.sites.map (.after symbols texts)) before after := by
  cases step with
  | text | use | check | label | bindLocal | bindFormal => exact .same rfl
  | compute width instr action sources computing offered => exact .single _ (quads_emit _ _) (computing.apart _)
  | run start callee args operands type lowered offered =>
      refine .group _ operands none ?_ ⟨⟨start, before, lowered, rfl, ?_⟩, ?_, .void, type, by simp, by simp⟩
      · simp [CallSite.group, CallSite.after, Builder.invoke, quads_pass]
      · simpa [CallSite.after] using sees
      · exact Expr.lower_all_length args start before operands lowered
  | call start callee args operands result type value lowered offered =>
      refine .group _ operands (some ((before.invoke callee operands).nextTemp result.width)) ?_
        ⟨⟨start, before, lowered, rfl, ?_⟩, ?_, result, type, by simpa using value, by simp [next_temp_eq]⟩
      · simp [CallSite.group, CallSite.after, Builder.compute, Builder.invoke, quads_pass]
      · simpa [CallSite.after] using sees
      · exact Expr.lower_all_length args start before operands lowered
  | emit instr silent apart mute still has ready => exact .single _ (before.quads_emit instr) apart
  | say text type => exact .single _ (quads_emit _ _) rfl
  | test cond label offered => exact .single _ (quads_emit _ _) rfl
  | jump label => exact .single _ (quads_emit _ _) rfl
  | land label => exact .single _ (before.quads_place label) rfl
  | receive formals listed => exact absurd rfl inside

theorem Trace.calls {marks : List Mark} {before after : Builder} (trace : Trace before marks after)
    (inside : .arrive ∉ marks) (sees : before.Sees symbols texts) :
    Calls ((Mark.sitesAll marks).map (.after symbols texts)) before after := by
  induction trace generalizing symbols texts with
  | nil builder => exact .same rfl
  | cons before middle after mark marks step rest ih =>
      rw [List.mem_cons, not_or] at inside
      have joined := (step.calls (Ne.symm inside.1) sees).trans (ih inside.2 (step.sees sees))
      rwa [Mark.sitesAll, List.map_append, List.map_map, CallSite.after_comp]

end Builder

namespace Mark

theorem sites_append (front back : List Mark) :
    sitesAll (front ++ back) =
      sitesAll front ++ (sitesAll back).map (.after (front.flatMap declared) (front.flatMap texts)) := by
  induction front with
  | nil => simp [sitesAll]
  | cons mark tail ih => simp [sitesAll, ih]

end Mark

theorem Mark.declared_straight (mark : Mark) (straight : mark.straight = true) : mark.declared = [] := by
  cases mark <;> first | rfl | cases straight

theorem Expr.declared_marks (expr : Expr) : expr.marks.flatMap Mark.declared = [] :=
  expr.marks_silent Mark.declared Mark.declared_straight

theorem Expr.declared_marks_all (exprs : List Expr) : (Expr.marksAll exprs).flatMap Mark.declared = [] :=
  Expr.marks_all_silent Mark.declared Mark.declared_straight exprs

mutual

theorem Expr.sites_marks (expr : Expr) : Mark.sitesAll expr.marks = expr.calls := by
  cases expr with
  | int | bool | string | eh | name => rfl
  | call type callee args =>
      simp [Expr.marks, Expr.calls, Mark.sites_append, Mark.sitesAll, Mark.sites, CallSite.after, Mark.declared,
        Mark.texts, Expr.sites_marks_all args, Expr.texts_marks_all, Expr.declared_marks_all]
  | unary type op operand =>
      simp [Expr.marks, Expr.calls, Mark.sites_append, Mark.sitesAll, Mark.sites, Expr.sites_marks operand]
  | binary type op lhs rhs =>
      rw [Expr.marks, Expr.calls]
      split <;> simp [Mark.sites_append, Mark.sitesAll, Mark.sites, Expr.sites_marks lhs, Expr.sites_marks rhs,
        Expr.texts_marks, Expr.declared_marks]

theorem Expr.sites_marks_all (exprs : List Expr) : Mark.sitesAll (Expr.marksAll exprs) = Expr.callsAll exprs := by
  cases exprs with
  | nil => rfl
  | cons expr tail =>
      rw [Expr.marksAll, Mark.sites_append, Expr.sites_marks expr, Expr.sites_marks_all tail, expr.declared_marks,
        expr.texts_marks, Expr.callsAll]

end

mutual

theorem Stmt.declared_marks (stmt : Stmt) : stmt.marks.flatMap Mark.declared = stmt.declared := by
  cases stmt with
  | write value =>
      rw [Stmt.marks]
      cases value.literal? <;> simp [Stmt.declared, Mark.declared, Expr.declared_marks]
  | ifThen cond body =>
      simp [Stmt.marks, Stmt.declared, Mark.declared, Expr.declared_marks, Stmt.declared_marks_all body]
  | ifElse cond positive negative =>
      simp [Stmt.marks, Stmt.declared, Mark.declared, Expr.declared_marks, Stmt.declared_marks_all positive,
        Stmt.declared_marks_all negative]
  | whileDo cond body =>
      simp [Stmt.marks, Stmt.declared, Mark.declared, Expr.declared_marks, Stmt.declared_marks_all body]
  | ret value => cases value <;> simp [Stmt.marks, Stmt.declared, Mark.declared, Expr.declared_marks]
  | localVariable | localFormal | localFunction | assign | maybe | increment | decrement | read | call =>
      simp [Stmt.marks, Stmt.declared, Mark.declared, Expr.declared_marks, Expr.declared_marks_all]

theorem Stmt.declared_marks_all (stmts : List Stmt) :
    (Stmt.marksAll stmts).flatMap Mark.declared = Stmt.declaredAll stmts := by
  cases stmts with
  | nil => rfl
  | cons stmt tail =>
      simp [Stmt.marksAll, Stmt.declaredAll, Stmt.declared_marks stmt, Stmt.declared_marks_all tail]

end

theorem Expr.calls_literal (value : Expr) (text : String) (literal : value.literal? = some text) :
    value.calls = [] := by
  rw [value.eq_string_of_literal text literal]
  rfl

section Sites

attribute [local simp] Mark.sites_append Mark.sitesAll Mark.sites Mark.declared Mark.texts
  Expr.sites_marks Expr.sites_marks_all Expr.texts_marks Expr.texts_marks_all Expr.declared_marks
  Expr.declared_marks_all Stmt.texts_marks_all Stmt.declared_marks_all

mutual

theorem Stmt.sites_marks (stmt : Stmt) : Mark.sitesAll stmt.marks = stmt.calls := by
  cases stmt with
  | write value =>
      rw [Stmt.marks, Stmt.calls]
      cases literal : value.literal? with
      | some text => simp [value.calls_literal text literal]
      | none => simp
  | ifThen cond body => simp [Stmt.marks, Stmt.calls, Stmt.sites_marks_all body]
  | ifElse cond positive negative =>
      simp [Stmt.marks, Stmt.calls, Stmt.sites_marks_all positive, Stmt.sites_marks_all negative]
  | whileDo cond body => simp [Stmt.marks, Stmt.calls, Stmt.sites_marks_all body]
  | ret value => cases value <;> simp [Stmt.marks, Stmt.calls]
  | call callee args => simp [Stmt.marks, Stmt.calls, CallSite.after]
  | localVariable | localFormal | localFunction | assign | maybe | increment | decrement | read =>
      simp [Stmt.marks, Stmt.calls]

theorem Stmt.sites_marks_all (stmts : List Stmt) : Mark.sitesAll (Stmt.marksAll stmts) = Stmt.callsAll stmts := by
  cases stmts with
  | nil => rfl
  | cons stmt tail =>
      rw [Stmt.marksAll, Mark.sites_append, Stmt.sites_marks stmt, Stmt.sites_marks_all tail, stmt.declared_marks,
        stmt.texts_marks, Stmt.callsAll]

end

end Sites

theorem Expr.marks_inside (expr : Expr) : .arrive ∉ expr.marks := fun member =>
  nomatch expr.marks_straight _ member

theorem Expr.marks_all_inside (exprs : List Expr) : .arrive ∉ Expr.marksAll exprs := fun member =>
  nomatch Expr.marks_all_straight exprs _ member

mutual

theorem Stmt.marks_inside (stmt : Stmt) : .arrive ∉ stmt.marks := by
  cases stmt with
  | write value =>
      rw [Stmt.marks]
      cases value.literal? <;> simp [Expr.marks_inside]
  | ifThen cond body => simp [Stmt.marks, Expr.marks_inside, Stmt.marks_all_inside body]
  | ifElse cond positive negative =>
      simp [Stmt.marks, Expr.marks_inside, Stmt.marks_all_inside positive, Stmt.marks_all_inside negative]
  | whileDo cond body => simp [Stmt.marks, Expr.marks_inside, Stmt.marks_all_inside body]
  | ret value => cases value <;> simp [Stmt.marks, Expr.marks_inside]
  | localVariable | localFormal | localFunction | assign | maybe | increment | decrement | read | call =>
      simp [Stmt.marks, Expr.marks_inside, Expr.marks_all_inside]

theorem Stmt.marks_all_inside (stmts : List Stmt) : .arrive ∉ Stmt.marksAll stmts := by
  cases stmts with
  | nil => exact List.not_mem_nil
  | cons stmt tail => simp [Stmt.marksAll, Stmt.marks_inside stmt, Stmt.marks_all_inside tail]

end

theorem Disciplined.fresh {quads : List Quad} {temps : List Temp} (disciplined : Disciplined quads temps)
    (ordered : Ordered quads temps) (numbered : Numbered temps) (front back : List Quad) (quad : Quad) (temp : Temp)
    (split : quads = front ++ quad :: back) (defines : quad.instr.defines? = some (.temp temp)) :
    temps[definitions front]? = some temp ∧
      (temps.length ≤ 2 ^ 32 → ∀ earlier ∈ front, ∀ other, .temp other ∈ earlier.instr.operands →
        other.id ≠ temp.id) := by
  have listed : (temps.map Operand.temp)[definitions front]? = some (.temp temp) := by
    rw [← disciplined.defined, split, List.filterMap_append, definitions, List.getElem?_append_right (Nat.le_refl _),
      Nat.sub_self]
    simp [defines]
  rw [List.getElem?_map] at listed
  obtain ⟨found, here, same⟩ := Option.map_eq_some_iff.mp listed
  cases same
  refine ⟨here, ?_⟩
  intro few earlier member other occurs equal
  have within := ordered.early front (quad :: back) split earlier member other occurs
  obtain ⟨i, inside, at_⟩ := List.mem_take_iff_getElem.mp within
  have first := numbered i other (by rw [List.getElem?_eq_some_iff]; exact ⟨by omega, at_⟩)
  have second := numbered _ temp here
  have bound := (List.getElem?_eq_some_iff.mp here).1
  rw [first, second] at equal
  have indices := congrArg Handle.index equal
  rw [Handle.index_of_nat, Handle.index_of_nat] at indices
  omega

structure CallingConvention (earlier : List Decl) (definition : Function) (procedure : Procedure) : Prop where
  bracketed : ∃ code, procedure.quads.toList =
      (arrivals 1 (definition.formals.map .ofSymbol)).map .plain ++ code ∧
    Bracketed ((arrivals 1 (definition.formals.map .ofSymbol)).map .plain)
      ((Stmt.callsAll definition.body).map (.after (globals earlier ++ definition.formals) (texts earlier))) code
  fresh : ∀ front temp back, procedure.quads.toList = front ++ .plain (.getRet (.temp temp)) :: back →
    procedure.temps.items[definitions front]? = some temp ∧
      (procedure.temps.size ≤ 2 ^ 32 → ∀ quad ∈ front, ∀ other, .temp other ∈ quad.instr.operands →
        other.id ≠ temp.id)

theorem Builder.Sees.enter {builder : Builder} {symbols : List Symbol} {texts : List String}
    (sees : builder.Sees symbols texts) (function : Function) :
    (builder.enter function).Sees (symbols ++ function.formals) texts := by
  have silent : (function.formals.map Mark.declare).flatMap Mark.texts = [] := by
    simp [List.flatMap_map, Mark.texts]
  have entered := (builder.enter_trace function (.nil _)).sees sees
  simpa [silent, List.flatMap_map, Mark.declared, Mark.texts] using entered

theorem Session.Runs.opened_sees {decls : List Decl} {session : Session} (runs : Runs .initial decls session)
    (name : String) : (session.openProcedure name).Sees (globals decls) (texts decls) := by
  refine ⟨?_, ?_⟩
  · exact runs.global_latest
  · have empty : Pooled Session.initial.program [] := ⟨rfl, by simp⟩
    exact (runs.pooled [] empty).counter

theorem Function.lower_convention (definition : Function) (session : Session) (builder : Builder)
    (lowered : definition.lower (session.openProcedure definition.symbol.name) = .ok () builder)
    {earlier : List Decl} (runs : Session.Runs .initial earlier session) :
    CallingConvention earlier definition builder.procedure := by
  constructor
  · obtain ⟨last, body, rfl⟩ := (Function.lower_ok ..).mp lowered
    have sees := (runs.opened_sees definition.symbol.name).enter definition
    have trace := Stmt.lower_all_trace definition.body _ last body
    obtain ⟨code, quads, bracketed⟩ := trace.calls (Stmt.marks_all_inside definition.body) sees
    rw [quads_enter] at quads bracketed
    rw [Stmt.sites_marks_all] at bracketed
    exact ⟨code, quads, bracketed⟩
  · intro front temp back split
    obtain ⟨disciplined, numbered⟩ := definition.lower_temps _ builder lowered .nil numbered_nil
    have closed := definition.lower_closed _ builder lowered (opened_closed session definition.symbol.name)
    have fresh := Disciplined.fresh disciplined closed.ordered numbered front back _ temp split rfl
    rw [Builder.temps, Array.getElem?_toList] at fresh
    exact fresh

theorem lowered_calling_convention (earlier later : List Decl) (definition : Function) (program : Program)
    (log : Array Event) (few : (functions (earlier ++ .function definition :: later)).length < 2 ^ 32 - 1)
    (accepted : lower (earlier ++ .function definition :: later) = (.ok program, log)) :
    ∃ procedure, program.procedures.items[(functions earlier).length + 1]? = some procedure ∧
      CallingConvention earlier definition procedure := by
  obtain ⟨session, runs, rfl⟩ := runs_of_accepted _ program log (by omega) accepted
  obtain ⟨middle, builder, first, lowered, _, found⟩ := runs.at_function
  refine ⟨builder.procedure, ?_, definition.lower_convention middle builder lowered first⟩
  rw [Session.procedures, Array.getElem?_toList] at found
  rw [Nat.add_comm]
  exact found

namespace Sample

def nested : Function := ⟨main, [value], [.localFormal step, .call halve [.apply halve [.ofSymbol step]]]⟩

end Sample

theorem nested_calling_convention :
    ∃ program log procedure, lower [.function Sample.nested] = (.ok program, log) ∧
      program.procedures.items[1]? = some procedure ∧ CallingConvention [] Sample.nested procedure := by
  obtain ⟨program, log, accepted⟩ := accepted_of_is_ok [.function Sample.nested] (by decide +kernel)
  obtain ⟨procedure, found, convention⟩ :=
    lowered_calling_convention [] [] Sample.nested program log (by decide) accepted
  exact ⟨program, log, procedure, accepted, found, convention⟩

end ThreeAddress
