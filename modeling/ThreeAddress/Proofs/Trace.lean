import ThreeAddress.Proofs.Inversion
import ThreeAddress.Proofs.Liveness

set_option autoImplicit false

/- Lowering as a run of single steps. The source alone decides which kind of step comes next,
   also where the work fails in the end, so what every step of a kind does is shown once and
   holds of all forms of expressions and statements. -/
namespace ThreeAddress

open Lower Relation

inductive Mark where
  | text (text : String)
  | use (symbol : Symbol)
  | check (violation? : Option Violation)
  | compute (action : Action)
  | call (callee : Symbol) (args : List Expr)
  | emit (action? : Option Action)
  | say (text : String) (type : DataType)
  | label
  | branch
  | land
  | declare (symbol : Symbol)
  | arrive

namespace Symbol

def uncallable? (callee : Symbol) : Option Violation :=
  if callee.type.result?.isSome then none else some (.notAFunction callee.name)

def valueless? (callee : Symbol) : Option Violation :=
  if callee.type.result? = some .void then some (.voidValue callee.name) else none

end Symbol

mutual

def Expr.marks : Expr → List Mark
  | .int .. | .bool .. => []
  | .string _ text => [.text text]
  | .eh _ => [.compute .magic]
  | .name _ symbol => [.use symbol]
  | .call _ callee args =>
      (.check callee.uncallable? :: (Expr.marksAll args ++ [.call callee args])) ++ [.check callee.valueless?]
  | .unary _ op operand => operand.marks ++ [.compute (.unary op)]
  | .binary _ op lhs rhs =>
      (if op.rightFirst then rhs.marks ++ lhs.marks else lhs.marks ++ rhs.marks) ++ [.compute (.binary op)]

def Expr.marksAll : List Expr → List Mark
  | [] => []
  | expr :: tail => expr.marks ++ Expr.marksAll tail

end

def Expr.literal? : Expr → Option String
  | .string _ text => some text
  | _ => none

mutual

def Stmt.marks : Stmt → List Mark
  | .localVariable symbol | .localFormal symbol => [.declare symbol]
  | .localFunction symbol _ _ => [.check (some (.functionAtLocalScope symbol.name))]
  | .assign dst src => dst.marks ++ (src.marks ++ [.emit none])
  | .maybe dst first second =>
      .label :: .label :: .compute .magic :: .branch :: (dst.marks ++ (first.marks ++
        .emit none :: .branch :: .land :: (second.marks ++ [.emit none, .land])))
  | .increment target => target.marks ++ [.compute (.binary .add), .emit none]
  | .decrement target => target.marks ++ [.compute (.binary .sub), .emit none]
  | .write value =>
      match value.literal? with
      | some text => [.say text value.type]
      | none => value.marks ++ [.emit (some (.write value.type))]
  | .read target => target.marks ++ [.emit (some (.read target.type))]
  | .ifThen cond body => cond.marks ++ .label :: .branch :: (Stmt.marksAll body ++ [.land])
  | .ifElse cond positive negative =>
      cond.marks ++ .label :: .label :: .branch :: (Stmt.marksAll positive ++
        .branch :: .land :: (Stmt.marksAll negative ++ [.land]))
  | .whileDo cond body =>
      .label :: .label :: .land :: (cond.marks ++ .branch :: (Stmt.marksAll body ++ [.branch, .land]))
  | .call callee args => .check callee.uncallable? :: (Expr.marksAll args ++ [.call callee args])
  | .ret none => [.emit (some .ret)]
  | .ret (some value) => value.marks ++ [.emit (some .setRet), .emit (some .ret)]

def Stmt.marksAll : List Stmt → List Mark
  | [] => []
  | stmt :: tail => stmt.marks ++ Stmt.marksAll tail

end

def Function.marks (function : Function) : List Mark :=
  function.formals.map .declare ++ .arrive :: Stmt.marksAll function.body

namespace Builder

def Has (builder : Builder) : Operand → Prop
  | .temp temp => temp ∈ builder.temps
  | .slot slot => ∃ id, builder.slot? id = some slot
  | .literal (.string id) width => width = 8 ∧ (builder.program.string? id).isSome = true
  | .literal (.int _) _ | .literal (.bool _) _ => True

theorem Has.kept {before after : Builder} {operand : Operand} (has : before.Has operand) (grows : Grows before after)
    (slots : ∀ id, after.slot? id = before.slot? id) : after.Has operand := by
  cases operand with
  | temp temp => exact grows.temps.subset has
  | slot slot =>
      obtain ⟨id, found⟩ := has
      exact ⟨id, (slots id).trans found⟩
  | literal value width =>
      cases value with
      | int | bool => trivial
      | string id => exact ⟨has.1, grows.strings id has.2⟩

theorem has_string (builder : Builder) (text : String) :
    (builder.addString text).Has (.literal (.string builder.nextString) DataType.string.width) := by
  refine ⟨rfl, ?_⟩
  change ((builder.program.strings.insert builder.nextString text).get? builder.nextString).isSome = true
  rw [HandleMap.get?_insert, if_pos rfl]
  rfl

structure Offers (builder : Builder) (operand : Operand) : Prop where
  has : builder.Has operand
  ready : Ready builder.quads operand

theorem Offers.straight {before after : Builder} {operand : Operand} (offers : before.Offers operand)
    (straight : Straight before after) : after.Offers operand :=
  ⟨offers.has.kept straight.toGrows straight.slots, offers.ready.straight straight⟩

theorem offers_int (builder : Builder) (value : Int64) (width : Nat) : builder.Offers (.literal (.int value) width) :=
  ⟨trivial, ready_literal _ _ _⟩

theorem offers_compute (builder : Builder) (width : Nat) (instr : Operand → Instr)
    (defines : ∀ dst, (instr dst).defines? = some dst) :
    (builder.compute width instr).Offers (.temp (builder.nextTemp width)) := by
  constructor
  · change _ ∈ (builder.compute width instr).temps
    rw [compute, temps_emit, temps_add_temp]
    exact List.mem_append_right _ (List.mem_singleton_self _)
  · intro temp same
    cases same
    rw [compute, quads_emit]
    exact live_defined _ _ _ (Instr.defines_straight _ _ (defines _)) (defines _)

inductive Step (builder : Builder) : Mark → Builder → Prop where
  | text (text : String) : Step builder (.text text) (builder.addString text)
  | use (symbol : Symbol) (bound : (builder.slot? symbol.id).isSome = true) : Step builder (.use symbol) builder
  | check : Step builder (.check none) builder
  | compute (width : Nat) (instr : Operand → Instr) (action : Action) (sources : List Operand)
      (computing : Instr.Computing instr action sources) (offered : ∀ operand ∈ sources, builder.Offers operand) :
      Step builder (.compute action) (builder.compute width instr)
  | run (start : Builder) (callee : Symbol) (args : List Expr) (operands : List Operand)
      (type : callee.type.result? = some .void) (lowered : Expr.lowerAll args start = .ok operands builder)
      (offered : ∀ operand ∈ operands, builder.Offers operand) :
      Step builder (.call callee args) (builder.invoke callee operands)
  | call (start : Builder) (callee : Symbol) (args : List Expr) (operands : List Operand) (result : DataType)
      (type : callee.type.result? = some result) (value : result ≠ .void)
      (lowered : Expr.lowerAll args start = .ok operands builder)
      (offered : ∀ operand ∈ operands, builder.Offers operand) :
      Step builder (.call callee args) ((builder.invoke callee operands).compute result.width .getRet)
  | emit (instr : Instr) (silent : instr.defines? = none) (apart : instr.transfers = false)
      (mute : instr.written? = none) (still : instr.jumpTarget? = none)
      (has : ∀ operand ∈ instr.operands, builder.Has operand)
      (ready : ∀ operand ∈ instr.reads, Ready builder.quads operand) :
      Step builder (.emit instr.action?) (builder.emit instr)
  | say (text : String) (type : DataType) :
      Step builder (.say text type)
        ((builder.addString text).emit (.write (.literal (.string builder.nextString) DataType.string.width) type))
  | label : Step builder .label builder.addLabel
  | test (cond : Operand) (label : Handle .label) (offered : builder.Offers cond) :
      Step builder .branch (builder.emit (.ifZero cond label))
  | jump (label : Handle .label) : Step builder .branch (builder.emit (.goto label))
  | land (label : Handle .label) : Step builder .land (builder.place label)
  | bindLocal (symbol : Symbol) : Step builder (.declare symbol) (builder.bindLocal symbol)
  | bindFormal (symbol : Symbol) : Step builder (.declare symbol) (builder.bindFormal symbol)
  | receive (formals : List Slot) (listed : ∀ formal ∈ formals, formal ∈ builder.procedure.formals) :
      Step builder .arrive (builder.receive 1 formals)

inductive Stops (builder : Builder) : Mark → Violation → Prop where
  | use (symbol : Symbol) (missing : builder.slot? symbol.id = none) :
      Stops builder (.use symbol) (.unboundIdentifier symbol.name)
  | check (violation : Violation) : Stops builder (.check (some violation)) violation

inductive Trace : Builder → List Mark → Builder → Prop where
  | nil (builder : Builder) : Trace builder [] builder
  | cons (before middle after : Builder) (mark : Mark) (marks : List Mark) (step : Step before mark middle)
      (rest : Trace middle marks after) : Trace before (mark :: marks) after

namespace Trace

variable {front back marks : List Mark} {before middle after : Builder}

theorem append (first : Trace before front middle) (second : Trace middle back after) :
    Trace before (front ++ back) after := by
  induction first with
  | nil builder => exact second
  | cons before next middle mark marks step rest ih => exact .cons before next after mark _ step (ih second)

theorem keeps {holds : Builder → Prop} (trace : Trace before marks after)
    (each : ∀ earlier mark later, Step earlier mark later → holds earlier → holds later) (start : holds before) :
    holds after := by
  induction trace with
  | nil builder => exact start
  | cons before middle after mark marks step rest ih => exact ih (each before mark middle step start)

-- What each step adds to a list that is read off the builder is added by the run, in order.
theorem view {α : Type} (list : Builder → List α) (added : Mark → List α) (trace : Trace before marks after)
    (each : ∀ earlier mark later, Step earlier mark later → list later = list earlier ++ added mark) :
    list after = list before ++ marks.flatMap added := by
  induction trace with
  | nil builder => exact (List.append_nil _).symm
  | cons before middle after mark marks step rest ih =>
      rw [ih, each before mark middle step, List.append_assoc, List.flatMap_cons]

end Trace

theorem pass_builds (builder : Builder) (position : Nat) (operands : List Operand) :
    ReflTransGen Builds builder (builder.pass position operands) := by
  induction operands generalizing builder position with
  | nil => exact .refl
  | cons operand tail ih => exact .head (.emit builder _) (ih _ (position + 1))

theorem receive_builds (builder : Builder) (position : Nat) (formals : List Slot) :
    ReflTransGen Builds builder (builder.receive position formals) := by
  induction formals generalizing builder position with
  | nil => exact .refl
  | cons formal tail ih => exact .head (.emit builder _) (ih _ (position + 1))

theorem invoke_builds (builder : Builder) (callee : Symbol) (operands : List Operand) :
    ReflTransGen Builds builder (builder.invoke callee operands) :=
  (builder.pass_builds 1 operands).tail (.emit _ _)

theorem Step.builds {mark : Mark} {before after : Builder} (step : Step before mark after) :
    ReflTransGen Builds before after := by
  cases step with
  | text text => exact .single (.string before text)
  | use symbol bound => exact .refl
  | check => exact .refl
  | compute width instr action sources computing offered => exact .head (.temp before width) (.single (.emit _ _))
  | run start callee args operands type lowered offered => exact before.invoke_builds callee operands
  | call start callee args operands result type value lowered offered =>
      exact (before.invoke_builds callee operands).trans (.head (.temp _ _) (.single (.emit _ _)))
  | emit instr silent apart mute still has ready => exact .single (.emit before instr)
  | say text type => exact .head (.string before text) (.single (.emit _ _))
  | label => exact .single (.label before)
  | test cond label offered => exact .single (.emit before _)
  | jump label => exact .single (.emit before _)
  | land label => exact .single (.place before label)
  | bindLocal symbol => exact .single (.bindLocal before symbol)
  | bindFormal symbol => exact .single (.bindFormal before symbol)
  | receive formals listed => exact before.receive_builds 1 formals

theorem Trace.builds {marks : List Mark} {before after : Builder} (trace : Trace before marks after) :
    ReflTransGen Builds before after := by
  induction trace with
  | nil builder => exact .refl
  | cons before middle after mark marks step rest ih => exact step.builds.trans ih

theorem Trace.builds_keep {holds : Builder → Prop} {marks : List Mark} {before after : Builder}
    (trace : Trace before marks after) (each : ∀ earlier later, Builds earlier later → holds earlier → holds later)
    (start : holds before) : holds after := by
  have steps := trace.builds
  clear trace
  induction steps with
  | refl => exact start
  | tail _ step ih => exact each _ _ step ih

theorem Trace.grows {marks : List Mark} {before after : Builder} (trace : Trace before marks after) :
    Grows before after := grows_of_builds trace.builds

end Builder

open Builder

def Mark.straight : Mark → Bool
  | .text _ | .use _ | .check _ | .compute _ | .call .. => true
  | _ => false

theorem Builder.Step.straight {mark : Mark} {before after : Builder} (step : Step before mark after)
    (straight : mark.straight = true) : Straight before after := by
  cases step with
  | text text => exact before.string_straight text
  | use symbol bound => exact .refl before
  | check => exact .refl before
  | compute width instr action sources computing offered => exact before.compute_straight width instr computing.computes
  | run start callee args operands type lowered offered => exact before.invoke_straight callee operands
  | call start callee args operands result type value lowered offered =>
      exact (before.invoke_straight callee operands).trans (compute_straight _ _ _ fun _ => rfl)
  | emit | say | label | test | jump | land | bindLocal | bindFormal | receive => cases straight

theorem Builder.Trace.straight {marks : List Mark} {before after : Builder} (trace : Trace before marks after)
    (straight : ∀ mark ∈ marks, mark.straight = true) : Straight before after := by
  induction trace with
  | nil builder => exact .refl builder
  | cons before middle after mark marks step rest ih =>
      obtain ⟨head, tail⟩ := List.forall_mem_cons.mp straight
      exact (step.straight head).trans (ih tail)

mutual

theorem Expr.marks_straight (expr : Expr) : ∀ mark ∈ expr.marks, mark.straight = true := by
  cases expr with
  | int | bool | string | eh | name => simp [Expr.marks, Mark.straight]
  | call type callee args =>
      have inside := Expr.marks_all_straight args
      simp only [Expr.marks, List.mem_append, List.mem_cons]
      grind [Mark.straight]
  | unary type op operand =>
      have inside := Expr.marks_straight operand
      simp only [Expr.marks, List.mem_append, List.mem_singleton]
      grind [Mark.straight]
  | binary type op lhs rhs =>
      have left := Expr.marks_straight lhs
      have right := Expr.marks_straight rhs
      rw [Expr.marks]
      split <;> simp only [List.mem_append, List.mem_singleton] <;> grind [Mark.straight]

theorem Expr.marks_all_straight (exprs : List Expr) : ∀ mark ∈ Expr.marksAll exprs, mark.straight = true := by
  cases exprs with
  | nil => simp [Expr.marksAll]
  | cons expr tail =>
      have head := Expr.marks_straight expr
      have rest := Expr.marks_all_straight tail
      simp only [Expr.marksAll, List.mem_append]
      grind

end

theorem Expr.marks_silent {α : Type} (view : Mark → List α) (silent : ∀ mark, mark.straight = true → view mark = [])
    (expr : Expr) : expr.marks.flatMap view = [] :=
  List.flatMap_eq_nil_iff.mpr fun mark member => silent mark (expr.marks_straight mark member)

theorem Expr.marks_all_silent {α : Type} (view : Mark → List α)
    (silent : ∀ mark, mark.straight = true → view mark = []) (exprs : List Expr) :
    (Expr.marksAll exprs).flatMap view = [] :=
  List.flatMap_eq_nil_iff.mpr fun mark member => silent mark (Expr.marks_all_straight exprs mark member)

namespace Lower

-- The work takes these steps; where it fails, it has come to the one that is not taken.
def Goes {α : Type} (marks : List Mark) (good : α → Builder → Prop) (before : Builder) :
    EStateM.Result Violation Builder α → Prop
  | .ok answer after => Trace before marks after ∧ good answer after
  | .error violation after => ∃ front stop back, marks = front ++ stop :: back ∧ Trace before front after ∧
      Stops after stop violation

namespace Goes

variable {α β : Type} {front back marks : List Mark} {good : α → Builder → Prop} {final : β → Builder → Prop}
  {before middle : Builder}

theorem pure (answer : α) (held : good answer before) : Goes [] good before (.ok answer before) :=
  ⟨.nil before, held⟩

theorem single {mark : Mark} {answer : α} (step : Step before mark middle) (held : good answer middle) :
    Goes [mark] good before (.ok answer middle) := ⟨.cons before middle middle mark [] step (.nil middle), held⟩

theorem stop {mark : Mark} {violation : Violation} (stops : Stops before mark violation) (marks : List Mark) :
    Goes (mark :: marks) good before (.error violation before) := ⟨[], mark, marks, rfl, .nil before, stops⟩

theorem bind {work : Lower α} {rest : α → Lower β} (first : Goes front good before (work before))
    (second : ∀ answer middle, work before = .ok answer middle → Trace before front middle → good answer middle →
      Goes back final middle (rest answer middle)) : Goes (front ++ back) final before ((work >>= rest) before) := by
  cases ran : work before with
  | error violation after =>
      rw [ran] at first
      rw [bind_of_error _ _ _ after violation ran]
      obtain ⟨passed, stop, left, rfl, trace, stops⟩ := first
      exact ⟨passed, stop, left ++ back, by rw [List.append_assoc]; rfl, trace, stops⟩
  | ok answer middle =>
      rw [ran] at first
      obtain ⟨start, held⟩ := first
      have rested := second answer middle ran start held
      rw [bind_of_ok _ _ _ middle answer ran]
      cases finished : rest answer middle with
      | ok value after =>
          rw [finished] at rested
          exact ⟨start.append rested.1, rested.2⟩
      | error violation after =>
          rw [finished] at rested
          obtain ⟨passed, stop, left, rfl, trace, stops⟩ := rested
          exact ⟨front ++ passed, stop, left, (List.append_assoc ..).symm, start.append trace, stops⟩

theorem cons {mark : Mark} {result : EStateM.Result Violation Builder β} (step : Step before mark middle)
    (second : Goes marks final middle result) : Goes (mark :: marks) final before result := by
  cases result with
  | ok answer after => exact ⟨.cons before middle after mark marks step second.1, second.2⟩
  | error violation after =>
      obtain ⟨passed, stop, left, rfl, trace, stops⟩ := second
      exact ⟨mark :: passed, stop, left, rfl, .cons before middle after mark passed step trace, stops⟩

theorem label {rest : Handle .label → Lower β}
    (second : Goes marks final before.addLabel (rest before.nextLabel before.addLabel)) :
    Goes (.label :: marks) final before ((freshLabel >>= rest) before) := by
  rw [bind_of_ok _ _ _ _ _ (fresh_label_run before)]
  exact .cons .label second

theorem finish {work : Lower α} {rest : α → Lower β} (first : Goes front good before (work before))
    (second : ∀ answer middle, Trace before front middle → good answer middle →
      Goes [] final middle (rest answer middle)) : Goes front final before ((work >>= rest) before) := by
  have joined := first.bind fun answer middle _ trace held => second answer middle trace held
  rwa [List.append_nil] at joined

end Goes

theorem compute_goes (before : Builder) (width : Nat) {instr : Operand → Instr} {action : Action}
    {sources : List Operand} (computing : Instr.Computing instr action sources)
    (offered : ∀ operand ∈ sources, before.Offers operand) :
    Goes [.compute action] (fun operand after => after.Offers operand) before
      ((freshTemp width >>= fun dst => emit (instr dst) >>= fun _ => pure dst) before) :=
  .single (.compute width instr action sources computing offered) (before.offers_compute width instr computing.defines)

theorem call_goes (callee : Symbol) (args : List Expr) (before : Builder)
    (evaluated : Goes (Expr.marksAll args) (fun operands after => ∀ operand ∈ operands, after.Offers operand) before
      (Expr.lowerAll args before)) :
    Goes (.check callee.uncallable? :: (Expr.marksAll args ++ [.call callee args]))
      (fun answer after => (answer = none ↔ callee.type.result? = some .void) ∧
        ∀ operand, answer = some operand → after.Offers operand) before
      (Lower.call callee (Expr.lowerAll args) before) := by
  unfold Lower.call
  cases typed : callee.type.result? with
  | none =>
      have wrong : callee.uncallable? = some (.notAFunction callee.name) := by simp [Symbol.uncallable?, typed]
      rw [wrong]
      exact .stop (.check _) _
  | some result =>
      have right : callee.uncallable? = none := by simp [Symbol.uncallable?, typed]
      rw [right]
      refine .cons .check (evaluated.bind fun operands middle lowered _ offered => ?_)
      rw [bind_of_ok _ _ _ _ _ (pass_run 1 operands middle)]
      by_cases void : result = .void
      · subst void
        exact .single (.run before callee args operands typed lowered offered) (by simp)
      · have kept : result.isVoid = false := by
          cases result <;> first | rfl | exact absurd rfl void
        have step : Step middle (.call callee args) _ :=
          .call before callee args operands result typed void lowered offered
        rw [kept]
        refine .single step ⟨by simp [void], ?_⟩
        intro operand same
        cases same
        exact offers_compute _ _ _ fun _ => rfl

end Lower

mutual

theorem Expr.lower_goes (expr : Expr) (before : Builder) :
    Goes expr.marks (fun operand after => after.Offers operand) before (expr.lower before) := by
  cases expr with
  | int type value =>
      rw [Expr.lower]
      exact .pure _ ⟨trivial, ready_literal _ _ _⟩
  | bool type value =>
      rw [Expr.lower]
      exact .pure _ ⟨trivial, ready_literal _ _ _⟩
  | string type text =>
      rw [Expr.lower, pool_string_run]
      exact .single (.text text) ⟨before.has_string text, ready_literal _ _ _⟩
  | eh type =>
      rw [Expr.lower]
      exact compute_goes before type.width Instr.computing_magic (by simp)
  | name type symbol =>
      rw [Expr.lower, storage_run, Expr.marks]
      cases found : before.slot? symbol.id with
      | none => exact .stop (.use symbol found) []
      | some slot => exact .single (.use symbol (by rw [found]; rfl)) ⟨⟨symbol.id, found⟩, ready_slot _ _⟩
  | call type callee args =>
      rw [Expr.lower, Expr.marks]
      refine (call_goes callee args before (Expr.lower_all_goes args before)).bind fun answer middle _ _ held => ?_
      cases answer with
      | none =>
          have void : callee.valueless? = some (.voidValue callee.name) := by simp [Symbol.valueless?, held.1.mp rfl]
          rw [void]
          exact .stop (.check _) []
      | some operand =>
          have value : callee.valueless? = none := by simpa [Symbol.valueless?] using held.1
          rw [value]
          exact .single .check (held.2 operand rfl)
  | unary type op operand =>
      rw [Expr.lower, Expr.marks]
      refine (Expr.lower_goes operand before).bind fun src middle _ _ offers => ?_
      exact compute_goes middle type.width (Instr.computing_unary op src) (by simpa using offers)
  | binary type op lhs rhs =>
      rw [Expr.lower, Expr.marks]
      -- The operand that is computed first is still on offer when the other one is.
      have both : Goes (if op.rightFirst then rhs.marks ++ lhs.marks else lhs.marks ++ rhs.marks)
          (fun pair after => after.Offers pair.1 ∧ after.Offers pair.2) before
          (operands op.rightFirst lhs.lower rhs.lower before) := by
        cases op.rightFirst with
        | true =>
            refine (Expr.lower_goes rhs before).bind fun right middle _ _ rightOffers => ?_
            refine (Expr.lower_goes lhs middle).finish fun left last trace leftOffers => ?_
            exact .pure _ ⟨leftOffers, rightOffers.straight (trace.straight lhs.marks_straight)⟩
        | false =>
            refine (Expr.lower_goes lhs before).bind fun left middle _ _ leftOffers => ?_
            refine (Expr.lower_goes rhs middle).finish fun right last trace rightOffers => ?_
            exact .pure _ ⟨leftOffers.straight (trace.straight rhs.marks_straight), rightOffers⟩
      refine both.bind fun pair middle _ _ offers => ?_
      exact compute_goes middle type.width (Instr.computing_binary op pair.1 pair.2) (by simpa using offers)

theorem Expr.lower_all_goes (exprs : List Expr) (before : Builder) :
    Goes (Expr.marksAll exprs) (fun operands after => ∀ operand ∈ operands, after.Offers operand) before
      (Expr.lowerAll exprs before) := by
  cases exprs with
  | nil =>
      rw [Expr.lowerAll]
      exact .pure [] (by simp)
  | cons expr tail =>
      rw [Expr.lowerAll, Expr.marksAll]
      refine (Expr.lower_goes expr before).bind fun operand middle _ _ offers => ?_
      refine (Expr.lower_all_goes tail middle).finish fun rest last trace others => ?_
      refine .pure _ (List.forall_mem_cons.mpr ⟨?_, others⟩)
      exact offers.straight (trace.straight (Expr.marks_all_straight tail))

end

theorem Expr.lower_step_goes (target : Expr) (op : BinaryOp) (before : Builder) :
    Goes (target.marks ++ [.compute (.binary op), .emit none]) (fun _ _ => True) before
      (target.lowerStep op before) := by
  refine (target.lower_goes before).bind fun operand middle _ _ offers => ?_
  have computing := Instr.computing_binary op operand (.literal (.int 1) DataType.int.width)
  have kept := offers.straight (middle.compute_straight target.type.width _ computing.computes)
  have sum := offers_compute middle target.type.width _ computing.defines
  refine .cons (.compute target.type.width _ _ _ computing ?_) (.single (.emit
    (.assign operand (.temp (middle.nextTemp target.type.width))) rfl rfl rfl rfl ?_ ?_) trivial)
  · simpa using ⟨offers, middle.offers_int _ _⟩
  · simpa [Instr.operands] using ⟨kept.has, sum.has⟩
  · simpa [Instr.reads] using sum.ready

theorem Expr.eq_string_of_literal (value : Expr) (text : String) (literal : value.literal? = some text) :
    value = .string value.type text := by
  cases value with
  | string type other =>
      cases literal
      rfl
  | int | bool | eh | name | call | unary | binary => cases literal

theorem Expr.lower_mute (value : Expr) (before after : Builder) (source : Operand)
    (lowered : value.lower before = .ok source after) (other : value.literal? = none) (type : DataType) :
    (Instr.write source type).written? = none := by
  cases value with
  | int =>
      obtain ⟨rfl, _⟩ := (Expr.lower_int ..).mp lowered
      rfl
  | bool =>
      obtain ⟨rfl, _⟩ := (Expr.lower_bool ..).mp lowered
      rfl
  | string => cases other
  | eh =>
      obtain ⟨rfl, _⟩ := (Expr.lower_eh ..).mp lowered
      rfl
  | name =>
      obtain ⟨slot, _, rfl, _⟩ := (Expr.lower_name ..).mp lowered
      rfl
  | call =>
      obtain ⟨result, operands, middle, _, _, _, rfl, _⟩ := (Expr.lower_call ..).mp lowered
      rfl
  | unary =>
      obtain ⟨src, middle, _, rfl, _⟩ := (Expr.lower_unary ..).mp lowered
      rfl
  | binary =>
      obtain ⟨pair, middle, _, rfl, _⟩ := (Expr.lower_binary ..).mp lowered
      rfl

theorem Stmt.write_goes (value : Expr) (before : Builder) :
    Goes (Stmt.write value).marks (fun _ _ => True) before ((Stmt.write value).lower before) := by
  rw [Stmt.lower, Stmt.marks]
  cases literal : value.literal? with
  | some text =>
      rw [value.eq_string_of_literal text literal, Expr.lower, bind_of_ok _ _ _ _ _ (pool_string_run text before)]
      exact .single (.say text value.type) trivial
  | none =>
      refine (value.lower_goes before).bind fun source middle lowered _ offers => ?_
      have mute := value.lower_mute before middle source lowered literal value.type
      exact .single (.emit (.write source value.type) rfl rfl mute rfl (by simpa [Instr.operands] using offers.has)
        (by simpa [Instr.reads] using offers.ready)) trivial

mutual

theorem Stmt.lower_goes (stmt : Stmt) (before : Builder) :
    Goes stmt.marks (fun _ _ => True) before (stmt.lower before) := by
  cases stmt with
  | localVariable symbol =>
      rw [Stmt.lower]
      exact .single (.bindLocal symbol) trivial
  | localFormal symbol =>
      rw [Stmt.lower]
      exact .single (.bindFormal symbol) trivial
  | localFunction symbol formals body =>
      rw [Stmt.lower]
      exact .stop (.check _) []
  | assign dst src =>
      rw [Stmt.lower, Stmt.marks]
      refine (dst.lower_goes before).bind fun target middle _ _ placed => ?_
      refine (src.lower_goes middle).bind fun source last _ trace offers => ?_
      have kept := placed.straight (trace.straight src.marks_straight)
      exact .single (.emit (.assign target source) rfl rfl rfl rfl
        (by simpa [Instr.operands] using ⟨kept.has, offers.has⟩) (by simpa [Instr.reads] using offers.ready)) trivial
  | maybe dst first second =>
      rw [Stmt.lower, Stmt.marks]
      refine .label (.label (.cons
        (.compute DataType.bool.width .magic .magic [] Instr.computing_magic (by simp)) ?_))
      refine .cons (.test _ before.nextLabel (offers_compute before.addLabel.addLabel _ _ fun _ => rfl)) ?_
      refine Goes.bind (dst.lower_goes _) fun target opened _ _ placed => ?_
      refine (first.lower_goes opened).bind fun source chosen _ trace offers => ?_
      have kept := placed.straight (trace.straight first.marks_straight)
      refine .cons (.emit (.assign target source) rfl rfl rfl rfl
        (by simpa [Instr.operands] using ⟨kept.has, offers.has⟩) (by simpa [Instr.reads] using offers.ready)) ?_
      refine .cons (.jump before.addLabel.nextLabel) (.cons (.land before.nextLabel) ?_)
      refine Goes.bind (second.lower_goes _) fun other last _ trace offers => ?_
      -- The destination was lowered before the branch and is used again after it.
      have crossed : Has (((chosen.emit (.assign target source)).emit (.goto before.addLabel.nextLabel)).place
          before.nextLabel) target :=
        kept.has.kept (((chosen.emit_grows _).trans (emit_grows _ _)).trans (place_grows _ _)) fun _ => rfl
      have straight := trace.straight second.marks_straight
      have again := crossed.kept straight.toGrows straight.slots
      exact .cons (.emit (.assign target other) rfl rfl rfl rfl (by simpa [Instr.operands] using ⟨again, offers.has⟩)
        (by simpa [Instr.reads] using offers.ready)) (.single (.land _) trivial)
  | increment target =>
      rw [Stmt.lower]
      exact target.lower_step_goes .add before
  | decrement target =>
      rw [Stmt.lower]
      exact target.lower_step_goes .sub before
  | write value => exact Stmt.write_goes value before
  | read target =>
      rw [Stmt.lower, Stmt.marks]
      refine (target.lower_goes before).bind fun place middle _ _ offers => ?_
      exact .single (.emit (.read place target.type) rfl rfl rfl rfl (by simpa [Instr.operands] using offers.has)
        (by simp [Instr.reads])) trivial
  | ifThen cond body =>
      rw [Stmt.lower, Stmt.marks]
      refine (cond.lower_goes before).bind fun test middle _ _ offers => ?_
      have kept : middle.addLabel.Offers test := ⟨offers.has.kept middle.label_grows fun _ => rfl, offers.ready⟩
      refine .label (.cons (.test test middle.nextLabel kept) ?_)
      exact Goes.bind (Stmt.lower_all_goes body _) fun _ last _ _ _ => .single (.land _) trivial
  | ifElse cond positive negative =>
      rw [Stmt.lower, Stmt.marks]
      refine (cond.lower_goes before).bind fun test middle _ _ offers => ?_
      have kept : middle.addLabel.addLabel.Offers test :=
        ⟨offers.has.kept (middle.label_grows.trans (label_grows _)) fun _ => rfl, offers.ready⟩
      refine .label (.label (.cons (.test test middle.nextLabel kept) ?_))
      refine Goes.bind (Stmt.lower_all_goes positive _) fun _ turned _ _ _ => ?_
      refine .cons (.jump middle.addLabel.nextLabel) (.cons (.land middle.nextLabel) ?_)
      exact Goes.bind (Stmt.lower_all_goes negative _) fun _ last _ _ _ => .single (.land _) trivial
  | whileDo cond body =>
      rw [Stmt.lower, Stmt.marks]
      refine .label (.label (.cons (.land before.nextLabel) ?_))
      refine Goes.bind (cond.lower_goes _) fun test middle _ _ offers => ?_
      refine .cons (.test test before.addLabel.nextLabel offers) ?_
      refine Goes.bind (Stmt.lower_all_goes body _) fun _ last _ _ _ => ?_
      exact .cons (.jump before.nextLabel) (.single (.land _) trivial)
  | call callee args =>
      rw [Stmt.lower]
      exact (call_goes callee args before (Expr.lower_all_goes args before)).finish fun _ _ _ _ => .pure _ trivial
  | ret value =>
      cases value with
      | none =>
          rw [Stmt.lower]
          exact .single (.emit .ret rfl rfl rfl rfl (by simp [Instr.operands]) (by simp [Instr.reads])) trivial
      | some value =>
          rw [Stmt.lower, Stmt.marks]
          refine (value.lower_goes before).bind fun source middle _ _ offers => ?_
          refine .cons (.emit (.setRet source) rfl rfl rfl rfl (by simpa [Instr.operands] using offers.has)
            (by simpa [Instr.reads] using offers.ready)) ?_
          exact .single (.emit .ret rfl rfl rfl rfl (by simp [Instr.operands]) (by simp [Instr.reads])) trivial

theorem Stmt.lower_all_goes (stmts : List Stmt) (before : Builder) :
    Goes (Stmt.marksAll stmts) (fun _ _ => True) before (Stmt.lowerAll stmts before) := by
  cases stmts with
  | nil =>
      rw [Stmt.lowerAll]
      exact .pure () trivial
  | cons stmt tail =>
      rw [Stmt.lowerAll, Stmt.marksAll]
      exact (Stmt.lower_goes stmt before).bind fun _ middle _ _ _ => Stmt.lower_all_goes tail middle

end

namespace Lower

def reached {α : Type} : EStateM.Result Violation Builder α → Builder
  | .ok _ builder | .error _ builder => builder

end Lower

theorem Expr.lower_trace (expr : Expr) (before after : Builder) (operand : Operand)
    (lowered : expr.lower before = .ok operand after) : Trace before expr.marks after ∧ after.Offers operand := by
  have goes := expr.lower_goes before
  rwa [lowered] at goes

theorem Expr.lower_all_trace (exprs : List Expr) (before after : Builder) (operands : List Operand)
    (lowered : Expr.lowerAll exprs before = .ok operands after) :
    Trace before (Expr.marksAll exprs) after ∧ ∀ operand ∈ operands, after.Offers operand := by
  have goes := Expr.lower_all_goes exprs before
  rwa [lowered] at goes

theorem Stmt.lower_trace (stmt : Stmt) (before after : Builder) (lowered : stmt.lower before = .ok () after) :
    Trace before stmt.marks after := by
  have goes := stmt.lower_goes before
  rw [lowered] at goes
  exact goes.1

theorem Stmt.lower_all_trace (stmts : List Stmt) (before after : Builder)
    (lowered : Stmt.lowerAll stmts before = .ok () after) : Trace before (Stmt.marksAll stmts) after := by
  have goes := Stmt.lower_all_goes stmts before
  rw [lowered] at goes
  exact goes.1

theorem Expr.lower_straight (expr : Expr) (before after : Builder) (operand : Operand)
    (lowered : expr.lower before = .ok operand after) : Straight before after :=
  (expr.lower_trace before after operand lowered).1.straight expr.marks_straight

theorem Expr.lower_all_straight (exprs : List Expr) (before after : Builder) (operands : List Operand)
    (lowered : Expr.lowerAll exprs before = .ok operands after) : Straight before after :=
  (Expr.lower_all_trace exprs before after operands lowered).1.straight (Expr.marks_all_straight exprs)

theorem Stmt.lower_all_grows (stmts : List Stmt) (before after : Builder)
    (lowered : Stmt.lowerAll stmts before = .ok () after) : Grows before after :=
  (Stmt.lower_all_trace stmts before after lowered).grows

end ThreeAddress
