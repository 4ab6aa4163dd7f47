import ThreeAddress.Proofs.Renaming
import ThreeAddress.Proofs.Trace

set_option autoImplicit false

/- Two lowerings side by side. What a body is lowered to is decided by the single steps, so
   where the steps of two lowerings correspond the lowerings do, for every form of body. -/
namespace ThreeAddress

open Lower

structure Steps (ε σ : Type) where
  emit : Instr → EStateM ε σ Unit
  place : Handle .label → EStateM ε σ Unit
  freshTemp : Nat → EStateM ε σ Operand
  freshLabel : EStateM ε σ (Handle .label)
  poolString : String → EStateM ε σ Operand
  storage : Symbol → EStateM ε σ Operand
  bindLocal : Symbol → EStateM ε σ Unit
  bindFormal : Symbol → EStateM ε σ Unit
  pass : List Operand → EStateM ε σ Unit
  fail : Violation → ε

namespace Steps

variable {ε σ : Type}

def inOrder (rightFirst : Bool) (left right : EStateM ε σ Operand) : EStateM ε σ (Operand × Operand) := do
  if rightFirst then
    let right ← right
    let left ← left
    return (left, right)
  else
    let left ← left
    let right ← right
    return (left, right)

def call (steps : Steps ε σ) (callee : Symbol) (args : EStateM ε σ (List Operand)) :
    EStateM ε σ (Option Operand) := do
  match callee.type.result? with
  | none => throw (steps.fail (.notAFunction callee.name))
  | some result =>
      steps.pass (← args)
      steps.emit (.call callee.id callee.name)
      if result.isVoid then
        return none
      else
        let dst ← steps.freshTemp result.width
        steps.emit (.getRet dst)
        return some dst

def builder : Steps Violation Builder where
  emit := Lower.emit
  place := Lower.place
  freshTemp := Lower.freshTemp
  freshLabel := Lower.freshLabel
  poolString := Lower.poolString
  storage := Lower.storage
  bindLocal symbol := onProcedure fun procedure => procedure.bindLocal symbol
  bindFormal symbol := onProcedure fun procedure => procedure.bindFormal symbol
  pass := Lower.pass 1
  fail violation := violation

end Steps

section Generic

variable {ε σ : Type} (steps : Steps ε σ)

mutual

def Expr.lowerIn : Expr → EStateM ε σ Operand
  | .int type value => return .literal (.int value) type.width
  | .bool type value => return .literal (.bool value) type.width
  | .string _ text => steps.poolString text
  | .eh type => do
      let dst ← steps.freshTemp type.width
      steps.emit (.magic dst)
      return dst
  | .name _ symbol => steps.storage symbol
  | .call _ callee args => do
      match ← steps.call callee (Expr.lowerAllIn args) with
      | some operand => return operand
      | none => throw (steps.fail (.voidValue callee.name))
  | .unary type op operand => do
      let src ← operand.lowerIn
      let dst ← steps.freshTemp type.width
      steps.emit (.unary op dst src)
      return dst
  | .binary type op lhs rhs => do
      let (left, right) ← Steps.inOrder op.rightFirst lhs.lowerIn rhs.lowerIn
      let dst ← steps.freshTemp type.width
      steps.emit (.binary op dst left right)
      return dst

def Expr.lowerAllIn : List Expr → EStateM ε σ (List Operand)
  | [] => return []
  | expr :: tail => do
      let operand ← expr.lowerIn
      let rest ← Expr.lowerAllIn tail
      return operand :: rest

end

def Expr.lowerStepIn (target : Expr) (op : BinaryOp) : EStateM ε σ Unit := do
  let operand ← target.lowerIn steps
  let temp ← steps.freshTemp target.type.width
  steps.emit (.binary op temp operand (.literal (.int 1) DataType.int.width))
  steps.emit (.assign operand temp)

mutual

def Stmt.lowerIn : Stmt → EStateM ε σ Unit
  | .localVariable symbol => steps.bindLocal symbol
  | .localFormal symbol => steps.bindFormal symbol
  | .localFunction symbol _ _ => throw (steps.fail (.functionAtLocalScope symbol.name))
  | .assign dst src => do
      let dst ← dst.lowerIn steps
      let src ← src.lowerIn steps
      steps.emit (.assign dst src)
  | .maybe dst first second => do
      let otherwise ← steps.freshLabel
      let done ← steps.freshLabel
      let choice ← steps.freshTemp DataType.bool.width
      steps.emit (.magic choice)
      steps.emit (.ifZero choice otherwise)
      let dst ← dst.lowerIn steps
      let src ← first.lowerIn steps
      steps.emit (.assign dst src)
      steps.emit (.goto done)
      steps.place otherwise
      let src ← second.lowerIn steps
      steps.emit (.assign dst src)
      steps.place done
  | .increment target => target.lowerStepIn steps .add
  | .decrement target => target.lowerStepIn steps .sub
  | .write value => do
      let src ← value.lowerIn steps
      steps.emit (.write src value.type)
  | .read target => do
      let dst ← target.lowerIn steps
      steps.emit (.read dst target.type)
  | .ifThen cond body => do
      let cond ← cond.lowerIn steps
      let done ← steps.freshLabel
      steps.emit (.ifZero cond done)
      Stmt.lowerAllIn body
      steps.place done
  | .ifElse cond positive negative => do
      let cond ← cond.lowerIn steps
      let otherwise ← steps.freshLabel
      let done ← steps.freshLabel
      steps.emit (.ifZero cond otherwise)
      Stmt.lowerAllIn positive
      steps.emit (.goto done)
      steps.place otherwise
      Stmt.lowerAllIn negative
      steps.place done
  | .whileDo cond body => do
      let head ← steps.freshLabel
      let done ← steps.freshLabel
      steps.place head
      let cond ← cond.lowerIn steps
      steps.emit (.ifZero cond done)
      Stmt.lowerAllIn body
      steps.emit (.goto head)
      steps.place done
  | .call callee args => do
      let _ ← steps.call callee (Expr.lowerAllIn steps args)
  | .ret none => steps.emit .ret
  | .ret (some value) => do
      let src ← value.lowerIn steps
      steps.emit (.setRet src)
      steps.emit .ret

def Stmt.lowerAllIn : List Stmt → EStateM ε σ Unit
  | [] => return
  | stmt :: tail => do
      stmt.lowerIn
      Stmt.lowerAllIn tail

end

end Generic

section Builders

mutual

theorem Expr.lower_in_builder (expr : Expr) : expr.lowerIn .builder = expr.lower := by
  cases expr with
  | int | bool | string | eh | name => rw [Expr.lowerIn, Expr.lower] <;> rfl
  | call type callee args =>
      rw [Expr.lowerIn, Expr.lower, Expr.lower_all_in_builder args]
      rfl
  | unary type op operand =>
      rw [Expr.lowerIn, Expr.lower, Expr.lower_in_builder operand]
      rfl
  | binary type op lhs rhs =>
      rw [Expr.lowerIn, Expr.lower, Expr.lower_in_builder lhs, Expr.lower_in_builder rhs]
      rfl

theorem Expr.lower_all_in_builder (exprs : List Expr) : Expr.lowerAllIn .builder exprs = Expr.lowerAll exprs := by
  cases exprs with
  | nil => rw [Expr.lowerAllIn, Expr.lowerAll]
  | cons expr tail =>
      rw [Expr.lowerAllIn, Expr.lowerAll, Expr.lower_in_builder expr, Expr.lower_all_in_builder tail]

end

mutual

theorem Stmt.lower_in_builder (stmt : Stmt) : stmt.lowerIn .builder = stmt.lower := by
  cases stmt with
  | increment target | decrement target =>
      rw [Stmt.lowerIn, Stmt.lower, Expr.lowerStepIn, Expr.lowerStep, Expr.lower_in_builder target]
      rfl
  | call callee args =>
      rw [Stmt.lowerIn, Stmt.lower, Expr.lower_all_in_builder args]
      rfl
  | ret value =>
      cases value with
      | none => rw [Stmt.lowerIn, Stmt.lower]; rfl
      | some value => rw [Stmt.lowerIn, Stmt.lower, Expr.lower_in_builder value]; rfl
  | _ =>
      simp only [Stmt.lowerIn, Stmt.lower, Expr.lower_in_builder, Stmt.lower_all_in_builder]
      rfl

theorem Stmt.lower_all_in_builder (stmts : List Stmt) : Stmt.lowerAllIn .builder stmts = Stmt.lowerAll stmts := by
  cases stmts with
  | nil => rw [Stmt.lowerAllIn, Stmt.lowerAll]
  | cons stmt tail =>
      rw [Stmt.lowerAllIn, Stmt.lowerAll, Stmt.lower_in_builder stmt, Stmt.lower_all_in_builder tail]

end

end Builders

-- A second lowering beside that in a builder, with what its steps make of instructions and
-- names, and the steps of the source for which the two are known to agree.
structure Bridge (ε σ : Type) where
  steps : Steps ε σ
  into : Translation
  Fits : Mark → Prop
  Related : Builder → σ → Prop

namespace Bridge

variable {ε σ : Type} (bridge : Bridge ε σ)

def Matches {α β : Type} (image : α → β) : EStateM.Result Violation Builder α → EStateM.Result ε σ β → Prop
  | .ok answer left, .ok other right => other = image answer ∧ bridge.Related left right
  | .error violation left, .error other right =>
      other = bridge.steps.fail (violation.rename bridge.into.toRenaming) ∧ bridge.Related left right
  | _, _ => False

def Carries {α β : Type} (image : α → β) (work : Lower α) (other : EStateM ε σ β) : Prop :=
  ∀ left right, bridge.Related left right → bridge.Matches image (work left) (other right)

structure Sound : Prop where
  int : ∀ value width, bridge.into.operand (.literal (.int value) width) = .literal (.int value) width
  bool : ∀ value width, bridge.into.operand (.literal (.bool value) width) = .literal (.bool value) width
  text : ∀ text, bridge.Fits (.text text)
  emit : ∀ instr, bridge.Carries id (Lower.emit instr) (bridge.steps.emit (instr.translate bridge.into))
  place : ∀ label, bridge.Carries id (Lower.place label) (bridge.steps.place (bridge.into.label label))
  freshTemp : ∀ width, bridge.Carries bridge.into.operand (Lower.freshTemp width) (bridge.steps.freshTemp width)
  freshLabel : bridge.Carries bridge.into.label Lower.freshLabel bridge.steps.freshLabel
  poolString : ∀ text, bridge.Carries bridge.into.operand (Lower.poolString text) (bridge.steps.poolString text)
  storage : ∀ symbol, bridge.Fits (.use symbol) → bridge.Carries bridge.into.operand (Lower.storage symbol)
    (bridge.steps.storage (symbol.rename bridge.into.toRenaming))
  bindLocal : ∀ symbol, bridge.Fits (.declare symbol) → bridge.Carries id
    (onProcedure fun procedure => procedure.bindLocal symbol)
    (bridge.steps.bindLocal (symbol.rename bridge.into.toRenaming))
  bindFormal : ∀ symbol, bridge.Fits (.declare symbol) → bridge.Carries id
    (onProcedure fun procedure => procedure.bindFormal symbol)
    (bridge.steps.bindFormal (symbol.rename bridge.into.toRenaming))
  pass : ∀ callee args operands, bridge.Fits (.call callee args) → operands.length = args.length →
    bridge.Carries id (Lower.pass 1 operands) (bridge.steps.pass (operands.map bridge.into.operand))

variable {bridge} {α β γ δ : Type}

theorem Matches.cases {image : α → β} {result : EStateM.Result Violation Builder α} {other : EStateM.Result ε σ β}
    (matched : bridge.Matches image result other) :
    (∃ answer left right, result = .ok answer left ∧ other = .ok (image answer) right ∧ bridge.Related left right) ∨
      ∃ violation left right, result = .error violation left ∧
        other = .error (bridge.steps.fail (violation.rename bridge.into.toRenaming)) right ∧
        bridge.Related left right := by
  cases result with
  | ok answer left =>
      cases other with
      | ok copy right =>
          obtain ⟨rfl, related⟩ := matched
          exact .inl ⟨answer, left, right, rfl, rfl, related⟩
      | error violation right => cases matched
  | error violation left =>
      cases other with
      | ok copy right => cases matched
      | error copy right =>
          obtain ⟨rfl, related⟩ := matched
          exact .inr ⟨violation, left, right, rfl, rfl, related⟩

theorem carries_ok (image : α → β) (work : Lower α) (other : EStateM ε σ β)
    (ran : ∀ left right, bridge.Related left right → ∃ answer after copy, work left = .ok answer after ∧
      other right = .ok (image answer) copy ∧ bridge.Related after copy) : bridge.Carries image work other := by
  intro left right related
  obtain ⟨answer, after, copy, first, second, kept⟩ := ran left right related
  rw [first, second]
  exact ⟨rfl, kept⟩

theorem carries_pure (image : α → β) (answer : α) :
    bridge.Carries image (pure answer : Lower α) (pure (image answer)) :=
  fun _ _ related => ⟨rfl, related⟩

theorem carries_throw (image : α → β) (violation : Violation) :
    bridge.Carries image (throw violation : Lower α)
      (throw (bridge.steps.fail (violation.rename bridge.into.toRenaming))) :=
  fun _ _ related => ⟨rfl, related⟩

theorem carries_bind {image : α → β} {final : γ → δ} {work : Lower α} {other : EStateM ε σ β}
    {rest : α → Lower γ} {others : β → EStateM ε σ δ} (first : bridge.Carries image work other)
    (second : ∀ answer, (∃ before after, work before = .ok answer after) →
      bridge.Carries final (rest answer) (others (image answer))) :
    bridge.Carries final (work >>= rest) (other >>= others) := by
  intro left right related
  rcases (first left right related).cases with
    ⟨answer, middle, copy, ran, matched, kept⟩ | ⟨violation, middle, copy, ran, matched, kept⟩
  · rw [bind_of_ok _ _ _ _ _ ran, bind_of_ok _ _ _ _ _ matched]
    exact second answer ⟨left, middle, ran⟩ middle copy kept
  · rw [bind_of_error _ _ _ _ _ ran, bind_of_error _ _ _ _ _ matched]
    exact ⟨rfl, kept⟩

theorem in_order_carries {image : Operand → Operand} (rightFirst : Bool) (left right : Lower Operand)
    (leftCopy rightCopy : EStateM ε σ Operand) (first : bridge.Carries image left leftCopy)
    (second : bridge.Carries image right rightCopy) :
    bridge.Carries (Prod.map image image) (operands rightFirst left right)
      (Steps.inOrder rightFirst leftCopy rightCopy) := by
  cases rightFirst with
  | true => exact carries_bind second fun _ _ => carries_bind first fun _ _ => carries_pure (Prod.map _ _) (_, _)
  | false => exact carries_bind first fun _ _ => carries_bind second fun _ _ => carries_pure (Prod.map _ _) (_, _)

theorem Sound.call (sound : bridge.Sound) (callee : Symbol) (args : List Expr)
    (argsCopy : EStateM ε σ (List Operand)) (fits : bridge.Fits (.call callee args))
    (evaluated : bridge.Carries (List.map bridge.into.operand) (Expr.lowerAll args) argsCopy) :
    bridge.Carries (Option.map bridge.into.operand) (Lower.call callee (Expr.lowerAll args))
      (bridge.steps.call (callee.rename bridge.into.toRenaming) argsCopy) := by
  unfold Lower.call Steps.call
  rw [Symbol.type_rename]
  cases callee.type.result? with
  | none => exact carries_throw _ (.notAFunction callee.name)
  | some result =>
      refine carries_bind evaluated fun operands ran => ?_
      obtain ⟨before, after, ran⟩ := ran
      have length := Expr.lower_all_length args before after operands ran
      refine carries_bind (sound.pass callee args operands fits length) fun _ _ => ?_
      refine carries_bind (sound.emit (.call callee.id callee.name)) fun _ _ => ?_
      cases result.isVoid with
      | true => exact carries_pure (Option.map _) none
      | false =>
          exact carries_bind (sound.freshTemp result.width) fun dst _ =>
            carries_bind (sound.emit (.getRet dst)) fun _ _ => carries_pure (Option.map _) (some dst)

end Bridge

open Bridge

section Walk

variable {ε σ : Type} {bridge : Bridge ε σ}

mutual

theorem Expr.lower_carries (sound : bridge.Sound) (expr : Expr) (fits : ∀ mark ∈ expr.marks, bridge.Fits mark) :
    bridge.Carries bridge.into.operand expr.lower
      ((expr.rename bridge.into.toRenaming).lowerIn bridge.steps) := by
  cases expr with
  | int type value =>
      rw [Expr.rename, Expr.lower, Expr.lowerIn]
      exact fun _ _ related => ⟨(sound.int value type.width).symm, related⟩
  | bool type value =>
      rw [Expr.rename, Expr.lower, Expr.lowerIn]
      exact fun _ _ related => ⟨(sound.bool value type.width).symm, related⟩
  | string type text =>
      rw [Expr.rename, Expr.lower, Expr.lowerIn]
      exact sound.poolString text
  | eh type =>
      rw [Expr.rename, Expr.lower, Expr.lowerIn]
      exact carries_bind (sound.freshTemp type.width) fun dst _ =>
        carries_bind (sound.emit (.magic dst)) fun _ _ => carries_pure _ dst
  | name type symbol =>
      rw [Expr.rename, Expr.lower, Expr.lowerIn]
      exact sound.storage symbol (fits _ List.mem_cons_self)
  | call type callee args =>
      simp only [Expr.marks, List.forall_mem_append, List.forall_mem_cons] at fits
      rw [Expr.rename, Expr.lower, Expr.lowerIn]
      refine carries_bind (sound.call callee args _ fits.1.2.2.1 (Expr.lower_all_carries sound args fits.1.2.1))
        fun answer _ => ?_
      cases answer with
      | none => exact carries_throw _ (.voidValue callee.name)
      | some operand => exact carries_pure _ operand
  | unary type op operand =>
      simp only [Expr.marks, List.forall_mem_append] at fits
      rw [Expr.rename, Expr.lower, Expr.lowerIn]
      refine carries_bind (Expr.lower_carries sound operand fits.1) fun src _ => ?_
      exact carries_bind (sound.freshTemp type.width) fun dst _ =>
        carries_bind (sound.emit (.unary op dst src)) fun _ _ => carries_pure _ dst
  | binary type op lhs rhs =>
      have sides : (∀ mark ∈ lhs.marks, bridge.Fits mark) ∧ ∀ mark ∈ rhs.marks, bridge.Fits mark := by
        rw [Expr.marks, List.forall_mem_append] at fits
        have both := fits.1
        split at both
        · exact (List.forall_mem_append.mp both).symm
        · exact List.forall_mem_append.mp both
      rw [Expr.rename, Expr.lower, Expr.lowerIn]
      refine carries_bind (in_order_carries op.rightFirst _ _ _ _ (Expr.lower_carries sound lhs sides.1)
        (Expr.lower_carries sound rhs sides.2)) fun pair _ => ?_
      exact carries_bind (sound.freshTemp type.width) fun dst _ =>
        carries_bind (sound.emit (.binary op dst pair.1 pair.2)) fun _ _ => carries_pure _ dst

theorem Expr.lower_all_carries (sound : bridge.Sound) (exprs : List Expr)
    (fits : ∀ mark ∈ Expr.marksAll exprs, bridge.Fits mark) :
    bridge.Carries (List.map bridge.into.operand) (Expr.lowerAll exprs)
      (Expr.lowerAllIn bridge.steps (Expr.renameAll bridge.into.toRenaming exprs)) := by
  cases exprs with
  | nil =>
      rw [Expr.renameAll, Expr.lowerAll, Expr.lowerAllIn]
      exact carries_pure (List.map _) []
  | cons expr tail =>
      rw [Expr.marksAll, List.forall_mem_append] at fits
      rw [Expr.renameAll, Expr.lowerAll, Expr.lowerAllIn]
      exact carries_bind (Expr.lower_carries sound expr fits.1) fun operand _ =>
        carries_bind (Expr.lower_all_carries sound tail fits.2) fun rest _ =>
          carries_pure (List.map _) (operand :: rest)

end

theorem Expr.lower_step_carries (sound : bridge.Sound) (target : Expr) (op : BinaryOp)
    (fits : ∀ mark ∈ target.marks, bridge.Fits mark) :
    bridge.Carries id (target.lowerStep op)
      ((target.rename bridge.into.toRenaming).lowerStepIn bridge.steps op) := by
  rw [Expr.lowerStep, Expr.lowerStepIn, Expr.type_rename]
  refine carries_bind (target.lower_carries sound fits) fun operand _ => ?_
  refine carries_bind (sound.freshTemp _) fun temp _ => ?_
  have added := sound.emit (.binary op temp operand (.literal (.int 1) DataType.int.width))
  rw [Instr.translate, sound.int] at added
  exact carries_bind added fun _ _ => sound.emit (.assign operand temp)

theorem Stmt.write_fits (sound : bridge.Sound) (value : Expr)
    (fits : ∀ mark ∈ (Stmt.write value).marks, bridge.Fits mark) : ∀ mark ∈ value.marks, bridge.Fits mark := by
  cases value with
  | string type text =>
      rw [Expr.marks, List.forall_mem_singleton]
      exact sound.text text
  | int | bool | eh | name | call | unary | binary =>
      exact fun mark listed => fits mark (List.mem_append_left _ listed)

mutual

theorem Stmt.lower_carries (sound : bridge.Sound) (stmt : Stmt) (fits : ∀ mark ∈ stmt.marks, bridge.Fits mark) :
    bridge.Carries id stmt.lower ((stmt.rename bridge.into.toRenaming).lowerIn bridge.steps) := by
  cases stmt with
  | localVariable symbol =>
      rw [Stmt.rename, Stmt.lower, Stmt.lowerIn]
      exact sound.bindLocal symbol (fits _ List.mem_cons_self)
  | localFormal symbol =>
      rw [Stmt.rename, Stmt.lower, Stmt.lowerIn]
      exact sound.bindFormal symbol (fits _ List.mem_cons_self)
  | localFunction symbol formals body =>
      rw [Stmt.rename, Stmt.lower, Stmt.lowerIn]
      exact carries_throw _ (.functionAtLocalScope symbol.name)
  | assign dst src =>
      simp only [Stmt.marks, List.forall_mem_append] at fits
      rw [Stmt.rename, Stmt.lower, Stmt.lowerIn]
      exact carries_bind (dst.lower_carries sound fits.1) fun dst _ =>
        carries_bind (src.lower_carries sound fits.2.1) fun src _ => sound.emit (.assign dst src)
  | maybe dst first second =>
      simp only [Stmt.marks, List.forall_mem_append, List.forall_mem_cons] at fits
      obtain ⟨_, _, _, _, target, chosen, _, _, _, other, _⟩ := fits
      rw [Stmt.rename, Stmt.lower, Stmt.lowerIn]
      refine carries_bind sound.freshLabel fun otherwise _ => carries_bind sound.freshLabel fun done _ => ?_
      refine carries_bind (sound.freshTemp _) fun choice _ => carries_bind (sound.emit (.magic choice)) fun _ _ => ?_
      refine carries_bind (sound.emit (.ifZero choice otherwise)) fun _ _ => ?_
      refine carries_bind (dst.lower_carries sound target) fun dst _ => ?_
      refine carries_bind (first.lower_carries sound chosen) fun src _ => ?_
      refine carries_bind (sound.emit (.assign dst src)) fun _ _ => ?_
      refine carries_bind (sound.emit (.goto done)) fun _ _ => carries_bind (sound.place otherwise) fun _ _ => ?_
      refine carries_bind (second.lower_carries sound other) fun src _ => ?_
      exact carries_bind (sound.emit (.assign dst src)) fun _ _ => sound.place done
  | increment target =>
      simp only [Stmt.marks, List.forall_mem_append] at fits
      rw [Stmt.rename, Stmt.lower, Stmt.lowerIn]
      exact target.lower_step_carries sound .add fits.1
  | decrement target =>
      simp only [Stmt.marks, List.forall_mem_append] at fits
      rw [Stmt.rename, Stmt.lower, Stmt.lowerIn]
      exact target.lower_step_carries sound .sub fits.1
  | write value =>
      rw [Stmt.rename, Stmt.lower, Stmt.lowerIn, Expr.type_rename]
      exact carries_bind (value.lower_carries sound (Stmt.write_fits sound value fits)) fun src _ =>
        sound.emit (.write src value.type)
  | read target =>
      simp only [Stmt.marks, List.forall_mem_append] at fits
      rw [Stmt.rename, Stmt.lower, Stmt.lowerIn, Expr.type_rename]
      exact carries_bind (target.lower_carries sound fits.1) fun dst _ => sound.emit (.read dst target.type)
  | ifThen cond body =>
      simp only [Stmt.marks, List.forall_mem_append, List.forall_mem_cons] at fits
      obtain ⟨tested, _, _, inside, _⟩ := fits
      rw [Stmt.rename, Stmt.lower, Stmt.lowerIn]
      refine carries_bind (cond.lower_carries sound tested) fun cond _ => ?_
      refine carries_bind sound.freshLabel fun done _ => carries_bind (sound.emit (.ifZero cond done)) fun _ _ => ?_
      exact carries_bind (Stmt.lower_all_carries sound body inside) fun _ _ => sound.place done
  | ifElse cond positive negative =>
      simp only [Stmt.marks, List.forall_mem_append, List.forall_mem_cons] at fits
      obtain ⟨tested, _, _, _, chosen, _, _, other, _⟩ := fits
      rw [Stmt.rename, Stmt.lower, Stmt.lowerIn]
      refine carries_bind (cond.lower_carries sound tested) fun cond _ => ?_
      refine carries_bind sound.freshLabel fun otherwise _ => carries_bind sound.freshLabel fun done _ => ?_
      refine carries_bind (sound.emit (.ifZero cond otherwise)) fun _ _ => ?_
      refine carries_bind (Stmt.lower_all_carries sound positive chosen) fun _ _ => ?_
      refine carries_bind (sound.emit (.goto done)) fun _ _ => carries_bind (sound.place otherwise) fun _ _ => ?_
      exact carries_bind (Stmt.lower_all_carries sound negative other) fun _ _ => sound.place done
  | whileDo cond body =>
      simp only [Stmt.marks, List.forall_mem_append, List.forall_mem_cons] at fits
      obtain ⟨_, _, _, tested, _, inside, _⟩ := fits
      rw [Stmt.rename, Stmt.lower, Stmt.lowerIn]
      refine carries_bind sound.freshLabel fun head _ => carries_bind sound.freshLabel fun done _ => ?_
      refine carries_bind (sound.place head) fun _ _ => ?_
      refine carries_bind (cond.lower_carries sound tested) fun cond _ => ?_
      refine carries_bind (sound.emit (.ifZero cond done)) fun _ _ => ?_
      refine carries_bind (Stmt.lower_all_carries sound body inside) fun _ _ => ?_
      exact carries_bind (sound.emit (.goto head)) fun _ _ => sound.place done
  | call callee args =>
      simp only [Stmt.marks, List.forall_mem_append, List.forall_mem_cons] at fits
      obtain ⟨_, inside, called, _⟩ := fits
      rw [Stmt.rename, Stmt.lower, Stmt.lowerIn]
      exact carries_bind (sound.call callee args _ called (Expr.lower_all_carries sound args inside)) fun _ _ =>
        carries_pure id ()
  | ret value =>
      cases value with
      | none =>
          rw [Stmt.rename, Stmt.lower, Stmt.lowerIn]
          exact sound.emit .ret
      | some value =>
          simp only [Stmt.marks, List.forall_mem_append] at fits
          rw [Stmt.rename, Stmt.lower, Stmt.lowerIn]
          exact carries_bind (value.lower_carries sound fits.1) fun src _ =>
            carries_bind (sound.emit (.setRet src)) fun _ _ => sound.emit .ret

theorem Stmt.lower_all_carries (sound : bridge.Sound) (stmts : List Stmt)
    (fits : ∀ mark ∈ Stmt.marksAll stmts, bridge.Fits mark) :
    bridge.Carries id (Stmt.lowerAll stmts)
      (Stmt.lowerAllIn bridge.steps (Stmt.renameAll bridge.into.toRenaming stmts)) := by
  cases stmts with
  | nil =>
      rw [Stmt.renameAll, Stmt.lowerAll, Stmt.lowerAllIn]
      exact carries_pure id ()
  | cons stmt tail =>
      rw [Stmt.marksAll, List.forall_mem_append] at fits
      rw [Stmt.renameAll, Stmt.lowerAll, Stmt.lowerAllIn]
      exact carries_bind (Stmt.lower_carries sound stmt fits.1) fun _ _ => Stmt.lower_all_carries sound tail fits.2

end

end Walk

end ThreeAddress
