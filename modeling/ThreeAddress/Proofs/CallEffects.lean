import Mathlib.Data.Set.Basic
import ThreeAddress.Proofs.Calls
import ThreeAddress.Proofs.SourceMeaning

set_option autoImplicit false

namespace ThreeAddress

structure Moment where
  store : Store
  world : World

-- What a call answers and the store that it leaves, from the callee, the arguments and all
-- that has happened before.
structure Callees where
  respond : Handle .symbol → String → List Word → Moment → Word × Store

def Moment.call (moment : Moment) (callees : Callees) (callee : Handle .symbol) (name : String)
    (args : List Word) : Word × Moment :=
  let reply := callees.respond callee name args moment
  (reply.1, ⟨reply.2,
    { moment.world with history := moment.world.history ++ [.called callee name args reply.1] }⟩)

inductive Reading where
  | inTurn
  | atUse

def Reading.settle (reading : Reading) (store : Store) (expr : Expr) (value : Word) : Word :=
  match reading, expr with
  | .atUse, .name _ symbol => store symbol.id
  | _, _ => value

mutual

def Expr.evaluate (meaning : Meaning) (callees : Callees) (reading : Reading) (moment : Moment) :
    Expr → Word × Moment
  | .int _ value => (value, moment)
  | .bool _ value => (.ofBool value, moment)
  | .string _ text => (meaning.text text, moment)
  | .eh _ =>
      let drawn := moment.world.draw meaning
      (drawn.1, ⟨moment.store, drawn.2⟩)
  | .name _ symbol => (moment.store symbol.id, moment)
  | .call _ callee args =>
      let passed := Expr.evaluateAll meaning callees reading moment args
      passed.2.call callees callee.id callee.name passed.1
  | .unary _ op operand =>
      let value := operand.evaluate meaning callees reading moment
      (meaning.unary op value.1, value.2)
  | .binary _ op lhs rhs =>
      match op with
      | .add | .div =>
          let right := rhs.evaluate meaning callees reading moment
          let left := lhs.evaluate meaning callees reading right.2
          (meaning.binary op left.1 (reading.settle left.2.store rhs right.1), left.2)
      | _ =>
          let left := lhs.evaluate meaning callees reading moment
          let right := rhs.evaluate meaning callees reading left.2
          (meaning.binary op (reading.settle right.2.store lhs left.1) right.1, right.2)

def Expr.evaluateAll (meaning : Meaning) (callees : Callees) (reading : Reading) (moment : Moment) :
    List Expr → List Word × Moment
  | [] => ([], moment)
  | expr :: tail =>
      let value := expr.evaluate meaning callees reading moment
      let rest := Expr.evaluateAll meaning callees reading value.2 tail
      (reading.settle rest.2.store expr value.1 :: rest.1, rest.2)

end

theorem Expr.evaluate_binary (type : DataType) (op : BinaryOp) (lhs rhs : Expr) (meaning : Meaning)
    (callees : Callees) (reading : Reading) (moment : Moment) :
    (Expr.binary type op lhs rhs).evaluate meaning callees reading moment =
      if op.rightFirst then
        let right := rhs.evaluate meaning callees reading moment
        let left := lhs.evaluate meaning callees reading right.2
        (meaning.binary op left.1 (reading.settle left.2.store rhs right.1), left.2)
      else
        let left := lhs.evaluate meaning callees reading moment
        let right := rhs.evaluate meaning callees reading left.2
        (meaning.binary op (reading.settle right.2.store lhs left.1) right.1, right.2) := by
  cases op <;> rfl

theorem Reading.settle_now (meaning : Meaning) (callees : Callees) (reading : Reading) (expr : Expr)
    (moment : Moment) :
    reading.settle (expr.evaluate meaning callees reading moment).2.store expr
        (expr.evaluate meaning callees reading moment).1 =
      (expr.evaluate meaning callees reading moment).1 := by
  cases reading with
  | inTurn => rfl
  | atUse => cases expr <;> rfl

def Callees.Confined (callees : Callees) (shared : Set (Handle .symbol)) : Prop :=
  ∀ callee name args moment id, id ∉ shared → (callees.respond callee name args moment).2 id = moment.store id

def Expr.Exposed (shared : Set (Handle .symbol)) (expr : Expr) : Prop :=
  ∃ type symbol, expr = .name type symbol ∧ symbol.id ∈ shared

mutual

-- No call is made between the turn of an exposed name and the use of its value.
def Expr.Steady (shared : Set (Handle .symbol)) : Expr → Prop
  | .call _ _ args => Expr.SteadyAll shared args
  | .unary _ _ operand => operand.Steady shared
  | .binary _ op lhs rhs =>
      lhs.Steady shared ∧ rhs.Steady shared ∧
        if op.rightFirst then rhs.Exposed shared → lhs.calls = [] else lhs.Exposed shared → rhs.calls = []
  | .int .. | .bool .. | .string .. | .eh _ | .name .. => True

def Expr.SteadyAll (shared : Set (Handle .symbol)) : List Expr → Prop
  | [] => True
  | expr :: tail => expr.Steady shared ∧ Expr.SteadyAll shared tail ∧ (expr.Exposed shared → Expr.callsAll tail = [])

end

section Steady

variable {meaning : Meaning} {callees : Callees} {shared : Set (Handle .symbol)}

mutual

theorem Expr.evaluate_keeps (meaning : Meaning) (confined : callees.Confined shared) (reading : Reading)
    (expr : Expr) (moment : Moment) (id : Handle .symbol) (apart : id ∉ shared ∨ expr.calls = []) :
    (expr.evaluate meaning callees reading moment).2.store id = moment.store id := by
  cases expr with
  | int | bool | string | eh | name => rfl
  | call type callee args =>
      rw [Expr.calls, List.append_eq_nil_iff] at apart
      have outside : id ∉ shared := apart.resolve_right fun none => List.cons_ne_nil _ _ none.2
      exact (confined _ _ _ _ id outside).trans
        (Expr.evaluate_all_keeps meaning confined reading args moment id (.inl outside))
  | unary type op operand => exact Expr.evaluate_keeps meaning confined reading operand moment id apart
  | binary type op lhs rhs =>
      have both : (id ∉ shared ∨ lhs.calls = []) ∧ (id ∉ shared ∨ rhs.calls = []) := by
        rw [Expr.calls] at apart
        by_cases rightFirst : op.rightFirst
        · rw [if_pos rightFirst, List.append_eq_nil_iff, List.map_eq_nil_iff] at apart
          exact ⟨apart.imp_right And.right, apart.imp_right And.left⟩
        · rw [if_neg rightFirst, List.append_eq_nil_iff, List.map_eq_nil_iff] at apart
          exact ⟨apart.imp_right And.left, apart.imp_right And.right⟩
      rw [Expr.evaluate_binary]
      by_cases rightFirst : op.rightFirst
      · rw [if_pos rightFirst]
        exact (Expr.evaluate_keeps meaning confined reading lhs _ id both.1).trans
          (Expr.evaluate_keeps meaning confined reading rhs moment id both.2)
      · rw [if_neg rightFirst]
        exact (Expr.evaluate_keeps meaning confined reading rhs _ id both.2).trans
          (Expr.evaluate_keeps meaning confined reading lhs moment id both.1)

theorem Expr.evaluate_all_keeps (meaning : Meaning) (confined : callees.Confined shared) (reading : Reading)
    (exprs : List Expr) (moment : Moment) (id : Handle .symbol) (apart : id ∉ shared ∨ Expr.callsAll exprs = []) :
    (Expr.evaluateAll meaning callees reading moment exprs).2.store id = moment.store id := by
  cases exprs with
  | nil => rfl
  | cons expr tail =>
      rw [Expr.callsAll, List.append_eq_nil_iff, List.map_eq_nil_iff] at apart
      exact (Expr.evaluate_all_keeps meaning confined reading tail _ id (apart.imp_right And.right)).trans
        (Expr.evaluate_keeps meaning confined reading expr moment id (apart.imp_right And.left))

end

-- A name may be read late if nothing can have happened to its storage since its turn.
theorem Reading.settle_awaited (reading : Reading) (expr : Expr) (moment : Moment) (later : Store) {quiet : Prop}
    (awaited : expr.Exposed shared → quiet)
    (keeps : ∀ id, id ∉ shared ∨ quiet → later id = (expr.evaluate meaning callees reading moment).2.store id) :
    reading.settle later expr (expr.evaluate meaning callees reading moment).1 =
      (expr.evaluate meaning callees reading moment).1 := by
  cases reading with
  | inTurn => rfl
  | atUse =>
      cases expr with
      | int | bool | string | eh | call | unary | binary => rfl
      | name type symbol =>
          apply keeps symbol.id
          by_cases member : symbol.id ∈ shared
          · exact .inr (awaited ⟨type, symbol, rfl, member⟩)
          · exact .inl member

mutual

theorem Expr.evaluate_steady (confined : callees.Confined shared) (expr : Expr) (moment : Moment)
    (steady : expr.Steady shared) :
    expr.evaluate meaning callees .atUse moment = expr.evaluate meaning callees .inTurn moment := by
  cases expr with
  | int | bool | string | eh | name => rfl
  | call type callee args =>
      rw [Expr.evaluate, Expr.evaluate, Expr.evaluate_all_steady confined args moment steady]
  | unary type op operand =>
      rw [Expr.evaluate, Expr.evaluate, Expr.evaluate_steady confined operand moment steady]
  | binary type op lhs rhs =>
      obtain ⟨left, right, awaited⟩ := steady
      rw [Expr.evaluate_binary, Expr.evaluate_binary]
      by_cases rightFirst : op.rightFirst
      · rw [if_pos rightFirst] at awaited
        have read := Reading.settle_awaited .atUse rhs moment _ awaited
          (Expr.evaluate_keeps meaning confined .atUse lhs (rhs.evaluate meaning callees .atUse moment).2)
        simp only [if_pos rightFirst, read]
        rw [Expr.evaluate_steady confined rhs moment right, Expr.evaluate_steady confined lhs _ left]
        rfl
      · rw [if_neg rightFirst] at awaited
        have read := Reading.settle_awaited .atUse lhs moment _ awaited
          (Expr.evaluate_keeps meaning confined .atUse rhs (lhs.evaluate meaning callees .atUse moment).2)
        simp only [if_neg rightFirst, read]
        rw [Expr.evaluate_steady confined lhs moment left, Expr.evaluate_steady confined rhs _ right]
        rfl

theorem Expr.evaluate_all_steady (confined : callees.Confined shared) (exprs : List Expr) (moment : Moment)
    (steady : Expr.SteadyAll shared exprs) :
    Expr.evaluateAll meaning callees .atUse moment exprs = Expr.evaluateAll meaning callees .inTurn moment exprs := by
  cases exprs with
  | nil => rfl
  | cons expr tail =>
      obtain ⟨head, rest, awaited⟩ := steady
      have read := Reading.settle_awaited .atUse expr moment _ awaited
        (Expr.evaluate_all_keeps meaning confined .atUse tail (expr.evaluate meaning callees .atUse moment).2)
      simp only [Expr.evaluateAll, read]
      rw [Expr.evaluate_steady confined expr moment head, Expr.evaluate_all_steady confined tail _ rest]
      rfl

end

end Steady

end ThreeAddress
