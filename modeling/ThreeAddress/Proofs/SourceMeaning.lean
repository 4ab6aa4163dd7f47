import ThreeAddress.Proofs.Behaviour

set_option autoImplicit false

/- The meaning of source statements. A state holds the statements that are still to run, so
   a loop puts itself back behind its body and runs without end are covered. Evaluation
   order is fixed here without reference to lowering. -/
namespace ThreeAddress

structure Meaning where
  unary : UnaryOp → Word → Word
  binary : BinaryOp → Word → Word → Word
  text : String → Word
  choice : Nat → Bool
  input : Nat → Word
  answer : Handle .symbol → String → List Word → List Effect → Word

namespace World

variable (meaning : Meaning) (world : World)

def draw : Word × World :=
  (.ofBool (meaning.choice world.choices), { world with choices := world.choices + 1 })

def call (callee : Handle .symbol) (name : String) (args : List Word) : Word × World :=
  let answer := meaning.answer callee name args world.history
  (answer, { world with history := world.history ++ [.called callee name args answer] })

def read (type : DataType) : Word × World :=
  let value := meaning.input world.inputs
  (value, { world with history := world.history ++ [.read value type], inputs := world.inputs + 1 })

def write (value : Word) (type : DataType) : World :=
  { world with history := world.history ++ [.wrote value type] }

end World

mutual

def Expr.eval (meaning : Meaning) (store : Store) (world : World) : Expr → Word × World
  | .int _ value => (value, world)
  | .bool _ value => (.ofBool value, world)
  | .string _ text => (meaning.text text, world)
  | .eh _ => world.draw meaning
  | .name _ symbol => (store symbol.id, world)
  | .call _ callee args =>
      let passed := Expr.evalAll meaning store world args
      passed.2.call meaning callee.id callee.name passed.1
  | .unary _ op operand =>
      let value := operand.eval meaning store world
      (meaning.unary op value.1, value.2)
  | .binary _ op lhs rhs =>
      match op with
      | .add | .div =>
          let right := rhs.eval meaning store world
          let left := lhs.eval meaning store right.2
          (meaning.binary op left.1 right.1, left.2)
      | _ =>
          let left := lhs.eval meaning store world
          let right := rhs.eval meaning store left.2
          (meaning.binary op left.1 right.1, right.2)

def Expr.evalAll (meaning : Meaning) (store : Store) (world : World) : List Expr → List Word × World
  | [] => ([], world)
  | expr :: tail =>
      let value := expr.eval meaning store world
      let rest := Expr.evalAll meaning store value.2 tail
      (value.1 :: rest.1, rest.2)

end

def Store.set (store : Store) (symbol : Handle .symbol) (value : Word) : Store :=
  fun other => if other = symbol then value else store other

-- Only a name denotes storage; what is assigned to any other destination is lost.
def Store.assign (store : Store) (dst : Expr) (value : Word) : Store :=
  match dst with
  | .name _ symbol => store.set symbol.id value
  | _ => store

structure Source where
  todo : List Stmt
  store : Store
  world : World

section Step

variable (meaning : Meaning) (store : Store) (world : World) (rest : List Stmt)

def Source.bump (op : BinaryOp) (target : Expr) : Reaction Source :=
  let value := target.eval meaning store world
  .next ⟨rest, store.assign target (meaning.binary op value.1 1), value.2⟩

-- A destination is evaluated for its effects before the value that it receives. In `maybe`
-- it is evaluated with the first source only.
def Stmt.step : Stmt → Reaction Source
  | .localVariable _ | .localFormal _ | .localFunction .. => .next ⟨rest, store, world⟩
  | .assign dst src =>
      let place := dst.eval meaning store world
      let value := src.eval meaning store place.2
      .next ⟨rest, store.assign dst value.1, value.2⟩
  | .maybe dst first second =>
      let choice := world.draw meaning
      if choice.1 = 0 then
        let value := second.eval meaning store choice.2
        .next ⟨rest, store.assign dst value.1, value.2⟩
      else
        let place := dst.eval meaning store choice.2
        let value := first.eval meaning store place.2
        .next ⟨rest, store.assign dst value.1, value.2⟩
  | .increment target => Source.bump meaning store world rest .add target
  | .decrement target => Source.bump meaning store world rest .sub target
  | .write expr =>
      let value := expr.eval meaning store world
      .next ⟨rest, store, value.2.write value.1 expr.type⟩
  | .read target =>
      let place := target.eval meaning store world
      let value := place.2.read meaning target.type
      .next ⟨rest, store.assign target value.1, value.2⟩
  | .ifThen cond body =>
      let test := cond.eval meaning store world
      .next ⟨if test.1 = 0 then rest else body ++ rest, store, test.2⟩
  | .ifElse cond positive negative =>
      let test := cond.eval meaning store world
      .next ⟨if test.1 = 0 then negative ++ rest else positive ++ rest, store, test.2⟩
  | .whileDo cond body =>
      let test := cond.eval meaning store world
      .next ⟨if test.1 = 0 then rest else body ++ .whileDo cond body :: rest, store, test.2⟩
  | .call callee args =>
      let passed := Expr.evalAll meaning store world args
      let answer := passed.2.call meaning callee.id callee.name passed.1
      .next ⟨rest, store, answer.2⟩
  | .ret none => .finished ⟨none, store, world⟩
  | .ret (some expr) =>
      let value := expr.eval meaning store world
      .finished ⟨some value.1, store, value.2⟩

end Step

namespace Source

def step (meaning : Meaning) (source : Source) : Reaction Source :=
  match source.todo with
  | [] => .finished ⟨none, source.store, source.world⟩
  | stmt :: rest => stmt.step meaning source.store source.world rest

def receive (incoming : Nat → Word) (position : Nat) (store : Store) : List Symbol → Store
  | [] => store
  | formal :: tail => receive incoming (position + 1) (store.set formal.id (incoming position)) tail

def enter (definition : Function) (incoming : Nat → Word) (store : Store) (world : World) : Source :=
  ⟨definition.body, receive incoming 1 store definition.formals, world⟩

end Source

end ThreeAddress
