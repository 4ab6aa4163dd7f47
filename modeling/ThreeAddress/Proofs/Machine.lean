import ThreeAddress.Program
import ThreeAddress.Proofs.SourceMeaning

set_option autoImplicit false

namespace ThreeAddress

structure Setting where
  meaning : Meaning
  program : Program
  code : List Quad
  incoming : Nat → Word

structure Machine where
  pc : Nat
  store : Store
  temps : Handle .temp → Word
  args : List Word
  answer : Word
  returned : Option Word
  world : World

def Setting.literal (setting : Setting) : Literal → Word
  | .int value => value
  | .bool value => .ofBool value
  | .string id => (setting.program.string? id).elim 0 setting.meaning.text

def Setting.find? (setting : Setting) (label : Handle .label) : Option Nat :=
  setting.code.findIdx? fun quad => quad.labels.contains label

-- Positions count from one; positions left out hold zero.
def fillArg (args : List Word) (position : Nat) (value : Word) : List Word :=
  if position - 1 < args.length then args.set (position - 1) value
  else args ++ List.replicate (position - 1 - args.length) 0 ++ [value]

namespace Machine

variable (setting : Setting) (machine : Machine)

def value : Operand → Word
  | .literal value _ => setting.literal value
  | .slot place => machine.store place.symbol
  | .temp place => machine.temps place.id

def put (dst : Operand) (value : Word) : Machine :=
  match dst with
  | .literal .. => machine
  | .slot place => { machine with store := machine.store.set place.symbol value }
  | .temp place =>
      { machine with temps := fun id => if id = place.id then value else machine.temps id }

def advance : Machine := { machine with pc := machine.pc + 1 }

def jump (label : Handle .label) : Reaction Machine :=
  match setting.find? label with
  | some target => .next { machine with pc := target }
  | none => .stuck

def finish : Reaction Machine := .finished ⟨machine.returned, machine.store, machine.world⟩

def execute : Instr → Reaction Machine
  | .assign dst src => .next (machine.put dst (machine.value setting src)).advance
  | .unary op dst src =>
      .next (machine.put dst (setting.meaning.unary op (machine.value setting src))).advance
  | .binary op dst lhs rhs =>
      .next (machine.put dst
        (setting.meaning.binary op (machine.value setting lhs) (machine.value setting rhs))).advance
  | .ifZero cond target =>
      if machine.value setting cond = 0 then machine.jump setting target else .next machine.advance
  | .goto target => machine.jump setting target
  | .nop => .next machine.advance
  | .call callee name =>
      let called := machine.world.call setting.meaning callee name machine.args
      .next { machine with args := [], answer := called.1, world := called.2, pc := machine.pc + 1 }
  | .setArg position src =>
      .next { machine with args := fillArg machine.args position (machine.value setting src), pc := machine.pc + 1 }
  | .getArg position dst => .next (machine.put dst (setting.incoming position)).advance
  | .setRet src => .next { machine with returned := some (machine.value setting src), pc := machine.pc + 1 }
  | .getRet dst => .next (machine.put dst machine.answer).advance
  | .ret => machine.finish
  | .magic dst =>
      let drawn := machine.world.draw setting.meaning
      .next ({ machine with world := drawn.2 }.put dst drawn.1).advance
  | .write src type =>
      .next { machine with world := machine.world.write (machine.value setting src) type, pc := machine.pc + 1 }
  | .read dst type =>
      let taken := machine.world.read setting.meaning type
      .next ({ machine with world := taken.2 }.put dst taken.1).advance

def step : Reaction Machine :=
  match setting.code[machine.pc]? with
  | some quad => machine.execute setting quad.instr
  | none => machine.finish

section Put

variable (dst : Operand) (value : Word)

@[simp] theorem pc_put : (machine.put dst value).pc = machine.pc := by cases dst <;> rfl

@[simp] theorem args_put : (machine.put dst value).args = machine.args := by cases dst <;> rfl

@[simp] theorem returned_put : (machine.put dst value).returned = machine.returned := by cases dst <;> rfl

@[simp] theorem world_put : (machine.put dst value).world = machine.world := by cases dst <;> rfl

end Put

theorem jump_accumulates (label : Handle .label) (safe : machine.jump setting label ≠ .stuck) :
    machine.world.history <+: (machine.jump setting label).history world := by
  rw [jump] at safe ⊢
  cases found : setting.find? label with
  | none => simp [found] at safe
  | some target => exact List.prefix_refl _

theorem execute_accumulates (instr : Instr) (safe : machine.execute setting instr ≠ .stuck) :
    machine.world.history <+: (machine.execute setting instr).history world := by
  cases instr with
  | ifZero cond target =>
      rw [execute] at safe ⊢
      by_cases zero : machine.value setting cond = 0
      · rw [if_pos zero] at safe ⊢
        exact machine.jump_accumulates setting target safe
      · rw [if_neg zero]
        exact List.prefix_refl _
  | goto target => exact machine.jump_accumulates setting target safe
  | call callee name => exact List.prefix_append _ _
  | write src type => exact List.prefix_append _ _
  | read dst type =>
      simp only [execute, Reaction.history, advance, world_put]
      exact List.prefix_append _ _
  | nop | ret | setArg | setRet => exact List.prefix_refl _
  | assign | unary | binary | getArg | getRet | magic =>
      simp only [execute, Reaction.history, advance, world_put]
      exact List.prefix_refl _

theorem accumulates : Accumulates (step setting) world := by
  intro machine safe
  rw [step] at safe ⊢
  cases found : setting.code[machine.pc]? with
  | none => exact List.prefix_refl _
  | some quad =>
      rw [found] at safe
      exact machine.execute_accumulates setting quad.instr safe

end Machine

end ThreeAddress
