import ThreeAddress.Lowering.Body
import ThreeAddress.Proofs.Handles

set_option autoImplicit false

/- What each step of lowering does to the builder, as a function of the builder alone.
   Later proofs speak of these functions and never of the monad. -/
namespace ThreeAddress

theorem get_elem?_concat_cases {α : Type} (front : List α) (last found : α) (i : Nat)
    (at_ : (front ++ [last])[i]? = some found) :
    (i < front.length ∧ front[i]? = some found) ∨ (i = front.length ∧ last = found) := by
  rcases Nat.lt_trichotomy i front.length with inside | same | outside
  · rw [List.getElem?_append_left inside] at at_
    exact .inl ⟨inside, at_⟩
  · subst same
    rw [List.getElem?_concat_length] at at_
    exact .inr ⟨rfl, Option.some.inj at_⟩
  · rw [List.getElem?_eq_none (by simp; omega)] at at_
    cases at_

section Sequence

variable {ε σ α β : Type} (work : EStateM ε σ α) (rest : α → EStateM ε σ β) (before middle : σ)

theorem bind_of_ok (value : α) (ran : work before = .ok value middle) :
    (work >>= rest) before = rest value middle := by
  change EStateM.bind work rest before = _
  rw [EStateM.bind, ran]

theorem bind_of_error (failure : ε) (ran : work before = .error failure middle) :
    (work >>= rest) before = .error failure middle := by
  change EStateM.bind work rest before = _
  rw [EStateM.bind, ran]

theorem bind_ok (after : σ) (answer : β) :
    (work >>= rest) before = .ok answer after ↔
      ∃ value middle, work before = .ok value middle ∧ rest value middle = .ok answer after := by
  cases ran : work before with
  | ok value middle =>
      rw [bind_of_ok work rest before middle value ran]
      constructor
      · intro rested
        exact ⟨value, middle, rfl, rested⟩
      · rintro ⟨_, _, same, rested⟩
        cases same
        exact rested
  | error failure middle => simp [bind_of_error work rest before middle failure ran]

end Sequence

theorem Program.fresh_label_eq (program : Program) :
    program.freshLabel = (program.nextLabel, { program with nextLabel := program.nextLabel.next }) := by
  rw [freshLabel, Handle.take_eq]

theorem Program.pool_string_eq (program : Program) (text : String) :
    program.poolString text = (.literal (.string program.nextString) DataType.string.width,
      { program with
        strings := program.strings.insert program.nextString text, nextString := program.nextString.next }) := by
  rw [poolString, Handle.take_eq]

namespace Builder

def quads (builder : Builder) : List Quad := builder.procedure.quads.toList

def temps (builder : Builder) : List Temp := builder.procedure.temps.items.toList

def slot? (builder : Builder) (symbol : Handle .symbol) : Option Slot :=
  (builder.procedure.slot? symbol).or (builder.program.global? symbol)

def emit (builder : Builder) (instr : Instr) : Builder :=
  { builder with procedure := builder.procedure.push (.plain instr) }

def place (builder : Builder) (label : Handle .label) : Builder :=
  { builder with
    procedure := builder.procedure.push (.landing label)
    log := builder.log.push (.labelPlaced builder.procedure.name label) }

def nextTemp (builder : Builder) (width : Nat) : Temp := (builder.procedure.freshTemp width).1

def addTemp (builder : Builder) (width : Nat) : Builder :=
  { builder with procedure := (builder.procedure.freshTemp width).2 }

def nextLabel (builder : Builder) : Handle .label := builder.program.nextLabel

def addLabel (builder : Builder) : Builder :=
  { builder with program := { builder.program with nextLabel := builder.nextLabel.next } }

def nextString (builder : Builder) : Handle .string := builder.program.nextString

def addString (builder : Builder) (text : String) : Builder :=
  { builder with program :=
    { builder.program with
      strings := builder.program.strings.insert builder.nextString text, nextString := builder.nextString.next } }

def bindLocal (builder : Builder) (symbol : Symbol) : Builder :=
  { builder with procedure := builder.procedure.bindLocal symbol }

def bindFormal (builder : Builder) (symbol : Symbol) : Builder :=
  { builder with procedure := builder.procedure.bindFormal symbol }

def compute (builder : Builder) (width : Nat) (instr : Operand → Instr) : Builder :=
  (builder.addTemp width).emit (instr (.temp (builder.nextTemp width)))

def pass (builder : Builder) (position : Nat) : List Operand → Builder
  | [] => builder
  | operand :: tail => (builder.emit (.setArg position operand)).pass (position + 1) tail

def receive (builder : Builder) (position : Nat) : List Slot → Builder
  | [] => builder
  | formal :: tail => (builder.emit (.getArg position (.slot formal))).receive (position + 1) tail

def invoke (builder : Builder) (callee : Symbol) (operands : List Operand) : Builder :=
  (builder.pass 1 operands).emit (.call callee.id callee.name)

section Views

variable (builder : Builder) (instr : Instr) (label : Handle .label) (width : Nat) (text : String)
  (symbol : Symbol)

@[simp] theorem quads_emit : (builder.emit instr).quads = builder.quads ++ [.plain instr] := by
  simp [quads, emit, Procedure.push]

@[simp] theorem quads_place : (builder.place label).quads = builder.quads ++ [.landing label] := by
  simp [quads, place, Procedure.push]

@[simp] theorem quads_add_temp : (builder.addTemp width).quads = builder.quads := rfl

@[simp] theorem quads_add_label : builder.addLabel.quads = builder.quads := rfl

@[simp] theorem quads_add_string : (builder.addString text).quads = builder.quads := rfl

@[simp] theorem quads_bind_local : (builder.bindLocal symbol).quads = builder.quads := rfl

@[simp] theorem quads_bind_formal : (builder.bindFormal symbol).quads = builder.quads := rfl

@[simp] theorem temps_emit : (builder.emit instr).temps = builder.temps := rfl

@[simp] theorem temps_place : (builder.place label).temps = builder.temps := rfl

@[simp] theorem temps_add_temp :
    (builder.addTemp width).temps = builder.temps ++ [builder.nextTemp width] := by
  simp [temps, addTemp, nextTemp, Procedure.freshTemp, Arena.push]

@[simp] theorem temps_add_label : builder.addLabel.temps = builder.temps := rfl

@[simp] theorem temps_add_string : (builder.addString text).temps = builder.temps := rfl

@[simp] theorem temps_bind_local : (builder.bindLocal symbol).temps = builder.temps := rfl

@[simp] theorem temps_bind_formal : (builder.bindFormal symbol).temps = builder.temps := rfl

@[simp] theorem next_label_emit : (builder.emit instr).nextLabel = builder.nextLabel := rfl

@[simp] theorem next_label_place : (builder.place label).nextLabel = builder.nextLabel := rfl

@[simp] theorem next_label_add_label : builder.addLabel.nextLabel = builder.nextLabel.next := rfl

theorem next_temp_eq : builder.nextTemp width = ⟨.ofNat builder.temps.length, width⟩ := rfl

end Views

end Builder

namespace Lower

theorem ok_iff {α : Type} (answer value : α) (after reached : Builder) :
    (.ok value reached : EStateM.Result Violation Builder α) = .ok answer after ↔
      answer = value ∧ after = reached := by
  constructor
  · intro same
    cases same
    exact ⟨rfl, rfl⟩
  · rintro ⟨rfl, rfl⟩
    rfl

@[simp] theorem pure_run {α : Type} (answer : α) (builder : Builder) :
    (pure answer : Lower α) builder = .ok answer builder := rfl

@[simp] theorem throw_run {α : Type} (violation : Violation) (builder : Builder) :
    (throw violation : Lower α) builder = .error violation builder := rfl

@[simp] theorem emit_run (instr : Instr) (builder : Builder) :
    emit instr builder = .ok () (builder.emit instr) := rfl

@[simp] theorem place_run (label : Handle .label) (builder : Builder) :
    place label builder = .ok () (builder.place label) := rfl

@[simp] theorem fresh_temp_run (width : Nat) (builder : Builder) :
    freshTemp width builder = .ok (.temp (builder.nextTemp width)) (builder.addTemp width) := rfl

@[simp] theorem fresh_label_run (builder : Builder) :
    freshLabel builder = .ok builder.nextLabel builder.addLabel := by
  change EStateM.Result.ok builder.program.freshLabel.1 { builder with program := builder.program.freshLabel.2 } = _
  rw [Program.fresh_label_eq]
  rfl

@[simp] theorem pool_string_run (text : String) (builder : Builder) :
    poolString text builder =
      .ok (.literal (.string builder.nextString) DataType.string.width) (builder.addString text) := by
  change EStateM.Result.ok (builder.program.poolString text).1
    { builder with program := (builder.program.poolString text).2 } = _
  rw [Program.pool_string_eq]
  rfl

@[simp] theorem pass_run (position : Nat) (operands : List Operand) (builder : Builder) :
    pass position operands builder = .ok () (builder.pass position operands) := by
  induction operands generalizing position builder with
  | nil => rfl
  | cons operand tail ih => exact ih (position + 1) (builder.emit (.setArg position operand))

@[simp] theorem receive_run (position : Nat) (formals : List Slot) (builder : Builder) :
    receive position formals builder = .ok () (builder.receive position formals) := by
  induction formals generalizing position builder with
  | nil => rfl
  | cons formal tail ih => exact ih (position + 1) (builder.emit (.getArg position (.slot formal)))

theorem storage_run (symbol : Symbol) (builder : Builder) :
    storage symbol builder =
      match builder.slot? symbol.id with
      | some slot => .ok (.slot slot) builder
      | none => .error (.unboundIdentifier symbol.name) builder := by
  change (match builder.slot? symbol.id with
    | some slot => (pure (.slot slot) : Lower Operand)
    | none => throw (Violation.unboundIdentifier symbol.name)) builder = _
  cases builder.slot? symbol.id <;> rfl

end Lower

end ThreeAddress
