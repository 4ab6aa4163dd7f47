import Mathlib.Logic.Relation
import ThreeAddress.Proofs.Instructions
import ThreeAddress.Proofs.Steps

set_option autoImplicit false

namespace ThreeAddress

open Relation

namespace Builder

inductive Builds : Builder → Builder → Prop where
  | emit (builder : Builder) (instr : Instr) : Builds builder (builder.emit instr)
  | temp (builder : Builder) (width : Nat) : Builds builder (builder.addTemp width)
  | string (builder : Builder) (text : String) : Builds builder (builder.addString text)
  | label (builder : Builder) : Builds builder builder.addLabel
  | place (builder : Builder) (label : Handle .label) : Builds builder (builder.place label)
  | bindLocal (builder : Builder) (symbol : Symbol) : Builds builder (builder.bindLocal symbol)
  | bindFormal (builder : Builder) (symbol : Symbol) : Builds builder (builder.bindFormal symbol)

structure Grows (before after : Builder) : Prop where
  quads : before.quads <+: after.quads
  temps : before.temps <+: after.temps
  procedures : after.program.procedures = before.program.procedures
  globals : after.program.globals = before.program.globals
  strings : ∀ id, (before.program.string? id).isSome = true → (after.program.string? id).isSome = true
  formals : ∀ slot ∈ before.procedure.formals, slot ∈ after.procedure.formals
  locals : ∀ slot ∈ before.procedure.locals, slot ∈ after.procedure.locals
  id : after.procedure.id = before.procedure.id
  name : after.procedure.name = before.procedure.name

theorem Grows.refl (builder : Builder) : Grows builder builder :=
  ⟨List.prefix_refl _, List.prefix_refl _, rfl, rfl, fun _ present => present, fun _ listed => listed,
    fun _ listed => listed, rfl, rfl⟩

theorem Grows.trans {before middle after : Builder} (first : Grows before middle)
    (second : Grows middle after) : Grows before after :=
  ⟨first.quads.trans second.quads, first.temps.trans second.temps,
    second.procedures.trans first.procedures, second.globals.trans first.globals,
    fun id present => second.strings id (first.strings id present),
    fun slot member => second.formals slot (first.formals slot member),
    fun slot member => second.locals slot (first.locals slot member),
    second.id.trans first.id, second.name.trans first.name⟩

section Steps

variable (builder : Builder)

theorem emit_grows (instr : Instr) : Grows builder (builder.emit instr) :=
  { Grows.refl builder with quads := by simp }

theorem place_grows (label : Handle .label) : Grows builder (builder.place label) :=
  { Grows.refl builder with quads := by simp }

theorem temp_grows (width : Nat) : Grows builder (builder.addTemp width) :=
  { Grows.refl builder with temps := by simp }

theorem string_grows (text : String) : Grows builder (builder.addString text) := by
  refine { Grows.refl builder with strings := ?_ }
  intro id present
  change ((builder.program.strings.insert builder.nextString text).get? id).isSome = true
  rw [HandleMap.get?_insert]
  by_cases here : id = builder.nextString
  · rw [if_pos here]
    rfl
  · rw [if_neg here]
    exact present

theorem label_grows : Grows builder builder.addLabel := { Grows.refl builder with }

theorem local_grows (symbol : Symbol) : Grows builder (builder.bindLocal symbol) :=
  { Grows.refl builder with locals := fun _ => Array.mem_push_of_mem _ }

theorem formal_grows (symbol : Symbol) : Grows builder (builder.bindFormal symbol) :=
  { Grows.refl builder with formals := fun _ => Array.mem_push_of_mem _ }

end Steps

theorem Builds.grows {before after : Builder} (step : Builds before after) : Grows before after := by
  cases step with
  | emit instr => exact before.emit_grows instr
  | temp width => exact before.temp_grows width
  | string text => exact before.string_grows text
  | label => exact before.label_grows
  | place label => exact before.place_grows label
  | bindLocal symbol => exact before.local_grows symbol
  | bindFormal symbol => exact before.formal_grows symbol

theorem grows_of_builds {before after : Builder} (steps : ReflTransGen Builds before after) :
    Grows before after := by
  induction steps with
  | refl => exact Grows.refl before
  | tail _ step ih => exact ih.trans step.grows

structure Straight (before after : Builder) : Prop extends Grows before after where
  code : ∃ code : List Instr, after.quads = before.quads ++ code.map .plain ∧
    ∀ instr ∈ code, instr.computes = true
  slots : ∀ symbol, after.slot? symbol = before.slot? symbol
  nextLabel : after.nextLabel = before.nextLabel

theorem Straight.refl (builder : Builder) : Straight builder builder :=
  ⟨Grows.refl builder, ⟨[], by simp⟩, fun _ => rfl, rfl⟩

theorem Straight.trans {before middle after : Builder} (first : Straight before middle)
    (second : Straight middle after) : Straight before after := by
  obtain ⟨front, frontQuads, frontComputes⟩ := first.code
  obtain ⟨back, backQuads, backComputes⟩ := second.code
  refine ⟨first.toGrows.trans second.toGrows, ⟨front ++ back, ?_, ?_⟩, ?_, ?_⟩
  · rw [backQuads, frontQuads, List.map_append, List.append_assoc]
  · intro instr member
    rcases List.mem_append.mp member with inFront | inBack
    · exact frontComputes instr inFront
    · exact backComputes instr inBack
  · exact fun symbol => (second.slots symbol).trans (first.slots symbol)
  · exact second.nextLabel.trans first.nextLabel

theorem emit_straight (builder : Builder) (instr : Instr) (computes : instr.computes = true) :
    Straight builder (builder.emit instr) :=
  ⟨builder.emit_grows instr, ⟨[instr], by simp, by simpa using computes⟩, fun _ => rfl, rfl⟩

theorem temp_straight (builder : Builder) (width : Nat) : Straight builder (builder.addTemp width) :=
  ⟨builder.temp_grows width, ⟨[], by simp⟩, fun _ => rfl, rfl⟩

theorem string_straight (builder : Builder) (text : String) : Straight builder (builder.addString text) :=
  ⟨builder.string_grows text, ⟨[], by simp⟩, fun _ => rfl, rfl⟩

theorem compute_straight (builder : Builder) (width : Nat) (instr : Operand → Instr)
    (computes : ∀ dst, (instr dst).computes = true) : Straight builder (builder.compute width instr) :=
  (builder.temp_straight width).trans (emit_straight _ _ (computes _))

theorem pass_straight (builder : Builder) (position : Nat) (operands : List Operand) :
    Straight builder (builder.pass position operands) := by
  induction operands generalizing builder position with
  | nil => exact .refl builder
  | cons operand tail ih => exact (builder.emit_straight _ rfl).trans (ih _ (position + 1))

theorem invoke_straight (builder : Builder) (callee : Symbol) (operands : List Operand) :
    Straight builder (builder.invoke callee operands) :=
  (builder.pass_straight 1 operands).trans (emit_straight _ _ rfl)

end Builder

end ThreeAddress
