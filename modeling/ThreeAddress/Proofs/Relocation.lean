import ThreeAddress.Proofs.Allocation
import ThreeAddress.Proofs.Correspondence

set_option autoImplicit false

namespace ThreeAddress

open Lower

def Handle.since {k : Handle.Kind} (first h : Handle k) : Handle k := .ofNat (h.index + (2 ^ 32 - first.index))

theorem Handle.since_raise {k : Handle.Kind} (first h : Handle k) (n : Nat) :
    (first.raise n).since (h.raise n) = first.since h := by
  have bound := first.index_lt
  apply index_injective
  simp only [since, raise, index_of_nat]
  omega

theorem Handle.raise_since {k : Handle.Kind} (first h : Handle k) : first.raise (first.since h).index = h := by
  have bound := first.index_lt
  have inside := h.index_lt
  apply index_injective
  simp only [since, raise, index_of_nat]
  omega

structure Numbering where
  label : Handle .label → Handle .label
  string : Handle .string → Handle .string

namespace Numbering

def raise (labels strings : Nat) : Numbering := ⟨(·.raise labels), (·.raise strings)⟩

def since (label : Handle .label) (string : Handle .string) : Numbering := ⟨label.since, string.since⟩

def after (second first : Numbering) : Numbering := ⟨second.label ∘ first.label, second.string ∘ first.string⟩

theorem raise_zero : raise 0 0 = ⟨id, id⟩ := by
  simp only [raise, Handle.raise_zero]
  rfl

theorem since_after_raise (label : Handle .label) (string : Handle .string) (labels strings : Nat) :
    (since (label.raise labels) (string.raise strings)).after (raise labels strings) = since label string := by
  simp only [after, since, raise, Numbering.mk.injEq]
  constructor
  · funext h
    exact label.since_raise h labels
  · funext h
    exact string.since_raise h strings

end Numbering

def Operand.renumber (map : Numbering) : Operand → Operand
  | .literal (.string id) width => .literal (.string (map.string id)) width
  | .literal (.int value) width => .literal (.int value) width
  | .literal (.bool value) width => .literal (.bool value) width
  | .slot place => .slot place
  | .temp place => .temp place

def Numbering.translation (map : Numbering) : Translation := ⟨.identity, Operand.renumber map, map.label⟩

def Instr.renumber (map : Numbering) : Instr → Instr := Instr.translate map.translation

def Quad.renumber (map : Numbering) (quad : Quad) : Quad := ⟨quad.labels.map map.label, quad.instr.renumber map⟩

def Procedure.relocate (procedure : Procedure) (id : Handle .procedure) (map : Numbering) : Procedure :=
  { procedure with id := id, quads := procedure.quads.map (Quad.renumber map) }

theorem Operand.renumber_after (second first : Numbering) (operand : Operand) :
    (operand.renumber first).renumber second = operand.renumber (second.after first) := by
  cases operand with
  | literal value width => cases value <;> rfl
  | slot place => rfl
  | temp place => rfl

theorem Quad.renumber_after (second first : Numbering) (quad : Quad) :
    (quad.renumber first).renumber second = quad.renumber (second.after first) := by
  obtain ⟨labels, instr⟩ := quad
  simp only [Quad.renumber, List.map_map, Quad.mk.injEq]
  refine ⟨rfl, ?_⟩
  cases instr <;> simp only [Instr.renumber, Instr.translate, Numbering.translation, Operand.renumber_after] <;> rfl

theorem Operand.renumber_id (operand : Operand) : operand.renumber ⟨id, id⟩ = operand := by
  cases operand with
  | literal value width => cases value <;> rfl
  | slot place => rfl
  | temp place => rfl

theorem Quad.renumber_id (quad : Quad) : quad.renumber ⟨id, id⟩ = quad := by
  obtain ⟨labels, instr⟩ := quad
  simp only [Quad.renumber, List.map_id, Quad.mk.injEq, true_and]
  cases instr <;> simp only [Instr.renumber, Instr.translate, Numbering.translation, Operand.renumber_id, id_eq]
  rfl

theorem Procedure.relocate_self (procedure : Procedure) :
    procedure.relocate procedure.id (.raise 0 0) = procedure := by
  rw [relocate, Numbering.raise_zero, funext Quad.renumber_id, Array.map_id']

structure Apart (labels strings : Nat) (left right : Program) : Prop where
  globals : ∀ id, right.global? id = left.global? id
  nextLabel : right.nextLabel = left.nextLabel.raise labels
  nextString : right.nextString = left.nextString.raise strings

structure Relocation where
  source : Program
  target : Program
  labels : Nat
  strings : Nat
  apart : Apart labels strings source target

namespace Relocation

open Bridge

variable (move : Relocation)

def numbering : Numbering := .raise move.labels move.strings

structure Alike (left right : Builder) : Prop where
  program : ∃ taken texts,
    left.program = move.source.allocate taken texts ∧ right.program = move.target.allocate taken texts
  procedure : right.procedure = left.procedure.relocate right.procedure.id move.numbering

def bridge : Bridge Violation Builder := ⟨.builder, move.numbering.translation, fun _ => True, move.Alike⟩

section Alike

variable {move} {left right : Builder}

theorem Alike.next_label (alike : move.Alike left right) : right.nextLabel = move.numbering.label left.nextLabel := by
  obtain ⟨taken, texts, source, target⟩ := alike.program
  simp only [Builder.nextLabel, source, target, Program.allocate, move.apart.nextLabel, numbering, Numbering.raise,
    Handle.raise_raise, Nat.add_comm]

theorem Alike.next_string (alike : move.Alike left right) :
    right.nextString = move.numbering.string left.nextString := by
  obtain ⟨taken, texts, source, target⟩ := alike.program
  simp only [Builder.nextString, source, target, Program.allocate, move.apart.nextString, numbering, Numbering.raise,
    Handle.raise_raise, Nat.add_comm]

theorem Alike.slot? (alike : move.Alike left right) (symbol : Handle .symbol) :
    right.slot? symbol = left.slot? symbol := by
  obtain ⟨taken, texts, source, target⟩ := alike.program
  have shared := move.apart.globals symbol
  rw [Builder.slot?, Builder.slot?, alike.procedure, source, target]
  exact congrArg (Option.or _) shared

-- Steps on the procedure do not look at its handle or its quads.
theorem Alike.on_procedure (alike : move.Alike left right) (step other : Procedure → Procedure)
    (kept : ∀ id, other (left.procedure.relocate id move.numbering) =
      (step left.procedure).relocate id move.numbering) :
    move.Alike { left with procedure := step left.procedure } { right with procedure := other right.procedure } := by
  have moved : other right.procedure = (step left.procedure).relocate right.procedure.id move.numbering := by
    rw [alike.procedure]
    exact kept _
  refine ⟨alike.program, ?_⟩
  change other right.procedure = (step left.procedure).relocate (other right.procedure).id move.numbering
  rw [moved]
  rfl

theorem Alike.push (alike : move.Alike left right) (quad : Quad) :
    move.Alike { left with procedure := left.procedure.push quad }
      { right with procedure := right.procedure.push (quad.renumber move.numbering) } := by
  refine alike.on_procedure (·.push quad) (·.push (quad.renumber move.numbering)) fun id => ?_
  simp [Procedure.push, Procedure.relocate]

theorem Alike.emit (alike : move.Alike left right) (instr : Instr) :
    move.Alike (left.emit instr) (right.emit (instr.renumber move.numbering)) :=
  alike.push (.plain instr)

theorem Alike.place (alike : move.Alike left right) (label : Handle .label) :
    move.Alike (left.place label) (right.place (move.numbering.label label)) :=
  have pushed := alike.push (.landing label)
  ⟨pushed.program, pushed.procedure⟩

theorem Alike.allocate (alike : move.Alike left right) (taken : Nat) (texts : List String) :
    move.Alike { left with program := left.program.allocate taken texts }
      { right with program := right.program.allocate taken texts } := by
  obtain ⟨before, earlier, source, target⟩ := alike.program
  refine ⟨⟨before + taken, earlier ++ texts, ?_, ?_⟩, alike.procedure⟩
  · rw [← Program.allocate_allocate, ← source]
  · rw [← Program.allocate_allocate, ← target]

theorem Alike.bind_formals (alike : move.Alike left right) (formals : List Symbol) :
    move.Alike (left.bindFormals formals) (right.bindFormals formals) := by
  induction formals generalizing left right with
  | nil => exact alike
  | cons formal tail ih => exact ih (alike.on_procedure (·.bindFormal formal) (·.bindFormal formal) fun _ => rfl)

theorem Alike.receive (alike : move.Alike left right) (position : Nat) (formals : List Slot) :
    move.Alike (left.receive position formals) (right.receive position formals) := by
  induction formals generalizing left right position with
  | nil => exact alike
  | cons formal tail ih => exact ih (alike.emit (.getArg position (.slot formal))) (position + 1)

theorem Alike.enter (alike : move.Alike left right) (definition : Function) :
    move.Alike (left.enter definition) (right.enter definition) := by
  have bound := alike.bind_formals definition.formals
  have formals : (right.bindFormals definition.formals).procedure.formals =
      (left.bindFormals definition.formals).procedure.formals := by
    rw [bound.procedure]
    rfl
  rw [Builder.enter, Builder.enter, formals]
  exact bound.receive 1 _

end Alike

section Steps

variable {move}

theorem emit_mirrors (instr : Instr) :
    move.bridge.Carries id (emit instr) (emit (instr.renumber move.numbering)) :=
  carries_ok _ _ _ fun _ _ alike => ⟨(), _, _, rfl, rfl, alike.emit instr⟩

theorem on_procedure_mirrors (step : Procedure → Procedure)
    (kept : ∀ procedure id map, step (Procedure.relocate procedure id map) = (step procedure).relocate id map) :
    move.bridge.Carries id (onProcedure step) (onProcedure step) :=
  carries_ok _ _ _ fun _ _ alike => ⟨(), _, _, rfl, rfl, alike.on_procedure step step fun id => kept _ id _⟩

theorem fresh_temp_mirrors (width : Nat) :
    move.bridge.Carries (Operand.renumber move.numbering) (freshTemp width) (freshTemp width) := by
  apply carries_ok
  intro left right alike
  have same : right.nextTemp width = left.nextTemp width := by
    rw [Builder.nextTemp, alike.procedure]
    rfl
  refine ⟨.temp (left.nextTemp width), left.addTemp width, right.addTemp width, rfl, ?_, ?_⟩
  · rw [fresh_temp_run, same]
    rfl
  · exact alike.on_procedure (fun procedure => (procedure.freshTemp width).2)
      (fun procedure => (procedure.freshTemp width).2) fun _ => rfl

theorem fresh_label_mirrors : move.bridge.Carries move.numbering.label freshLabel freshLabel := by
  apply carries_ok
  intro left right alike
  refine ⟨left.nextLabel, left.addLabel, right.addLabel, fresh_label_run left, ?_, ?_⟩
  · rw [fresh_label_run, alike.next_label]
  · have allocated := alike.allocate 1 []
    rwa [← left.program_add_label, ← right.program_add_label] at allocated

theorem pool_string_mirrors (text : String) :
    move.bridge.Carries (Operand.renumber move.numbering) (poolString text) (poolString text) := by
  apply carries_ok
  intro left right alike
  refine ⟨_, left.addString text, right.addString text, pool_string_run text left, ?_, ?_⟩
  · rw [pool_string_run, alike.next_string]
    rfl
  · have allocated := alike.allocate 0 [text]
    rwa [← left.program_add_string, ← right.program_add_string] at allocated

theorem storage_mirrors (symbol : Symbol) :
    move.bridge.Carries (Operand.renumber move.numbering) (storage symbol) (storage symbol) := by
  intro left right alike
  rw [storage_run, storage_run, alike.slot?]
  cases left.slot? symbol.id with
  | none => exact ⟨rfl, alike⟩
  | some slot => exact ⟨rfl, alike⟩

theorem pass_mirrors (position : Nat) (operands : List Operand) :
    move.bridge.Carries id (pass position operands)
      (pass position (operands.map (Operand.renumber move.numbering))) := by
  induction operands generalizing position with
  | nil => exact carries_pure id ()
  | cons operand tail ih =>
      exact carries_bind (emit_mirrors (.setArg position operand)) fun _ _ => ih (position + 1)

end Steps

theorem sound : move.bridge.Sound where
  int _ _ := rfl
  bool _ _ := rfl
  text _ := trivial
  emit := emit_mirrors
  place label := carries_ok _ _ _ fun _ _ alike => ⟨(), _, _, rfl, rfl, alike.place label⟩
  freshTemp := fresh_temp_mirrors
  freshLabel := fresh_label_mirrors
  poolString := pool_string_mirrors
  storage symbol _ := storage_mirrors symbol
  bindLocal _ _ := on_procedure_mirrors _ fun _ _ _ => rfl
  bindFormal _ _ := on_procedure_mirrors _ fun _ _ _ => rfl
  pass _ _ operands _ _ := pass_mirrors 1 operands

end Relocation

theorem Stmt.lower_all_mirrors (move : Relocation) (stmts : List Stmt) :
    move.bridge.Carries id (Stmt.lowerAll stmts) (Stmt.lowerAll stmts) := by
  have carried := Stmt.lower_all_carries move.sound stmts fun _ _ => trivial
  have same : Stmt.renameAll move.bridge.into.toRenaming stmts = stmts := Stmt.rename_all_identity stmts
  have lowered : Stmt.lowerAllIn move.bridge.steps stmts = _ := Stmt.lower_all_in_builder stmts
  rw [same, lowered] at carried
  exact carried

theorem Function.lower_mirrors (move : Relocation) (definition : Function) (left right : Builder)
    (alike : move.Alike left right) :
    (∃ builder copy, definition.lower left = .ok () builder ∧ definition.lower right = .ok () copy ∧
      move.Alike builder copy) ∨
    ∃ violation builder copy, definition.lower left = .error violation builder ∧
      definition.lower right = .error violation copy ∧ move.Alike builder copy := by
  rw [Function.lower_run, Function.lower_run]
  rcases (Stmt.lower_all_mirrors move definition.body _ _ (alike.enter definition)).cases with
    ⟨_, last, copy, ran, matched, reached⟩ | ⟨violation, last, copy, ran, matched, stopped⟩
  · rw [ran, matched]
    exact .inl ⟨last.leave, copy.leave, rfl, rfl, reached.program, reached.procedure⟩
  · rw [ran, matched]
    exact .inr ⟨violation, last, copy, rfl, congrArg (EStateM.Result.error · copy) violation.rename_identity, stopped⟩

end ThreeAddress
