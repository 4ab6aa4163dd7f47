import Mathlib.Data.Set.Function
import ThreeAddress.Proofs.Declarations
import ThreeAddress.Proofs.Maps

set_option autoImplicit false

namespace ThreeAddress

open Lower

structure Renaming where
  handle : Handle .symbol → Handle .symbol
  name : String → String

def Renaming.identity : Renaming := ⟨id, id⟩

structure Translation extends Renaming where
  operand : Operand → Operand
  label : Handle .label → Handle .label

def Instr.translate (into : Translation) : Instr → Instr
  | .assign dst src => .assign (into.operand dst) (into.operand src)
  | .unary op dst src => .unary op (into.operand dst) (into.operand src)
  | .binary op dst lhs rhs => .binary op (into.operand dst) (into.operand lhs) (into.operand rhs)
  | .ifZero cond target => .ifZero (into.operand cond) (into.label target)
  | .goto target => .goto (into.label target)
  | .nop => .nop
  | .call callee name => .call (into.handle callee) (into.name name)
  | .setArg position src => .setArg position (into.operand src)
  | .getArg position dst => .getArg position (into.operand dst)
  | .setRet src => .setRet (into.operand src)
  | .getRet dst => .getRet (into.operand dst)
  | .ret => .ret
  | .magic dst => .magic (into.operand dst)
  | .write src type => .write (into.operand src) type
  | .read dst type => .read (into.operand dst) type

section Source

variable (via : Renaming)

def Symbol.rename (symbol : Symbol) : Symbol :=
  { symbol with id := via.handle symbol.id, name := via.name symbol.name }

mutual

def Expr.rename : Expr → Expr
  | .int type value => .int type value
  | .bool type value => .bool type value
  | .string type text => .string type text
  | .eh type => .eh type
  | .name type symbol => .name type (symbol.rename via)
  | .call type callee args => .call type (callee.rename via) (Expr.renameAll args)
  | .unary type op operand => .unary type op operand.rename
  | .binary type op lhs rhs => .binary type op lhs.rename rhs.rename

def Expr.renameAll : List Expr → List Expr
  | [] => []
  | expr :: tail => expr.rename :: Expr.renameAll tail

end

mutual

def Stmt.rename : Stmt → Stmt
  | .localVariable symbol => .localVariable (symbol.rename via)
  | .localFormal symbol => .localFormal (symbol.rename via)
  | .localFunction symbol formals body =>
      .localFunction (symbol.rename via) (formals.map (Symbol.rename via)) (Stmt.renameAll body)
  | .assign dst src => .assign (dst.rename via) (src.rename via)
  | .maybe dst first second => .maybe (dst.rename via) (first.rename via) (second.rename via)
  | .increment target => .increment (target.rename via)
  | .decrement target => .decrement (target.rename via)
  | .write value => .write (value.rename via)
  | .read target => .read (target.rename via)
  | .ifThen cond body => .ifThen (cond.rename via) (Stmt.renameAll body)
  | .ifElse cond positive negative =>
      .ifElse (cond.rename via) (Stmt.renameAll positive) (Stmt.renameAll negative)
  | .whileDo cond body => .whileDo (cond.rename via) (Stmt.renameAll body)
  | .call callee args => .call (callee.rename via) (Expr.renameAll via args)
  | .ret none => .ret none
  | .ret (some value) => .ret (some (value.rename via))

def Stmt.renameAll : List Stmt → List Stmt
  | [] => []
  | stmt :: tail => stmt.rename :: Stmt.renameAll tail

end

def Function.rename (function : Function) : Function :=
  ⟨function.symbol.rename via, function.formals.map (Symbol.rename via),
    Stmt.renameAll via function.body⟩

def Decl.rename : Decl → Decl
  | .global symbol => .global (symbol.rename via)
  | .formal symbol => .formal (symbol.rename via)
  | .function definition => .function (definition.rename via)

@[simp] theorem Symbol.type_rename (symbol : Symbol) : (symbol.rename via).type = symbol.type := rfl

@[simp] theorem Expr.type_rename (expr : Expr) : (expr.rename via).type = expr.type := by
  cases expr <;> simp [Expr.rename, Expr.type]

end Source

section Identity

@[simp] theorem Symbol.rename_identity (symbol : Symbol) : symbol.rename .identity = symbol := rfl

mutual

theorem Expr.rename_identity (expr : Expr) : expr.rename .identity = expr := by
  cases expr <;> simp [Expr.rename, Expr.rename_identity, Expr.rename_all_identity]

theorem Expr.rename_all_identity (exprs : List Expr) : Expr.renameAll .identity exprs = exprs := by
  cases exprs <;> simp [Expr.renameAll, Expr.rename_identity, Expr.rename_all_identity]

end

mutual

theorem Stmt.rename_identity (stmt : Stmt) : stmt.rename .identity = stmt := by
  cases stmt with
  | localFunction symbol formals body =>
      have same : Symbol.rename .identity = id := funext Symbol.rename_identity
      simp [Stmt.rename, same, Stmt.rename_all_identity body]
  | ret value => cases value <;> simp [Stmt.rename, Expr.rename_identity]
  | _ => simp [Stmt.rename, Expr.rename_identity, Expr.rename_all_identity, Stmt.rename_all_identity]

theorem Stmt.rename_all_identity (stmts : List Stmt) : Stmt.renameAll .identity stmts = stmts := by
  cases stmts <;> simp [Stmt.renameAll, Stmt.rename_identity, Stmt.rename_all_identity]

end

end Identity

section Handles

mutual

def Expr.ids : Expr → List (Handle .symbol)
  | .int .. | .bool .. | .string .. | .eh _ => []
  | .name _ symbol => [symbol.id]
  | .call _ callee args => callee.id :: Expr.idsAll args
  | .unary _ _ operand => operand.ids
  | .binary _ _ lhs rhs => lhs.ids ++ rhs.ids

def Expr.idsAll : List Expr → List (Handle .symbol)
  | [] => []
  | expr :: tail => expr.ids ++ Expr.idsAll tail

end

mutual

def Stmt.ids : Stmt → List (Handle .symbol)
  | .localVariable symbol | .localFormal symbol => [symbol.id]
  | .localFunction symbol formals body => symbol.id :: (formals.map Symbol.id ++ Stmt.idsAll body)
  | .assign dst src => dst.ids ++ src.ids
  | .maybe dst first second => dst.ids ++ (first.ids ++ second.ids)
  | .increment expr | .decrement expr | .write expr | .read expr | .ret (some expr) => expr.ids
  | .ifThen cond body | .whileDo cond body => cond.ids ++ Stmt.idsAll body
  | .ifElse cond positive negative => cond.ids ++ (Stmt.idsAll positive ++ Stmt.idsAll negative)
  | .call callee args => callee.id :: Expr.idsAll args
  | .ret none => []

def Stmt.idsAll : List Stmt → List (Handle .symbol)
  | [] => []
  | stmt :: tail => stmt.ids ++ Stmt.idsAll tail

end

def Function.ids (function : Function) : List (Handle .symbol) :=
  function.symbol.id :: (function.formals.map Symbol.id ++ Stmt.idsAll function.body)

def Decl.ids : Decl → List (Handle .symbol)
  | .global symbol | .formal symbol => [symbol.id]
  | .function definition => definition.ids

end Handles

def HandleMap.transport {k : Handle.Kind} {α : Type} (key : Handle k → Handle k) (value : α → α)
    (map : HandleMap k α) : HandleMap k α :=
  map.entries.foldr (fun entry moved => moved.insert (key entry.1) (value entry.2)) .empty

section Target

variable (via : Renaming)

def Slot.rename (slot : Slot) : Slot :=
  { slot with symbol := via.handle slot.symbol, name := via.name slot.name }

def Operand.rename : Operand → Operand
  | .literal value width => .literal value width
  | .slot place => .slot (place.rename via)
  | .temp place => .temp place

def Renaming.translation : Translation := ⟨via, Operand.rename via, id⟩

def Instr.rename : Instr → Instr := Instr.translate via.translation

def Quad.rename (quad : Quad) : Quad := { quad with instr := quad.instr.rename via }

def HandleMap.rename (table : HandleMap .symbol Slot) : HandleMap .symbol Slot :=
  table.transport via.handle (Slot.rename via)

def Procedure.rename (procedure : Procedure) : Procedure :=
  { procedure with
    name := via.name procedure.name
    formals := procedure.formals.map (Slot.rename via)
    locals := procedure.locals.map (Slot.rename via)
    quads := procedure.quads.map (Quad.rename via)
    bindings := procedure.bindings.rename via }

-- The entry procedure was not declared and keeps its name.
def Procedure.renameAt (index : Nat) (procedure : Procedure) : Procedure :=
  if index = 0 then { procedure.rename via with name := procedure.name } else procedure.rename via

def Program.rename (program : Program) : Program :=
  { program with
    procedures := ⟨program.procedures.items.mapIdx (Procedure.renameAt via)⟩
    globals := program.globals.rename via }

def Violation.rename : Violation → Violation
  | .functionAtLocalScope name => .functionAtLocalScope (via.name name)
  | .formalAtGlobalScope name => .formalAtGlobalScope (via.name name)
  | .unboundIdentifier name => .unboundIdentifier (via.name name)
  | .voidValue name => .voidValue (via.name name)
  | .notAFunction name => .notAFunction (via.name name)

def Event.rename : Event → Event
  | .labelPlaced procedure label => .labelPlaced (via.name procedure) label
  | .procedureLowered procedure quads temps => .procedureLowered (via.name procedure) quads temps
  | .programLowered procedures globals strings => .programLowered procedures globals strings
  | .globalRebound name => .globalRebound (via.name name)

def Builder.rename (builder : Builder) : Builder :=
  ⟨builder.program.rename via, builder.procedure.rename via, builder.log.map (Event.rename via)⟩

theorem Violation.rename_identity (violation : Violation) : violation.rename .identity = violation := by
  cases violation <;> rfl

end Target

namespace HandleMap

section Transport

variable {k : Handle.Kind} {α : Type} {key : Handle k → Handle k} {value : α → α}

theorem transport_cons (first : Handle k × α) (tail : List (Handle k × α)) :
    transport key value ⟨first :: tail⟩ = (transport key value ⟨tail⟩).insert (key first.1) (value first.2) := rfl

theorem transport_ascending (map : HandleMap k α) : (map.transport key value).Ascending := by
  obtain ⟨entries⟩ := map
  induction entries with
  | nil => exact .nil
  | cons first tail ih => exact ih.insert _ (key first.1) (value first.2)

variable {known : Set (Handle k)} (distinct : Set.InjOn key known)

include distinct

theorem get?_transport (map : HandleMap k α) (within : ∀ entry ∈ map.entries, entry.1 ∈ known) (h : Handle k)
    (member : h ∈ known) : (map.transport key value).get? (key h) = (map.get? h).map value := by
  obtain ⟨entries⟩ := map
  induction entries with
  | nil => rfl
  | cons first tail ih =>
      obtain ⟨head, rest⟩ := List.forall_mem_cons.mp within
      rw [transport_cons, get?_insert, ih rest]
      change _ = (lookup h (first :: tail)).map value
      rw [lookup]
      by_cases same : h = first.1
      · rw [if_pos same, if_pos (congrArg key same), Option.map_some]
      · have apart : key h ≠ key first.1 := fun equal => same (distinct member head equal)
        rw [if_neg same, if_neg apart]
        rfl

theorem transport_insert (map : HandleMap k α) (within : ∀ entry ∈ map.entries, entry.1 ∈ known) (h : Handle k)
    (member : h ∈ known) (new : α) :
    (map.insert h new).transport key value = (map.transport key value).insert (key h) (value new) := by
  obtain ⟨entries⟩ := map
  change transport key value ⟨insertEntry h new entries⟩ = _
  induction entries with
  | nil => rfl
  | cons first tail ih =>
      obtain ⟨head, rest⟩ := List.forall_mem_cons.mp within
      have ascending : (transport key value ⟨tail⟩).Ascending := transport_ascending _
      rw [insertEntry, transport_cons]
      by_cases before : h.val < first.1.val
      · rw [if_pos before, transport_cons, transport_cons]
      · by_cases same : h = first.1
        · rw [if_neg before, if_pos same, transport_cons, ← same, ascending.insert_insert]
        · have apart : key first.1 ≠ key h := fun equal => same (distinct member head equal.symm)
          rw [if_neg before, if_neg same, transport_cons, ih rest, ascending.insert_comm _ _ _ _ apart]

theorem size_transport (map : HandleMap k α) (within : ∀ entry ∈ map.entries, entry.1 ∈ known)
    (ascending : map.Ascending) : (map.transport key value).size = map.size := by
  obtain ⟨entries⟩ := map
  change entries.Pairwise _ at ascending
  induction entries with
  | nil => rfl
  | cons first tail ih =>
      obtain ⟨head, rest⟩ := List.forall_mem_cons.mp within
      obtain ⟨above, tailAscends⟩ := List.pairwise_cons.mp ascending
      have absent : (transport key value ⟨tail⟩).get? (key first.1) = none := by
        rw [get?_transport distinct ⟨tail⟩ rest first.1 head]
        change (lookup first.1 tail).map value = none
        rw [lookup_before first.1 tail above, Option.map_none]
      rw [transport_cons, size_insert _ _ _ absent, ih rest tailAscends]
      rfl

end Transport

structure Within (known : Set (Handle .symbol)) (table : HandleMap .symbol Slot) : Prop where
  ascending : table.Ascending
  keys : ∀ entry ∈ table.entries, entry.1 ∈ known

theorem Within.empty (known : Set (Handle .symbol)) : Within known .empty := by
  constructor
  · exact .nil
  · exact fun _ member => absurd member List.not_mem_nil

theorem Within.insert {known : Set (Handle .symbol)} {table : HandleMap .symbol Slot} (within : Within known table)
    (id : Handle .symbol) (slot : Slot) (member : id ∈ known) : Within known (table.insert id slot) := by
  constructor
  · exact within.ascending.insert table id slot
  · intro entry listed
    rcases mem_insert_entry id slot table.entries entry listed with rfl | old
    · exact member
    · exact within.keys entry old

end HandleMap

structure Builder.Within (known : Set (Handle .symbol)) (builder : Builder) : Prop where
  bindings : builder.procedure.bindings.Within known
  globals : builder.program.globals.Within known

section Bindings

variable {via : Renaming} {known : Set (Handle .symbol)} (distinct : Set.InjOn via.handle known)

include distinct

theorem bound_renames (table : HandleMap .symbol Slot) (within : table.Within known) (symbol : Symbol)
    (member : symbol.id ∈ known) :
    (table.rename via).insert (symbol.rename via).id (.ofSymbol (symbol.rename via)) =
      (table.insert symbol.id (.ofSymbol symbol)).rename via :=
  (HandleMap.transport_insert distinct table within.keys symbol.id member (.ofSymbol symbol)).symm

theorem bind_local_renames (builder : Builder) (within : builder.Within known) (symbol : Symbol)
    (member : symbol.id ∈ known) :
    (builder.rename via).bindLocal (symbol.rename via) = (builder.bindLocal symbol).rename via := by
  have moved := bound_renames distinct _ within.bindings symbol member
  simp only [Builder.bindLocal, Builder.rename, Procedure.bindLocal, Procedure.rename, Array.map_push, ← moved]
  rfl

theorem bind_formal_renames (builder : Builder) (within : builder.Within known) (symbol : Symbol)
    (member : symbol.id ∈ known) :
    (builder.rename via).bindFormal (symbol.rename via) = (builder.bindFormal symbol).rename via := by
  have moved := bound_renames distinct _ within.bindings symbol member
  simp only [Builder.bindFormal, Builder.rename, Procedure.bindFormal, Procedure.rename, Array.map_push, ← moved]
  rfl

end Bindings

end ThreeAddress
