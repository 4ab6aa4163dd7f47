import Mathlib.Algebra.Order.Group.Multiset
import Mathlib.Data.List.ReduceOption
import Mathlib.Tactic.Abel
import ThreeAddress.Proofs.Layout
import ThreeAddress.Proofs.Temporaries

set_option autoImplicit false

namespace ThreeAddress

open Lower

-- Labels are compared as multisets: a construct places its own labels after those of the
-- blocks inside it, so the order of placing is not the order of the counter.
def labelBlock (first count : Nat) : Multiset (Handle .label) :=
  ((List.range' first count).map Handle.ofNat : List (Handle .label))

theorem label_block_one (first : Nat) : labelBlock first 1 = {.ofNat first} := rfl

theorem label_block_add (first a b : Nat) :
    labelBlock first (a + b) = labelBlock first a + labelBlock (first + a) b := by
  simp [labelBlock, ← List.map_append, List.range'_append_1]

theorem label_block_nodup (first count : Nat) (fits : count ≤ 2 ^ 32) : (labelBlock first count).Nodup := by
  rw [labelBlock, Multiset.coe_nodup]
  exact Handle.block_nodup first count fits

structure Labelled (placed targeted : Multiset (Handle .label)) (code : List Quad) : Prop where
  placed : (code.flatMap Quad.labels : Multiset (Handle .label)) = placed
  targeted : (code.filterMap Quad.jumpTarget? : Multiset (Handle .label)) = targeted
  landings : ∀ quad ∈ code, quad.labels ≠ [] → ∃ label, quad = .landing label

namespace Labelled

variable {placed targeted placed' targeted' : Multiset (Handle .label)} {code front back : List Quad}

theorem append (left : Labelled placed targeted front) (right : Labelled placed' targeted' back) :
    Labelled (placed + placed') (targeted + targeted') (front ++ back) := by
  refine ⟨?_, ?_, ?_⟩
  · rw [List.flatMap_append, ← Multiset.coe_add, left.placed, right.placed]
  · rw [List.filterMap_append, ← Multiset.coe_add, left.targeted, right.targeted]
  · intro quad member
    rcases List.mem_append.mp member with inFront | inBack
    · exact left.landings quad inFront
    · exact right.landings quad inBack

theorem plain (code : List Instr) (still : ∀ instr ∈ code, instr.jumpTarget? = none) :
    Labelled 0 0 (code.map .plain) := by
  refine ⟨?_, ?_, ?_⟩
  · simp [List.flatMap_map, Quad.plain]
  · have empty : (code.map Quad.plain).filterMap Quad.jumpTarget? = [] := by
      simpa [List.filterMap_eq_nil_iff, Quad.jumpTarget?, Quad.plain] using still
    rw [empty]
    rfl
  · simp [Quad.plain]

theorem jump (instr : Instr) (label : Handle .label) (jumps : instr.jumpTarget? = some label) :
    Labelled 0 {label} [.plain instr] :=
  ⟨rfl, by simp [Quad.jumpTarget?, Quad.plain, jumps], by simp [Quad.plain]⟩

theorem landing (label : Handle .label) : Labelled {label} 0 [.landing label] :=
  ⟨rfl, rfl, by simp [Quad.landing]⟩

end Labelled

theorem Layout.labelled {first count loops : Nat} {code : List Quad} (layout : Layout first count loops code) :
    Labelled (labelBlock first count) (labelBlock first count) code := by
  induction layout with
  | plain first code still => exact .plain code still
  | append first a b m n code more front back left right =>
      rw [label_block_add]
      exact left.append right
  | skip first count loops cond body inside ih =>
      have code := (Labelled.jump (.ifZero cond (.ofNat first)) _ rfl).append (ih.append (.landing (.ofNat first)))
      rw [label_block_add, label_block_one]
      convert code using 1
      · abel
      · abel
      · rfl
  | choose first a b m n cond positive negative taken missed left right =>
      have chosen := (Labelled.jump (.ifZero cond (.ofNat first)) _ rfl).append
        (left.append (.jump (.goto (.ofNat (first + 1))) _ rfl))
      have others := (Labelled.landing (.ofNat first)).append (right.append (.landing (.ofNat (first + 1))))
      rw [label_block_add first 2, label_block_add first 1 1, label_block_one, label_block_one, label_block_add]
      convert chosen.append others using 1
      · abel
      · abel
      · simp
  | loop first count loops cond test still body inside ih =>
      have head := (Labelled.landing (.ofNat first)).append ((Labelled.plain test still).append
        (.jump (.ifZero cond (.ofNat (first + 1))) _ rfl))
      have back := ih.append ((Labelled.jump (.goto (.ofNat first)) _ rfl).append (.landing (.ofNat (first + 1))))
      rw [label_block_add first 2, label_block_add first 1 1, label_block_one, label_block_one]
      convert head.append back using 1
      · abel
      · abel
      · simp

theorem Function.lower_labels (definition : Function) (session : Session) (builder : Builder) (first : Nat)
    (lowered : definition.lower (session.openProcedure definition.symbol.name) = .ok () builder)
    (counter : session.program.nextLabel = .ofNat first) :
    Labelled (labelBlock first (Stmt.labelCountAll definition.body))
      (labelBlock first (Stmt.labelCountAll definition.body)) builder.quads :=
  (definition.lower_lays session builder first lowered counter).labelled

inductive LabelBlocks : Nat → List Procedure → Nat → Prop where
  | nil (first : Nat) : LabelBlocks first [] first
  | cons (first count last : Nat) (procedure : Procedure) (tail : List Procedure)
      (owns : Labelled (labelBlock first count) (labelBlock first count) procedure.quads.toList)
      (rest : LabelBlocks (first + count) tail last) : LabelBlocks first (procedure :: tail) last

theorem LabelBlocks.append {first middle last : Nat} {front back : List Procedure}
    (left : LabelBlocks first front middle) (right : LabelBlocks middle back last) :
    LabelBlocks first (front ++ back) last := by
  induction left with
  | nil first => exact right
  | cons first count middle procedure tail owns rest ih =>
      exact .cons first count last procedure _ owns (ih right)

theorem Session.Runs.label_blocks {before after : Session} {decls : List Decl} (runs : Runs before decls after)
    (first : Nat) (counter : before.program.nextLabel = .ofNat first)
    (blocks : LabelBlocks 0 before.procedures first) :
    after.program.nextLabel = .ofNat (first + labelCount decls) ∧
      LabelBlocks 0 after.procedures (first + labelCount decls) := by
  induction runs generalizing first with
  | nil session => exact ⟨counter, blocks⟩
  | global session after symbol tail rest ih => exact ih first counter blocks
  | function session after definition builder tail lowered rest ih =>
      have owns := definition.lower_labels session builder first lowered counter
      have advanced : builder.nextLabel = .ofNat (first + Stmt.labelCountAll definition.body) := by
        obtain ⟨last, trace, rfl⟩ := definition.lower_trace _ builder lowered
        rw [← definition.labels_marks]
        exact trace.counter first counter
      have grown : LabelBlocks 0 (session.close builder).procedures
          (first + Stmt.labelCountAll definition.body) := by
        rw [procedures_close]
        exact blocks.append (.cons first _ _ builder.procedure [] owns (.nil _))
      have total : labelCount (.function definition :: tail) =
          Stmt.labelCountAll definition.body + labelCount tail := rfl
      rw [total, ← Nat.add_assoc]
      exact ih _ advanced grown

namespace LabelBlocks

variable {first last : Nat} {procedures : List Procedure}

theorem totals (blocks : LabelBlocks first procedures last) :
    ∃ count, last = first + count ∧
      (procedures.flatMap Procedure.labels : Multiset (Handle .label)) = labelBlock first count ∧
      (procedures.flatMap fun procedure => procedure.jumps.reduceOption : Multiset (Handle .label)) =
        labelBlock first count := by
  induction blocks with
  | nil first => exact ⟨0, rfl, rfl, rfl⟩
  | cons first count last procedure tail owns rest ih =>
      obtain ⟨more, ends, placed, targeted⟩ := ih
      have jumps : procedure.jumps.reduceOption = procedure.quads.toList.filterMap Quad.jumpTarget? := by
        simp [Procedure.jumps, List.reduceOption, List.filterMap_map]
      refine ⟨count + more, by rw [ends, Nat.add_assoc], ?_, ?_⟩
      · rw [List.flatMap_cons, ← Multiset.coe_add, placed, label_block_add, ← owns.placed]
        rfl
      · rw [List.flatMap_cons, ← Multiset.coe_add, targeted, label_block_add, ← owns.targeted, jumps]

theorem member (blocks : LabelBlocks first procedures last) (procedure : Procedure)
    (listed : procedure ∈ procedures) :
    ∃ start count, first ≤ start ∧ start + count ≤ last ∧
      Labelled (labelBlock start count) (labelBlock start count) procedure.quads.toList := by
  induction blocks with
  | nil first => cases listed
  | cons first count last head tail owns rest ih =>
      obtain ⟨more, ends, _, _⟩ := rest.totals
      rcases List.mem_cons.mp listed with rfl | later
      · exact ⟨first, count, Nat.le_refl first, by omega, owns⟩
      · obtain ⟨start, size, above, below, labelled⟩ := ih later
        exact ⟨start, size, by omega, below, labelled⟩

end LabelBlocks

theorem mem_label_block (first count : Nat) (label : Handle .label) (member : label ∈ labelBlock first count) :
    ∃ i, first ≤ i ∧ i < first + count ∧ label = .ofNat i := by
  obtain ⟨i, inside, rfl⟩ := List.mem_map.mp (Multiset.mem_coe.mp member)
  obtain ⟨above, below⟩ := List.mem_range'_1.mp inside
  exact ⟨i, above, below, rfl⟩

theorem LabelBlocks.ascending {first last : Nat} {procedures : List Procedure}
    (blocks : LabelBlocks first procedures last) (fits : last ≤ 2 ^ 32) :
    procedures.Pairwise fun earlier later =>
      ∀ a ∈ earlier.labels, ∀ b ∈ later.labels, a.index < b.index := by
  induction blocks with
  | nil first => exact List.Pairwise.nil
  | cons first count last procedure tail owns rest ih =>
      refine List.pairwise_cons.mpr ⟨?_, ih fits⟩
      intro later listed a placedEarly b placedLate
      obtain ⟨start, size, above, below, labelled⟩ := rest.member later listed
      have early : a ∈ labelBlock first count := owns.placed ▸ Multiset.mem_coe.mpr placedEarly
      have late : b ∈ labelBlock start size := labelled.placed ▸ Multiset.mem_coe.mpr placedLate
      obtain ⟨i, _, iBelow, rfl⟩ := mem_label_block first count a early
      obtain ⟨j, jAbove, jBelow, rfl⟩ := mem_label_block start size b late
      rw [Handle.index_of_nat_of_lt _ (by omega), Handle.index_of_nat_of_lt _ (by omega)]
      omega

theorem perm_range_of_label_block (labels : List (Handle .label)) (count : Nat) (fits : count ≤ 2 ^ 32)
    (block : (labels : Multiset (Handle .label)) = labelBlock 0 count) :
    (labels.map Handle.index).Perm (List.range count) := by
  have same : labels.Perm ((List.range' 0 count).map .ofNat) := Multiset.coe_eq_coe.mp block
  have indices : ((List.range' 0 count).map (.ofNat : Nat → Handle .label)).map Handle.index = List.range count := by
    rw [List.range_eq_range', List.map_map]
    conv_rhs => rw [← List.map_id (List.range' 0 count)]
    apply List.map_congr_left
    intro i inside
    have below := (List.mem_range'_1.mp inside).2
    simp only [Function.comp_apply, Handle.index_of_nat, id_eq]
    exact Nat.mod_eq_of_lt (by omega)
  exact indices ▸ same.map Handle.index

structure LabelTopology (program : Program) (count : Nat) : Prop where
  counter : program.nextLabel.index = count
  placed : ((program.procedures.items.toList.flatMap Procedure.labels).map Handle.index).Perm
    (List.range count)
  landings : ∀ procedure ∈ program.procedures.items, ∀ quad ∈ procedure.quads, quad.labels ≠ [] →
    ∃ label, quad = ⟨[label], .nop⟩
  within : ∀ procedure ∈ program.procedures.items, ∀ quad ∈ procedure.quads, ∀ label,
    quad.jumpTarget? = some label → label ∈ procedure.labels
  targeted : ((program.procedures.items.toList.flatMap fun procedure =>
    procedure.jumps.reduceOption).map Handle.index).Perm (List.range count)
  ascending : program.procedures.items.toList.Pairwise fun earlier later =>
    ∀ a ∈ earlier.labels, ∀ b ∈ later.labels, a.index < b.index

theorem lowered_label_topology (decls : List Decl) (program : Program) (log : Array Event)
    (few : (functions decls).length < 2 ^ 32 - 1) (fits : labelCount decls < 2 ^ 32)
    (accepted : lower decls = (.ok program, log)) : LabelTopology program (labelCount decls) := by
  obtain ⟨session, runs, rfl⟩ := runs_of_accepted decls program log (by omega) accepted
  have start : LabelBlocks 0 Session.initial.procedures 0 :=
    .cons 0 0 0 _ [] (.plain [] (by simp)) (.nil 0)
  obtain ⟨counter, blocks⟩ := runs.label_blocks 0 rfl start
  rw [Nat.zero_add] at counter blocks
  obtain ⟨count, ends, placed, targeted⟩ := blocks.totals
  rw [Nat.zero_add] at ends
  subst ends
  refine ⟨?_, ?_, ?_, ?_, ?_, blocks.ascending (Nat.le_of_lt fits)⟩
  · rw [counter, Handle.index_of_nat, Nat.mod_eq_of_lt fits]
  · exact perm_range_of_label_block _ _ (Nat.le_of_lt fits) placed
  · intro procedure listed quad inside carried
    obtain ⟨start, size, _, _, labelled⟩ := blocks.member procedure (Array.mem_toList_iff.mpr listed)
    exact labelled.landings quad (Array.mem_toList_iff.mpr inside) carried
  · intro procedure listed quad inside label jumps
    obtain ⟨start, size, _, _, labelled⟩ := blocks.member procedure (Array.mem_toList_iff.mpr listed)
    have target : label ∈ procedure.quads.toList.filterMap Quad.jumpTarget? :=
      List.mem_filterMap.mpr ⟨quad, Array.mem_toList_iff.mpr inside, jumps⟩
    have owned := labelled.placed.trans labelled.targeted.symm
    exact Multiset.mem_coe.mp (owned ▸ Multiset.mem_coe.mpr target)
  · exact perm_range_of_label_block _ _ (Nat.le_of_lt fits) targeted

theorem sample_label_topology :
    ∃ program log, lower Sample.program = (.ok program, log) ∧ LabelTopology program 6 := by
  obtain ⟨program, log, accepted⟩ := Sample.accepted
  exact ⟨program, log, accepted,
    lowered_label_topology Sample.program program log (by decide) (by decide) accepted⟩

end ThreeAddress
