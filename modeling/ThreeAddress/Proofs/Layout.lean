import ThreeAddress.Proofs.Allocation

set_option autoImplicit false

namespace ThreeAddress

open Lower Builder

mutual

def Stmt.loops : Stmt → Nat
  | .whileDo _ body => Stmt.loopsAll body + 1
  | .ifThen _ body | .localFunction _ _ body => Stmt.loopsAll body
  | .ifElse _ positive negative => Stmt.loopsAll positive + Stmt.loopsAll negative
  | .localVariable _ | .localFormal _ | .assign .. | .maybe .. | .increment _ | .decrement _ | .write _ | .read _
  | .call .. | .ret _ => 0

def Stmt.loopsAll : List Stmt → Nat
  | [] => 0
  | stmt :: tail => stmt.loops + Stmt.loopsAll tail

end

-- Code with `count` labels from `first` on and so many loops.
inductive Layout : Nat → Nat → Nat → List Quad → Prop where
  | plain (first : Nat) (code : List Instr) (still : ∀ instr ∈ code, instr.jumpTarget? = none) :
      Layout first 0 0 (code.map .plain)
  | append (first a b m n : Nat) (code more : List Quad) (front : Layout first a m code)
      (back : Layout (first + a) b n more) : Layout first (a + b) (m + n) (code ++ more)
  | skip (first count loops : Nat) (cond : Operand) (body : List Quad) (inside : Layout (first + 1) count loops body) :
      Layout first (1 + count) loops (.plain (.ifZero cond (.ofNat first)) :: (body ++ [.landing (.ofNat first)]))
  | choose (first a b m n : Nat) (cond : Operand) (positive negative : List Quad)
      (taken : Layout (first + 2) a m positive) (missed : Layout (first + 2 + a) b n negative) :
      Layout first (2 + (a + b)) (m + n) (.plain (.ifZero cond (.ofNat first)) :: (positive ++
        .plain (.goto (.ofNat (first + 1))) :: .landing (.ofNat first) :: (negative ++ [.landing (.ofNat (first + 1))])))
  | loop (first count loops : Nat) (cond : Operand) (test : List Instr)
      (still : ∀ instr ∈ test, instr.jumpTarget? = none) (body : List Quad)
      (inside : Layout (first + 2) count loops body) :
      Layout first (2 + count) (loops + 1) (.landing (.ofNat first) :: (test.map .plain ++
        .plain (.ifZero cond (.ofNat (first + 1))) :: (body ++
          [.plain (.goto (.ofNat first)), .landing (.ofNat (first + 1))])))

theorem Layout.after_plain {first count loops : Nat} {more : List Quad} (code : List Instr)
    (still : ∀ instr ∈ code, instr.jumpTarget? = none) (layout : Layout first count loops more) :
    Layout first count loops (code.map .plain ++ more) := by
  have joined := Layout.append first 0 count 0 loops _ _ (.plain first code still) layout
  rwa [Nat.zero_add, Nat.zero_add] at joined

def Mark.still : Mark → Bool
  | .branch | .land => false
  | _ => true

theorem Mark.still_of_straight (mark : Mark) (straight : mark.straight = true) : mark.still = true := by
  cases mark <;> first | rfl | cases straight

def Builder.Plain (before after : Builder) : Prop :=
  ∃ code : List Instr, after.quads = before.quads ++ code.map .plain ∧ ∀ instr ∈ code, instr.jumpTarget? = none

namespace Builder

theorem Plain.same {before after : Builder} (quads : after.quads = before.quads) : Plain before after :=
  ⟨[], by simp [quads], by simp⟩

theorem Plain.single {before after : Builder} (instr : Instr) (still : instr.jumpTarget? = none)
    (quads : after.quads = before.quads ++ [.plain instr]) : Plain before after := ⟨[instr], quads, by simpa using still⟩

theorem Plain.trans {before middle after : Builder} (first : Plain before middle) (second : Plain middle after) :
    Plain before after := by
  obtain ⟨front, frontQuads, frontStill⟩ := first
  obtain ⟨back, backQuads, backStill⟩ := second
  refine ⟨front ++ back, by rw [backQuads, frontQuads, List.map_append, List.append_assoc], ?_⟩
  exact List.forall_mem_append.mpr ⟨frontStill, backStill⟩

theorem Straight.plain {before after : Builder} (straight : Straight before after) : Plain before after := by
  obtain ⟨code, quads, computes⟩ := straight.code
  exact ⟨code, quads, fun instr member => instr.computes_still (computes instr member)⟩

theorem receive_plain (builder : Builder) (position : Nat) (formals : List Slot) :
    Plain builder (builder.receive position formals) := by
  refine ⟨arrivals position formals, builder.quads_receive position formals, ?_⟩
  intro instr member
  obtain ⟨entry, _, rfl⟩ := List.mem_map.mp member
  rfl

theorem Step.plain {mark : Mark} {before after : Builder} (step : Step before mark after) (still : mark.still = true) :
    Plain before after := by
  have computed := step.straight
  cases step with
  | text | use | check | compute | run | call => exact (computed rfl).plain
  | emit instr silent apart mute stays has ready => exact .single instr stays (before.quads_emit instr)
  | say text type => exact .single _ rfl (quads_emit _ _)
  | label => exact .same rfl
  | bindLocal symbol => exact .same rfl
  | bindFormal symbol => exact .same rfl
  | receive formals listed => exact before.receive_plain 1 formals
  | test | jump | land => cases still

theorem Trace.plain {marks : List Mark} {before after : Builder} (trace : Trace before marks after)
    (still : ∀ mark ∈ marks, mark.still = true) : Plain before after := by
  induction trace with
  | nil builder => exact .same rfl
  | cons before middle after mark marks step rest ih =>
      obtain ⟨head, tail⟩ := List.forall_mem_cons.mp still
      exact (step.plain head).trans (ih tail)

theorem Trace.counter {marks : List Mark} {before after : Builder} (trace : Trace before marks after) (first : Nat)
    (counter : before.nextLabel = .ofNat first) : after.nextLabel = .ofNat (first + marks.countP Mark.isLabel) := by
  have raised : after.nextLabel = before.nextLabel.raise (marks.countP Mark.isLabel) :=
    congrArg Program.nextLabel trace.allocates
  rw [raised, counter, ← Handle.first_raise, Handle.raise_raise, Handle.first_raise]

end Builder

theorem Expr.marks_still (expr : Expr) : ∀ mark ∈ expr.marks, mark.still = true :=
  fun mark member => mark.still_of_straight (expr.marks_straight mark member)

theorem Expr.marks_all_still (exprs : List Expr) : ∀ mark ∈ Expr.marksAll exprs, mark.still = true :=
  fun mark member => mark.still_of_straight (Expr.marks_all_straight exprs mark member)

theorem Expr.lower_plain (expr : Expr) (before after : Builder) (operand : Operand)
    (lowered : expr.lower before = .ok operand after) : Plain before after :=
  (expr.lower_straight before after operand lowered).plain

namespace Builder

def Lays (first count loops : Nat) (before after : Builder) : Prop :=
  ∃ code, after.quads = before.quads ++ code ∧ Layout first count loops code

theorem Plain.lays {before after : Builder} (plain : Plain before after) (first : Nat) : Lays first 0 0 before after := by
  obtain ⟨code, quads, still⟩ := plain
  exact ⟨_, quads, .plain first code still⟩

theorem Lays.after {first count loops : Nat} {before middle after : Builder} (lays : Lays first count loops middle after)
    (plain : Plain before middle) : Lays first count loops before after := by
  obtain ⟨code, quads, layout⟩ := lays
  obtain ⟨front, frontQuads, still⟩ := plain
  exact ⟨_, by rw [quads, frontQuads, List.append_assoc], layout.after_plain front still⟩

theorem Lays.append {first a b m n : Nat} {before middle after : Builder} (front : Lays first a m before middle)
    (back : Lays (first + a) b n middle after) : Lays first (a + b) (m + n) before after := by
  obtain ⟨code, quads, layout⟩ := front
  obtain ⟨more, further, rest⟩ := back
  exact ⟨_, by rw [further, quads, List.append_assoc], .append first a b m n code more layout rest⟩

theorem Lays.skip {first count loops : Nat} {before last : Builder} (cond : Operand)
    (inside : Lays (first + 1) count loops (before.emit (.ifZero cond (.ofNat first))) last) :
    Lays first (1 + count) loops before (last.place (.ofNat first)) := by
  obtain ⟨body, quads, layout⟩ := inside
  refine ⟨_, ?_, .skip first count loops cond body layout⟩
  rw [quads_place, quads, quads_emit]
  simp

theorem Lays.choose {first a b m n : Nat} {before turned last : Builder} (cond : Operand)
    (taken : Lays (first + 2) a m (before.emit (.ifZero cond (.ofNat first))) turned)
    (missed : Lays (first + 2 + a) b n ((turned.emit (.goto (.ofNat (first + 1)))).place (.ofNat first)) last) :
    Lays first (2 + (a + b)) (m + n) before (last.place (.ofNat (first + 1))) := by
  obtain ⟨positive, quads, layout⟩ := taken
  obtain ⟨negative, others, rest⟩ := missed
  refine ⟨_, ?_, .choose first a b m n cond positive negative layout rest⟩
  rw [quads_place, others, quads_place, quads_emit, quads, quads_emit]
  simp

theorem Lays.loop {first count loops : Nat} {before tested last : Builder} (cond : Operand)
    (test : Plain (before.place (.ofNat first)) tested)
    (inside : Lays (first + 2) count loops (tested.emit (.ifZero cond (.ofNat (first + 1)))) last) :
    Lays first (2 + count) (loops + 1) before
      ((last.emit (.goto (.ofNat first))).place (.ofNat (first + 1))) := by
  obtain ⟨body, quads, layout⟩ := inside
  obtain ⟨code, front, still⟩ := test
  refine ⟨_, ?_, .loop first count loops cond code still body layout⟩
  rw [quads_place, quads_emit, quads, quads_emit, front, quads_place]
  simp

end Builder

theorem Stmt.lower_still (stmt : Stmt) (before after : Builder) (first : Nat) (lowered : stmt.lower before = .ok () after)
    (still : ∀ mark ∈ stmt.marks, mark.still = true) : Lays first 0 0 before after :=
  ((stmt.lower_trace before after lowered).plain still).lays first

mutual

theorem Stmt.lower_lays (stmt : Stmt) (before after : Builder) (first : Nat)
    (lowered : stmt.lower before = .ok () after) (counter : before.nextLabel = .ofNat first) :
    Lays first stmt.labelCount stmt.loops before after := by
  cases stmt with
  | localVariable | localFormal => exact Stmt.lower_still _ before after first lowered (by simp [Stmt.marks, Mark.still])
  | localFunction symbol formals body => exact absurd lowered (Stmt.lower_local_function _ _ _ _ _)
  | assign dst src =>
      refine Stmt.lower_still _ before after first lowered ?_
      have left := dst.marks_still
      have right := src.marks_still
      grind [Stmt.marks, Mark.still]
  | increment target | decrement target | read target =>
      refine Stmt.lower_still _ before after first lowered ?_
      have inside := target.marks_still
      grind [Stmt.marks, Mark.still]
  | write value =>
      refine Stmt.lower_still _ before after first lowered ?_
      have inside := value.marks_still
      grind [Stmt.marks, Mark.still]
  | call callee args =>
      refine Stmt.lower_still _ before after first lowered ?_
      have inside := Expr.marks_all_still args
      grind [Stmt.marks, Mark.still]
  | ret value =>
      refine Stmt.lower_still _ before after first lowered ?_
      cases value with
      | none => simp [Stmt.marks, Mark.still]
      | some value =>
          have inside := value.marks_still
          grind [Stmt.marks, Mark.still]
  | maybe dst src other =>
      obtain ⟨target, opened, source, chosen, second, last, places, chooses, others, rfl⟩ :=
        (Stmt.lower_maybe ..).mp lowered
      rw [counter] at places
      rw [counter, Handle.next_of_nat] at others ⊢
      have drawn : Plain before (before.addLabel.addLabel.compute DataType.bool.width .magic) :=
        .single (.magic (.temp (before.nextTemp DataType.bool.width))) rfl (quads_emit _ _)
      have taken := ((dst.lower_plain _ _ _ places).trans (src.lower_plain _ _ _ chooses)).trans
        (.single (.assign target source) rfl (chosen.quads_emit _))
      have missed := (other.lower_plain _ _ _ others).trans (.single (.assign target second) rfl (last.quads_emit _))
      exact (Lays.choose _ (taken.lays (first + 2)) (missed.lays (first + 2 + 0))).after drawn
  | ifThen cond body =>
      obtain ⟨test, middle, last, tested, inside, rfl⟩ := (Stmt.lower_if_then ..).mp lowered
      have straight := cond.lower_straight _ _ _ tested
      rw [straight.nextLabel, counter] at inside ⊢
      have labelled : middle.addLabel.nextLabel = .ofNat (first + 1) := by
        rw [next_label_add_label, straight.nextLabel, counter, Handle.next_of_nat]
      have body := Stmt.lower_all_lays body _ last (first + 1) inside labelled
      have opened : Plain middle middle.addLabel := .same rfl
      exact (Lays.skip test body).after (straight.plain.trans opened)
  | ifElse cond positive negative =>
      obtain ⟨test, middle, turned, last, tested, taken, missed, rfl⟩ := (Stmt.lower_if_else ..).mp lowered
      have straight := cond.lower_straight _ _ _ tested
      rw [straight.nextLabel, counter, Handle.next_of_nat] at missed ⊢
      rw [straight.nextLabel, counter] at taken
      have labelled : middle.addLabel.addLabel.nextLabel = .ofNat (first + 2) := by
        rw [next_label_add_label, next_label_add_label, straight.nextLabel, counter, Handle.next_of_nat, Handle.next_of_nat]
      have left := Stmt.lower_all_lays positive _ turned (first + 2) taken labelled
      have advanced : turned.nextLabel = .ofNat (first + 2 + Stmt.labelCountAll positive) := by
        rw [← Stmt.labels_marks_all]
        exact (Stmt.lower_all_trace positive _ turned taken).counter _ labelled
      have right := Stmt.lower_all_lays negative _ last _ missed advanced
      have opened : Plain middle middle.addLabel.addLabel := .same rfl
      exact (Lays.choose test left right).after (straight.plain.trans opened)
  | whileDo cond body =>
      obtain ⟨test, middle, last, tested, inside, rfl⟩ := (Stmt.lower_while_do ..).mp lowered
      have straight := cond.lower_straight _ _ _ tested
      rw [counter, Handle.next_of_nat] at inside ⊢
      rw [counter] at straight
      have labelled : middle.nextLabel = .ofNat (first + 2) := by
        rw [straight.nextLabel, next_label_place, next_label_add_label, next_label_add_label, counter, Handle.next_of_nat,
          Handle.next_of_nat]
      have body := Stmt.lower_all_lays body _ last (first + 2) inside labelled
      have opened : Plain before before.addLabel.addLabel := .same rfl
      exact (Lays.loop test straight.plain body).after opened

theorem Stmt.lower_all_lays (stmts : List Stmt) (before after : Builder) (first : Nat)
    (lowered : Stmt.lowerAll stmts before = .ok () after) (counter : before.nextLabel = .ofNat first) :
    Lays first (Stmt.labelCountAll stmts) (Stmt.loopsAll stmts) before after := by
  cases stmts with
  | nil =>
      obtain rfl := (Stmt.lower_all_nil ..).mp lowered
      exact (Plain.same rfl).lays first
  | cons stmt tail =>
      obtain ⟨middle, head, rest⟩ := (Stmt.lower_all_cons ..).mp lowered
      have advanced : middle.nextLabel = .ofNat (first + stmt.labelCount) := by
        rw [← stmt.labels_marks]
        exact (stmt.lower_trace before middle head).counter first counter
      exact (Stmt.lower_lays stmt before middle first head counter).append
        (Stmt.lower_all_lays tail middle after _ rest advanced)

end

theorem Function.lower_lays (definition : Function) (session : Session) (builder : Builder) (first : Nat)
    (lowered : definition.lower (session.openProcedure definition.symbol.name) = .ok () builder)
    (counter : session.program.nextLabel = .ofNat first) :
    Layout first (Stmt.labelCountAll definition.body) (Stmt.loopsAll definition.body) builder.quads := by
  obtain ⟨last, body, rfl⟩ := (Function.lower_ok ..).mp lowered
  have entered : ((session.openProcedure definition.symbol.name).enter definition).nextLabel = .ofNat first := by
    rw [Builder.nextLabel, Builder.program_enter]
    exact counter
  have arrived : Plain (session.openProcedure definition.symbol.name)
      ((session.openProcedure definition.symbol.name).enter definition) := by
    have bound : Plain (session.openProcedure definition.symbol.name)
        ((session.openProcedure definition.symbol.name).bindFormals definition.formals) := .same (quads_bind_formals _ _)
    exact bound.trans (receive_plain _ 1 _)
  obtain ⟨code, quads, layout⟩ := (Stmt.lower_all_lays definition.body _ last first body entered).after arrived
  have all : last.quads = code := quads
  exact all ▸ layout

end ThreeAddress
