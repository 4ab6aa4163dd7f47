import ThreeAddress.Proofs.CallEffects
import ThreeAddress.Proofs.Machine

set_option autoImplicit false

namespace ThreeAddress

open Lower

def Builder.Keyed (builder : Builder) : Prop :=
  ∀ id slot, builder.slot? id = some slot → slot.symbol = id

theorem Builder.Keyed.straight {before after : Builder} (keyed : before.Keyed)
    (straight : Builder.Straight before after) : after.Keyed := by
  intro id slot found
  rw [straight.slots] at found
  exact keyed id slot found

def Resolves (program : Program) (first : Nat) (new : List String) : Prop :=
  ∀ (i : Nat) (text : String), new[i]? = some text → program.string? (.ofNat (first + i)) = some text

theorem Resolves.left {program : Program} {first : Nat} {a b : List String}
    (resolves : Resolves program first (a ++ b)) : Resolves program first a := by
  intro i text at_
  have inside := (List.getElem?_eq_some_iff.mp at_).1
  exact resolves i text (by rw [List.getElem?_append_left inside]; exact at_)

theorem Resolves.right {program : Program} {first : Nat} {a b : List String}
    (resolves : Resolves program first (a ++ b)) : Resolves program (first + a.length) b := by
  intro i text at_
  rw [Nat.add_assoc]
  exact resolves (a.length + i) text (by rw [List.getElem?_append_right (by omega), Nat.add_sub_cancel_left]; exact at_)

-- The code that lowering has added between two builders is part of the code that runs, and
-- the strings `new` that it has pooled after `seen` are those of the program that runs.
structure Installed (setting : Setting) (seen new : List String) (before after : Builder) : Prop where
  code : after.quads <+: setting.code
  temps : after.temps.length ≤ 2 ^ 32
  keyed : before.Keyed
  pooled : Pooled before.program seen
  resolves : Resolves setting.program seen.length new

namespace Installed

variable {setting : Setting} {seen a b : List String} {before middle after : Builder}

theorem shrink (installed : Installed setting seen a before after) (grows : Builder.Grows middle after) :
    Installed setting seen a before middle :=
  ⟨grows.quads.trans installed.code, grows.temps.length_le.trans installed.temps, installed.keyed,
    installed.pooled, installed.resolves⟩

theorem first (installed : Installed setting seen (a ++ b) before after) (grows : Builder.Grows middle after) :
    Installed setting seen a before middle :=
  { installed.shrink grows with resolves := installed.resolves.left }

theorem second (installed : Installed setting seen (a ++ b) before after) (keyed : middle.Keyed)
    (pools : Pools a before middle) : Installed setting (seen ++ a) b middle after := by
  refine ⟨installed.code, installed.temps, keyed, pools seen installed.pooled, ?_⟩
  rw [List.length_append]
  exact installed.resolves.right

theorem enter (installed : Installed setting seen a before after) (keyed : middle.Keyed)
    (pools : Pools [] before middle) : Installed setting seen a middle after := by
  have pooled := pools seen installed.pooled
  rw [List.append_nil] at pooled
  exact ⟨installed.code, installed.temps, keyed, pooled, installed.resolves⟩

end Installed

def Builder.setting (builder : Builder) (meaning : Meaning) (incoming : Nat → Word) : Setting :=
  ⟨meaning, builder.program, builder.quads, incoming⟩

namespace Machine

def moment (machine : Machine) : Moment := ⟨machine.store, machine.world⟩

section Follow

variable (callees : Callees) (setting : Setting)

def perform (machine : Machine) : Instr → Reaction Machine
  | .call callee name =>
      let called := machine.moment.call callees callee name machine.args
      .next { machine with
        args := [], answer := called.1, store := called.2.store, world := called.2.world, pc := machine.pc + 1 }
  | instr => if instr.computes then machine.execute setting instr else .stuck

-- Expressions are lowered to code without jumps, which is run quad by quad.
def follow (machine : Machine) : List Quad → Reaction Machine
  | [] => .next machine
  | quad :: tail =>
      match machine.perform callees setting quad.instr with
      | .next later => later.follow tail
      | .finished outcome => .finished outcome
      | .stuck => .stuck

variable {callees setting}

theorem follow_append {machine middle : Machine} (first second : List Quad)
    (ran : machine.follow callees setting first = .next middle) :
    machine.follow callees setting (first ++ second) = middle.follow callees setting second := by
  induction first generalizing machine with
  | nil =>
      cases ran
      rfl
  | cons quad tail ih =>
      rw [List.cons_append, follow]
      rw [follow] at ran
      cases performed : machine.perform callees setting quad.instr with
      | next later =>
          rw [performed] at ran
          exact ih ran
      | finished outcome => simp [performed] at ran
      | stuck => simp [performed] at ran

theorem follow_one {machine later : Machine} (instr : Instr)
    (performed : machine.perform callees setting instr = .next later) :
    machine.follow callees setting [.plain instr] = .next later := by
  rw [follow, Quad.plain, performed]
  rfl

end Follow

end Machine

structure Executed (callees : Callees) (setting : Setting) (before after : Builder) (start finish : Machine) :
    Prop where
  code : ∃ code, after.quads = before.quads ++ code ∧ start.follow callees setting code = .next finish
  temps : ∀ id, id.index < before.temps.length → finish.temps id = start.temps id
  grown : before.temps.length ≤ after.temps.length
  args : finish.args = []

namespace Executed

variable {callees : Callees} {setting : Setting} {before middle after : Builder} {start halfway finish : Machine}

theorem refl (callees : Callees) (setting : Setting) (before after : Builder) (machine : Machine)
    (quads : after.quads = before.quads) (temps : after.temps = before.temps) (idle : machine.args = []) :
    Executed callees setting before after machine machine := by
  refine ⟨⟨[], ?_, rfl⟩, fun _ _ => rfl, ?_, idle⟩
  · rw [quads, List.append_nil]
  · rw [temps]

theorem trans (first : Executed callees setting before middle start halfway)
    (second : Executed callees setting middle after halfway finish) :
    Executed callees setting before after start finish := by
  obtain ⟨front, emitted, ran⟩ := first.code
  obtain ⟨back, more, ranMore⟩ := second.code
  refine ⟨⟨front ++ back, ?_, ?_⟩, ?_, first.grown.trans second.grown, second.args⟩
  · rw [more, emitted, List.append_assoc]
  · rw [Machine.follow_append front back ran, ranMore]
  · intro id below
    rw [second.temps id (Nat.lt_of_lt_of_le below first.grown), first.temps id below]

end Executed

-- An operand that gives the value of an expression at any later time, with storage read then.
def Operand.Gives (setting : Setting) (bound : Nat) (machine : Machine) (operand : Operand) (expr : Expr)
    (value : Word) : Prop :=
  ∀ later : Machine, (∀ id, id.index < bound → later.temps id = machine.temps id) →
    later.value setting operand = Reading.atUse.settle later.store expr value

theorem Builder.compute_grows (builder : Builder) (width : Nat) (instr : Operand → Instr) :
    Builder.Grows builder (builder.compute width instr) :=
  (builder.temp_grows width).trans (Builder.emit_grows _ _)

theorem Builder.length_compute (builder : Builder) (width : Nat) (instr : Operand → Instr) :
    (builder.compute width instr).temps.length = builder.temps.length + 1 := by
  rw [compute, temps_emit, temps_add_temp, List.length_append, List.length_singleton]

theorem Builder.index_next_temp (builder : Builder) (width : Nat) (room : builder.temps.length < 2 ^ 32) :
    (builder.nextTemp width).id.index = builder.temps.length := by
  rw [next_temp_eq, Handle.index_of_nat_of_lt _ room]

theorem fill_arg_next (args : List Word) (value : Word) : fillArg args (args.length + 1) value = args ++ [value] := by
  simp [fillArg]

section Expressions

variable {callees : Callees} {setting : Setting}

theorem Operand.Gives.now {bound : Nat} {machine : Machine} {operand : Operand} {expr : Expr} {start : Moment}
    (gives : operand.Gives setting bound machine expr (expr.evaluate setting.meaning callees .atUse start).1)
    (moment : machine.moment = (expr.evaluate setting.meaning callees .atUse start).2) :
    machine.value setting operand = (expr.evaluate setting.meaning callees .atUse start).1 := by
  have store : machine.store = (expr.evaluate setting.meaning callees .atUse start).2.store :=
    congrArg Moment.store moment
  rw [gives machine fun _ _ => rfl, store, Reading.settle_now]

theorem Operand.Gives.after {middle last : Builder} {ready done : Machine} {operand : Operand} {expr : Expr}
    {value : Word} {reached : Moment} (gives : operand.Gives setting middle.temps.length ready expr value)
    (moment : done.moment = reached) (computes : Executed callees setting middle last ready done) :
    done.value setting operand = Reading.atUse.settle reached.store expr value := by
  rw [gives done computes.temps, ← moment]
  rfl

theorem compute_executed (builder : Builder) (width : Nat) (instr : Operand → Instr) (machine : Machine)
    (value : Word) (world : World) (room : (builder.compute width instr).temps.length ≤ 2 ^ 32)
    (idle : machine.args = [])
    (performed : machine.perform callees setting (instr (.temp (builder.nextTemp width))) =
      .next ({ machine with world := world }.put (.temp (builder.nextTemp width)) value).advance) :
    ∃ finish, Executed callees setting builder (builder.compute width instr) machine finish ∧
      finish.moment = ⟨machine.store, world⟩ ∧
      ∀ later : Machine,
        (∀ id, id.index < (builder.compute width instr).temps.length → later.temps id = finish.temps id) →
          later.value setting (.temp (builder.nextTemp width)) = value := by
  rw [builder.length_compute] at room
  have index := builder.index_next_temp width (by omega)
  refine ⟨_, ⟨⟨_, Builder.quads_emit _ _, Machine.follow_one _ performed⟩, ?_, ?_, idle⟩, rfl, ?_⟩
  · intro id below
    have apart : id ≠ (builder.nextTemp width).id := by
      rintro rfl
      omega
    exact if_neg apart
  · rw [builder.length_compute]
    omega
  · intro later same
    rw [builder.length_compute] at same
    exact (same _ (by omega)).trans (if_pos rfl)

theorem pass_followed (operands : List Operand) (machine : Machine) :
    machine.follow callees setting ((Builder.departures (machine.args.length + 1) operands).map .plain) =
      .next { machine with
        pc := machine.pc + operands.length
        args := machine.args ++ operands.map (machine.value setting) } := by
  induction operands generalizing machine with
  | nil => simp [Builder.departures, Machine.follow]
  | cons operand tail ih =>
      let passed : Machine :=
        { machine with args := machine.args ++ [machine.value setting operand], pc := machine.pc + 1 }
      have longer : passed.args.length = machine.args.length + 1 := by simp [passed]
      have kept : passed.value setting = machine.value setting := by
        funext other
        cases other <;> rfl
      have performed : machine.perform callees setting (.setArg (machine.args.length + 1) operand) = .next passed := by
        have computes : (Instr.setArg (machine.args.length + 1) operand).computes = true := rfl
        simp only [Machine.perform, if_pos computes, Machine.execute, fill_arg_next, passed]
      have rest := ih passed
      rw [longer, kept] at rest
      change machine.follow callees setting (.plain (.setArg (machine.args.length + 1) operand) ::
        (Builder.departures (machine.args.length + 1 + 1) tail).map .plain) = _
      rw [Machine.follow, Quad.plain, performed]
      refine rest.trans ?_
      simp [passed, Nat.add_comm, Nat.add_left_comm]

theorem invoke_executed (builder : Builder) (callee : Symbol) (operands : List Operand) (machine : Machine)
    (idle : machine.args = []) :
    ∃ finish, Executed callees setting builder (builder.invoke callee operands) machine finish ∧
      (finish.answer, finish.moment) =
        machine.moment.call callees callee.id callee.name (operands.map (machine.value setting)) := by
  have passed : machine.follow callees setting _ = _ := pass_followed operands machine
  rw [idle, List.length_nil, Nat.zero_add, List.nil_append] at passed
  have emitted : (builder.invoke callee operands).quads =
      builder.quads ++ ((Builder.departures 1 operands).map .plain ++ [.plain (.call callee.id callee.name)]) := by
    rw [Builder.invoke, Builder.quads_emit, Builder.quads_pass, List.append_assoc]
  have called := (Machine.follow_append _ [.plain (.call callee.id callee.name)] passed).trans
    (Machine.follow_one _ rfl)
  have grown := (builder.invoke_straight callee operands).temps.length_le
  exact ⟨_, ⟨⟨_, emitted, called⟩, fun _ _ => rfl, grown, rfl⟩, rfl⟩

def Expr.Executes (callees : Callees) (setting : Setting) (expr : Expr) : Prop :=
  ∀ (before after : Builder) (operand : Operand) (seen : List String), expr.lower before = .ok operand after →
    Installed setting seen expr.texts before after → ∀ machine : Machine, machine.args = [] →
      ∃ finish, Executed callees setting before after machine finish ∧
        finish.moment = (expr.evaluate setting.meaning callees .atUse machine.moment).2 ∧
        operand.Gives setting after.temps.length finish expr
          (expr.evaluate setting.meaning callees .atUse machine.moment).1

-- Two operands in the order of evaluation. The first one has to wait for the second.
theorem Expr.Executes.pair {first second : Expr} (executes : first.Executes callees setting)
    (continues : second.Executes callees setting) {before middle last : Builder} {early late : Operand}
    {seen : List String} (lowered : first.lower before = .ok early middle)
    (followed : second.lower middle = .ok late last)
    (installed : Installed setting seen (first.texts ++ second.texts) before last) (machine : Machine)
    (idle : machine.args = []) :
    let start := first.evaluate setting.meaning callees .atUse machine.moment
    let stop := second.evaluate setting.meaning callees .atUse start.2
    ∃ done, Executed callees setting before last machine done ∧ done.moment = stop.2 ∧
      done.value setting early = Reading.atUse.settle stop.2.store first start.1 ∧
      done.value setting late = stop.1 := by
  have front := first.lower_straight before middle early lowered
  have back := second.lower_straight middle last late followed
  obtain ⟨ready, computed, between, gives⟩ := executes before middle early seen lowered
    (installed.first back.toGrows) machine idle
  obtain ⟨done, computes, moment, finallyGives⟩ := continues middle last late _ followed
    (installed.second (installed.keyed.straight front) (first.lower_pools _ _ _ lowered)) ready computed.args
  have waited := gives.after moment computes
  have value := finallyGives.now moment
  rw [between] at moment waited value
  exact ⟨done, computed.trans computes, moment, waited, value⟩

mutual

theorem Expr.lower_executed (expr : Expr) : expr.Executes callees setting := by
  intro before after operand seen lowered installed machine idle
  cases expr with
  | int type value =>
      obtain ⟨rfl, rfl⟩ := (Expr.lower_int ..).mp lowered
      exact ⟨machine, .refl _ _ _ _ machine rfl rfl idle, rfl, fun _ _ => rfl⟩
  | bool type value =>
      obtain ⟨rfl, rfl⟩ := (Expr.lower_bool ..).mp lowered
      exact ⟨machine, .refl _ _ _ _ machine rfl rfl idle, rfl, fun _ _ => rfl⟩
  | string type text =>
      obtain ⟨rfl, rfl⟩ := (Expr.lower_string ..).mp lowered
      refine ⟨machine, .refl _ _ _ _ machine rfl rfl idle, rfl, ?_⟩
      intro later _
      have resolved := installed.resolves 0 text rfl
      have counter : before.nextString = _ := installed.pooled.counter
      simp only [Machine.value, Setting.literal, Expr.evaluate, Reading.settle]
      rw [counter, ← Nat.add_zero seen.length, resolved]
      rfl
  | eh type =>
      obtain ⟨rfl, rfl⟩ := (Expr.lower_eh ..).mp lowered
      exact compute_executed before type.width .magic machine _ _ installed.temps idle rfl
  | name type symbol =>
      obtain ⟨slot, found, rfl, rfl⟩ := (Expr.lower_name ..).mp lowered
      refine ⟨machine, .refl _ _ _ _ machine rfl rfl idle, rfl, ?_⟩
      intro later _
      exact congrArg later.store (installed.keyed symbol.id slot found)
  | call type callee args =>
      obtain ⟨result, operands, middle, _, _, evaluated, rfl, rfl⟩ := (Expr.lower_call ..).mp lowered
      have stored := (middle.invoke callee operands).compute_grows result.width .getRet
      obtain ⟨ready, computed, moment, values⟩ := Expr.lower_all_executed args before middle operands seen evaluated
        (installed.shrink ((middle.invoke_straight callee operands).toGrows.trans stored)) machine idle
      obtain ⟨called, calls, replied⟩ := invoke_executed middle callee operands ready computed.args
      obtain ⟨finish, gets, kept, gives⟩ := compute_executed (middle.invoke callee operands) result.width .getRet
        called called.answer called.world installed.temps calls.args rfl
      rw [moment, values] at replied
      have answer := congrArg Prod.fst replied
      have left := congrArg Prod.snd replied
      exact ⟨finish, (computed.trans calls).trans gets, kept.trans left, fun later same => (gives later same).trans answer⟩
  | unary type op source =>
      obtain ⟨src, middle, evaluated, rfl, rfl⟩ := (Expr.lower_unary ..).mp lowered
      obtain ⟨ready, computed, moment, gives⟩ := Expr.lower_executed source before middle src seen evaluated
        (installed.shrink (middle.compute_grows _ _)) machine idle
      have value := gives.now moment
      obtain ⟨finish, applies, kept, result⟩ := compute_executed middle type.width _ ready _ ready.world
        installed.temps computed.args rfl
      rw [value] at result
      exact ⟨finish, computed.trans applies, kept.trans moment, result⟩
  | binary type op lhs rhs =>
      obtain ⟨pair, last, evaluated, rfl, rfl⟩ := (Expr.lower_binary ..).mp lowered
      obtain ⟨middle, evaluated⟩ := (Lower.operands_ok ..).mp evaluated
      have inner := installed.shrink (last.compute_grows type.width fun dst => .binary op dst pair.1 pair.2)
      rw [Expr.texts_binary] at inner
      rw [Expr.evaluate_binary]
      by_cases rightFirst : op.rightFirst
      · rw [if_pos rightFirst] at evaluated inner ⊢
        obtain ⟨done, computed, moment, rightValue, leftValue⟩ := (Expr.lower_executed rhs).pair
          (Expr.lower_executed lhs) evaluated.1 evaluated.2 inner machine idle
        obtain ⟨finish, applies, kept, result⟩ := compute_executed last type.width _ done _ done.world
          installed.temps computed.args rfl
        rw [leftValue, rightValue] at result
        exact ⟨finish, computed.trans applies, kept.trans moment, result⟩
      · rw [if_neg rightFirst] at evaluated inner ⊢
        obtain ⟨done, computed, moment, leftValue, rightValue⟩ := (Expr.lower_executed lhs).pair
          (Expr.lower_executed rhs) evaluated.1 evaluated.2 inner machine idle
        obtain ⟨finish, applies, kept, result⟩ := compute_executed last type.width _ done _ done.world
          installed.temps computed.args rfl
        rw [leftValue, rightValue] at result
        exact ⟨finish, computed.trans applies, kept.trans moment, result⟩

theorem Expr.lower_all_executed (exprs : List Expr) (before after : Builder) (operands : List Operand)
    (seen : List String) (lowered : Expr.lowerAll exprs before = .ok operands after)
    (installed : Installed setting seen (Expr.textsAll exprs) before after) (machine : Machine)
    (idle : machine.args = []) :
    ∃ finish, Executed callees setting before after machine finish ∧
      finish.moment = (Expr.evaluateAll setting.meaning callees .atUse machine.moment exprs).2 ∧
      operands.map (finish.value setting) =
        (Expr.evaluateAll setting.meaning callees .atUse machine.moment exprs).1 := by
  cases exprs with
  | nil =>
      obtain ⟨rfl, rfl⟩ := (Expr.lower_all_nil ..).mp lowered
      exact ⟨machine, .refl _ _ _ _ machine rfl rfl idle, rfl, rfl⟩
  | cons expr tail =>
      obtain ⟨first, middle, rest, head, others, rfl⟩ := (Expr.lower_all_cons ..).mp lowered
      have front := expr.lower_straight before middle first head
      have back := Expr.lower_all_straight tail middle after rest others
      obtain ⟨ready, computed, between, gives⟩ := Expr.lower_executed expr before middle first seen head
        (installed.first back.toGrows) machine idle
      obtain ⟨finish, computes, moment, values⟩ := Expr.lower_all_executed tail middle after rest _ others
        (installed.second (installed.keyed.straight front) (expr.lower_pools _ _ _ head)) ready computed.args
      have value := gives.after moment computes
      rw [between] at moment values value
      refine ⟨finish, computed.trans computes, moment, ?_⟩
      rw [List.map_cons, value, values]
      rfl

end

end Expressions

theorem Expr.eval_binary (type : DataType) (op : BinaryOp) (lhs rhs : Expr) (meaning : Meaning) (store : Store)
    (world : World) :
    (Expr.binary type op lhs rhs).eval meaning store world =
      if op.rightFirst then
        (meaning.binary op (lhs.eval meaning store (rhs.eval meaning store world).2).1
            (rhs.eval meaning store world).1,
          (lhs.eval meaning store (rhs.eval meaning store world).2).2)
      else
        (meaning.binary op (lhs.eval meaning store world).1
            (rhs.eval meaning store (lhs.eval meaning store world).2).1,
          (rhs.eval meaning store (lhs.eval meaning store world).2).2) := by
  cases op <;> rfl

def Callees.quiet (meaning : Meaning) : Callees where
  respond callee name args moment := (meaning.answer callee name args moment.world.history, moment.store)

section Quiet

variable {setting : Setting}

theorem Reading.settle_eval (reading : Reading) (meaning : Meaning) (store : Store) (world : World) (expr : Expr) :
    reading.settle store expr (expr.eval meaning store world).1 = (expr.eval meaning store world).1 := by
  cases reading with
  | inTurn => rfl
  | atUse => cases expr <;> rfl

mutual

theorem Expr.evaluate_quiet (meaning : Meaning) (reading : Reading) (expr : Expr) (moment : Moment) :
    expr.evaluate meaning (.quiet meaning) reading moment =
      ((expr.eval meaning moment.store moment.world).1,
        ⟨moment.store, (expr.eval meaning moment.store moment.world).2⟩) := by
  cases expr with
  | int | bool | string | eh | name => rfl
  | call type callee args =>
      rw [Expr.evaluate, Expr.evaluate_all_quiet meaning reading args moment]
      rfl
  | unary type op operand =>
      rw [Expr.evaluate, Expr.evaluate_quiet meaning reading operand moment]
      rfl
  | binary type op lhs rhs =>
      rw [Expr.evaluate_binary, Expr.eval_binary]
      by_cases rightFirst : op.rightFirst
      · simp only [if_pos rightFirst, Expr.evaluate_quiet meaning reading rhs, Expr.evaluate_quiet meaning reading lhs,
          Reading.settle_eval]
      · simp only [if_neg rightFirst, Expr.evaluate_quiet meaning reading rhs, Expr.evaluate_quiet meaning reading lhs,
          Reading.settle_eval]

theorem Expr.evaluate_all_quiet (meaning : Meaning) (reading : Reading) (exprs : List Expr) (moment : Moment) :
    Expr.evaluateAll meaning (.quiet meaning) reading moment exprs =
      ((Expr.evalAll meaning moment.store moment.world exprs).1,
        ⟨moment.store, (Expr.evalAll meaning moment.store moment.world exprs).2⟩) := by
  cases exprs with
  | nil => rfl
  | cons expr tail =>
      simp only [Expr.evaluateAll, Expr.evaluate_quiet meaning reading expr, Expr.evaluate_all_quiet meaning reading tail,
        Reading.settle_eval, Expr.evalAll]

end

theorem fetch (front : List Quad) (quad : Quad) (installed : front ++ [quad] <+: setting.code) :
    setting.code[front.length]? = some quad := by
  obtain ⟨more, same⟩ := installed
  rw [← same, List.getElem?_append_left (by simp), List.getElem?_concat_length]

namespace Machine

theorem step_quad (setting : Setting) (machine : Machine) (quad : Quad)
    (found : setting.code[machine.pc]? = some quad) : machine.step setting = machine.execute setting quad.instr := by
  rw [step, found]

theorem perform_quiet {machine later : Machine} (instr : Instr)
    (performed : machine.perform (.quiet setting.meaning) setting instr = .next later) :
    machine.execute setting instr = .next later ∧ later.pc = machine.pc + 1 ∧ later.returned = machine.returned := by
  cases instr with
  | call | setArg =>
      cases performed
      exact ⟨rfl, rfl, rfl⟩
  | unary | binary | getRet | magic =>
      cases performed
      simp [execute, advance]
  | assign | ifZero | goto | nop | getArg | setRet | ret | write | read => cases performed

theorem follow_reaches (front code : List Quad) {machine finish : Machine}
    (ran : machine.follow (.quiet setting.meaning) setting code = .next finish) (here : machine.pc = front.length)
    (installed : front ++ code <+: setting.code) :
    Reaches (step setting) machine finish ∧ finish.pc = (front ++ code).length ∧
      finish.returned = machine.returned := by
  induction code generalizing front machine with
  | nil =>
      cases ran
      exact ⟨.refl _, by rw [here, List.append_nil], rfl⟩
  | cons quad tail ih =>
      rw [List.append_cons] at installed ⊢
      rw [follow] at ran
      cases performed : machine.perform (.quiet setting.meaning) setting quad.instr with
      | next later =>
          rw [performed] at ran
          obtain ⟨executes, moved, kept⟩ := perform_quiet quad.instr performed
          have found := fetch front quad ((List.prefix_append _ _).trans installed)
          rw [← here] at found
          have stands : later.pc = (front ++ [quad]).length := by
            rw [moved, here, List.length_append, List.length_singleton]
          obtain ⟨reaches, pc, returned⟩ := ih (front ++ [quad]) ran stands installed
          exact ⟨(Reaches.single ((machine.step_quad setting quad found).trans executes)).trans reaches, pc,
            returned.trans kept⟩
      | finished outcome => simp [performed] at ran
      | stuck => simp [performed] at ran

end Machine

structure Computed (setting : Setting) (after : Builder) (start finish : Machine) (world : World) : Prop where
  reaches : Reaches (Machine.step setting) start finish
  pc : finish.pc = after.quads.length
  store : finish.store = start.store
  args : finish.args = []
  returned : finish.returned = start.returned
  world : finish.world = world

theorem Computed.trans {middle after : Builder} {start halfway finish : Machine} {between world : World}
    (first : Computed setting middle start halfway between) (second : Computed setting after halfway finish world) :
    Computed setting after start finish world :=
  ⟨first.reaches.trans second.reaches, second.pc, second.store.trans first.store, second.args,
    second.returned.trans first.returned, second.world⟩

theorem Executed.computed {before after : Builder} {start finish : Machine} {world : World}
    (executed : Executed (.quiet setting.meaning) setting before after start finish)
    (installed : after.quads <+: setting.code) (here : start.pc = before.quads.length)
    (moment : finish.moment = ⟨start.store, world⟩) : Computed setting after start finish world := by
  obtain ⟨code, quads, ran⟩ := executed.code
  rw [quads] at installed
  obtain ⟨reaches, pc, returned⟩ := Machine.follow_reaches before.quads code ran here installed
  exact ⟨reaches, by rw [pc, quads], congrArg Moment.store moment, executed.args, returned, congrArg Moment.world moment⟩

theorem compute_computed (builder : Builder) (width : Nat) (instr : Operand → Instr) (machine : Machine)
    (value : Word) (world : World) (code : (builder.compute width instr).quads <+: setting.code)
    (room : (builder.compute width instr).temps.length ≤ 2 ^ 32) (here : machine.pc = builder.quads.length)
    (idle : machine.args = [])
    (performed : machine.perform (.quiet setting.meaning) setting (instr (.temp (builder.nextTemp width))) =
      .next ({ machine with world := world }.put (.temp (builder.nextTemp width)) value).advance) :
    ∃ finish, Computed setting (builder.compute width instr) machine finish world ∧
      finish.value setting (.temp (builder.nextTemp width)) = value := by
  obtain ⟨finish, executed, moment, gives⟩ := compute_executed builder width instr machine value world room idle performed
  exact ⟨finish, executed.computed code here moment, gives finish fun _ _ => rfl⟩

theorem invoke_computed (builder : Builder) (callee : Symbol) (operands : List Operand) (machine : Machine)
    (code : (builder.invoke callee operands).quads <+: setting.code) (here : machine.pc = builder.quads.length)
    (idle : machine.args = []) :
    ∃ finish, Computed setting (builder.invoke callee operands) machine finish
      (machine.world.call setting.meaning callee.id callee.name (operands.map (machine.value setting))).2 := by
  obtain ⟨finish, executed, replied⟩ := @invoke_executed (.quiet setting.meaning) setting builder callee operands machine idle
  exact ⟨finish, executed.computed code here (congrArg Prod.snd replied)⟩

variable (before after : Builder) (seen : List String) (machine : Machine) (here : machine.pc = before.quads.length)
  (idle : machine.args = [])

include here idle

theorem Expr.lower_computed (expr : Expr) (operand : Operand) (lowered : expr.lower before = .ok operand after)
    (installed : Installed setting seen expr.texts before after) :
    ∃ finish, Computed setting after machine finish (expr.eval setting.meaning machine.store machine.world).2 ∧
      finish.value setting operand = (expr.eval setting.meaning machine.store machine.world).1 := by
  have executes : expr.Executes (.quiet setting.meaning) setting := expr.lower_executed
  obtain ⟨finish, executed, moment, gives⟩ := executes before after operand seen lowered installed machine idle
  have value := gives.now moment
  rw [Expr.evaluate_quiet] at moment value
  exact ⟨finish, executed.computed installed.code here moment, value⟩

theorem Expr.lower_all_computed (exprs : List Expr) (operands : List Operand)
    (lowered : Expr.lowerAll exprs before = .ok operands after)
    (installed : Installed setting seen (Expr.textsAll exprs) before after) :
    ∃ finish, Computed setting after machine finish
        (Expr.evalAll setting.meaning machine.store machine.world exprs).2 ∧
      operands.map (finish.value setting) = (Expr.evalAll setting.meaning machine.store machine.world exprs).1 := by
  obtain ⟨finish, executed, moment, values⟩ := @Expr.lower_all_executed (.quiet setting.meaning) setting exprs before
    after operands seen lowered installed machine idle
  rw [Expr.evaluate_all_quiet] at moment values
  exact ⟨finish, executed.computed installed.code here moment, values⟩

end Quiet

end ThreeAddress
