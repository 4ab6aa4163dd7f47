import ThreeAddress.Proofs.Resumption

set_option autoImplicit false

namespace ThreeAddress

section Statements

variable {setting : Setting}

theorem assign_answers (dst src : Expr) (rest : List Stmt) (seen : List String) (before after : Builder)
    (machine : Machine) (lowered : (Stmt.assign dst src).lower before = .ok () after)
    (installed : Installed setting seen (Stmt.assign dst src).texts before after) (poised : Poised before machine)
    (next : Resumes setting after.quads.length rest) :
    Answers setting machine (rest.length + 1)
      ((Stmt.assign dst src).step setting.meaning machine.store machine.world rest) := by
  obtain ⟨target, middle, source, last, places, computes, rfl⟩ := (Stmt.lower_assign ..).mp lowered
  have front := dst.lower_straight _ _ _ places
  have back := (src.lower_straight _ _ _ computes).toGrows.trans (last.emit_grows (.assign target source))
  obtain ⟨ready, placed, _⟩ := dst.lower_computed _ _ seen machine poised.pc poised.args _ places
    (installed.first back)
  have answers := store_answers dst src before middle middle last target source rest _ machine ready
    (rest.length + 1) places installed.keyed computes
    (installed.second (installed.keyed.straight front) (dst.lower_pools _ _ _ places)) placed.reaches
    (placed.poised poised.returned) next
  rw [placed.store, placed.world] at answers
  exact answers

theorem bump_answers (op : BinaryOp) (target : Expr) (rest : List Stmt) (seen : List String)
    (before after : Builder) (machine : Machine) (lowered : target.lowerStep op before = .ok () after)
    (installed : Installed setting seen target.texts before after) (poised : Poised before machine)
    (next : Resumes setting after.quads.length rest) :
    Answers setting machine (rest.length + 1)
      (Source.bump setting.meaning machine.store machine.world rest op target) := by
  obtain ⟨place, middle, evaluated, rfl⟩ := (Expr.lower_step_ok ..).mp lowered
  let instr : Operand → Instr := fun dst => .binary op dst place (.literal (.int 1) DataType.int.width)
  let stored := middle.compute target.type.width instr
  have outer := stored.emit_grows (.assign place (.temp (middle.nextTemp target.type.width)))
  have inner := installed.shrink outer
  obtain ⟨ready, computed, value⟩ := target.lower_computed _ _ seen machine poised.pc poised.args _ evaluated
    (inner.shrink (middle.compute_grows target.type.width instr))
  obtain ⟨done, adds, sum⟩ := compute_computed middle target.type.width instr ready _ ready.world
    inner.code inner.temps computed.pc computed.args rfl
  have whole := computed.trans adds
  have stands := whole.poised poised.returned
  have related := related_put target before middle stored place
    (.assign place (.temp (middle.nextTemp target.type.width))) rest evaluated installed.keyed done
    (done.value setting (.temp (middle.nextTemp target.type.width))) stands next
  rw [sum, value, whole.store, whole.world, computed.world] at related
  refine answers_step machine done _ _ _ whole.reaches ?_ related
  rw [stands.step _ installed.code, Machine.execute, sum, value]

theorem read_answers (target : Expr) (rest : List Stmt) (seen : List String) (before after : Builder)
    (machine : Machine) (lowered : (Stmt.read target).lower before = .ok () after)
    (installed : Installed setting seen (Stmt.read target).texts before after) (poised : Poised before machine)
    (next : Resumes setting after.quads.length rest) :
    Answers setting machine (rest.length + 1)
      ((Stmt.read target).step setting.meaning machine.store machine.world rest) := by
  obtain ⟨place, middle, evaluated, rfl⟩ := (Stmt.lower_read ..).mp lowered
  obtain ⟨ready, computed, _⟩ := target.lower_computed _ _ seen machine poised.pc poised.args _ evaluated
    (installed.shrink (middle.emit_grows _))
  have stands := computed.poised poised.returned
  let taken := ready.world.read setting.meaning target.type
  have open_ : Poised middle { ready with world := taken.2 } := ⟨stands.pc, stands.args, stands.returned⟩
  have related := related_put target before middle middle place (.read place target.type) rest evaluated
    installed.keyed { ready with world := taken.2 } taken.1 open_ next
  refine answers_step machine ready _ _ _ computed.reaches (stands.step (.read place target.type) installed.code) ?_
  rw [← computed.world, ← computed.store]
  exact related

theorem write_answers (expr : Expr) (rest : List Stmt) (seen : List String) (before after : Builder)
    (machine : Machine) (lowered : (Stmt.write expr).lower before = .ok () after)
    (installed : Installed setting seen (Stmt.write expr).texts before after) (poised : Poised before machine)
    (next : Resumes setting after.quads.length rest) :
    Answers setting machine (rest.length + 1)
      ((Stmt.write expr).step setting.meaning machine.store machine.world rest) := by
  obtain ⟨source, middle, evaluated, rfl⟩ := (Stmt.lower_write ..).mp lowered
  obtain ⟨ready, computed, value⟩ := expr.lower_computed _ _ seen machine poised.pc poised.args _ evaluated
    (installed.shrink (middle.emit_grows _))
  have stands := computed.poised poised.returned
  have moved := stands.advance (.write source expr.type)
  refine answers_step machine ready _ _ _ computed.reaches (stands.step (.write source expr.type) installed.code) ?_
  refine ⟨moved.pc ▸ next, computed.store, ?_, stands.args, stands.returned⟩
  change ready.world.write (ready.value setting source) expr.type = _
  rw [value, computed.world]

theorem call_answers (callee : Symbol) (args : List Expr) (rest : List Stmt) (seen : List String)
    (before after : Builder) (machine : Machine) (lowered : (Stmt.call callee args).lower before = .ok () after)
    (installed : Installed setting seen (Stmt.call callee args).texts before after)
    (poised : Poised before machine) (next : Resumes setting after.quads.length rest) :
    Answers setting machine (rest.length + 1)
      ((Stmt.call callee args).step setting.meaning machine.store machine.world rest) := by
  obtain ⟨answer, called⟩ := (Stmt.lower_call ..).mp lowered
  obtain ⟨result, operands, middle, _, evaluated, ends⟩ := (Lower.call_ok ..).mp called
  have invoked := middle.invoke_straight callee operands
  -- The quad that fetches an answer, where there is one, changes nothing that is seen later.
  have fetches : Builder.Grows (middle.invoke callee operands) after ∧
      ∀ machine : Machine, Poised (middle.invoke callee operands) machine →
        ∃ finish, Computed setting after machine finish machine.world := by
    split at ends
    · obtain ⟨_, rfl⟩ := ends
      exact ⟨.refl _, fun machine poised => ⟨machine, .refl machine, poised.pc, rfl, poised.args, rfl, rfl⟩⟩
    · obtain ⟨_, rfl⟩ := ends
      refine ⟨(middle.invoke callee operands).compute_grows result.width .getRet, fun machine poised => ?_⟩
      obtain ⟨finish, gets, _⟩ := compute_computed (middle.invoke callee operands) result.width .getRet machine
        machine.answer machine.world installed.code installed.temps poised.pc poised.args rfl
      exact ⟨finish, gets⟩
  obtain ⟨grows, fetches⟩ := fetches
  obtain ⟨ready, computed, values⟩ := Expr.lower_all_computed before middle seen machine poised.pc poised.args args
    operands evaluated (installed.shrink (invoked.toGrows.trans grows))
  obtain ⟨answered, calls⟩ := invoke_computed middle callee operands ready
    (grows.quads.trans installed.code) computed.pc computed.args
  have passed := computed.trans calls
  obtain ⟨finish, gets⟩ := fetches answered (passed.poised poised.returned)
  refine answers_shorter machine finish _ _ (passed.reaches.trans gets.reaches) ?_ (Nat.lt_succ_self _)
  refine ⟨gets.pc ▸ next, gets.store.trans passed.store, ?_, gets.args,
    gets.returned.trans (passed.returned.trans poised.returned)⟩
  rw [gets.world, calls.world, values, computed.world]

theorem ret_answers (value : Option Expr) (rest : List Stmt) (seen : List String) (before after : Builder)
    (machine : Machine) (lowered : (Stmt.ret value).lower before = .ok () after)
    (installed : Installed setting seen (Stmt.ret value).texts before after) (poised : Poised before machine) :
    Answers setting machine (rest.length + 1)
      ((Stmt.ret value).step setting.meaning machine.store machine.world rest) := by
  cases value with
  | none =>
      obtain rfl := (Stmt.lower_ret_none ..).mp lowered
      refine ⟨1, ?_⟩
      rw [iterate, poised.step .ret installed.code, Machine.execute, Machine.finish, poised.returned]
  | some expr =>
      obtain ⟨source, middle, evaluated, rfl⟩ := (Stmt.lower_ret_some ..).mp lowered
      have inner := installed.shrink ((middle.emit (.setRet source)).emit_grows .ret)
      obtain ⟨ready, computed, value⟩ := expr.lower_computed _ _ seen machine poised.pc poised.args _ evaluated
        (inner.shrink (middle.emit_grows _))
      have stands := computed.poised poised.returned
      let answered : Machine := { ready with returned := some (ready.value setting source), pc := ready.pc + 1 }
      have sets : ready.step setting = .next answered := stands.step (.setRet source) inner.code
      have found : setting.code[answered.pc]? = some (.plain .ret) := by
        have standing : answered.pc = (middle.emit (.setRet source)).quads.length :=
          (stands.advance (.setRet source)).pc
        rw [standing]
        exact fetch (middle.emit (.setRet source)).quads _ (Builder.quads_emit _ _ ▸ installed.code)
      obtain ⟨n, runs⟩ := computed.reaches.trans (.single sets)
      refine ⟨n + 1, ?_⟩
      rw [iterate_next n 1 _ _ runs, iterate, answered.step_quad setting _ found]
      change Reaction.finished ⟨some (ready.value setting source), ready.store, ready.world⟩ = _
      rw [value, computed.store, computed.world]

variable (distinct : (setting.code.flatMap Quad.labels).Nodup)

include distinct

theorem if_then_answers (cond : Expr) (body rest : List Stmt) (seen : List String) (before after : Builder)
    (machine : Machine) (lowered : (Stmt.ifThen cond body).lower before = .ok () after)
    (installed : Installed setting seen (Stmt.ifThen cond body).texts before after)
    (poised : Poised before machine) (next : Resumes setting after.quads.length rest) :
    Answers setting machine (rest.length + 1)
      ((Stmt.ifThen cond body).step setting.meaning machine.store machine.world rest) := by
  obtain ⟨test, middle, last, evaluated, ran, rfl⟩ := (Stmt.lower_if_then ..).mp lowered
  let label := middle.nextLabel
  let opened := middle.addLabel.emit (.ifZero test label)
  have inside : Builder.Grows opened last := Stmt.lower_all_grows body _ _ ran
  have inner := installed.shrink (last.place_grows label)
  have straight := cond.lower_straight _ _ _ evaluated
  have labelled : Builder.Grows middle opened :=
    middle.label_grows.trans (middle.addLabel.emit_grows _)
  obtain ⟨ready, computed, value⟩ := cond.lower_computed _ _ seen machine poised.pc poised.args _ evaluated
    (inner.first (labelled.trans inside))
  have lands := fetch_landing last _ label (.refl _) installed.code
  have leaves := Resumes.leave last label rest installed.code next
  have keyed : middle.Keyed := inner.keyed.straight straight
  have keyedOpened : opened.Keyed := keyed
  have blockInstalled := (inner.second keyed (cond.lower_pools _ _ _ evaluated)).enter
    keyedOpened (.same rfl rfl)
  have enters := Resumes.block body rest _ opened last ran blockInstalled leaves
  have stands := (computed.poised poised.returned).add_label
  have answers := branch_answers distinct middle.addLabel test label machine ready (rest.length + 1) last.quads.length
    rest (body ++ rest) computed.reaches stands (inside.quads.trans inner.code) lands leaves enters
  rw [value, computed.store, computed.world] at answers
  exact answers

theorem if_else_answers (cond : Expr) (positive negative rest : List Stmt) (seen : List String)
    (before after : Builder) (machine : Machine)
    (lowered : (Stmt.ifElse cond positive negative).lower before = .ok () after)
    (installed : Installed setting seen (Stmt.ifElse cond positive negative).texts before after)
    (poised : Poised before machine) (next : Resumes setting after.quads.length rest) :
    Answers setting machine (rest.length + 1)
      ((Stmt.ifElse cond positive negative).step setting.meaning machine.store machine.world rest) := by
  obtain ⟨test, middle, turned, last, evaluated, ran, others, rfl⟩ := (Stmt.lower_if_else ..).mp lowered
  let otherwise := middle.nextLabel
  let done := middle.nextLabel.next
  let opened := middle.addLabel.addLabel.emit (.ifZero test otherwise)
  let jumped := turned.emit (.goto done)
  have inside : Builder.Grows opened turned := Stmt.lower_all_grows positive _ _ ran
  have below : Builder.Grows (jumped.place otherwise) last := Stmt.lower_all_grows negative _ _ others
  have inner := installed.shrink (last.place_grows done)
  have straight := cond.lower_straight _ _ _ evaluated
  have landed : Builder.Grows turned last := ((turned.emit_grows _).trans (jumped.place_grows otherwise)).trans below
  have labelled : Builder.Grows middle opened := middle.label_grows.trans
    ((Builder.label_grows _).trans (middle.addLabel.addLabel.emit_grows _))
  have testInstalled := (inner.first landed).first (labelled.trans inside)
  obtain ⟨ready, computed, value⟩ :=
    cond.lower_computed _ _ seen machine poised.pc poised.args _ evaluated testInstalled
  have landsDone := fetch_landing last _ done (.refl _) installed.code
  have landsOther := fetch_landing jumped last otherwise below inner.code
  have leaves := Resumes.leave last done rest installed.code next
  have skips := Resumes.jump turned done _ rest
    (((jumped.place_grows otherwise).trans below).quads.trans inner.code) landsDone leaves
  have keyed : middle.Keyed := inner.keyed.straight straight
  have keyedOpened : opened.Keyed := keyed
  have positiveInstalled := ((inner.first landed).second keyed
    (cond.lower_pools _ _ _ evaluated)).enter keyedOpened (.same rfl rfl)
  have takes := Resumes.block positive rest _ opened turned ran positiveInstalled skips
  have keyedTurned : turned.Keyed := Stmt.lower_all_keyed positive _ _ ran keyedOpened
  have keyedLanded : (jumped.place otherwise).Keyed := keyedTurned
  have firstPools : Pools (cond.texts ++ Stmt.textsAll positive) before (jumped.place otherwise) := by
    have opening : Pools [] middle opened := .same rfl rfl
    have entered := (cond.lower_pools _ _ _ evaluated).trans opening
    rw [List.append_nil] at entered
    exact (entered.trans (Stmt.lower_all_pools positive _ _ ran)).then_same rfl
  have turns := Resumes.block negative rest _ _ last others (inner.second keyedLanded firstPools) leaves
  rw [Builder.quads_place, List.length_append, List.length_singleton] at turns
  have stands := (computed.poised poised.returned).add_label.add_label
  have answers := branch_answers distinct middle.addLabel.addLabel test otherwise machine ready (rest.length + 1)
    jumped.quads.length (negative ++ rest) (positive ++ rest) computed.reaches stands
    ((inside.trans landed).quads.trans inner.code) landsOther (.land _ otherwise _ landsOther turns) takes
  rw [value, computed.store, computed.world] at answers
  exact answers

theorem while_do_answers (cond : Expr) (body rest : List Stmt) (seen : List String) (before after : Builder)
    (machine : Machine) (lowered : (Stmt.whileDo cond body).lower before = .ok () after)
    (installed : Installed setting seen (Stmt.whileDo cond body).texts before after)
    (poised : Poised before machine) (next : Resumes setting after.quads.length rest) :
    Answers setting machine (rest.length + 1)
      ((Stmt.whileDo cond body).step setting.meaning machine.store machine.world rest) := by
  -- The loop itself is what the jump back to its head resumes.
  have again : Resumes setting before.quads.length (.whileDo cond body :: rest) :=
    .stmt _ _ rest seen before after rfl lowered installed next
  obtain ⟨test, middle, last, evaluated, ran, rfl⟩ := (Stmt.lower_while_do ..).mp lowered
  let head := before.nextLabel
  let done := before.nextLabel.next
  let opened := before.addLabel.addLabel.place head
  let tested := middle.emit (.ifZero test done)
  let jumped := last.emit (.goto head)
  have inside : Builder.Grows tested last := Stmt.lower_all_grows body _ _ ran
  have inner := installed.shrink ((last.emit_grows (.goto head)).trans (jumped.place_grows done))
  have straight := cond.lower_straight _ _ _ evaluated
  have through : Builder.Grows opened last :=
    straight.toGrows.trans ((middle.emit_grows (.ifZero test done)).trans inside)
  have keyedBefore : before.Keyed := inner.keyed
  have keyedOpened : opened.Keyed := keyedBefore
  have entered := inner.enter keyedOpened (.same rfl rfl)
  have landsHead : setting.code[before.quads.length]? = some (.landing head) :=
    fetch_landing before.addLabel.addLabel last head through inner.code
  have landsDone := fetch_landing jumped _ done (.refl _) installed.code
  have enters : machine.step setting = .next machine.advance := by
    rw [machine.step_quad setting (.landing head) (poised.pc ▸ landsHead)]
    rfl
  have openedAt : machine.advance.pc = opened.quads.length := by
    rw [Builder.quads_place, List.length_append, List.length_singleton]
    exact congrArg (· + 1) poised.pc
  obtain ⟨ready, computed, value⟩ := cond.lower_computed _ _ seen machine.advance openedAt poised.args _ evaluated
    (entered.first ((middle.emit_grows (.ifZero test done)).trans inside))
  have leaves := Resumes.leave jumped done rest installed.code next
  have repeats := Resumes.jump last head _ (.whileDo cond body :: rest)
    ((jumped.place_grows done).quads.trans installed.code) landsHead again
  have keyed : middle.Keyed := keyedOpened.straight straight
  have keyedTested : tested.Keyed := keyed
  have bodyInstalled := (entered.second keyed (cond.lower_pools _ _ _ evaluated)).enter keyedTested (.same rfl rfl)
  have loops := Resumes.block body _ _ tested last ran bodyInstalled repeats
  have answers := branch_answers distinct middle test done machine ready (rest.length + 1) jumped.quads.length
    rest (body ++ .whileDo cond body :: rest) ((Reaches.single enters).trans computed.reaches)
    (computed.poised poised.returned) (inside.quads.trans inner.code) landsDone leaves loops
  rw [value, computed.store, computed.world] at answers
  exact answers

theorem maybe_answers (dst first second : Expr) (rest : List Stmt) (seen : List String) (before after : Builder)
    (machine : Machine) (lowered : (Stmt.maybe dst first second).lower before = .ok () after)
    (installed : Installed setting seen (Stmt.maybe dst first second).texts before after)
    (poised : Poised before machine) (next : Resumes setting after.quads.length rest) :
    Answers setting machine (rest.length + 1)
      ((Stmt.maybe dst first second).step setting.meaning machine.store machine.world rest) := by
  obtain ⟨target, opened, source, chosen, other, last, opens, chooses, others, rfl⟩ :=
    (Stmt.lower_maybe ..).mp lowered
  let otherwise := before.nextLabel
  let done := before.nextLabel.next
  let choice := Operand.temp (before.nextTemp DataType.bool.width)
  let drawn := before.addLabel.addLabel.compute DataType.bool.width .magic
  let tested := drawn.emit (.ifZero choice otherwise)
  let assigned := chosen.emit (.assign target source)
  let jumped := assigned.emit (.goto done)
  let landed := jumped.place otherwise
  let replaced := last.emit (.assign target other)
  have front := dst.lower_straight _ _ _ opens
  have back := first.lower_straight _ _ _ chooses
  have below := second.lower_straight _ _ _ others
  have landing : Builder.Grows chosen landed :=
    ((chosen.emit_grows _).trans (assigned.emit_grows _)).trans (jumped.place_grows otherwise)
  have ending : Builder.Grows last (replaced.place done) :=
    (last.emit_grows _).trans (replaced.place_grows done)
  have inner := installed.shrink ending
  have testedGrows : Builder.Grows tested last :=
    (front.toGrows.trans back.toGrows).trans (landing.trans below.toGrows)
  have keyedBefore : before.Keyed := installed.keyed
  have keyedTested : tested.Keyed := keyedBefore
  have keyedOpened : opened.Keyed := keyedTested.straight front
  have keyedChosen : chosen.Keyed := keyedOpened.straight back
  have keyedLanded : landed.Keyed := keyedChosen
  have entered := inner.enter keyedTested (.same rfl rfl)
  obtain ⟨ready, draws, value⟩ := compute_computed before.addLabel.addLabel DataType.bool.width .magic machine _ _
    ((drawn.emit_grows _).quads.trans (testedGrows.quads.trans inner.code))
    ((((drawn.emit_grows _).trans testedGrows).temps.length_le).trans inner.temps) poised.pc poised.args rfl
  have stands := draws.poised poised.returned
  have tests := stands.step (.ifZero choice otherwise) (testedGrows.quads.trans inner.code)
  have landsOther := fetch_landing jumped last otherwise below.toGrows inner.code
  have landsDone := fetch_landing replaced _ done (.refl _) installed.code
  have leaves := Resumes.leave replaced done rest installed.code next
  have picked : ready.value setting choice = (machine.world.draw setting.meaning).1 := value
  rw [Machine.execute, picked, Machine.jump, find_landing setting distinct _ otherwise landsOther] at tests
  rw [Stmt.step]
  by_cases zero : (machine.world.draw setting.meaning).1 = 0
  -- The destination has been lowered on the way not taken, but its operand is the same here.
  · rw [if_pos zero] at tests ⊢
    have nops : Machine.step setting { ready with pc := jumped.quads.length } =
        .next { ready with pc := jumped.quads.length + 1 } := by
      rw [Machine.step_quad setting { ready with pc := jumped.quads.length } (.landing otherwise) landsOther]
      rfl
    have landedAt : jumped.quads.length + 1 = landed.quads.length := by
      rw [Builder.quads_place, List.length_append, List.length_singleton]
    have earlier : Pools (dst.texts ++ first.texts) tested landed :=
      ((dst.lower_pools _ _ _ opens).trans (first.lower_pools _ _ _ chooses)).then_same rfl
    have landedPoised : Poised landed { ready with pc := jumped.quads.length + 1 } :=
      ⟨landedAt, stands.args, stands.returned⟩
    have otherInstalled := (installed.shrink (replaced.place_grows done)).enter keyedTested (.same rfl rfl)
    have answers := store_answers dst second tested opened landed last target other rest _ machine _
      (rest.length + 1) opens keyedTested others (otherInstalled.second keyedLanded earlier)
      (draws.reaches.trans ((Reaches.single tests).trans (.single nops))) landedPoised leaves
    simp only [draws.store, draws.world] at answers
    exact answers
  · rw [if_neg zero] at tests ⊢
    have moved := stands.advance (.ifZero choice otherwise)
    have taken := entered.first (landing.trans below.toGrows)
    obtain ⟨placed, places, _⟩ := dst.lower_computed _ _ seen ready.advance moved.pc moved.args _ opens
      (taken.first back.toGrows)
    have past : Builder.Grows assigned last :=
      ((assigned.emit_grows _).trans (jumped.place_grows otherwise)).trans below.toGrows
    have skips := Resumes.jump assigned done _ rest
      (((jumped.place_grows otherwise).trans below.toGrows).quads.trans inner.code) landsDone leaves
    have sourceInstalled := (entered.first past).second keyedOpened (dst.lower_pools _ _ _ opens)
    have answers := store_answers dst first tested opened opened chosen target source rest _ machine placed
      (rest.length + 1) opens keyedTested chooses sourceInstalled
      (draws.reaches.trans ((Reaches.single tests).trans places.reaches)) (places.poised moved.returned) skips
    have advanced : ready.advance.store = machine.store ∧ ready.advance.world = (machine.world.draw setting.meaning).2 :=
      ⟨draws.store, draws.world⟩
    rw [places.store, places.world, advanced.1, advanced.2] at answers
    exact answers

theorem Stmt.lower_answers (stmt : Stmt) (rest : List Stmt) (seen : List String) (before after : Builder)
    (machine : Machine) (lowered : stmt.lower before = .ok () after)
    (installed : Installed setting seen stmt.texts before after) (poised : Poised before machine)
    (next : Resumes setting after.quads.length rest) :
    Answers setting machine (rest.length + 1) (stmt.step setting.meaning machine.store machine.world rest) := by
  cases stmt with
  | localVariable symbol =>
      obtain rfl := (Stmt.lower_local_variable ..).mp lowered
      exact answers_shorter machine machine _ _ (.refl machine)
        ⟨poised.pc ▸ next, rfl, rfl, poised.args, poised.returned⟩ (Nat.lt_succ_self _)
  | localFormal symbol =>
      obtain rfl := (Stmt.lower_local_formal ..).mp lowered
      exact answers_shorter machine machine _ _ (.refl machine)
        ⟨poised.pc ▸ next, rfl, rfl, poised.args, poised.returned⟩ (Nat.lt_succ_self _)
  | localFunction symbol formals body => exact absurd lowered (Stmt.lower_local_function _ _ _ _ _)
  | assign dst src => exact assign_answers dst src rest seen before after machine lowered installed poised next
  | maybe dst first second =>
      exact maybe_answers distinct dst first second rest seen before after machine lowered installed poised next
  | increment target =>
      exact bump_answers .add target rest seen before after machine lowered installed poised next
  | decrement target =>
      exact bump_answers .sub target rest seen before after machine lowered installed poised next
  | write expr => exact write_answers expr rest seen before after machine lowered installed poised next
  | read target => exact read_answers target rest seen before after machine lowered installed poised next
  | ifThen cond body =>
      exact if_then_answers distinct cond body rest seen before after machine lowered installed poised next
  | ifElse cond positive negative =>
      exact if_else_answers distinct cond positive negative rest seen before after machine lowered installed poised next
  | whileDo cond body =>
      exact while_do_answers distinct cond body rest seen before after machine lowered installed poised next
  | call callee args => exact call_answers callee args rest seen before after machine lowered installed poised next
  | ret value => exact ret_answers value rest seen before after machine lowered installed poised

-- Jumps and landings in front of the next statement are passed without being seen.
theorem Resumes.answers (pc : Nat) (todo : List Stmt) (resumes : Resumes setting pc todo) (machine : Machine)
    (here : machine.pc = pc) (idle : machine.args = []) (fresh : machine.returned = none) :
    Answers setting machine todo.length (Source.step setting.meaning ⟨todo, machine.store, machine.world⟩) := by
  induction resumes generalizing machine with
  | done pc past =>
      refine ⟨1, ?_⟩
      have ended : setting.code[machine.pc]? = none := List.getElem?_eq_none (by omega)
      rw [iterate, Machine.step, ended, Machine.finish, fresh]
  | stmt pc stmt rest seen before after standing lowered installed next ih =>
      exact stmt.lower_answers distinct rest seen before after machine lowered installed
        ⟨here.trans standing, idle, fresh⟩ next
  | goto pc target label rest found lands next ih =>
      have jumps : machine.step setting = .next { machine with pc := target } := by
        rw [machine.step_quad setting _ (here ▸ found), Quad.plain, Machine.execute, Machine.jump,
          find_landing setting distinct target label lands]
      exact (ih { machine with pc := target } rfl idle fresh).before jumps
  | land pc label rest found next ih =>
      have passes : machine.step setting = .next machine.advance := by
        rw [machine.step_quad setting _ (here ▸ found)]
        rfl
      exact (ih machine.advance (congrArg (· + 1) here) idle fresh).before passes

end Statements

theorem Related.simulation (setting : Setting) (distinct : (setting.code.flatMap Quad.labels).Nodup) :
    Simulation (Source.step setting.meaning) Source.world (Machine.step setting) Machine.world (Related setting)
      fun source => source.todo.length := by
  refine ⟨fun source machine related => related.world, ?_⟩
  intro source machine related
  have answers := related.resumes.answers distinct _ _ machine rfl related.args related.returned
  rw [related.store, related.world] at answers
  cases reacts : source.step setting.meaning with
  | next later => exact (reacts ▸ answers : Answers setting machine _ (.next later))
  | finished outcome => exact (reacts ▸ answers : Answers setting machine _ (.finished outcome))
  | stuck => exact (reacts ▸ answers : Answers setting machine source.todo.length .stuck)

end ThreeAddress
