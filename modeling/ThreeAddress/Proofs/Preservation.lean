import ThreeAddress.Proofs.Labels
import ThreeAddress.Proofs.Statements
import ThreeAddress.Proofs.Temporaries

set_option autoImplicit false

namespace ThreeAddress

theorem receive_runs {setting : Setting} (formals : List Symbol) (position : Nat) (front : List Quad)
    (machine : Machine) (here : machine.pc = front.length)
    (code : front ++ (Builder.arrivals position (formals.map .ofSymbol)).map .plain <+: setting.code) :
    Reaches (Machine.step setting) machine
      { machine with
        pc := front.length + formals.length
        store := Source.receive setting.incoming position machine.store formals } := by
  induction formals generalizing position front machine with
  | nil =>
      have same : machine = { machine with pc := front.length + 0, store := machine.store } := by
        rw [Nat.add_zero, ← here]
      exact same ▸ Reaches.refl machine
  | cons formal tail ih =>
      let quad : Quad := .plain (.getArg position (.slot (.ofSymbol formal)))
      let moved : Machine :=
        { machine with store := machine.store.set formal.id (setting.incoming position), pc := machine.pc + 1 }
      have grown : (front ++ [quad]) ++ (Builder.arrivals (position + 1) (tail.map .ofSymbol)).map .plain <+:
          setting.code := by
        rw [List.append_assoc]
        exact code
      have found := fetch front quad ((List.prefix_append _ _).trans grown)
      rw [← here] at found
      have receives : machine.step setting = .next moved := machine.step_quad setting quad found
      have rest := ih (position + 1) (front ++ [quad]) moved
        (by rw [List.length_append, List.length_singleton, ← here]) grown
      have lengths : (front ++ [quad]).length + tail.length = front.length + (formal :: tail).length := by
        simp only [List.length_append, List.length_cons, List.length_nil]
        omega
      rw [lengths] at rest
      exact (Reaches.single receives).trans rest

def Session.Keyed (session : Session) : Prop :=
  ∀ id slot, session.program.global? id = some slot → slot.symbol = id

theorem Session.Runs.keyed {before after : Session} {decls : List Decl} (runs : Runs before decls after)
    (keyed : before.Keyed) : after.Keyed := by
  induction runs with
  | nil session => exact keyed
  | global session after symbol tail rest ih =>
      exact ih (Builder.bound_keyed symbol (fun _ => HandleMap.get?_insert ..) keyed)
  | function session after definition builder tail lowered rest ih =>
      apply ih
      intro id slot found
      change builder.program.globals.get? id = some slot at found
      rw [definition.lower_globals _ _ lowered] at found
      exact keyed id slot found

section Function

variable (definition : Function) (session : Session) (builder : Builder)
  (lowered : definition.lower (session.openProcedure definition.symbol.name) = .ok () builder)

include lowered

theorem Function.lower_distinct (fits : Stmt.labelCountAll definition.body ≤ 2 ^ 32) :
    (builder.quads.flatMap Quad.labels).Nodup := by
  have counter : session.program.nextLabel = .ofNat session.program.nextLabel.index :=
    (Handle.of_nat_index _).symm
  have labelled := definition.lower_labels session builder _ lowered counter
  rw [← Multiset.coe_nodup, labelled.placed]
  exact label_block_nodup _ _ fits

theorem Function.lower_behaviour (seen : List String) (setting : Setting) (code : setting.code = builder.quads)
    (fits : Stmt.labelCountAll definition.body ≤ 2 ^ 32) (few : builder.temps.length ≤ 2 ^ 32)
    (keyed : session.Keyed) (pooled : Pooled session.program seen)
    (resolves : Resolves setting.program seen.length (Stmt.textsAll definition.body)) (machine : Machine)
    (starts : machine.pc = 0) (idle : machine.args = []) (fresh : machine.returned = none) :
    SameBehaviour (Source.step setting.meaning) Source.world
      (Source.enter definition setting.incoming machine.store machine.world)
      (Machine.step setting) Machine.world machine := by
  have distinct : (setting.code.flatMap Quad.labels).Nodup := by
    rw [code]
    exact definition.lower_distinct session builder lowered fits
  obtain ⟨last, ran, rfl⟩ := (Function.lower_ok ..).mp lowered
  let opened := session.openProcedure definition.symbol.name
  let entry := opened.enter definition
  have entryQuads : entry.quads =
      [] ++ (Builder.arrivals 1 (definition.formals.map .ofSymbol)).map .plain := opened.quads_enter definition
  have grown : entry.quads <+: setting.code := by
    rw [code]
    exact (Stmt.lower_all_grows definition.body entry last ran).quads
  have openedKeyed : opened.Keyed := keyed
  have entryKeyed : entry.Keyed := (opened.enter_trace definition (.nil _)).keyed openedKeyed
  have entryPooled : Pooled entry.program seen := by
    rw [Builder.program_enter]
    exact ⟨pooled.counter, pooled.kept⟩
  have lastCode : last.quads <+: setting.code := by
    rw [code]
    exact List.prefix_refl _
  have installed : Installed setting seen (Stmt.textsAll definition.body) entry last :=
    ⟨lastCode, few, entryKeyed, entryPooled, resolves⟩
  have ends : Resumes setting last.quads.length [] := by
    refine .done _ ?_
    rw [code]
    exact Nat.le_refl _
  have body := Resumes.block definition.body [] seen entry last ran installed ends
  rw [List.append_nil] at body
  have arrives := receive_runs definition.formals 1 [] machine starts (entryQuads ▸ grown)
  have position : ([] : List Quad).length + definition.formals.length = entry.quads.length := by
    rw [entryQuads]
    simp [Builder.arrivals]
  rw [position] at arrives
  exact (Related.simulation setting distinct).same_behaviour (Machine.accumulates setting) _ machine _ arrives
    ⟨body, rfl, rfl, idle, fresh⟩

end Function

theorem initial_keyed : Session.initial.Keyed := nofun

theorem initial_pooled : Pooled Session.initial.program [] := ⟨rfl, nofun⟩

theorem Session.Runs.resolves {earlier later : List Decl} {definition : Function} {after : Session}
    (runs : Runs .initial (earlier ++ .function definition :: later) after)
    (fits : (texts (earlier ++ .function definition :: later)).length ≤ 2 ^ 32) :
    Resolves after.program (texts earlier).length (Stmt.textsAll definition.body) := by
  have pooled := runs.pooled [] initial_pooled
  rw [List.nil_append] at pooled
  have whole : Resolves after.program 0 (texts (earlier ++ .function definition :: later)) := by
    intro i text at_
    rw [Nat.zero_add]
    exact pooled.kept fits i text at_
  rw [texts_append] at whole
  have own : Resolves after.program (0 + (texts earlier).length) (Stmt.textsAll definition.body ++ texts later) :=
    whole.right
  rw [Nat.zero_add] at own
  exact own.left

/- Handles wrap at 32 bits, so labels of the function, temporaries of its procedure and
   strings of the program must not outnumber them. What the temporaries and the answer
   register hold at first does not matter. -/
theorem lowered_same_behaviour (decls : List Decl) (program : Program) (log : Array Event)
    (few : (functions decls).length < 2 ^ 32 - 1) (accepted : lower decls = (.ok program, log))
    (strings : (texts decls).length ≤ 2 ^ 32) (index : Nat) (definition : Function)
    (listed : (functions decls)[index]? = some definition)
    (labels : Stmt.labelCountAll definition.body ≤ 2 ^ 32) :
    ∃ procedure, program.procedures.items[index + 1]? = some procedure ∧
      (procedure.temps.size ≤ 2 ^ 32 →
        ∀ (meaning : Meaning) (incoming : Nat → Word) (store : Store) (world : World)
          (temps : Handle .temp → Word) (answer : Word),
          SameBehaviour (Source.step meaning) Source.world (Source.enter definition incoming store world)
            (Machine.step ⟨meaning, program, procedure.quads.toList, incoming⟩) Machine.world
            ⟨0, store, temps, [], answer, none, world⟩) := by
  obtain ⟨session, runs, rfl⟩ := runs_of_accepted decls program log (by omega) accepted
  obtain ⟨earlier, later, middle, builder, rfl, first, lowered, last, found⟩ :=
    runs.function_at index definition listed
  refine ⟨builder.procedure, ?_, ?_⟩
  · rw [← Array.getElem?_toList, Nat.add_comm]
    exact found
  · intro small meaning incoming store world temps answer
    have pooled := first.pooled [] initial_pooled
    exact definition.lower_behaviour middle builder lowered (texts earlier)
      ⟨meaning, session.program, builder.procedure.quads.toList, incoming⟩ rfl labels small
      (first.keyed initial_keyed) pooled (runs.resolves strings) ⟨0, store, temps, [], answer, none, world⟩ rfl rfl rfl

def Sample.meaning : Meaning where
  unary op value := match op with
    | .neg => -value
    | .not => .ofBool (value == 0)
  binary op left right := match op with
    | .add => left + right
    | .sub => left - right
    | .lt => .ofBool (left < right)
    | _ => 0
  text _ := 7
  choice n := n % 2 == 0
  input _ := 5
  answer _ _ args _ := args.sum / 2

def Sample.start : Source := Source.enter mainDefinition (fun _ => 0) (fun _ => 0) ⟨[], 0, 0⟩

def Sample.events : List Effect := [.read 5 .int, .called halve.id "halve" [5] 2, .wrote 7 .string]

theorem Sample.run_ends : ∃ n outcome,
    iterate (Source.step meaning) n start = .finished outcome ∧ outcome.world.history = events := by
  have shown : (match iterate (Source.step meaning) 20 start with
      | .finished outcome => decide (outcome.world.history = events)
      | _ => false) = true := by decide +kernel
  cases ran : iterate (Source.step meaning) 20 start with
  | next source => simp [ran] at shown
  | stuck => simp [ran] at shown
  | finished outcome => exact ⟨20, outcome, ran, by simpa [ran] using shown⟩

theorem sample_same_behaviour :
    ∃ program log procedure, lower Sample.program = (.ok program, log) ∧
      program.procedures.items[2]? = some procedure ∧
      ∃ n outcome, iterate (Machine.step ⟨Sample.meaning, program, procedure.quads.toList, fun _ => 0⟩) n
          ⟨0, fun _ => 0, fun _ => 0, [], 0, none, ⟨[], 0, 0⟩⟩ = .finished outcome ∧
        outcome.world.history = Sample.events := by
  obtain ⟨program, log, accepted⟩ := Sample.accepted
  obtain ⟨procedure, found, preserved⟩ := lowered_same_behaviour Sample.program program log (by decide) accepted
    (by decide) 1 Sample.mainDefinition rfl (by decide)
  obtain ⟨same, foundSame, size⟩ := Sample.main_temps program log accepted
  have equal : procedure = same := Option.some.inj (found.symm.trans foundSame)
  have behaves := preserved (by rw [equal, size]; decide) Sample.meaning (fun _ => 0) (fun _ => 0) ⟨[], 0, 0⟩
    (fun _ => 0) 0
  obtain ⟨n, outcome, ends, history⟩ := Sample.run_ends
  obtain ⟨m, finishes⟩ := (behaves.finishes outcome).mp ⟨n, ends⟩
  exact ⟨program, log, procedure, accepted, found, m, outcome, finishes, history⟩

end ThreeAddress
