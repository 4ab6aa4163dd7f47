import ThreeAddress.Proofs.Bindings
import ThreeAddress.Proofs.Temporaries

set_option autoImplicit false

namespace ThreeAddress

open Lower

def definitions (quads : List Quad) : Nat := (quads.filterMap fun quad => quad.instr.defines?).length

theorem definitions_append (front back : List Quad) :
    definitions (front ++ back) = definitions front + definitions back := by
  rw [definitions, List.filterMap_append, List.length_append]
  rfl

structure Ordered (quads : List Quad) (temps : List Temp) : Prop where
  counted : definitions quads = temps.length
  early : ∀ front back, quads = front ++ back → ∀ quad ∈ front, ∀ temp, .temp temp ∈ quad.instr.operands →
    temp ∈ temps.take (definitions front)

theorem Ordered.push {quads : List Quad} {temps : List Temp} (ordered : Ordered quads temps) (quad : Quad)
    (new : List Temp) (defines : definitions [quad] = new.length)
    (known : ∀ temp, .temp temp ∈ quad.instr.operands → temp ∈ temps ++ new) :
    Ordered (quads ++ [quad]) (temps ++ new) := by
  have counted : definitions (quads ++ [quad]) = (temps ++ new).length := by
    rw [definitions_append, ordered.counted, defines, List.length_append]
  refine ⟨counted, ?_⟩
  intro front back split other member temp occurs
  rcases List.eq_nil_or_concat back with rfl | ⟨shorter, last, rfl⟩
  · rw [List.append_nil] at split
    subst split
    rw [counted, List.take_length]
    rcases List.mem_append.mp member with old | here
    · exact List.mem_append_left _ (List.mem_of_mem_take
        (ordered.early quads [] (List.append_nil _).symm other old temp occurs))
    · obtain rfl := List.mem_singleton.mp here
      exact known temp occurs
  · rw [List.concat_eq_append, ← List.append_assoc] at split
    have within := ordered.early front shorter (List.append_inj_left' split rfl) other member temp occurs
    rw [List.take_append]
    exact List.mem_append_left _ within

namespace Builder

def Knows (builder : Builder) : Operand → Prop
  | .temp temp => temp ∈ builder.temps
  | .slot slot => slot ∈ builder.procedure.formals ∨ slot ∈ builder.procedure.locals ∨
      ∃ id, builder.program.global? id = some slot
  | .literal (.string id) width => width = 8 ∧ (builder.program.string? id).isSome = true
  | .literal (.int _) _ | .literal (.bool _) _ => True

theorem Knows.kept {before after : Builder} {operand : Operand} (known : before.Knows operand)
    (grows : Grows before after) : after.Knows operand := by
  cases operand with
  | temp temp => exact grows.temps.subset known
  | slot slot =>
      rcases known with formal | local_ | ⟨id, global⟩
      · exact .inl (grows.formals slot formal)
      · exact .inr (.inl (grows.locals slot local_))
      · refine .inr (.inr ⟨id, ?_⟩)
        rw [Program.global?, grows.globals]
        exact global
  | literal value width =>
      cases value with
      | int | bool => trivial
      | string id => exact ⟨known.1, grows.strings id known.2⟩

structure Closed (builder : Builder) : Prop where
  bound : ∀ id slot, builder.procedure.slot? id = some slot →
    slot ∈ builder.procedure.formals ∨ slot ∈ builder.procedure.locals
  ordered : Ordered builder.quads builder.temps
  code : ∀ quad ∈ builder.quads, ∀ operand ∈ quad.instr.operands, builder.Knows operand

theorem Closed.knows {builder : Builder} (closed : builder.Closed) {operand : Operand} (has : builder.Has operand) :
    builder.Knows operand := by
  cases operand with
  | temp temp => exact has
  | literal value width => cases value <;> exact has
  | slot slot =>
      obtain ⟨id, found⟩ := has
      rcases Option.or_eq_some_iff.mp found with own | ⟨_, global⟩
      · exact (closed.bound id slot own).imp_right .inl
      · exact .inr (.inr ⟨id, global⟩)

theorem Closed.push {before after : Builder} (closed : before.Closed) (grows : Grows before after)
    (bindings : after.procedure.bindings = before.procedure.bindings) (quad : Quad) (new : List Temp)
    (quads : after.quads = before.quads ++ [quad]) (temps : after.temps = before.temps ++ new)
    (defines : definitions [quad] = new.length)
    (known : ∀ operand ∈ quad.instr.operands, after.Knows operand) : after.Closed := by
  refine ⟨?_, ?_, ?_⟩
  · intro id slot found
    rw [Procedure.slot?, bindings] at found
    exact (closed.bound id slot found).imp (grows.formals slot) (grows.locals slot)
  · rw [quads, temps]
    exact closed.ordered.push quad new defines fun temp occurs => temps ▸ known _ occurs
  · intro other member operand occurs
    rw [quads] at member
    rcases List.mem_append.mp member with old | here
    · exact (closed.code other old operand occurs).kept grows
    · obtain rfl := List.mem_singleton.mp here
      exact known operand occurs

theorem Closed.bind {before after : Builder} (closed : before.Closed) (symbol : Symbol)
    (grows : Grows before after) (quads : after.quads = before.quads) (temps : after.temps = before.temps)
    (bindings : after.procedure.bindings = before.procedure.bindings.insert symbol.id (.ofSymbol symbol))
    (listed : .ofSymbol symbol ∈ after.procedure.formals ∨ .ofSymbol symbol ∈ after.procedure.locals) :
    after.Closed := by
  refine ⟨?_, quads ▸ temps ▸ closed.ordered, ?_⟩
  · intro id slot found
    rw [Procedure.slot?, bindings, HandleMap.get?_insert] at found
    by_cases same : id = symbol.id
    · rw [if_pos same] at found
      cases found
      exact listed
    · rw [if_neg same] at found
      exact (closed.bound id slot found).imp (grows.formals slot) (grows.locals slot)
  · intro quad member operand occurs
    rw [quads] at member
    exact (closed.code quad member operand occurs).kept grows

variable {builder : Builder}

theorem Closed.emit (closed : builder.Closed) (instr : Instr) (silent : instr.defines? = none)
    (known : ∀ operand ∈ instr.operands, builder.Knows operand) : (builder.emit instr).Closed := by
  refine closed.push (builder.emit_grows instr) rfl (.plain instr) [] (builder.quads_emit instr)
    (List.append_nil _).symm (by simp [definitions, Quad.plain, silent]) ?_
  intro operand occurs
  exact (known operand occurs).kept (builder.emit_grows instr)

theorem Closed.add_string (closed : builder.Closed) (text : String) : (builder.addString text).Closed := by
  refine ⟨closed.bound, closed.ordered, ?_⟩
  intro quad member operand occurs
  exact (closed.code quad member operand occurs).kept (builder.string_grows text)

theorem Closed.compute (closed : builder.Closed) (width : Nat) (instr : Operand → Instr) (sources : List Operand)
    (defines : ∀ dst, (instr dst).defines? = some dst) (operands : ∀ dst, (instr dst).operands = dst :: sources)
    (known : ∀ operand ∈ sources, builder.Knows operand) : (builder.compute width instr).Closed := by
  have grows : Grows builder (builder.compute width instr) := (builder.temp_grows width).trans (emit_grows _ _)
  refine closed.push grows rfl _ [builder.nextTemp width] (quads_emit _ _)
    (builder.temps_add_temp width) (by simp [definitions, Quad.plain, defines]) ?_
  intro operand occurs
  rw [Quad.plain, operands] at occurs
  rcases List.mem_cons.mp occurs with rfl | source
  · exact (builder.offers_compute width instr defines).has
  · exact (known operand source).kept grows

theorem Closed.pass (closed : builder.Closed) (position : Nat) (operands : List Operand)
    (known : ∀ operand ∈ operands, builder.Knows operand) : (builder.pass position operands).Closed := by
  induction operands generalizing builder position with
  | nil => exact closed
  | cons operand tail ih =>
      obtain ⟨here, others⟩ := List.forall_mem_cons.mp known
      exact ih (closed.emit _ rfl (by simpa [Instr.operands] using here)) (position + 1) others

theorem Closed.invoke (closed : builder.Closed) (callee : Symbol) (operands : List Operand)
    (known : ∀ operand ∈ operands, builder.Knows operand) : (builder.invoke callee operands).Closed :=
  (closed.pass 1 operands known).emit _ rfl (by simp [Instr.operands])

theorem Closed.receive (closed : builder.Closed) (position : Nat) (formals : List Slot)
    (known : ∀ formal ∈ formals, formal ∈ builder.procedure.formals) :
    (builder.receive position formals).Closed := by
  induction formals generalizing builder position with
  | nil => exact closed
  | cons formal tail ih =>
      obtain ⟨here, others⟩ := List.forall_mem_cons.mp known
      exact ih (closed.emit _ rfl (by simpa [Instr.operands] using .inl here)) (position + 1) others

theorem Step.closed {mark : Mark} {before after : Builder} (step : Step before mark after) (closed : before.Closed) :
    after.Closed := by
  cases step with
  | text text => exact closed.add_string text
  | use | check => exact closed
  | label => exact ⟨closed.bound, closed.ordered, closed.code⟩
  | compute width instr action sources computing offered =>
      exact closed.compute width instr sources computing.defines computing.operands
        fun operand member => closed.knows (offered operand member).has
  | run start callee args operands type lowered offered =>
      exact closed.invoke callee operands fun operand member => closed.knows (offered operand member).has
  | call start callee args operands result type value lowered offered =>
      have invoked := closed.invoke callee operands fun operand member => closed.knows (offered operand member).has
      exact invoked.compute _ _ [] (fun _ => rfl) (fun _ => rfl) (by simp)
  | emit instr silent apart mute still has ready =>
      exact closed.emit instr silent fun operand occurs => closed.knows (has operand occurs)
  | say text type =>
      have told := closed.add_string text
      exact told.emit _ rfl (by simpa [Instr.operands] using told.knows (before.has_string text))
  | test cond label offered =>
      exact closed.emit _ rfl (by simpa [Instr.operands] using closed.knows offered.has)
  | jump label => exact closed.emit _ rfl (by simp [Instr.operands])
  | land label =>
      exact closed.push (before.place_grows label) rfl (.landing label) [] (before.quads_place label)
        (List.append_nil _).symm rfl nofun
  | bindLocal symbol => exact closed.bind symbol (before.local_grows symbol) rfl rfl rfl (.inr (Array.mem_push_self ..))
  | bindFormal symbol =>
      exact closed.bind symbol (before.formal_grows symbol) rfl rfl rfl (.inl (Array.mem_push_self ..))
  | receive formals listed => exact closed.receive 1 formals listed

end Builder

open Builder

theorem Function.lower_closed (definition : Function) (before after : Builder)
    (lowered : definition.lower before = .ok () after) (closed : before.Closed) : after.Closed := by
  obtain ⟨last, trace, rfl⟩ := definition.lower_trace before after lowered
  have body : last.Closed := trace.keeps (fun _ _ _ step => step.closed) closed
  exact ⟨body.bound, body.ordered, body.code⟩

def Decl.global? : Decl → Option Symbol
  | .global symbol => some symbol
  | .formal _ | .function _ => none

def globals (decls : List Decl) : List Symbol := decls.filterMap Decl.global?

namespace Session

theorem Runs.globals_bound {before after : Session} {decls : List Decl} (runs : Runs before decls after) :
    after.program.globals = bindAll before.program.globals (globals decls) := by
  induction runs with
  | nil session => rfl
  | global session after symbol tail rest ih => exact ih
  | function session after definition builder tail lowered rest ih =>
      rw [ih]
      exact congrArg (bindAll · (globals tail)) (definition.lower_globals _ builder lowered)

theorem Runs.global_latest {after : Session} {decls : List Decl} (runs : Runs .initial decls after)
    (id : Handle .symbol) : after.program.global? id = latest (globals decls) id := by
  rw [Program.global?, runs.globals_bound]
  exact (get?_bind_all _ _ id).trans Option.or_none

theorem Runs.string_kept {before after : Session} {decls : List Decl} (runs : Runs before decls after)
    (id : Handle .string) (present : (before.program.string? id).isSome = true) :
    (after.program.string? id).isSome = true := by
  induction runs with
  | nil session => exact present
  | global session after symbol tail rest ih => exact ih present
  | function session after definition builder tail lowered rest ih =>
      exact ih ((definition.lower_grows _ builder lowered).strings id present)

end Session

theorem opened_closed (session : Session) (name : String) : (session.openProcedure name).Closed := by
  refine ⟨?_, ⟨rfl, ?_⟩, ?_⟩
  · intro id slot found
    cases found
  · intro front back split quad member
    have empty : front = [] := (List.append_eq_nil_iff.mp split.symm).1
    rw [empty] at member
    cases member
  · intro quad member
    cases member

structure Resolved (program : Program) (procedure : Procedure) (visible : List Symbol) (operand : Operand) :
    Prop where
  temp : ∀ temp, operand = .temp temp → temp ∈ procedure.temps.items
  string : ∀ id width, operand = .literal (.string id) width → width = 8 ∧ (program.string? id).isSome = true
  slot : ∀ slot, operand = .slot slot →
    slot ∈ procedure.formals ∨ slot ∈ procedure.locals ∨ ∃ symbol ∈ visible, slot = .ofSymbol symbol

theorem Session.Runs.resolved {after : Session} {earlier later : List Decl} {middle : Session} {builder : Builder}
    (definition : Function) (first : Runs .initial earlier middle)
    (lowered : definition.lower (middle.openProcedure definition.symbol.name) = .ok () builder)
    (rest : Runs (middle.close builder) later after) (operand : Operand) (known : builder.Knows operand) :
    Resolved after.program builder.procedure (globals earlier) operand := by
  refine ⟨?_, ?_, ?_⟩
  · rintro temp rfl
    exact Array.mem_toList_iff.mp known
  · rintro id width rfl
    exact ⟨known.1, rest.string_kept id known.2⟩
  · rintro slot rfl
    rcases known with formal | local_ | ⟨id, global⟩
    · exact .inl formal
    · exact .inr (.inl local_)
    · have kept := definition.lower_globals _ builder lowered
      rw [Program.global?, kept] at global
      have bound : latest (globals earlier) id = some slot := (first.global_latest id).symm.trans global
      obtain ⟨symbol, declared, _, rfl⟩ := mem_of_latest _ id slot bound
      exact .inr (.inr ⟨symbol, declared, rfl⟩)

theorem Session.Runs.global_listed {after : Session} {decls : List Decl} (runs : Runs .initial decls after)
    (consistent : ∀ a ∈ globals decls, ∀ b ∈ globals decls, a.id = b.id → a = b) (symbol : Symbol)
    (listed : symbol ∈ globals decls) : .ofSymbol symbol ∈ after.program.globals.values := by
  obtain ⟨slot, found⟩ := Option.isSome_iff_exists.mp
    ((latest_is_some (globals decls) symbol.id).mpr (List.mem_map_of_mem listed))
  obtain ⟨last, declared, same, rfl⟩ := mem_of_latest _ _ slot found
  rw [consistent last declared symbol listed same] at found
  exact HandleMap.lookup_mem symbol.id _ _ ((runs.global_latest symbol.id).trans found)

theorem lowered_closed (decls : List Decl) (program : Program) (log : Array Event)
    (few : (functions decls).length < 2 ^ 32) (accepted : lower decls = (.ok program, log)) (index : Nat)
    (procedure : Procedure) (listed : program.procedures.items[index]? = some procedure) (quad : Quad)
    (inside : quad ∈ procedure.quads) (operand : Operand) (occurs : operand ∈ quad.instr.operands) :
    (∃ earlier definition later, decls = earlier ++ .function definition :: later ∧
      index = (functions earlier).length + 1 ∧ Resolved program procedure (globals earlier) operand) ∧
    ((∀ a ∈ globals decls, ∀ b ∈ globals decls, a.id = b.id → a = b) → ∀ slot, operand = .slot slot →
      slot ∈ procedure.formals ∨ slot ∈ procedure.locals ∨ slot ∈ program.globals.values) := by
  obtain ⟨session, runs, rfl⟩ := runs_of_accepted decls program log few accepted
  have found : session.procedures[index]? = some procedure := by
    rw [Session.procedures, Array.getElem?_toList]
    exact listed
  rcases runs.procedure_cases index procedure found with ⟨_, rfl⟩ | entry
  · cases Array.mem_toList_iff.mpr inside
  · obtain ⟨earlier, definition, later, middle, builder, rfl, here, first, lowered, rest, rfl⟩ := entry
    have closed := definition.lower_closed _ builder lowered (opened_closed middle definition.symbol.name)
    have known := closed.code quad (Array.mem_toList_iff.mpr inside) operand occurs
    have resolved := first.resolved definition lowered rest operand known
    refine ⟨⟨earlier, definition, later, rfl, here, resolved⟩, ?_⟩
    intro consistent slot same
    rcases resolved.slot slot same with formal | local_ | ⟨symbol, visible, rfl⟩
    · exact .inl formal
    · exact .inr (.inl local_)
    · have listed : symbol ∈ globals (earlier ++ .function definition :: later) := by
        rw [globals, List.filterMap_append]
        exact List.mem_append_left _ visible
      exact .inr (.inr (runs.global_listed consistent symbol listed))

namespace Sample

theorem main_reads (lowered : Program) (log : Array Event) (accepted : lower program = (.ok lowered, log)) :
    ∃ procedure, lowered.procedures.items[2]? = some procedure ∧
      ∃ quad, quad ∈ procedure.quads ∧ quad.instr = .read (.slot (.ofSymbol total)) .int := by
  have first : ((lower program).1.toOption.bind fun lowered => lowered.procedures.items[2]?.bind fun procedure =>
      procedure.quads[0]?.map Quad.instr) = some (.read (.slot (.ofSymbol total)) .int) := by decide +kernel
  rw [accepted] at first
  simp only [Except.toOption, Option.bind_some] at first
  obtain ⟨procedure, found, first⟩ := Option.bind_eq_some_iff.mp first
  obtain ⟨quad, inside, instr⟩ := Option.map_eq_some_iff.mp first
  exact ⟨procedure, found, quad, Array.mem_of_getElem? inside, instr⟩

end Sample

theorem sample_closed :
    ∃ program log procedure quad, lower Sample.program = (.ok program, log) ∧
      program.procedures.items[2]? = some procedure ∧ quad ∈ procedure.quads ∧
      .slot (.ofSymbol Sample.total) ∈ quad.instr.operands ∧
      (.ofSymbol Sample.total ∈ procedure.formals ∨ .ofSymbol Sample.total ∈ procedure.locals ∨
        .ofSymbol Sample.total ∈ program.globals.values) := by
  obtain ⟨program, log, accepted⟩ := Sample.accepted
  obtain ⟨procedure, found, quad, inside, occurs⟩ := Sample.main_reads program log accepted
  have closed := lowered_closed Sample.program program log (by decide) accepted 2 procedure found quad inside
    (.slot (.ofSymbol Sample.total)) (by rw [occurs]; exact List.mem_cons_self ..)
  exact ⟨program, log, procedure, quad, accepted, found, inside, by rw [occurs]; exact List.mem_cons_self ..,
    closed.2 (by decide) _ rfl⟩

end ThreeAddress
