import ThreeAddress.Proofs.Preservation

set_option autoImplicit false

/- When lowered code reads its operands. Intermediate values stand in temporaries, which no
   call can reach, but the operand of a name is its storage itself. So storage is read by the
   quad that consumes it, after all operands of that quad have been evaluated. -/
namespace ThreeAddress

open Lower

/- Every builder that lowering passes through finds storage under its own symbol and has pooled
   the texts met so far. Temporaries and strings must not outnumber their handles. Names are read
   at use; where no call can come between that makes no difference. -/
theorem lowered_reads_at_use (meaning : Meaning) (callees : Callees) (expr : Expr) (before after : Builder)
    (operand : Operand) (seen : List String) (lowered : expr.lower before = .ok operand after)
    (keyed : before.Keyed) (pooled : Pooled before.program seen) (strings : (seen ++ expr.texts).length ≤ 2 ^ 32)
    (temps : after.temps.length ≤ 2 ^ 32) (incoming : Nat → Word) (machine : Machine) (idle : machine.args = []) :
    ∃ code finish, after.quads = before.quads ++ code ∧
      machine.follow callees (after.setting meaning incoming) code = .next finish ∧
      (finish.value (after.setting meaning incoming) operand, finish.moment) =
        expr.evaluate meaning callees .atUse machine.moment ∧
      ∀ shared, callees.Confined shared → expr.Steady shared →
        (finish.value (after.setting meaning incoming) operand, finish.moment) =
          expr.evaluate meaning callees .inTurn machine.moment := by
  have resolves : Resolves after.program seen.length expr.texts := by
    intro i text at_
    apply (expr.lower_pools before after operand lowered seen pooled).kept strings
    rw [List.getElem?_append_right (by omega), Nat.add_sub_cancel_left]
    exact at_
  have installed : Installed (after.setting meaning incoming) seen expr.texts before after :=
    ⟨List.prefix_refl _, temps, keyed, pooled, resolves⟩
  obtain ⟨finish, executed, moment, gives⟩ :=
    expr.lower_executed before after operand seen lowered installed machine idle
  obtain ⟨code, emitted, ran⟩ := executed.code
  have late : (finish.value (after.setting meaning incoming) operand, finish.moment) =
      expr.evaluate meaning callees .atUse machine.moment := Prod.ext (gives.now moment) moment
  refine ⟨code, finish, emitted, ran, late, ?_⟩
  intro shared confined steady
  exact late.trans (expr.evaluate_steady confined machine.moment steady)

namespace Sample

def bump : Symbol := ⟨.ofNat 6, "bump", .function [] .int⟩

def scope : Builder := (Session.initial.bindGlobal total).openProcedure "main"

def bumping : Callees := ⟨fun _ _ _ moment => (2, moment.store.set total.id 1)⟩

def waiting : Expr := .applyBinary .sub (.ofSymbol total) (.apply bump [])

def prompt : Expr := .applyBinary .sub (.apply bump []) (.ofSymbol total)

def tens : Machine := ⟨0, fun _ => 10, fun _ => 0, [], 0, none, ⟨[], 0, 0⟩⟩

theorem bumping_confined : bumping.Confined {total.id} := by
  intro callee name args moment id outside
  exact if_neg outside

theorem scope_keyed : scope.Keyed :=
  Session.Runs.keyed (.global _ _ total [] (.nil _)) initial_keyed

theorem scope_pooled : Pooled scope.program [] := ⟨initial_pooled.counter, initial_pooled.kept⟩

theorem prompt_lowered : ∃ operand after, prompt.lower scope = .ok operand after ∧ after.temps.length = 2 :=
  ⟨_, _, rfl, rfl⟩

theorem prompt_steady : prompt.Steady {total.id} := by
  refine ⟨trivial, trivial, ?_⟩
  rintro ⟨type, symbol, same, _⟩
  cases same

end Sample

-- The left operand comes first, yet the call beside it changes what it is read as.
theorem waiting_global_read_late :
    Sample.scope.program.global? Sample.total.id = some (.ofSymbol Sample.total) ∧
      Sample.bumping.Confined {Sample.total.id} ∧
      ∃ operand after code finish, Sample.waiting.lower Sample.scope = .ok operand after ∧
        after.quads = Sample.scope.quads ++ code ∧
        Sample.tens.follow Sample.bumping (after.setting Sample.meaning fun _ => 0) code = .next finish ∧
        finish.value (after.setting Sample.meaning fun _ => 0) operand = -1 ∧
        (Sample.waiting.evaluate Sample.meaning Sample.bumping .inTurn Sample.tens.moment).1 = 8 := by
  refine ⟨by decide, Sample.bumping_confined, _, _, _, _, rfl, rfl, rfl, ?_, ?_⟩
  · decide +kernel
  · decide +kernel

theorem prompt_reads_at_use :
    Sample.prompt.Steady {Sample.total.id} ∧
      ∃ operand after code finish, Sample.prompt.lower Sample.scope = .ok operand after ∧
        after.quads = Sample.scope.quads ++ code ∧
        Sample.tens.follow Sample.bumping (after.setting Sample.meaning fun _ => 0) code = .next finish ∧
        finish.value (after.setting Sample.meaning fun _ => 0) operand = 1 ∧
        finish.world.history = [.called Sample.bump.id "bump" [] 2] := by
  obtain ⟨operand, after, lowered, count⟩ := Sample.prompt_lowered
  obtain ⟨code, finish, emitted, ran, _, inTurn⟩ := lowered_reads_at_use Sample.meaning Sample.bumping Sample.prompt
    Sample.scope after operand [] lowered Sample.scope_keyed Sample.scope_pooled (by decide) (by rw [count]; decide)
    (fun _ => 0) Sample.tens rfl
  have evaluated := inTurn {Sample.total.id} Sample.bumping_confined Sample.prompt_steady
  have value := congrArg Prod.fst evaluated
  have history := congrArg (fun result => result.2.world.history) evaluated
  have difference : (Sample.prompt.evaluate Sample.meaning Sample.bumping .inTurn Sample.tens.moment).1 = 1 := by
    decide +kernel
  exact ⟨Sample.prompt_steady, operand, after, code, finish, lowered, emitted, ran, value.trans difference, history⟩

end ThreeAddress
