import AspectLoom.Proofs.ClearPairs
import AspectLoom.Proofs.ProxyCalls
/-!
Generated functions that give something. Where advice forwards, a call of a proxy runs all of its
code, and so does a call of the function that a generator gives; the names in it must be clear.
-/
namespace AspectLoom.Advised

variable {V : Type} {advised : Advised} {imports : ProxyImports} {world : GoWorld V Id}

theorem call?_of_mem_unboxFrom {list : BoxedList} {names types : List String} {first : Nat}
    {step : Code} (member : step ∈ unboxFrom list names types first) : step.call? = none := by
  obtain ⟨_, _, rfl⟩ := List.mem_map.mp member
  rfl

theorem call_of_mem_proceedCode {step : Code} {call : CodeCall}
    (member : step ∈ advised.proceedCode) (calls : step.call? = some call) :
    call = advised.callCode := by
  rcases List.mem_append.mp member with unboxes | answers
  · rw [call?_of_mem_unboxFrom unboxes] at calls
    cases calls
  · rw [answerCode] at answers
    split at answers
    · rcases List.mem_pair.mp answers with rfl | rfl
      · exact (Option.some.inj calls).symm
      · cases calls
    · rcases List.mem_pair.mp answers with rfl | rfl
      · exact (Option.some.inj calls).symm
      · cases calls

theorem call_of_mem_adviceCode {step : Code} {call : CodeCall}
    (member : step ∈ advised.adviceCode imports) (calls : step.call? = some call) :
    call = advised.adviceCall imports := by
  rw [adviceCode] at member
  split at member
  · obtain rfl := List.mem_singleton.mp member
    exact (Option.some.inj calls).symm
  · rcases List.mem_cons.mp member with rfl | later
    · exact (Option.some.inj calls).symm
    · rcases List.mem_append.mp later with unboxes | gives
      · rw [call?_of_mem_unboxFrom unboxes] at calls
        cases calls
      · obtain rfl := List.mem_singleton.mp gives
        cases calls

theorem call_of_mem_forwardCode {step : Code} {call : CodeCall}
    (member : step ∈ advised.forwardCode) (calls : step.call? = some call) :
    call = advised.forwardCall := by
  rw [forwardCode] at member
  split at member
  · obtain rfl := List.mem_singleton.mp member
    exact (Option.some.inj calls).symm
  · obtain rfl := List.mem_singleton.mp member
    exact (Option.some.inj calls).symm

/-- A run of the code with the advice has called the advice. -/
theorem advice_called {scope : GoScope V Id} {given : Given V Id}
    (ran : (world.run scope (advised.adviceCode imports)).run = some given) :
    ∃ results, (world.call scope (advised.adviceCall imports)).run = some results := by
  rw [adviceCode] at ran
  split at ran
  · obtain ⟨results, called, _⟩ := bind_gives ran
    exact ⟨results, called⟩
  · obtain ⟨results, called, _⟩ := bind_gives ran
    exact ⟨results, called⟩

/-- Advice that forwards has run the closure in its context. -/
theorem proceed_gave (forwards : ∀ context,
      world.advise imports.advice.alias advised.advice context =
        context.proceed context.arguments)
    {scope : GoScope V Id} {context : AdviceContext V Id} {results : List (Held V Id)}
    (found : scope.context? "_ag_ctx" = some context)
    (called : (world.call scope (advised.adviceCall imports)).run = some results) :
    ∃ boxes, (context.proceed context.arguments).run = some boxes := by
  have target : (advised.adviceCall imports).target =
      .advice imports.advice.alias advised.advice := rfl
  rw [GoWorld.call, target] at called
  obtain ⟨_, _, answered⟩ := bind_gives called
  rw [getM_bind (adviceCall_context found), getM_bind List.head?_cons, forwards] at answered
  obtain ⟨boxes, gave, _⟩ := bind_gives answered
  exact ⟨boxes, gave⟩

theorem proxyFunction_isClear (reveals : world.Reveals advised.callCode.target)
    (forwards : ∀ context, world.advise imports.advice.alias advised.advice context =
      context.proceed context.arguments)
    {values : List V} {given : Given V Id}
    (long : advised.signature.inputs.length = values.length)
    (ran : ((advised.proxyFunction imports).given world values).run = some given) :
    (advised.proxyFunction imports).isClear world.mentions = true := by
  change (world.runLines (advised.adviceCode imports) (GoScope.enter advised.signature values [])
    (advised.proxyFunction imports).lines).run = some given at ran
  rw [proxyFunction_isClear_iff, ← GoScope.enter_nil_names (m := Id) long]
  generalize GoScope.enter (m := Id) advised.signature values [] = scope at *
  rw [proxyFunction] at ran
  obtain ⟨_, free, ran⟩ := bind_gives ran
  obtain ⟨params, _, ran⟩ := bind_gives ran
  obtain ⟨receivers, _, ran⟩ := bind_gives ran
  obtain ⟨context, _, ran⟩ := bind_gives ran
  rw [GoWorld.runLines] at ran
  obtain ⟨results, called⟩ := advice_called ran
  obtain ⟨boxes, gave⟩ := proceed_gave forwards (GoScope.context?_cons_self _ _) called
  obtain ⟨answer, proceeded, _⟩ := bind_gives gave
  refine ⟨?_, ?_, ?_⟩
  · exact GoScope.leaves_iff.mp (guard_gives free)
  · refine GoWorld.isClear_of_run (fun step member call calls => ?_) proceeded
    rw [call_of_mem_proceedCode member calls]
    exact reveals
  · refine GoWorld.isClear_of_run (fun step member call calls => ?_) ran
    rw [call_of_mem_adviceCode member calls]
    exact GoWorld.reveals_advice _ _

theorem generatorFunction_isClear (functions : ∀ held, world.function held = none)
    {receivers arguments : List V} {closure : Callable V Id}
    (outerLong : (generatorSignature advised.signature).inputs.length = receivers.length)
    (made : (advised.generatorFunction.makeFunction world receivers).run = some closure)
    (long : advised.signature.slotTypes.length = arguments.length) {results : List V}
    (called : (closure.call arguments).run = some results) :
    advised.generatorFunction.isClear world.mentions = true := by
  have boundLong : advised.signature.bound.inputs.length = arguments.length := long
  have names : (GoScope.enter (m := Id) advised.generatorFunction.signature receivers []).map
      Prod.fst = (generatorSignature advised.signature).headNames :=
    GoScope.enter_nil_names outerLong
  obtain ⟨_, _, made⟩ := bind_gives made
  obtain ⟨given, ran, made⟩ := bind_gives made
  obtain ⟨function, isFunction, made⟩ := bind_gives made
  obtain ⟨_, _, same⟩ := bind_gives made
  obtain rfl : function = closure := Option.some.inj same
  obtain ⟨_, visible, isClosure⟩ := bind_gives ran
  obtain rfl := Option.some.inj isClosure
  obtain rfl := Option.some.inj (getM_gives isFunction)
  obtain ⟨_, _, called⟩ := bind_gives called
  obtain ⟨_, answered, _⟩ := bind_gives called
  obtain ⟨_, forwarded, _⟩ := bind_gives answered
  have clear := GoWorld.isClear_of_run (fun step member call calls => by
    rw [call_of_mem_forwardCode member calls]
    exact GoWorld.reveals_name functions _) forwarded
  rw [GoScope.enter_names _ boundLong, names] at clear
  have typesClear := guard_gives visible
  simp only [GoScope.all_leaves, names] at typesClear
  exact generatorFunction_isClear_iff.mpr ⟨typesClear, clear⟩

end AspectLoom.Advised
