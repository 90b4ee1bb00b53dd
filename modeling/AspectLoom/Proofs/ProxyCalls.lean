import AspectLoom.Proofs.ProxyRuns
/-!
Calls of generated functions. A proxy is called as what it stands for, and the generator gives the
function that calls the proxy with the receiver.
-/
namespace AspectLoom

variable {V : Type} {m : Type → Type}

namespace SpelledSignature

variable (signature : SpelledSignature)

theorem headNames_length : signature.headNames.length = signature.inputs.length := by
  rw [headNames, inputs, List.length_append, List.length_append, List.length_map,
    paramNames_length]

variable {signature} {receiver : Option V}

theorem inputs_length (arguments : List V) (given : receiver.isSome = signature.receiver.isSome) :
    signature.inputs.length = (receiver.toList ++ arguments).length ↔
      signature.slotTypes.length = arguments.length := by
  have same : receiver.toList.length = signature.receiver.toList.length := by
    rw [Option.length_toList, Option.length_toList, given]
  rw [inputs, List.length_append, List.length_append, same, Nat.add_left_cancel_iff]

end SpelledSignature

namespace GoScope

variable {signature : SpelledSignature} {receiver : Option V} {arguments : List V}
  {scope : GoScope V m}

theorem enter_names (scope : GoScope V m) (long : signature.inputs.length = arguments.length) :
    (enter signature arguments scope).map Prod.fst = signature.headNames ++ scope.map Prod.fst := by
  rw [enter, List.map_append, named_names]
  rw [SpelledSignature.headNames_length, Typed.each_length long, long]

theorem enter_nil_names (long : signature.inputs.length = arguments.length) :
    (enter signature arguments [] : GoScope V m).map Prod.fst = signature.headNames :=
  (enter_names [] long).trans (List.append_nil _)

/-- The receiver is the first variable, and the parameters follow. -/
theorem enter_head (arguments : List V) (scope : GoScope V m)
    (given : receiver.isSome = signature.receiver.isSome) :
    ∃ head : GoScope V m,
      enter signature (receiver.toList ++ arguments) scope =
        head ++ (named signature.paramNames (Typed.each signature.slotTypes arguments) ++ scope) ∧
      head.map Prod.fst = signature.receiver.toList.map (fun _ => SpelledSignature.receiverName) ∧
      ∀ type value, signature.receiver = some type → receiver = some value →
        head = [(SpelledSignature.receiverName, .value ⟨type, value⟩)] := by
  obtain ⟨type, params, variadic, results⟩ := signature
  cases type with
  | none =>
      cases receiver with
      | none => exact ⟨[], rfl, rfl, fun _ _ none => nomatch none⟩
      | some value => cases given
  | some type =>
      cases receiver with
      | none => cases given
      | some value =>
          refine ⟨[(SpelledSignature.receiverName, .value ⟨type, value⟩)], rfl, rfl, ?_⟩
          rintro _ _ ⟨⟩ ⟨⟩
          rfl

theorem values?_paramNames (scope : GoScope V m)
    (given : receiver.isSome = signature.receiver.isSome)
    (long : signature.slotTypes.length = arguments.length) :
    (enter signature (receiver.toList ++ arguments) scope).values? signature.paramNames =
      some (Typed.each signature.slotTypes arguments) := by
  obtain ⟨head, entered, names, _⟩ := enter_head arguments scope given
  rw [entered, values?_append_of_notMem]
  · refine values?_named scope signature.paramNames_nodup ?_
    rw [SpelledSignature.paramNames_length, Typed.each_length long, long]
  · intro name member hidden
    rw [names] at hidden
    obtain ⟨_, _, rfl⟩ := List.mem_map.mp hidden
    exact signature.receiver_notMem_paramNames member

theorem find?_receiver (arguments : List V) (scope : GoScope V m)
    (given : receiver.isSome = signature.receiver.isSome) {type : String}
    {value : V} (typed : signature.receiver = some type) (valued : receiver = some value) :
    Assoc.find? SpelledSignature.receiverName
      (enter signature (receiver.toList ++ arguments) scope) = some (.value ⟨type, value⟩) := by
  obtain ⟨head, entered, _, first⟩ := enter_head arguments scope given
  rw [entered, first type value typed valued]
  exact if_pos rfl

theorem context?_cons_self (name : String) (held : AdviceContext V m) :
    GoScope.context? ((name, .context held) :: scope) name = some held := by
  rw [context?, Assoc.find?, if_pos rfl]
  rfl

end GoScope

variable [Monad m] [LawfulMonad m]

namespace Callable

theorem call_of_length_ne {callable : Callable V m} {values : List V}
    (different : callable.signature.inputs.length ≠ values.length) :
    callable.call values = failure := by
  rw [call, guard_bind_of_not (Ne.symm different)]

theorem call_eq_body {callable : Callable V m} {values : List V}
    (long : callable.signature.inputs.length = values.length) :
    callable.call values = (do
      let results ← callable.body values
      guard (results.length = callable.signature.results.length)
      pure results) := by
  rw [call, guard_bind long.symm]

/-- A function that does what a call of another does can be called instead of it. -/
theorem call_eq_of_body {left right : Callable V m} {values arguments : List V}
    (results : left.signature.results = right.signature.results)
    (long : left.signature.inputs.length = values.length ↔
      right.signature.inputs.length = arguments.length)
    (same : right.signature.inputs.length = arguments.length →
      left.body values = right.call arguments) :
    left.call values = right.call arguments := by
  by_cases fits : right.signature.inputs.length = arguments.length
  · refine Eq.trans ?_ (bind_pure _)
    rw [call_eq_body (long.mpr fits), same fits, results]
    refine call_bind_congr fun given givenLong => ?_
    rw [guard_bind givenLong]
  · rw [call_of_length_ne fits, call_of_length_ne (mt long.mp fits)]

end Callable

namespace Advised

variable {advised : Advised} {imports : ProxyImports} {world : GoWorld V m}
  {original : Option V → Callable V m} {receiver : Option V} {arguments : List V}

omit [Monad m] [LawfulMonad m] in
theorem Receives.values? {scope : GoScope V m} (receives : advised.Receives receiver scope) :
    scope.values? (advised.signature.receiver.map fun _ =>
      SpelledSignature.receiverName).toList =
        some (Typed.each advised.signature.receiver.toList receiver.toList) := by
  cases typed : advised.signature.receiver with
  | none => rfl
  | some type =>
      have some : receiver.isSome = true := by rw [receives.given, typed, Option.isSome_some]
      obtain ⟨value, valued⟩ := Option.isSome_iff_exists.mp some
      rw [Option.map_some, Option.toList_some, GoScope.values?, List.mapM_cons, GoScope.value?,
        receives.found type value typed valued, valued]
      rfl

omit [Monad m] [LawfulMonad m] in
theorem Receives.behindContext {scope : GoScope V m} (receives : advised.Receives receiver scope)
    (held : Held V m) : advised.Receives receiver (("_ag_ctx", held) :: scope) :=
  receives.behind [("_ag_ctx", held)] (by simp [SpelledSignature.receiverName])

theorem proxy_body (serves : world.Serves advised imports original) (suits : advised.Suits)
    (given : receiver.isSome = advised.signature.receiver.isSome)
    (long : advised.signature.slotTypes.length = arguments.length)
    (clear : (advised.proxyFunction imports).isClear world.mentions = true) :
    ((advised.proxyFunction imports).callable world).body (receiver.toList ++ arguments) =
      (original receiver).call arguments := by
  have inputsLong := (SpelledSignature.inputs_length arguments given).mpr long
  have names := GoScope.enter_nil_names (m := m) inputsLong
  have params := GoScope.values?_paramNames (m := m) [] given long
  have receives : advised.Receives receiver
      (GoScope.enter (m := m) advised.signature (receiver.toList ++ arguments) []) :=
    ⟨given, fun type value typed valued => GoScope.find?_receiver arguments [] given typed valued⟩
  have received := receives.values?
  obtain ⟨runtimeFree, proceedClear, adviceClear⟩ := proxyFunction_isClear_iff.mp clear
  rw [← names] at runtimeFree proceedClear adviceClear
  change (GoWorld.runLines world (advised.adviceCode imports)
    (GoScope.enter advised.signature (receiver.toList ++ arguments) [])
    (advised.proxyFunction imports).lines >>= fun given =>
      (given.values? advised.signature.results).getM) = _
  generalize GoScope.enter (m := m) advised.signature (receiver.toList ++ arguments) [] = scope at *
  rw [proxyFunction]
  -- the context is made, then it is given the closure, and then it is handed to the advice
  rw [GoWorld.runLines, guard_bind (GoScope.leaves_iff.mpr runtimeFree), getM_bind params,
    getM_bind received]
  rw [GoWorld.runLines, getM_bind (GoScope.context?_cons_self _ _), GoWorld.runLines]
  refine run_adviceCode serves (GoScope.context?_cons_self _ _) ?_ adviceClear
  exact run_proceedCode serves suits ((receives.behindContext _).behindContext _) long rfl
    (GoScope.context?_cons_self _ _) proceedClear

/-- A proxy is called as what it stands for. -/
theorem proxy_call (serves : world.Serves advised imports original) (suits : advised.Suits)
    (given : receiver.isSome = advised.signature.receiver.isSome)
    (clear : (advised.proxyFunction imports).isClear world.mentions = true)
    (arguments : List V) :
    ((advised.proxyFunction imports).callable world).call (receiver.toList ++ arguments) =
      (original receiver).call arguments := by
  refine Callable.call_eq_of_body (serves.results_eq receiver).symm ?_ ?_
  · rw [serves.inputs_eq]
    exact SpelledSignature.inputs_length arguments given
  · intro long
    rw [serves.inputs_eq] at long
    exact proxy_body serves suits given long clear

/-! The function that a generator gives -/

omit [Monad m] [LawfulMonad m] in
theorem generatorSignature_inputs {signature : SpelledSignature}
    (given : receiver.isSome = signature.receiver.isSome) :
    (generatorSignature signature).inputs.length = receiver.toList.length := by
  have same : receiver.isSome = (generatorSignature signature).receiver.isSome := given
  rw [← List.append_nil receiver.toList]
  exact (SpelledSignature.inputs_length [] same).mpr rfl

omit [Monad m] [LawfulMonad m] in
/-- The function that a generator gives sees the receiver behind its own parameters. -/
theorem values?_headNames (given : receiver.isSome = advised.signature.receiver.isSome)
    (long : advised.signature.slotTypes.length = arguments.length) :
    (GoScope.enter advised.signature.bound arguments
      (GoScope.enter (generatorSignature advised.signature) receiver.toList [] : GoScope V m)).values?
        advised.signature.headNames =
      some (Typed.each advised.signature.inputs (receiver.toList ++ arguments)) := by
  have outerGiven : receiver.isSome = (generatorSignature advised.signature).receiver.isSome := given
  have outer : advised.Receives receiver
      (GoScope.enter (m := m) (generatorSignature advised.signature) (receiver.toList ++ []) []) :=
    ⟨given, fun type value typed valued => GoScope.find?_receiver [] [] outerGiven typed valued⟩
  rw [List.append_nil] at outer
  generalize GoScope.enter (m := m) (generatorSignature advised.signature) receiver.toList [] = scope
    at outer ⊢
  have entered : GoScope.enter advised.signature.bound arguments scope =
      GoScope.named advised.signature.paramNames
        (Typed.each advised.signature.slotTypes arguments) ++ scope := rfl
  have namesLong : advised.signature.paramNames.length =
      (Typed.each advised.signature.slotTypes arguments).length := by
    rw [SpelledSignature.paramNames_length, Typed.each_length long, long]
  have receives := outer.behind (GoScope.named advised.signature.paramNames
    (Typed.each advised.signature.slotTypes arguments)) (by
    rw [GoScope.named_names namesLong]
    exact advised.signature.receiver_notMem_paramNames)
  have params := GoScope.values?_named scope advised.signature.paramNames_nodup namesLong
  have both := GoScope.values?_append receives.values? params
  have same : receiver.toList.length = advised.signature.receiver.toList.length := by
    rw [Option.length_toList, Option.length_toList, given]
  rw [entered, SpelledSignature.headNames, ← Option.toList_map, both, SpelledSignature.inputs,
    Typed.each, Typed.each, Typed.each, List.zipWith_append same.symm]

theorem call_forward {proxy : Callable V m} {scope : GoScope V m} (suits : advised.Suits)
    (known : world.global advised.names.proxy = some proxy)
    (signature : proxy.signature = advised.signature)
    (free : scope.leaves advised.names.proxy = true)
    (inputsLong : advised.signature.inputs.length = (receiver.toList ++ arguments).length)
    (named : scope.values? advised.signature.headNames =
      some (Typed.each advised.signature.inputs (receiver.toList ++ arguments))) :
    world.call scope advised.forwardCall =
      proxy.call (receiver.toList ++ arguments) >>= fun results =>
        pure ((Typed.each advised.signature.results results).map Held.value) := by
  have reached : world.callable? scope (.function none advised.names.proxy) = some proxy := by
    rw [GoWorld.callable?, Assoc.find?_eq_none.mpr (GoScope.leaves_iff.mp free)]
    exact known
  have variadic : advised.signature.variadic = proxy.signature.variadic := by rw [signature]
  have invoked := Callable.invoke_each proxy (receiver.toList ++ arguments)
    (by rw [signature, inputsLong]) variadic fun spread => by
      rw [signature]
      exact List.append_ne_nil_of_right_ne_nil _
        (advised.signature.slotTypes_ne_nil (suits.variadic spread))
  rw [signature] at invoked
  rw [GoWorld.call]
  dsimp only [forwardCall]
  rw [getM_bind reached, getM_bind named, invoked, bind_assoc]
  simp only [pure_bind]

omit [Monad m] [LawfulMonad m] in
theorem mapM_value? (values : List (Typed V)) :
    (values.map Held.value : List (Held V m)).mapM Held.value? = some values := by
  induction values with
  | nil => rfl
  | cons value rest ih =>
      rw [List.map_cons, List.mapM_cons, ih]
      rfl

theorem closure_body {proxy : Callable V m} (suits : advised.Suits)
    (known : world.global advised.names.proxy = some proxy)
    (signature : proxy.signature = advised.signature)
    (given : receiver.isSome = advised.signature.receiver.isSome)
    (long : advised.signature.slotTypes.length = arguments.length)
    (visible : areVisible (advised.signature.bound.headNames ++
      (generatorSignature advised.signature).headNames) [advised.names.proxy] = true) :
    (world.closure (GoScope.enter (generatorSignature advised.signature) receiver.toList [])
      advised.signature.bound advised.forwardCode).body arguments =
        proxy.call (receiver.toList ++ arguments) := by
  have named := values?_headNames (m := m) given long
  have inputsLong := (SpelledSignature.inputs_length arguments given).mpr long
  have free : (GoScope.enter advised.signature.bound arguments
      (GoScope.enter (generatorSignature advised.signature) receiver.toList [] :
        GoScope V m)).leaves advised.names.proxy = true := by
    have boundLong : advised.signature.bound.inputs.length = arguments.length := long
    rw [GoScope.leaves_iff, GoScope.enter_names _ boundLong,
      GoScope.enter_nil_names (generatorSignature_inputs given)]
    exact areVisible_iff.mp visible _ List.mem_cons_self
  have called := call_forward suits known signature free inputsLong named
  rw [GoWorld.closure]
  dsimp only
  generalize GoScope.enter (m := m) advised.signature.bound arguments
    (GoScope.enter (generatorSignature advised.signature) receiver.toList []) = scope at *
  refine Eq.trans ?_ (bind_pure _)
  rw [forwardCode]
  split
  · rename_i noResults
    have none : advised.signature.results = [] := List.isEmpty_iff.mp noResults
    rw [GoWorld.run, called, bind_assoc, bind_assoc]
    refine Callable.call_bind_congr fun results resultsLong => ?_
    rw [signature, none] at resultsLong
    have given : Given.values? advised.signature.bound.results (.values [] : Given V m) =
        some results := by
      rw [List.length_eq_zero_iff.mp resultsLong]
      exact if_pos none.symm
    rw [pure_bind, GoWorld.run, pure_bind, given, Option.getM_some]
  · rename_i someResults
    rw [GoWorld.run, called, bind_assoc, bind_assoc]
    refine Callable.call_bind_congr fun results resultsLong => ?_
    rw [signature] at resultsLong
    have given : Given.values? advised.signature.bound.results
        (.values (Typed.each advised.signature.results results) : Given V m) = some results :=
      Given.values?_each resultsLong.symm
    have held := mapM_value? (m := m) (Typed.each advised.signature.results results)
    rw [pure_bind, getM_bind held, pure_bind, given, Option.getM_some]

/-- A generator gives a function that calls the proxy. -/
theorem makeFunction_generator {proxy : Callable V m} (suits : advised.Suits)
    (known : world.global advised.names.proxy = some proxy)
    (signature : proxy.signature = advised.signature)
    (given : receiver.isSome = advised.signature.receiver.isSome)
    (clear : advised.generatorFunction.isClear world.mentions = true) :
    ∃ closure : Callable V m,
      advised.generatorFunction.makeFunction world receiver.toList = pure closure ∧
      closure.signature = advised.signature.bound ∧
      ∀ arguments, closure.call arguments = proxy.call (receiver.toList ++ arguments) := by
  have outerLong := generatorSignature_inputs given
  have names := GoScope.enter_nil_names (m := m) outerLong
  obtain ⟨typesClear, bodyClear⟩ := generatorFunction_isClear_iff.mp clear
  have typesFree : ((advised.signature.bound.params ++ advised.signature.bound.results).all
      fun type => (world.mentions type).all (GoScope.leaves
        (GoScope.enter (m := m) (generatorSignature advised.signature) receiver.toList []))) =
          true := by
    simp only [GoScope.all_leaves, names]
    exact typesClear
  have visible : areVisible (advised.signature.bound.headNames ++
      (generatorSignature advised.signature).headNames) [advised.names.proxy] = true := by
    rw [forwardCode] at bodyClear
    split at bodyClear
    · rw [Code.isClear, Bool.and_eq_true] at bodyClear
      exact bodyClear.1
    · rw [Code.isClear] at bodyClear
      exact bodyClear
  refine ⟨world.closure (GoScope.enter (generatorSignature advised.signature) receiver.toList [])
    advised.signature.bound advised.forwardCode, ?_, rfl, ?_⟩
  · have long : receiver.toList.length = advised.generatorFunction.signature.inputs.length :=
      outerLong.symm
    have made : advised.generatorFunction.given world receiver.toList = pure (.function
        (world.closure (GoScope.enter (generatorSignature advised.signature) receiver.toList [])
          advised.signature.bound advised.forwardCode)) := by
      change world.runLines [] (GoScope.enter (generatorSignature advised.signature)
        receiver.toList []) [.giveFunction advised.signature.bound advised.forwardCode] = _
      rw [GoWorld.runLines, guard_bind typesFree]
    rw [GoFunction.makeFunction, guard_bind long, made, pure_bind, Given.function?,
      Option.getM_some, pure_bind]
    exact guard_bind rfl _
  · intro arguments
    refine Callable.call_eq_of_body (by rw [signature]; rfl) ?_ ?_
    · rw [signature]
      exact (SpelledSignature.inputs_length arguments given).symm
    · intro long
      rw [signature] at long
      exact closure_body suits known signature given
        ((SpelledSignature.inputs_length arguments given).mp long) visible

end Advised

end AspectLoom
