import AspectLoom.Proofs.HiddenNames
/-!
Runs of generated functions whose names are clear. What is boxed is unboxed to the same values in
the same places, so that the proxy is the call that it stands for.
-/
namespace AspectLoom

variable {V : Type} {m : Type → Type}

namespace Typed

variable {types : List String} {values : List V}

theorem each_length (long : types.length = values.length) :
    (each types values).length = values.length := by
  rw [each, List.length_zipWith, long, Nat.min_self]

theorem each_types (long : types.length = values.length) :
    (each types values).map Typed.type = types := by
  induction types generalizing values with
  | nil => rfl
  | cons type rest ih =>
      cases values with
      | nil => cases long
      | cons value others =>
          rw [each, List.zipWith_cons_cons, List.map_cons]
          exact congrArg (type :: ·) (ih (Nat.succ.inj long))

theorem each_values (long : types.length = values.length) :
    (each types values).map Typed.value = values := by
  induction types generalizing values with
  | nil =>
      cases values with
      | nil => rfl
      | cons value others => cases long
  | cons type rest ih =>
      cases values with
      | nil => cases long
      | cons value others =>
          rw [each, List.zipWith_cons_cons, List.map_cons]
          exact congrArg (value :: ·) (ih (Nat.succ.inj long))

end Typed

theorem Given.values?_each {types : List String} {results : List V}
    (long : types.length = results.length) :
    Given.values? types (.values (Typed.each types results) : Given V m) = some results := by
  rw [Given.values?, if_pos (Typed.each_types long), Typed.each_values long]

namespace BoxedList

/-- The variable that a list is kept in. -/
def variableName : BoxedList → String
  | named name => name
  | argumentsOf context => context

end BoxedList

theorem GoScope.boxes?_cons {scope : GoScope V m} {list : BoxedList} {name : String}
    {held : Held V m} (other : name ≠ list.variableName) :
    GoScope.boxes? ((name, held) :: scope) list = scope.boxes? list := by
  cases list with
  | named kept =>
      have different : name ≠ kept := other
      rw [boxes?, Assoc.find?, if_neg different, boxes?]
  | argumentsOf context =>
      have different : name ≠ context := other
      rw [boxes?, context?, Assoc.find?, if_neg different, boxes?, context?]

/-- The name under which the package knows what a callee is. -/
def Callee.global? : Callee → Option String
  | method _ => none
  | function qualifier name => some (function qualifier name).text

/-- What generated functions stand on. The original is a function or, for every receiver, a bound
method, and the advice gives what the closure in its context gives. -/
structure GoWorld.Serves (world : GoWorld V m) (advised : Advised) (imports : ProxyImports)
    (original : Option V → Callable V m) : Prop where
  unboxes : ∀ type value, world.unboxed type ⟨type, value⟩ = value
  forwards : ∀ context, world.advise imports.advice.alias advised.advice context =
    context.proceed context.arguments
  signature : ∀ receiver, (original receiver).signature = advised.signature.bound
  function : ∀ text, advised.callee.global? = some text → world.global text = some (original none)
  method : ∀ name type value, advised.callee = .method name →
    advised.signature.receiver = some type →
      world.method (.value ⟨type, value⟩) name = some (original (some value))
  fresh : ∀ name ∈ [advised.names.proxy, advised.names.generator],
    advised.callee.global? ≠ some name → world.global name = none

namespace GoWorld.Serves

variable {world : GoWorld V m} {advised : Advised} {imports : ProxyImports}
  {original : Option V → Callable V m} (serves : world.Serves advised imports original)
  (receiver : Option V)
include serves

theorem inputs_eq : (original receiver).signature.inputs = advised.signature.slotTypes := by
  rw [serves.signature]
  rfl

theorem variadic_eq : (original receiver).signature.variadic = advised.signature.variadic := by
  rw [serves.signature]
  rfl

theorem results_eq : (original receiver).signature.results = advised.signature.results := by
  rw [serves.signature]
  rfl

end GoWorld.Serves

namespace Advised

variable {advised : Advised} {imports : ProxyImports} {world : GoWorld V m}
  {original : Option V → Callable V m} {scope : GoScope V m} {receiver : Option V}

/-- Methods have receivers and functions have none, and a variadic parameter is there. -/
structure Suits (advised : Advised) : Prop where
  callee : advised.callee.global? = none ↔ advised.signature.receiver.isSome = true
  variadic : advised.signature.variadic = true → advised.signature.params ≠ []

/-- A receiver is there if the signature has one, and stands under its name. -/
structure Receives (advised : Advised) (receiver : Option V) (scope : GoScope V m) : Prop where
  given : receiver.isSome = advised.signature.receiver.isSome
  found : ∀ type value, advised.signature.receiver = some type → receiver = some value →
    Assoc.find? SpelledSignature.receiverName scope = some (.value ⟨type, value⟩)

theorem Receives.behind (entries : GoScope V m) (receives : advised.Receives receiver scope)
    (apart : SpelledSignature.receiverName ∉ entries.map Prod.fst) :
    advised.Receives receiver (entries ++ scope) where
  given := receives.given
  found type value typed valued := by
    rw [Assoc.find?_append_of_notMem apart]
    exact receives.found type value typed valued

theorem callable?_callee (serves : world.Serves advised imports original)
    (suits : advised.Suits) (receives : advised.Receives receiver scope)
    (visible : areVisible (scope.map Prod.fst) advised.callCode.target.outerNames = true) :
    world.callable? scope advised.callee = some (original receiver) := by
  rw [areVisible_iff] at visible
  cases reached : advised.callee with
  | function qualifier name =>
      have noReceiver : receiver = none := by
        have without : advised.signature.receiver.isSome = false := by
          rw [← Bool.not_eq_true]
          intro some
          have unknown := suits.callee.mpr some
          rw [reached] at unknown
          cases unknown
        rw [← Option.isNone_iff_eq_none, ← Option.not_isSome, receives.given, without]
        rfl
      have known := serves.function _ (congrArg Callee.global? reached)
      rw [noReceiver]
      cases qualifier with
      | none =>
          have free : Assoc.find? name scope = none :=
            Assoc.find?_eq_none.mpr (visible name (by simp [callCode, reached, CallTarget.outerNames]))
          rw [GoWorld.callable?, free]
          exact known
      | some qualifier =>
          have free : Assoc.find? qualifier scope = none :=
            Assoc.find?_eq_none.mpr
              (visible qualifier (by simp [callCode, reached, CallTarget.outerNames]))
          rw [GoWorld.callable?, GoWorld.selected, free]
          exact known
  | method name =>
      have some : advised.signature.receiver.isSome = true :=
        suits.callee.mp (congrArg Callee.global? reached)
      obtain ⟨type, typed⟩ := Option.isSome_iff_exists.mp some
      obtain ⟨value, valued⟩ := Option.isSome_iff_exists.mp (receives.given.trans some)
      rw [GoWorld.callable?, GoWorld.selected, receives.found type value typed valued, valued]
      exact serves.method name type value reached typed

end Advised

section

variable [Monad m] [LawfulMonad m] {α β : Type}

theorem guard_bind {condition : Prop} [Decidable condition] (holds : condition)
    (next : Unit → OptionT m α) : (guard condition >>= next) = next () := by
  rw [guard, if_pos holds, pure_bind]

theorem failure_bind (next : β → OptionT m α) : (failure >>= next) = failure := by
  apply OptionT.ext
  rw [OptionT.run_bind, OptionT.run_failure, Option.elimM, pure_bind]
  rfl

theorem guard_bind_of_not {condition : Prop} [Decidable condition] (fails : ¬condition)
    (next : Unit → OptionT m α) : (guard condition >>= next) = failure := by
  rw [guard, if_neg fails, failure_bind]

theorem getM_bind {option : Option β} {value : β} (known : option = some value)
    (next : β → OptionT m α) : (option.getM >>= next) = next value := by
  rw [known, Option.getM_some, pure_bind]

namespace Callable

theorem call_bind {callable : Callable V m} {values : List V} (next : List V → OptionT m α) :
    (callable.call values >>= next) =
      guard (values.length = callable.signature.inputs.length) >>= fun _ =>
        callable.body values >>= fun results =>
          guard (results.length = callable.signature.results.length) >>= fun _ => next results := by
  rw [call, bind_assoc]
  refine bind_congr (m := OptionT m) fun _ => ?_
  rw [bind_assoc]
  refine bind_congr (m := OptionT m) fun results => ?_
  rw [bind_assoc]
  refine bind_congr (m := OptionT m) fun _ => ?_
  rw [pure_bind]

/-- What follows a call matters for as many results as the signature has. -/
theorem call_bind_congr {callable : Callable V m} {values : List V}
    {left right : List V → OptionT m α}
    (same : ∀ results, results.length = callable.signature.results.length →
      left results = right results) :
    (callable.call values >>= left) = (callable.call values >>= right) := by
  rw [call_bind, call_bind]
  refine bind_congr (m := OptionT m) fun _ => bind_congr (m := OptionT m) fun results => ?_
  by_cases long : results.length = callable.signature.results.length
  · rw [guard_bind long, guard_bind long, same results long]
  · rw [guard_bind_of_not long, guard_bind_of_not long]

theorem invoke_each (callable : Callable V m) (values : List V) {isSpread : Bool}
    (long : callable.signature.inputs.length = values.length)
    (spread : isSpread = callable.signature.variadic)
    (some : isSpread = true → callable.signature.inputs ≠ []) :
    callable.invoke (Typed.each callable.signature.inputs values) isSpread =
      callable.call values >>= fun results =>
        pure (Typed.each callable.signature.results results) := by
  have spreads : (isSpread && (Typed.each callable.signature.inputs values).isEmpty) = false := by
    rw [Bool.and_eq_false_imp]
    intro spreading
    rw [List.isEmpty_eq_false_iff, ← List.length_pos_iff, Typed.each_length long, ← long,
      List.length_pos_iff]
    exact some spreading
  rw [invoke, guard_bind (Typed.each_types long), guard_bind spread, guard_bind spreads,
    Typed.each_values long]

end Callable

namespace GoWorld

variable {world : GoWorld V m} {scope : GoScope V m}

/-- Values come out of their boxes under the names for their places. -/
theorem run_unboxFrom (first : Nat) (unboxes : ∀ type value, world.unboxed type ⟨type, value⟩ = value)
    {list : BoxedList} {boxes : List (Typed V)} {names types : List String}
    {rest : List Code} (kept : scope.boxes? list = some boxes)
    (typed : (boxes.drop first).map Typed.type = types) (long : names.length = types.length)
    (apart : list.variableName ∉ names)
    (clear : Code.isClear world.mentions (scope.map Prod.fst)
      (Advised.unboxFrom list names types first ++ rest) = true) :
    let inner := (GoScope.named names (boxes.drop first)).reverse ++ scope
    world.run scope (Advised.unboxFrom list names types first ++ rest) = world.run inner rest ∧
      Code.isClear world.mentions (inner.map Prod.fst) rest = true := by
  induction names generalizing scope first types with
  | nil => exact ⟨rfl, clear⟩
  | cons name others ih =>
      cases types with
      | nil => cases long
      | cons type later =>
          rw [List.mem_cons, not_or] at apart
          cases found : boxes.drop first with
          | nil => rw [found] at typed; cases typed
          | cons box behind =>
              have place : boxes[first]? = some box := by
                rw [← List.head?_drop, found, List.head?_cons]
              have next : boxes.drop (first + 1) = behind := by
                rw [← List.drop_drop, found, List.drop_succ_cons, List.drop_zero]
              rw [found, List.map_cons, List.cons.injEq] at typed
              -- the box holds the static type that is asked for
              have same : (⟨type, world.unboxed type box⟩ : Typed V) = box := by
                obtain ⟨boxType, boxValue⟩ := box
                obtain rfl : boxType = type := typed.1
                rw [unboxes]
              have step : Advised.unboxFrom list (name :: others) (type :: later) first ++ rest =
                  .unbox name list first type ::
                    (Advised.unboxFrom list others later (first + 1) ++ rest) := rfl
              rw [step, Code.isClear, Bool.and_eq_true] at clear
              have innerKept : GoScope.boxes? ((name, .value box) :: scope) list = some boxes := by
                rw [GoScope.boxes?_cons (Ne.symm apart.1), kept]
              obtain ⟨ran, innerClear⟩ := ih (first + 1) innerKept
                (next ▸ typed.2) (Nat.succ.inj long) apart.2 clear.2
              rw [next] at ran innerClear
              rw [step, run, guard_bind (GoScope.all_leaves _ ▸ clear.1), getM_bind kept,
                getM_bind place, same, GoScope.named, List.map_cons, List.zip_cons_cons,
                List.reverse_cons, List.append_assoc]
              exact ⟨ran, innerClear⟩

theorem run_give {names : List String} {values : List (Typed V)} {rest : List Code}
    (found : scope.values? names = some values) :
    world.run scope (.give names :: rest) = pure (.values values) := by
  rw [run, getM_bind found]

theorem run_giveBoxed {names : List String} {values : List (Typed V)} {rest : List Code}
    (found : scope.values? names = some values) :
    world.run scope (.giveBoxed names :: rest) = pure (.boxes values) := by
  rw [run, getM_bind found]

end GoWorld

namespace Advised

variable {advised : Advised} {imports : ProxyImports} {world : GoWorld V m}
  {original : Option V → Callable V m} {scope : GoScope V m} {receiver : Option V}

/-- The call that a proxy stands for, where the arguments are out of their boxes. -/
theorem call_callee (serves : world.Serves advised imports original)
    (suits : advised.Suits) (receives : advised.Receives receiver scope)
    (visible : areVisible (scope.map Prod.fst) advised.callCode.target.outerNames = true)
    {arguments : List V} (long : advised.signature.slotTypes.length = arguments.length)
    (bound : scope.values? advised.signature.argumentNames =
      some (Typed.each advised.signature.slotTypes arguments)) :
    world.call scope advised.callCode =
      (original receiver).call arguments >>= fun results =>
        pure ((Typed.each advised.signature.results results).map Held.value) := by
  have inputs := serves.inputs_eq receiver
  have reached := callable?_callee serves suits receives visible
  have invoked := Callable.invoke_each (original receiver) arguments
    (inputs ▸ long) (serves.variadic_eq receiver).symm
    fun spread => inputs ▸ advised.signature.slotTypes_ne_nil (suits.variadic spread)
  rw [inputs, serves.results_eq] at invoked
  rw [GoWorld.call]
  dsimp only [callCode]
  rw [getM_bind reached, getM_bind bound, invoked, bind_assoc]
  simp only [pure_bind]

theorem run_answerCode (serves : world.Serves advised imports original)
    (suits : advised.Suits) (receives : advised.Receives receiver scope)
    {arguments : List V} (long : advised.signature.slotTypes.length = arguments.length)
    (bound : scope.values? advised.signature.argumentNames =
      some (Typed.each advised.signature.slotTypes arguments))
    (clear : Code.isClear world.mentions (scope.map Prod.fst) advised.answerCode = true) :
    (world.run scope advised.answerCode >>= fun given => given.boxes?.getM) =
      (original receiver).call arguments >>= fun results =>
        pure (Typed.each advised.signature.results results) := by
  rw [answerCode] at clear ⊢
  split at clear
  · rename_i noResults
    rw [Code.isClear, Bool.and_eq_true] at clear
    rw [if_pos noResults, GoWorld.run, call_callee serves suits receives clear.1 long bound,
      bind_assoc, bind_assoc]
    refine Callable.call_bind_congr fun results _ => ?_
    have nothing : scope.values? [] = some [] := rfl
    rw [pure_bind, GoWorld.run_giveBoxed nothing, pure_bind, List.isEmpty_iff.mp noResults]
    rfl
  · rename_i someResults
    rw [Code.isClear, Bool.and_eq_true] at clear
    rw [if_neg someResults, GoWorld.run, call_callee serves suits receives clear.1 long bound,
      bind_assoc, bind_assoc]
    refine Callable.call_bind_congr fun results resultsLong => ?_
    rw [serves.results_eq] at resultsLong
    have namesLong : advised.signature.resultNames.length =
        (Typed.each advised.signature.results results).length := by
      rw [SpelledSignature.resultNames_length, Typed.each_length resultsLong.symm, resultsLong]
    have named := GoScope.values?_named scope
      advised.signature.resultNames_nodup namesLong
    rw [pure_bind, guard_bind (by rw [List.length_map, namesLong])]
    rw [GoScope.named] at named
    rw [GoWorld.run_giveBoxed named, pure_bind]
    rfl

/-- The closure in a context makes the call with the arguments that the context has. -/
theorem run_proceedCode (serves : world.Serves advised imports original)
    (suits : advised.Suits) (receives : advised.Receives receiver scope)
    {context : AdviceContext V m} {arguments : List V}
    (long : advised.signature.slotTypes.length = arguments.length)
    (boxed : context.arguments = Typed.each advised.signature.slotTypes arguments)
    (found : scope.context? "_ag_ctx" = some context)
    (clear : Code.isClear world.mentions (scope.map Prod.fst) advised.proceedCode = true) :
    (world.run scope advised.proceedCode >>= fun given => given.boxes?.getM) =
      (original receiver).call arguments >>= fun results =>
        pure (Typed.each advised.signature.results results) := by
  have kept : scope.boxes? (.argumentsOf "_ag_ctx") =
      some (Typed.each advised.signature.slotTypes arguments) := by
    rw [GoScope.boxes?, found, ← boxed]
    rfl
  rw [proceedCode] at clear ⊢
  obtain ⟨ran, innerClear⟩ := GoWorld.run_unboxFrom 0 serves.unboxes kept
    (Typed.each_types long) advised.signature.argumentNames_length
    advised.signature.context_notMem_argumentNames clear
  rw [List.drop_zero] at ran innerClear
  have boundLong : advised.signature.argumentNames.length =
      (Typed.each advised.signature.slotTypes arguments).length := by
    rw [SpelledSignature.argumentNames_length, Typed.each_length long, long]
  have bound := GoScope.values?_named_reverse scope
    advised.signature.argumentNames_nodup boundLong
  have innerReceives := receives.behind
    (GoScope.named advised.signature.argumentNames
      (Typed.each advised.signature.slotTypes arguments)).reverse (by
    rw [List.map_reverse, List.mem_reverse, GoScope.named_names boundLong]
    exact advised.signature.receiver_notMem_argumentNames)
  rw [ran]
  exact run_answerCode serves suits innerReceives long bound innerClear

omit [Monad m] [LawfulMonad m] in
theorem adviceCall_context {context : AdviceContext V m}
    (found : scope.context? "_ag_ctx" = some context) :
    (advised.adviceCall imports).arguments.mapM scope.context? = some [context] := by
  change ["_ag_ctx"].mapM scope.context? = some [context]
  rw [List.mapM_cons, found]
  rfl

/-- Advice that forwards has for its results what the closure gives. -/
theorem call_advice (serves : world.Serves advised imports original)
    {context : AdviceContext V m} (found : scope.context? "_ag_ctx" = some context)
    (visible : areVisible (scope.map Prod.fst) (advised.adviceCall imports).target.outerNames = true) :
    world.call scope (advised.adviceCall imports) =
      context.proceed context.arguments >>= fun boxes => pure [.boxes boxes] := by
  have free : scope.leaves imports.advice.alias = true :=
    GoScope.leaves_iff.mpr (areVisible_iff.mp visible _ List.mem_cons_self)
  have target : (advised.adviceCall imports).target =
      .advice imports.advice.alias advised.advice := rfl
  rw [GoWorld.call, target]
  refine (guard_bind free _).trans ?_
  rw [getM_bind (adviceCall_context found), getM_bind List.head?_cons, serves.forwards]

/-- What a proxy gives once its context is complete. -/
theorem run_adviceCode (serves : world.Serves advised imports original)
    {context : AdviceContext V m} {arguments : List V}
    (found : scope.context? "_ag_ctx" = some context)
    (answers : context.proceed context.arguments =
      (original receiver).call arguments >>= fun results =>
        pure (Typed.each advised.signature.results results))
    (clear : Code.isClear world.mentions (scope.map Prod.fst) (advised.adviceCode imports) = true) :
    (world.run scope (advised.adviceCode imports) >>= fun given =>
      (given.values? advised.signature.results).getM) = (original receiver).call arguments := by
  refine Eq.trans ?_ (bind_pure _)
  rw [adviceCode] at clear ⊢
  split at clear
  · rename_i noResults
    rw [Code.isClear, Bool.and_eq_true] at clear
    rw [if_pos noResults, GoWorld.run, call_advice serves found clear.1, answers, bind_assoc,
      bind_assoc, bind_assoc]
    refine Callable.call_bind_congr fun results resultsLong => ?_
    have none : advised.signature.results = [] := List.isEmpty_iff.mp noResults
    rw [serves.results_eq, none] at resultsLong
    rw [pure_bind, pure_bind, GoWorld.run, pure_bind, none, List.length_eq_zero_iff.mp resultsLong]
    rfl
  · rename_i someResults
    rw [Code.isClear, Bool.and_eq_true] at clear
    rw [if_neg someResults, GoWorld.run, call_advice serves found clear.1, answers, bind_assoc,
      bind_assoc, bind_assoc]
    refine Callable.call_bind_congr fun results resultsLong => ?_
    rw [serves.results_eq] at resultsLong
    have types := Typed.each_types resultsLong.symm
    have namesLong : advised.signature.resultNames.length =
        (Typed.each advised.signature.results results).length := by
      rw [SpelledSignature.resultNames_length, Typed.each_length resultsLong.symm, resultsLong]
    have kept : GoScope.boxes?
        (("_ag_res", .boxes (Typed.each advised.signature.results results)) :: scope)
        (.named "_ag_res") = some (Typed.each advised.signature.results results) := rfl
    obtain ⟨ran, _⟩ := GoWorld.run_unboxFrom 0 serves.unboxes kept types
      advised.signature.resultNames_length advised.signature.boxes_notMem_resultNames clear.2
    have named := GoScope.values?_named_reverse
      (("_ag_res", .boxes (Typed.each advised.signature.results results)) :: scope)
      advised.signature.resultNames_nodup namesLong
    rw [List.drop_zero, GoWorld.run_give named] at ran
    have given : Given.values? advised.signature.results
        (.values (Typed.each advised.signature.results results) : Given V m) = some results :=
      Given.values?_each resultsLong.symm
    have single : ["_ag_res"].length =
        [(Held.boxes (Typed.each advised.signature.results results) : Held V m)].length := rfl
    rw [pure_bind, pure_bind, guard_bind single]
    exact (congrArg (· >>= _) ran).trans (by rw [pure_bind, given]; rfl)

end Advised

end
end AspectLoom
