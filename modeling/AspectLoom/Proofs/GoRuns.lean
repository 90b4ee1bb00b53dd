import AspectLoom.Proofs.GoCode
import Mathlib.Data.Option.Basic
/-!
Runs of generated code. A run is an action of any monad, and it fails where the code does not mean
anything: a name that a variable hides is not looked up in the package, values have the static types
that are asked for, and as many values are given as are named.
-/
namespace AspectLoom

/-- A value with its static type. A boxed value keeps both. -/
structure Typed (V : Type) where
  type : String
  value : V

/-- Values with the static types in their places. -/
def Typed.each {V : Type} (types : List String) (values : List V) : List (Typed V) :=
  types.zipWith Typed.mk values

section

variable (V : Type) (m : Type → Type)

/-- What a proxy hands to its advice. The closure reads the arguments when it is called. -/
structure AdviceContext where
  arguments : List (Typed V)
  receiver : Option (Typed V)
  proceed : List (Typed V) → OptionT m (List (Typed V))

/-- What a variable holds. -/
inductive Held where
  | value (held : Typed V)
  | boxes (held : List (Typed V))
  | context (held : AdviceContext V m)

/-- A function or bound method. The last value stands for all that a variadic parameter takes. -/
structure Callable where
  signature : SpelledSignature
  body : List V → OptionT m (List V)

/-- What code gives. -/
inductive Given where
  | values (given : List (Typed V))
  | boxes (given : List (Typed V))
  | function (given : Callable V m)

/-- What code finds outside itself. -/
structure GoWorld where
  /-- The names that a type takes from the package and its imports. -/
  mentions : String → List String
  /-- The value of a box as a value of a type. -/
  unboxed : String → Typed V → V
  global : String → Option (Callable V m)
  method : Held V m → String → Option (Callable V m)
  /-- A variable as a function. -/
  function : Held V m → Option (Callable V m)
  /-- The advice of a type from an imported package. -/
  advise : String → String → AdviceContext V m → OptionT m (List (Typed V))

/-- The variables, innermost first. -/
abbrev GoScope := List (String × Held V m)

end

variable {V : Type} {m : Type → Type}

namespace Held

def value? : Held V m → Option (Typed V)
  | value held => some held
  | _ => none

def boxes? : Held V m → Option (List (Typed V))
  | boxes held => some held
  | _ => none

def context? : Held V m → Option (AdviceContext V m)
  | context held => some held
  | _ => none

end Held

namespace Given

def boxes? : Given V m → Option (List (Typed V))
  | boxes given => some given
  | _ => none

def function? : Given V m → Option (Callable V m)
  | function given => some given
  | _ => none

/-- Given values, if they are of some types. -/
def values? (types : List String) : Given V m → Option (List V)
  | values given =>
    if given.map Typed.type = types then some (given.map Typed.value) else none
  | _ => none

end Given

namespace GoScope

/-- Whether no variable hides a name. -/
def leaves (scope : GoScope V m) (name : String) : Bool := (Assoc.find? name scope).isNone

def value? (scope : GoScope V m) (name : String) : Option (Typed V) :=
  (Assoc.find? name scope).bind Held.value?

def values? (scope : GoScope V m) (names : List String) : Option (List (Typed V)) :=
  names.mapM scope.value?

def context? (scope : GoScope V m) (name : String) : Option (AdviceContext V m) :=
  (Assoc.find? name scope).bind Held.context?

def boxes? (scope : GoScope V m) : BoxedList → Option (List (Typed V))
  | .named name => (Assoc.find? name scope).bind Held.boxes?
  | .argumentsOf context => (scope.context? context).map AdviceContext.arguments

/-- Values as variables. -/
def named (names : List String) (values : List (Typed V)) : GoScope V m :=
  names.zip (values.map .value)

/-- The receiver and the parameters of a signature as the innermost variables. -/
def enter (signature : SpelledSignature) (values : List V) (scope : GoScope V m) : GoScope V m :=
  named signature.headNames (Typed.each signature.inputs values) ++ scope

end GoScope

variable [Monad m]

namespace Callable

def call (callable : Callable V m) (values : List V) : OptionT m (List V) := do
  guard (values.length = callable.signature.inputs.length)
  let results ← callable.body values
  guard (results.length = callable.signature.results.length)
  return results

/-- A call with values of static types. The last one is spread for a variadic parameter. -/
def invoke (callable : Callable V m) (arguments : List (Typed V)) (isSpread : Bool) :
    OptionT m (List (Typed V)) := do
  guard (arguments.map Typed.type = callable.signature.inputs)
  guard (isSpread = callable.signature.variadic)
  guard ((isSpread && arguments.isEmpty) = false)
  let results ← callable.call (arguments.map Typed.value)
  return Typed.each callable.signature.results results

end Callable

namespace GoWorld

def selected (world : GoWorld V m) (scope : GoScope V m) (base name : String) :
    Option (Callable V m) :=
  match Assoc.find? base scope with
  | some held => world.method held name
  | none => world.global (base ++ "." ++ name)

def callable? (world : GoWorld V m) (scope : GoScope V m) : Callee → Option (Callable V m)
  | .function (some qualifier) name => world.selected scope qualifier name
  | .function none name =>
    match Assoc.find? name scope with
    | some held => world.function held
    | none => world.global name
  | .method name => world.selected scope SpelledSignature.receiverName name

/-- The results of a call. Advice gives all its results in one list. -/
def call (world : GoWorld V m) (scope : GoScope V m) (code : CodeCall) :
    OptionT m (List (Held V m)) :=
  match code.target with
  | .callee reached => do
    let callable ← (world.callable? scope reached).getM
    let arguments ← (scope.values? code.arguments).getM
    let results ← callable.invoke arguments code.isSpread
    return results.map .value
  | .advice package type => do
    guard (scope.leaves package)
    let contexts ← (code.arguments.mapM scope.context?).getM
    let context ← contexts.head?.getM
    let results ← world.advise package type context
    return [.boxes results]

def run (world : GoWorld V m) : GoScope V m → List Code → OptionT m (Given V m)
  | _, [] => return .values []
  | scope, .unbox name list position type :: rest => do
    guard ((world.mentions type).all scope.leaves)
    let boxes ← (scope.boxes? list).getM
    let box ← boxes[position]?.getM
    run world ((name, .value ⟨type, world.unboxed type box⟩) :: scope) rest
  | scope, .define names call :: rest => do
    let results ← world.call scope call
    guard (names.length = results.length)
    run world (names.zip results ++ scope) rest
  | scope, .run call :: rest => do
    let _ ← world.call scope call
    run world scope rest
  | scope, .give names :: _ => do
    let values ← (scope.values? names).getM
    return .values values
  | scope, .giveBoxed names :: _ => do
    let values ← (scope.values? names).getM
    return .boxes values
  | scope, .giveCall call :: _ => do
    let results ← world.call scope call
    let values ← (results.mapM Held.value?).getM
    return .values values

/-- The function that some code is the body of. -/
def closure (world : GoWorld V m) (scope : GoScope V m) (signature : SpelledSignature)
    (code : List Code) : Callable V m where
  signature := signature
  body values := do
    let given ← world.run (scope.enter signature values) code
    (given.values? signature.results).getM

def runLines (world : GoWorld V m) (code : List Code) :
    GoScope V m → List CodeLine → OptionT m (Given V m)
  | scope, [] => world.run scope code
  | scope, .makeContext name runtime arguments receiver :: rest => do
    guard (scope.leaves runtime)
    let values ← (scope.values? arguments).getM
    let receivers ← (scope.values? receiver.toList).getM
    let context := ⟨values, receivers.head?, fun _ => failure⟩
    world.runLines code ((name, .context context) :: scope) rest
  | scope, .setProceed name body :: rest => do
    let context ← (scope.context? name).getM
    let proceed := fun arguments => do
      let given ← world.run ((name, .context { context with arguments := arguments }) :: scope) body
      given.boxes?.getM
    world.runLines code ((name, .context { context with proceed := proceed }) :: scope) rest
  | scope, .giveFunction signature body :: _ => do
    guard ((signature.params ++ signature.results).all fun type =>
      (world.mentions type).all scope.leaves)
    return .function (world.closure scope signature body)

end GoWorld

namespace GoFunction

/-- What a function gives for the values of its parameters. -/
def given (function : GoFunction) (world : GoWorld V m) (values : List V) :
    OptionT m (Given V m) :=
  world.runLines function.code (GoScope.enter function.signature values []) function.lines

def callable (function : GoFunction) (world : GoWorld V m) : Callable V m where
  signature := function.signature
  body values := do
    let given ← function.given world values
    (given.values? function.signature.results).getM

/-- The call of a function whose only result is a function. -/
def makeFunction (function : GoFunction) (world : GoWorld V m) (values : List V) :
    OptionT m (Callable V m) := do
  guard (values.length = function.signature.inputs.length)
  let given ← function.given world values
  let made ← given.function?.getM
  guard ([Advised.functionType made.signature] = function.signature.results)
  return made

end GoFunction

namespace GoWorld

/-- The world with one function more. -/
def extend (world : GoWorld V m) (function : GoFunction) : GoWorld V m :=
  { world with
    global := fun name =>
      if name = function.name then some (function.callable world) else world.global name }

/-- Declares a function under a name that is new. -/
def declare (world : GoWorld V m) (function : GoFunction) : Option (GoWorld V m) :=
  if (world.global function.name).isSome then none else some (world.extend function)

variable (world : GoWorld V m) (function : GoFunction)

theorem declare_eq_some_iff {program : GoWorld V m} : world.declare function = some program ↔
    world.global function.name = none ∧ program = world.extend function := by
  unfold declare
  cases known : world.global function.name with
  | none => simp [eq_comm]
  | some callable => simp

theorem extend_global_self :
    (world.extend function).global function.name = some (function.callable world) :=
  if_pos rfl

theorem extend_global_of_ne {name : String} (other : name ≠ function.name) :
    (world.extend function).global name = world.global name :=
  if_neg other

end GoWorld
end AspectLoom
