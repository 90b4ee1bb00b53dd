import AspectLoom.Proofs.BoundNames
/-!
Code whose names mean what they are written for. Package names, types and functions are looked up
where no variable hides them, and code that has a run is of this kind.
-/
namespace AspectLoom

/-- The names that a call takes from the package or its imports. -/
def CallTarget.outerNames : CallTarget → List String
  | callee (.function (some qualifier) _) => [qualifier]
  | callee (.function none name) => [name]
  | callee (.method _) => []
  | advice package _ => [package]

/-- Whether no name of a list is hidden. -/
def areVisible (hidden names : List String) : Bool := names.all fun name => !hidden.contains name

namespace Code

/-- Whether code means what is written when some names are hidden. A type is spelled with the names
that `mentions` gives. -/
def isClear (mentions : String → List String) : List String → List Code → Bool
  | _, [] => true
  | hidden, .unbox name _ _ type :: rest =>
    areVisible hidden (mentions type) && isClear mentions (name :: hidden) rest
  | hidden, .define names call :: rest =>
    areVisible hidden call.target.outerNames && isClear mentions (names ++ hidden) rest
  | hidden, .run call :: rest =>
    areVisible hidden call.target.outerNames && isClear mentions hidden rest
  | _, .give _ :: _ => true
  | _, .giveBoxed _ :: _ => true
  | hidden, .giveCall call :: _ => areVisible hidden call.target.outerNames

/-- The names that code takes from outside. -/
def outerNames (mentions : String → List String) : Code → List String
  | unbox _ _ _ type => mentions type
  | define _ call => call.target.outerNames
  | run call => call.target.outerNames
  | give _ => []
  | giveBoxed _ => []
  | giveCall call => call.target.outerNames

def boundNames : Code → List String
  | unbox name _ _ _ => [name]
  | define names _ => names
  | _ => []

def call? : Code → Option CodeCall
  | define _ call => some call
  | run call => some call
  | giveCall call => some call
  | _ => none

end Code

def CodeLine.areClear (mentions : String → List String) (code : List Code) :
    List String → List CodeLine → Bool
  | hidden, [] => Code.isClear mentions hidden code
  | hidden, .makeContext name runtime _ _ :: rest =>
    areVisible hidden [runtime] && areClear mentions code (name :: hidden) rest
  | hidden, .setProceed name body :: rest =>
    Code.isClear mentions (name :: hidden) body && areClear mentions code (name :: hidden) rest
  | hidden, .giveFunction signature body :: _ =>
    ((signature.params ++ signature.results).all fun type => areVisible hidden (mentions type)) &&
      Code.isClear mentions (signature.headNames ++ hidden) body

def GoFunction.isClear (mentions : String → List String) (function : GoFunction) : Bool :=
  CodeLine.areClear mentions function.code function.signature.headNames function.lines

theorem areVisible_iff {hidden names : List String} :
    areVisible hidden names = true ↔ ∀ name ∈ names, name ∉ hidden := by
  simp [areVisible]

/-- Code is clear if nothing that it takes from outside has the name of a variable. -/
theorem Code.isClear_of_apart {mentions : String → List String} {hidden own : List String}
    {code : List Code} (inside : hidden ⊆ own)
    (apart : ∀ step ∈ code, step.boundNames ⊆ own ∧
      ∀ name ∈ step.outerNames mentions, name ∉ own) :
    isClear mentions hidden code = true := by
  induction code generalizing hidden with
  | nil => rfl
  | cons step rest ih =>
      rw [List.forall_mem_cons] at apart
      obtain ⟨⟨bound, outer⟩, later⟩ := apart
      have visible : ∀ name ∈ step.outerNames mentions, name ∉ hidden :=
        fun name member known => outer name member (inside known)
      cases step with
      | unbox name list position type =>
          rw [isClear, Bool.and_eq_true, areVisible_iff]
          exact ⟨visible, ih (List.append_subset.mpr ⟨bound, inside⟩) later⟩
      | define names call =>
          rw [isClear, Bool.and_eq_true, areVisible_iff]
          exact ⟨visible, ih (List.append_subset.mpr ⟨bound, inside⟩) later⟩
      | run call =>
          rw [isClear, Bool.and_eq_true, areVisible_iff]
          exact ⟨visible, ih inside later⟩
      | give names => rfl
      | giveBoxed names => rfl
      | giveCall call =>
          rw [isClear, areVisible_iff]
          exact visible

namespace Advised

variable {advised : Advised} {imports : ProxyImports} {mentions : String → List String}

theorem proxyFunction_isClear_iff :
    (advised.proxyFunction imports).isClear mentions = true ↔
      imports.runtime.alias ∉ advised.signature.headNames ∧
      Code.isClear mentions ("_ag_ctx" :: "_ag_ctx" :: advised.signature.headNames)
        advised.proceedCode = true ∧
      Code.isClear mentions ("_ag_ctx" :: "_ag_ctx" :: advised.signature.headNames)
        (advised.adviceCode imports) = true := by
  rw [GoFunction.isClear, proxyFunction]
  dsimp only
  rw [CodeLine.areClear, CodeLine.areClear, CodeLine.areClear, Bool.and_eq_true,
    Bool.and_eq_true, areVisible_iff, List.forall_mem_singleton]

theorem generatorFunction_isClear_iff :
    advised.generatorFunction.isClear mentions = true ↔
      ((advised.signature.params ++ advised.signature.results).all fun type =>
        areVisible (generatorSignature advised.signature).headNames (mentions type)) = true ∧
      Code.isClear mentions
        (advised.signature.bound.headNames ++ (generatorSignature advised.signature).headNames)
        advised.forwardCode = true := by
  rw [GoFunction.isClear, generatorFunction]
  dsimp only
  rw [CodeLine.areClear, Bool.and_eq_true]
  rfl

end Advised

namespace GoScope

variable {V : Type} {m : Type → Type} {scope : GoScope V m}

theorem leaves_eq (scope : GoScope V m) :
    scope.leaves = fun name => !(scope.map Prod.fst).contains name := by
  funext name
  rw [Bool.eq_iff_iff, leaves_iff]
  simp

theorem all_leaves (names : List String) :
    names.all scope.leaves = areVisible (scope.map Prod.fst) names := by
  rw [leaves_eq]
  rfl

end GoScope

/-! Runs that give something -/

section

variable {α β : Type}

theorem bind_gives {action : OptionT Id α} {next : α → OptionT Id β} {result : β}
    (given : (action >>= next).run = some result) :
    ∃ value, action.run = some value ∧ (next value).run = some result := by
  rw [OptionT.run_bind] at given
  cases first : action.run with
  | none =>
      rw [first] at given
      cases given
  | some value =>
      rw [first] at given
      exact ⟨value, rfl, given⟩

theorem guard_gives {condition : Prop} [Decidable condition] {result : Unit}
    (given : (guard condition : OptionT Id Unit).run = some result) : condition := by
  by_cases holds : condition
  · exact holds
  · rw [guard, if_neg holds] at given
    cases given

theorem getM_gives {option : Option α} {result : α}
    (given : (option.getM : OptionT Id α).run = some result) : option = some result := by
  cases option with
  | none => cases given
  | some value =>
      cases given
      rfl

end

namespace GoWorld

variable {V : Type} {world : GoWorld V Id}

/-- Calls of a target have results only where its names are not hidden. -/
def Reveals (world : GoWorld V Id) (target : CallTarget) : Prop :=
  ∀ (scope : GoScope V Id) (call : CodeCall), call.target = target →
    ∀ results, (world.call scope call).run = some results →
      areVisible (scope.map Prod.fst) target.outerNames = true

theorem reveals_advice (package type : String) : world.Reveals (.advice package type) := by
  intro scope call target results called
  rw [GoWorld.call, target] at called
  obtain ⟨_, free, _⟩ := bind_gives called
  rw [areVisible_iff]
  intro name member
  rw [List.mem_singleton.mp member]
  exact GoScope.leaves_iff.mp (guard_gives free)

theorem reveals_name (functions : ∀ held, world.function held = none) (name : String) :
    world.Reveals (.callee (.function none name)) := by
  intro scope call target results called
  rw [GoWorld.call, target] at called
  obtain ⟨callable, reached, _⟩ := bind_gives called
  have found := getM_gives reached
  rw [areVisible_iff]
  intro outer member
  rw [List.mem_singleton.mp member, ← Assoc.find?_eq_none]
  rw [callable?] at found
  split at found
  · rw [functions] at found
    cases found
  · assumption

theorem reveals_qualified (methods : ∀ held name, world.method held name = none)
    (qualifier name : String) : world.Reveals (.callee (.function (some qualifier) name)) := by
  intro scope call target results called
  rw [GoWorld.call, target] at called
  obtain ⟨callable, reached, _⟩ := bind_gives called
  have found := getM_gives reached
  rw [areVisible_iff]
  intro outer member
  rw [List.mem_singleton.mp member, ← Assoc.find?_eq_none]
  rw [callable?, selected] at found
  split at found
  · rw [methods] at found
    cases found
  · assumption

theorem reveals_method (name : String) : world.Reveals (.callee (.method name)) :=
  fun _ _ _ _ _ => rfl

theorem isClear_of_run {scope : GoScope V Id} {code : List Code} {given : Given V Id}
    (reveals : ∀ step ∈ code, ∀ call, step.call? = some call → world.Reveals call.target)
    (ran : (world.run scope code).run = some given) :
    Code.isClear world.mentions (scope.map Prod.fst) code = true := by
  induction code generalizing scope with
  | nil => rfl
  | cons step rest ih =>
      rw [List.forall_mem_cons] at reveals
      cases step with
      | unbox name list position type =>
          obtain ⟨_, visible, ran⟩ := bind_gives ran
          obtain ⟨boxes, _, ran⟩ := bind_gives ran
          obtain ⟨box, _, ran⟩ := bind_gives ran
          have clear := ih reveals.2 ran
          rw [Code.isClear, Bool.and_eq_true]
          exact ⟨GoScope.all_leaves _ ▸ guard_gives visible, clear⟩
      | define names call =>
          obtain ⟨results, called, ran⟩ := bind_gives ran
          obtain ⟨_, long, ran⟩ := bind_gives ran
          have clear := ih reveals.2 ran
          rw [List.map_append, List.map_fst_zip (Nat.le_of_eq (guard_gives long))] at clear
          rw [Code.isClear, Bool.and_eq_true]
          exact ⟨reveals.1 call rfl scope call rfl results called, clear⟩
      | run call =>
          obtain ⟨results, called, ran⟩ := bind_gives ran
          rw [Code.isClear, Bool.and_eq_true]
          exact ⟨reveals.1 call rfl scope call rfl results called, ih reveals.2 ran⟩
      | give names => rfl
      | giveBoxed names => rfl
      | giveCall call =>
          obtain ⟨results, called, _⟩ := bind_gives ran
          exact reveals.1 call rfl scope call rfl results called

end GoWorld
end AspectLoom
