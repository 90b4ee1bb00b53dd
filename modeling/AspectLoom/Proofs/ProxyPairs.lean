import AspectLoom.Proofs.NeededNames
/-!
Pairs of generated functions. They can replace what they are generated for exactly if their names
are clear: no variable of theirs hides a package, a type or a function that they take from outside.
-/
namespace AspectLoom

/-- The world in which a pair of generated functions is declared. -/
def GoWorld.declarePair {V : Type} {m : Type → Type} [Monad m] (world : GoWorld V m)
    (advised : Advised) (imports : ProxyImports) : Option (GoWorld V m) := do
  let world ← world.declare (advised.proxyFunction imports)
  world.declare advised.generatorFunction

namespace Advised

/-- A pair can be declared and used for what it is generated for: the proxy does what the original
does, and the generator gives a function of the original's type that calls the proxy. -/
def Forwards {V : Type} {m : Type → Type} [Monad m] (advised : Advised) (imports : ProxyImports)
    (world : GoWorld V m) (original : Option V → Callable V m) : Prop :=
  ∃ program proxy, world.declarePair advised imports = some program ∧
    program.global advised.names.proxy = some proxy ∧
    ∀ receiver : Option V, receiver.isSome = advised.signature.receiver.isSome →
      (∀ arguments, proxy.call (receiver.toList ++ arguments) =
        (original receiver).call arguments) ∧
      ∃ closure : Callable V m,
        advised.generatorFunction.makeFunction program receiver.toList = pure closure ∧
        closure.signature = advised.signature.bound ∧
        ∀ arguments, closure.call arguments = proxy.call (receiver.toList ++ arguments)

section

variable {V : Type} {m : Type → Type} [Monad m] {advised : Advised}
  {imports : ProxyImports} {world : GoWorld V m} {original : Option V → Callable V m}

theorem declarePair_eq_some_iff {program : GoWorld V m} :
    world.declarePair advised imports = some program ↔
      world.global advised.names.proxy = none ∧
      advised.names.generator ≠ advised.names.proxy ∧
      world.global advised.names.generator = none ∧
      program = (world.extend (advised.proxyFunction imports)).extend advised.generatorFunction := by
  have between : (world.extend (advised.proxyFunction imports)).global advised.names.generator =
      none ↔ advised.names.generator ≠ advised.names.proxy ∧
        world.global advised.names.generator = none := by
    by_cases same : advised.names.generator = advised.names.proxy
    · have taken := world.extend_global_self (advised.proxyFunction imports)
      rw [proxyFunction] at taken
      simp [same, taken, proxyFunction]
    · have kept := world.extend_global_of_ne (advised.proxyFunction imports) same
      rw [kept]
      simp [same]
  rw [GoWorld.declarePair, Option.bind_eq_bind, Option.bind_eq_some_iff]
  simp only [GoWorld.declare_eq_some_iff]
  constructor
  · rintro ⟨_, ⟨proxyFree, rfl⟩, generatorFree, rfl⟩
    obtain ⟨different, free⟩ := between.mp generatorFree
    exact ⟨proxyFree, different, free, rfl⟩
  · rintro ⟨proxyFree, different, free, rfl⟩
    exact ⟨_, ⟨proxyFree, rfl⟩, between.mpr ⟨different, free⟩, rfl⟩

theorem declarePair_of_distinct (serves : world.Serves advised imports original)
    (distinct : (advised.callee.global?.toList ++
      [advised.names.proxy, advised.names.generator]).Nodup) :
    ∃ program, world.declarePair advised imports = some program ∧
      program.mentions = world.mentions ∧
      program.global advised.names.proxy =
        some ((advised.proxyFunction imports).callable world) := by
  obtain ⟨different, notProxy, notGenerator⟩ := distinct_iff.mp distinct
  have proxyFree : world.global advised.names.proxy = none :=
    serves.fresh _ List.mem_cons_self notProxy
  have generatorFree : world.global advised.names.generator = none :=
    serves.fresh _ (List.mem_cons_of_mem _ List.mem_cons_self) notGenerator
  refine ⟨_, declarePair_eq_some_iff.mpr ⟨proxyFree, different.symm, generatorFree, rfl⟩, rfl, ?_⟩
  exact (GoWorld.extend_global_of_ne _ _ different).trans (GoWorld.extend_global_self _ _)

theorem forwards_of_isClear [LawfulMonad m] (serves : world.Serves advised imports original)
    (suits : advised.Suits) (clear : advised.isClear imports world.mentions = true) :
    advised.Forwards imports world original := by
  obtain ⟨distinct, proxyClear, generatorClear⟩ := isClear_iff.mp clear
  obtain ⟨program, declared, mentions, known⟩ := declarePair_of_distinct serves distinct
  refine ⟨program, _, declared, known, fun receiver given => ⟨?_, ?_⟩⟩
  · exact proxy_call serves suits given proxyClear
  · exact makeFunction_generator suits known rfl given (mentions ▸ generatorClear)

end

/-! A world in which only the original is found shows that the names must be clear. -/

section

variable (advised : Advised) (imports : ProxyImports) (mentions : String → List String)

/-- A function that gives values without looking at any. -/
def plainOriginal : Callable Unit Id where
  signature := advised.signature.bound
  body _ := pure (List.replicate advised.signature.results.length ())

def plainWorld : GoWorld Unit Id where
  mentions := mentions
  unboxed _ box := box.value
  global name := if advised.callee.global? = some name then some advised.plainOriginal else none
  method _ _ := if advised.callee.global? = none then some advised.plainOriginal else none
  function _ := none
  advise _ _ context := context.proceed context.arguments

theorem plainWorld_serves :
    (advised.plainWorld mentions).Serves advised imports fun _ => advised.plainOriginal where
  unboxes _ _ := rfl
  forwards _ := rfl
  signature _ := rfl
  function _ known := if_pos known
  method _ _ _ reached _ := if_pos (congrArg Callee.global? reached)
  fresh _ _ other := if_neg other

theorem plainWorld_reveals : (advised.plainWorld mentions).Reveals advised.callCode.target := by
  cases reached : advised.callee with
  | method name =>
      rw [callCode, reached]
      exact GoWorld.reveals_method name
  | function qualifier name =>
      have methods : ∀ held name, (advised.plainWorld mentions).method held name = none := by
        intro held other
        refine if_neg ?_
        rw [reached]
        exact Option.some_ne_none _
      rw [callCode, reached]
      cases qualifier with
      | none => exact GoWorld.reveals_name (fun _ => rfl) name
      | some qualifier => exact GoWorld.reveals_qualified methods qualifier name

variable {advised imports mentions}

theorem plainWorld_global {name : String}
    (free : (advised.plainWorld mentions).global name = none) : advised.callee.global? ≠ some name := by
  intro same
  have known : (advised.plainWorld mentions).global name = some advised.plainOriginal := if_pos same
  rw [known] at free
  cases free

theorem plainOriginal_call {arguments : List Unit}
    (long : advised.signature.slotTypes.length = arguments.length) :
    (advised.plainOriginal.call arguments).run =
      some (List.replicate advised.signature.results.length ()) := by
  have boundLong : advised.plainOriginal.signature.inputs.length = arguments.length := long
  have count : (List.replicate advised.signature.results.length ()).length =
      advised.plainOriginal.signature.results.length := List.length_replicate
  rw [Callable.call_eq_body boundLong, plainOriginal]
  dsimp only
  rw [pure_bind]
  exact congrArg OptionT.run (guard_bind count _)

theorem isClear_of_forwards
    (forwards : advised.Forwards imports (advised.plainWorld mentions)
      fun _ => advised.plainOriginal) : advised.isClear imports mentions = true := by
  obtain ⟨program, proxy, declared, known, meets⟩ := forwards
  obtain ⟨proxyFree, different, generatorFree, rfl⟩ := declarePair_eq_some_iff.mp declared
  have distinct := distinct_iff.mpr
    ⟨different.symm, plainWorld_global proxyFree, plainWorld_global generatorFree⟩
  obtain rfl : (advised.proxyFunction imports).callable (advised.plainWorld mentions) = proxy := by
    have found := (GoWorld.extend_global_of_ne _ advised.generatorFunction different.symm).trans
      (GoWorld.extend_global_self (advised.plainWorld mentions) (advised.proxyFunction imports))
    exact Option.some.inj (found.symm.trans known)
  have given : (advised.signature.receiver.map fun _ => ()).isSome =
      advised.signature.receiver.isSome := Option.isSome_map
  have long : advised.signature.slotTypes.length =
      (List.replicate advised.signature.slotTypes.length ()).length := List.length_replicate.symm
  obtain ⟨calls, closure, made, _, forwarded⟩ := meets _ given
  have answered := plainOriginal_call long
  rw [← calls] at answered
  obtain ⟨_, _, called⟩ := bind_gives answered
  obtain ⟨_, body, _⟩ := bind_gives called
  obtain ⟨_, ran, _⟩ := bind_gives body
  have proxyClear := proxyFunction_isClear (plainWorld_reveals advised mentions) (fun _ => rfl)
    ((SpelledSignature.inputs_length _ given).mpr long) ran
  rw [← forwarded] at answered
  have generatorClear := generatorFunction_isClear (fun _ => rfl) (generatorSignature_inputs given)
    (congrArg OptionT.run made) long answered
  exact isClear_iff.mpr ⟨distinct, proxyClear, generatorClear⟩

end

/-! Pairs of declarations -/

/-- What is generated for a declaration. A method is reached through its receiver. -/
def ofDeclaration (scope : ImportScope) (decl : Declaration) (receiver : Option GoType)
    (qualifier : Option String) (advice : String) (names : SyntheticNames) : Advised where
  signature := (SpelledSignature.ofDeclaration scope decl receiver).1
  advice := advice
  callee := if receiver.isSome then .method decl.name else .function qualifier decl.name
  names := names

theorem spellAll_length (scope : ImportScope) (types : List GoType) :
    (scope.spellAll types).1.length = types.length := by
  induction types generalizing scope with
  | nil => rfl
  | cons type rest ih => exact congrArg Nat.succ (ih _)

theorem ofDeclaration_suits (scope : ImportScope) (decl : Declaration) (receiver : Option GoType)
    (qualifier : Option String) (advice : String) (names : SyntheticNames) :
    (ofDeclaration scope decl receiver qualifier advice names).Suits where
  callee := by
    cases receiver with
    | none => exact iff_of_false (Option.some_ne_none _) Bool.false_ne_true
    | some type => exact iff_of_true rfl rfl
  variadic spread := by
    have some : decl.params ≠ [] := by
      have both : (decl.variadic && !decl.params.isEmpty) = true := spread
      intro none
      rw [none] at both
      simp at both
    have long := spellAll_length (scope.spellAll receiver.toList).2 (decl.params.map Param.type)
    rw [List.length_map] at long
    rw [← List.length_pos_iff]
    refine Nat.lt_of_lt_of_eq (List.length_pos_iff.mpr some) long.symm

/-- The pair of a declaration is its two functions as code, and it forwards wherever the original
is found and the advice forwards exactly if its names are clear. -/
theorem pair_forwards_iff_isClear (scope : ImportScope) (decl : Declaration)
    (receiver : Option GoType) (qualifier : Option String) (advice : String)
    (names : SyntheticNames) (imports : ProxyImports) (mentions : String → List String) :
    let advised := ofDeclaration scope decl receiver qualifier advice names
    (advised.pair imports).proxy = (advised.proxyFunction imports).text ∧
    (advised.pair imports).generator = advised.generatorFunction.text ∧
    (advised.isClear imports mentions = true ↔
      ∀ (V : Type) (m : Type → Type) [Monad m] [LawfulMonad m] (world : GoWorld V m)
        (original : Option V → Callable V m), world.mentions = mentions →
          world.Serves advised imports original → advised.Forwards imports world original) := by
  intro advised
  have suits := ofDeclaration_suits scope decl receiver qualifier advice names
  refine ⟨proxyFunction_text.symm, generatorFunction_text.symm, ?_, ?_⟩
  · intro clear V m _ _ world original same serves
    exact forwards_of_isClear serves suits (same ▸ clear)
  · intro forwards
    exact isClear_of_forwards (forwards Unit Id _ _ rfl (plainWorld_serves advised imports mentions))

/-! A unit that imports one package -/

/-- The names that a type of names, qualified names and punctuation is spelled with. -/
def spelledNames (type : String) : List String :=
  let runs := type.toList.splitOnP fun c => !(c.isAlphanum || c == '_' || c == '.')
  (runs.map fun run => String.ofList (run.takeWhile (· != '.'))).filter (· != "")

def workerScope : ImportScope where
  unit := { (default : CompilationUnit) with
    packagePath := "example.com/app", imports := [⟨none, "example.com/app/worker"⟩] }
  packageNames := []

/-- A method with a variadic parameter and two results. -/
def joinDeclaration : Declaration where
  packagePath := "example.com/app/worker"
  name := "Join"
  receiver := some ⟨"*example.com/app/worker.W"⟩
  signature := ⟨[⟨none, ⟨"int"⟩⟩, ⟨none, ⟨"string"⟩⟩], [⟨none, ⟨"string"⟩⟩, ⟨none, ⟨"error"⟩⟩], true⟩

def joinAdvised : Advised :=
  ofDeclaration workerScope joinDeclaration joinDeclaration.receiver none "Det"
    (.ofProxy "_ag_proxy_0")

theorem pair_forwards_iff_isClear_method :
    joinAdvised.Forwards {} (joinAdvised.plainWorld spelledNames)
      fun _ => joinAdvised.plainOriginal := by
  have clear : joinAdvised.isClear {} spelledNames = true := by decide +kernel
  exact (pair_forwards_iff_isClear workerScope joinDeclaration joinDeclaration.receiver none "Det"
    (.ofProxy "_ag_proxy_0") {} spelledNames).2.2.mp clear Unit Id _ _ rfl
      (plainWorld_serves joinAdvised {} spelledNames)

/-- A function with a result from a package that the unit does not import. -/
def newDeclaration : Declaration where
  packagePath := "example.com/app/worker"
  name := "New"
  receiver := none
  signature := ⟨[], [⟨none, ⟨"example.com/app/ctx.T"⟩⟩], false⟩

def newAdvised : Advised :=
  ofDeclaration workerScope newDeclaration none (some "worker") "Det" (.ofProxy "_ag_proxy_0")

/-- The alias of a package `ctx` is the name of the variable for the context. -/
theorem pair_fails_context : newAdvised.signature.results = ["_ag_ctx.T"] ∧
    (newAdvised.plainWorld spelledNames).Serves newAdvised {} (fun _ => newAdvised.plainOriginal) ∧
    ¬ newAdvised.Forwards {} (newAdvised.plainWorld spelledNames)
      fun _ => newAdvised.plainOriginal := by
  have results : newAdvised.signature.results = ["_ag_ctx.T"] := by decide +kernel
  have hidden : newAdvised.isClear {} spelledNames = false := by decide +kernel
  refine ⟨results, plainWorld_serves newAdvised {} spelledNames, fun forwards => ?_⟩
  rw [isClear_of_forwards forwards] at hidden
  cases hidden

end Advised
end AspectLoom
