import AspectLoom.Program.References
import AspectLoom.Proofs.LoadedPackages
/-!
Looking up names and types. A lookup can load packages and a declaration changes the scopes, but
neither records a use; what a lookup finds is a declaration of a package that is in the cache.
-/
namespace AspectLoom

open Actions PackageCache
open Syntax (Node)

/-- What a walk does to its memory where it records nothing. -/
structure WalkMemory.Kept (before after : WalkMemory) : Prop where
  symbols_eq : after.symbols = before.symbols
  loaded : Loaded before.cache after.cache

instance : Std.Refl WalkMemory.Kept := ⟨fun _ => ⟨rfl, Std.Refl.refl _⟩⟩

instance : IsTrans WalkMemory WalkMemory.Kept :=
  ⟨fun _ _ _ first second =>
    ⟨second.symbols_eq.trans first.symbols_eq, first.loaded.trans second.loaded⟩⟩

/-- A function is of a package that is in the cache. -/
def Declaration.KnownIn (decl : Declaration) (cache : PackageCache) : Prop :=
  decl.receiver = none → ∃ index, cache.known? decl.packagePath = some (some index)

theorem Declaration.knownIn_loaded {decl : Declaration} {before after : PackageCache}
    (known : decl.KnownIn before) (loaded : Loaded before after) : decl.KnownIn after := by
  intro function
  obtain ⟨index, found⟩ := known function
  exact ⟨index, loaded.kept _ _ found⟩

namespace Resolver

/-- An action that records nothing. -/
abbrev Quiet {α : Type} (action : ResolveM α) : Prop := Steps WalkMemory.Kept action

/-- An action that at most loads packages. The scopes stay also where it fails. -/
structure Looks {α : Type} (action : ResolveM α) : Prop where
  quiet : Quiet action
  stays : ∀ memory, (leaves action memory).scopes = memory.scopes

section
variable {α β : Type}

theorem looks_pure (value : α) : Looks (pure value) := ⟨steps_pure value, fun _ => rfl⟩

theorem looks_get : Looks get := ⟨steps_get, fun _ => rfl⟩

theorem looks_bind {action : ResolveM α} {next : α → ResolveM β} (first : Looks action)
    (second : ∀ value, Looks (next value)) : Looks (action >>= next) := by
  refine ⟨steps_bind first.quiet fun value => (second value).quiet, fun memory => ?_⟩
  have stays := first.stays memory
  rw [leaves] at stays ⊢
  rw [runFrom_bind]
  cases ran : runFrom action memory with
  | mk result middle =>
      rw [ran] at stays
      cases result with
      | ok value => exact ((second value).stays middle).trans stays
      | error cause => exact stays

theorem looks_mapM {action : α → ResolveM β} (each : ∀ item, Looks (action item))
    (items : List α) : Looks (items.mapM action) := by
  induction items with
  | nil => exact looks_pure []
  | cons item rest ih =>
      rw [List.mapM_cons]
      exact looks_bind (each item) fun value => looks_bind ih fun values => looks_pure _

end

theorem bind_quiet (name : String) (type : Option GoType) : Quiet (bind name type) := by
  unfold bind
  split
  · exact steps_pure _
  · exact steps_modify fun _ => ⟨rfl, Std.Refl.refl _⟩

theorem bindAll_quiet (names : List (String × Option GoType)) : Quiet (bindAll names) :=
  steps_forM (fun _ => bind_quiet _ _) names

theorem local?_looks (name : String) : Looks (local? name) :=
  looks_bind looks_get fun _ => looks_pure _

theorem isLocal_looks (name : String) : Looks (isLocal name) :=
  looks_bind (local?_looks name) fun _ => looks_pure _

/-! Packages -/

theorem runFrom_loading {α : Type} (action : LoadM α) (memory : WalkMemory) :
    runFrom (loading action) memory =
      ((runFrom action memory.cache).1,
        { memory with cache := (runFrom action memory.cache).2 }) := rfl

theorem loading_ok {α : Type} {action : LoadM α} {memory after : WalkMemory} {value : α}
    (ran : runFrom (loading action) memory = (.ok value, after)) :
    runFrom action memory.cache = (.ok value, after.cache) ∧
      after.symbols = memory.symbols := by
  rw [runFrom_loading] at ran
  obtain ⟨outcome, rfl⟩ := Prod.mk.inj ran
  exact ⟨Prod.ext outcome rfl, rfl⟩

theorem loading_looks {α : Type} {action : LoadM α} (loads : Steps Loaded action) :
    Looks (loading action) := by
  refine ⟨?_, fun _ => rfl⟩
  intro memory value after ran
  obtain ⟨inner, same⟩ := loading_ok ran
  exact ⟨same, loads _ _ _ inner⟩

variable (resolver : Resolver)

theorem package_looks (path : String) : Looks (resolver.package path) :=
  loading_looks (PackageSource.package_loaded _ path)

theorem indexOf_looks (path : String) : Looks (resolver.indexOf path) := by
  unfold indexOf
  split
  · exact looks_pure _
  · exact resolver.package_looks path

theorem dotFunctionIn_looks (name : String) (paths : List String) :
    Looks (resolver.dotFunctionIn name paths) := by
  induction paths with
  | nil => exact looks_pure _
  | cons path rest ih =>
      rw [dotFunctionIn]
      apply looks_bind (resolver.package_looks path)
      intro index
      split
      · exact looks_pure _
      · exact ih

theorem dotFunction_looks (name : String) : Looks (resolver.dotFunction name) :=
  resolver.dotFunctionIn_looks name resolver.dotImports

theorem methodOf_looks (type : GoType) (name : String) : Looks (resolver.methodOf type name) := by
  unfold methodOf
  split
  · exact looks_pure _
  · exact looks_bind (resolver.indexOf_looks _) fun _ => looks_pure _

theorem importBehind?_looks (operand : Node) : Looks (resolver.importBehind? operand) := by
  unfold importBehind?
  split
  · apply looks_bind (isLocal_looks _)
    intro hidden
    split <;> exact looks_pure _
  · exact looks_pure _

/-! Static types -/

theorem fieldOf_looks (type : Option GoType) (name : String) :
    Looks (resolver.fieldOf type name) := by
  unfold fieldOf
  split
  · exact looks_pure _
  · exact looks_bind (resolver.indexOf_looks _) fun _ => looks_pure _

theorem namedResults_looks (name : String) : Looks (resolver.namedResults name) := by
  unfold namedResults
  apply looks_bind (isLocal_looks name)
  intro hidden
  split
  · exact looks_pure _
  · split
    · exact looks_pure _
    · split
      · exact looks_pure _
      · exact looks_bind (resolver.dotFunction_looks name) fun _ => looks_pure _

theorem nameType?_looks (name : String) : Looks (resolver.nameType? name) := by
  unfold nameType?
  apply looks_bind (local?_looks name)
  intro found
  split <;> exact looks_pure _

mutual

theorem infer_looks (node : Node) : Looks (resolver.infer node) := by
  rw [infer]
  split
  · exact looks_pure _
  · split
    · exact resolver.nameType?_looks _
    · split
      · exact infer_looks _
      · exact looks_pure _
    · split
      · exact looks_bind (infer_looks _) fun _ => looks_pure _
      · exact looks_pure _
    · apply looks_bind (callResults_looks node)
      intro types
      split <;> exact looks_pure _
    · split
      · apply looks_bind (resolver.importBehind?_looks _)
        intro path
        split
        · exact looks_bind (resolver.package_looks _) fun _ => looks_pure _
        · exact looks_bind (infer_looks _) fun _ => resolver.fieldOf_looks _ _
      · exact looks_pure _
    · split
      · exact looks_bind (infer_looks _) fun _ => looks_pure _
      · exact looks_pure _
    · exact looks_pure _
    · exact looks_pure _
termination_by 3 * sizeOf node + 2
decreasing_by all_goals (first
  | have shorter := Node.sizeOf_firstNamed?_lt ‹_›; omega
  | have shorter := Node.sizeOf_child?_lt ‹Node.child? _ .operand = some _›; omega
  | omega)

theorem callResults_looks (call : Node) : Looks (resolver.callResults call) := by
  rw [callResults]
  split
  · exact looks_pure _
  · split
    · exact looks_pure _
    · split
      · exact resolver.namedResults_looks _
      · exact looks_bind (selectorCallee_looks _) fun _ => looks_pure _
      · exact looks_pure _
      · exact looks_pure _
termination_by 3 * sizeOf call + 1
decreasing_by
  have shorter := Node.sizeOf_child?_lt ‹_›
  omega

theorem selectorCallee_looks (function : Node) : Looks (resolver.selectorCallee function) := by
  rw [selectorCallee]
  split
  · apply looks_bind (resolver.importBehind?_looks _)
    intro path
    split
    · exact looks_bind (resolver.package_looks _) fun _ => looks_pure _
    · apply looks_bind (infer_looks _)
      intro type
      split
      · exact resolver.methodOf_looks _ _
      · exact looks_pure _
  · exact looks_pure _
termination_by 3 * sizeOf function
decreasing_by
  have shorter := Node.sizeOf_child?_lt ‹Node.child? _ .operand = some _›
  omega

end

theorem inferEach_looks (nodes : List (Option Node)) : Looks (resolver.inferEach nodes) := by
  apply looks_mapM
  intro node
  split
  · exact resolver.infer_looks _
  · exact looks_pure _

theorem assignedTypes_looks (count : Nat) (values : List Node) :
    Looks (resolver.assignedTypes count values) := by
  unfold assignedTypes
  split
  · split
    · exact looks_bind (resolver.callResults_looks _) fun _ => looks_pure _
    · exact resolver.inferEach_looks _
  · exact resolver.inferEach_looks _

/-! What lookups find -/

/-- The package of a resolver is in the cache with the resolver's index. -/
structure Ready (resolver : Resolver) (cache : PackageCache) : Prop where
  sound : cache.Sound
  own : cache.known? resolver.index.path = some (some resolver.index)

theorem ready_loaded {resolver : Resolver} {before after : PackageCache} (ready : resolver.Ready before)
    (loaded : Loaded before after) : resolver.Ready after :=
  ⟨loaded.sound ready.sound, loaded.kept _ _ ready.own⟩

/-- Every run that succeeds gives a value about which something is known. -/
def Tells {α : Type} (resolver : Resolver) (action : ResolveM α) (fact : α → PackageCache → Prop) :
    Prop :=
  ∀ memory value after, resolver.Ready memory.cache →
    runFrom action memory = (.ok value, after) → fact value after.cache

theorem function_known {cache : PackageCache} {path name : String} {index : PackageIndex}
    {decl : Declaration} (sound : cache.Sound) (held : cache.known? path = some (some index))
    (found : index.function? name = some decl) : decl.receiver = none ∧ decl.KnownIn cache := by
  obtain ⟨function, own⟩ := PackageIndex.declares_function (sound path index held) found
  refine ⟨function, fun _ => ⟨index, ?_⟩⟩
  rw [own]
  exact held

theorem package_tells (path : String) :
    resolver.Tells (resolver.package path) (PackageSource.Given path) :=
  fun _ _ _ _ ran => PackageSource.package_given (loading_ok ran).1

theorem dotFunctionIn_tells (name : String) (paths : List String) :
    resolver.Tells (resolver.dotFunctionIn name paths) fun found cache =>
      ∀ decl, found = some decl → decl.receiver = none ∧ decl.KnownIn cache := by
  induction paths with
  | nil =>
      intro memory value after _ ran
      cases ran
      rintro _ ⟨⟩
  | cons path rest ih =>
      intro memory value after ready ran
      rw [dotFunctionIn] at ran
      obtain ⟨index, middle, loaded, ran⟩ := runFrom_bind_ok ran
      have given := resolver.package_tells path _ _ _ ready loaded
      have stillReady := ready_loaded ready ((resolver.package_looks path).quiet _ _ _ loaded).loaded
      split at ran
      · rename_i decl found
        cases ran
        rintro _ ⟨⟩
        obtain ⟨index, rfl, here⟩ := Option.bind_eq_some_iff.mp found
        exact function_known stillReady.sound (given index rfl) here
      · exact ih _ _ _ stillReady ran

theorem dotFunction_tells (name : String) :
    resolver.Tells (resolver.dotFunction name) fun found cache =>
      ∀ decl, found = some decl → decl.receiver = none ∧ decl.KnownIn cache :=
  resolver.dotFunctionIn_tells name resolver.dotImports

theorem indexOf_tells (path : String) :
    resolver.Tells (resolver.indexOf path) (PackageSource.Given path) := by
  intro memory value after ready ran
  unfold indexOf at ran
  split at ran
  · rename_i same
    cases ran
    rintro _ ⟨⟩
    rw [same]
    exact ready.own
  · exact resolver.package_tells path _ _ _ ready ran

theorem methodOf_tells (type : GoType) (name : String) :
    resolver.Tells (resolver.methodOf type name) fun found _ =>
      ∀ decl, found = some decl → decl.receiver ≠ none := by
  intro memory value after ready ran
  unfold methodOf at ran
  split at ran
  · cases ran
    rintro _ ⟨⟩
  · obtain ⟨index, middle, loaded, ran⟩ := runFrom_bind_ok ran
    have given := resolver.indexOf_tells _ _ _ _ ready loaded
    have stillReady := ready_loaded ready ((resolver.indexOf_looks _).quiet _ _ _ loaded).loaded
    cases ran
    intro decl found
    obtain ⟨index, rfl, here⟩ := Option.bind_eq_some_iff.mp found
    exact PackageIndex.declares_method (stillReady.sound _ _ (given index rfl)) here

end Resolver
end AspectLoom
