import AspectLoom.Proofs.SharedPackages
/-!
How deep imports lead. Every package that is looked up for its name is mentioned in a file of the tree
and is in the cache from then on, so a chain of imports is no longer than the mentions are many, also
where packages import each other. What would be done further down is never done.
-/
namespace AspectLoom

open Actions PackageCache
open Syntax (Node)

namespace Actions

variable {ε σ α β : Type} {holds : σ → Prop}

/-- Runs over some items are alike when those of each item are, from all states that come up. -/
theorem runFrom_foldlM_congr {action other : β → α → Action ε σ β} {items : List α}
    (agrees : ∀ item ∈ items, ∀ value state, holds state →
      runFrom (action value item) state = runFrom (other value item) state)
    (keeps : ∀ value item state next after, holds state →
      runFrom (other value item) state = (.ok next, after) → holds after)
    {value : β} {state : σ} (start : holds state) :
    runFrom (items.foldlM action value) state = runFrom (items.foldlM other value) state := by
  induction items generalizing value state with
  | nil => rfl
  | cons item rest ih =>
      obtain ⟨agrees, agreesLater⟩ := List.forall_mem_cons.mp agrees
      rw [List.foldlM_cons, List.foldlM_cons]
      apply runFrom_bind_congr (agrees value state start)
      intro next middle ran
      exact ih agreesLater (keeps value item state next middle start ran)

theorem runFrom_mapM_congr {action other : α → Action ε σ β} {items : List α}
    (agrees : ∀ item ∈ items, ∀ state, holds state →
      runFrom (action item) state = runFrom (other item) state)
    (keeps : ∀ item state next after, holds state →
      runFrom (other item) state = (.ok next, after) → holds after)
    {state : σ} (start : holds state) :
    runFrom (items.mapM action) state = runFrom (items.mapM other) state := by
  induction items generalizing state with
  | nil => rfl
  | cons item rest ih =>
      obtain ⟨agrees, agreesLater⟩ := List.forall_mem_cons.mp agrees
      rw [List.mapM_cons, List.mapM_cons]
      apply runFrom_bind_congr (agrees state start)
      intro next middle ran
      exact runFrom_bind_congr (ih agreesLater (keeps item state next middle start ran))
        fun _ _ _ => rfl

/-- Outcomes that are known beforehand are those of a run, which leaves the state as it is. -/
theorem runFrom_mapM_lift (read : α → Except ε β) (items : List α) (state : σ) :
    runFrom (items.mapM fun item => (liftM (read item) : Action ε σ β)) state =
      (items.mapM read, state) := by
  induction items with
  | nil => rfl
  | cons item rest ih =>
      rw [List.mapM_cons, List.mapM_cons, runFrom_bind, runFrom_lift]
      cases read item with
      | error cause => rfl
      | ok value =>
          dsimp only
          rw [runFrom_bind, ih]
          cases rest.mapM read with
          | error cause => rfl
          | ok values => rfl

end Actions

namespace PackageSource

/-- Looks a package up over a number of imports that lead to each other at most. Further down
something else is done. -/
def packageBeyond (source : PackageSource) (beyond : String → LoadM (Option PackageIndex)) :
    Nat → String → LoadM (Option PackageIndex)
  | 0, importPath => beyond importPath
  | depth + 1, importPath => do
    match Assoc.find? importPath (← get).entries with
    | some known => return known
    | none => loadPackage source (packageBeyond source beyond depth) importPath

section
variable {source : PackageSource} {package other : String → LoadM (Option PackageIndex)}
  {holds : PackageCache → Prop} {cache : PackageCache}

theorem bindImport_congr {spec : Import} (bindings : Bindings)
    (agrees : runFrom (package spec.path) cache = runFrom (other spec.path) cache) :
    runFrom (bindImport package bindings spec) cache =
      runFrom (bindImport other bindings spec) cache := by
  unfold bindImport
  split
  · rfl
  · split
    · rfl
    · split
      · rfl
      · exact runFrom_bind_congr agrees fun _ _ _ => rfl

variable (loads : ∀ path, Steps Loaded (other path))
  (keeps : ∀ before after, Loaded before after → holds before → holds after)
include loads keeps

theorem bindImports_congr {imports : List Import} (agrees : ∀ spec ∈ imports, ∀ cache, holds cache →
      runFrom (package spec.path) cache = runFrom (other spec.path) cache) (start : holds cache) :
    runFrom (bindImports package imports) cache = runFrom (bindImports other imports) cache := by
  apply runFrom_foldlM_congr (fun spec member bindings cache held =>
    bindImport_congr bindings (agrees spec member cache held)) ?_ start
  intro bindings spec before next after held ran
  exact keeps before after (bindImport_loaded loads bindings spec _ _ _ ran) held

theorem buildIndex_congr {importPath : String} {files : List (String × Node)}
    (agrees : ∀ file ∈ files, ∀ spec ∈ file.2.imports file.1, ∀ cache, holds cache →
      runFrom (package spec.path) cache = runFrom (other spec.path) cache) (start : holds cache) :
    runFrom (buildIndex package importPath files) cache =
      runFrom (buildIndex other importPath files) cache := by
  unfold buildIndex
  refine runFrom_bind_congr (runFrom_mapM_congr (fun file member cache held => ?_) ?_ start)
    fun _ _ _ => rfl
  · exact runFrom_bind_congr (bindImports_congr loads keeps (agrees file member) held)
      fun _ _ _ => rfl
  · intro file before next after held ran
    obtain ⟨bindings, middle, bound, ran⟩ := runFrom_bind_ok ran
    cases ran
    exact keeps before _ (bindImports_loaded loads _ _ _ _ bound) held

/-- A package is loaded alike with two ways to look up what it imports, when these agree on all that
is mentioned in the tree. -/
theorem loadPackage_congr {importPath : String} (agrees : ∀ path ∈ mentions source.tree, ∀ cache,
      holds cache → runFrom (package path) cache = runFrom (other path) cache)
    (start : holds (cache.set importPath none)) :
    runFrom (loadPackage source package importPath) cache =
      runFrom (loadPackage source other importPath) cache := by
  unfold loadPackage
  refine runFrom_bind_congr rfl fun _ opened changed => ?_
  cases changed
  cases source.dirOf? importPath with
  | none => rfl
  | some dir =>
      refine runFrom_bind_congr rfl fun paths listed lists => ?_
      rw [runFrom_lift] at lists
      obtain ⟨_, rfl⟩ := Prod.mk.inj lists
      split
      · rfl
      · refine runFrom_bind_congr rfl fun files opened read => ?_
        obtain ⟨rfl, among⟩ := mem_of_readAll read
        refine runFrom_bind_congr (buildIndex_congr loads keeps ?_ start) fun _ _ _ => rfl
        intro file member spec mentioned
        obtain ⟨path, _, read⟩ := among file member
        exact agrees spec.path (mem_mentions read mentioned)

end

section
variable (source : PackageSource) (beyond : String → LoadM (Option PackageIndex))

/-- A mentioned package that is loaded leaves less room, so the room covers what it imports. -/
theorem packageBeyond_mentioned {depth other : Nat} {importPath : String} {cache : PackageCache}
    (mentioned : importPath ∈ mentions source.tree)
    (roomy : room (mentions source.tree) cache < depth)
    (further : room (mentions source.tree) cache < other) :
    runFrom (source.packageBeyond beyond depth importPath) cache =
      runFrom (source.packageWithin other importPath) cache := by
  -- Both depths go down by one where the room does, so the room stays below the smaller one.
  induction depth generalizing other importPath cache with
  | zero => exact absurd roomy (Nat.not_lt_zero _)
  | succ depth ih =>
      obtain ⟨other, rfl⟩ : ∃ less, other = less + 1 := ⟨other - 1, by omega⟩
      rw [packageBeyond, packageWithin]
      refine runFrom_bind_congr rfl fun known middle got => ?_
      cases got
      cases found : Assoc.find? importPath cache.entries with
      | some known => rfl
      | none =>
          have less : room (mentions source.tree) (cache.set importPath none) <
              room (mentions source.tree) cache := room_set_lt mentioned found
          apply loadPackage_congr
            (fun path before _ after ran => (packageWithin_loaded source other path _ _ _ ran).1)
            (fun before after loaded held => Nat.lt_of_le_of_lt (room_loaded loaded) held)
            (fun path mentioned cache (held : room (mentions source.tree) cache < min depth other) =>
              ih mentioned (by omega) (by omega))
          show room (mentions source.tree) (cache.set importPath none) < min depth other
          omega

/-- What is done deeper than the bound is never done, whatever the packages import. -/
theorem runFrom_packageBeyond {depth : Nat} (deep : importBound source.tree ≤ depth)
    (importPath : String) (cache : PackageCache) :
    runFrom (source.packageBeyond beyond depth importPath) cache =
      runFrom (source.package importPath) cache := by
  unfold importBound at deep
  obtain ⟨depth, rfl⟩ : ∃ less, depth = less + 1 := ⟨depth - 1, by omega⟩
  rw [runFrom_package, importBound, packageBeyond, packageWithin]
  refine runFrom_bind_congr rfl fun known middle got => ?_
  cases got
  cases Assoc.find? importPath cache.entries with
  | some known => rfl
  | none =>
      refine loadPackage_congr
        (fun path before _ after ran => (packageWithin_loaded source _ path _ _ _ ran).1)
        (fun _ _ _ (held : True) => held) (fun path mentioned cache _ => ?_) trivial
      -- The package asked for need not be mentioned, which is what the bound has one more for.
      have most := room_le (mentions source.tree) cache
      exact packageBeyond_mentioned source beyond mentioned (by omega) (by omega)

theorem runFrom_bindingsBeyond {depth : Nat} (deep : importBound source.tree ≤ depth)
    (imports : List Import) (cache : PackageCache) :
    runFrom (bindImports (source.packageBeyond beyond depth) imports) cache =
      runFrom (source.bindings imports) cache :=
  bindImports_congr source.package_loaded (fun _ _ _ (held : True) => held)
    (fun spec _ cache _ => runFrom_packageBeyond source beyond deep spec.path cache) trivial

end

end PackageSource
end AspectLoom
