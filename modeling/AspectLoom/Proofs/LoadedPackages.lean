import AspectLoom.Program.PackageCache
import AspectLoom.Proofs.Actions
import AspectLoom.Proofs.IndexedDeclarations
/-!
Loading on demand. What the cache says about a package once it says ever after, and an index that
it holds is one of the package that was asked for.
-/
namespace AspectLoom

open Actions

namespace PackageCache

def known? (cache : PackageCache) (path : String) : Option (Option PackageIndex) :=
  Assoc.find? path cache.entries

/-- Every index declares what the package of its path declares. -/
def Sound (cache : PackageCache) : Prop :=
  ∀ path index, cache.known? path = some (some index) → index.Declares path

/-- What loading makes of a cache. -/
structure Loaded (before after : PackageCache) : Prop where
  kept : ∀ path entry, before.known? path = some entry → after.known? path = some entry
  sound : before.Sound → after.Sound

theorem Loaded.trans {first second third : PackageCache} (begins : Loaded first second)
    (goesOn : Loaded second third) : Loaded first third where
  kept path entry found := goesOn.kept path entry (begins.kept path entry found)
  sound sound := goesOn.sound (begins.sound sound)

instance : Std.Refl Loaded := ⟨fun _ => ⟨fun _ _ found => found, fun sound => sound⟩⟩

instance : IsTrans PackageCache Loaded := ⟨fun _ _ _ => Loaded.trans⟩

theorem known?_set (cache : PackageCache) (path other : String) (index : Option PackageIndex) :
    (cache.set path index).known? other = if path = other then some index else cache.known? other :=
  Assoc.find?_insert path other index cache.entries

theorem sound_set {cache : PackageCache} {path : String} {index : Option PackageIndex}
    (sound : cache.Sound) (declares : ∀ known, index = some known → known.Declares path) :
    (cache.set path index).Sound := by
  intro other known found
  rw [known?_set] at found
  split at found
  · rename_i same
    subst same
    exact declares known (Option.some.inj found)
  · exact sound other known found

end PackageCache

namespace PackageSource

open PackageCache
open Syntax (Node)

variable {package : String → LoadM (Option PackageIndex)}

theorem bindImport_loaded (loads : ∀ path, Steps Loaded (package path)) (bindings : Bindings)
    (spec : Import) : Steps Loaded (bindImport package bindings spec) := by
  unfold bindImport
  split
  · exact steps_pure _
  · split
    · exact steps_pure _
    · split
      · exact steps_bind (steps_pure _) fun _ => steps_pure _
      · exact steps_bind (loads _) fun _ => steps_bind (steps_pure _) fun _ => steps_pure _

theorem bindImports_loaded (loads : ∀ path, Steps Loaded (package path)) (imports : List Import) :
    Steps Loaded (bindImports package imports) :=
  steps_foldlM (bindImport_loaded loads) imports {}

theorem buildIndex_loaded (loads : ∀ path, Steps Loaded (package path)) (importPath : String)
    (files : List (String × Node)) : Steps Loaded (buildIndex package importPath files) := by
  unfold buildIndex
  apply steps_bind
  · apply steps_mapM
    rintro ⟨text, root⟩
    exact steps_bind (bindImports_loaded loads _) fun _ => steps_pure _
  · exact fun _ => steps_pure _

theorem buildIndex_declares {importPath : String} {files : List (String × Node)}
    {index : PackageIndex} {cache after : PackageCache}
    (ran : runFrom (buildIndex package importPath files) cache = (.ok index, after)) :
    index.Declares importPath := by
  unfold buildIndex at ran
  obtain ⟨contexts, middle, _, ran⟩ := runFrom_bind_ok ran
  cases ran
  exact PackageIndex.ofFiles_declares _ _ _

/-- An index that is given is in the cache. -/
def Given (path : String) (value : Option PackageIndex) (cache : PackageCache) : Prop :=
  ∀ index, value = some index → cache.known? path = some (some index)

theorem loadPackage_loaded {source : PackageSource} {importPath : String}
    {value : Option PackageIndex} {cache after : PackageCache}
    (loads : ∀ path, Steps Loaded (package path)) (unknown : cache.known? importPath = none)
    (ran : runFrom (loadPackage source package importPath) cache = (.ok value, after)) :
    Loaded cache after ∧ Given importPath value after := by
  -- A load is entered as one without an index first, which changes nothing that is known.
  have opened : Loaded cache (cache.set importPath none) := by
    refine ⟨?_, fun sound => sound_set sound (fun _ none => by cases none)⟩
    intro path entry found
    rw [known?_set]
    split
    · rename_i same
      subst same
      rw [unknown] at found
      cases found
    · exact found
  unfold loadPackage at ran
  obtain ⟨_, first, changed, ran⟩ := runFrom_bind_ok ran
  cases changed
  split at ran
  · cases ran
    exact ⟨opened, fun _ none => by cases none⟩
  · obtain ⟨paths, second, listed, ran⟩ := runFrom_bind_ok ran
    rw [runFrom_lift] at listed
    obtain ⟨_, rfl⟩ := Prod.mk.inj listed
    split at ran
    · cases ran
      exact ⟨opened, fun _ none => by cases none⟩
    · obtain ⟨files, third, read, ran⟩ := runFrom_bind_ok ran
      obtain ⟨index, fourth, built, ran⟩ := runFrom_bind_ok ran
      obtain ⟨_, last, changed, ran⟩ := runFrom_bind_ok ran
      cases changed
      cases ran
      have reading : Loaded (cache.set importPath none) third :=
        steps_mapM (fun _ => steps_lift _) paths _ _ _ read
      have building : Loaded third fourth := buildIndex_loaded loads _ _ _ _ _ built
      have going := opened.trans (reading.trans building)
      refine ⟨⟨?_, ?_⟩, ?_⟩
      · intro path entry found
        rw [known?_set]
        split
        · rename_i same
          subst same
          rw [unknown] at found
          cases found
        · exact going.kept path entry found
      · intro sound
        apply sound_set (going.sound sound)
        rintro _ ⟨⟩
        exact buildIndex_declares built
      · rintro _ ⟨⟩
        rw [known?_set, if_pos rfl]

theorem loadPackage_known {source : PackageSource} {importPath : String}
    {value : Option PackageIndex} {cache after : PackageCache}
    (ran : runFrom (loadPackage source package importPath) cache = (.ok value, after)) :
    after.known? importPath = some value := by
  have unloaded : (cache.set importPath none).known? importPath = some none := by
    rw [known?_set, if_pos rfl]
  unfold loadPackage at ran
  obtain ⟨_, first, changed, ran⟩ := runFrom_bind_ok ran
  cases changed
  split at ran
  · cases ran
    exact unloaded
  · obtain ⟨paths, second, listed, ran⟩ := runFrom_bind_ok ran
    rw [runFrom_lift] at listed
    obtain ⟨_, rfl⟩ := Prod.mk.inj listed
    split at ran
    · cases ran
      exact unloaded
    · obtain ⟨_, third, _, ran⟩ := runFrom_bind_ok ran
      obtain ⟨_, fourth, _, ran⟩ := runFrom_bind_ok ran
      obtain ⟨_, last, changed, ran⟩ := runFrom_bind_ok ran
      cases changed
      cases ran
      rw [known?_set, if_pos rfl]

theorem packageWithin_loaded (source : PackageSource) (depth : Nat) (importPath : String) :
    ∀ cache value after,
      runFrom (packageWithin source depth importPath) cache = (.ok value, after) →
        Loaded cache after ∧ Given importPath value after := by
  induction depth generalizing importPath with
  | zero =>
      intro cache value after ran
      cases ran
      exact ⟨Std.Refl.refl cache, fun _ none => by cases none⟩
  | succ depth ih =>
      intro cache value after ran
      rw [packageWithin] at ran
      obtain ⟨_, _, got, ran⟩ := runFrom_bind_ok ran
      cases got
      split at ran
      · rename_i known found
        cases ran
        refine ⟨Std.Refl.refl cache, ?_⟩
        rintro index rfl
        exact found
      · rename_i unknown
        exact loadPackage_loaded (fun path cache value after ran => (ih path _ _ _ ran).1) unknown
          ran

/-- A package is looked up within the bound, also where it is known already. -/
theorem runFrom_package (source : PackageSource) (importPath : String) (cache : PackageCache) :
    runFrom (source.package importPath) cache =
      runFrom (packageWithin source (importBound source.tree) importPath) cache := by
  rw [package, runFrom_bind, runFrom_get]
  dsimp only
  cases found : Assoc.find? importPath cache.entries with
  | none => rfl
  | some known =>
      rw [importBound, packageWithin, runFrom_bind, runFrom_get]
      dsimp only
      rw [found]

theorem package_loaded (source : PackageSource) (importPath : String) :
    Steps Loaded (source.package importPath) := by
  intro cache value after ran
  rw [runFrom_package] at ran
  exact (packageWithin_loaded source _ importPath cache value after ran).1

theorem package_given {source : PackageSource} {importPath : String}
    {value : Option PackageIndex} {cache after : PackageCache}
    (ran : runFrom (source.package importPath) cache = (.ok value, after)) :
    Given importPath value after := by
  rw [runFrom_package] at ran
  exact (packageWithin_loaded source _ importPath cache value after ran).2

/-- Afterwards the cache says what was answered. -/
theorem packageWithin_known {source : PackageSource} {depth : Nat} {importPath : String}
    {value : Option PackageIndex} {cache after : PackageCache}
    (ran : runFrom (packageWithin source (depth + 1) importPath) cache = (.ok value, after)) :
    after.known? importPath = some value := by
  rw [packageWithin] at ran
  obtain ⟨_, _, got, ran⟩ := runFrom_bind_ok ran
  cases got
  split at ran
  · rename_i found
    cases ran
    exact found
  · exact loadPackage_known ran

theorem package_known {source : PackageSource} {importPath : String}
    {value : Option PackageIndex} {cache after : PackageCache}
    (ran : runFrom (source.package importPath) cache = (.ok value, after)) :
    after.known? importPath = some value := by
  rw [runFrom_package] at ran
  exact packageWithin_known ran

theorem bindings_loaded (source : PackageSource) (imports : List Import) :
    Steps Loaded (source.bindings imports) :=
  bindImports_loaded source.package_loaded imports

end PackageSource
end AspectLoom
