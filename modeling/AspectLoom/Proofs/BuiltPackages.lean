import AspectLoom.Proofs.ImportDepths
import Mathlib.Data.List.Nodup
/-!
The packages that a loader indexes. A package is indexed when it is looked up for the first time, and
it is in the cache before its files are looked at; so none is indexed twice, also where the packages
in question import each other or where loading one of them fails.
-/
namespace AspectLoom

open Actions PackageCache
open Syntax (Node)

namespace PackageSource

/-! The packages indexed -/

section
variable (package : String → LoadM (Option PackageIndex))
  (further : String → PackageCache → List String)

/-- The packages indexed to bind an import. `further` tells those of a lookup. -/
def builtFor (spec : Import) (cache : PackageCache) : List String :=
  if spec.name.isSome then [] else further spec.path cache

/-- The packages indexed to bind some imports, up to the first that fails. -/
def builtForAll : List Import → Bindings → PackageCache → List String
  | [], _, _ => []
  | spec :: rest, bindings, cache =>
    builtFor further spec cache ++
      onSuccess (runFrom (bindImport package bindings spec) cache) fun next after =>
        builtForAll rest next after

def builtForFiles : List (String × Node) → PackageCache → List String
  | [], _ => []
  | file :: rest, cache =>
    builtForAll package further (file.2.imports file.1) {} cache ++
      onSuccess (runFrom (bindImports package (file.2.imports file.1)) cache) fun _ after =>
        builtForFiles rest after

/-- The packages indexed to load one, which is the first of them if it has files. -/
def builtForPackage (source : PackageSource) (importPath : String) (cache : PackageCache) :
    List String :=
  match source.dirOf? importPath with
  | none => []
  | some dir =>
    match goFiles source.tree dir with
    | .error _ => []
    | .ok paths =>
      if paths.isEmpty then []
      else
        importPath :: match paths.mapM (readFile source.tree) with
          | .error _ => []
          | .ok files => builtForFiles package further files (cache.set importPath none)

end

/-- The packages indexed to look one up, in the order in which that begins. -/
def built (source : PackageSource) : Nat → String → PackageCache → List String
  | 0, _, _ => []
  | depth + 1, importPath, cache =>
    match Assoc.find? importPath cache.entries with
    | some _ => []
    | none =>
      builtForPackage (packageWithin source depth) (built source depth) source importPath cache

/-- What a loader is asked for. The package that is woven is indexed elsewhere and put in. -/
inductive Request where
  | package (importPath : String)
  | bindings (imports : List Import)
  | insert (index : PackageIndex)

def serve (source : PackageSource) : Request → LoadM Unit
  | .package importPath => do
    let _ ← source.package importPath
    return
  | .bindings imports => do
    let _ ← source.bindings imports
    return
  | .insert index => modify fun cache => cache.set index.path (some index)

def builtBy (source : PackageSource) : Request → PackageCache → List String
  | .package importPath => source.built (importBound source.tree) importPath
  | .bindings imports =>
    builtForAll source.package (source.built (importBound source.tree)) imports {}
  | .insert _ => fun _ => []

/-- The packages indexed over a number of requests; after one that fails the next is served. -/
def builtOver (source : PackageSource) : List Request → PackageCache → List String
  | [], _ => []
  | request :: rest, cache =>
    source.builtBy request cache ++ builtOver source rest (leaves (source.serve request) cache)

/-- The cache that requests leave behind. -/
def servedAll (source : PackageSource) (requests : List Request) (cache : PackageCache) :
    PackageCache :=
  requests.foldl (fun cache request => leaves (source.serve request) cache) cache

end PackageSource

/-! Caches -/

/-- From one cache to another some packages are indexed, each for the first time. All indexes that
are new are theirs or come from elsewhere. -/
structure PackageCache.Builds (elsewhere : PackageIndex → Prop) (paths : List String)
    (before after : PackageCache) : Prop where
  grows : ∀ path, (before.known? path).isSome → (after.known? path).isSome
  distinct : paths.Nodup
  fresh : ∀ path ∈ paths, before.known? path = none ∧ (after.known? path).isSome
  new : ∀ path index, after.known? path = some (some index) →
    before.known? path = some (some index) ∨ path ∈ paths ∨ elsewhere index

namespace PackageCache.Builds

variable {elsewhere : PackageIndex → Prop} {paths later : List String} {path : String}
  {before middle after cache : PackageCache}

theorem nothing : Builds elsewhere [] cache cache where
  grows _ known := known
  distinct := List.nodup_nil
  fresh := List.forall_mem_nil _
  new _ _ known := .inl known

theorem trans (first : Builds elsewhere paths before middle)
    (second : Builds elsewhere later middle after) : Builds elsewhere (paths ++ later) before after where
  grows path known := second.grows path (first.grows path known)
  distinct := by
    refine List.Nodup.append first.distinct second.distinct fun path early late => ?_
    have known := (first.fresh path early).2
    rw [(second.fresh path late).1] at known
    cases known
  fresh := by
    intro path member
    rcases List.mem_append.mp member with early | late
    · obtain ⟨unknown, known⟩ := first.fresh path early
      exact ⟨unknown, second.grows path known⟩
    · obtain ⟨unknown, known⟩ := second.fresh path late
      refine ⟨?_, known⟩
      cases found : before.known? path with
      | none => rfl
      | some answer =>
          have kept := first.grows path (by rw [found]; rfl)
          rw [unknown] at kept
          cases kept
  new := by
    intro path index known
    rcases second.new path index known with held | late | other
    · rcases first.new path index held with held | early | other
      · exact .inl held
      · exact .inr (.inl (List.mem_append_left _ early))
      · exact .inr (.inr other)
    · exact .inr (.inl (List.mem_append_right _ late))
    · exact .inr (.inr other)

/-- A package is in the cache once it is looked up. -/
theorem opening (path : String) (cache : PackageCache) :
    Builds elsewhere [] cache (cache.set path none) where
  grows other known := by
    rw [known?_set]
    split
    · rfl
    · exact known
  distinct := List.nodup_nil
  fresh := List.forall_mem_nil _
  new other index known := by
    rw [known?_set] at known
    split at known
    · cases known
    · exact .inl known

/-- A package that is indexed is none of those that its files ask for. -/
theorem cons (unknown : before.known? path = none)
    (inside : Builds elsewhere paths (before.set path none) after) :
    Builds elsewhere (path :: paths) before after := by
  have isKnown : ((before.set path none).known? path).isSome := by
    rw [known?_set, if_pos rfl]
    rfl
  have whole := (opening path before).trans inside
  rw [List.nil_append] at whole
  constructor
  case grows => exact whole.grows
  case distinct =>
    refine List.nodup_cons.mpr ⟨fun again => ?_, whole.distinct⟩
    rw [(inside.fresh path again).1] at isKnown
    cases isKnown
  case fresh => exact List.forall_mem_cons.mpr ⟨⟨unknown, inside.grows path isKnown⟩, whole.fresh⟩
  case new =>
    intro other index known
    exact (whole.new other index known).imp_right fun among =>
      among.imp_left (List.mem_cons_of_mem _)

theorem set {index : PackageIndex} (builds : Builds elsewhere paths before after)
    (given : path ∈ paths ∨ elsewhere index) :
    Builds elsewhere paths before (after.set path (some index)) where
  grows other known := by
    rw [known?_set]
    split
    · rfl
    · exact builds.grows other known
  distinct := builds.distinct
  fresh other member := by
    refine ⟨(builds.fresh other member).1, ?_⟩
    rw [known?_set]
    split
    · rfl
    · exact (builds.fresh other member).2
  new other held known := by
    rw [known?_set] at known
    split at known
    · rename_i same
      cases known
      exact .inr (same ▸ given)
    · exact builds.new other held known

end PackageCache.Builds

/-! Runs -/

/-- Every run of an action, however it ends, indexes the packages that are told. -/
def Tells {α : Type} (elsewhere : PackageIndex → Prop) (action : LoadM α)
    (paths : PackageCache → List String) : Prop :=
  ∀ cache, Builds elsewhere (paths cache) cache (leaves action cache)

section
variable {α β : Type} {elsewhere : PackageIndex → Prop} {action : LoadM α} {next : α → LoadM β}
  {paths : PackageCache → List String}

theorem tells_pure (value : α) : Tells elsewhere (pure value) fun _ => [] :=
  fun _ => .nothing

theorem tells_bind {later : α → PackageCache → List String} (first : Tells elsewhere action paths)
    (second : ∀ value, Tells elsewhere (next value) (later value)) :
    Tells elsewhere (action >>= next) fun cache =>
      paths cache ++ onSuccess (runFrom action cache) later := by
  intro cache
  have begins := first cache
  unfold leaves at begins ⊢
  rw [runFrom_bind]
  dsimp only
  cases ran : runFrom action cache with
  | mk result middle =>
      rw [ran] at begins
      cases result with
      | ok value => exact begins.trans (second value middle)
      | error cause => exact begins.trans .nothing

/-- Nothing is indexed by what only looks at results. -/
theorem tells_bind_quiet (first : Tells elsewhere action paths)
    (quiet : ∀ value cache, leaves (next value) cache = cache) :
    Tells elsewhere (action >>= next) paths := by
  intro cache
  have begins := first cache
  unfold leaves at begins quiet ⊢
  rw [runFrom_bind]
  cases ran : runFrom action cache with
  | mk outcome middle =>
      rw [ran] at begins
      cases outcome with
      | ok value =>
          dsimp only
          rwa [quiet value middle]
      | error cause => exact begins

end

namespace PackageSource

section
variable {elsewhere : PackageIndex → Prop} {package : String → LoadM (Option PackageIndex)}
  {further : String → PackageCache → List String}
  (tells : ∀ path, Tells elsewhere (package path) (further path))
include tells

theorem bindImport_tells (bindings : Bindings) (spec : Import) :
    Tells elsewhere (bindImport package bindings spec) (builtFor further spec) := by
  unfold bindImport builtFor
  cases written : spec.name with
  | none =>
      have named : spec.isBlank = false ∧ spec.isDot = false := by
        simp [Import.isBlank, Import.isDot, written]
      rw [named.1, named.2]
      exact tells_bind_quiet (tells spec.path) fun _ _ => rfl
  | some name =>
      split
      · exact tells_pure _
      · split
        · exact tells_pure _
        · exact tells_pure _

theorem bindImports_tells (imports : List Import) :
    Tells elsewhere (bindImports package imports) (builtForAll package further imports {}) := by
  unfold bindImports
  generalize ({} : Bindings) = bindings
  induction imports generalizing bindings with
  | nil => exact tells_pure bindings
  | cons spec rest ih =>
      rw [List.foldlM_cons]
      exact tells_bind (bindImport_tells tells bindings spec) ih

theorem buildIndex_tells (importPath : String) (files : List (String × Node)) :
    Tells elsewhere (buildIndex package importPath files) (builtForFiles package further files) := by
  unfold buildIndex
  refine tells_bind_quiet ?_ fun _ _ => rfl
  induction files with
  | nil => exact tells_pure _
  | cons file rest ih =>
      simp only [List.mapM_cons, bind_assoc, pure_bind]
      exact tells_bind (bindImports_tells tells (file.2.imports file.1)) fun _ =>
        tells_bind_quiet ih fun _ _ => rfl

/-- A package that was not looked up before is put into the cache, and then what it imports is
looked up. -/
theorem loadPackage_builds {source : PackageSource} {importPath : String} {cache : PackageCache}
    (unknown : cache.known? importPath = none) :
    Builds elsewhere (builtForPackage package further source importPath cache) cache
      (leaves (loadPackage source package importPath) cache) := by
  have opened : Builds elsewhere [] cache (cache.set importPath none) := .opening importPath cache
  unfold loadPackage builtForPackage leaves
  rw [runFrom_bind_of_ok (runFrom_modify _ cache)]
  cases source.dirOf? importPath with
  | none => exact opened
  | some dir =>
      dsimp only
      rw [runFrom_bind, runFrom_lift]
      cases goFiles source.tree dir with
      | error cause => exact opened
      | ok paths =>
          dsimp only
          split
          · exact opened
          · rw [runFrom_bind, runFrom_mapM_lift]
            -- Files that cannot be read count too, as the package is in the cache by then.
            cases paths.mapM (readFile source.tree) with
            | error cause => exact .cons unknown .nothing
            | ok files =>
                have building := buildIndex_tells tells importPath files (cache.set importPath none)
                unfold leaves at building
                dsimp only
                rw [runFrom_bind]
                cases build : runFrom (buildIndex package importPath files)
                    (cache.set importPath none) with
                | mk result last =>
                    rw [build] at building
                    have builds := Builds.cons unknown building
                    cases result with
                    | error cause => exact builds
                    | ok index => exact builds.set (.inl List.mem_cons_self)

end

/-! Requests -/

section
variable (elsewhere : PackageIndex → Prop) (source : PackageSource)

/-- A package that is in the cache is not indexed again. -/
theorem packageWithin_tells (depth : Nat) (importPath : String) :
    Tells elsewhere (source.packageWithin depth importPath) (source.built depth importPath) := by
  induction depth generalizing importPath with
  | zero => exact tells_pure none
  | succ depth ih =>
      intro cache
      rw [packageWithin, built, leaves, runFrom_bind, runFrom_get]
      dsimp only
      cases known : Assoc.find? importPath cache.entries with
      | some answer => exact .nothing
      | none => exact loadPackage_builds ih known

theorem package_tells (importPath : String) :
    Tells elsewhere (source.package importPath) (source.built (importBound source.tree) importPath) := by
  intro cache
  rw [leaves, runFrom_package]
  exact packageWithin_tells elsewhere source (importBound source.tree) importPath cache

/-- What comes from elsewhere is what is put in. -/
theorem serve_tells {request : Request}
    (given : ∀ index, request = .insert index → elsewhere index) :
    Tells elsewhere (source.serve request) (source.builtBy request) := by
  cases request with
  | package importPath =>
      exact tells_bind_quiet (package_tells elsewhere source importPath) fun _ _ => rfl
  | bindings imports =>
      exact tells_bind_quiet (bindImports_tells (package_tells elsewhere source) imports)
        fun _ _ => rfl
  | insert index => exact fun cache => Builds.nothing.set (.inr (given index rfl))

/-- Over all requests, failing ones among them, no package is indexed twice. -/
theorem builtOver_builds (requests : List Request) (cache : PackageCache)
    (given : ∀ index, .insert index ∈ requests → elsewhere index) :
    Builds elsewhere (source.builtOver requests cache) cache (source.servedAll requests cache) := by
  induction requests generalizing cache with
  | nil => exact .nothing
  | cons request rest ih =>
      have first : Tells elsewhere (source.serve request) (source.builtBy request) :=
        serve_tells elsewhere source fun index same => given index (same ▸ List.mem_cons_self)
      exact (first cache).trans (ih _ fun index member => given index (List.mem_cons_of_mem _ member))

end

end PackageSource
end AspectLoom
