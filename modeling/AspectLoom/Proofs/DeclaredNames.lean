import AspectLoom.Proofs.BuiltPackages
import Mathlib.Logic.Relation
/-!
The names that packages declare. A package that is being loaded is in the cache without an index, so
that a package which imports it back would take it for one outside the tree and guess its name. Where
no packages import each other in a circle this is never seen, in whatever order they are asked for,
and every import without a written name is bound under the name that its package declares.
-/
namespace AspectLoom

open Actions PackageCache
open Syntax (Node)
open Relation (ReflTransGen TransGen)

theorem PackageIndex.Enters.name_eq {file : File} {root : Node} {before index : PackageIndex}
    (enters : Enters file root before index) : index.name = before.name := by
  induction enters with
  | nothing => rfl
  | function _ _ _ _ _ ih => exact ih
  | method _ _ _ _ _ ih => exact ih
  | type _ _ ih => exact ih
  | field _ _ _ ih => exact ih
  | value _ _ ih => exact ih

theorem PackageIndex.ofFiles_name (path name : String) (files : List (File × Node)) :
    (ofFiles path name files).name = name :=
  @ofFiles_preserves (fun index => index.name = name) path name files rfl
    fun _ _ _ _ enters named => enters.name_eq.trans named

namespace PackageSource

/-! What the tree says of a package -/

section
variable (source : PackageSource)

/-- The files of a package. There are none where the package is outside the tree or has no files. -/
def filesOf (importPath : String) : Except LoadError (Option (List (String × Node))) :=
  match source.dirOf? importPath with
  | none => return none
  | some dir => do
    let paths ← goFiles source.tree dir
    if paths.isEmpty then return none
    return some (← paths.mapM (readFile source.tree))

/-- The name in the package clause, which is the first one that the files have. -/
def declaredName (files : List (String × Node)) : String :=
  (files.findSome? fun (text, root) => root.packageName? text).getD ""

/-- The name under which a file knows a package that it imports. It is guessed only where the package
has no files in the tree. -/
def localNameOf (spec : Import) : Except LoadError String :=
  match spec.name with
  | some name => return name
  | none => do
    match ← source.filesOf spec.path with
    | none => return Import.guessName spec.path
    | some files => return declaredName files

def bindDeclared (aliases : List (String × String)) (spec : Import) :
    Except LoadError (List (String × String)) :=
  if spec.isBlank || spec.isDot then return aliases
  else return Assoc.insert (← source.localNameOf spec) spec.path aliases

/-- A file with the names that its imports have by what their packages declare. -/
def declaredFile (importPath : String) (file : String × Node) :
    Except LoadError (PackageIndex.File × Node) := do
  let aliases ← (file.2.imports file.1).foldlM source.bindDeclared []
  return (⟨file.1, ⟨importPath, aliases⟩⟩, file.2)

/-- The index of a package, by what the tree says of it and of the packages that it imports. -/
def declared (importPath : String) : Except LoadError (Option PackageIndex) := do
  match ← source.filesOf importPath with
  | none => return none
  | some files =>
    let named ← files.mapM (source.declaredFile importPath)
    return some (PackageIndex.ofFiles importPath (declaredName files) named)

/-- The packages that are looked up for their names when a package is indexed. -/
def followed (importPath : String) : List String :=
  match source.filesOf importPath with
  | .ok (some files) => files.flatMap fun (text, root) =>
    ((root.imports text).filter fun spec => spec.name.isNone).map Import.path
  | _ => []

/-- No package that one leads to leads back to itself. -/
def Acyclic (importPath : String) : Prop :=
  ∀ other, ReflTransGen (fun path next => next ∈ source.followed path) importPath other →
    ¬ TransGen (fun path next => next ∈ source.followed path) other other

/-- What the cache says of a package is what the tree says, but for those that are being loaded. -/
def Agrees (busy : String → Prop) (cache : PackageCache) : Prop :=
  ∀ path answer, cache.known? path = some answer → ¬ busy path → source.declared path = .ok answer

end

variable {source : PackageSource} {busy : String → Prop} {importPath : String}
  {cache after : PackageCache}

theorem localNameOf_declared {spec : Import} {answer : Option PackageIndex}
    (unnamed : spec.name = none) (declares : source.declared spec.path = .ok answer) :
    source.localNameOf spec = .ok (spec.localName (answer.map PackageIndex.name)) := by
  unfold declared at declares
  obtain ⟨files, read, declares⟩ := bind_ok declares
  simp only [localNameOf, Import.localName, unnamed]
  rw [bind_of_ok read]
  cases files with
  | none =>
      cases declares
      rfl
  | some files =>
      obtain ⟨named, _, declares⟩ := bind_ok declares
      cases declares
      exact congrArg Except.ok (PackageIndex.ofFiles_name _ _ _).symm

theorem Acyclic.next (acyclic : source.Acyclic importPath) {other : String}
    (follows : other ∈ source.followed importPath) : source.Acyclic other :=
  fun last leads => acyclic last (leads.head follows)

theorem mem_followed {files : List (String × Node)}
    (isFiles : source.filesOf importPath = .ok (some files))
    {file : String × Node} (among : file ∈ files) {spec : Import}
    (imported : spec ∈ file.2.imports file.1) (unnamed : spec.name = none) :
    spec.path ∈ source.followed importPath := by
  rw [followed, isFiles]
  refine List.mem_flatMap.mpr ⟨file, among, List.mem_map_of_mem (List.mem_filter.mpr ⟨imported, ?_⟩)⟩
  rw [unnamed]
  rfl

/-! Bindings -/

section
variable {package : String → LoadM (Option PackageIndex)}

theorem bindImport_declared {spec : Import} {bindings result : Bindings}
    (answers : spec.name = none → ∀ cache value after, source.Agrees busy cache →
      runFrom (package spec.path) cache = (.ok value, after) →
        source.declared spec.path = .ok value ∧ source.Agrees busy after)
    (agrees : source.Agrees busy cache)
    (ran : runFrom (bindImport package bindings spec) cache = (.ok result, after)) :
    source.bindDeclared bindings.aliases spec = .ok result.aliases ∧ source.Agrees busy after := by
  unfold bindImport at ran
  unfold bindDeclared
  split at ran
  · rename_i blank
    cases ran
    rw [if_pos (by simp [blank])]
    exact ⟨rfl, agrees⟩
  · rename_i notBlank
    split at ran
    · rename_i dot
      cases ran
      rw [if_pos (by simp [dot])]
      exact ⟨rfl, agrees⟩
    · rename_i notDot
      rw [if_neg (by simp [notBlank, notDot])]
      cases written : spec.name with
      | some name =>
          rw [written] at ran
          cases ran
          simp only [localNameOf, Import.localName, written]
          exact ⟨rfl, agrees⟩
      | none =>
          rw [written] at ran
          obtain ⟨value, middle, asked, ran⟩ := runFrom_bind_ok ran
          cases ran
          obtain ⟨declares, agrees⟩ := answers written _ _ _ agrees asked
          rw [localNameOf_declared written declares]
          exact ⟨rfl, agrees⟩

theorem bindImports_declared {imports : List Import} {result : Bindings}
    (answers : ∀ spec ∈ imports, spec.name = none → ∀ cache value after, source.Agrees busy cache →
      runFrom (package spec.path) cache = (.ok value, after) →
        source.declared spec.path = .ok value ∧ source.Agrees busy after)
    (agrees : source.Agrees busy cache)
    (ran : runFrom (bindImports package imports) cache = (.ok result, after)) :
    imports.foldlM source.bindDeclared [] = .ok result.aliases ∧ source.Agrees busy after := by
  unfold bindImports at ran
  rw [show ([] : List (String × String)) = ({} : Bindings).aliases from rfl]
  generalize ({} : Bindings) = bindings at ran ⊢
  induction imports generalizing bindings cache with
  | nil =>
      cases ran
      exact ⟨rfl, agrees⟩
  | cons spec rest ih =>
      obtain ⟨answers, others⟩ := List.forall_mem_cons.mp answers
      rw [List.foldlM_cons] at ran
      obtain ⟨next, middle, first, ran⟩ := runFrom_bind_ok ran
      obtain ⟨bound, agrees⟩ := bindImport_declared answers agrees first
      rw [List.foldlM_cons, bound]
      exact ih others agrees next ran

theorem buildIndex_declared {files : List (String × Node)} {index : PackageIndex}
    (answers : ∀ file ∈ files, ∀ spec ∈ file.2.imports file.1, spec.name = none →
      ∀ cache value after, source.Agrees busy cache →
        runFrom (package spec.path) cache = (.ok value, after) →
          source.declared spec.path = .ok value ∧ source.Agrees busy after)
    (agrees : source.Agrees busy cache)
    (ran : runFrom (buildIndex package importPath files) cache = (.ok index, after)) :
    (∃ named, files.mapM (source.declaredFile importPath) = .ok named ∧
      index = PackageIndex.ofFiles importPath (declaredName files) named) ∧
    source.Agrees busy after := by
  unfold buildIndex at ran
  obtain ⟨contexts, middle, bound, ran⟩ := runFrom_bind_ok ran
  cases ran
  suffices all : files.mapM (source.declaredFile importPath) =
        .ok ((files.zip contexts).map fun pair => (⟨pair.1.1, pair.2⟩, pair.1.2)) ∧
      source.Agrees busy after from ⟨⟨_, all.1, rfl⟩, all.2⟩
  clear ran
  induction files generalizing contexts cache with
  | nil =>
      cases bound
      exact ⟨rfl, agrees⟩
  | cons file rest ih =>
      obtain ⟨answers, others⟩ := List.forall_mem_cons.mp answers
      rw [List.mapM_cons] at bound
      obtain ⟨context, between, first, bound⟩ := runFrom_bind_ok bound
      obtain ⟨bindings, last, binds, first⟩ := runFrom_bind_ok first
      cases first
      obtain ⟨aliases, agrees⟩ := bindImports_declared answers agrees binds
      obtain ⟨contexts, final, later, bound⟩ := runFrom_bind_ok bound
      cases bound
      obtain ⟨named, agrees⟩ := ih others agrees _ later
      rw [List.mapM_cons, declaredFile, aliases, named]
      exact ⟨rfl, agrees⟩

end

/-! Lookups -/

section
variable {path : String} {answer : Option PackageIndex}

/-- What the cache says of a package that is being loaded does not count. -/
theorem Agrees.set (agrees : source.Agrees busy cache) (isBusy : busy path) :
    source.Agrees busy (cache.set path answer) := by
  intro other given known idle
  rw [known?_set, if_neg] at known
  · exact agrees other given known idle
  · rintro rfl
    exact idle isBusy

theorem Agrees.begin (agrees : source.Agrees busy cache) :
    source.Agrees (fun other => busy other ∨ other = path) (cache.set path answer) := by
  refine Agrees.set (fun other given known idle => ?_) (.inr rfl)
  exact agrees other given known fun isBusy => idle (.inl isBusy)

/-- A package is no more being loaded once the cache says of it what the tree says. -/
theorem Agrees.settle (agrees : source.Agrees (fun other => busy other ∨ other = path) cache)
    (known : cache.known? path = some answer) (declares : source.declared path = .ok answer) :
    source.Agrees busy cache := by
  intro other given isKnown idle
  by_cases same : other = path
  · subst same
    rw [known] at isKnown
    rw [declares, Option.some.inj isKnown]
  · exact agrees other given isKnown (not_or.mpr ⟨idle, same⟩)

end

/-- A package is in the cache without an index while its files are looked at. -/
theorem runFrom_loadPackage (package : String → LoadM (Option PackageIndex)) :
    runFrom (loadPackage source package importPath) cache =
      match source.filesOf importPath with
      | .error cause => (.error cause, cache.set importPath none)
      | .ok none => (.ok none, cache.set importPath none)
      | .ok (some files) => runFrom (do
          let index ← buildIndex package importPath files
          modify fun cache => cache.set importPath (some index)
          return some index) (cache.set importPath none) := by
  unfold loadPackage filesOf
  rw [runFrom_bind_of_ok (runFrom_modify _ cache)]
  cases source.dirOf? importPath with
  | none => rfl
  | some dir =>
      dsimp only
      rw [runFrom_bind, runFrom_lift]
      cases goFiles source.tree dir with
      | error cause => rfl
      | ok paths =>
          dsimp only
          rw [Actions.bind_of_ok rfl]
          split
          · rfl
          · rw [runFrom_bind, runFrom_mapM_lift]
            cases paths.mapM (readFile source.tree) <;> rfl

/-- A package is loaded as the tree has it when those are that its files ask for. -/
theorem loadPackage_declared {package : String → LoadM (Option PackageIndex)}
    {value : Option PackageIndex}
    (answers : ∀ other ∈ source.followed importPath, ∀ cache value after,
      source.Agrees (fun path => busy path ∨ path = importPath) cache →
      runFrom (package other) cache = (.ok value, after) →
        source.declared other = .ok value ∧
          source.Agrees (fun path => busy path ∨ path = importPath) after)
    (agrees : source.Agrees busy cache)
    (ran : runFrom (loadPackage source package importPath) cache = (.ok value, after)) :
    source.declared importPath = .ok value ∧ source.Agrees busy after := by
  have known := loadPackage_known ran
  suffices declares : source.declared importPath = .ok value ∧
      source.Agrees (fun path => busy path ∨ path = importPath) after from
    ⟨declares.1, declares.2.settle known declares.1⟩
  have opened : source.Agrees (fun path => busy path ∨ path = importPath)
      (cache.set importPath none) := agrees.begin
  rw [runFrom_loadPackage] at ran
  unfold declared
  cases read : source.filesOf importPath with
  | error cause =>
      rw [read] at ran
      cases ran
  | ok files =>
      rw [read] at ran
      cases files with
      | none =>
          cases ran
          exact ⟨rfl, opened⟩
      | some files =>
          obtain ⟨index, last, built, ran⟩ := runFrom_bind_ok ran
          cases ran
          obtain ⟨⟨named, all, rfl⟩, agrees⟩ := buildIndex_declared
            (fun file among spec imported unnamed =>
              answers spec.path (mem_followed read among imported unnamed)) opened built
          refine ⟨?_, agrees.set (.inr rfl)⟩
          dsimp only [bind, Except.bind]
          rw [all]
          rfl

/-- A package leads to none that is being loaded when these lead to it and none leads back. -/
theorem packageBeyond_declared {cause : LoadError} {depth : Nat} {value : Option PackageIndex}
    (acyclic : source.Acyclic importPath)
    (idle : ∀ path, busy path →
      ¬ ReflTransGen (fun path next => next ∈ source.followed path) importPath path)
    (agrees : source.Agrees busy cache)
    (ran : runFrom (source.packageBeyond (fun _ => throw cause) depth importPath) cache =
      (.ok value, after)) :
    source.declared importPath = .ok value ∧ source.Agrees busy after := by
  induction depth generalizing importPath busy cache value after with
  | zero => cases ran
  | succ depth ih =>
      rw [packageBeyond] at ran
      obtain ⟨_, _, got, ran⟩ := runFrom_bind_ok ran
      cases got
      cases known : Assoc.find? importPath cache.entries with
      | some answer =>
          rw [known] at ran
          cases ran
          exact ⟨agrees importPath value known fun isBusy => idle importPath isBusy .refl, agrees⟩
      | none =>
          rw [known] at ran
          refine loadPackage_declared (fun other follows cache value after agrees ran => ?_) agrees ran
          refine ih (acyclic.next follows) (fun path isBusy leads => ?_) agrees ran
          rcases isBusy with before | rfl
          · exact idle path before (leads.head follows)
          · exact acyclic path .refl (.head' follows leads)

/-! Requests -/

/-- What a request needs the names of. -/
def Request.asks : Request → List String
  | .package importPath => [importPath]
  | .bindings imports => (imports.filter fun spec => spec.name.isNone).map Import.path
  | .insert _ => []

theorem package_declared {value : Option PackageIndex} (acyclic : source.Acyclic importPath)
    (agrees : source.Agrees (fun _ => False) cache)
    (ran : runFrom (source.package importPath) cache = (.ok value, after)) :
    source.declared importPath = .ok value ∧ source.Agrees (fun _ => False) after := by
  -- Beyond the bound a failure would do, since no run comes there.
  rw [← runFrom_packageBeyond source (fun _ => throw (.badSyntax ⟨importPath⟩))
    (Nat.le_refl _)] at ran
  exact packageBeyond_declared acyclic (fun _ isBusy => isBusy.elim) agrees ran

theorem bindings_declared {imports : List Import} {result : Bindings}
    (acyclic : ∀ path ∈ (Request.bindings imports).asks, source.Acyclic path)
    (agrees : source.Agrees (fun _ => False) cache)
    (ran : runFrom (source.bindings imports) cache = (.ok result, after)) :
    imports.foldlM source.bindDeclared [] = .ok result.aliases ∧
      source.Agrees (fun _ => False) after := by
  refine bindImports_declared (fun spec imported unnamed cache value after agrees ran => ?_) agrees ran
  refine package_declared (acyclic spec.path ?_) agrees ran
  refine List.mem_map_of_mem (List.mem_filter.mpr ⟨imported, ?_⟩)
  rw [unnamed]
  rfl

/-- A request that is served, or an index of the tree that is put in, keeps the cache in agreement
with the tree. -/
theorem serve_agrees {request : Request} (acyclic : ∀ path ∈ request.asks, source.Acyclic path)
    (inserted : ∀ index, request = .insert index → source.declared index.path = .ok (some index))
    (agrees : source.Agrees (fun _ => False) cache)
    (ran : runFrom (source.serve request) cache = (.ok ⟨⟩, after)) :
    source.Agrees (fun _ => False) after := by
  cases request with
  | package importPath =>
      obtain ⟨value, middle, asked, ran⟩ := runFrom_bind_ok ran
      cases ran
      exact (package_declared (acyclic importPath List.mem_cons_self) agrees asked).2
  | bindings imports =>
      obtain ⟨value, middle, asked, ran⟩ := runFrom_bind_ok ran
      cases ran
      exact (bindings_declared acyclic agrees asked).2
  | insert index =>
      cases ran
      refine agrees.begin.settle ?_ (inserted index rfl)
      rw [known?_set, if_pos rfl]

theorem requests_agree {requests : List Request}
    (acyclic : ∀ request ∈ requests, ∀ path ∈ request.asks, source.Acyclic path)
    (inserted : ∀ index, .insert index ∈ requests → source.declared index.path = .ok (some index))
    (agrees : source.Agrees (fun _ => False) cache)
    (ran : runFrom (requests.forM source.serve) cache = (.ok ⟨⟩, after)) :
    source.Agrees (fun _ => False) after := by
  induction requests generalizing cache with
  | nil =>
      cases ran
      exact agrees
  | cons request rest ih =>
      obtain ⟨_, middle, first, ran⟩ := runFrom_bind_ok ran
      obtain ⟨acyclic, acyclicLater⟩ := List.forall_mem_cons.mp acyclic
      refine ih acyclicLater (fun index member => inserted index (List.mem_cons_of_mem _ member))
        (serve_agrees acyclic (fun index same => inserted index ?_) agrees first) ran
      exact same ▸ List.mem_cons_self

/-- Packages are loaded on demand. Lookups come to an end whatever the packages import: what would be
done below the bound is never done. Over any number of requests, failing ones among them, no package
is indexed twice, and every index that is new is of a package that was indexed or was put in. And
where the packages asked for lead to no circle and all goes well, a package is indexed with the names
that the packages of its imports declare, and so are the imports bound that a file is read with. -/
theorem loads_on_demand (source : PackageSource) :
    (∀ beyond depth, importBound source.tree ≤ depth →
      (∀ importPath cache, runFrom (source.packageBeyond beyond depth importPath) cache =
        runFrom (source.package importPath) cache) ∧
      ∀ imports cache, runFrom (bindImports (source.packageBeyond beyond depth) imports) cache =
        runFrom (source.bindings imports) cache) ∧
    (∀ requests cache, Builds (fun index => .insert index ∈ requests)
      (source.builtOver requests cache) cache (source.servedAll requests cache)) ∧
    ∀ (requests : List Request) cache,
      (∀ request ∈ requests, ∀ path ∈ request.asks, source.Acyclic path) →
      (∀ index, .insert index ∈ requests → source.declared index.path = .ok (some index)) →
      runFrom (requests.forM source.serve) {} = (.ok ⟨⟩, cache) →
      (∀ importPath value after, source.Acyclic importPath →
        runFrom (source.package importPath) cache = (.ok value, after) →
          source.declared importPath = .ok value) ∧
      ∀ imports result after,
        (∀ spec ∈ imports, spec.name = none → source.Acyclic spec.path) →
        runFrom (source.bindings imports) cache = (.ok result, after) →
          imports.foldlM source.bindDeclared [] = .ok result.aliases := by
  refine ⟨fun beyond depth deep => ⟨runFrom_packageBeyond source beyond deep,
    runFrom_bindingsBeyond source beyond deep⟩, fun requests cache =>
      builtOver_builds _ source requests cache fun _ member => member, ?_⟩
  intro requests cache acyclic inserted ran
  have empty : source.Agrees (fun _ => False) {} := fun path answer known _ => nomatch known
  have agrees := requests_agree acyclic inserted empty ran
  constructor
  · intro importPath value after acyclic ran
    exact (package_declared acyclic agrees ran).1
  · intro imports result after acyclic ran
    refine (bindings_declared (fun path asked => ?_) agrees ran).1
    obtain ⟨spec, among, rfl⟩ := List.mem_map.mp asked
    obtain ⟨imported, unnamed⟩ := List.mem_filter.mp among
    exact acyclic spec imported (Option.isNone_iff_eq_none.mp unnamed)

/-- No circle is reached from packages that are listed before all that they follow. -/
theorem acyclic_of_order {order : List String}
    (sorted : ∀ path ∈ order, ∀ next ∈ source.followed path,
      next ∈ order ∧ order.idxOf path < order.idxOf next) (listed : importPath ∈ order) :
    source.Acyclic importPath := by
  intro other leads circle
  have reached : other ∈ order := by
    clear circle
    induction leads with
    | refl => exact listed
    | tail _ follows ih => exact (sorted _ ih _ follows).1
  have later : ∀ {last}, TransGen (fun path next => next ∈ source.followed path) other last →
      last ∈ order ∧ order.idxOf other < order.idxOf last := by
    intro last leads
    induction leads with
    | single follows => exact sorted other reached _ follows
    | tail _ follows ih =>
        obtain ⟨member, before⟩ := sorted _ ih.1 _ follows
        exact ⟨member, ih.2.trans before⟩
  exact absurd (later circle).2 (Nat.lt_irrefl _)

/-! Packages that are not called as their paths suggest -/

def chainTree : FileTree where
  entries := [(["s"], .directory), (["s", "a"], .directory),
    (["s", "a", "a.go"], .file "package x\nimport \"m/b\"\nfunc f(t y.T) {}\n".toUTF8),
    (["s", "b"], .directory), (["s", "b", "b.go"], .file "package y\ntype T int\n".toUTF8)]

def chainSource : PackageSource := ⟨chainTree, ⟨⟨"/s"⟩, some "m"⟩⟩

/-- The second package is asked for by itself and by the first, and is indexed once. -/
theorem loads_on_demand_chain :
    let imports : List Import := [⟨none, "m/a"⟩, ⟨none, "m/b"⟩]
    (chainSource.Acyclic "m/a" ∧ chainSource.Acyclic "m/b") ∧
    chainSource.builtOver [.bindings imports, .package "m/b"] {} = ["m/a", "m/b"] ∧
    (chainSource.builtOver [.bindings imports, .package "m/b"] {}).Nodup ∧
    ∃ cache result after, runFrom ([Request.package "m/b"].forM chainSource.serve) {} =
        (.ok ⟨⟩, cache) ∧
      runFrom (chainSource.bindings imports) cache = (.ok result, after) ∧
      imports.foldlM chainSource.bindDeclared [] = .ok result.aliases ∧
      result.aliases = [("x", "m/a"), ("y", "m/b")] := by
  intro imports
  have sorted : ∀ path ∈ ["m/a", "m/b"], ∀ next ∈ chainSource.followed path,
      next ∈ ["m/a", "m/b"] ∧ ["m/a", "m/b"].idxOf path < ["m/a", "m/b"].idxOf next := by
    decide +kernel
  have first : chainSource.Acyclic "m/a" := acyclic_of_order sorted (by decide)
  have second : chainSource.Acyclic "m/b" := acyclic_of_order sorted (by decide)
  have built : chainSource.builtOver [.bindings imports, .package "m/b"] {} = ["m/a", "m/b"] := by
    decide +kernel
  obtain ⟨_, once, named⟩ := loads_on_demand chainSource
  have ran : (runFrom ([Request.package "m/b"].forM chainSource.serve) {}).1.toOption = some ⟨⟩ ∧
      (runFrom (chainSource.bindings imports)
        (leaves ([Request.package "m/b"].forM chainSource.serve) {})).1.toOption.map
          Bindings.aliases = some [("x", "m/a"), ("y", "m/b")] := by
    decide +kernel
  have served := runFrom_of_toOption ran.1 rfl
  obtain ⟨result, bound, names⟩ := runFrom_of_view ran.2
  refine ⟨⟨first, second⟩, built, (once _ _).distinct, _, result, _, served, bound, ?_, names⟩
  refine (named [.package "m/b"] _ ?_ ?_ served).2 imports result _ ?_ bound
  · exact List.forall_mem_singleton.mpr (List.forall_mem_singleton.mpr second)
  · intro index member
    cases List.mem_singleton.mp member
  · exact List.forall_mem_cons.mpr ⟨fun _ => first, List.forall_mem_singleton.mpr fun _ => second⟩

end PackageSource
end AspectLoom
