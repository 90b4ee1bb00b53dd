import AspectLoom.Program.TargetPackage
import AspectLoom.Proofs.QualifiedNames
/-!
The indexes of packages. A package is indexed as the one that is woven or when another one asks for
it, and either way each of its files is read with the names that its own imports give.
-/
namespace AspectLoom

open Actions PackageCache
open Syntax (Node)

/-- A file of a package with what it imports. -/
structure SourceFile where
  source : String
  imports : List Import
  root : Node
deriving Inhabited

def SourceFile.ofUnit (file : CompilationUnit × Node) : SourceFile :=
  ⟨file.1.source, file.1.imports, file.2⟩

theorem SourceFile.ofUnit_imports (file : CompilationUnit × Node) :
    (ofUnit file).imports = file.1.imports := rfl

def SourceFile.ofText (file : String × Node) : SourceFile :=
  ⟨file.1, file.2.imports file.1, file.2⟩

/-- What a cache says of the packages that one can import is what they are. -/
def Informed (packages : Packages) (path : String) (cache : PackageCache) : Prop :=
  ∀ other answer, other ≠ path → cache.known? other = some answer → packages other = answer

theorem Informed.of_set {packages : Packages} {path : String} {cache : PackageCache}
    {index : Option PackageIndex} (informed : Informed packages path (cache.set path index)) :
    Informed packages path cache := by
  intro other answer foreign known
  refine informed other answer foreign ?_
  rw [known?_set, if_neg (Ne.symm foreign)]
  exact known

theorem Informed.before {packages : Packages} {path : String} {before after : PackageCache}
    (informed : Informed packages path after) (loaded : Loaded before after) :
    Informed packages path before :=
  fun other answer foreign known => informed other answer foreign (loaded.kept other answer known)

namespace PackageSource

/-- A way to ask for packages that remembers its answers. -/
structure Answers (package : String → LoadM (Option PackageIndex)) : Prop where
  loads : ∀ path, Steps Loaded (package path)
  known : ∀ {path cache value after}, runFrom (package path) cache = (.ok value, after) →
    after.known? path = some value

theorem package_answers (source : PackageSource) : Answers source.package :=
  ⟨source.package_loaded, package_known⟩

theorem packageWithin_answers (source : PackageSource) (depth : Nat) :
    Answers (source.packageWithin (depth + 1)) :=
  ⟨fun path _ _ _ ran => (packageWithin_loaded source _ path _ _ _ ran).1, packageWithin_known⟩

section
variable {package : String → LoadM (Option PackageIndex)} {packages : Packages} {path : String}
  {cache after : PackageCache}

theorem bindImport_binds (answers : Answers package) {bindings result : Bindings} {spec : Import}
    (foreign : spec.path ≠ path) (informed : Informed packages path after)
    (ran : runFrom (bindImport package bindings spec) cache = (.ok result, after)) :
    result.aliases = bindName packages bindings.aliases spec := by
  unfold bindImport at ran
  unfold bindName
  split at ran
  · rename_i blank
    cases ran
    rw [if_pos (.inl blank)]
  · rename_i notBlank
    split at ran
    · rename_i dot
      cases ran
      rw [if_pos (.inr dot)]
    · rename_i notDot
      rw [if_neg (not_or.mpr ⟨notBlank, notDot⟩)]
      split at ran
      · rename_i written
        cases ran
        obtain ⟨name, isName⟩ := Option.isSome_iff_exists.mp written
        simp [Import.nameIn, Import.localName, isName]
      · obtain ⟨value, middle, asked, ran⟩ := runFrom_bind_ok ran
        cases ran
        rw [Import.nameIn, informed spec.path value foreign (answers.known asked)]

/-- The names of the imports of a file. -/
theorem bindImports_binds (answers : Answers package) {imports : List Import} {result : Bindings}
    (foreign : ∀ spec ∈ imports, spec.path ≠ path) (informed : Informed packages path after)
    (ran : runFrom (bindImports package imports) cache = (.ok result, after)) :
    result.aliases = imports.foldl (bindName packages) [] := by
  have each : ∀ (bindings : Bindings) (cache : PackageCache),
      runFrom (imports.foldlM (bindImport package) bindings) cache = (.ok result, after) →
      result.aliases = imports.foldl (bindName packages) bindings.aliases := by
    clear ran
    induction imports with
    | nil =>
        intro bindings cache ran
        cases ran
        rfl
    | cons spec rest ih =>
        intro bindings cache ran
        rw [List.foldlM_cons] at ran
        obtain ⟨middle, between, first, ran⟩ := runFrom_bind_ok ran
        have later : Loaded between after :=
          steps_foldlM (bindImport_loaded answers.loads) rest middle _ _ _ ran
        obtain ⟨own, others⟩ := List.forall_mem_cons.mp foreign
        rw [ih others middle between ran, List.foldl_cons,
          bindImport_binds answers own (informed.before later) first]
  exact each {} cache ran

/-- The names of the imports of each unit of the package that is woven. -/
theorem loadBindings_bind {source : PackageSource} {units : List (CompilationUnit × Node)}
    {bindings : List Bindings} {memory last : WalkMemory}
    (informed : Informed packages path last.cache)
    (foreign : ∀ file ∈ units, ∀ spec ∈ file.1.imports, spec.path ≠ path)
    (bound : runFrom (units.mapM fun (unit, _) => Resolver.loading (source.bindings unit.imports))
      memory = (.ok bindings, last)) :
    ∀ entry ∈ units.zip bindings,
      entry.2.aliases = entry.1.1.imports.foldl (bindName packages) [] := by
  have each : ∀ file : CompilationUnit × Node,
      Steps WalkMemory.Kept (Resolver.loading (source.bindings file.1.imports)) :=
    fun file => (Resolver.loading_looks (source.bindings_loaded file.1.imports)).quiet
  refine mapM_gives (fun (file : CompilationUnit × Node) (given : Bindings) =>
    given.aliases = file.1.imports.foldl (bindName packages) []) each ?_ bound
  intro file among state given after ran onward
  have asked := (Resolver.loading_ok ran).1
  exact bindImports_binds source.package_answers (foreign file among)
    (informed.before onward.loaded) asked

/-- The names of the imports of each file of another package. -/
theorem buildContexts_bind (answers : Answers package) {files : List (String × Node)}
    {contexts : List TypeContext} {last : PackageCache} (informed : Informed packages path last)
    (foreign : ∀ file ∈ files, ∀ spec ∈ file.2.imports file.1, spec.path ≠ path)
    (bound : runFrom (files.mapM fun (text, root) => do
      let bindings ← bindImports package (root.imports text)
      return (⟨path, bindings.aliases⟩ : TypeContext)) cache = (.ok contexts, last)) :
    ∀ entry ∈ files.zip contexts, entry.2.packagePath = path ∧
      entry.2.aliases = (entry.1.2.imports entry.1.1).foldl (bindName packages) [] := by
  have each : ∀ file : String × Node, Steps Loaded (do
      let bindings ← bindImports package (file.2.imports file.1)
      return (⟨path, bindings.aliases⟩ : TypeContext)) :=
    fun file => steps_bind (bindImports_loaded answers.loads _) fun _ => steps_pure _
  refine mapM_gives (fun (file : String × Node) (given : TypeContext) =>
    given.packagePath = path ∧
      given.aliases = (file.2.imports file.1).foldl (bindName packages) []) each ?_ bound
  intro file among state given after ran onward
  obtain ⟨bindings, between, asked, ran⟩ := runFrom_bind_ok ran
  cases ran
  exact ⟨rfl, bindImports_binds answers (foreign file among) (informed.before onward) asked⟩

end
end PackageSource

/-- How a package comes to be indexed: as the package that is woven, or because one asks for it. -/
inductive Indexing (source : PackageSource) (path : String) :
    List SourceFile → PackageCache → PackageIndex → Prop where
  | target {units : List (CompilationUnit × Node)} {memory start : WalkMemory}
      {entries : List (Resolver × Node)} {resolver : Resolver} {root : Node}
      (ran : runFrom (TargetPackage.resolvers source path units) memory = (.ok entries, start))
      (member : (resolver, root) ∈ entries) :
      Indexing source path (units.map SourceFile.ofUnit) start.cache resolver.index
  | imported {files : List (String × Node)} {cache after : PackageCache} {index : PackageIndex}
      {depth : Nat}
      (ran : runFrom (PackageSource.buildIndex (source.packageWithin (depth + 1)) path files) cache =
        (.ok index, after)) :
      Indexing source path (files.map SourceFile.ofText) after index

/-- A type that a file spells: in its text a declared name is qualified by the package that declares
it just when it is not overlooked. -/
def QualifiedIn (packages : Packages) (own : PackageIndex) (file : SourceFile) (type : GoType) :
    Prop :=
  ∃ (context : TypeContext) (parts : List TypePart), WrittenType file.source file.root parts ∧
    type = ⟨context.spell parts⟩ ∧
    ∀ name written, .named name written ∈ parts → ∀ declaring,
      name.DeclaredBy packages own file.imports declaring →
      (context.nameText name written = name.within declaring ↔
        ¬name.Overlooked packages own file.imports)

section
variable {source : PackageSource} {packages : Packages} {path name : String}
  {files : List SourceFile} {cache : PackageCache} {index : PackageIndex}

/-- An index of files with the names that their imports give. -/
theorem ofFiles_qualifies {entries : List (PackageIndex.File × Node)}
    (each : ∀ entry ∈ entries, ∃ file ∈ files, entry.1.source = file.source ∧
      entry.2 = file.root ∧ entry.1.context.packagePath = path ∧
      entry.1.context.aliases = file.imports.foldl (bindName packages) [])
    (foreign : ∀ file ∈ files, ∀ spec ∈ file.imports, spec.path ≠ path) :
    (PackageIndex.ofFiles path name entries).OfTypes fun type =>
      ∃ file ∈ files, QualifiedIn packages (PackageIndex.ofFiles path name entries) file type := by
  have own := (PackageIndex.ofFiles_declares path name entries).path_eq
  refine (PackageIndex.ofFiles_ofTypes path name entries).imp ?_
  rintro type ⟨entry, member, parts, written, rfl⟩
  obtain ⟨file, among, sameSource, sameRoot, packagePath, aliases⟩ := each entry member
  rw [sameSource, sameRoot] at written
  refine ⟨file, among, entry.1.context, parts, written, rfl, ?_⟩
  intro typeName text _ declaring declared
  refine nameText_within (packagePath.trans own.symm) aliases ?_ declared text
  rw [own]
  exact foreign file among

/-- The types of functions, methods, fields and values in the index of a package are qualified by
the packages that declare them, but for the names that are overlooked. -/
theorem indexing_qualifies (indexing : Indexing source path files cache index)
    (informed : Informed packages path cache)
    (foreign : ∀ file ∈ files, ∀ spec ∈ file.imports, spec.path ≠ path) :
    index.OfTypes fun type => ∃ file ∈ files, QualifiedIn packages index file type := by
  cases indexing with
  | @target units memory start entries resolver root ran member =>
      unfold TargetPackage.resolvers at ran
      obtain ⟨bindings, first, bound, ran⟩ := runFrom_bind_ok ran
      obtain ⟨_, second, changed, ran⟩ := runFrom_bind_ok ran
      cases changed
      cases ran
      obtain ⟨⟨⟨unit, root⟩, context, own⟩, _, same⟩ := List.mem_map.mp member
      cases same
      have given := PackageSource.loadBindings_bind informed.of_set
        (fun file among => foreign _ (List.mem_map_of_mem among)) bound
      refine ofFiles_qualifies ?_ foreign
      intro entry member
      obtain ⟨⟨⟨unit, root⟩, context⟩, zipped, rfl⟩ := List.mem_map.mp member
      rw [List.zip_map_right] at zipped
      obtain ⟨⟨file, own⟩, inZip, same⟩ := List.mem_map.mp zipped
      cases same
      exact ⟨_, List.mem_map_of_mem (List.of_mem_zip inZip).1, rfl, rfl, rfl, given _ inZip⟩
  | @imported entries before after index depth ran =>
      unfold PackageSource.buildIndex at ran
      obtain ⟨contexts, middle, bound, ran⟩ := runFrom_bind_ok ran
      cases ran
      have given := PackageSource.buildContexts_bind (source.packageWithin_answers depth) informed
        (fun file among => foreign _ (List.mem_map_of_mem among)) bound
      refine ofFiles_qualifies ?_ foreign
      intro entry member
      obtain ⟨⟨file, context⟩, inZip, rfl⟩ := List.mem_map.mp member
      obtain ⟨packagePath, aliases⟩ := given _ inZip
      exact ⟨_, List.mem_map_of_mem (List.of_mem_zip inZip).1, rfl, rfl, packagePath, aliases⟩

end

/-- A module with a package whose name is not the one that its path suggests. -/
def renamedTree : FileTree where
  entries := [(["s"], .directory), (["s", "q"], .directory),
    (["s", "q", "q.go"], .file "package r\ntype T int\n".toUTF8)]

def renamedSource : PackageSource := ⟨renamedTree, ⟨⟨"/s"⟩, some "m"⟩⟩

/-- Indexes a package of one unit. -/
def indexAlone (source : PackageSource) (file : CompilationUnit × Node) :
    ResolveM (List (Resolver × Node)) :=
  TargetPackage.resolvers source "m/p" [file]

def readUnit (source : String) : CompilationUnit × Node :=
  (CompilationUnit.parse 0 ⟨"/s/p/p.go"⟩ ⟨"p/p.go"⟩ "m/p" source false).toOption.getD default

def plainUnit : CompilationUnit × Node :=
  readUnit "package p\nimport \"m/q\"\nfunc f(a *r.T, b []error) {}\n"

/-- The name is qualified by the path of its package. -/
theorem indexing_qualifies_plain :
    ∃ cache index, Indexing renamedSource "m/p" [SourceFile.ofUnit plainUnit] cache index ∧
      (index.function? "f").map Declaration.types = some [⟨"*m/q.T"⟩, ⟨"[]error"⟩] ∧
      let packages : Packages := fun path => (cache.known? path).join
      TypeName.DeclaredBy packages index plainUnit.1.imports ⟨some "r", "T"⟩ (some "m/q") ∧
      index.OfTypes fun type => ∃ file ∈ [SourceFile.ofUnit plainUnit],
        QualifiedIn packages index file type := by
  let start : WalkMemory := ⟨{}, {}, []⟩
  have view : ((runFrom (indexAlone renamedSource plainUnit) start).1.toOption.map
      fun entries => entries.map fun entry =>
        (entry.1.index.function? "f").map Declaration.types) =
          some [some [⟨"*m/q.T"⟩, ⟨"[]error"⟩]] ∧
      plainUnit.1.imports = [⟨none, "m/q"⟩] ∧
      (((leaves (indexAlone renamedSource plainUnit) start).cache.known?
        "m/q").join.map PackageIndex.name) = some "r" := by
    decide +kernel
  obtain ⟨view, imports, named⟩ := view
  obtain ⟨entries, ran, types⟩ := runFrom_of_view view
  generalize leaves (indexAlone renamedSource plainUnit) start = last at ran named
  obtain ⟨⟨resolver, root⟩, rest, rfl, types, _⟩ := List.map_eq_cons_iff.mp types
  have indexing : Indexing renamedSource "m/p" [SourceFile.ofUnit plainUnit] last.cache
      resolver.index := .target ran List.mem_cons_self
  have foreign : ∀ file ∈ [SourceFile.ofUnit plainUnit], ∀ spec ∈ file.imports,
      spec.path ≠ "m/p" := by
    refine List.forall_mem_singleton.mpr fun spec member => ?_
    rw [SourceFile.ofUnit_imports, imports] at member
    cases List.mem_singleton.mp member
    decide
  have informed : Informed (fun path => (last.cache.known? path).join) "m/p" last.cache := by
    intro other answer _ known
    dsimp only
    rw [known]
    rfl
  refine ⟨last.cache, resolver.index, indexing, types, ?_,
    indexing_qualifies indexing informed foreign⟩
  rw [imports]
  have binds : Import.Binds (fun path => (last.cache.known? path).join) ⟨none, "m/q"⟩ "r" := by
    refine ⟨rfl, rfl, ?_⟩
    rw [Import.nameIn, named]
    rfl
  exact .imported List.mem_cons_self binds fun other member _ => by
    rw [List.mem_singleton.mp member]

def openUnit : CompilationUnit × Node :=
  readUnit "package p\nimport . \"m/q\"\nfunc f(a *T, b []error) {}\n"

/-- The name of a type of a dot import is qualified as if the package declared it itself. -/
theorem indexing_overlooks_opened :
    ∃ (packages : Packages) (cache : PackageCache) (index : PackageIndex),
      Indexing renamedSource "m/p" [SourceFile.ofUnit openUnit] cache index ∧
      Informed packages "m/p" cache ∧
      (∃ loaded, runFrom (renamedSource.package "m/q") {} = (.ok (packages "m/q"), loaded)) ∧
      TypeName.DeclaredBy packages index openUnit.1.imports ⟨none, "T"⟩ (some "m/q") ∧
      (index.function? "f").map Declaration.types = some [⟨"*m/p.T"⟩, ⟨"[]error"⟩] ∧
      TypeName.within ⟨none, "T"⟩ (some "m/q") = "m/q.T" := by
  let start : WalkMemory := ⟨{}, {}, []⟩
  obtain ⟨view, imports, asked, opened⟩ : ((runFrom (indexAlone renamedSource openUnit)
      start).1.toOption.map fun entries => entries.map fun entry =>
        ((entry.1.index.function? "f").map Declaration.types, entry.1.index.hasType "T")) =
          some [(some [⟨"*m/p.T"⟩, ⟨"[]error"⟩], false)] ∧
      openUnit.1.imports = [⟨some ".", "m/q"⟩] ∧
      (leaves (indexAlone renamedSource openUnit) start).cache.entries.map Prod.fst = ["m/p"] ∧
      ((runFrom (renamedSource.package "m/q") {}).1.toOption.map fun index =>
        index.map fun index => index.hasType "T") = some (some true) := by
    decide +kernel
  obtain ⟨entries, ran, types⟩ := runFrom_of_view view
  generalize leaves (indexAlone renamedSource openUnit) start = last at ran asked
  obtain ⟨⟨resolver, root⟩, rest, rfl, types, _⟩ := List.map_eq_cons_iff.mp types
  obtain ⟨types, undeclared⟩ := Prod.mk.inj types
  obtain ⟨answer, loads, opened⟩ := runFrom_of_view opened
  obtain ⟨other, rfl, declares⟩ := Option.map_eq_some_iff.mp opened
  let packages : Packages := fun path => if path = "m/q" then some other else none
  have informed : Informed packages "m/p" last.cache := by
    intro path answer foreign known
    have among := List.mem_map_of_mem (f := Prod.fst) (Assoc.mem_of_find? known)
    rw [asked] at among
    exact absurd (List.mem_singleton.mp among) foreign
  have opens : Import.Opens packages ⟨some ".", "m/q"⟩ "T" := ⟨rfl, other, rfl, declares⟩
  refine ⟨packages, last.cache, resolver.index, .target ran List.mem_cons_self, informed,
    ⟨_, loads⟩, ?_, types, rfl⟩
  rw [imports]
  exact .opened undeclared List.mem_cons_self opens

end AspectLoom
