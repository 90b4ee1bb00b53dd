import AspectLoom.Proofs.WovenRuns
/-!
The imports of a woven unit. What a generated function needs is imported next to the unit's own
imports; whether the names that both bind differ depends on the aliases of the runtime and the
advice.
-/
namespace AspectLoom

open Actions

/-- The import that a line of an import block declares. -/
def NamedImport.spec (named : NamedImport) : Import := ⟨some named.alias, named.path⟩

/-- Whether an alias is a name, and neither `.` nor `_`. -/
def NamedImport.Binds (named : NamedImport) : Prop := named.alias ≠ "." ∧ named.alias ≠ "_"

namespace UnitWeaver

variable {weaver : UnitWeaver} {points : List JoinPoint} {session : WeaveSession}

/-- The scope of a unit before anything is woven. -/
def ownScope (weaver : UnitWeaver) : ImportScope :=
  { unit := weaver.unit, packageNames := weaver.package.packageNames }

/-- The scope once the text of a unit is woven. -/
def lastScope (weaver : UnitWeaver) (points : List JoinPoint) (session : WeaveSession) :
    ImportScope :=
  (leaves (weaver.weaveText 0 weaver.unit.source.utf8ByteSize (JoinPoints.inOrder points))
    ⟨session, weaver.ownScope⟩).scope

/-- The unit's own imports and those that are added to it, as the imports of one unit. -/
def inForce (weaver : UnitWeaver) (scope : ImportScope) : ImportScope :=
  { weaver.ownScope with
    unit := { weaver.unit with
      imports := weaver.unit.imports ++ (weaver.missingImports scope).map NamedImport.spec } }

/-- A later scope of the unit: what was added are new names made from paths. -/
structure Extends (weaver : UnitWeaver) (scope : ImportScope) : Prop where
  sound : scope.Sound
  grows : weaver.ownScope.Grows scope
  invented : scope.Invented

theorem lastScope_extends (weaver : UnitWeaver) (points : List JoinPoint)
    (session : WeaveSession) : weaver.Extends (weaver.lastScope points session) := by
  have start : weaver.Extends weaver.ownScope :=
    ⟨⟨List.forall_mem_nil _, .nil⟩, Std.Refl.refl _, List.forall_mem_nil _⟩
  refine weaveText_preserves (fun scope path extended => ?_) weaver _ _ _ start
  obtain ⟨sound, grows⟩ := scope.qualifier_advances path extended.sound
  exact ⟨sound, extended.grows.trans grows, scope.qualifier_invented path extended.invented⟩

/-- The aliases of a scope as imports. -/
def extras (scope : ImportScope) : List NamedImport :=
  scope.added.map fun entry => ⟨entry.2, entry.1⟩

variable {scope : ImportScope}

theorem hasImport_iff {unit : CompilationUnit} {named : NamedImport} :
    hasImport unit named = true ↔
      ∃ spec, unit.importOf? named.path = some spec ∧ spec.name = some named.alias := by
  simp [hasImport, Option.any_eq_true]

theorem binds_extra (extended : weaver.Extends scope) {named : NamedImport}
    (member : named ∈ extras scope) : named.Binds := by
  obtain ⟨entry, added, rfl⟩ := List.mem_map.mp member
  obtain ⟨digits, spelled⟩ := extended.invented entry added
  simp only [NamedImport.Binds, spelled, ne_eq, ← String.toList_inj]
  simp

/-- An alias that is added is a new name. -/
theorem fresh_extra (extended : weaver.Extends scope) {named : NamedImport}
    (member : named ∈ extras scope) : named.alias ∉ weaver.ownScope.ownNames := by
  obtain ⟨entry, added, rfl⟩ := List.mem_map.mp member
  intro own
  obtain ⟨spec, among, called⟩ := List.mem_map.mp own
  rw [List.mem_filter, Bool.and_eq_true, Bool.not_eq_true', Bool.not_eq_true'] at among
  obtain ⟨among, usable, _⟩ := among
  -- an invented alias was chosen among the names that no import of the unit binds
  have taken : scope.isLocalName (scope.localName spec) = true := by
    rw [← extended.grows.unit] at among
    exact ImportScope.isLocalName_of_usable among usable
  rw [extended.grows.localName, called, extended.sound.fresh entry added] at taken
  cases taken

theorem mem_ownNames_of_hasImport {named : NamedImport} (binds : named.Binds)
    (has : hasImport weaver.unit named = true) : named.alias ∈ weaver.ownScope.ownNames := by
  obtain ⟨noDot, _⟩ := binds
  obtain ⟨spec, found, called⟩ := hasImport_iff.mp has
  obtain ⟨among, _, usable⟩ := ImportScope.importOf?_eq_some found
  refine List.mem_map.mpr ⟨spec, List.mem_filter.mpr ⟨among, ?_⟩, ?_⟩
  · simp [usable, Import.isDot, called, noDot]
  · simp [ImportScope.localName, Import.localName, called]

theorem hasImport_extra (extended : weaver.Extends scope) {named : NamedImport}
    (member : named ∈ extras scope) : hasImport weaver.unit named = false := by
  rw [← Bool.not_eq_true]
  intro has
  exact fresh_extra extended member
    (mem_ownNames_of_hasImport (binds_extra extended member) has)

/-- The imports of the runtime and of the advice that a unit lacks. -/
def lacking (weaver : UnitWeaver) : List NamedImport :=
  [weaver.imports.runtime, weaver.imports.advice].filter fun named =>
    !hasImport weaver.unit named

theorem mem_lacking {named : NamedImport} :
    named ∈ weaver.lacking ↔ named ∈ [weaver.imports.runtime, weaver.imports.advice] ∧
      hasImport weaver.unit named = false := by
  rw [lacking, List.mem_filter, Bool.not_eq_true']

theorem missingImports_eq (extended : weaver.Extends scope) :
    weaver.missingImports scope = weaver.lacking ++ extras scope := by
  have kept : (extras scope).filter (fun named => !hasImport weaver.unit named) = extras scope := by
    refine List.filter_eq_self.mpr fun named member => ?_
    rw [hasImport_extra extended member, Bool.not_false]
  have all : weaver.missingImports scope =
      ([weaver.imports.runtime, weaver.imports.advice] ++ extras scope).filter
        fun named => !hasImport weaver.unit named := by
    rw [missingImports, ImportScope.extraImports, List.map_map]
    rfl
  rw [all, List.filter_append, kept]
  rfl

theorem inForce_ownNames (binds : ∀ named ∈ weaver.missingImports scope, named.Binds) :
    (weaver.inForce scope).ownNames =
      weaver.ownScope.ownNames ++ (weaver.missingImports scope).map NamedImport.alias := by
  have usable : ((weaver.missingImports scope).map NamedImport.spec).filter
      (fun spec => !spec.isBlank && !spec.isDot) =
        (weaver.missingImports scope).map NamedImport.spec := by
    refine List.filter_eq_self.mpr fun spec member => ?_
    obtain ⟨named, among, rfl⟩ := List.mem_map.mp member
    obtain ⟨noDot, noBlank⟩ := binds named among
    simp [NamedImport.spec, Import.isBlank, Import.isDot, noDot, noBlank]
  rw [ImportScope.ownNames, inForce, List.filter_append, usable, List.map_append, List.map_map]
  rfl

/-- A package that the unit imports under an alias, or is made to import, is what the alias denotes
if the names differ. -/
theorem inForce_denotes (distinct : (weaver.inForce scope).ownNames.Nodup) {named : NamedImport}
    (binds : named.Binds)
    (has : hasImport weaver.unit named = true ∨ named ∈ weaver.missingImports scope) :
    (weaver.inForce scope).Denotes named.alias named.path := by
  obtain ⟨noDot, noBlank⟩ := binds
  obtain ⟨spec, member, called, path⟩ : ∃ spec ∈ (weaver.inForce scope).unit.imports,
      spec.name = some named.alias ∧ spec.path = named.path := by
    rcases has with has | missing
    · obtain ⟨spec, found, called⟩ := hasImport_iff.mp has
      obtain ⟨among, path, _⟩ := ImportScope.importOf?_eq_some found
      exact ⟨spec, List.mem_append_left _ among, called, path⟩
    · exact ⟨named.spec, List.mem_append_right _ (List.mem_map_of_mem missing), rfl, rfl⟩
  have localName : (weaver.inForce scope).localName spec = named.alias := by
    simp [ImportScope.localName, Import.localName, called]
  rw [← localName, ← path]
  exact ImportScope.denotes_import ⟨List.forall_mem_nil _, .nil⟩ distinct member
    (by simp [Import.isBlank, called, noBlank]) (by simp [Import.isDot, called, noDot])

/-- The names differ unless one of the two aliases is a name in the unit already. -/
theorem ownNames_nodup_iff (extended : weaver.Extends scope)
    (binds : ∀ named ∈ weaver.missingImports scope, named.Binds)
    (distinct : weaver.ownScope.ownNames.Nodup)
    (apart : weaver.imports.runtime.alias ≠ weaver.imports.advice.alias) :
    (weaver.inForce scope).ownNames.Nodup ↔
      ∀ named ∈ weaver.lacking, named.alias ∉ weaver.ownScope.ownNames ∧
        named.alias ∉ scope.extraImports.map Prod.fst := by
  have extraNames : (extras scope).map NamedImport.alias = scope.extraImports.map Prod.fst := by
    rw [extras, ImportScope.extraImports, List.map_map, List.map_map]
    rfl
  rw [inForce_ownNames binds, missingImports_eq extended, List.map_append, extraNames,
    List.nodup_append, List.nodup_append]
  constructor
  · rintro ⟨_, ⟨_, _, extrasApart⟩, ownApart⟩ named member
    have among := List.mem_map_of_mem (f := NamedImport.alias) member
    refine ⟨fun own => ?_, fun extra => ?_⟩
    · exact ownApart _ own _ (List.mem_append_left _ among) rfl
    · exact extrasApart _ among _ extra rfl
  · intro free
    -- aliases of extras are new and differ by themselves, so the two supports decide
    refine ⟨distinct, ⟨?_, ?_, ?_⟩, ?_⟩
    · have both : ([weaver.imports.runtime, weaver.imports.advice].map NamedImport.alias).Nodup := by
        simpa using apart
      exact (List.filter_sublist.map NamedImport.alias).nodup both
    · have names : scope.extraImports.map Prod.fst = scope.added.map Prod.snd := by
        rw [ImportScope.extraImports, List.map_map]
        rfl
      rw [names]
      exact extended.sound.apart
    · rintro _ member _ extra rfl
      obtain ⟨named, among, rfl⟩ := List.mem_map.mp member
      exact (free named among).2 extra
    · rintro name own _ member rfl
      rcases List.mem_append.mp member with lacks | extra
      · obtain ⟨named, among, rfl⟩ := List.mem_map.mp lacks
        exact (free named among).1 own
      · rw [← extraNames] at extra
        obtain ⟨named, among, rfl⟩ := List.mem_map.mp extra
        exact fresh_extra extended among own

end UnitWeaver

namespace WovenUnit

/-- The imports of a woven unit, its own and those in the block behind the package clause, bind
names that differ, and the aliases of the runtime, the advice and the packages of generated types
denote their packages, just where the unit has the imports of the runtime and the advice already,
or their aliases are new names. -/
theorem weave_binds_iff {package : TargetPackage} {imports : ProxyImports}
    {unit : CompilationUnit} {points : List JoinPoint} {session after : WeaveSession}
    {woven : WovenUnit} (apart : imports.runtime.alias ≠ imports.advice.alias)
    (binds : ∀ named ∈ [imports.runtime, imports.advice], named.Binds)
    (distinct : (UnitWeaver.mk package unit imports).ownScope.ownNames.Nodup)
    (ran : weave package imports unit points session = (.ok (some woven), after)) :
    let weaver : UnitWeaver := ⟨package, unit, imports⟩
    let scope := weaver.lastScope points session
    let inForce := weaver.inForce scope
    (∃ text, woven.body =
      weaver.insertImports (UnitWeaver.importBlock (weaver.missingImports scope)) text) ∧
    ((inForce.ownNames.Nodup ∧
        (∀ named ∈ [imports.runtime, imports.advice], inForce.Denotes named.alias named.path) ∧
        ∀ extra ∈ scope.extraImports, inForce.Denotes extra.1 extra.2) ↔
      ∀ named ∈ [imports.runtime, imports.advice],
        UnitWeaver.hasImport unit named = true ∨
          named.alias ∉ weaver.ownScope.ownNames ∧
            named.alias ∉ scope.extraImports.map Prod.fst) := by
  intro weaver scope inForce
  obtain ⟨final, unitRan, _⟩ := weave_ok ran
  obtain ⟨text, middle, textRan, body, _⟩ := UnitWeaver.run_ok unitRan
  have last : middle.scope = scope := congrArg (fun ran => ran.2.scope) textRan.symm
  have extended : weaver.Extends scope := weaver.lastScope_extends points session
  have missingBind : ∀ named ∈ weaver.missingImports scope, named.Binds := by
    intro named member
    rw [UnitWeaver.missingImports_eq extended] at member
    rcases List.mem_append.mp member with lacks | extra
    · exact binds named (UnitWeaver.mem_lacking.mp lacks).1
    · exact UnitWeaver.binds_extra extended extra
  have nodup := UnitWeaver.ownNames_nodup_iff extended missingBind distinct apart
  refine ⟨⟨text, last ▸ body⟩, ?_⟩
  constructor
  · rintro ⟨differ, _⟩ named member
    by_cases has : UnitWeaver.hasImport unit named = true
    · exact .inl has
    · exact .inr (nodup.mp differ named (UnitWeaver.mem_lacking.mpr ⟨member, by simpa using has⟩))
  · intro free
    have differ : inForce.ownNames.Nodup := by
      refine nodup.mpr fun named lacks => ?_
      obtain ⟨member, lacks⟩ := UnitWeaver.mem_lacking.mp lacks
      exact (free named member).resolve_left (Bool.not_eq_true _ ▸ lacks)
    refine ⟨differ, fun named member => ?_, fun extra member => ?_⟩
    · refine UnitWeaver.inForce_denotes differ (binds named member) ?_
      by_cases has : UnitWeaver.hasImport unit named = true
      · exact .inl has
      · rw [UnitWeaver.missingImports_eq extended]
        exact .inr (List.mem_append_left _
          (UnitWeaver.mem_lacking.mpr ⟨member, by simpa using has⟩))
    · have among : (⟨extra.1, extra.2⟩ : NamedImport) ∈ weaver.missingImports scope := by
        rw [UnitWeaver.missingImports_eq extended]
        refine List.mem_append_right _ ?_
        obtain ⟨entry, added, rfl⟩ := List.mem_map.mp member
        exact List.mem_map.mpr ⟨entry, added, rfl⟩
      exact UnitWeaver.inForce_denotes differ (missingBind _ among) (.inr among)

/-! Units that import the advice themselves -/

def adviceImports : ProxyImports where
  advice := ⟨"agaspect", "example.com/app/agaspect"⟩

/-- A unit that imports the package of the advice, with or without a name. -/
def adviceUser (name : Option String) (source : String) : CompilationUnit :=
  { nestedUnit with
    packageName := "main", packagePath := "example.com/app", source := source,
    imports := [⟨name, "example.com/app/agaspect"⟩], packageClause := ⟨0, 12⟩ }

def namingUser : CompilationUnit :=
  adviceUser (some "agaspect")
    "package main\n\nimport agaspect \"example.com/app/agaspect\"\n\nvar _ = f\n"

def plainUser : CompilationUnit :=
  adviceUser none "package main\n\nimport \"example.com/app/agaspect\"\n\nvar _ = f\n"

def userPackage : TargetPackage where
  layout := ⟨⟨"/s"⟩, "example.com/app"⟩
  path := "example.com/app"
  units := [namingUser, plainUser]
  symbols :=
    .ofDeclarations [⟨"example.com/app", "f", none, ⟨[⟨none, ⟨"io.Reader"⟩⟩], [], false⟩⟩]
  packageNames := [("example.com/app/agaspect", "agaspect")]

def userPoints (start : Nat) : List JoinPoint :=
  [⟨⟨⟨0, ⟨start, start + 1⟩⟩, 5, 9, .ident "f"⟩, 0, 0, "A"⟩]

def userSession : WeaveSession := ⟨⟨.sequential, 0, []⟩, []⟩

def namingBody : String :=
  "package main\n\n" ++
    "import (\n\taspectrt \"golang.org/x/exp/aspectgo/aspect/rt\"\n\t_ag_io \"io\"\n)\n\n" ++
    "import agaspect \"example.com/app/agaspect\"\n\nvar _ = (_ag_pgen_ag_proxy_0())\n"

theorem namingUser_woven : ∃ woven after,
    weave userPackage adviceImports namingUser (userPoints 66) userSession =
      (.ok (some woven), after) ∧ woven.body = namingBody :=
  weave_of_view (by decide +kernel)

/-- An import under the alias itself is kept, and only the others are added. -/
theorem weave_binds_iff_naming :
    let weaver : UnitWeaver := ⟨userPackage, namingUser, adviceImports⟩
    let inForce := weaver.inForce (weaver.lastScope (userPoints 66) userSession)
    (∃ woven after,
      weave userPackage adviceImports namingUser (userPoints 66) userSession =
        (.ok (some woven), after) ∧ woven.body = namingBody) ∧
      inForce.ownNames = ["agaspect", "aspectrt", "_ag_io"] ∧
      inForce.Denotes "agaspect" "example.com/app/agaspect" ∧ inForce.Denotes "_ag_io" "io" := by
  intro weaver inForce
  obtain ⟨woven, after, ran, body⟩ := namingUser_woven
  have binds : ∀ named ∈ [adviceImports.runtime, adviceImports.advice], named.Binds := by
    intro named member
    rcases List.mem_pair.mp member with rfl | rfl
    · exact ⟨by decide, by decide⟩
    · exact ⟨by decide, by decide⟩
  have all := (weave_binds_iff (by decide) binds (by decide +kernel) ran).2.mpr <| by
    intro named member
    rcases List.mem_pair.mp member with rfl | rfl
    · exact .inr ⟨by decide +kernel, by decide +kernel⟩
    · exact .inl (by decide +kernel)
  obtain ⟨_, supports, extras⟩ := all
  refine ⟨⟨woven, after, ran, body⟩, by decide +kernel, ?_, ?_⟩
  · exact supports _ (List.mem_cons_of_mem _ List.mem_cons_self)
  · exact extras ("_ag_io", "io") (by decide +kernel)

/-- An import without an alias is overlooked: its name is bound twice. -/
theorem weave_binds_twice :
    let weaver : UnitWeaver := ⟨userPackage, plainUser, adviceImports⟩
    weaver.ownScope.ownNames = ["agaspect"] ∧
    (∃ woven after,
      weave userPackage adviceImports plainUser (userPoints 57) userSession =
        (.ok (some woven), after) ∧
      woven.body = "package main\n\n" ++
        "import (\n\taspectrt \"golang.org/x/exp/aspectgo/aspect/rt\"\n" ++
        "\tagaspect \"example.com/app/agaspect\"\n\t_ag_io \"io\"\n)\n\n" ++
        "import \"example.com/app/agaspect\"\n\nvar _ = (_ag_pgen_ag_proxy_0())\n") ∧
    (weaver.inForce (weaver.lastScope (userPoints 57) userSession)).ownNames =
      ["agaspect", "aspectrt", "agaspect", "_ag_io"] ∧
    ¬ (weaver.inForce (weaver.lastScope (userPoints 57) userSession)).ownNames.Nodup := by
  intro weaver
  refine ⟨by decide +kernel, ?_, by decide +kernel, by decide +kernel⟩
  exact weave_of_view (by decide +kernel)

end WovenUnit
end AspectLoom
