import AspectLoom.Proofs.LoadedUnits
import AspectLoom.Proofs.RootSpellings
import AspectLoom.Proofs.WeaveFiles
/-!
Whether the files of a weave lie in the overlay. A file is written below the overlay's root just as its
directory lies below the source root, and nothing keeps a target or an advice package from naming a
directory that does not.
-/
namespace AspectLoom

open Actions
open FileTree (isEntryName)

/-! Where the files of an overlay go -/

namespace Overlay

variable {overlay : Overlay} {tree : FileTree} {dir relative own : Path} {name : String}

theorem relative_ok_iff {file : Path} :
    overlay.relative file = .ok relative ↔ overlay.sourceRoot.relativeTo? file = some relative := by
  rw [Overlay.relative]
  cases overlay.sourceRoot.relativeTo? file with
  | none => simp
  | some seen => simp

theorem counterpart_ok_iff {file : Path} : overlay.counterpart file = .ok own ↔
    ∃ relative, overlay.sourceRoot.relativeTo? file = some relative ∧
      overlay.ofRelative relative = own := by
  rw [counterpart]
  simp only [← relative_ok_iff]
  cases overlay.relative file with
  | error cause => simp [Except.map]
  | ok relative => simp [Except.map]

/-- A source file is the source root itself or lies in a directory below it. -/
theorem relative_file (isName : Path.IsName name)
    (split : overlay.relative (dir.join ⟨name⟩) = .ok relative) :
    relative.components = [] ∧ (∀ own, overlay.counterpart dir ≠ .ok own) ∨
      ∃ seen, overlay.relative dir = .ok seen ∧
        relative.components = seen.components ++ [.name name] := by
  have components := Path.components_relativeTo? (relative_ok_iff.mp split)
  rw [Path.components_join_name isName] at components
  rcases List.eq_nil_or_concat relative.components with none | ⟨front, last, same⟩
  · refine .inl ⟨none, fun own found => ?_⟩
    obtain ⟨seen, below, _⟩ := counterpart_ok_iff.mp found
    rw [none, List.append_nil, Path.components_relativeTo? below] at components
    have longer := congrArg List.length components
    simp only [List.length_append, List.length_singleton] at longer
    omega
  · rw [List.concat_eq_append] at same
    rw [same, ← List.append_assoc] at components
    obtain ⟨whole, ends⟩ := List.append_inj' components rfl
    have starts : overlay.sourceRoot.components <+: dir.components :=
      whole ▸ List.prefix_append _ _
    obtain ⟨seen, below⟩ := Path.relativeTo?_isSome starts
    refine .inr ⟨seen, relative_ok_iff.mpr below, ?_⟩
    rw [Path.components_relativeTo? below] at whole
    rw [same, List.append_cancel_left whole, ends]

theorem isInside_iff_dir (isName : Path.IsName name) :
    tree.IsInside overlay.root (overlay.ofRelative (dir.join ⟨name⟩)) ↔
      tree.leadsTo overlay.root <+: tree.leadsTo (overlay.ofRelative dir) :=
  FileTree.isInside_iff_of_file (FileTree.leadsTo_join_file isName)

/-- A woven file is inside the overlay just as its directory's counterpart is. -/
theorem isInside_iff_counterpart (absolute : overlay.sourceRoot.isAbsolute = true)
    (isName : Path.IsName name) (split : overlay.relative (dir.join ⟨name⟩) = .ok relative) :
    tree.IsInside overlay.root (overlay.ofRelative relative) ↔
      ∃ own, overlay.counterpart dir = .ok own ∧ tree.leadsTo overlay.root <+: tree.leadsTo own := by
  have down := Path.isRelative_relativeTo? absolute (relative_ok_iff.mp split)
  have spelled : tree.leadsTo (overlay.ofRelative relative) =
      relative.components.foldl Component.leads (tree.leadsTo overlay.root) :=
    FileTree.leadsTo_join_foldl down
  rcases relative_file isName split with ⟨none, nowhere⟩ | ⟨seen, below, same⟩
  · rw [FileTree.IsInside, spelled, none]
    refine ⟨fun inside => absurd rfl inside.2, ?_⟩
    rintro ⟨own, found, _⟩
    exact absurd found (nowhere own)
  · rw [relative_ok_iff] at below
    have seenDown := Path.isRelative_relativeTo? absolute below
    rw [same, List.foldl_append, ← FileTree.leadsTo_join_foldl seenDown] at spelled
    rw [FileTree.isInside_iff_of_file spelled]
    constructor
    · exact fun above => ⟨_, counterpart_ok_iff.mpr ⟨seen, below, rfl⟩, above⟩
    · rintro ⟨own, found, above⟩
      obtain ⟨other, again, rfl⟩ := counterpart_ok_iff.mp found
      cases below.symm.trans again
      exact above

end Overlay

/-! Where the files of a weave go -/

theorem WovenUnit.weave_gives {package : TargetPackage} {imports : ProxyImports} {unit : CompilationUnit}
    {points : List JoinPoint} {session after : WeaveSession} {woven : Option WovenUnit}
    (ran : weave package imports unit points session = (.ok woven, after)) :
    points = [] ∧ woven = none ∨ points ≠ [] ∧ ∃ file, woven = some file ∧ file.path = unit.path := by
  rw [weave] at ran
  split at ran
  · rename_i empty
    cases ran
    exact .inl ⟨List.isEmpty_iff.mp empty, rfl⟩
  · rename_i filled
    cases inner : runFrom ((UnitWeaver.mk package unit imports).run points)
        ⟨session, { unit := unit, packageNames := package.packageNames }⟩ with
    | mk result memory =>
        have same := inner
        rw [runFrom] at same
        dsimp only at ran
        rw [same] at ran
        cases result with
        | error cause => cases ran
        | ok file =>
            cases ran
            refine .inr ⟨fun empty => filled (List.isEmpty_iff.mpr empty), file, rfl, ?_⟩
            obtain ⟨text, _, _, inner⟩ := runFrom_bind_ok inner
            obtain ⟨memory, _, _, inner⟩ := runFrom_bind_ok inner
            obtain ⟨pairs, _, _, inner⟩ := runFrom_bind_ok inner
            cases inner
            rfl

namespace Weave

variable {work : Work} {tree : FileTree} {dir : Path}

/-- The name of the advice unit's file, if there is such a unit. -/
def adviceName? (work : Work) : Option String := work.spec.adviceSource.bind Path.fileName?

theorem unitFile_ok {session : WeaveSession} {unit : CompilationUnit}
    {file : Option (Path × String)} (has : unitFile work session unit = .ok file) :
    work.points.ofUnit unit.id = [] ∧ file = none ∨
      ∃ given, file = some given ∧ work.overlay.relative unit.path = .ok given.1 := by
  rw [unitFile] at has
  cases woven : weaving work session unit with
  | mk outcome after =>
      rw [woven] at has
      cases outcome with
      | error cause => cases has
      | ok result =>
          rcases WovenUnit.weave_gives woven with ⟨empty, rfl⟩ | ⟨_, written, rfl, path⟩
          · cases has
            exact .inl ⟨empty, rfl⟩
          · dsimp only at has
            rw [path] at has
            split at has <;> cases has
            rename_i relative split
            exact .inr ⟨_, rfl, split⟩

theorem mem_unitOutput {session : WeaveSession} {units : List CompilationUnit} {file : Path × String}
    (member : file ∈ (unitOutput work session units).files) :
    ∃ unit ∈ units, work.overlay.relative unit.path = .ok file.1 := by
  induction units generalizing session with
  | nil => cases member
  | cons unit units ih =>
      rw [unitOutput, Output.mem_behind] at member
      obtain ⟨given, has, rfl | later⟩ := member
      · obtain ⟨_, none⟩ | ⟨own, same, split⟩ := unitFile_ok has
        · cases none
        · cases same
          exact ⟨unit, List.mem_cons_self, split⟩
      · obtain ⟨other, among, split⟩ := ih later
        exact ⟨other, List.mem_cons_of_mem _ among, split⟩

/-- A unit with join points has its file, unless the weave fails. -/
theorem unitOutput_has {session : WeaveSession} {units : List CompilationUnit} {unit : CompilationUnit}
    (succeeds : (unitOutput work session units).failure = none) (member : unit ∈ units)
    (points : work.points.ofUnit unit.id ≠ []) :
    ∃ file ∈ (unitOutput work session units).files, work.overlay.relative unit.path = .ok file.1 := by
  induction units generalizing session with
  | nil => cases member
  | cons first units ih =>
      rw [unitOutput, Output.failure_behind] at succeeds
      obtain ⟨⟨given, has⟩, succeeds⟩ := succeeds
      simp only [unitOutput, Output.mem_behind]
      rcases List.mem_cons.mp member with rfl | later
      · obtain ⟨empty, _⟩ | ⟨file, rfl, split⟩ := unitFile_ok has
        · exact absurd empty points
        · exact ⟨file, ⟨_, has, .inl rfl⟩, split⟩
      · obtain ⟨file, among, split⟩ := ih succeeds later
        exact ⟨file, ⟨_, has, .inr among⟩, split⟩

theorem adviceFile_ok {file : Option (Path × String)} (has : adviceFile work tree = .ok file) :
    file.map Prod.fst = (adviceName? work).map fun name => work.adviceDir.join ⟨name⟩ := by
  rw [adviceFile] at has
  rw [adviceName?]
  cases given : work.spec.adviceSource with
  | none =>
      rw [given] at has
      cases has
      rfl
  | some source =>
      rw [given] at has
      dsimp only at has
      split at has <;> cases has
      rw [Option.map_map]
      rfl

theorem isName_of_adviceName? {name : String} (found : adviceName? work = some name) :
    Path.IsName name := by
  obtain ⟨source, _, last⟩ := Option.bind_eq_some_iff.mp found
  exact Path.isName_of_fileName? last

/-- A file is that of the advice unit or that of a woven unit. -/
theorem mem_output {file : Path × String} (member : file ∈ (output work tree).files) :
    (∃ name, adviceName? work = some name ∧ file.1 = work.adviceDir.join ⟨name⟩) ∨
      ∃ unit ∈ work.package.wovenUnits, work.overlay.relative unit.path = .ok file.1 := by
  rw [output, Output.mem_behind] at member
  obtain ⟨given, has, rfl | later⟩ := member
  · obtain ⟨name, found, same⟩ := Option.map_eq_some_iff.mp (adviceFile_ok has).symm
    exact .inl ⟨name, found, same.symm⟩
  · exact .inr (mem_unitOutput later)

/-- Whether the directories that a weave writes into are in its overlay, by their spellings. -/
def Bounded (work : Work) (tree : FileTree) (dir : Path) : Prop :=
  ((adviceName? work).isSome →
    tree.leadsTo work.overlay.root <+: tree.leadsTo (work.overlay.ofRelative work.adviceDir)) ∧
  ∃ own, work.overlay.counterpart dir = .ok own ∧
    tree.leadsTo work.overlay.root <+: tree.leadsTo own

/-- A weave with join points has a unit to weave. -/
theorem Prepares.exists_unit {plan : Plan} (prepares : Prepares plan tree work)
    (numbered : TargetPackage.Numbered work.package.units) (some : work.points.isEmpty = false) :
    ∃ unit ∈ work.package.wovenUnits, work.points.ofUnit unit.id ≠ [] := by
  have filled : work.points.entries ≠ [] := by
    rw [JoinPoints.isEmpty] at some
    exact fun empty => by rw [empty] at some; cases some
  obtain ⟨entry, others, split⟩ := List.exists_cons_of_ne_nil filled
  have member : entry ∈ work.points.entries := by simp [split]
  have among := member
  rw [prepares.points] at among
  obtain ⟨reference, referenceMember, site, _⟩ :=
    (JoinPoints.ofPointcuts_selected work.spec.pointcuts.1 work.package).refers entry among
  obtain ⟨use, _, refers⟩ := TargetPackage.mem_references referenceMember
  obtain ⟨same, _, _, found, woven⟩ := TargetPackage.reference_of_use refers
  have number := numbered _ _ found
  refine ⟨reference.unit, List.mem_filter.mpr ⟨List.mem_of_getElem? found, by simp [woven]⟩, ?_⟩
  refine List.ne_nil_of_mem (a := entry.2) (mem_sortBy.mpr (List.mem_filter.mpr ⟨?_, ?_⟩))
  · exact List.mem_map_of_mem member
  · rw [site, same, number, beq_self_eq_true]

/-- What a weave writes that succeeds is its files. -/
theorem finish_written {outcome : WeaveOutcome} {after : FileTree}
    (ran : runFrom (finish work) tree = (.ok outcome, after)) :
    (output work tree).failure = none ∧
      (∀ path ∈ outcome.written, ∃ file ∈ (output work tree).files,
        path = work.overlay.ofRelative file.1) ∧
      ∀ file ∈ (output work tree).files, ∃ path ∈ outcome.written,
        tree.leadsTo path = tree.leadsTo (work.overlay.ofRelative file.1) := by
  obtain ⟨written, middle, report, succeeds, wrote, _, rfl⟩ := finish_ok_iff.mp ran
  obtain ⟨_, among, given⟩ := Overlay.writeAll_ok wrote
  refine ⟨succeeds, fun path member => ?_, fun file member => ?_⟩
  · obtain ⟨relative, sorted, rfl⟩ := List.mem_map.mp member
    obtain none | new := among relative (mem_sortBy.mp sorted)
    · cases none
    · obtain ⟨file, fileMember, rfl⟩ := List.mem_map.mp new
      exact ⟨file, fileMember, rfl⟩
  · obtain ⟨other, among, same⟩ := Written.contains_iff.mp (given file member)
    exact ⟨_, List.mem_map_of_mem (mem_sortBy.mpr among),
      FileTree.leadsTo_join_congr (Path.beq_iff.mp same)⟩

end Weave

/-! What a weave spares -/

namespace Ground

variable {ground : Ground} {overlay : Overlay} {tree : FileTree}

/-- A weave of plain paths keeps to its overlay, whether or not it succeeds. -/
theorem finish_spares {work : Weave.Work} (stands : ground.Stands work.overlay.root tree)
    (plain : ∀ file ∈ (Weave.output work tree).files, file.1.isPlain = true) :
    ground.Spares tree (leaves (Weave.finish work) tree) := by
  rw [leaves, Weave.runFrom_finish]
  have ends := writeAll_ends stands plain {}
  cases wrote : runFrom ((work.overlay.writeAll (Weave.output work tree).files).run {}) tree with
  | mk result middle =>
      cases result with
      | error cause => exact ends.of_error wrote
      | ok result =>
          have spares := ends.of_ok wrote
          dsimp only
          cases (Weave.output work tree).failure with
          | some cause => exact spares
          | none =>
              have links := reconcile_ends (stands.later spares) result.2
                work.plan.config.aspectSuffix
              dsimp only
              rw [Weave.runFrom_link]
              cases linked : runFrom (work.overlay.reconcile result.2
                  work.plan.config.aspectSuffix) middle with
              | mk report after =>
                  cases report with
                  | error cause => exact spares.trans (links.of_error linked)
                  | ok report => exact spares.trans (links.of_ok linked)

end Ground

namespace Weave

variable {work : Work} {tree : FileTree} {dir : Path}

/-- The files of bounded directories are inside the overlay. -/
theorem Bounded.isInside (absolute : work.overlay.sourceRoot.isAbsolute = true)
    (own : ∀ unit ∈ work.package.units, ∃ name, isEntryName name = true ∧ unit.path = dir.join ⟨name⟩)
    (bounded : Bounded work tree dir) {file : Path × String} (member : file ∈ (output work tree).files) :
    tree.IsInside work.overlay.root (work.overlay.ofRelative file.1) := by
  rcases mem_output member with ⟨name, found, same⟩ | ⟨unit, woven, split⟩
  · rw [same, Overlay.isInside_iff_dir (isName_of_adviceName? found)]
    exact bounded.1 (by rw [found]; rfl)
  · obtain ⟨name, isEntry, path⟩ := own unit (List.mem_filter.mp woven).1
    rw [path] at split
    exact (Overlay.isInside_iff_counterpart absolute (Path.isName_of_isEntryName isEntry)
      split).mpr bounded.2

/-- The directories of files that are inside the overlay are bounded. -/
theorem Bounded.of_isInside {plan : Plan} (prepares : Prepares plan tree work)
    (numbered : TargetPackage.Numbered work.package.units) (some : work.points.isEmpty = false)
    (absolute : work.overlay.sourceRoot.isAbsolute = true)
    (own : ∀ unit ∈ work.package.units, ∃ name, isEntryName name = true ∧ unit.path = dir.join ⟨name⟩)
    (succeeds : (output work tree).failure = none)
    (inside : ∀ file ∈ (output work tree).files,
      tree.IsInside work.overlay.root (work.overlay.ofRelative file.1)) :
    Bounded work tree dir := by
  rw [output, Output.failure_behind] at succeeds
  obtain ⟨⟨given, has⟩, succeeds⟩ := succeeds
  constructor
  · intro advised
    obtain ⟨name, found⟩ := Option.isSome_iff_exists.mp advised
    have path := adviceFile_ok has
    rw [found] at path
    obtain ⟨file, rfl, same⟩ := Option.map_eq_some_iff.mp path
    have first := inside file (Output.mem_behind.mpr ⟨_, has, .inl rfl⟩)
    rwa [same, Overlay.isInside_iff_dir (isName_of_adviceName? found)] at first
  · obtain ⟨unit, woven, points⟩ := prepares.exists_unit numbered some
    obtain ⟨file, among, split⟩ := unitOutput_has succeeds woven points
    obtain ⟨name, isEntry, path⟩ := own unit (List.mem_filter.mp woven).1
    rw [path] at split
    exact (Overlay.isInside_iff_counterpart absolute (Path.isName_of_isEntryName isEntry) split).mp
      (inside file (Output.mem_behind.mpr ⟨_, has, .inr among⟩))

/-- Files in plain directories have plain paths. -/
theorem isPlain_of_mem_output
    (own : ∀ unit ∈ work.package.units, ∃ name, isEntryName name = true ∧ unit.path = dir.join ⟨name⟩)
    (adviceDown : (adviceName? work).isSome → work.adviceDir.isPlain = true)
    (unitsDown : ∀ seen, work.overlay.relative dir = .ok seen → seen.isPlain = true)
    {file : Path × String} (member : file ∈ (output work tree).files) : file.1.isPlain = true := by
  rcases mem_output member with ⟨name, found, same⟩ | ⟨unit, woven, split⟩
  · have plain := adviceDown (by rw [found]; rfl)
    rw [Path.isPlain, same, Path.components_join_name (isName_of_adviceName? found), List.all_append,
      Bool.and_eq_true]
    exact ⟨plain, rfl⟩
  · obtain ⟨name, isEntry, path⟩ := own unit (List.mem_filter.mp woven).1
    rw [path] at split
    rcases Overlay.relative_file (Path.isName_of_isEntryName isEntry) split with
      ⟨none, _⟩ | ⟨seen, below, same⟩
    · rw [Path.isPlain, none]
      rfl
    · rw [Path.isPlain, same, List.all_append, Bool.and_eq_true]
      exact ⟨unitsDown seen below, rfl⟩

/-- What a successful weave writes is inside its overlay exactly when the directories that the target and
the advice package name are. Then a failing weave sets out to write nothing outside either, and where both
are spelled with names only, nothing outside changes but that the way to the overlay's root is made. -/
theorem run_inside_iff (config : WeaveConfig) (plan : Plan) (work : Work) (tree : FileTree)
    (sound : tree.Sound) (planned : Weave.plan config = .ok plan)
    (prepared : runFrom (prepare plan) tree = (.ok work, tree))
    (busy : work.points.isEmpty = false) :
    ∃ dir path, TargetPackage.locate ⟨tree, work.package.layout⟩ plan.target = .ok (dir, path) ∧
      (∀ outcome after, runFrom (run config) tree = (.ok outcome, after) →
        ((∀ path ∈ outcome.written, tree.IsInside work.overlay.root path) ↔ Bounded work tree dir)) ∧
      (Bounded work tree dir → ∀ file ∈ (output work tree).files,
        tree.IsInside work.overlay.root (work.overlay.ofRelative file.1)) ∧
      ((∀ place ∈ (Ground.ofRoot tree work.overlay.root).entered, ∀ target,
          tree.entryAt? place ≠ some (.link target)) →
        ((adviceName? work).isSome → work.adviceDir.isPlain = true) →
        (∀ seen, work.overlay.relative dir = .ok seen → seen.isPlain = true) →
        ∀ place, ¬ tree.leadsTo work.overlay.root <+: place →
          (leaves (run config) tree).entryAt? place = tree.entryAt? place ∨
            place ∈ (Ground.ofRoot tree work.overlay.root).entered ∧ tree.entryAt? place = none ∧
              (leaves (run config) tree).entryAt? place = some .directory) := by
  obtain ⟨prepares, _⟩ := prepare_ok_iff.mp prepared
  obtain ⟨canonical, dir, path, located, numbered, own⟩ :=
    TargetPackage.load_units sound prepares.package
  have absolute : work.overlay.sourceRoot.isAbsolute = true := by
    obtain ⟨place, _, _, _, same⟩ := FileTree.canonical_ok canonical
    rw [prepares.overlay, same]
    exact FileTree.isAbsolute_pathOf place
  have begins : runFrom (run config) tree = runFrom (finish work) tree := by
    rw [runFrom_run planned prepared, busy]
    rfl
  refine ⟨dir, path, located, fun outcome after ran => ?_,
    fun bounded file => bounded.isInside absolute own,
    fun noLinks adviceDown unitsDown place off => ?_⟩
  · rw [begins] at ran
    obtain ⟨succeeds, among, given⟩ := finish_written ran
    constructor
    · intro inside
      refine .of_isInside prepares numbered busy absolute own succeeds fun file member => ?_
      obtain ⟨path, written, same⟩ := given file member
      rw [FileTree.IsInside, ← same]
      exact inside path written
    · intro bounded path member
      obtain ⟨file, fileMember, rfl⟩ := among path member
      exact bounded.isInside absolute own fileMember
  · have stands := Ground.ofRoot_stands sound noLinks
    have spares := Ground.finish_spares stands fun file member =>
      isPlain_of_mem_output own adviceDown unitsDown member
    rw [leaves, begins]
    exact spares.outside place off

theorem plan_of_valid {config : WeaveConfig} {target : String} {root file : Path}
    (valid : config.validate = .ok ()) (targeted : config.target = some target)
    (rooted : config.overlayRoot = some root) (aspects : config.aspectFiles = [file]) :
    plan config = .ok ⟨config, target, root, file⟩ := by
  rw [plan, valid, targeted, rooted, aspects]
  rfl

/-- What a weave goes by, when it is seen to be prepared. -/
theorem exists_work_of_view {plan : Plan} {tree : FileTree} {idle : Bool} {advice module : Option _}
    {package : String} {sourceRoot overlayRoot : Path}
    (seen : (runFrom (prepare plan) tree).1.toOption.map (fun work => (work.points.isEmpty,
      work.spec.adviceSource, work.advicePackage, work.package.layout.modulePath,
        work.overlay.sourceRoot, work.overlay.root)) =
      some (idle, advice, package, module, sourceRoot, overlayRoot)) :
    ∃ work, runFrom (prepare plan) tree = (.ok work, tree) ∧ work.points.isEmpty = idle ∧
      work.spec.adviceSource = advice ∧ work.advicePackage = package ∧
        work.package.layout = ⟨sourceRoot, module⟩ ∧ work.overlay = ⟨sourceRoot, overlayRoot⟩ := by
  obtain ⟨work, prepared, same⟩ := runFrom_of_view seen
  obtain ⟨prepares, left⟩ := prepare_ok_iff.mp prepared
  cases same
  have root : work.overlay.sourceRoot = work.package.layout.root := by rw [prepares.overlay]
  refine ⟨work, prepared.trans (by rw [left]), rfl, rfl, rfl, ?_, rfl⟩
  rw [root]

/-- What a weave of the module goes by, and that the module's unit is all that it writes. -/
theorem exists_work_moduleTree :
    plan (moduleConfig "out") = .ok ⟨moduleConfig "out", ".", ⟨"out"⟩, ⟨"spec.yaml"⟩⟩ ∧
      (∃ work, runFrom (prepare ⟨moduleConfig "out", ".", ⟨"out"⟩, ⟨"spec.yaml"⟩⟩) moduleTree =
          (.ok work, moduleTree) ∧
        work.points.isEmpty = false ∧ work.spec.adviceSource = none ∧
        work.advicePackage = "agaspect" ∧ work.package.layout = ⟨⟨"/src"⟩, some "m"⟩ ∧
        work.overlay = ⟨⟨"/src"⟩, ⟨"/out"⟩⟩) ∧
      ∃ outcome, runFrom (run (moduleConfig "out")) moduleTree =
          (.ok outcome, leaves (run (moduleConfig "out")) moduleTree) ∧
        outcome.written = [⟨"/out/main.go"⟩] :=
  ⟨plan_of_valid (ok_of_toOption (by decide +kernel)) rfl rfl rfl,
    exists_work_of_view (by decide +kernel), runFrom_of_view (by decide +kernel)⟩

/-- The module's unit is written below the overlay's root, and its original stays. -/
theorem run_inside_iff_out :
    ∃ outcome after, runFrom (run (moduleConfig "out")) moduleTree = (.ok outcome, after) ∧
      outcome.written = [⟨"/out/main.go"⟩] ∧ moduleTree.IsInside ⟨"/out"⟩ ⟨"/out/main.go"⟩ ∧
      after.entryAt? ["src", "main.go"] = moduleTree.entryAt? ["src", "main.go"] := by
  obtain ⟨planned, ⟨work, prepared, busy, source, _, layout, overlay⟩, outcome, ran, written⟩ :=
    exists_work_moduleTree
  have noAdvice : adviceName? work = none := by
    rw [adviceName?, source]
    rfl
  have found : TargetPackage.locate ⟨moduleTree, ⟨⟨"/src"⟩, some "m"⟩⟩ "." = .ok (⟨"/src"⟩, "m") ∧
      (⟨⟨"/src"⟩, ⟨"/out"⟩⟩ : Overlay).relative ⟨"/src"⟩ = .ok ⟨""⟩ ∧
      (⟨⟨"/src"⟩, ⟨"/out"⟩⟩ : Overlay).counterpart ⟨"/src"⟩ = .ok ⟨"/out/"⟩ := by
    refine ⟨ok_of_toOption ?_, ok_of_toOption ?_, ok_of_toOption ?_⟩ <;> decide +kernel
  obtain ⟨here, relative, inside⟩ := found
  obtain ⟨dir, path, located, exact, _, spares⟩ :=
    run_inside_iff (moduleConfig "out") _ work moduleTree moduleTree_sound planned prepared busy
  rw [layout] at located
  cases here.symm.trans located
  rw [overlay] at exact spares
  refine ⟨outcome, _, ran, written, ?_, ?_⟩
  · refine (exact outcome _ ran).mpr ⟨by simp [noAdvice], ?_⟩ _ (by simp [written])
    rw [overlay]
    exact ⟨⟨"/out/"⟩, inside, by decide +kernel⟩
  · have plain : ∀ seen, (⟨⟨"/src"⟩, ⟨"/out"⟩⟩ : Overlay).relative ⟨"/src"⟩ = .ok seen →
        seen.isPlain = true := by
      intro seen found
      cases relative.symm.trans found
      decide +kernel
    exact (spares (fun place _ => moduleTree_noLink place) (by simp [noAdvice]) plain
      ["src", "main.go"] (by decide +kernel)).resolve_right fun made => absurd made.2.1 (by decide +kernel)

end Weave

/-- The module with a specification that selects its function under every import path. -/
def strayTree : FileTree :=
  moduleTree.put ["spec.yaml"] (.file "aspects:\n  - advice: A\n    pointcut: '.*\\.f'\n".toUTF8)

/-- Settings whose target leads out of the module and back into its directory. -/
def strayConfig : WeaveConfig := { moduleConfig "out" with target := some "m/../src" }

theorem strayTree_sound : strayTree.Sound :=
  moduleTree_sound.put ⟨rfl, by decide⟩ (by decide)

theorem strayTree_noLink (place : Place) (target : String) :
    strayTree.entryAt? place ≠ some (.link target) := by
  rw [strayTree, FileTree.entryAt?_put (List.cons_ne_nil _ _)]
  split
  · exact fun same => nomatch same
  · exact moduleTree_noLink place target

namespace Weave

/-- A target that leads out of the source root has its unit written outside the overlay, here over the
unit itself. -/
theorem run_leaves_overlay :
    strayTree.Sound ∧ (∀ place target, strayTree.entryAt? place ≠ some (.link target)) ∧
      strayConfig.validate = .ok () ∧
      ∃ outcome after, runFrom (run strayConfig) strayTree = (.ok outcome, after) ∧
        outcome.written = [⟨"/out/../src/main.go"⟩] ∧
        ¬ strayTree.IsInside ⟨"/out"⟩ ⟨"/out/../src/main.go"⟩ ∧
        after.entryAt? ["src", "main.go"] ≠ strayTree.entryAt? ["src", "main.go"] := by
  refine ⟨strayTree_sound, strayTree_noLink, ok_of_toOption (by decide +kernel), ?_⟩
  have ran : (runFrom (run strayConfig) strayTree).1.toOption.map WeaveOutcome.written =
        some [⟨"/out/../src/main.go"⟩] ∧
      (leaves (run strayConfig) strayTree).entryAt? ["src", "main.go"] ≠
        strayTree.entryAt? ["src", "main.go"] := by decide +kernel
  obtain ⟨outcome, same, written⟩ := runFrom_of_view ran.1
  refine ⟨outcome, _, same, written, fun inside => ?_, ran.2⟩
  exact absurd inside.1 (by decide +kernel)

end Weave
end AspectLoom
