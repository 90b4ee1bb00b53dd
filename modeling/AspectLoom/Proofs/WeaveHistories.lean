import AspectLoom.Proofs.OverlayViews
import AspectLoom.Proofs.WeaveAgain
/-!
Weaves one after the other into one overlay. Each finds what the weaves before it have left and leaves it
where it writes nothing itself. So the last one gives what it would give alone, but for the paths that
an earlier one has written and for those around them.
-/
namespace AspectLoom

open Actions
open FileTree (isEntryName)

/-- A weave that has ended, with the suffix of its aspect units. -/
structure EndedWeave where
  suffix : String
  outcome : WeaveOutcome

namespace EndedWeave

/-- Whether a weave has written a path of the overlay, or one above or below it. -/
def Touches (weave : EndedWeave) (path : Path) : Prop :=
  ∃ file ∈ weave.outcome.written, file.isAbove path = true ∨ path.isAbove file = true

/-- Whether a weave has walked a directory of the overlay: it had join points, and it has written something
below the directory, or that is the root. -/
def Walks (weave : EndedWeave) (overlay : Overlay) (dir : List String) : Prop :=
  weave.outcome.joinPoints ≠ 0 ∧ (dir = [] ∨ ∃ file ∈ weave.outcome.written,
    (overlay.ofRelative (Path.ofNames dir)).isAbove file = true ∧
      (file == overlay.ofRelative (Path.ofNames dir)) = false)

end EndedWeave

/-! What is written -/

namespace Overlay

variable {overlay : Overlay} {tree other after last : FileTree} {written : Written}
  {path : Path} {names : List String}

section
variable (plain : path.isPlain = true) (areNames : Path.AreNames names)
include plain areNames

theorem ofRelative_isAbove_names :
    (overlay.ofRelative path).isAbove (overlay.ofRelative (Path.ofNames names)) = true ↔
      path.names <+: names := by
  rw [Path.isAbove, List.isPrefixOf_iff_prefix, Ground.components_ofRelative areNames, ofRelative,
    Path.components_join_plain plain, List.prefix_append_right_inj,
    List.prefix_map_iff_of_injective fun _ _ => Component.name.inj]

theorem names_isAbove_ofRelative :
    (overlay.ofRelative (Path.ofNames names)).isAbove (overlay.ofRelative path) = true ↔
      names <+: path.names := by
  rw [Path.isAbove, List.isPrefixOf_iff_prefix, Ground.components_ofRelative areNames, ofRelative,
    Path.components_join_plain plain, List.prefix_append_right_inj,
    List.prefix_map_iff_of_injective fun _ _ => Component.name.inj]

theorem ofRelative_beq_names :
    (overlay.ofRelative path == overlay.ofRelative (Path.ofNames names)) = true ↔
      path.names = names := by
  rw [Path.beq_iff, Ground.components_ofRelative areNames, ofRelative, Path.components_join_plain plain,
    List.append_right_inj]
  exact (List.map_injective_iff.mpr fun _ _ => Component.name.inj).eq_iff

end

/-- Whether a weave tells what a run over the overlay has gone by. -/
structure Reports (overlay : Overlay) (pass : Pass) (weave : EndedWeave) : Prop where
  suffix : weave.suffix = pass.suffix
  busy : weave.outcome.joinPoints ≠ 0
  written : weave.outcome.written = pass.written.sorted.map overlay.ofRelative

section
variable {pass : Pass} {weave : EndedWeave} (reports : overlay.Reports pass weave)
  (plain : pass.written.ArePlain)
include reports

theorem Reports.exists_written_iff {holds : Path → Prop} :
    (∃ file ∈ weave.outcome.written, holds file) ↔
      ∃ path ∈ pass.written.paths, holds (overlay.ofRelative path) := by
  simp only [reports.written, List.mem_map, exists_exists_and_eq_and]
  exact exists_congr fun path => and_congr_left' mem_sortBy

include plain

theorem Reports.touches_iff (areNames : Path.AreNames names) :
    weave.Touches (overlay.ofRelative (Path.ofNames names)) ↔ pass.written.Touches names := by
  rw [EndedWeave.Touches, reports.exists_written_iff]
  refine exists_congr fun path => and_congr_right fun member => ?_
  rw [ofRelative_isAbove_names (plain path member) areNames,
    names_isAbove_ofRelative (plain path member) areNames]

theorem Reports.walks_iff (entries : ∀ name ∈ names, isEntryName name = true) :
    weave.Walks overlay names ↔ Ground.Walked pass.written names := by
  have areNames := Ground.areNames_of_entries entries
  rw [EndedWeave.Walks, and_iff_right reports.busy, Ground.Walked, and_iff_right entries,
    Written.reaches_ofNames_iff plain areNames, reports.exists_written_iff]
  refine or_congr_right <| exists_congr fun path => and_congr_right fun member => ?_
  rw [names_isAbove_ofRelative (plain path member) areNames, ← Bool.not_eq_true,
    ofRelative_beq_names (plain path member) areNames]

end

/-- Whether weaves tell what the runs over an overlay have gone by, all but those without join points. -/
structure Accounts (overlay : Overlay) (passes : List Pass) (weaves : List EndedWeave) : Prop where
  known : ∀ pass ∈ passes, ∃ weave ∈ weaves, overlay.Reports pass weave
  reported : ∀ weave ∈ weaves, weave.outcome.joinPoints = 0 ∧ weave.outcome.written = [] ∨
    ∃ pass ∈ passes, overlay.Reports pass weave

/-- What holds of a weave for what it has gone by holds of some weave just where it holds of a run. -/
theorem Accounts.exists_iff {passes : List Pass} {weaves : List EndedWeave}
    (accounts : overlay.Accounts passes weaves) {told : EndedWeave → Prop} {holds : Pass → Prop}
    (same : ∀ pass ∈ passes, ∀ weave, overlay.Reports pass weave → (told weave ↔ holds pass))
    (some : ∀ weave, told weave → weave.outcome.joinPoints = 0 → weave.outcome.written ≠ []) :
    (∃ weave ∈ weaves, told weave) ↔ ∃ pass ∈ passes, holds pass := by
  constructor
  · rintro ⟨weave, member, tells⟩
    obtain ⟨pass, among, reports⟩ := (accounts.reported weave member).resolve_left
      fun idle => some weave tells idle.1 idle.2
    exact ⟨pass, among, (same pass among weave reports).mp tells⟩
  · rintro ⟨pass, among, held⟩
    obtain ⟨weave, member, reports⟩ := accounts.known pass among
    exact ⟨weave, member, (same pass among weave reports).mpr held⟩

theorem Accounts.cons {passes : List Pass} {weaves : List EndedWeave} {pass : Pass} {weave : EndedWeave}
    (accounts : overlay.Accounts passes weaves) (reports : overlay.Reports pass weave) :
    overlay.Accounts (pass :: passes) (weave :: weaves) where
  known := List.forall_mem_cons.mpr ⟨⟨weave, List.mem_cons_self, reports⟩, fun other member =>
    (accounts.known other member).imp fun _ => And.imp_left (List.mem_cons_of_mem _)⟩
  reported := List.forall_mem_cons.mpr ⟨.inr ⟨pass, List.mem_cons_self, reports⟩, fun other member =>
    (accounts.reported other member).imp_right
      (Exists.imp fun _ => And.imp_left (List.mem_cons_of_mem _))⟩

/-- Which paths are written depends on the path and on what is written already. -/
theorem write_same {relative : Path} {text : String} {result again : Option Path × Written}
    (wrote : runFrom ((overlay.write relative text).run written) tree = (.ok result, after))
    (wroteAgain : runFrom ((overlay.write relative text).run written) other = (.ok again, last)) :
    again.2 = result.2 := by
  rw [Ground.run_write] at wrote wroteAgain
  split at wrote
  · rename_i known
    rw [if_pos known] at wroteAgain
    cases wrote
    cases wroteAgain
    rfl
  · rename_i new
    rw [if_neg new] at wroteAgain
    obtain ⟨_, _, _, wrote⟩ := runFrom_bind_ok wrote
    obtain ⟨_, _, _, wrote⟩ := runFrom_bind_ok wrote
    obtain ⟨_, _, _, wroteAgain⟩ := runFrom_bind_ok wroteAgain
    obtain ⟨_, _, _, wroteAgain⟩ := runFrom_bind_ok wroteAgain
    cases wrote
    cases wroteAgain
    rfl

/-- The paths that are written depend on the files alone. -/
theorem writeAll_same {files : List (Path × String)} {result again : Unit × Written}
    (ran : runFrom ((overlay.writeAll files).run written) tree = (.ok result, after))
    (ranAgain : runFrom ((overlay.writeAll files).run written) other = (.ok again, last)) :
    again = result := by
  induction files generalizing written tree other with
  | nil =>
      cases ran
      cases ranAgain
      rfl
  | cons file files ih =>
      obtain ⟨relative, text⟩ := file
      rw [run_writeAll_cons] at ran ranAgain
      obtain ⟨first, _, wrote, ran⟩ := runFrom_bind_ok ran
      obtain ⟨second, _, wroteAgain, ranAgain⟩ := runFrom_bind_ok ranAgain
      rw [write_same wrote wroteAgain] at ranAgain
      exact ih ran ranAgain

end Overlay

/-! Histories -/

namespace Weave

variable {overlay : Overlay} {start tree after : FileTree} {weaves earlier : List EndedWeave}
  {outcome : WeaveOutcome} {config : WeaveConfig} {plan : Plan} {work : Work}

/-- Whether a weave goes into an overlay, with a target and a package of the advice below its roots. -/
structure Into (overlay : Overlay) (work : Work) : Prop where
  overlay : work.overlay = overlay
  below : TargetPackage.IsBelow work.package.layout work.plan.target
  isName : Path.IsName work.advicePackage

theorem Into.reports {written : Written} (into : Into overlay work) (busy : work.points.isEmpty = false)
    (ended : outcome = concluded work written outcome.report) :
    overlay.Reports ⟨work.plan.config.aspectSuffix, written⟩
      ⟨work.plan.config.aspectSuffix, outcome⟩ where
  suffix := rfl
  busy := by
    rw [ended]
    exact fun none => absurd (List.isEmpty_iff.mpr (List.length_eq_zero_iff.mp none)) (by
      rw [← JoinPoints.isEmpty, busy]
      decide)
  written := by
    rw [ended, concluded, into.overlay]

/-- Weaves into one overlay that have succeeded one after the other, the last one first. -/
inductive History (overlay : Overlay) (start : FileTree) : List EndedWeave → FileTree → Prop where
  | start : History overlay start [] start
  | weave {config : WeaveConfig} {plan : Plan} {work : Work} {weaves : List EndedWeave}
      {outcome : WeaveOutcome} {tree after : FileTree} (history : History overlay start weaves tree)
      (planned : Weave.plan config = .ok plan) (prepared : runFrom (prepare plan) tree = (.ok work, tree))
      (into : Into overlay work) (ran : runFrom (run config) tree = (.ok outcome, after)) :
      History overlay start (⟨plan.config.aspectSuffix, outcome⟩ :: weaves) after

end Weave

namespace Ground

open Weave (Work Into History output finish)

variable {ground : Ground} {overlay : Overlay} {start tree after : FileTree}
  {passes : List Overlay.Pass} {weaves : List EndedWeave} {outcome : WeaveOutcome} {work : Work}
  (sound : start.Sound) (level : ground.Level) (stands : ground.Stands overlay.root start)
  (secludes : ground.Secludes overlay.sourceRoot start)
  (unlike : ∀ names, Path.AreNames names →
    overlay.root.components ≠ overlay.sourceRoot.components ++ names.map .name)
include sound level stands secludes unlike

/-- The work of a weave over an overlay that weaves have left. -/
theorem Laid.finish (laid : ground.Laid overlay start passes tree) (into : Into overlay work)
    (plain : ∀ file ∈ (output work tree).files, file.1.isPlain = true)
    (ran : runFrom (finish work) tree = (.ok outcome, after)) :
    ∃ written middle, runFrom ((overlay.writeAll (output work tree).files).run {}) tree =
        (.ok ((), written), middle) ∧
      outcome = Weave.concluded work written outcome.report ∧
        ground.Laid overlay start (⟨work.plan.config.aspectSuffix, written⟩ :: passes) after ∧
          ∀ path ∈ written.paths, ∃ text,
            (output work tree).files.find? (fun file => file.1 == path) = some (path, text) ∧
              after.entryAt? (ground.place ++ path.names) = some (.file text.toUTF8) := by
  obtain ⟨written, middle, report, _, wrote, reconciled, rfl⟩ := Weave.finish_ok_iff.mp ran
  rw [into.overlay] at wrote reconciled
  have stood := stands.later laid.bears.spares
  have holds := writeAll_holds stood (Holds.empty tree) plain wrote
  have later := stood.later holds.spares
  obtain ⟨names, log, listed, handles, _⟩ := reconcile_handles later reconciled
  have keeps := handles_keeps handles (.top later listed)
  refine ⟨written, middle, wrote, rfl,
    laid.run sound level stands secludes unlike plain wrote reconciled, fun path member => ?_⟩
  obtain ⟨text, first, file⟩ := holds.first path member
  exact ⟨text, first, keeps.files _ _ file⟩

/-- What a history of weaves has left. -/
theorem laid_of_history (vacant : ∀ names, names ≠ [] → start.entryAt? (ground.place ++ names) = none)
    (history : History overlay start weaves tree) :
    ∃ passes, ground.Laid overlay start passes tree ∧ overlay.Accounts passes weaves := by
  induction history with
  | start => exact ⟨[], .vacant vacant, List.forall_mem_nil _, List.forall_mem_nil _⟩
  | @weave config plan work weaves outcome tree after _ planned prepared into ran ih =>
      obtain ⟨passes, laid, accounts⟩ := ih
      obtain ⟨prepares, _⟩ := Weave.prepare_ok_iff.mp prepared
      have plain := Weave.isPlain_of_prepares (laid.bears.spares.sound sound) prepares
        (prepares.planned ▸ into.below) into.isName
      rw [Weave.runFrom_run planned prepared] at ran
      cases idle : work.points.isEmpty with
      | true =>
          rw [idle] at ran
          cases ran
          refine ⟨passes, laid, fun pass member => ?_, List.forall_mem_cons.mpr
            ⟨.inl ⟨rfl, rfl⟩, accounts.reported⟩⟩
          exact (accounts.known pass member).imp fun _ => And.imp_left (List.mem_cons_of_mem _)
      | false =>
          rw [idle] at ran
          obtain ⟨written, _, _, ended, laid, _⟩ :=
            laid.finish sound level stands secludes unlike into plain ran
          rw [← prepares.planned]
          exact ⟨_, laid, accounts.cons (into.reports idle ended)⟩

end Ground

namespace Weave

/-- Whether a path of the source is left out by weaves into an overlay: one of them has walked its directory,
and each of these takes it for an aspect unit. -/
def LeftOut (overlay : Overlay) (start : FileTree) (weaves : List EndedWeave) (names : List String) :
    Prop :=
  (∃ weave ∈ weaves, weave.Walks overlay names.dropLast) ∧
    ∀ weave ∈ weaves, weave.Walks overlay names.dropLast → overlay.TakesAsUnit weave.suffix start names

/-- Whether earlier weaves have left something else for a path of the source than the last one gives. That
has not written the path, nor one above or below it, and an earlier one has; or the path is left out by
the last one and not by all of them, or the other way around. -/
def Outdates (overlay : Overlay) (start : FileTree) (earlier : List EndedWeave) (last : EndedWeave)
    (names : List String) : Prop :=
  ¬ last.Touches (overlay.ofRelative (Path.ofNames names)) ∧
    ((∃ weave ∈ earlier, weave.Touches (overlay.ofRelative (Path.ofNames names))) ∨
      ¬ (LeftOut overlay start (last :: earlier) names ↔ LeftOut overlay start [last] names))

section
variable {overlay : Overlay} {start : FileTree} {passes : List Overlay.Pass} {pass : Overlay.Pass}
  {weaves earlier : List EndedWeave} {last : EndedWeave} {names : List String}

theorem not_leftOut (named : ∀ weave ∈ weaves, ¬ overlay.TakesAsUnit weave.suffix start names) :
    ¬ LeftOut overlay start weaves names := by
  rintro ⟨⟨weave, member, walks⟩, units⟩
  exact named weave member (units weave member walks)

/-- A path that is no weave's aspect unit is outdated just where an earlier weave has touched it and the last
one has not. -/
theorem outdates_of_not_unit (named : ∀ weave ∈ last :: earlier,
    ¬ overlay.TakesAsUnit weave.suffix start names) : Outdates overlay start earlier last names ↔
      ¬ last.Touches (overlay.ofRelative (Path.ofNames names)) ∧
        ∃ weave ∈ earlier, weave.Touches (overlay.ofRelative (Path.ofNames names)) := by
  have alone : ¬ LeftOut overlay start [last] names :=
    not_leftOut (List.forall_mem_singleton.mpr (named last List.mem_cons_self))
  rw [Outdates, or_iff_left (not_not_intro (iff_of_false (not_leftOut named) alone))]

variable (entries : ∀ name ∈ names, isEntryName name = true)
include entries

theorem leftOut_iff (accounts : overlay.Accounts passes weaves)
    (plain : ∀ pass ∈ passes, pass.written.ArePlain) :
    LeftOut overlay start weaves names ↔ Ground.LeftOut overlay start passes names := by
  have walks : ∀ pass ∈ passes, ∀ weave, overlay.Reports pass weave →
      (weave.Walks overlay names.dropLast ↔ Ground.Walked pass.written names.dropLast) :=
    fun pass member weave reports => reports.walks_iff (plain pass member)
      fun name among => entries name (List.mem_of_mem_dropLast among)
  refine and_congr (accounts.exists_iff walks fun _ walked idle => absurd idle walked.1) ?_
  -- each is one just where none is another thing
  have units : (∃ weave ∈ weaves, weave.Walks overlay names.dropLast ∧
        ¬ overlay.TakesAsUnit weave.suffix start names) ↔
      ∃ pass ∈ passes, Ground.Walked pass.written names.dropLast ∧
        ¬ overlay.TakesAsUnit pass.suffix start names := by
    refine accounts.exists_iff (fun pass member weave reports => ?_) fun _ walked idle =>
      absurd idle walked.1.1
    rw [walks pass member weave reports, reports.suffix]
  simpa only [not_exists, not_and, not_not] using not_congr units

theorem outdates_iff (accounts : overlay.Accounts passes earlier) (reports : overlay.Reports pass last)
    (plain : ∀ pass ∈ passes, pass.written.ArePlain) (plainLast : pass.written.ArePlain) :
    Outdates overlay start earlier last names ↔
      Ground.Outdates overlay start passes pass names := by
  have areNames := Ground.areNames_of_entries entries
  have all := accounts.cons reports
  have alone : overlay.Accounts [pass] [last] :=
    (⟨List.forall_mem_nil _, List.forall_mem_nil _⟩ : overlay.Accounts [] []).cons reports
  have touches : (∃ weave ∈ earlier, weave.Touches (overlay.ofRelative (Path.ofNames names))) ↔
      ∃ pass ∈ passes, pass.written.Touches names := by
    refine accounts.exists_iff (fun pass member weave reports =>
      reports.touches_iff (plain pass member) areNames) ?_
    rintro weave ⟨file, has, _⟩ _
    exact List.ne_nil_of_mem has
  rw [Outdates, Ground.Outdates, reports.touches_iff plainLast areNames, touches,
    leftOut_iff entries all (List.forall_mem_cons.mpr ⟨plainLast, plain⟩),
    leftOut_iff entries alone (List.forall_mem_singleton.mpr plainLast)]

end

/-- After a history of weaves, what a weave with join points leaves of a source path in the overlay is what
it leaves there alone just where the path is not outdated. -/
theorem run_over_history (config : WeaveConfig) (plan : Plan) (work : Work) (start : FileTree)
    (sound : start.Sound) (planned : Weave.plan config = .ok plan)
    (prepared : runFrom (prepare plan) start = (.ok work, start))
    (noLinks : ∀ place ∈ (Ground.ofRoot start work.overlay.root).entered, ∀ target,
      start.entryAt? place ≠ some (.link target))
    (level : (Ground.ofRoot start work.overlay.root).Level)
    (vacant : ∀ names, names ≠ [] →
      start.entryAt? ((Ground.ofRoot start work.overlay.root).place ++ names) = none)
    (unlike : ∀ names, Path.AreNames names →
      work.overlay.root.components ≠ work.overlay.sourceRoot.components ++ names.map .name)
    (secluded : ∀ root ∈ [plan.config.sourceRoot, work.overlay.sourceRoot],
      (Ground.ofRoot start work.overlay.root).Secludes root start)
    (below : TargetPackage.IsBelow work.package.layout plan.target)
    (imports : ∀ importPaths, TargetPackage.lookups ⟨start, work.package.layout⟩ plan.target
      plan.config.aspectSuffix = .ok importPaths → ∀ importPath ∈ importPaths,
        (Ground.ofRoot start work.overlay.root).AllClear start
          (PackageSource.Reads ⟨start, work.package.layout⟩ importPath))
    (isName : Path.IsName work.advicePackage)
    (outside : ∀ path, path = plan.aspectFile ∨ work.spec.adviceSource = some path →
      (Ground.ofRoot start work.overlay.root).Outside start path)
    {earlier : List EndedWeave} {tree : FileTree} (history : History work.overlay start earlier tree)
    {outcome : WeaveOutcome} {after : FileTree} (ran : runFrom (run config) tree = (.ok outcome, after))
    (busy : outcome.joinPoints ≠ 0) {first : WeaveOutcome} {clean : FileTree}
    (alone : runFrom (run config) start = (.ok first, clean)) :
    outcome = { first with report := outcome.report } ∧
      ∀ names, names ≠ [] → (∀ name ∈ names, isEntryName name = true) → ∀ entry,
        start.entryOf (work.overlay.sourceOf (Path.ofNames names)) = .ok entry →
          let place := (Ground.ofRoot start work.overlay.root).place
          after.shown place names = clean.shown place names ↔
            ¬ Outdates work.overlay start earlier ⟨plan.config.aspectSuffix, outcome⟩ names := by
  obtain ⟨prepares, _⟩ := prepare_ok_iff.mp prepared
  have stands := Ground.ofRoot_stands sound noLinks
  have secludes := secluded _ (List.mem_cons_of_mem _ List.mem_cons_self)
  have into : Into work.overlay work := ⟨rfl, prepares.planned ▸ below, isName⟩
  obtain ⟨passes, laid, accounts⟩ :=
    Ground.laid_of_history sound level stands secludes unlike vacant history
  have spares := laid.bears.spares
  -- The last weave finds the same as it does alone.
  rw [runFrom_run planned (prepare_again sound spares prepared secluded below imports
    (outside _ (.inl rfl)))] at ran
  rw [runFrom_run planned prepared] at alone
  cases idle : work.points.isEmpty with
  | true =>
      rw [idle, if_pos rfl] at ran
      cases ran
      exact absurd rfl busy
  | false =>
      rw [idle] at ran alone
      obtain ⟨_, _, _, succeeds, _⟩ := finish_ok_iff.mp alone
      have same := Ground.output_again sound spares (fun source given => outside source (.inr given))
        succeeds
      have plain := isPlain_of_prepares sound prepares below isName
      -- Alone it is laid over nothing, and here over what the earlier weaves have laid.
      obtain ⟨current, _, wroteAlone, endedAlone, fresh, filesAlone⟩ :=
        (Ground.Laid.vacant vacant).finish sound level stands secludes unlike into plain alone
      obtain ⟨again, _, wrote, ended, laid, files⟩ :=
        laid.finish sound level stands secludes unlike into (same ▸ plain) ran
      rw [same] at wrote files
      cases Overlay.writeAll_same wroteAlone wrote
      refine ⟨by rw [endedAlone, ended]; rfl, fun names filled entries entry found => ?_⟩
      -- What it writes is the same text at the same path either way.
      have equal : ∀ path ∈ current.paths,
          after.entryAt? ((Ground.ofRoot start work.overlay.root).place ++ path.names) =
            clean.entryAt? ((Ground.ofRoot start work.overlay.root).place ++ path.names) := by
        intro path member
        obtain ⟨text, given, file⟩ := files path member
        obtain ⟨other, givenAlone, fileAlone⟩ := filesAlone path member
        cases given.symm.trans givenAlone
        rw [file, fileAlone]
      rw [← prepares.planned, outdates_iff entries accounts (into.reports idle ended)
        (fun pass member => laid.plain pass (List.mem_cons_of_mem _ member))
        (laid.plain _ List.mem_cons_self)]
      exact laid.shown_eq_iff sound fresh equal filled entries found

end Weave

/-- A module of two packages that each call a function of their own. -/
def packagesTree : FileTree where
  entries := [
    (["src"], .directory),
    (["src", "go.mod"], .file "module m\n".toUTF8),
    (["src", "p"], .directory),
    (["src", "p", "p.go"], .file "package p\nfunc f() {}\nfunc g() { f() }\n".toUTF8),
    (["src", "q"], .directory),
    (["src", "q", "q.go"], .file "package q\nfunc f() {}\nfunc g() { f() }\n".toUTF8),
    (["spec.yaml"], .file "aspects:\n  - advice: A\n    pointcut: '.*\\.f'\n".toUTF8)]

def packageConfig (target : String) : WeaveConfig := { moduleConfig "out" with target := some target }

theorem packagesTree_sound : packagesTree.Sound where
  distinct := by decide
  named := by decide
  closed := by
    simp only [packagesTree, List.forall_mem_cons]
    exact ⟨rfl, rfl, rfl, rfl, rfl, rfl, rfl, List.forall_mem_nil _⟩
  workDir := rfl

theorem packagesTree_noLink (place : Place) (target : String) :
    packagesTree.entryAt? place ≠ some (.link target) :=
  FileTree.noLink_of_entries (by simp [packagesTree]) place target

theorem packagesTree_vacant (names : List String) :
    packagesTree.entryAt? (["out"] ++ names) = none :=
  FileTree.vacant_of_entries (by decide) (by simp [packagesTree]) names

/-- The places of the two roots, of which the overlay's is not spelled below the other. The module's file
and the first package's are no aspect units there. -/
theorem packagesTree_roots :
    Ground.ofRoot packagesTree ⟨"/out"⟩ = ⟨["out"], [["out"]], []⟩ ∧
      (∀ root ∈ [(⟨"src"⟩ : Path), ⟨"/src"⟩],
        Ground.ofRoot packagesTree root = ⟨["src"], [["src"]], []⟩) ∧
      ¬ (⟨"/src"⟩ : Path).components <+: (⟨"/out"⟩ : Path).components ∧
      ∀ names ∈ [["go.mod"], ["p", "p.go"]],
        ¬ Overlay.TakesAsUnit ⟨⟨"/src"⟩, ⟨"/out"⟩⟩ "_aspect.go" packagesTree names := by
  decide +kernel

/-- Both spellings of the source root stay off the overlay. -/
theorem packagesTree_secludes : ∀ root ∈ [(⟨"src"⟩ : Path), ⟨"/src"⟩],
    (Ground.ofRoot packagesTree ⟨"/out"⟩).Secludes root packagesTree := by
  obtain ⟨ground, source, _⟩ := packagesTree_roots
  intro root member
  rw [ground]
  exact Ground.ofRoot_secludes packagesTree_sound packagesTree_noLink (source root member) (by decide)
    (by decide) (by decide) (by decide)

/-- The units of the module and its file are no aspect units. -/
theorem packagesTree_plain {names : List String} (either : names ∈ [["go.mod"], ["p", "p.go"]])
    {weaves : List EndedWeave} (named : ∀ weave ∈ weaves, weave.suffix = "_aspect.go") :
    ∀ weave ∈ weaves, ¬ Overlay.TakesAsUnit ⟨⟨"/src"⟩, ⟨"/out"⟩⟩ weave.suffix packagesTree names := by
  obtain ⟨_, _, _, plain⟩ := packagesTree_roots
  intro weave member
  rw [named weave member]
  exact plain names either

namespace Weave

/-- Both packages may be the target and are below the source root. The second one's unit looks up its own
package alone. -/
theorem packages_below :
    (∀ target ∈ ["p", "q"], (packageConfig target).validate.toOption = some () ∧
        TargetPackage.IsBelow ⟨⟨"/src"⟩, some "m"⟩ target) ∧
      Layout.KeepsBelow ⟨⟨"/src"⟩, some "m"⟩ "m/q" ∧
      TargetPackage.lookups ⟨packagesTree, ⟨⟨"/src"⟩, some "m"⟩⟩ "q" "_aspect.go" = .ok ["m/q"] ∧
      packagesTree.canonical ⟨"/src"⟩ = .ok ⟨"/src"⟩ := by
  refine ⟨fun target either => ?_, by decide +kernel, ok_of_toOption (by decide +kernel),
    ok_of_toOption (by decide +kernel)⟩
  rcases List.mem_pair.mp either with rfl | rfl <;>
    exact ⟨by decide +kernel, by decide +kernel, by decide +kernel⟩

/-- What the second package's unit looks up stays off the overlay. -/
theorem packages_imports (importPaths : List String)
    (given : TargetPackage.lookups ⟨packagesTree, ⟨⟨"/src"⟩, some "m"⟩⟩ "q" "_aspect.go" =
      .ok importPaths) : ∀ importPath ∈ importPaths,
      (Ground.ofRoot packagesTree ⟨"/out"⟩).AllClear packagesTree
        (PackageSource.Reads ⟨packagesTree, ⟨⟨"/src"⟩, some "m"⟩⟩ importPath) := by
  obtain ⟨_, keeps, found, canonical⟩ := packages_below
  cases found.symm.trans given
  rw [List.forall_mem_singleton]
  exact Ground.Secludes.clear_package ⟨packagesTree, ⟨⟨"/src"⟩, some "m"⟩⟩
    (packagesTree_secludes _ (by simp)) packagesTree_sound canonical keeps

theorem plan_package {target : String} (either : target ∈ ["p", "q"]) :
    plan (packageConfig target) = .ok ⟨packageConfig target, target, ⟨"out"⟩, ⟨"spec.yaml"⟩⟩ := by
  obtain ⟨valid, _⟩ := packages_below.1 target either
  exact plan_of_valid (ok_of_toOption valid) rfl rfl rfl

/-- What a weave of one of the packages goes by. -/
theorem exists_work_package (target : String) (either : target ∈ ["p", "q"]) :
    ∃ work, runFrom (prepare ⟨packageConfig target, target, ⟨"out"⟩, ⟨"spec.yaml"⟩⟩) packagesTree =
        (.ok work, packagesTree) ∧ work.points.isEmpty = false ∧ work.spec.adviceSource = none ∧
      work.advicePackage = "agaspect" ∧ work.package.layout = ⟨⟨"/src"⟩, some "m"⟩ ∧
        work.overlay = ⟨⟨"/src"⟩, ⟨"/out"⟩⟩ := by
  rcases List.mem_pair.mp either with rfl | rfl <;> exact exists_work_of_view (by decide +kernel)

/-- The two packages are woven one after the other, and the second one alone. -/
theorem exists_outcomes_packagesTree :
    let tree := leaves (run (packageConfig "p")) packagesTree
    ∃ earlier last first, runFrom (run (packageConfig "p")) packagesTree = (.ok earlier, tree) ∧
      runFrom (run (packageConfig "q")) tree = (.ok last, leaves (run (packageConfig "q")) tree) ∧
      runFrom (run (packageConfig "q")) packagesTree =
        (.ok first, leaves (run (packageConfig "q")) packagesTree) ∧
      earlier.written = [⟨"/out/p/p.go"⟩] ∧ last.joinPoints = 1 ∧ last.written = [⟨"/out/q/q.go"⟩] := by
  intro tree
  have ran : (runFrom (run (packageConfig "p")) packagesTree).1.toOption.map WeaveOutcome.written =
        some [⟨"/out/p/p.go"⟩] ∧
      (runFrom (run (packageConfig "q")) (leaves (run (packageConfig "p")) packagesTree)).1.toOption.map
        (fun outcome => (outcome.joinPoints, outcome.written)) = some (1, [⟨"/out/q/q.go"⟩]) ∧
      (runFrom (run (packageConfig "q")) packagesTree).1.toOption.map WeaveOutcome.joinPoints = some 1 := by
    decide +kernel
  obtain ⟨earlier, ranEarlier, written⟩ := runFrom_of_view ran.1
  obtain ⟨last, ranLast, same⟩ := runFrom_of_view ran.2.1
  obtain ⟨first, ranFirst, _⟩ := runFrom_of_view ran.2.2
  simp only [Prod.mk.injEq] at same
  exact ⟨earlier, last, first, ranEarlier, ranLast, ranFirst, written, same.1, same.2⟩

/-- After the first package the second one is woven as alone, but the first one's unit stays woven. -/
theorem run_over_history_packages :
    let tree := leaves (run (packageConfig "p")) packagesTree
    let after := leaves (run (packageConfig "q")) tree
    let clean := leaves (run (packageConfig "q")) packagesTree
    ∃ earlier last first, runFrom (run (packageConfig "p")) packagesTree = (.ok earlier, tree) ∧
      runFrom (run (packageConfig "q")) tree = (.ok last, after) ∧
      runFrom (run (packageConfig "q")) packagesTree = (.ok first, clean) ∧
      last.written = first.written ∧
      after.shown ["out"] ["go.mod"] = clean.shown ["out"] ["go.mod"] ∧
      after.shown ["out"] ["p", "p.go"] ≠ clean.shown ["out"] ["p", "p.go"] := by
  intro tree after clean
  obtain ⟨earlier, last, first, ranEarlier, ranLast, alone, written, busy, writtenLast⟩ :=
    exists_outcomes_packagesTree
  obtain ⟨other, preparedOther, _, _, packageOther, layoutOther, overlayOther⟩ :=
    exists_work_package "p" (by decide)
  obtain ⟨work, prepared, _, source, package, layout, overlay⟩ :=
    exists_work_package "q" (by decide)
  have into : Into work.overlay other := by
    obtain ⟨prepares, _⟩ := prepare_ok_iff.mp preparedOther
    refine ⟨overlayOther.trans overlay.symm, ?_, ?_⟩
    · rw [prepares.planned, layoutOther]
      exact (packages_below.1 _ (by decide)).2
    · rw [packageOther]
      exact Path.isName_of_isEntryName (by decide)
  obtain ⟨same, shown⟩ := run_over_history (packageConfig "q") _ work packagesTree packagesTree_sound
    (plan_package (by decide)) prepared (fun place _ => packagesTree_noLink place)
    (by
      rw [overlay, packagesTree_roots.1]
      unfold Ground.Level
      decide)
    (by
      rw [overlay, packagesTree_roots.1]
      exact fun names _ => packagesTree_vacant names)
    (by
      rw [overlay]
      exact fun names _ same => packagesTree_roots.2.2.1 (same ▸ List.prefix_append _ _))
    (by
      rw [overlay]
      exact packagesTree_secludes)
    (by
      rw [layout]
      exact (packages_below.1 _ (by decide)).2)
    (by
      rw [overlay, layout]
      exact packages_imports)
    (by
      rw [package]
      exact Path.isName_of_isEntryName (by decide))
    (by
      rw [overlay, source, packagesTree_roots.1]
      rintro path (rfl | same)
      · unfold Ground.Outside
        decide +kernel
      · cases same)
    (.weave .start (plan_package (by decide)) preparedOther into ranEarlier) ranLast (by simp [busy]) alone
  rw [overlay, packagesTree_roots.1] at shown
  have has : ∀ names ∈ [["go.mod"], ["p", "p.go"]], (packagesTree.entryOf
      (Overlay.sourceOf ⟨⟨"/src"⟩, ⟨"/out"⟩⟩ (Path.ofNames names))).toOption.isSome = true := by
    decide +kernel
  have named : ∀ weave ∈ [(⟨"_aspect.go", last⟩ : EndedWeave), ⟨"_aspect.go", earlier⟩],
      weave.suffix = "_aspect.go" := by simp
  refine ⟨earlier, last, first, ranEarlier, ranLast, alone, by rw [same], ?_, ?_⟩
  · obtain ⟨entry, has⟩ := Option.isSome_iff_exists.mp (has ["go.mod"] (by simp))
    refine (shown ["go.mod"] (by decide) (by decide) entry (ok_of_toOption has)).mpr fun outdated => ?_
    obtain ⟨_, weave, member, file, among, touches⟩ :=
      (outdates_of_not_unit (packagesTree_plain (by simp) named)).mp outdated
    cases List.mem_singleton.mp member
    rw [written] at among
    cases List.mem_singleton.mp among
    exact absurd touches (by decide +kernel)
  · obtain ⟨entry, has⟩ := Option.isSome_iff_exists.mp (has ["p", "p.go"] (by simp))
    refine fun same => (shown ["p", "p.go"] (by decide) (by decide) entry (ok_of_toOption has)).mp same
      ((outdates_of_not_unit (packagesTree_plain (by simp) named)).mpr ⟨?_, _, List.mem_singleton.mpr rfl,
        ⟨"/out/p/p.go"⟩, by simp [written], by decide +kernel⟩)
    rintro ⟨file, among, touches⟩
    rw [writtenLast] at among
    cases List.mem_singleton.mp among
    exact absurd touches (by decide +kernel)

/-- A unit that an earlier weave has woven stays in the overlay in place of one that the last weave leaves
alone. -/
theorem run_over_history_stale :
    packagesTree.Sound ∧ (∀ place target, packagesTree.entryAt? place ≠ some (.link target)) ∧
      (∀ names, packagesTree.entryAt? (["out"] ++ names) = none) ∧
      (packageConfig "p").validate = .ok () ∧ (packageConfig "q").validate = .ok () ∧
      ∃ earlier tree last after first clean,
        runFrom (run (packageConfig "p")) packagesTree = (.ok earlier, tree) ∧
        runFrom (run (packageConfig "q")) tree = (.ok last, after) ∧
        runFrom (run (packageConfig "q")) packagesTree = (.ok first, clean) ∧
        last.joinPoints = 1 ∧ last.written = [⟨"/out/q/q.go"⟩] ∧ earlier.written = [⟨"/out/p/p.go"⟩] ∧
        after.entryAt? ["out", "p"] = some .directory ∧
        after.entryAt? ["out", "p", "p.go"] ≠ packagesTree.entryAt? ["src", "p", "p.go"] ∧
        clean.entryAt? ["out", "p"] = some (.link "/src/p") := by
  obtain ⟨earlier, last, first, ranEarlier, ranLast, ranFirst, written, busy, writtenLast⟩ :=
    exists_outcomes_packagesTree
  refine ⟨packagesTree_sound, packagesTree_noLink, packagesTree_vacant, ok_of_toOption (by decide +kernel),
    ok_of_toOption (by decide +kernel), earlier, _, last, _, first, _, ranEarlier, ranLast, ranFirst, busy,
    writtenLast, written, ?_⟩
  decide +kernel

end Weave
end AspectLoom
