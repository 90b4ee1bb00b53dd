import AspectLoom.Proofs.SettledOverlays
import AspectLoom.Proofs.SourceViews
/-!
Traces of a reconciliation. One that succeeds has chosen an action for every entry of the directories
that it walks; its report is the record of these choices.
-/
namespace AspectLoom

open Actions
open FileTree (isEntryName checkText)

namespace Overlay

/-- What was done with an entry, given by the names below the root. -/
abbrev Log := List (List String × AspectLoom.Action)

def logged (overlay : Overlay) (report : ReconcileReport) (entry : List String × AspectLoom.Action) :
    ReconcileReport := overlay.noted report (Path.ofNames entry.1) entry.2

/-- The paths in a log for which something was done. -/
def pathsOf (log : Log) (action : AspectLoom.Action) : List Path :=
  (log.filter fun entry => entry.2 = action).map fun entry => Path.ofNames entry.1

theorem mem_linked_iff {overlay : Overlay} {log : Log} {link : Path} :
    link ∈ (pathsOf log .link).map overlay.ofRelative ↔
      ∃ names, (names, .link) ∈ log ∧ overlay.ofRelative (Path.ofNames names) = link := by
  simp [pathsOf]

def skipsOf (log : Log) : List (Path × SkipReason) :=
  log.filterMap fun entry =>
    match entry.2 with
    | .skip reason => some (Path.ofNames entry.1, reason)
    | _ => none

theorem foldl_logged (overlay : Overlay) (log : Log) (report : ReconcileReport) :
    log.foldl overlay.logged report =
      ⟨report.linked ++ (pathsOf log .link).map overlay.ofRelative,
        report.recursed ++ pathsOf log .descend, report.skipped ++ skipsOf log⟩ := by
  induction log generalizing report with
  | nil => simp [pathsOf, skipsOf]
  | cons entry log ih =>
      obtain ⟨names, action⟩ := entry
      rw [List.foldl_cons, ih]
      cases action <;> simp [logged, noted, pathsOf, skipsOf]

/-- A walked directory is made ready for a link, unless it is. -/
def Prepares (overlay : Overlay) (dir : List String) (ready : Bool) (tree made : FileTree) : Prop :=
  ready = true ∧ made = tree ∨ ready = false ∧
    runFrom (overlay.ownDirectories (overlay.ofRelative (Path.ofNames dir))) tree = (.ok (), made)

/-- The remaining names of a source directory handled one by one, from a tree to another one. The flag
says whether the directory is ready in the overlay. -/
inductive Handles (overlay : Overlay) (written : Written) (suffix : String) :
    List String → List String → FileTree → Bool → FileTree → Log → Prop where
  | done {dir : List String} {tree : FileTree} {ready : Bool} :
      Handles overlay written suffix dir [] tree ready tree []
  | descend {dir names below : List String} {name : String} {tree made middle after : FileTree}
      {ready : Bool} {inner log : Log}
      (choice : chosen ⟨overlay, written, suffix, Path.ofNames dir⟩ tree name = .ok .descend)
      (owned : runFrom (overlay.ownDirectories
        (overlay.ofRelative (Path.ofNames (dir ++ [name])))) tree = (.ok (), made))
      (listed : made.list (overlay.sourceOf (Path.ofNames (dir ++ [name]))) = .ok below)
      (inside : Handles overlay written suffix (dir ++ [name]) below made false middle inner)
      (onward : Handles overlay written suffix dir names middle ready after log) :
      Handles overlay written suffix dir (name :: names) tree ready after
        ((dir ++ [name], .descend) :: (inner ++ log))
  | skip {dir names : List String} {name : String} {tree after : FileTree} {ready : Bool}
      {reason : SkipReason} {log : Log}
      (choice : chosen ⟨overlay, written, suffix, Path.ofNames dir⟩ tree name = .ok (.skip reason))
      (onward : Handles overlay written suffix dir names tree ready after log) :
      Handles overlay written suffix dir (name :: names) tree ready after
        ((dir ++ [name], .skip reason) :: log)
  | link {dir names : List String} {name : String} {tree made middle after : FileTree}
      {ready : Bool} {log : Log}
      (choice : chosen ⟨overlay, written, suffix, Path.ofNames dir⟩ tree name = .ok .link)
      (prepared : Prepares overlay dir ready tree made)
      (linked : made.makeLink (Walk.source ⟨overlay, written, suffix, Path.ofNames dir⟩ name).text
        (overlay.ofRelative (Path.ofNames (dir ++ [name]))) = .ok middle)
      (onward : Handles overlay written suffix dir names middle true after log) :
      Handles overlay written suffix dir (name :: names) tree ready after
        ((dir ++ [name], .link) :: log)

/-- An entry is chosen by its kind and by what is seen in the overlay. -/
theorem chosen_ok_iff {walk : Walk} {tree : FileTree} {name : String} {action : AspectLoom.Action} :
    chosen walk tree name = .ok action ↔ ∃ isDirectory found,
      kindSeen tree (walk.source name) = .ok isDirectory ∧
        seen tree (walk.overlay.ofRelative (walk.dir.join ⟨name⟩)) = .ok found ∧
          action = if walk.source name == walk.overlay.root then .skip .overlayRoot
            else .decide walk.written walk.suffix (walk.dir.join ⟨name⟩) isDirectory found.isSome := by
  constructor
  · intro choice
    obtain ⟨isDirectory, kind, choice⟩ := bind_ok choice
    obtain ⟨found, seen, choice⟩ := bind_ok choice
    refine ⟨isDirectory, found, kind, seen, ?_⟩
    split at choice
    · rw [if_pos ‹_›]
      exact (Except.ok.inj choice).symm
    · rw [if_neg ‹_›]
      exact (Except.ok.inj choice).symm
  · rintro ⟨isDirectory, found, kind, seen, rfl⟩
    rw [chosen, kind]
    change (Overlay.seen tree _ >>= fun found => _) = _
    rw [seen]
    change (if _ then _ else _) = _
    split <;> rfl

theorem prepare_ok {overlay : Overlay} {written : Written} {suffix : String} {dir : List String}
    {tree made : FileTree} {state prepared : WalkState} {value : PUnit}
    (ran : runFrom ((prepare ⟨overlay, written, suffix, Path.ofNames dir⟩).run state) tree =
      (.ok (value, prepared), made)) :
    prepared.ready = true ∧ prepared.report = state.report ∧
      overlay.Prepares dir state.ready tree made := by
  rw [run_prepare] at ran
  split at ran
  · rename_i already
    cases ran
    exact ⟨already, rfl, .inl ⟨already, rfl⟩⟩
  · rename_i notYet
    obtain ⟨_, owned, owns, rest⟩ := runFrom_bind_ok ran
    cases rest
    exact ⟨rfl, rfl, .inr ⟨Bool.eq_false_iff.mpr notYet, owns⟩⟩

theorem makeLink_ok {source place : Path} {tree after : FileTree}
    (ran : runFrom (makeLink source place) tree = (.ok (), after)) :
    tree.makeLink source.text place = .ok after :=
  (fileStep_ends ((apply_ends _ tree).imp (fun _ _ => id) fun _ _ => trivial)).of_ok ran

end Overlay

namespace Ground

open Overlay (Handles Log)

variable {ground : Ground} {root : Path} {overlay : Overlay} {written : Written} {suffix : String}
  {tree before made middle after : FileTree} {dir names : List String} {name : String} {ready : Bool}
  {log : Log}

/-! Choices -/

/-- A directory is walked when a written path lies below it. -/
theorem reaches_of_descend {walk : Overlay.Walk}
    (choice : Overlay.chosen walk tree name = .ok .descend) :
    walk.written.reaches (walk.dir.join ⟨name⟩) = true := by
  obtain ⟨isDirectory, found, _, _, decided⟩ := Overlay.chosen_ok_iff.mp choice
  split at decided
  · cases decided
  · rw [Action.decide] at decided
    split at decided
    · rename_i reached
      exact (Bool.and_eq_true_iff.mp reached).2
    · split at decided
      · cases decided
      · split at decided
        · cases decided
        · split at decided <;> cases decided

theorem Walked.below (walked : Walked written dir) (isName : isEntryName name = true)
    (choice : Overlay.chosen ⟨overlay, written, suffix, Path.ofNames dir⟩ tree name = .ok .descend) :
    Walked written (dir ++ [name]) := by
  have reached := reaches_of_descend choice
  dsimp only at reached
  rw [Path.join_ofNames walked.areNames (Path.isName_of_isEntryName isName)] at reached
  refine ⟨?_, .inr reached⟩
  intro other member
  rcases List.mem_append.mp member with front | last
  · exact walked.1 other front
  · rwa [List.mem_singleton.mp last]

theorem le_foldl_max (lengths : List Nat) (start : Nat) :
    start ≤ lengths.foldl max start ∧ ∀ length ∈ lengths, length ≤ lengths.foldl max start := by
  induction lengths generalizing start with
  | nil => exact ⟨Nat.le_refl _, List.forall_mem_nil _⟩
  | cons length lengths ih =>
      obtain ⟨first, others⟩ := ih (max start length)
      rw [List.foldl_cons]
      exact ⟨Nat.le_trans (Nat.le_max_left _ _) first,
        List.forall_mem_cons.mpr ⟨Nat.le_trans (Nat.le_max_right _ _) first, others⟩⟩

/-- A directory that is walked is above the end of some written path. -/
theorem Walked.length_le (walked : Walked written dir) : dir.length ≤ written.depth := by
  rcases walked.2 with rfl | reached
  · exact Nat.zero_le _
  · rw [Written.reaches, List.any_eq_true] at reached
    obtain ⟨path, member, below⟩ := reached
    rw [Bool.and_eq_true, Path.isAbove, List.isPrefixOf_iff_prefix,
      Path.components_ofNames walked.areNames] at below
    have long := below.2.length_le
    rw [List.length_map] at long
    exact Nat.le_trans long ((le_foldl_max _ 0).2 _ (List.mem_map.mpr ⟨path, member, rfl⟩))

/-! What stays -/

/-- Nothing goes, and where anything has come the root is ready. -/
structure Keeps (ground : Ground) (root : Path) (before after : FileTree) : Prop where
  spares : ground.Spares before after
  present : ∀ place, (before.entryAt? place).isSome → (after.entryAt? place).isSome
  files : ∀ place bytes, before.entryAt? place = some (.file bytes) →
    after.entryAt? place = some (.file bytes)
  settled : after = before ∨ ground.Ready root after []

theorem Keeps.refl (ground : Ground) (root : Path) (tree : FileTree) : ground.Keeps root tree tree :=
  ⟨Spares.refl _ _, fun _ => id, fun _ _ => id, .inl rfl⟩

theorem Keeps.trans (first : ground.Keeps root before middle) (second : ground.Keeps root middle after) :
    ground.Keeps root before after := by
  refine ⟨first.spares.trans second.spares,
    fun place present => second.present place (first.present place present),
    fun place bytes file => second.files place bytes (first.files place bytes file), ?_⟩
  rcases first.settled with rfl | ready
  · exact second.settled
  · exact .inr (ready.later second.spares)

theorem Owns.keeps (owns : ground.Owns root names before after) : ground.Keeps root before after := by
  refine ⟨owns.spares, ?_, ?_, .inr (Ready.above owns.ready)⟩
  · intro place present
    rcases owns.makes place with same | ⟨made, _⟩
    · rwa [same]
    · rw [made]
      rfl
  · intro place bytes file
    rcases owns.makes place with same | ⟨_, noFile, _⟩
    · rw [same, file]
    · exact absurd file (noFile bytes)

theorem Ready.keeps_put {place : Place} {entry : Entry} (ready : ground.Ready root before [])
    (missing : before.entryAt? place = none) (spares : ground.Spares before (before.put place entry)) :
    ground.Keeps root before (before.put place entry) := by
  have put : ∀ other, (before.put place entry).entryAt? other =
      if place = other then some entry else before.entryAt? other :=
    FileTree.entryAt?_put (FileTree.ne_nil_of_missing missing)
  refine ⟨spares, ?_, ?_, .inr (ready.later spares)⟩
  · intro other present
    rw [put]
    split
    · rfl
    · exact present
  · intro other bytes file
    rw [put, if_neg, file]
    rintro rfl
    rw [missing] at file
    cases file

/-- Some names of a directory that is walked are still to be handled. -/
structure Begins (ground : Ground) (overlay : Overlay) (written : Written) (dir names : List String)
    (tree : FileTree) (ready : Bool) : Prop where
  stands : ground.Stands overlay.root tree
  walked : Walked written dir
  entries : ∀ name ∈ names, isEntryName name = true
  distinct : names.Nodup
  isReady : ready = true → ground.Ready overlay.root tree dir
  below : dir ≠ [] → ground.Ready overlay.root tree dir

namespace Begins

theorem of_list (stands : ground.Stands overlay.root tree) (walked : Walked written dir)
    (listed : tree.list (overlay.sourceOf (Path.ofNames dir)) = .ok names)
    (below : dir ≠ [] → ground.Ready overlay.root tree dir) :
    ground.Begins overlay written dir names tree false where
  stands := stands
  walked := walked
  entries := FileTree.isEntryName_of_list stands.sound listed
  distinct := FileTree.nodup_of_list stands.sound listed
  isReady := by simp
  below := below

theorem top (stands : ground.Stands overlay.root tree)
    (listed : tree.list (overlay.sourceOf (Path.ofNames [])) = .ok names) :
    ground.Begins overlay written [] names tree false :=
  of_list stands ⟨List.forall_mem_nil _, .inl rfl⟩ listed (by simp)

variable (begins : ground.Begins overlay written dir (name :: names) tree ready)
include begins

theorem isName : isEntryName name = true := begins.entries name List.mem_cons_self

/-- The names that come then. -/
theorem onward (spares : ground.Spares tree after) :
    ground.Begins overlay written dir names after ready where
  stands := begins.stands.later spares
  walked := begins.walked
  entries := fun other member => begins.entries other (List.mem_cons_of_mem _ member)
  distinct := begins.distinct.of_cons
  isReady := fun already => (begins.isReady already).later spares
  below := fun deep => (begins.below deep).later spares

/-- The walk of a directory below. -/
theorem inside {below : List String}
    (choice : Overlay.chosen ⟨overlay, written, suffix, Path.ofNames dir⟩ tree name = .ok .descend)
    (owned : runFrom (overlay.ownDirectories
      (overlay.ofRelative (Path.ofNames (dir ++ [name])))) tree = (.ok (), made))
    (listed : made.list (overlay.sourceOf (Path.ofNames (dir ++ [name]))) = .ok below) :
    ground.Owns overlay.root (dir ++ [name]) tree made ∧
      ground.Begins overlay written (dir ++ [name]) below made false := by
  have deeper := begins.walked.below begins.isName choice
  have owns := (ownDirectories_ends begins.stands (components_ofRelative deeper.areNames)
    deeper.areNames).of_ok owned
  exact ⟨owns, of_list owns.ready.stands deeper listed fun _ => owns.ready⟩

theorem prepares (prepared : overlay.Prepares dir ready tree made) :
    ground.Ready overlay.root made dir ∧ (made = tree ∨ ground.Owns overlay.root dir tree made) := by
  rcases prepared with ⟨already, rfl⟩ | ⟨_, ran⟩
  · exact ⟨begins.isReady already, .inl rfl⟩
  · have areNames := begins.walked.areNames
    have owns := (ownDirectories_ends begins.stands (components_ofRelative areNames) areNames).of_ok ran
    exact ⟨owns.ready, .inr owns⟩

/-- A link that is made, with the names that come then. -/
theorem link {target : String} (prepared : overlay.Prepares dir ready tree made)
    (linked : made.makeLink target (overlay.ofRelative (Path.ofNames (dir ++ [name]))) = .ok after) :
    made.entryAt? (ground.place ++ dir ++ [name]) = none ∧
      after = made.put (ground.place ++ dir ++ [name]) (.link target) ∧
        ground.Keeps overlay.root tree after ∧ ground.Ready overlay.root after dir ∧
          ground.Begins overlay written dir names after true := by
  obtain ⟨isReady, made⟩ := begins.prepares prepared
  have first : ground.Keeps overlay.root tree _ := made.elim (fun same => same ▸ Keeps.refl _ _ _) Owns.keeps
  obtain ⟨missing, rfl, spares⟩ := makeLink_spares isReady begins.walked.areNames begins.isName linked
  have second := (Ready.above isReady).keeps_put missing spares
  have keeps := first.trans second
  have later := isReady.later spares
  exact ⟨missing, rfl, keeps, later,
    { begins.onward keeps.spares with isReady := fun _ => later, below := fun _ => later }⟩

/-- The link stands where nothing has stood. -/
theorem link_stands {target : String} (prepared : overlay.Prepares dir ready tree made)
    (linked : made.makeLink target (overlay.ofRelative (Path.ofNames (dir ++ [name]))) = .ok after) :
    tree.entryAt? (ground.place ++ dir ++ [name]) = none ∧
      after.entryAt? (ground.place ++ dir ++ [name]) = some (.link target) := by
  obtain ⟨missing, rfl, _⟩ := begins.link prepared linked
  refine ⟨?_, by rw [FileTree.entryAt?_put (FileTree.ne_nil_of_missing missing), if_pos rfl]⟩
  rcases (begins.prepares prepared).2 with rfl | owns
  · exact missing
  · have gone := mt (owns.keeps.present (ground.place ++ dir ++ [name])) (by rw [missing]; simp)
    exact Option.not_isSome_iff_eq_none.mp gone

end Begins

/-- A reconciliation keeps what it has found and made. -/
theorem handles_keeps (handles : Handles overlay written suffix dir names tree ready after log)
    (begins : ground.Begins overlay written dir names tree ready) :
    ground.Keeps overlay.root tree after := by
  induction handles with
  | done => exact Keeps.refl _ _ _
  | descend choice owned listed inside onward ihInside ihOnward =>
      obtain ⟨owns, below⟩ := begins.inside choice owned listed
      have keeps := owns.keeps.trans (ihInside below)
      exact keeps.trans (ihOnward (begins.onward keeps.spares))
  | skip choice onward ih => exact ih (begins.onward (Spares.refl _ _))
  | link choice prepared linked onward ih =>
      obtain ⟨_, _, keeps, _, later⟩ := begins.link prepared linked
      exact keeps.trans (ih later)

/-! From runs to traces -/

/-- Handling the names that are left of a walked directory. The induction is over these names; what
walking a directory below does is given, since that is an induction over the depth. -/
theorem visitAll_handles {descend : Path → ReconcileReport → TreeM OverlayError ReconcileReport}
    {state : Overlay.WalkState} {result : PUnit × Overlay.WalkState}
    (begins : ground.Begins overlay written dir names tree state.ready)
    (spares : ∀ names report tree, Path.AreNames names → ground.Stands overlay.root tree →
      Ends (fun _ after => ground.Spares tree after) (fun after => ground.Spares tree after)
        (descend (Path.ofNames names) report) tree)
    (descends : ∀ {name report other tree after}, Walked written (dir ++ [name]) →
      ground.Ready overlay.root tree (dir ++ [name]) →
      runFrom (descend (Path.ofNames (dir ++ [name])) report) tree = (.ok other, after) →
        ∃ below log, tree.list (overlay.sourceOf (Path.ofNames (dir ++ [name]))) = .ok below ∧
          Handles overlay written suffix (dir ++ [name]) below tree false after log ∧
            other = log.foldl overlay.logged report)
    (ran : runFrom ((Overlay.visitAll ⟨overlay, written, suffix, Path.ofNames dir⟩ descend names).run
      state) tree = (.ok result, after)) :
    ∃ log, Handles overlay written suffix dir names tree state.ready after log ∧
      result.2.report = log.foldl overlay.logged state.report := by
  induction names generalizing tree state with
  | nil =>
      cases ran
      exact ⟨[], .done, rfl⟩
  | cons name names ih =>
      have isName := begins.isName
      have areNames := begins.walked.areNames
      have all := areNames_concat areNames isName
      have relative := Path.join_ofNames areNames (Path.isName_of_isEntryName isName)
      rw [Overlay.run_visitAll_cons] at ran
      obtain ⟨visited, middle, visit, ran⟩ := runFrom_bind_ok ran
      have ends := (visit_ends
        begins.stands rfl areNames isName begins.isReady spares).of_ok visit
      rw [Overlay.run_visit] at visit
      obtain ⟨action, first, choice, visit⟩ := runFrom_bind_ok visit
      rw [Overlay.runFrom_actionFor] at choice
      obtain ⟨chose, rfl⟩ := Prod.mk.inj choice
      dsimp only at visit
      rw [relative] at visit
      obtain ⟨log, onward, report⟩ := ih { begins.onward ends.1 with isReady := ends.2 } ran
      -- The names that are left have their trace; what was chosen for the first one goes before it.
      cases action with
      | descend =>
          obtain ⟨_, made, owned, visit⟩ := runFrom_bind_ok visit
          obtain ⟨other, last, descended, visit⟩ := runFrom_bind_ok visit
          cases visit
          have owns :=
            (ownDirectories_ends begins.stands (components_ofRelative all) all).of_ok owned
          obtain ⟨below, inner, listed, inside, same⟩ :=
            descends (begins.walked.below isName chose) owns.ready descended
          refine ⟨_, .descend chose owned listed inside onward, ?_⟩
          rw [report, List.foldl_cons, List.foldl_append]
          dsimp only
          rw [same]
          rfl
      | skip reason =>
          cases visit
          exact ⟨_, .skip chose onward, report⟩
      | link =>
          obtain ⟨⟨_, prepared⟩, made, preparing, visit⟩ := runFrom_bind_ok visit
          obtain ⟨_, last, linked, visit⟩ := runFrom_bind_ok visit
          cases visit
          obtain ⟨already, sameReport, prepares⟩ := Overlay.prepare_ok preparing
          refine ⟨_, .link chose prepares (Overlay.makeLink_ok linked) (already ▸ onward), ?_⟩
          rw [report, sameReport]
          rfl

/-- A walk that is allowed to go as deep as the written paths do. -/
theorem walkDirectory_handles {depth : Nat} {report result : ReconcileReport}
    (stands : ground.Stands overlay.root tree) (walked : Walked written dir)
    (ready : dir ≠ [] → ground.Ready overlay.root tree dir)
    (deep : written.depth < depth + dir.length)
    (ran : runFrom (overlay.walkDirectory written suffix depth (Path.ofNames dir) report) tree =
      (.ok result, after)) :
    ∃ names log, tree.list (overlay.sourceOf (Path.ofNames dir)) = .ok names ∧
      Handles overlay written suffix dir names tree false after log ∧
        result = log.foldl overlay.logged report := by
  induction depth generalizing dir tree after report result with
  | zero =>
      have short := walked.length_le
      omega
  | succ depth ih =>
      rw [Overlay.run_walkDirectory] at ran
      obtain ⟨names, first, listed, ran⟩ := runFrom_bind_ok ran
      obtain ⟨visited, last, visits, ran⟩ := runFrom_bind_ok ran
      cases ran
      obtain ⟨rfl, listed⟩ := Overlay.list_of_runFrom listed
      obtain ⟨log, handles, same⟩ := visitAll_handles (.of_list stands walked listed ready)
        (fun names report tree areNames stands => walkDirectory_ends stands areNames written suffix
          depth report)
        (fun walked ready ran => ih ready.stands walked (fun _ => ready) (by simp; omega) ran) visits
      exact ⟨names, log, listed, handles, same⟩

theorem reconcile_handles {report : ReconcileReport} (stands : ground.Stands overlay.root tree)
    (ran : runFrom (overlay.reconcile written suffix) tree = (.ok report, after)) :
    ∃ names log, tree.list (overlay.sourceOf (Path.ofNames [])) = .ok names ∧
      Handles overlay written suffix [] names tree false after log ∧
        report = log.foldl overlay.logged {} :=
  walkDirectory_handles stands ⟨List.forall_mem_nil _, .inl rfl⟩ (by simp) (by simp) ran

/-! From traces to runs -/

section
variable {descend : Path → ReconcileReport → TreeM OverlayError ReconcileReport}
  {state : Overlay.WalkState} (areNames : Path.AreNames dir) (isName : isEntryName name = true)
include areNames isName

theorem runFrom_visit_descend
    (choice : Overlay.chosen ⟨overlay, written, suffix, Path.ofNames dir⟩ tree name = .ok .descend)
    (owned : runFrom (overlay.ownDirectories
      (overlay.ofRelative (Path.ofNames (dir ++ [name])))) tree = (.ok (), made))
    {report : ReconcileReport} (descended : runFrom (descend (Path.ofNames (dir ++ [name]))
      (overlay.logged state.report (dir ++ [name], .descend))) made = (.ok report, after)) :
    runFrom ((Overlay.visit ⟨overlay, written, suffix, Path.ofNames dir⟩ descend name).run state) tree =
      (.ok (⟨⟩, { state with report := report }), after) := by
  have looked := Overlay.runFrom_actionFor ⟨overlay, written, suffix, Path.ofNames dir⟩ name tree
  rw [choice] at looked
  rw [Overlay.run_visit, runFrom_bind_of_ok looked]
  dsimp only
  rw [Path.join_ofNames areNames (Path.isName_of_isEntryName isName), runFrom_bind_of_ok owned]
  exact runFrom_bind_of_ok descended _

theorem runFrom_visit_skip {reason : SkipReason}
    (choice : Overlay.chosen ⟨overlay, written, suffix, Path.ofNames dir⟩ tree name =
      .ok (.skip reason)) :
    runFrom ((Overlay.visit ⟨overlay, written, suffix, Path.ofNames dir⟩ descend name).run state) tree =
      (.ok (⟨⟩, { state with
        report := overlay.logged state.report (dir ++ [name], .skip reason) }), tree) := by
  have looked := Overlay.runFrom_actionFor ⟨overlay, written, suffix, Path.ofNames dir⟩ name tree
  rw [choice] at looked
  rw [Overlay.run_visit, runFrom_bind_of_ok looked]
  dsimp only
  rw [Path.join_ofNames areNames (Path.isName_of_isEntryName isName)]
  rfl

theorem runFrom_visit_link
    (choice : Overlay.chosen ⟨overlay, written, suffix, Path.ofNames dir⟩ tree name = .ok .link)
    (prepared : overlay.Prepares dir state.ready tree made)
    (linked : made.makeLink (Overlay.Walk.source ⟨overlay, written, suffix, Path.ofNames dir⟩ name).text
      (overlay.ofRelative (Path.ofNames (dir ++ [name]))) = .ok after) :
    runFrom ((Overlay.visit ⟨overlay, written, suffix, Path.ofNames dir⟩ descend name).run state) tree =
      (.ok (⟨⟩, ⟨overlay.logged state.report (dir ++ [name], .link), true⟩), after) := by
  have looked := Overlay.runFrom_actionFor ⟨overlay, written, suffix, Path.ofNames dir⟩ name tree
  rw [choice] at looked
  have ready : runFrom ((Overlay.prepare ⟨overlay, written, suffix, Path.ofNames dir⟩).run state) tree =
      (.ok (⟨⟩, { state with ready := true }), made) := by
    rw [Overlay.run_prepare]
    rcases prepared with ⟨already, rfl⟩ | ⟨notYet, owned⟩
    · rw [if_pos already, ← already]
      rfl
    · rw [if_neg (by simp [notYet]), runFrom_bind_of_ok owned]
      rfl
  have made : runFrom (Overlay.makeLink
      (Overlay.Walk.source ⟨overlay, written, suffix, Path.ofNames dir⟩ name)
      (overlay.ofRelative (Path.ofNames (dir ++ [name])))) made = (.ok (), after) := by
    rw [Overlay.makeLink, Overlay.runFrom_fileStep, TreeM.runFrom_apply, linked]
  rw [Overlay.run_visit, runFrom_bind_of_ok looked]
  dsimp only
  rw [Path.join_ofNames areNames (Path.isName_of_isEntryName isName), runFrom_bind_of_ok ready,
    runFrom_bind_of_ok made]
  rfl

end

theorem runFrom_walkDirectory {depth : Nat} {report : ReconcileReport} {visited : Overlay.WalkState}
    (listed : tree.list (overlay.sourceOf (Path.ofNames dir)) = .ok names)
    (visits : runFrom ((Overlay.visitAll ⟨overlay, written, suffix, Path.ofNames dir⟩
      (overlay.walkDirectory written suffix depth) names).run { report := report }) tree =
        (.ok (⟨⟩, visited), after)) :
    runFrom (overlay.walkDirectory written suffix (depth + 1) (Path.ofNames dir) report) tree =
      (.ok visited.report, after) := by
  have listing : runFrom (Overlay.fileStep (overlay.sourceOf (Path.ofNames dir))
      (TreeM.ask fun tree => tree.list (overlay.sourceOf (Path.ofNames dir)))) tree =
        (.ok names, tree) := by
    rw [Overlay.runFrom_fileStep, TreeM.runFrom_ask, listed]
  rw [Overlay.run_walkDirectory, runFrom_bind_of_ok listing, runFrom_bind_of_ok visits]
  rfl

theorem runFrom_visitAll (handles : Handles overlay written suffix dir names tree ready after log)
    (begins : ground.Begins overlay written dir names tree ready) {depth : Nat}
    (deep : written.depth < depth + 1 + dir.length) (report : ReconcileReport) :
    ∃ later, runFrom ((Overlay.visitAll ⟨overlay, written, suffix, Path.ofNames dir⟩
        (overlay.walkDirectory written suffix depth) names).run ⟨report, ready⟩) tree =
      (.ok (⟨⟩, ⟨log.foldl overlay.logged report, later⟩), after) := by
  induction handles generalizing depth report with
  | @done dir tree ready => exact ⟨ready, rfl⟩
  | @descend dir names belowNames name tree made middle after ready inner log choice owned listed
      inside onward ihInside ihOnward =>
      obtain ⟨owns, below⟩ := begins.inside choice owned listed
      have spares := owns.spares.trans (handles_keeps inside below).spares
      -- the walk has depth left, since a written path lies below the directory
      have long := below.walked.length_le
      rw [List.length_append, List.length_singleton] at long
      obtain ⟨depth, rfl⟩ : ∃ less, depth = less + 1 := ⟨depth - 1, by omega⟩
      have deeper : written.depth < depth + 1 + (dir ++ [name]).length := by simp; omega
      obtain ⟨_, visits⟩ := ihInside below deeper (overlay.logged report (dir ++ [name], .descend))
      have visited : runFrom ((Overlay.visit ⟨overlay, written, suffix, Path.ofNames dir⟩ _ name).run
          ⟨report, ready⟩) tree = _ :=
        runFrom_visit_descend begins.walked.areNames begins.isName choice owned
          (runFrom_walkDirectory listed visits)
      obtain ⟨later, ran⟩ := ihOnward (begins.onward spares) deep
        (inner.foldl overlay.logged (overlay.logged report (dir ++ [name], .descend)))
      refine ⟨later, ?_⟩
      rw [Overlay.run_visitAll_cons, runFrom_bind_of_ok visited, List.foldl_cons, List.foldl_append]
      exact ran
  | skip choice onward ih =>
      obtain ⟨later, ran⟩ := ih (begins.onward (Spares.refl _ _)) deep _
      refine ⟨later, ?_⟩
      rw [Overlay.run_visitAll_cons,
        runFrom_bind_of_ok (runFrom_visit_skip begins.walked.areNames begins.isName choice)]
      exact ran
  | link choice prepared linked onward ih =>
      obtain ⟨_, _, _, _, onwards⟩ := begins.link prepared linked
      obtain ⟨later, ran⟩ := ih onwards deep _
      refine ⟨later, ?_⟩
      rw [Overlay.run_visitAll_cons, runFrom_bind_of_ok
        (runFrom_visit_link begins.walked.areNames begins.isName choice prepared linked)]
      exact ran

/-- A reconciliation does what a trace that begins with the source root tells. -/
theorem runFrom_reconcile (stands : ground.Stands overlay.root tree)
    (listed : tree.list (overlay.sourceOf (Path.ofNames [])) = .ok names)
    (handles : Handles overlay written suffix [] names tree false after log) :
    runFrom (overlay.reconcile written suffix) tree = (.ok (log.foldl overlay.logged {}), after) := by
  have deep : written.depth < written.depth + 1 + ([] : List String).length := by simp
  obtain ⟨_, visits⟩ := runFrom_visitAll handles (.top stands listed) deep {}
  have root : (⟨""⟩ : Path) = Path.ofNames [] := by simp [Path.ofNames]
  rw [Overlay.reconcile, root]
  exact runFrom_walkDirectory listed visits

end Ground
end AspectLoom
