import AspectLoom.Proofs.ReconcileSteps
import Mathlib.Data.List.Sort
import Mathlib.Data.String.Basic
/-!
The source tree as a reconciliation sees it. Where no path of the source leads into the overlay or to a
missing directory on the way there, the source looks the same whatever is made in the overlay.
-/
namespace AspectLoom

open Actions
open FileTree (AgreeOn isEntryName maxLinks steps)

/-! The names in a directory -/

namespace FileTree

variable {tree other : FileTree} {place : Place} {name : String}

theorem mem_children (sound : tree.Sound) :
    name ∈ tree.children place ↔ ∃ entry, tree.entryAt? (place ++ [name]) = some entry := by
  rw [children, List.mem_filterMap]
  constructor
  · rintro ⟨⟨below, entry⟩, member, last⟩
    dsimp only at last
    split at last
    · rename_i parent
      obtain ⟨front, rfl⟩ := List.getLast?_eq_some_iff.mp last
      rw [List.dropLast_concat] at parent
      subst parent
      refine ⟨entry, ?_⟩
      rw [entryAt?_of_ne_nil (by simp), Assoc.find?_of_mem sound.distinct member]
    · cases last
  · rintro ⟨entry, stands⟩
    refine ⟨(place ++ [name], entry), mem_entries (by simp) stands, ?_⟩
    simp

theorem nodup_children (sound : tree.Sound) (place : Place) : (tree.children place).Nodup := by
  have keys : tree.children place = (tree.entries.map Prod.fst).filterMap fun below =>
      if below.dropLast = place then below.getLast? else none := by
    rw [children, List.filterMap_map]
    rfl
  rw [keys]
  refine sound.distinct.filterMap ?_
  intro left right name first second
  rw [Option.mem_def] at first second
  split at first
  · rename_i leftParent
    split at second
    · rename_i rightParent
      obtain ⟨front, rfl⟩ := List.getLast?_eq_some_iff.mp first
      obtain ⟨other, rfl⟩ := List.getLast?_eq_some_iff.mp second
      rw [List.dropLast_concat] at leftParent rightParent
      rw [leftParent, rightParent]
    · cases second
  · cases first

theorem nodup_of_list (sound : tree.Sound) {path : Path} {names : List String}
    (listed : tree.list path = .ok names) : names.Nodup := by
  rw [FileTree.list] at listed
  obtain ⟨place, _, listed⟩ := bind_ok listed
  split at listed
  · cases listed
    exact (sortBy_perm _).nodup_iff.mpr (nodup_children sound place)
  · cases listed
  · cases listed

/-- Directories with the same names of some sort list these alike. -/
theorem filter_children (keep : String → Bool) (sound : tree.Sound) (otherSound : other.Sound)
    (same : ∀ name, keep name = true →
      (name ∈ other.children place ↔ name ∈ tree.children place)) :
    (sortBy (fun left right => left ≤ right) (other.children place)).filter keep =
      (sortBy (fun left right => left ≤ right) (tree.children place)).filter keep := by
  have perm : ((other.children place).filter keep).Perm ((tree.children place).filter keep) := by
    refine (List.perm_ext_iff_of_nodup ((nodup_children otherSound place).filter _)
      ((nodup_children sound place).filter _)).mpr fun name => ?_
    rw [List.mem_filter, List.mem_filter]
    exact and_congr_left (same name)
  have sorted : ∀ names : List String,
      ((sortBy (fun left right => decide (left ≤ right)) names).filter keep).Pairwise (· ≤ ·) := by
    intro names
    refine ((pairwise_sortBy (fun _ _ _ => by simpa using le_trans) (fun left right => by
      simpa using le_total left right) names).imp ?_).filter _
    simp
  exact ((((sortBy_perm _).filter keep).trans perm).trans
    ((sortBy_perm _).filter keep).symm).eq_of_pairwise' (sorted _) (sorted _)

theorem list_of_sorted {path : Path} {names : List String}
    (placed : (tree.place true path).toOption = some place)
    (directory : tree.entryAt? place = some .directory) (children : tree.children place = names)
    (sorted : names.Pairwise (· ≤ ·)) : tree.list path = .ok names := by
  rw [list_of_place (ok_of_toOption placed), directory, children]
  exact congrArg _ (sortBy_of_pairwise (by simpa using sorted))

/-! What paths lead to -/

variable {path : Path} {follow : Bool}

/-- Where a tree changed off the way of a path, the path leads to the same place. -/
theorem place_congr (workDir : other.workDir = tree.workDir)
    (agree : AgreeOn (tree.visits maxLinks (tree.startOf path) (steps path.text)) tree other) :
    other.place follow path = tree.place follow path := by
  have start : other.startOf path = tree.startOf path := by rw [startOf, startOf, workDir]
  have walked := walk_congr follow maxLinks _ _ agree
  rw [FileTree.place, FileTree.place]
  change (checkText path.text >>= fun _ => other.walk follow maxLinks (other.startOf path) _) =
    (checkText path.text >>= fun _ => tree.walk follow maxLinks (tree.startOf path) _)
  rw [start, walked]

/-- What stands there is the same too when directories have stayed. -/
theorem entryAt?_place_congr (sound : tree.Sound)
    (agree : AgreeOn (tree.visits maxLinks (tree.startOf path) (steps path.text)) tree other)
    (directories : ∀ place, tree.entryAt? place = some .directory →
      other.entryAt? place = some .directory) {place : Place}
    (placed : tree.place follow path = .ok place) : other.entryAt? place = tree.entryAt? place := by
  obtain ⟨_, walked⟩ := place_ok_iff.mp placed
  rcases walk_visits sound (startOf_directory sound path) walked with visited | directory
  · exact agree place visited
  · rw [directory, directories place directory]

theorem entryAt_congr (sound : tree.Sound) (workDir : other.workDir = tree.workDir)
    (agree : AgreeOn (tree.visits maxLinks (tree.startOf path) (steps path.text)) tree other)
    (directories : ∀ place, tree.entryAt? place = some .directory →
      other.entryAt? place = some .directory) :
    other.entryAt follow path = tree.entryAt follow path := by
  have same : other.place follow path = tree.place follow path := place_congr workDir agree
  cases placed : tree.place follow path with
  | error cause =>
      rw [FileTree.entryAt, FileTree.entryAt, same, placed]
      rfl
  | ok place =>
      rw [entryAt_of_place placed, entryAt_of_place (same.trans placed),
        entryAt?_place_congr sound agree directories placed]

/-- A directory lists the same names of some sort when none of these has come or gone in it. -/
theorem list_filter_congr (keep : String → Bool) (sound : tree.Sound) (otherSound : other.Sound)
    (workDir : other.workDir = tree.workDir)
    (onWay : AgreeOn (tree.visits maxLinks (tree.startOf path) (steps path.text)) tree other)
    (agree : ∀ name, isEntryName name = true → keep name = true →
      AgreeOn (tree.visits maxLinks (tree.startOf path) (path.segments ++ [name])) tree other)
    (directories : ∀ place, tree.entryAt? place = some .directory →
      other.entryAt? place = some .directory) :
    (other.list path).map (List.filter keep) = (tree.list path).map (List.filter keep) := by
  have same : other.place true path = tree.place true path := place_congr workDir onWay
  cases placed : tree.place true path with
  | error cause =>
      rw [FileTree.list, FileTree.list, same, placed]
      rfl
  | ok place =>
      have stands := entryAt?_place_congr sound onWay directories placed
      rw [list_of_place placed, list_of_place (same.trans placed), stands]
      split
      · rename_i directory
        have walked : tree.walk true maxLinks (tree.startOf path) path.segments = .ok place := by
          obtain ⟨_, walked⟩ := place_ok_iff.mp placed
          rcases Path.steps_cases path with same | same
          · rwa [same] at walked
          · rw [same] at walked
            exact walk_of_dot walked
        have inside : ∀ name, isEntryName name = true → keep name = true →
            other.entryAt? (place ++ [name]) = tree.entryAt? (place ++ [name]) :=
          fun name isName kept => agree name isName kept _ (visits_append walked directory isName)
        refine congrArg Except.ok (filter_children keep sound otherSound fun name kept => ?_)
        rw [mem_children otherSound, mem_children sound]
        constructor
        · rintro ⟨entry, stands⟩
          exact ⟨entry, inside name (otherSound.isEntryName stands) kept ▸ stands⟩
        · rintro ⟨entry, stands⟩
          exact ⟨entry, (inside name (sound.isEntryName stands) kept).trans stands⟩
      · rfl
      · rfl

/-- A directory lists the same when nothing has come or gone in it. -/
theorem list_congr (sound : tree.Sound) (otherSound : other.Sound)
    (workDir : other.workDir = tree.workDir)
    (agree : ∀ name, isEntryName name = true →
      AgreeOn (tree.visits maxLinks (tree.startOf path) (path.segments ++ [name])) tree other)
    (directories : ∀ place, tree.entryAt? place = some .directory →
      other.entryAt? place = some .directory) :
    other.list path = tree.list path := by
  have onWay : AgreeOn (tree.visits maxLinks (tree.startOf path) (steps path.text)) tree other := by
    have some : isEntryName "a" = true := by decide
    intro place visited
    refine agree "a" some place (visits_starts _ _ _ _ ?_)
    rcases Path.steps_cases path with same | same
    · rwa [same] at visited
    · rwa [same, visits_dot] at visited
  have all : ∀ listed : Except FileError (List String),
      listed.map (List.filter fun _ => true) = listed := by
    rintro (cause | names)
    · rfl
    · exact congrArg Except.ok (List.filter_true names)
  rw [← all (other.list path), ← all (tree.list path)]
  exact list_filter_congr _ sound otherSound workDir onWay (fun name isName _ => agree name isName)
    directories

end FileTree

/-! Sources apart from the overlay -/

namespace Ground

variable {ground : Ground} {overlay : Overlay} {written : Written} {suffix : String}
  {tree other : FileTree} {dir : List String} {name : String}

/-- Whether a reconciliation walks a source directory, given by its names. -/
def Walked (written : Written) (dir : List String) : Prop :=
  (∀ name ∈ dir, isEntryName name = true) ∧
    (dir = [] ∨ written.reaches (Path.ofNames dir) = true)

/-- Whatever a walk looks at is a directory already, or it is neither in the overlay nor missing on the
way there. -/
def Steady (ground : Ground) (tree : FileTree) (start : Place) (pieces : List String) : Prop :=
  ∀ place ∈ tree.visits maxLinks start pieces, tree.entryAt? place = some .directory ∨
    ¬ ground.place <+: place ∧ ¬ (place ∈ ground.entered ∧ tree.entryAt? place = none)

theorem Steady.agree {start : Place} {pieces : List String} (steady : ground.Steady tree start pieces)
    (spares : ground.Spares tree other) :
    AgreeOn (tree.visits maxLinks start pieces) tree other := by
  intro place visited
  rcases steady place visited with directory | ⟨off, notMissing⟩
  · rw [directory, spares.directories place directory]
  · exact (spares.outside place off).resolve_right
      fun ⟨member, missing, _⟩ => notMissing ⟨member, missing⟩

/-- What a walk looks at stays as it is. -/
theorem Steady.later {start : Place} {pieces : List String} (steady : ground.Steady tree start pieces)
    (spares : ground.Spares tree other) : ground.Steady other start pieces := by
  have agree := steady.agree spares
  intro place visited
  rw [FileTree.visits_congr _ _ _ agree] at visited
  rw [agree place visited]
  exact steady place visited

/-- No path of an entry in a source directory that is walked leads, over whatever links, into the
overlay or to a directory that is missing on the way there. -/
def Apart (ground : Ground) (overlay : Overlay) (written : Written) (tree : FileTree) : Prop :=
  ∀ dir name, Walked written dir → isEntryName name = true →
    ground.Steady tree (tree.startOf overlay.sourceRoot)
      (overlay.sourceRoot.segments ++ (dir ++ [name]))

theorem Walked.areNames (walked : Walked written dir) : Path.AreNames dir :=
  fun name member => Path.isName_of_isEntryName (walked.1 name member)

/-- No path below a root leads, over whatever links, into the overlay or to a directory that is missing
on the way there. -/
def Secludes (ground : Ground) (root : Path) (tree : FileTree) : Prop :=
  ∀ names, Path.AreNames names → ground.Steady tree (tree.startOf root) (root.segments ++ names)

theorem Secludes.apart (secludes : ground.Secludes overlay.sourceRoot tree) (written : Written) :
    ground.Apart overlay written tree :=
  fun _ _ walked isName => secludes _ (areNames_concat walked.areNames isName)

section
variable {root : Path} {place : Place} {entered : List Place}
  (way : tree.Way (tree.startOf root) root.segments place entered [])
  (found : ∀ place ∈ entered, tree.entryAt? place = some .directory)
  (noLinks : ∀ below, place <+: below → ∀ target, tree.entryAt? below ≠ some (.link target))
include way found noLinks

/-- A path below a root without links leads over the way to the root and then stays below it. -/
theorem visited_of_no_links {names : List String} (areSteps : ∀ name ∈ names, FileTree.IsStep name)
    {visited : Place} (member : visited ∈ tree.visits maxLinks (tree.startOf root)
      (root.segments ++ names)) : visited ∈ entered ∨ place <+: visited := by
  rcases way.visits_onward found maxLinks visited member with onWay | crossed | behind
  · exact .inl onWay
  · cases crossed
  · exact .inr (FileTree.visits_below noLinks areSteps _ visited behind)

/-- A directory without links is secluded from an overlay that neither holds it nor is in it. -/
theorem secludes_of_no_links (notAbove : ¬ place <+: ground.place) (notBelow : ¬ ground.place <+: place)
    (made : ∀ below ∈ ground.entered, place <+: below → tree.entryAt? below ≠ none) :
    ground.Secludes root tree := by
  intro names areNames visited member
  rcases visited_of_no_links way found noLinks (fun name among => (areNames name among).2.2) member with
    onWay | below
  · exact .inl (found visited onWay)
  · refine .inr ⟨fun inside => ?_, fun ⟨among, missing⟩ => made visited among below missing⟩
    exact (List.prefix_or_prefix_of_prefix below inside).elim notAbove notBelow

end

theorem source_eq (areNames : Path.AreNames dir) (isName : isEntryName name = true) :
    Overlay.Walk.source ⟨overlay, written, suffix, Path.ofNames dir⟩ name =
      overlay.sourceRoot.join (Path.ofNames (dir ++ [name])) :=
  Path.join_join_ofNames areNames (Path.isName_of_isEntryName isName)

theorem steps_source (areNames : Path.AreNames dir) (isName : isEntryName name = true) :
    steps (Overlay.Walk.source ⟨overlay, written, suffix, Path.ofNames dir⟩ name).text =
      overlay.sourceRoot.segments ++ (dir ++ [name]) := by
  rw [Overlay.Walk.source, Path.steps_join_name (Path.isName_of_isEntryName isName),
    Overlay.sourceOf, Path.segments_join (Path.isAbsolute_ofNames areNames),
    Path.segments_ofNames areNames, List.append_assoc]

theorem startOf_source (areNames : Path.AreNames dir) (isName : isEntryName name = true) :
    tree.startOf (Overlay.Walk.source ⟨overlay, written, suffix, Path.ofNames dir⟩ name) =
      tree.startOf overlay.sourceRoot := by
  rw [source_eq areNames isName]
  exact startOf_eq (Path.isAbsolute_join (Path.isAbsolute_ofNames (areNames_concat areNames isName)))

/-- An entry of the source looks the same after a change that spares it. -/
theorem Apart.entryAt_source (apart : ground.Apart overlay written tree) (sound : tree.Sound)
    (spares : ground.Spares tree other) (walked : Walked written dir)
    (isName : isEntryName name = true) (follow : Bool) :
    other.entryAt follow (Overlay.Walk.source ⟨overlay, written, suffix, Path.ofNames dir⟩ name) =
      tree.entryAt follow (Overlay.Walk.source ⟨overlay, written, suffix, Path.ofNames dir⟩ name) := by
  refine FileTree.entryAt_congr sound spares.workDir ?_ spares.directories
  rw [steps_source walked.areNames isName, startOf_source walked.areNames isName]
  exact (apart _ _ walked isName).agree spares

theorem Apart.kindSeen (apart : ground.Apart overlay written tree) (sound : tree.Sound)
    (spares : ground.Spares tree other) (walked : Walked written dir)
    (isName : isEntryName name = true) :
    Overlay.kindSeen other (Overlay.Walk.source ⟨overlay, written, suffix, Path.ofNames dir⟩ name) =
      Overlay.kindSeen tree (Overlay.Walk.source ⟨overlay, written, suffix, Path.ofNames dir⟩ name) := by
  have same := @entryAt_source _ _ _ suffix _ _ _ _ apart sound spares walked isName
  rw [Overlay.kindSeen, Overlay.kindSeen, FileTree.target, FileTree.target, FileTree.entryOf,
    FileTree.entryOf, same true, same false]

/-- A directory of the source is listed alike. -/
theorem Apart.list (apart : ground.Apart overlay written tree) (sound : tree.Sound)
    (spares : ground.Spares tree other) (walked : Walked written dir) :
    other.list (overlay.sourceOf (Path.ofNames dir)) =
      tree.list (overlay.sourceOf (Path.ofNames dir)) := by
  have relative := Path.isAbsolute_ofNames walked.areNames
  refine FileTree.list_congr sound (spares.sound sound) spares.workDir ?_ spares.directories
  intro name isName
  rw [Overlay.sourceOf, startOf_eq (Path.isAbsolute_join relative), Path.segments_join relative,
    Path.segments_ofNames walked.areNames, List.append_assoc]
  exact (apart _ _ walked isName).agree spares

end Ground
end AspectLoom
