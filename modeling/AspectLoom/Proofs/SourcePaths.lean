import AspectLoom.Proofs.SettledOverlays
import AspectLoom.Proofs.SourceViews
/-!
Paths of the source that name something. Where no path of the source leads into the overlay, what such
a path names is still there whatever is made in the overlay, and its directory lists it.
-/
namespace AspectLoom

open Actions
open FileTree (AgreeOn checkText isEntryName maxLinks steps)

/-- A path that ends with a name does not end with a slash. -/
theorem Path.steps_join_concat {base : Path} {front : List String} {name : String}
    (areNames : AreNames (front ++ [name])) :
    steps (base.join (ofNames (front ++ [name]))).text = base.segments ++ (front ++ [name]) := by
  obtain ⟨above, isName⟩ := List.forall_mem_append.mp areNames
  rw [← join_join_ofNames above (isName name (List.mem_singleton_self name)),
    steps_join_name (isName name (List.mem_singleton_self name)),
    segments_join (isAbsolute_ofNames above), segments_ofNames above, List.append_assoc]

namespace Ground

/-- No path of the source leads into the overlay, except over directories that are there, and none is the
path of the overlay's root. -/
structure Disjoint (ground : Ground) (overlay : Overlay) (tree : FileTree) : Prop where
  unlike : ∀ names, Path.AreNames names →
    overlay.root.components ≠ overlay.sourceRoot.components ++ names.map .name
  outside : ∀ names, (∀ name ∈ names, isEntryName name = true) →
    ∀ place ∈ tree.visits maxLinks (tree.startOf overlay.sourceRoot)
        (overlay.sourceRoot.segments ++ names),
      ground.place <+: place → tree.entryAt? place = some .directory

variable {ground : Ground} {overlay : Overlay} {tree other : FileTree} {front back names : List String}
  {name : String} {place : Place} {entry : Entry}

theorem areNames_of_entries (entries : ∀ name ∈ names, isEntryName name = true) :
    Path.AreNames names := fun name member => Path.isName_of_isEntryName (entries name member)

/-- A source directory without links is disjoint from an overlay that neither holds it nor is in it. -/
theorem disjoint_of_no_links {entered : List Place}
    (unlike : ∀ names, Path.AreNames names →
      overlay.root.components ≠ overlay.sourceRoot.components ++ names.map .name)
    (way : tree.Way (tree.startOf overlay.sourceRoot) overlay.sourceRoot.segments place entered [])
    (found : ∀ place ∈ entered, tree.entryAt? place = some .directory)
    (noLinks : ∀ below, place <+: below → ∀ target, tree.entryAt? below ≠ some (.link target))
    (notAbove : ¬ place <+: ground.place) (notBelow : ¬ ground.place <+: place) :
    ground.Disjoint overlay tree := by
  refine ⟨unlike, fun names entries visited member inside => ?_⟩
  have areSteps : ∀ name ∈ names, FileTree.IsStep name :=
    fun name among => (areNames_of_entries entries name among).2.2
  rcases visited_of_no_links way found noLinks areSteps member with onWay | below
  · exact found visited onWay
  · exact ((List.prefix_or_prefix_of_prefix below inside).elim notAbove notBelow).elim

theorem steps_sourceOf (areNames : Path.AreNames names) :
    steps (overlay.sourceOf (Path.ofNames names)).text = overlay.sourceRoot.segments ++ names ∨
      steps (overlay.sourceOf (Path.ofNames names)).text =
        overlay.sourceRoot.segments ++ names ++ ["."] := by
  have segments : (overlay.sourceOf (Path.ofNames names)).segments =
      overlay.sourceRoot.segments ++ names := by
    rw [Overlay.sourceOf, Path.segments_join (Path.isAbsolute_ofNames areNames),
      Path.segments_ofNames areNames]
  rw [← segments]
  exact Path.steps_cases _

theorem startOf_sourceOf (areNames : Path.AreNames names) (tree : FileTree) :
    tree.startOf (overlay.sourceOf (Path.ofNames names)) = tree.startOf overlay.sourceRoot :=
  startOf_eq (Path.isAbsolute_join (Path.isAbsolute_ofNames areNames))

theorem isDirectory_iff_target {path : Path} :
    tree.isDirectory path = true ↔ tree.target path = .ok .directory := by
  rw [FileTree.isDirectory_iff, FileTree.target, FileTree.entryAt_ok_iff]

/-- What a path of a directory is walked to. -/
theorem walk_of_place (areNames : Path.AreNames names)
    (placed : tree.place true (overlay.sourceOf (Path.ofNames names)) = .ok place) :
    tree.walk true maxLinks (tree.startOf overlay.sourceRoot) (overlay.sourceRoot.segments ++ names) =
      .ok place := by
  obtain ⟨_, walked⟩ := FileTree.place_ok_iff.mp placed
  rw [startOf_sourceOf areNames] at walked
  rcases steps_sourceOf areNames with same | same
  · rwa [same] at walked
  · rw [same] at walked
    exact FileTree.walk_of_dot walked

theorem steps_sourceOf_concat (areNames : Path.AreNames (front ++ [name])) :
    steps (overlay.sourceOf (Path.ofNames (front ++ [name]))).text =
      overlay.sourceRoot.segments ++ (front ++ [name]) := Path.steps_join_concat areNames

/-- A path of something that exists leads over directories. -/
theorem walk_of_entryOf (sound : tree.Sound) (areNames : Path.AreNames (front ++ back))
    (more : back ≠ [])
    (found : tree.entryOf (overlay.sourceOf (Path.ofNames (front ++ back))) = .ok entry) :
    ∃ dir left place, tree.walk true maxLinks (tree.startOf overlay.sourceRoot)
        (overlay.sourceRoot.segments ++ front) = .ok dir ∧ tree.entryAt? dir = some .directory ∧
      tree.walk false left dir back = .ok place ∧ tree.entryAt? place = some entry := by
  obtain ⟨place, placed, stands⟩ := FileTree.entryAt_ok_iff.mp found
  obtain ⟨_, walked⟩ := FileTree.place_ok_iff.mp placed
  rw [startOf_sourceOf areNames] at walked
  obtain ⟨init, last, rfl⟩ := (List.eq_nil_or_concat back).resolve_left more
  rw [List.concat_eq_append, ← List.append_assoc] at areNames walked
  rw [steps_sourceOf_concat areNames, List.append_assoc, ← List.append_assoc] at walked
  obtain ⟨dir, left, _, first, directory, onward⟩ := FileTree.walk_front sound
    (FileTree.startOf_directory sound overlay.sourceRoot) (by simp) walked
  refine ⟨dir, left, place, first, directory, ?_, stands⟩
  rwa [List.concat_eq_append]

/-- A path that is walked to a directory leads there. -/
theorem target_of_walk (areNames : Path.AreNames names)
    (checked : checkText (overlay.sourceOf (Path.ofNames names)).text = .ok ())
    (walked : tree.walk true maxLinks (tree.startOf overlay.sourceRoot)
      (overlay.sourceRoot.segments ++ names) = .ok place)
    (directory : tree.entryAt? place = some .directory) :
    tree.target (overlay.sourceOf (Path.ofNames names)) = .ok .directory := by
  refine FileTree.entryAt_ok_iff.mpr ⟨place, FileTree.place_ok_iff.mpr ⟨checked, ?_⟩, directory⟩
  rw [startOf_sourceOf areNames]
  rcases steps_sourceOf areNames with same | same
  · rw [same, walked]
  · obtain ⟨_, _, onward⟩ := FileTree.walk_append walked directory
    rw [same, onward true ["."] (by simp), FileTree.walk_here, FileTree.walk_nil]

/-- What is above something that exists is a directory. -/
theorem target_above (sound : tree.Sound) (areNames : Path.AreNames (front ++ back))
    (filled : front ≠ []) (more : back ≠ [])
    (found : tree.entryOf (overlay.sourceOf (Path.ofNames (front ++ back))) = .ok entry) :
    tree.target (overlay.sourceOf (Path.ofNames front)) = .ok .directory := by
  have above : Path.AreNames front := fun name member => areNames name (List.mem_append_left _ member)
  obtain ⟨dir, left, _, walked, directory, _⟩ := walk_of_entryOf sound areNames more found
  obtain ⟨_, placed, _⟩ := FileTree.entryAt_ok_iff.mp found
  have checked := FileTree.checkText_above areNames (List.prefix_append _ _) filled
    (FileTree.place_ok_iff.mp placed).1
  exact target_of_walk above checked walked directory

/-- Whether a source directory has an entry of a name. -/
def HasEntry (overlay : Overlay) (tree : FileTree) (front : List String) (name : String) : Prop :=
  ∃ dir entry, tree.walk true maxLinks (tree.startOf overlay.sourceRoot)
      (overlay.sourceRoot.segments ++ front) = .ok dir ∧
    tree.entryAt? dir = some .directory ∧ tree.entryAt? (dir ++ [name]) = some entry

theorem hasEntry_of_entryOf (sound : tree.Sound) (areNames : Path.AreNames (front ++ name :: back))
    (found : tree.entryOf (overlay.sourceOf (Path.ofNames (front ++ name :: back))) = .ok entry) :
    HasEntry overlay tree front name := by
  obtain ⟨dir, left, place, walked, directory, onward, stands⟩ :=
    walk_of_entryOf sound areNames (List.cons_ne_nil _ _) found
  have isName : Path.IsName name := areNames name (by simp)
  obtain ⟨_, ⟨rfl, _⟩ | ⟨into, _⟩ | ⟨target, _, link, _⟩⟩ := FileTree.walk_step_ok isName.2.2 onward
  · exact ⟨dir, _, walked, directory, stands⟩
  · exact ⟨dir, _, walked, directory, into⟩
  · exact ⟨dir, _, walked, directory, link⟩

theorem hasEntry_of_list (sound : tree.Sound) (areNames : Path.AreNames front)
    (listed : tree.list (overlay.sourceOf (Path.ofNames front)) = .ok names) (member : name ∈ names) :
    HasEntry overlay tree front name := by
  rw [FileTree.list] at listed
  obtain ⟨dir, placed, listed⟩ := bind_ok listed
  split at listed
  · rename_i directory
    cases listed
    obtain ⟨entry, stands⟩ := (FileTree.mem_children sound).mp (mem_sortBy.mp member)
    exact ⟨dir, entry, walk_of_place areNames placed, directory, stands⟩
  · cases listed
  · cases listed

/-- A source directory has an entry for each directory in it that a path leads to. -/
theorem hasEntry_of_target (sound : tree.Sound) (areNames : Path.AreNames (front ++ [name]))
    (found : tree.target (overlay.sourceOf (Path.ofNames (front ++ [name]))) = .ok .directory) :
    HasEntry overlay tree front name := by
  obtain ⟨place, placed, directory⟩ := FileTree.entryAt_ok_iff.mp found
  have walked := walk_of_place areNames placed
  rw [← List.append_assoc] at walked
  obtain ⟨dir, left, _, begins, isDirectory, onward⟩ := FileTree.walk_front sound
    (FileTree.startOf_directory sound overlay.sourceRoot) (List.cons_ne_nil _ _) walked
  have isName : Path.IsName name := areNames name (by simp)
  obtain ⟨_, ⟨_, _, other, _⟩ | ⟨into, _⟩ | ⟨target, _, link, _⟩⟩ :=
    FileTree.walk_step_ok isName.2.2 onward
  · exact absurd directory other
  · exact ⟨dir, _, begins, isDirectory, into⟩
  · exact ⟨dir, _, begins, isDirectory, link⟩

theorem mem_list_of_hasEntry (sound : tree.Sound) (areNames : Path.AreNames front)
    (found : HasEntry overlay tree front name)
    (listed : tree.list (overlay.sourceOf (Path.ofNames front)) = .ok names) : name ∈ names := by
  obtain ⟨dir, entry, walked, _, stands⟩ := found
  rw [FileTree.list] at listed
  obtain ⟨place, placed, listed⟩ := bind_ok listed
  have same := walk_of_place areNames placed
  rw [walked] at same
  cases same
  split at listed
  · cases listed
    exact mem_sortBy.mpr ((FileTree.mem_children sound).mpr ⟨_, stands⟩)
  · cases listed
  · cases listed

/-- What is above something that exists does. -/
theorem entryOf_above (sound : tree.Sound) (areNames : Path.AreNames (front ++ name :: back))
    (found : tree.entryOf (overlay.sourceOf (Path.ofNames (front ++ name :: back))) = .ok entry) :
    ∃ above, tree.entryOf (overlay.sourceOf (Path.ofNames (front ++ [name]))) = .ok above := by
  obtain ⟨dir, above, walked, directory, there⟩ := hasEntry_of_entryOf sound areNames found
  have shorter : Path.AreNames (front ++ [name]) :=
    fun other member => areNames other (by simp at member ⊢; tauto)
  obtain ⟨_, placed, _⟩ := FileTree.entryAt_ok_iff.mp found
  have starts : front ++ [name] <+: front ++ name :: back := ⟨back, by simp⟩
  have checked := FileTree.checkText_above areNames starts (by simp) (FileTree.place_ok_iff.mp placed).1
  obtain ⟨_, _, goes⟩ := FileTree.walk_append walked directory
  refine ⟨above, FileTree.entryAt_ok_iff.mpr ⟨dir ++ [name],
    FileTree.place_ok_iff.mpr ⟨checked, ?_⟩, there⟩⟩
  rw [startOf_sourceOf shorter, steps_sourceOf_concat shorter, ← List.append_assoc,
    goes false [name] (List.cons_ne_nil _ _), FileTree.walk_name (sound.isEntryName there) (by simp)]

namespace Disjoint

variable (disjoint : ground.Disjoint overlay tree) (spares : ground.Spares tree other)
include disjoint spares

theorem kept (entries : ∀ name ∈ names, isEntryName name = true)
    (visited : place ∈ tree.visits maxLinks (tree.startOf overlay.sourceRoot)
      (overlay.sourceRoot.segments ++ names)) (stands : tree.entryAt? place = some entry) :
    other.entryAt? place = some entry := by
  by_cases inside : ground.place <+: place
  · have directory := disjoint.outside names entries place visited inside
    rw [spares.directories place directory, ← stands, directory]
  · rcases spares.outside place inside with same | ⟨_, missing, _⟩
    · rw [same, stands]
    · rw [stands] at missing
      cases missing

/-- All that is on the way to something stays. -/
theorem agree (entries : ∀ name ∈ names, isEntryName name = true)
    (walked : tree.walk true maxLinks (tree.startOf overlay.sourceRoot)
      (overlay.sourceRoot.segments ++ names) = .ok place)
    (stands : tree.entryAt? place = some entry) :
    AgreeOn (tree.visits maxLinks (tree.startOf overlay.sourceRoot)
      (overlay.sourceRoot.segments ++ names)) tree other := by
  intro visited member
  obtain ⟨found, there⟩ := FileTree.visits_exist walked stands visited member
  rw [disjoint.kept spares entries member there, there]

/-- What a path leads to behind all links. -/
theorem target (sound : tree.Sound) (entries : ∀ name ∈ names, isEntryName name = true)
    (found : tree.target (overlay.sourceOf (Path.ofNames names)) = .ok entry) :
    other.target (overlay.sourceOf (Path.ofNames names)) = .ok entry := by
  have areNames := areNames_of_entries entries
  obtain ⟨place, placed, stands⟩ := FileTree.entryAt_ok_iff.mp found
  have agree := disjoint.agree spares entries (walk_of_place areNames placed) stands
  rw [FileTree.target, FileTree.entryAt_congr sound spares.workDir ?_ spares.directories]
  · exact found
  · rw [startOf_sourceOf areNames]
    rcases steps_sourceOf areNames with same | same
    · rwa [same]
    · rwa [same, FileTree.visits_dot]

/-- A source directory keeps its entries. -/
theorem hasEntry (entries : ∀ other ∈ front ++ [name], isEntryName other = true) {dir : Place}
    (walked : tree.walk true maxLinks (tree.startOf overlay.sourceRoot)
      (overlay.sourceRoot.segments ++ front) = .ok dir)
    (directory : tree.entryAt? dir = some .directory)
    (stands : tree.entryAt? (dir ++ [name]) = some entry) :
    other.walk true maxLinks (other.startOf overlay.sourceRoot)
        (overlay.sourceRoot.segments ++ front) = .ok dir ∧
      other.entryAt? dir = some .directory ∧ other.entryAt? (dir ++ [name]) = some entry := by
  obtain ⟨above, last⟩ := List.forall_mem_append.mp entries
  have visited := FileTree.visits_append walked directory (last name (List.mem_singleton_self name))
  rw [List.append_assoc] at visited
  have start : other.startOf overlay.sourceRoot = tree.startOf overlay.sourceRoot := by
    rw [FileTree.startOf, FileTree.startOf, spares.workDir]
  refine ⟨?_, spares.directories dir directory, disjoint.kept spares entries visited stands⟩
  rw [start, FileTree.walk_congr true maxLinks _ _ (disjoint.agree spares above walked directory), walked]

/-- What a path names stays, and the path leads to it as before. -/
theorem entryOf (sound : tree.Sound) (entries : ∀ other ∈ front ++ [name], isEntryName other = true)
    (found : tree.entryOf (overlay.sourceOf (Path.ofNames (front ++ [name]))) = .ok entry) :
    ∃ place, tree.place false (overlay.sourceOf (Path.ofNames (front ++ [name]))) = .ok place ∧
      other.place false (overlay.sourceOf (Path.ofNames (front ++ [name]))) = .ok place ∧
        other.entryAt? place = some entry := by
  have areNames := areNames_of_entries entries
  have isName := entries name (by simp)
  obtain ⟨dir, left, place, walked, directory, onward, stands⟩ :=
    walk_of_entryOf sound areNames (List.cons_ne_nil _ _) found
  rw [FileTree.walk_name isName (by simp)] at onward
  cases onward
  obtain ⟨walkedAgain, directoryAgain, standsAgain⟩ :=
    disjoint.hasEntry spares entries walked directory stands
  obtain ⟨_, placed, _⟩ := FileTree.entryAt_ok_iff.mp found
  have checked := (FileTree.place_ok_iff.mp placed).1
  have leads : ∀ {tree : FileTree}, tree.entryAt? dir = some .directory →
      tree.walk true maxLinks (tree.startOf overlay.sourceRoot)
        (overlay.sourceRoot.segments ++ front) = .ok dir →
      tree.place false (overlay.sourceOf (Path.ofNames (front ++ [name]))) = .ok (dir ++ [name]) := by
    intro tree directory walked
    obtain ⟨_, _, onward⟩ := FileTree.walk_append walked directory
    refine FileTree.place_ok_iff.mpr ⟨checked, ?_⟩
    rw [startOf_sourceOf areNames, steps_sourceOf_concat areNames, ← List.append_assoc,
      onward false [name] (List.cons_ne_nil _ _), FileTree.walk_name isName (by simp)]
  exact ⟨dir ++ [name], leads directory walked, leads directoryAgain walkedAgain, standsAgain⟩

/-- A source directory lists the entries that it has had. -/
theorem mem_list (sound : tree.Sound) (entries : ∀ other ∈ front ++ [name], isEntryName other = true)
    (found : HasEntry overlay tree front name) {below : List String}
    (listed : other.list (overlay.sourceOf (Path.ofNames front)) = .ok below) : name ∈ below := by
  obtain ⟨dir, entry, walked, directory, stands⟩ := found
  have above := areNames_of_entries (List.forall_mem_append.mp entries).1
  exact mem_list_of_hasEntry (spares.sound sound) above
    ⟨dir, entry, disjoint.hasEntry spares entries walked directory stands⟩ listed

end Disjoint

end Ground
end AspectLoom
