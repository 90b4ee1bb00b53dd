import AspectLoom.Proofs.OverlaySteps
import AspectLoom.Weave.Outcome
/-!
Where a path leads by its spelling alone: a name goes down, `..` goes up and `.` stays. In a tree without
links that is where it leads, and what is not there yet is made there.
-/
namespace AspectLoom

open FileTree (IsStep isEntryName)

/-- Where a component of a path leads to from a directory. -/
def Component.leads (place : Place) : Component → Place
  | root => []
  | current => place
  | parent => place.dropLast
  | name text => place ++ [text]

theorem Component.foldl_leads_names (place : Place) (names : List String) :
    (names.map Component.name).foldl Component.leads place = place ++ names := by
  induction names generalizing place with
  | nil => exact (List.append_nil place).symm
  | cons name names ih =>
      rw [List.map_cons, List.foldl_cons, ih, Component.leads, List.append_assoc]
      rfl

/-- Behind its lead a path without `..` has names only. -/
theorem Path.components_of_down {path : Path} (noUp : .parent ∉ path.components) :
    ∃ names : List String, path.components = path.lead?.toList ++ names.map .name := by
  refine ⟨(path.pieces.filterMap Component.ofPiece?).map Component.text, ?_⟩
  have isName : ∀ component ∈ path.pieces.filterMap Component.ofPiece?,
      (Component.name ∘ Component.text) component = id component := by
    intro component member
    obtain rfl | ⟨_, _, rfl⟩ := mem_filterMap_ofPiece? member
    · exact absurd (List.mem_append_right _ member) noUp
    · rfl
  rw [Path.components, List.map_map, List.map_congr_left isName, List.map_id]

namespace Ground

variable {place : Place} {segments : List String}

theorem direct_eq_foldl (filled : "" ∉ segments) :
    (direct place segments).place =
      (segments.filterMap Component.ofPiece?).foldl Component.leads place := by
  induction segments generalizing place with
  | nil => rfl
  | cons segment segments ih =>
      rw [List.mem_cons, not_or] at filled
      have notEmpty : segment ≠ "" := Ne.symm filled.1
      rw [direct, List.filterMap_cons]
      by_cases here : segment = "."
      · rw [if_pos here, Component.ofPiece?, if_pos (.inr here)]
        exact ih filled.2
      · have isStep : ¬ (segment = "" ∨ segment = ".") := not_or.mpr ⟨notEmpty, here⟩
        by_cases up : segment = ".."
        · rw [if_neg here, if_pos up, Component.ofPiece?, if_neg isStep, if_pos up]
          exact ih filled.2
        · rw [if_neg here, if_neg up, Component.ofPiece?, if_neg isStep, if_neg up]
          exact ih filled.2

theorem direct_append (place : Place) (left right : List String) :
    (direct place (left ++ right)).place = (direct (direct place left).place right).place := by
  induction left generalizing place with
  | nil => rfl
  | cons segment left ih =>
      rw [List.cons_append, direct, direct]
      split
      · exact ih _
      · split
        · exact ih _
        · exact ih _

/-- Without a `..` the names are what a path goes down. -/
theorem direct_down (noUp : ".." ∉ segments) :
    (direct place segments).place = place ++ segments.filter (· ≠ ".") := by
  induction segments generalizing place with
  | nil => exact (List.append_nil _).symm
  | cons segment segments ih =>
      rw [List.mem_cons, not_or] at noUp
      rw [direct]
      split
      · rename_i here
        rw [List.filter_cons_of_neg (by simpa using here)]
        exact ih noUp.2
      · rename_i notHere
        rw [if_neg (Ne.symm noUp.1), List.filter_cons_of_pos (by simpa using notHere)]
        change (direct (place ++ [segment]) segments).place = _
        rw [ih noUp.2, List.append_assoc]
        rfl

theorem direct_names {names : List String} (areNames : Path.AreNames names) :
    (direct place names).place = place ++ names := by
  rw [direct_down fun up => (areNames _ up).2.2.2 rfl, List.filter_eq_self.mpr]
  exact fun name member => by simpa using (areNames name member).2.2.1

end Ground

namespace FileTree

/-- Where the spelling of a path leads. -/
def leadsTo (tree : FileTree) (path : Path) : Place := (Ground.ofRoot tree path).place

variable {tree : FileTree} {place next : Place} {path base left right : Path}

/-- Only the components of a path matter. -/
theorem leadsTo_eq_foldl (tree : FileTree) (path : Path) :
    tree.leadsTo path = path.components.foldl Component.leads tree.workDir := by
  have filled : "" ∉ path.segments := by simp [Path.segments]
  rw [leadsTo, Ground.ofRoot, Ground.direct_eq_foldl filled, Path.filterMap_segments, Path.components,
    List.foldl_append, Path.lead?, startOf]
  split
  · rfl
  · split <;> rfl

theorem leadsTo_congr (same : left.components = right.components) :
    tree.leadsTo left = tree.leadsTo right := by
  rw [leadsTo_eq_foldl, leadsTo_eq_foldl, same]

theorem walk_direct {follow : Bool} {links : Nat} {pieces : List String}
    (noLinks : ∀ place target, tree.entryAt? place ≠ some (.link target))
    (walked : tree.walk follow links place pieces = .ok next) :
    next = (Ground.direct place pieces).place := by
  induction pieces generalizing place with
  | nil =>
      rw [walk_nil] at walked
      exact (Except.ok.inj walked).symm
  | cons piece rest ih =>
      rw [Ground.direct]
      rcases piece_cases piece with rfl | rfl | isStep
      · rw [walk_here] at walked
        exact ih walked
      · rw [walk_up] at walked
        exact ih walked
      · rw [if_neg isStep.1, if_neg isStep.2]
        obtain ⟨_, ⟨rfl, rfl, _⟩ | ⟨_, onward⟩ | ⟨target, _, link, _⟩⟩ := walk_step_ok isStep walked
        · rfl
        · exact ih onward
        · exact absurd link (noLinks _ target)

/-- Without links a path names what is where its spelling leads. -/
theorem place_eq_leadsTo {follow : Bool}
    (noLinks : ∀ place target, tree.entryAt? place ≠ some (.link target))
    (placed : tree.place follow path = .ok place) : place = tree.leadsTo path := by
  have walked := walk_direct noLinks (place_ok_iff.mp placed).2
  rcases Path.steps_cases path with same | same
  · rwa [same] at walked
  · rwa [same, Ground.direct_append] at walked

theorem leadsTo_join (relative : path.isAbsolute = false) :
    tree.leadsTo (base.join path) = (Ground.direct (tree.leadsTo base) path.segments).place := by
  rw [leadsTo, Ground.ofRoot, Path.segments_join relative, Ground.startOf_eq (Path.isAbsolute_join relative),
    Ground.direct_append]
  rfl

theorem pathOf_eq_join (areNames : Path.AreNames place) :
    pathOf place = Path.join ⟨"/"⟩ (Path.ofNames place) := by
  have slash : ("/" : String).endsWith "/" = true := Path.endsWith_slash_iff.mpr ⟨[], rfl⟩
  rw [Path.join, Path.isAbsolute_ofNames areNames, slash]
  simp [pathOf, Path.ofNames]

theorem leadsTo_pathOf (areNames : Path.AreNames place) : tree.leadsTo (pathOf place) = place := by
  have root : tree.leadsTo ⟨"/"⟩ = [] := by
    have segments : Path.segments ⟨"/"⟩ = [] :=
      Path.segments_of_slashes (by simp [withoutSlashes])
    rw [leadsTo, Ground.ofRoot, startOf, Path.isAbsolute_iff.mpr ⟨[], rfl⟩, segments]
    rfl
  rw [pathOf_eq_join areNames, leadsTo_join (Path.isAbsolute_ofNames areNames), root,
    Path.segments_ofNames areNames, Ground.direct_names areNames, List.nil_append]

/-- A path leads where it does when it is seen from the working directory. -/
theorem leadsTo_absolute (sound : tree.Sound) (path : Path) :
    tree.leadsTo (Weave.absolute tree path) = tree.leadsTo path := by
  rw [Weave.absolute]
  split
  · rfl
  · rename_i relative
    rw [Bool.not_eq_true] at relative
    have areNames : Path.AreNames tree.workDir := fun name member =>
      Path.isName_of_isEntryName (sound.names sound.workDir name member)
    rw [leadsTo_join relative, leadsTo_pathOf areNames, leadsTo, Ground.ofRoot, startOf, relative]
    rfl

/-- Paths without `..` that begin alike lead to the same place only when they are the same path. -/
theorem leadsTo_eq_iff (alike : left.lead? = right.lead?) (leftDown : .parent ∉ left.components)
    (rightDown : .parent ∉ right.components) :
    tree.leadsTo left = tree.leadsTo right ↔ left.components = right.components := by
  refine ⟨fun same => ?_, leadsTo_congr⟩
  obtain ⟨leftNames, leftSplit⟩ := Path.components_of_down leftDown
  obtain ⟨rightNames, rightSplit⟩ := Path.components_of_down rightDown
  rw [leadsTo_eq_foldl, leadsTo_eq_foldl, leftSplit, rightSplit, List.foldl_append, List.foldl_append,
    Component.foldl_leads_names, Component.foldl_leads_names, alike] at same
  rw [leftSplit, rightSplit, alike, List.append_cancel_left same]

section
variable {dir : Path} {name : String}

theorem isAbsolute_pathOf (place : Place) : (pathOf place).isAbsolute = true := by
  simp [Path.isAbsolute_iff, pathOf]

/-- Whether the spelling of a path leads below that of a root. -/
def IsInside (tree : FileTree) (root path : Path) : Prop :=
  tree.leadsTo root <+: tree.leadsTo path ∧ tree.leadsTo path ≠ tree.leadsTo root

theorem leadsTo_join_foldl (relative : path.isAbsolute = false) :
    tree.leadsTo (base.join path) = path.components.foldl Component.leads (tree.leadsTo base) := by
  have filled : "" ∉ path.segments := by simp [Path.segments]
  rw [leadsTo_join relative, Ground.direct_eq_foldl filled, Path.components_eq, List.foldl_append,
    Path.leadOf, relative]
  split
  · contradiction
  · split <;> rfl

theorem leadsTo_join_congr (same : left.components = right.components) :
    tree.leadsTo (base.join left) = tree.leadsTo (base.join right) := by
  by_cases absolute : left.isAbsolute = true
  · have other : right.isAbsolute = true := by
      rwa [Path.isAbsolute_iff_root, ← same, ← Path.isAbsolute_iff_root]
    rw [Path.join, if_pos absolute, Path.join, if_pos other, leadsTo_congr same]
  · have other : ¬ right.isAbsolute = true := by
      rwa [Path.isAbsolute_iff_root, ← same, ← Path.isAbsolute_iff_root]
    rw [Bool.not_eq_true] at absolute other
    rw [leadsTo_join_foldl absolute, leadsTo_join_foldl other, same]

theorem leadsTo_join_name (isName : Path.IsName name) :
    tree.leadsTo (base.join ⟨name⟩) = tree.leadsTo base ++ [name] := by
  rw [leadsTo_join_foldl (Path.isRelative_name isName), Path.components_name isName,
    ← List.map_singleton, Component.foldl_leads_names]

theorem leadsTo_join_file (isName : Path.IsName name) :
    tree.leadsTo (base.join (dir.join ⟨name⟩)) = tree.leadsTo (base.join dir) ++ [name] := by
  have relative := Path.isRelative_name isName
  by_cases absolute : dir.isAbsolute = true
  · have joined : (dir.join ⟨name⟩).isAbsolute = true := by
      rwa [Path.isAbsolute_join relative]
    rw [Path.join.eq_def base, if_pos joined, Path.join.eq_def base, if_pos absolute,
      leadsTo_join_name isName]
  · rw [Bool.not_eq_true] at absolute
    rw [← Path.join_assoc absolute relative, leadsTo_join_name isName]

/-- A file is inside a root just as its directory is the root or below it. -/
theorem isInside_iff_of_file {root : Path} {place : Place}
    (file : tree.leadsTo path = place ++ [name]) :
    tree.IsInside root path ↔ tree.leadsTo root <+: place := by
  rw [IsInside, file, List.prefix_concat_iff]
  constructor
  · rintro ⟨same | above, different⟩
    · exact absurd same.symm different
    · exact above
  · intro above
    refine ⟨.inr above, fun same => ?_⟩
    have longer := above.length_le
    rw [← same, List.length_append, List.length_singleton] at longer
    omega

end

end FileTree
end AspectLoom
