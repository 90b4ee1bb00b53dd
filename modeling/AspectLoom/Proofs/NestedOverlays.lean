import AspectLoom.Proofs.ReconciledOverlays
/-!
Overlays in their own source tree. Over a link to a directory above its root an overlay would contain
itself. A reconciliation leaves out the root alone, so what it does with a directory above depends on
whether written paths lie below that directory.
-/
namespace AspectLoom

open Actions
open FileTree (isEntryName maxLinks)

/-! Paths with the same components -/

namespace Path

variable {left right : Path}

theorem filter_components (path : Path) :
    path.components.filter (fun component => 2 ≤ component.rank) =
      path.segments.filterMap Component.ofPiece? := by
  have lead : (leadOf path.isAbsolute path.segments).filter (fun component => 2 ≤ component.rank) =
      [] := by
    rw [leadOf]
    split
    · rfl
    · split <;> rfl
  rw [components_eq, List.filter_append, lead, List.nil_append, List.filter_eq_self]
  intro component member
  obtain rfl | ⟨_, _, rfl⟩ := mem_filterMap_ofPiece? member <;> rfl

/-- Up to dots, the same components are spelled with the same segments. -/
theorem segments_congr (same : left.components = right.components) :
    left.isAbsolute = right.isAbsolute ∧
      left.segments.filter (· ≠ ".") = right.segments.filter (· ≠ ".") := by
  refine ⟨?_, ?_⟩
  · rw [Bool.eq_iff_iff, isAbsolute_iff_root, isAbsolute_iff_root, same]
  · rw [← map_text_segments, ← map_text_segments, ← filter_components, ← filter_components, same]

end Path

/-! Gaps -/

/-- What is done with a directory. -/
theorem Action.decide_directory (written : Written) (suffix : String) (entry : Path) (present : Bool) :
    Action.decide written suffix entry true present =
      if written.reaches entry then .descend
      else if written.contains entry then .skip .written
      else if present then .skip .present
      else .link := by
  simp [Action.decide]

theorem Action.decide_eq_link_iff {written : Written} {suffix : String} {entry : Path}
    {present : Bool} :
    Action.decide written suffix entry true present = .link ↔
      ¬ written.reaches entry = true ∧ ¬ written.contains entry = true ∧ present = false := by
  rw [decide_directory]
  split
  · simp_all
  · split
    · simp_all
    · split <;> simp_all

namespace Written

variable {written : Written} {dir front names rest : List String} {name : String}

/-- The first directory on the way down that no written path lies below. What the way leads to is not
looked at. -/
def gapFrom (written : Written) (dir : List String) : List String → Option (List String)
  | name :: next :: rest =>
    if written.reaches (Path.ofNames (dir ++ [name])) then
      written.gapFrom (dir ++ [name]) (next :: rest)
    else some (dir ++ [name])
  | _ => none

/-- A written path lies below what is above a directory too. -/
theorem reaches_above (areNames : Path.AreNames names) (starts : front <+: names)
    (reached : written.reaches (Path.ofNames names) = true) :
    written.reaches (Path.ofNames front) = true := by
  have above : Path.AreNames front := fun name member => areNames name (starts.subset member)
  rw [reaches, List.any_eq_true] at reached ⊢
  obtain ⟨path, member, below⟩ := reached
  rw [Bool.and_eq_true, Path.isAbove, List.isPrefixOf_iff_prefix, Path.components_ofNames areNames]
    at below
  refine ⟨path, member, ?_⟩
  rw [Bool.and_eq_true, Path.isAbove, List.isPrefixOf_iff_prefix, Path.components_ofNames above]
  have longer : front.map Component.name <+: names.map Component.name := starts.map _
  refine ⟨?_, longer.trans below.2⟩
  have different := below.1
  rw [bne, Bool.not_eq_true', ← Bool.not_eq_true, Path.beq_iff] at different ⊢
  rw [Path.components_ofNames areNames] at different
  rw [Path.components_ofNames above]
  intro same
  rw [same] at below different
  exact different (longer.eq_of_length_le below.2.length_le)

theorem gapFrom_walked (done : List String) (areNames : Path.AreNames (done ++ dir))
    (reached : dir ≠ [] → written.reaches (Path.ofNames (done ++ dir)) = true) (more : rest ≠ []) :
    written.gapFrom done (dir ++ rest) = written.gapFrom (done ++ dir) rest := by
  induction dir generalizing done with
  | nil => rw [List.nil_append, List.append_nil]
  | cons name dir ih =>
      obtain ⟨next, others, split⟩ := List.exists_cons_of_ne_nil
        (show dir ++ rest ≠ [] from fun none => more (List.append_eq_nil_iff.mp none).2)
      rw [List.append_cons] at areNames reached ⊢
      rw [List.cons_append, split, gapFrom,
        if_pos (reaches_above areNames (List.prefix_append _ _) (reached (List.cons_ne_nil _ _))),
        ← split]
      exact ih _ areNames fun _ => reached (List.cons_ne_nil _ _)

/-- A gap is strictly on the way. -/
theorem gapFrom_starts (gap : written.gapFrom dir (name :: rest) = some front) :
    dir ++ [name] <+: front ∧ ∃ more, more ≠ [] ∧ dir ++ name :: rest = front ++ more := by
  induction rest generalizing dir name with
  | nil => cases gap
  | cons next rest ih =>
      rw [gapFrom] at gap
      split at gap
      · obtain ⟨starts, more, some, split⟩ := ih gap
        refine ⟨(List.prefix_append _ _).trans starts, more, some, ?_⟩
        rw [← split, List.append_assoc]
        rfl
      · cases gap
        exact ⟨List.prefix_refl _, next :: rest, List.cons_ne_nil _ _, by simp⟩

example : Written.gapFrom ⟨[⟨"a/x.go"⟩]⟩ [] ["a", "b", "out"] = some ["a", "b"] := by decide +kernel

end Written

namespace Ground

variable {ground : Ground} {overlay : Overlay} {written : Written} {suffix : String}
  {tree other : FileTree} {below dir names front rest : List String} {name : String} {ready : Bool}
  {action : AspectLoom.Action}

/-! Overlays below their source -/

/-- An overlay's root lies below the source root, over directories that are there. It is ready, or
nothing stands at its place. -/
structure Nested (ground : Ground) (overlay : Overlay) (below : List String) (tree : FileTree) :
    Prop where
  areNames : Path.AreNames below
  inside : overlay.root.components = overlay.sourceRoot.components ++ below.map .name
  above : ∀ front, front <+: below → front ≠ [] → front ≠ below →
    tree.target (overlay.sourceOf (Path.ofNames front)) = .ok .directory
  settled : ground.Ready overlay.root tree [] ∨ tree.entryAt? ground.place = none

/-- Where the root is ready the source has directories down to it. -/
theorem Ready.walk_above (ready : ground.Ready overlay.root tree [])
    (areNames : Path.AreNames (front ++ rest))
    (inside : overlay.root.components = overlay.sourceRoot.components ++ (front ++ rest).map .name) :
    ∃ middle, tree.walk true maxLinks (tree.startOf overlay.sourceRoot)
        (overlay.sourceRoot.segments ++ front) = .ok middle ∧
      tree.entryAt? middle = some .directory := by
  have relative := Path.isAbsolute_ofNames areNames
  have same : overlay.root.components =
      (overlay.sourceRoot.join (Path.ofNames (front ++ rest))).components := by
    rw [inside, Path.components_join relative (Path.head?_segments_ofNames areNames),
      Path.components_ofNames areNames]
  obtain ⟨absolute, segments⟩ := Path.segments_congr same
  rw [Path.isAbsolute_join relative] at absolute
  rw [Path.segments_join relative, Path.segments_ofNames areNames] at segments
  have walked := @Ready.walk _ _ _ _ ready true ["."] (.inr rfl)
  rw [List.nil_append, FileTree.walk_here, FileTree.walk_nil,
    FileTree.walk_congr_dots segments (List.cons_ne_nil _ _), startOf_eq absolute, List.append_assoc,
    List.append_assoc, ← List.append_assoc] at walked
  obtain ⟨middle, _, _, begins, directory, _⟩ := FileTree.walk_front ready.stands.sound
    (FileTree.startOf_directory ready.stands.sound overlay.sourceRoot) (by simp) walked
  exact ⟨middle, begins, directory⟩

/-- An overlay stays in its source. -/
theorem Nested.later (nested : ground.Nested overlay below tree)
    (keeps : ground.Keeps overlay.root tree other) : ground.Nested overlay below other := by
  rcases keeps.settled with rfl | ready
  · exact nested
  refine ⟨nested.areNames, nested.inside, ?_, .inl ready⟩
  rintro front ⟨rest, rfl⟩ filled different
  have areNames : Path.AreNames front :=
    fun name member => nested.areNames name (List.mem_append_left _ member)
  obtain ⟨_, placed, _⟩ := FileTree.entryAt_ok_iff.mp
    (nested.above front (List.prefix_append _ _) filled different)
  obtain ⟨_, walked, directory⟩ := ready.walk_above nested.areNames nested.inside
  exact target_of_walk areNames (FileTree.place_ok_iff.mp placed).1 walked directory

section
variable (nested : ground.Nested overlay below tree)
include nested

theorem Nested.is_root_iff (areNames : Path.AreNames front) :
    (overlay.sourceRoot.join (Path.ofNames front) == overlay.root) = true ↔ front = below := by
  rw [Path.beq_iff, nested.inside,
    Path.components_join (Path.isAbsolute_ofNames areNames) (Path.head?_segments_ofNames areNames),
    Path.components_ofNames areNames, List.append_right_inj]
  exact (List.map_injective_iff.mpr fun _ _ => Component.name.inj).eq_iff

theorem Nested.isAbove_iff (areNames : Path.AreNames front) :
    (overlay.sourceRoot.join (Path.ofNames front)).isAbove overlay.root = true ↔ front <+: below := by
  rw [Path.isAbove, List.isPrefixOf_iff_prefix, nested.inside,
    Path.components_join (Path.isAbsolute_ofNames areNames) (Path.head?_segments_ofNames areNames),
    Path.components_ofNames areNames, List.prefix_append_right_inj,
    List.prefix_map_iff_of_injective fun _ _ => Component.name.inj]

/-- Something can stand below the root only where the root is ready. -/
theorem Nested.ready_of_stands (sound : tree.Sound) (filled : front ≠ [])
    (stands : tree.entryAt? (ground.place ++ front) ≠ none) : ground.Ready overlay.root tree [] := by
  refine nested.settled.resolve_right fun vacant => ?_
  obtain ⟨entry, there⟩ := Option.ne_none_iff_exists'.mp stands
  have directory := sound.above (List.prefix_append ground.place front) (by simpa using filled) there
  rw [vacant] at directory
  cases directory

/-- What is done with a directory above the root. -/
theorem Nested.chosen (areNames : Path.AreNames dir) (isName : isEntryName name = true)
    (starts : dir ++ [name] <+: below) (different : dir ++ [name] ≠ below)
    (choice : Overlay.chosen ⟨overlay, written, suffix, Path.ofNames dir⟩ tree name = .ok action) :
    ∃ found, Overlay.seen tree (overlay.ofRelative (Path.ofNames (dir ++ [name]))) = .ok found ∧
      action = .decide written suffix (Path.ofNames (dir ++ [name])) true found.isSome := by
  obtain ⟨isDirectory, found, kind, seen, same⟩ := Overlay.chosen_ok_iff.mp choice
  dsimp only at seen same
  rw [Path.join_ofNames areNames (Path.isName_of_isEntryName isName)] at seen same
  rw [source_eq areNames isName,
    if_neg (mt (nested.is_root_iff (areNames_concat areNames isName)).mp different)] at same
  have target := nested.above _ starts (by simp) different
  rw [Overlay.sourceOf] at target
  rw [source_eq areNames isName, Overlay.kindSeen, target] at kind
  cases kind
  exact ⟨found, seen, same⟩

end

/-- The first directory above the root that nothing is written below, if there is one, is written
itself, or something stands in its stead in the overlay. -/
def Shielded (ground : Ground) (written : Written) (below : List String) (tree : FileTree) : Prop :=
  ∀ front, written.gapFrom [] below = some front →
    written.contains (Path.ofNames front) = true ∨ tree.entryAt? (ground.place ++ front) ≠ none

theorem Shielded.later (shielded : ground.Shielded written below tree)
    (keeps : ground.Keeps overlay.root tree other) : ground.Shielded written below other := by
  intro front gap
  refine (shielded front gap).imp_right fun stands => ?_
  rw [← Option.isSome_iff_ne_none] at stands ⊢
  exact keeps.present _ stands

/-! What is done above the root -/

/-- No link is made to the root, and none above it where the overlay is shielded. -/
theorem Nested.past_of_link (nested : ground.Nested overlay below tree)
    (shielded : ground.Shielded written below tree)
    (begins : ground.Begins overlay written dir (name :: names) tree ready)
    (choice : Overlay.chosen ⟨overlay, written, suffix, Path.ofNames dir⟩ tree name = .ok .link) :
    (Overlay.Walk.source ⟨overlay, written, suffix, Path.ofNames dir⟩ name).isAbove overlay.root =
      false := by
  have areNames := begins.walked.areNames
  have isName := begins.isName
  have all := areNames_concat areNames isName
  rw [← Bool.not_eq_true, source_eq areNames isName, nested.isAbove_iff all]
  intro starts
  by_cases same : dir ++ [name] = below
  · -- the root itself is left out before anything else is asked
    obtain ⟨_, _, _, _, decided⟩ := Overlay.chosen_ok_iff.mp choice
    rw [source_eq areNames isName, if_pos ((nested.is_root_iff all).mpr same)] at decided
    cases decided
  obtain ⟨found, seen, decided⟩ := nested.chosen areNames isName starts same choice
  obtain ⟨notReached, notWritten, notFound⟩ := Action.decide_eq_link_iff.mp decided.symm
  -- the directory is walked into, so written paths lie below all that is above the entry
  obtain ⟨more, rfl⟩ := starts
  obtain ⟨next, others, rfl⟩ := List.exists_cons_of_ne_nil (l := more) (by rintro rfl; simp at same)
  have gap : written.gapFrom [] (dir ++ [name] ++ next :: others) = some (dir ++ [name]) := by
    rw [List.append_assoc, List.singleton_append, Written.gapFrom_walked [] areNames
      (fun deep => begins.walked.2.resolve_left deep) (List.cons_ne_nil _ _), List.nil_append,
      Written.gapFrom, if_neg notReached]
  refine (shielded _ gap).elim notWritten fun stands => ?_
  have isReady : ground.Ready overlay.root tree dir := by
    by_cases top : dir = []
    · subst top
      exact nested.ready_of_stands begins.stands.sound (List.cons_ne_nil _ _) stands
    · exact begins.below top
  have checked := checkText_of_seen (text_ofRelative_ne areNames isName) seen
  rw [isReady.seen areNames isName checked, List.append_assoc] at seen
  rw [← Except.ok.inj seen, Option.isSome_eq_false_iff, Option.isNone_iff_eq_none] at notFound
  exact stands notFound

/-- On the way to a gap that nothing hides directories are walked, and at the gap a link is made. -/
theorem Nested.at_gap (nested : ground.Nested overlay below tree)
    (begins : ground.Begins overlay written dir (name :: names) tree ready)
    (split : below = dir ++ name :: rest) (gap : written.gapFrom dir (name :: rest) = some front)
    (notWritten : ¬ written.contains (Path.ofNames front) = true)
    (vacant : tree.entryAt? (ground.place ++ front) = none)
    (choice : Overlay.chosen ⟨overlay, written, suffix, Path.ofNames dir⟩ tree name = .ok action) :
    (action = .descend ∧ ∃ next others, rest = next :: others ∧
        written.gapFrom (dir ++ [name]) (next :: others) = some front) ∨
      action = .link ∧ front = dir ++ [name] := by
  have areNames := begins.walked.areNames
  cases rest with
  | nil => cases gap
  | cons next others =>
      obtain ⟨found, seen, decided⟩ := nested.chosen areNames begins.isName
        ⟨next :: others, by simp [split]⟩ (by simp [split]) choice
      rw [Action.decide_directory] at decided
      rw [Written.gapFrom] at gap
      split at gap
      · rename_i reached
        rw [if_pos reached] at decided
        exact .inl ⟨decided, next, others, rfl, gap⟩
      · rename_i notReached
        cases gap
        rw [if_neg notReached, if_neg notWritten] at decided
        cases found with
        | none => exact .inr ⟨decided, rfl⟩
        | some entry =>
            have stands := found_of_seen begins.stands areNames begins.isName begins.below seen
            rw [List.append_assoc, vacant] at stands
            cases stands

end Ground
end AspectLoom
