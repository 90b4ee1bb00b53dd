import AspectLoom.Proofs.OverlayHistories
/-!
What overlays have for the paths of their source: a file or a directory of their own, or the original.
Two overlays of one source are compared path by path, one that many runs have worked on and one that
saw the last of these runs only.
-/
namespace AspectLoom

open FileTree (isEntryName)

/-- What an overlay has for a path of its source. -/
inductive Shown where
  /-- A file of its own. -/
  | rewritten (bytes : ByteArray)
  /-- A directory of its own. -/
  | opened
  /-- The original, behind a link for the path itself or for a directory above it. -/
  | original (path : Path)

/-- Going down from a path name by name. -/
def Path.down (path : Path) (names : List String) : Path :=
  names.foldl (fun path name => path.join ⟨name⟩) path

theorem Path.down_join_ofNames {base : Path} {front rest : List String}
    (areNames : AreNames (front ++ rest)) :
    (base.join (ofNames front)).down rest = base.join (ofNames (front ++ rest)) := by
  induction rest generalizing front with
  | nil => rw [List.append_nil]; rfl
  | cons name rest ih =>
      have first : AreNames front := fun other member => areNames other (List.mem_append_left _ member)
      rw [down, List.foldl_cons, join_join_ofNames first (areNames name (by simp)), ← down,
        List.append_cons front name rest]
      rw [List.append_cons front name rest] at areNames
      exact ih areNames

namespace FileTree

variable {tree : FileTree} {place : Place} {front rest names : List String} {name : String}

/-- What there is for names below a directory. -/
def shown (tree : FileTree) : Place → List String → Option Shown
  | _, [] => some .opened
  | place, name :: rest =>
    match tree.entryAt? (place ++ [name]) with
    | some .directory => tree.shown (place ++ [name]) rest
    | some (.file bytes) => if rest.isEmpty then some (.rewritten bytes) else none
    | some (.link target) => some (.original (Path.down ⟨target⟩ rest))
    | none => none

/-- Directories are gone through. -/
theorem shown_append (sound : tree.Sound)
    (directory : front = [] ∨ tree.entryAt? (place ++ front) = some .directory) :
    tree.shown place (front ++ rest) = tree.shown (place ++ front) rest := by
  induction front generalizing place with
  | nil => simp
  | cons name front ih =>
      have stands := directory.resolve_left (List.cons_ne_nil _ _)
      rw [List.append_cons] at stands ⊢
      have first : tree.entryAt? (place ++ [name]) = some .directory := by
        by_cases last : front = []
        · rwa [last, List.append_nil] at stands
        · exact sound.above (List.prefix_append _ _) (by simpa using last) stands
      rw [List.cons_append, shown, first]
      exact ih (.inr stands)

theorem shown_of_directory (sound : tree.Sound)
    (directory : tree.entryAt? (place ++ names) = some .directory) :
    tree.shown place names = some .opened := by
  have through : tree.shown place (names ++ []) = tree.shown (place ++ names) [] :=
    shown_append sound (.inr directory)
  rwa [List.append_nil] at through

/-- What stands below a directory stands in one. -/
theorem shown_of_entry (sound : tree.Sound) {entry : Entry}
    (stands : tree.entryAt? (place ++ (front ++ [name])) = some entry) :
    tree.shown place (front ++ name :: rest) = tree.shown (place ++ front) (name :: rest) := by
  refine shown_append sound (.inr ?_)
  exact sound.above ((List.prefix_append_right_inj _).mpr (List.prefix_append _ _)) (by simp) stands

theorem shown_of_file (sound : tree.Sound) {bytes : ByteArray}
    (stands : tree.entryAt? (place ++ (front ++ [name])) = some (.file bytes)) :
    tree.shown place (front ++ name :: rest) = if rest.isEmpty then some (.rewritten bytes) else none := by
  rw [shown_of_entry sound stands, shown, List.append_assoc, stands]

theorem shown_of_link (sound : tree.Sound) {target : String}
    (stands : tree.entryAt? (place ++ (front ++ [name])) = some (.link target)) :
    tree.shown place (front ++ name :: rest) = some (.original (Path.down ⟨target⟩ rest)) := by
  rw [shown_of_entry sound stands, shown, List.append_assoc, stands]

theorem shown_of_missing (sound : tree.Sound)
    (directory : front = [] ∨ tree.entryAt? (place ++ front) = some .directory)
    (missing : tree.entryAt? (place ++ (front ++ [name])) = none) :
    tree.shown place (front ++ name :: rest) = none := by
  rw [shown_append sound directory, shown, List.append_assoc, missing]

/-- Names lead over directories to the first that is none. -/
theorem exists_front (directory : front = [] ∨ tree.entryAt? (place ++ front) = some .directory)
    (more : rest ≠ []) :
    tree.entryAt? (place ++ (front ++ rest)) = some .directory ∨
      ∃ above name below, front ++ rest = above ++ name :: below ∧
        (above = [] ∨ tree.entryAt? (place ++ above) = some .directory) ∧
          tree.entryAt? (place ++ (above ++ [name])) ≠ some .directory := by
  induction rest generalizing front with
  | nil => exact absurd rfl more
  | cons name rest ih =>
      by_cases here : tree.entryAt? (place ++ (front ++ [name])) = some .directory
      · cases rest with
        | nil => exact .inl here
        | cons next rest =>
            rw [List.append_cons]
            exact ih (.inr here) (List.cons_ne_nil _ _)
      · exact .inr ⟨front, name, rest, rfl, directory, here⟩

end FileTree

namespace Written

variable {written : Written} {names : List String}

/-- Whether a path was written, or one above or below it. -/
def Touches (written : Written) (names : List String) : Prop :=
  ∃ path ∈ written.paths, path.names <+: names ∨ names <+: path.names

end Written

namespace Ground

variable {ground : Ground} {overlay : Overlay} {written : Written} {current pass : Overlay.Pass}
  {passes earlier : List Overlay.Pass} {start tree clean : FileTree} {names dir rest : List String}
  {name : String} {entry : Entry} {paths : List Path} {linked : List String → Prop}

/-! What an overlay shows, by its written paths -/

/-- A link in the overlay shows the path in the source. -/
theorem Bears.shown_of_link (bears : ground.Bears overlay linked start paths tree)
    (sound : start.Sound) (areNames : Path.AreNames (dir ++ name :: rest)) {target : String}
    (stands : tree.entryAt? (ground.place ++ (dir ++ [name])) = some (.link target)) :
    tree.shown ground.place (dir ++ name :: rest) =
        some (.original (overlay.sourceOf (Path.ofNames (dir ++ name :: rest)))) ∧
      linked (dir ++ [name]) := by
  have shown : tree.shown ground.place (dir ++ name :: rest) =
      some (.original (Path.down ⟨target⟩ rest)) :=
    FileTree.shown_of_link (bears.spares.sound sound) stands
  cases bears.explained _ _ (by simp) stands with
  | link was =>
      refine ⟨shown.trans ?_, was⟩
      rw [List.append_cons dir name rest] at areNames ⊢
      exact congrArg (some ∘ Shown.original) (Path.down_join_ofNames areNames)

/-- Whether a path is left out by runs over an overlay: one of them has walked its directory, and each of
these takes it for an aspect unit. -/
def LeftOut (overlay : Overlay) (start : FileTree) (passes : List Overlay.Pass) (names : List String) :
    Prop :=
  (∃ pass ∈ passes, Walked pass.written names.dropLast) ∧
    ∀ pass ∈ passes, Walked pass.written names.dropLast → overlay.TakesAsUnit pass.suffix start names

section
variable (laid : ground.Laid overlay start passes tree) (sound : start.Sound)
include laid

theorem Laid.written_of_mem (member : pass ∈ passes) {path : Path}
    (among : path ∈ pass.written.paths) : path.names ≠ [] ∧
      ∃ bytes, tree.entryAt? (ground.place ++ path.names) = some (.file bytes) :=
  laid.bears.written path (List.mem_flatMap.mpr ⟨pass, member, among⟩)

include sound in
/-- Where a path was written its file is shown. -/
theorem Laid.shown_of_written (member : pass ∈ passes) {path : Path} (among : path ∈ pass.written.paths)
    (same : path.names = names) :
    ∃ bytes, tree.entryAt? (ground.place ++ names) = some (.file bytes) ∧
      tree.shown ground.place names = some (.rewritten bytes) := by
  obtain ⟨some, bytes, file⟩ := laid.written_of_mem member among
  subst same
  obtain ⟨front, name, split⟩ := List.eq_nil_or_concat _ |>.resolve_left some
  rw [List.concat_eq_append] at split
  rw [split] at file ⊢
  exact ⟨bytes, file, FileTree.shown_of_file (laid.bears.spares.sound sound) file⟩

include sound in
/-- Above a written path there is a directory. -/
theorem Laid.directory_of_anyBelow (member : pass ∈ passes)
    (below : Path.AnyBelow pass.written.paths names) :
    tree.entryAt? (ground.place ++ names) = some .directory := by
  obtain ⟨path, among, longer⟩ := below
  exact laid.bears.directory_of_anyBelow sound
    ⟨path, List.mem_flatMap.mpr ⟨pass, member, among⟩, longer⟩

include sound in
/-- Below a written path there is nothing. -/
theorem Laid.shown_below (member : pass ∈ passes) {path : Path} (among : path ∈ pass.written.paths)
    (starts : path.names <+: names) (different : path.names ≠ names) :
    tree.shown ground.place names = none := by
  obtain ⟨some, bytes, file⟩ := laid.written_of_mem member among
  obtain ⟨front, name, split⟩ := List.eq_nil_or_concat _ |>.resolve_left some
  rw [List.concat_eq_append] at split
  obtain ⟨rest, rfl⟩ := starts
  have more : rest ≠ [] := by
    rintro rfl
    simp at different
  rw [split] at file ⊢
  rw [← List.append_cons, FileTree.shown_of_file (laid.bears.spares.sound sound) file, if_neg (by simpa)]

/-- A directory of the overlay was walked by some run. -/
theorem Laid.walked_of_directory (some : passes ≠ []) (entries : ∀ name ∈ dir, isEntryName name = true)
    (directory : dir = [] ∨ tree.entryAt? (ground.place ++ dir) = .some .directory) :
    ∃ pass ∈ passes, Walked pass.written dir := by
  by_cases top : dir = []
  · obtain ⟨pass, others, rfl⟩ := List.exists_cons_of_ne_nil some
    exact ⟨pass, List.mem_cons_self, entries, .inl top⟩
  · cases laid.bears.explained _ _ top (directory.resolve_left top) with
    | directory below =>
        obtain ⟨path, member, longer⟩ := below
        obtain ⟨pass, among, has⟩ := List.mem_flatMap.mp member
        exact ⟨pass, among, entries, .inr ((Written.reaches_ofNames_iff (laid.plain pass among)
          (areNames_of_entries entries)).mpr ⟨path, has, longer⟩)⟩

/-- At a path that no run has touched, or above it, stands a link, or above it a directory. -/
theorem Laid.link_of_untouched
    (untouched : ∀ pass ∈ passes, ¬ pass.written.Touches (dir ++ name :: rest))
    (stands : tree.entryAt? (ground.place ++ (dir ++ [name])) = some entry) :
    (entry = .directory ∧ rest ≠ []) ∨ ∃ target, entry = .link target := by
  have apart : ∀ path ∈ passes.flatMap (fun pass => pass.written.paths),
      ¬ path.names <+: dir ++ name :: rest ∧ ¬ dir ++ name :: rest <+: path.names := by
    intro path member
    obtain ⟨pass, among, has⟩ := List.mem_flatMap.mp member
    exact not_or.mp fun touches => untouched pass among ⟨path, has, touches⟩
  cases laid.bears.explained _ _ (by simp) stands with
  | link => exact .inr ⟨_, rfl⟩
  | file member same =>
      refine absurd ?_ (apart _ member).1
      rw [same, List.append_cons dir name rest]
      exact List.prefix_append _ _
  | directory below =>
      refine .inl ⟨rfl, ?_⟩
      rintro rfl
      obtain ⟨path, member, starts, _⟩ := below
      exact (apart path member).2 starts

include sound in
/-- What is missing in a directory that was walked is left out. -/
theorem Laid.leftOut_of_missing (some : passes ≠ [])
    (entries : ∀ other ∈ dir ++ name :: rest, isEntryName other = true)
    (found : start.entryOf (overlay.sourceOf (Path.ofNames (dir ++ name :: rest))) = .ok entry)
    (above : dir = [] ∨ tree.entryAt? (ground.place ++ dir) = .some .directory)
    (missing : tree.entryAt? (ground.place ++ (dir ++ [name])) = none) :
    rest = [] ∧ LeftOut overlay start passes (dir ++ [name]) := by
  have own : ∀ other ∈ dir, isEntryName other = true :=
    fun other member => entries other (List.mem_append_left _ member)
  obtain ⟨pass, among, walked⟩ := laid.walked_of_directory some own above
  obtain ⟨_, foundHere⟩ := entryOf_above sound (areNames_of_entries entries) found
  -- all else in a directory that was walked is there
  have units : ∀ pass ∈ passes, Walked pass.written dir →
      overlay.TakesAsUnit pass.suffix start (dir ++ [name]) := by
    intro pass among walked
    by_contra notUnit
    have present := laid.complete (dir ++ [name]) _ (by simp)
      (List.forall_mem_append.mpr ⟨own, List.forall_mem_singleton.mpr (entries name (by simp))⟩)
      foundHere ⟨pass, among, by rwa [List.dropLast_concat], notUnit⟩
    rw [missing] at present
    cases present
  refine ⟨?_, ?_⟩
  · by_contra more
    rw [List.append_cons dir name rest] at entries found
    have directory := isDirectory_iff_target.mpr
      (target_above sound (areNames_of_entries entries) (by simp) more found)
    rw [(units pass among walked).2] at directory
    cases directory
  · rw [LeftOut, List.dropLast_concat]
    exact ⟨⟨pass, among, walked⟩, units⟩

include sound in
/-- What is behind a link of the overlay is not left out. -/
theorem Laid.not_leftOut_of_link (areNames : Path.AreNames (dir ++ name :: rest)) {target : String}
    (stands : tree.entryAt? (ground.place ++ (dir ++ [name])) = some (.link target)) :
    ¬ LeftOut overlay start passes (dir ++ name :: rest) := by
  obtain ⟨_, pass, among, walked, notUnit⟩ := laid.bears.shown_of_link sound areNames stands
  rintro ⟨⟨other, has, walkedToo⟩, units⟩
  by_cases last : rest = []
  · subst last
    exact notUnit (units pass among walked)
  -- what is walked below a link would be a directory, and so would the link
  rw [List.append_cons dir name rest, List.dropLast_append_of_ne_nil last] at walkedToo
  have directory := laid.directory_of_anyBelow sound has
    ((walkedToo.anyBelow (laid.plain other has) (by simp)).above (List.prefix_append _ _))
  rw [stands] at directory
  cases directory

include sound in
/-- A path that no run has touched is shown in its original, unless it is left out. -/
theorem Laid.shown_of_untouched (some : passes ≠ []) (filled : names ≠ [])
    (entries : ∀ name ∈ names, isEntryName name = true)
    (found : start.entryOf (overlay.sourceOf (Path.ofNames names)) = .ok entry)
    (untouched : ∀ pass ∈ passes, ¬ pass.written.Touches names) :
    LeftOut overlay start passes names ∧ tree.shown ground.place names = none ∨
      ¬ LeftOut overlay start passes names ∧ tree.shown ground.place names =
        .some (.original (overlay.sourceOf (Path.ofNames names))) := by
  have treeSound := laid.bears.spares.sound sound
  rcases @FileTree.exists_front tree ground.place [] names (.inl rfl) filled with
    directory | ⟨dir, name, rest, rfl, above, noDirectory⟩
  · obtain ⟨dir, name, rfl⟩ := (List.eq_nil_or_concat names).resolve_left filled
    rw [List.concat_eq_append] at *
    obtain ⟨_, more⟩ | ⟨_, same⟩ := laid.link_of_untouched untouched directory
    · exact absurd rfl more
    · cases same
  cases stands : tree.entryAt? (ground.place ++ (dir ++ [name])) with
  | none =>
      obtain ⟨rfl, left⟩ := laid.leftOut_of_missing sound some entries found above stands
      exact .inl ⟨left, FileTree.shown_of_missing treeSound above stands⟩
  | some here =>
      obtain ⟨rfl, _⟩ | ⟨target, rfl⟩ := laid.link_of_untouched untouched stands
      · exact absurd stands noDirectory
      · have areNames := areNames_of_entries entries
        exact .inr ⟨laid.not_leftOut_of_link sound areNames stands,
          (laid.bears.shown_of_link sound areNames stands).1⟩

end

/-! Overlays with a history -/

/-- Whether what earlier runs have left for a path differs from what the last run makes of it. It has
not touched the path, and an earlier run has; or the path is left out of one of the two overlays only. -/
def Outdates (overlay : Overlay) (start : FileTree) (earlier : List Overlay.Pass)
    (current : Overlay.Pass) (names : List String) : Prop :=
  ¬ current.written.Touches names ∧ ((∃ pass ∈ earlier, pass.written.Touches names) ∨
    ¬ (LeftOut overlay start (current :: earlier) names ↔ LeftOut overlay start [current] names))

section
variable (sound : start.Sound) (laid : ground.Laid overlay start (current :: earlier) tree)
  (fresh : ground.Laid overlay start [current] clean)
include sound laid fresh

/-- What the last run has touched is as after this run alone. -/
theorem Laid.shown_eq_of_touched (files : ∀ path ∈ current.written.paths,
      tree.entryAt? (ground.place ++ path.names) = clean.entryAt? (ground.place ++ path.names))
    (touched : current.written.Touches names) :
    tree.shown ground.place names = clean.shown ground.place names := by
  obtain ⟨path, member, touches⟩ := touched
  by_cases same : path.names = names
  · obtain ⟨bytes, file, shown⟩ := laid.shown_of_written sound List.mem_cons_self member same
    obtain ⟨others, fileToo, shownToo⟩ := fresh.shown_of_written sound List.mem_cons_self member same
    have equal := files path member
    rw [same, file, fileToo] at equal
    cases equal
    rw [shown, shownToo]
  rcases touches with above | below
  · rw [laid.shown_below sound List.mem_cons_self member above same,
      fresh.shown_below sound List.mem_cons_self member above same]
  · have below : Path.AnyBelow current.written.paths names := ⟨path, member, below, same⟩
    rw [FileTree.shown_of_directory (laid.bears.spares.sound sound)
        (laid.directory_of_anyBelow sound List.mem_cons_self below),
      FileTree.shown_of_directory (fresh.bears.spares.sound sound)
        (fresh.directory_of_anyBelow sound List.mem_cons_self below)]

/-- What an earlier run has touched and the last one has not is not as after the last one alone, which
shows the original or nothing. -/
theorem Laid.shown_ne_of_touched (filled : names ≠ [])
    (entries : ∀ name ∈ names, isEntryName name = true)
    (found : start.entryOf (overlay.sourceOf (Path.ofNames names)) = .ok entry)
    (untouched : ¬ current.written.Touches names) (among : pass ∈ earlier)
    (touched : pass.written.Touches names) :
    tree.shown ground.place names ≠ clean.shown ground.place names := by
  have alone := fresh.shown_of_untouched sound (List.cons_ne_nil _ _) filled entries found
    (List.forall_mem_singleton.mpr untouched)
  obtain ⟨path, member, touches⟩ := touched
  have inside := List.mem_cons_of_mem current among
  by_cases same : path.names = names
  · obtain ⟨bytes, _, shown⟩ := laid.shown_of_written sound inside member same
    rw [shown]
    rcases alone with ⟨_, shown⟩ | ⟨_, shown⟩ <;> rw [shown] <;> simp
  rcases touches with above | below
  · rw [laid.shown_below sound inside member above same]
    rcases alone with ⟨⟨⟨_, has, walked⟩, _⟩, _⟩ | ⟨_, shown⟩
    · -- a directory that is walked has no file above it
      cases List.mem_singleton.mp has
      obtain ⟨rest, rfl⟩ := above
      rw [List.dropLast_append_of_ne_nil (by rintro rfl; simp at same)] at walked
      obtain ⟨some, bytes, file⟩ := laid.written_of_mem inside member
      have directory := laid.directory_of_anyBelow sound List.mem_cons_self
        ((walked.anyBelow (laid.plain current List.mem_cons_self) (by simp [some])).above
          (List.prefix_append path.names _))
      rw [file] at directory
      cases directory
    · rw [shown]
      simp
  · rw [FileTree.shown_of_directory (laid.bears.spares.sound sound)
      (laid.directory_of_anyBelow sound inside ⟨path, member, below, same⟩)]
    rcases alone with ⟨_, shown⟩ | ⟨_, shown⟩ <;> rw [shown] <;> simp

/-- An overlay shows after many runs what it shows after the last of them alone, but for what earlier
runs have left. -/
theorem Laid.shown_eq_iff (files : ∀ path ∈ current.written.paths,
      tree.entryAt? (ground.place ++ path.names) = clean.entryAt? (ground.place ++ path.names))
    (filled : names ≠ []) (entries : ∀ name ∈ names, isEntryName name = true)
    (found : start.entryOf (overlay.sourceOf (Path.ofNames names)) = .ok entry) :
    tree.shown ground.place names = clean.shown ground.place names ↔
      ¬ Outdates overlay start earlier current names := by
  by_cases touched : current.written.Touches names
  · exact iff_of_true (laid.shown_eq_of_touched sound fresh files touched) fun outdated =>
      outdated.1 touched
  by_cases before : ∃ pass ∈ earlier, pass.written.Touches names
  · obtain ⟨pass, among, touches⟩ := before
    exact iff_of_false
      (laid.shown_ne_of_touched sound fresh filled entries found touched among touches)
      (not_not_intro ⟨touched, .inl ⟨pass, among, touches⟩⟩)
  -- no run has touched the path: each overlay has its original, or leaves it out
  have alone := fresh.shown_of_untouched sound (List.cons_ne_nil _ _) filled entries found
    (List.forall_mem_singleton.mpr touched)
  have together := laid.shown_of_untouched sound (List.cons_ne_nil _ _) filled entries found
    (List.forall_mem_cons.mpr ⟨touched, fun pass member touches => before ⟨pass, member, touches⟩⟩)
  rw [Outdates, and_iff_right touched, or_iff_right before, not_not]
  rcases together with ⟨left, shown⟩ | ⟨left, shown⟩ <;>
    rcases alone with ⟨leftAlone, shownAlone⟩ | ⟨leftAlone, shownAlone⟩ <;>
      rw [shown, shownAlone] <;> simp [left, leftAlone]

end

end Ground
end AspectLoom
