import AspectLoom.Proofs.ReconcileTraces
/-!
Files written one after the other. Each holds the text that it was first given, and nothing but these
files and the directories above them has come below the overlay's root.
-/
namespace AspectLoom

open Actions
open FileTree (checkText isEntryName)

/-! Written paths by their names -/

namespace Path

theorem beq_iff {left right : Path} : (left == right) = true ↔ left.components = right.components :=
  beq_iff_eq (α := List Component)

theorem beq_iff_names {left right : Path} (first : left.isPlain = true) (second : right.isPlain = true) :
    (left == right) = true ↔ left.names = right.names := by
  rw [beq_iff, components_of_isPlain first, components_of_isPlain second]
  exact ⟨fun same => List.map_injective_iff.mpr (fun _ _ => Component.name.inj) same, congrArg _⟩

theorem beq_ofNames_iff {path : Path} {names : List String} (plain : path.isPlain = true)
    (areNames : AreNames names) : (path == ofNames names) = true ↔ path.names = names := by
  rw [beq_iff, components_of_isPlain plain, components_ofNames areNames]
  exact ⟨fun same => List.map_injective_iff.mpr (fun _ _ => Component.name.inj) same, congrArg _⟩

end Path

namespace Written

variable {written : Written} {names : List String}

def ArePlain (written : Written) : Prop := ∀ path ∈ written.paths, path.isPlain = true

/-- Whether names lead to a written path or to a directory above one. -/
def Covers (written : Written) (names : List String) : Prop :=
  ∃ path ∈ written.paths, names <+: path.names

theorem contains_iff {path : Path} :
    written.contains path = true ↔ ∃ other ∈ written.paths, (other == path) = true := by
  rw [contains, List.contains_iff_exists_mem_beq]
  refine exists_congr fun other => and_congr_right fun _ => ?_
  rw [Path.beq_iff, Path.beq_iff, eq_comm]

theorem contains_ofNames_iff (plain : written.ArePlain) (areNames : Path.AreNames names) :
    written.contains (Path.ofNames names) = true ↔ ∃ path ∈ written.paths, path.names = names := by
  rw [contains_iff]
  exact exists_congr fun path => and_congr_right fun member =>
    Path.beq_ofNames_iff (plain path member) areNames

theorem reaches_ofNames_iff (plain : written.ArePlain) (areNames : Path.AreNames names) :
    written.reaches (Path.ofNames names) = true ↔
      ∃ path ∈ written.paths, names <+: path.names ∧ path.names ≠ names := by
  rw [reaches, List.any_eq_true]
  refine exists_congr fun path => and_congr_right fun member => ?_
  have isPlain := plain path member
  have different : (path != Path.ofNames names) = true ↔ path.names ≠ names := by
    rw [bne, Bool.not_eq_true', ← Bool.not_eq_true, Path.beq_ofNames_iff isPlain areNames]
  have above : (Path.ofNames names).isAbove path = true ↔ names <+: path.names := by
    rw [Path.isAbove, List.isPrefixOf_iff_prefix, Path.components_ofNames areNames,
      Path.components_of_isPlain isPlain]
    exact List.prefix_map_iff_of_injective fun _ _ => Component.name.inj
  rw [Bool.and_eq_true, different, above, and_comm]

/-- What is covered is written or has a written path below it. -/
theorem covers_iff (plain : written.ArePlain) (areNames : Path.AreNames names) :
    written.Covers names ↔
      written.contains (Path.ofNames names) = true ∨ written.reaches (Path.ofNames names) = true := by
  rw [contains_ofNames_iff plain areNames, reaches_ofNames_iff plain areNames, ← exists_or]
  refine exists_congr fun path => ?_
  rw [← and_or_left]
  refine and_congr_right fun _ => ⟨fun starts => ?_, ?_⟩
  · by_cases same : path.names = names
    · exact .inl same
    · exact .inr ⟨starts, same⟩
  · rintro (same | ⟨starts, _⟩)
    · rw [same]
    · exact starts

end Written

namespace Overlay

/-- Writes files in the given order. -/
def writeAll (overlay : Overlay) : List (Path × String) → StateT Written (TreeM OverlayError) Unit
  | [] => pure ()
  | (relative, text) :: files => do
    let _ ← overlay.write relative text
    overlay.writeAll files

theorem run_writeAll_cons (overlay : Overlay) (relative : Path) (text : String)
    (files : List (Path × String)) (written : Written) :
    (overlay.writeAll ((relative, text) :: files)).run written =
      (overlay.write relative text).run written >>= fun result =>
        (overlay.writeAll files).run result.2 := by
  rw [writeAll, StateT.run_bind]

section
variable {overlay : Overlay} {tree : FileTree}

theorem write_ok {relative : Path} {text : String} {written : Written} {after : FileTree}
    {result : Option Path × Written}
    (ran : runFrom ((overlay.write relative text).run written) tree = (.ok result, after)) :
    result.2 = written ∧ written.contains relative = true ∨
      result.2 = ⟨written.paths ++ [relative]⟩ := by
  rw [Ground.run_write] at ran
  split at ran
  · rename_i again
    cases ran
    exact .inl ⟨rfl, again⟩
  · obtain ⟨_, _, _, ran⟩ := runFrom_bind_ok ran
    obtain ⟨_, _, _, ran⟩ := runFrom_bind_ok ran
    cases ran
    exact .inr rfl

/-- Writing files writes them and no others. -/
theorem writeAll_ok {files : List (Path × String)} {written : Written} {after : FileTree}
    {result : Unit × Written}
    (ran : runFrom ((overlay.writeAll files).run written) tree = (.ok result, after)) :
    written.paths ⊆ result.2.paths ∧
      (∀ path ∈ result.2.paths, path ∈ written.paths ∨ path ∈ files.map Prod.fst) ∧
      ∀ file ∈ files, result.2.contains file.1 = true := by
  induction files generalizing written tree with
  | nil =>
      cases ran
      exact ⟨List.Subset.refl _, fun _ => .inl, List.forall_mem_nil _⟩
  | cons file files ih =>
      obtain ⟨relative, text⟩ := file
      rw [run_writeAll_cons] at ran
      obtain ⟨first, middle, wrote, ran⟩ := runFrom_bind_ok ran
      obtain ⟨grows, among, given⟩ := ih ran
      have later : ∀ {path}, first.2.contains path = true → result.2.contains path = true := by
        intro path found
        obtain ⟨other, member, same⟩ := Written.contains_iff.mp found
        exact Written.contains_iff.mpr ⟨other, grows member, same⟩
      rcases write_ok wrote with ⟨same, again⟩ | same
      · rw [same] at grows among later
        refine ⟨grows, fun path member => ?_, List.forall_mem_cons.mpr ⟨later again, given⟩⟩
        exact (among path member).imp_right (List.mem_cons_of_mem _)
      · rw [same] at grows among later
        refine ⟨List.Subset.trans (List.subset_append_left _ _) grows, fun path member => ?_,
          List.forall_mem_cons.mpr ⟨later ?_, given⟩⟩
        · rcases among path member with old | more
          · rcases List.mem_append.mp old with old | new
            · exact .inl old
            · exact .inr (List.mem_cons.mpr (.inl (List.mem_singleton.mp new)))
          · exact .inr (List.mem_cons_of_mem _ more)
        · exact Written.contains_iff.mpr ⟨relative, by simp, Path.beq_iff.mpr rfl⟩

end

end Overlay

namespace Ground

/-- No place on the way to the root is below it. -/
def Level (ground : Ground) : Prop := ∀ place ∈ ground.entered, ground.place <+: place → place = ground.place

/-- The written files hold the texts that were first given for them. -/
structure Holds (ground : Ground) (overlay : Overlay) (start : FileTree) (files : List (Path × String))
    (written : Written) (tree : FileTree) : Prop where
  spares : ground.Spares start tree
  plain : written.ArePlain
  given : ∀ file ∈ files, written.contains file.1 = true
  first : ∀ path ∈ written.paths, ∃ text,
    files.find? (fun file => file.1 == path) = some (path, text) ∧
      tree.entryAt? (ground.place ++ path.names) = some (.file text.toUTF8)
  ready : ∀ path ∈ written.paths, ground.Ready overlay.root tree path.names.dropLast
  checked : ∀ path ∈ written.paths, checkText (overlay.ofRelative path).text = .ok ()
  lands : ∀ path ∈ written.paths, ∃ front name, path.names = front ++ [name] ∧
    ground.Lands overlay.root (overlay.ofRelative path) front name

/-- What writing files has come to. -/
structure Filled (ground : Ground) (overlay : Overlay) (start : FileTree) (files : List (Path × String))
    (written : Written) (tree : FileTree) : Prop extends
    ground.Holds overlay start files written tree where
  added : ∀ names, names ≠ [] →
    tree.entryAt? (ground.place ++ names) = start.entryAt? (ground.place ++ names) ∨
      written.Covers names

variable {ground : Ground} {overlay : Overlay} {start tree after : FileTree}
  {files more : List (Path × String)} {written : Written} {relative : Path} {text : String}

theorem Holds.empty (tree : FileTree) : ground.Holds overlay tree [] {} tree where
  spares := Spares.refl _ _
  plain := List.forall_mem_nil _
  given := List.forall_mem_nil _
  first := List.forall_mem_nil _
  ready := List.forall_mem_nil _
  checked := List.forall_mem_nil _
  lands := List.forall_mem_nil _

theorem Filled.empty (tree : FileTree) : ground.Filled overlay tree [] {} tree where
  toHolds := .empty tree
  added := fun _ _ => .inl rfl

/-- A path that was written before is not written again. -/
theorem Holds.again (holds : ground.Holds overlay start files written tree)
    (again : written.contains relative = true) :
    ground.Holds overlay start (files ++ [(relative, text)]) written tree where
  spares := holds.spares
  plain := holds.plain
  given := by
    intro file member
    rcases List.mem_append.mp member with front | last
    · exact holds.given file front
    · rwa [List.mem_singleton.mp last]
  first := by
    intro path member
    obtain ⟨text, found, stands⟩ := holds.first path member
    exact ⟨text, by rw [List.find?_append, found]; rfl, stands⟩
  ready := holds.ready
  checked := holds.checked
  lands := holds.lands

section
variable (holds : ground.Holds overlay start files written tree) (plain : relative.isPlain = true)
  (new : written.contains relative = false)
include holds plain new

/-- A new path has other names than those written before. -/
theorem Holds.names_ne {path : Path} (member : path ∈ written.paths) :
    path.names ≠ relative.names := by
  intro same
  have again := Written.contains_iff.mpr
    ⟨path, member, (Path.beq_iff_names (holds.plain path member) plain).mpr same⟩
  rw [new] at again
  cases again

/-- No text was given for a new path. -/
theorem Holds.find?_new : files.find? (fun file => file.1 == relative) = none := by
  refine List.find?_eq_none.mpr fun file member equal => ?_
  obtain ⟨path, among, same⟩ := Written.contains_iff.mp (holds.given file member)
  refine holds.names_ne plain new among ((Path.beq_iff_names (holds.plain path among) plain).mp ?_)
  exact Path.beq_iff.mpr ((Path.beq_iff.mp same).trans (Path.beq_iff.mp equal))

end

/-- A writing adds its file and directories above it. -/
theorem Takes.added {names : List String} (level : ground.Level)
    (takes : ground.Takes overlay.root relative text tree after) (filled : names ≠ []) :
    after.entryAt? (ground.place ++ names) = tree.entryAt? (ground.place ++ names) ∨
      names <+: relative.names := by
  obtain ⟨middle, owns, writes⟩ := takes.steps
  by_cases here : names = relative.names
  · exact .inr (by rw [here])
  rw [writes.others _ fun same => here (List.append_cancel_left same)]
  rcases owns.makes (ground.place ++ names) with same | ⟨_, _, onWay | ⟨front, starts, same⟩⟩
  · exact .inl same
  · exact absurd (List.self_eq_append_right.mp
      (level _ onWay (List.prefix_append _ _)).symm) filled
  · cases List.append_cancel_left same
    exact .inr (starts.trans (List.dropLast_prefix _))

/-- Other files stay as they are. -/
theorem Takes.stays {names : List String} {bytes : ByteArray}
    (takes : ground.Takes overlay.root relative text tree after) (other : names ≠ relative.names)
    (stands : tree.entryAt? (ground.place ++ names) = some (.file bytes)) :
    after.entryAt? (ground.place ++ names) = some (.file bytes) := by
  obtain ⟨middle, owns, writes⟩ := takes.steps
  rw [writes.others _ fun same => other (List.append_cancel_left same)]
  exact owns.keeps.files _ _ stands

theorem forall_mem_concat {holds : Path → Prop} {paths : List Path} {last : Path}
    (front : ∀ path ∈ paths, holds path) (ends : holds last) : ∀ path ∈ paths ++ [last], holds path :=
  List.forall_mem_append.mpr ⟨front, List.forall_mem_singleton.mpr ends⟩

/-- A file that is written keeps the files written before. -/
theorem Holds.write (holds : ground.Holds overlay start files written tree)
    (plain : relative.isPlain = true) (new : written.contains relative = false)
    (takes : ground.Takes overlay.root relative text tree after) :
    ground.Holds overlay start (files ++ [(relative, text)]) ⟨written.paths ++ [relative]⟩ after := by
  have longer : ∀ {path : Path}, (∃ other ∈ written.paths, (other == path) = true) →
      Written.contains ⟨written.paths ++ [relative]⟩ path = true := by
    rintro path ⟨other, member, same⟩
    exact Written.contains_iff.mpr ⟨other, List.mem_append_left _ member, same⟩
  obtain ⟨middle, owns, writes⟩ := takes.steps
  constructor
  case spares => exact holds.spares.trans takes.spares
  case plain => exact forall_mem_concat holds.plain plain
  case given =>
    refine List.forall_mem_append.mpr ⟨fun file member => ?_, List.forall_mem_singleton.mpr ?_⟩
    · exact longer (Written.contains_iff.mp (holds.given file member))
    · exact Written.contains_iff.mpr ⟨relative, by simp, Path.beq_iff.mpr rfl⟩
  case first =>
    refine forall_mem_concat (fun path member => ?_) ⟨text, ?_, writes.file⟩
    · obtain ⟨text, found, stands⟩ := holds.first path member
      exact ⟨text, by rw [List.find?_append, found]; rfl,
        takes.stays (holds.names_ne plain new member) stands⟩
    · rw [List.find?_append, holds.find?_new plain new, Option.none_or]
      exact List.find?_cons_of_pos (Path.beq_iff.mpr rfl)
  case ready =>
    exact forall_mem_concat (fun path member => (holds.ready path member).later takes.spares)
      writes.ready
  case checked => exact forall_mem_concat holds.checked writes.checked
  case lands => exact forall_mem_concat holds.lands takes.lands

/-- Nothing but the file and directories above it has come with it. -/
theorem Filled.write (level : ground.Level)
    (filled : ground.Filled overlay start files written tree) (plain : relative.isPlain = true)
    (new : written.contains relative = false)
    (takes : ground.Takes overlay.root relative text tree after) :
    ground.Filled overlay start (files ++ [(relative, text)]) ⟨written.paths ++ [relative]⟩ after where
  toHolds := filled.toHolds.write plain new takes
  added := by
    intro names some
    rcases takes.added level some with same | starts
    · rw [same]
      refine (filled.added names some).imp_right ?_
      exact fun ⟨path, member, starts⟩ => ⟨path, List.mem_append_left _ member, starts⟩
    · exact .inr ⟨relative, by simp, starts⟩

/-- What each writing keeps is kept when files are written one after the other. -/
theorem writeAll_keeps {keeps : List (Path × String) → Written → FileTree → Prop}
    (spares : ∀ files written tree, keeps files written tree → ground.Spares start tree)
    (again : ∀ files written tree relative text, keeps files written tree →
      written.contains relative = true → keeps (files ++ [(relative, text)]) written tree)
    (write : ∀ files written tree after relative text, keeps files written tree →
      relative.isPlain = true → written.contains relative = false →
        ground.Takes overlay.root relative text tree after →
          keeps (files ++ [(relative, text)]) ⟨written.paths ++ [relative]⟩ after)
    (stands : ground.Stands overlay.root start) (plain : ∀ file ∈ more, file.1.isPlain = true)
    {result : Unit × Written}
    (ran : runFrom ((overlay.writeAll more).run written) tree = (.ok result, after))
    (kept : keeps files written tree) : keeps (files ++ more) result.2 after := by
  induction more generalizing files written tree with
  | nil =>
      cases ran
      rwa [List.append_nil]
  | cons file more ih =>
      obtain ⟨relative, text⟩ := file
      obtain ⟨first, others⟩ := List.forall_mem_cons.mp plain
      rw [Overlay.run_writeAll_cons] at ran
      obtain ⟨next, middle, wrote, ran⟩ := runFrom_bind_ok ran
      rw [List.append_cons]
      refine ih others ran ?_
      rcases (write_ends (stands.later (spares _ _ _ kept)) first text _).of_ok wrote with
        ⟨known, rfl, rfl⟩ | ⟨new, rfl, takes⟩
      · exact again _ _ _ _ _ kept known
      · exact write _ _ _ _ _ _ kept first new takes

theorem writeAll_holds (stands : ground.Stands overlay.root start)
    (holds : ground.Holds overlay start files written tree)
    (plain : ∀ file ∈ more, file.1.isPlain = true) {result : Unit × Written}
    (ran : runFrom ((overlay.writeAll more).run written) tree = (.ok result, after)) :
    ground.Holds overlay start (files ++ more) result.2 after :=
  writeAll_keeps (fun _ _ _ holds => holds.spares) (fun _ _ _ _ _ => Holds.again)
    (fun _ _ _ _ _ _ => Holds.write) stands plain ran holds

theorem writeAll_filled (level : ground.Level) (stands : ground.Stands overlay.root start)
    (filled : ground.Filled overlay start files written tree)
    (plain : ∀ file ∈ more, file.1.isPlain = true) {result : Unit × Written}
    (ran : runFrom ((overlay.writeAll more).run written) tree = (.ok result, after)) :
    ground.Filled overlay start (files ++ more) result.2 after :=
  writeAll_keeps (fun _ _ _ filled => filled.spares)
    (fun _ _ _ _ _ filled again => ⟨filled.toHolds.again again, filled.added⟩)
    (fun _ _ _ _ _ _ => Filled.write level) stands plain ran filled

/-- What is covered is there. -/
theorem Holds.present (holds : ground.Holds overlay start files written tree)
    (sound : start.Sound) {names : List String} (covered : written.Covers names) :
    (tree.entryAt? (ground.place ++ names)).isSome := by
  obtain ⟨path, member, starts⟩ := covered
  obtain ⟨text, _, stands⟩ := holds.first path member
  by_cases same : names = path.names
  · rw [same, stands]
    rfl
  · rw [(holds.spares.sound sound).above ((List.prefix_append_right_inj _).mpr starts)
      (fun equal => same (List.append_cancel_left equal)) stands]
    rfl

/-- The path of a written file that has stayed leads to it, whether or not last links are followed. -/
theorem Holds.place (holds : ground.Holds overlay start files written tree)
    (spares : ground.Spares tree after) {path : Path} (member : path ∈ written.paths)
    {bytes : ByteArray} (stands : after.entryAt? (ground.place ++ path.names) = some (.file bytes))
    (follow : Bool) :
    after.place follow (overlay.ofRelative path) = .ok (ground.place ++ path.names) := by
  have ready := (holds.ready path member).later spares
  obtain ⟨front, name, names, lands⟩ := holds.lands path member
  rw [names, ← List.append_assoc] at stands ⊢
  rw [names, List.dropLast_concat] at ready
  have isName := ready.stands.sound.isEntryName stands
  have short := (Path.isEntryName_iff.mp isName).2.2.2.2
  rw [lands after ready follow (fun _ target => by rw [stands]; simp) (holds.checked path member),
    if_neg (Nat.not_lt.mpr short)]

/-- A written file is read back wherever it has stayed. -/
theorem Holds.readBytes (holds : ground.Holds overlay start files written tree)
    (spares : ground.Spares tree after) {path : Path} (member : path ∈ written.paths)
    {bytes : ByteArray} (stands : after.entryAt? (ground.place ++ path.names) = some (.file bytes)) :
    after.readBytes (overlay.ofRelative path) = .ok bytes := by
  have found : after.target (overlay.ofRelative path) = .ok (.file bytes) :=
    FileTree.entryAt_ok_iff.mpr ⟨_, holds.place spares member stands true, stands⟩
  rw [FileTree.readBytes, found]
  rfl

theorem writeAll_ends (stands : ground.Stands overlay.root tree)
    (plain : ∀ file ∈ files, file.1.isPlain = true) (written : Written) :
    Ends (fun _ after => ground.Spares tree after) (fun after => ground.Spares tree after)
      ((overlay.writeAll files).run written) tree := by
  induction files generalizing written tree with
  | nil => exact ends_pure (Spares.refl _ _)
  | cons file files ih =>
      obtain ⟨relative, text⟩ := file
      obtain ⟨first, others⟩ := List.forall_mem_cons.mp plain
      rw [Overlay.run_writeAll_cons]
      refine ends_bind ((write_ends stands first text written).imp (fun result middle wrote => ?_)
        fun _ => id)
      have spares : ground.Spares tree middle := by
        rcases wrote with ⟨_, _, rfl⟩ | ⟨_, _, takes⟩
        · exact Spares.refl _ _
        · exact takes.spares
      exact (ih (stands.later spares) others result.2).imp (fun _ _ => spares.trans)
        fun _ => spares.trans

end Ground
end AspectLoom
