import AspectLoom.Proofs.Actions
import AspectLoom.Proofs.TreeWalks
/-!
Changes of a file tree. Each operation that succeeds has put one entry where nothing or a file stood
or has taken one away that is no directory, and the tree stays one that a file system can hold.
-/
namespace AspectLoom.FileTree

variable {tree after : FileTree} {place other : Place} {path : Path} {entry : Entry}

/-! One entry more or less -/

theorem entryAt?_put (filled : place ≠ []) (other : Place) :
    (tree.put place entry).entryAt? other =
      if place = other then some entry else tree.entryAt? other := by
  cases other with
  | nil => rw [if_neg filled, entryAt?_nil, entryAt?_nil]
  | cons first rest => exact Assoc.find?_insert ..

theorem ne_nil_of_missing (missing : tree.entryAt? place = none) : place ≠ [] := by
  rintro rfl
  cases missing

theorem ne_nil_of_ne_directory (noDirectory : tree.entryAt? place ≠ some .directory) :
    place ≠ [] := by
  rintro rfl
  exact noDirectory rfl

theorem Sound.names (sound : tree.Sound) (stands : tree.entryAt? place = some entry) :
    ∀ name ∈ place, FileTree.isEntryName name = true := by
  by_cases filled : place = []
  · subst filled
    exact List.forall_mem_nil _
  · exact sound.named _ (mem_entries filled stands)

/-- Something else than a directory has nothing below it. -/
theorem Sound.below (sound : tree.Sound) (noDirectory : tree.entryAt? place ≠ some .directory)
    (starts : place <+: other) (different : place ≠ other) : tree.entryAt? other = none := by
  cases stands : tree.entryAt? other with
  | none => rfl
  | some entry => exact absurd (sound.above starts different stands) noDirectory

theorem Sound.put (sound : tree.Sound) (fits : tree.Fits place)
    (noDirectory : tree.entryAt? place ≠ some .directory) : (tree.put place entry).Sound := by
  have filled := ne_nil_of_ne_directory noDirectory
  have kept : ∀ {other}, tree.entryAt? other = some .directory →
      (tree.put place entry).entryAt? other = some .directory := by
    intro other directory
    have different : place ≠ other := by
      rintro rfl
      exact noDirectory directory
    rw [entryAt?_put filled, if_neg different, directory]
  refine ⟨Assoc.keys_insert_nodup sound.distinct, ?_, ?_, kept sound.workDir⟩
  · intro held member name among
    rcases Assoc.mem_insert member with rfl | old
    · rcases List.mem_append.mp ((List.dropLast_append_getLast filled).symm ▸ among) with front | last
      · exact sound.names fits.parent name front
      · rw [List.mem_singleton.mp last]
        exact fits.named _ (List.getLast?_eq_some_getLast filled)
    · exact sound.named held old name among
  · intro held member
    rcases Assoc.mem_insert member with rfl | old
    · exact kept fits.parent
    · exact kept (sound.closed held old)

theorem entryAt?_prune (sound : tree.Sound) (noDirectory : tree.entryAt? place ≠ some .directory)
    (other : Place) :
    (tree.prune place).entryAt? other = if place = other then none else tree.entryAt? other := by
  have filled := ne_nil_of_ne_directory noDirectory
  cases other with
  | nil => rw [if_neg filled, entryAt?_nil, entryAt?_nil]
  | cons first rest =>
      have kept : Assoc.find? (first :: rest)
          (tree.entries.filter fun entry => !place.isPrefixOf entry.1) = _ :=
        Assoc.find?_filter fun below => !place.isPrefixOf below
      change Assoc.find? (first :: rest) (tree.prune place).entries = _
      rw [show (tree.prune place).entries =
        tree.entries.filter fun entry => !place.isPrefixOf entry.1 from rfl, kept]
      by_cases same : place = first :: rest
      · rw [if_pos same, same, List.isPrefixOf_iff_prefix.mpr (List.prefix_refl _)]
        rfl
      · rw [if_neg same]
        cases below : place.isPrefixOf (first :: rest) with
        | false => rfl
        | true =>
            exact (sound.below noDirectory (List.isPrefixOf_iff_prefix.mp below) same).symm

theorem Sound.prune (sound : tree.Sound) (noDirectory : tree.entryAt? place ≠ some .directory) :
    (tree.prune place).Sound := by
  have kept : ∀ {other}, tree.entryAt? other = some .directory →
      (tree.prune place).entryAt? other = some .directory := by
    intro other directory
    have different : place ≠ other := by
      rintro rfl
      exact noDirectory directory
    rw [entryAt?_prune sound noDirectory, if_neg different, directory]
  have old : ∀ held ∈ (tree.prune place).entries, held ∈ tree.entries :=
    fun held member => (List.mem_filter.mp member).1
  refine ⟨?_, ?_, ?_, kept sound.workDir⟩
  · exact sound.distinct.sublist (List.Sublist.map _ List.filter_sublist)
  · exact fun held member => sound.named held (old held member)
  · exact fun held member => kept (sound.closed held (old held member))

/-! Where operations act -/

/-- Where the walk of a path starts. -/
def startOf (tree : FileTree) (path : Path) : Place :=
  if path.isAbsolute then [] else tree.workDir

theorem startOf_directory (sound : tree.Sound) (path : Path) :
    tree.entryAt? (tree.startOf path) = some .directory := by
  rw [startOf]
  split
  · rfl
  · exact sound.workDir

theorem place_ok_iff {follow : Bool} : tree.place follow path = .ok place ↔
    checkText path.text = .ok () ∧
      tree.walk follow maxLinks (tree.startOf path) (steps path.text) = .ok place := by
  rw [FileTree.place]
  constructor
  · intro found
    obtain ⟨⟨⟩, checked, walked⟩ := Actions.bind_ok found
    exact ⟨checked, walked⟩
  · rintro ⟨checked, walked⟩
    rw [checked]
    exact walked

theorem place_fits (sound : tree.Sound) {follow : Bool} (found : tree.place follow path = .ok place) :
    tree.Fits place :=
  walk_fits sound _ _ _ (arePieces_steps _) (startOf_directory sound path) (place_ok_iff.mp found).2

theorem freePlace_ok_iff {text : String} : tree.freePlace text = .ok place ↔
    tree.place false ⟨text⟩ = .ok place ∧ tree.entryAt? place = none := by
  rw [freePlace]
  constructor
  · intro free
    obtain ⟨found, placed, free⟩ := Actions.bind_ok free
    cases stands : tree.entryAt? found with
    | none =>
        rw [stands] at free
        cases free
        exact ⟨placed, stands⟩
    | some entry =>
        rw [stands] at free
        cases free
  · rintro ⟨placed, missing⟩
    rw [placed]
    change (if (tree.entryAt? place).isSome = true then _ else _) = _
    rw [missing]
    rfl

/-- A path may be used when nothing is wrong with its text, with or without slashes at the end. -/
theorem checkText_ok_iff {text : String} : checkText text = .ok () ↔
    '\x00' ∉ text.toList ∧ text ≠ "" ∧ text.utf8ByteSize ≤ maxPathSize := by
  rw [checkText]
  split
  · rename_i zero
    simp_all
  · rename_i noZero
    split
    · simp_all
    · split
      · rename_i long
        simp only [reduceCtorEq, false_iff, not_and, not_le]
        exact fun _ _ => long
      · rename_i filled short
        simp_all

theorem makeDirectory_ok (sound : tree.Sound) (made : tree.makeDirectory path = .ok after) :
    ∃ place, tree.walk false maxLinks (tree.startOf path) path.segments = .ok place ∧
      tree.entryAt? place = none ∧ after = tree.put place .directory := by
  rw [makeDirectory] at made
  obtain ⟨place, free, made⟩ := Actions.bind_ok made
  cases made
  obtain ⟨placed, missing⟩ := freePlace_ok_iff.mp free
  obtain ⟨_, walked⟩ := place_ok_iff.mp placed
  by_cases empty : withoutSlashes path.text = ""
  · -- The path is the root or the working directory, which are there.
    rw [if_pos empty] at walked
    have directory := startOf_directory sound ⟨path.text⟩
    have stays : place = tree.startOf ⟨path.text⟩ := by
      rcases Path.steps_cases path with same | same
      · rw [same, Path.segments_of_slashes empty, walk_nil] at walked
        exact (Except.ok.inj walked).symm
      · rw [same, Path.segments_of_slashes empty, List.nil_append, walk_here, walk_nil] at walked
        exact (Except.ok.inj walked).symm
    rw [← stays, missing] at directory
    cases directory
  · rw [if_neg empty] at walked
    have start : tree.startOf ⟨withoutSlashes path.text⟩ = tree.startOf path := by
      rw [startOf, startOf, Path.isAbsolute_withoutSlashes empty]
    rw [start, Path.steps_withoutSlashes] at walked
    exact ⟨place, walked, missing, rfl⟩

theorem makeLink_ok {target : String} (made : tree.makeLink target path = .ok after) :
    ∃ place, tree.place false path = .ok place ∧ tree.entryAt? place = none ∧
      after = tree.put place (.link target) := by
  rw [makeLink] at made
  split at made
  · cases made
  dsimp only at made
  split at made
  · cases made
  obtain ⟨place, free, made⟩ := Actions.bind_ok made
  split at made
  · cases made
  cases made
  obtain ⟨placed, missing⟩ := freePlace_ok_iff.mp free
  exact ⟨place, placed, missing, rfl⟩

theorem writeFile_ok {bytes : ByteArray} (written : tree.writeFile path bytes = .ok after) :
    ∃ place, tree.place true path = .ok place ∧ tree.entryAt? place ≠ some .directory ∧
      after = tree.put place (.file bytes) := by
  rw [writeFile] at written
  split at written
  · obtain ⟨_, _, written⟩ := Actions.bind_ok written
    cases written
  obtain ⟨place, placed, written⟩ := Actions.bind_ok written
  refine ⟨place, placed, ?_⟩
  split at written
  · cases written
  · rename_i noDirectory
    cases written
    exact ⟨noDirectory, rfl⟩

theorem removeFile_ok (removed : tree.removeFile path = .ok after) :
    ∃ place, tree.place false path = .ok place ∧ tree.entryAt? place ≠ some .directory ∧
      after = tree.prune place := by
  rw [removeFile] at removed
  obtain ⟨place, placed, removed⟩ := Actions.bind_ok removed
  refine ⟨place, placed, ?_⟩
  split at removed
  · cases removed
  · cases removed
  · rename_i entry noDirectory stands
    cases removed
    rw [stands]
    exact ⟨fun same => noDirectory (Option.some.inj same), rfl⟩

/-! What stands at a path -/

theorem entryAt_of_place {follow : Bool} (placed : tree.place follow path = .ok place) :
    tree.entryAt follow path =
      match tree.entryAt? place with
      | some entry => .ok entry
      | none => .error .notFound := by
  rw [FileTree.entryAt, placed]
  rfl

theorem list_of_place (placed : tree.place true path = .ok place) :
    tree.list path =
      match tree.entryAt? place with
      | some .directory => .ok (sortBy (fun left right => left ≤ right) (tree.children place))
      | some _ => .error .notDirectory
      | none => .error .notFound := by
  rw [FileTree.list, placed]
  rfl

theorem entryAt_ok_iff {follow : Bool} : tree.entryAt follow path = .ok entry ↔
    ∃ place, tree.place follow path = .ok place ∧ tree.entryAt? place = some entry := by
  rw [FileTree.entryAt]
  constructor
  · intro found
    obtain ⟨place, placed, found⟩ := Actions.bind_ok found
    split at found
    · rename_i stands
      cases found
      exact ⟨place, placed, stands⟩
    · cases found
  · rintro ⟨place, placed, stands⟩
    rw [← FileTree.entryAt, entryAt_of_place placed, stands]

theorem isDirectory_iff : tree.isDirectory path = true ↔
    ∃ place, tree.place true path = .ok place ∧ tree.entryAt? place = some .directory := by
  rw [isDirectory, ← entryAt_ok_iff]
  change _ ↔ tree.target path = _
  split
  · rename_i directory
    simp [directory]
  · rename_i other
    simp only [Bool.false_eq_true, false_iff]
    exact fun directory => other directory

/-- A path with a slash or a `.` at its end leads to directories only. -/
theorem place_directory (sound : tree.Sound) {follow : Bool}
    (ends : path.SpelledAsDirectory)
    (placed : tree.place follow path = .ok place) : tree.entryAt? place = some .directory := by
  have start := startOf_directory sound path
  obtain ⟨checked, walked⟩ := place_ok_iff.mp placed
  rcases ends with empty | slash | ⟨front, segments⟩
  · exact absurd empty (checkText_ok_iff.mp checked).2.1
  · rcases Path.steps_of_endsWith slash with none | ⟨front, dot⟩
    · rw [none, walk_nil] at walked
      exact Except.ok.inj walked ▸ start
    · rw [dot] at walked
      exact walk_dot sound _ _ _ start walked
  · rcases Path.steps_cases path with same | same
    · rw [same, segments] at walked
      exact walk_dot sound _ _ _ start walked
    · rw [same] at walked
      exact walk_dot sound _ _ _ start walked

theorem arePieces_segments (path : Path) : ArePieces path.segments := by
  intro piece member
  rcases Path.steps_cases path with same | same
  · exact Path.mem_steps (same ▸ member)
  · exact Path.mem_steps (same ▸ List.mem_append_left _ member)

end AspectLoom.FileTree

namespace AspectLoom.TreeM

open Actions

variable {ε ε' α : Type} {tree : FileTree}

theorem runFrom_apply (change : FileTree → Except FileError FileTree) (tree : FileTree) :
    runFrom (TreeM.apply change) tree =
      match change tree with
      | .ok after => (.ok (), after)
      | .error cause => (.error cause, tree) := by
  rw [TreeM.apply, runFrom_bind, runFrom_get]
  dsimp only
  cases change tree <;> rfl

theorem runFrom_ask (question : FileTree → Except FileError α) (tree : FileTree) :
    runFrom (TreeM.ask question) tree = (question tree, tree) := by
  rw [TreeM.ask, runFrom_bind, runFrom_get]
  dsimp only
  cases question tree <;> rfl

theorem runFrom_mapError (reword : ε → ε') (action : TreeM ε α) (tree : FileTree) :
    runFrom (TreeM.mapError reword action) tree =
      match runFrom action tree with
      | (.ok value, after) => (.ok value, after)
      | (.error cause, after) => (.error (reword cause), after) := by
  cases ran : runFrom action tree with
  | mk result after =>
      have adapted : runFrom (TreeM.mapError reword action) tree =
          (result.mapError reword, after) := by
        change ((runFrom action tree).1.mapError reword, (runFrom action tree).2) = _
        rw [ran]
      rw [adapted]
      cases result <;> rfl

theorem runFrom_makeOrFind (path : Path) (tree : FileTree) :
    runFrom (TreeM.makeOrFind path) tree =
      match tree.makeDirectory path with
      | .ok after => (.ok false, after)
      | .error .notFound => (.ok true, tree)
      | .error cause => if tree.isDirectory path then (.ok false, tree) else (.error cause, tree) := by
  rw [TreeM.makeOrFind, runFrom_bind, runFrom_get]
  dsimp only
  cases tree.makeDirectory path with
  | ok after => rfl
  | error cause =>
      have other : runFrom (do if (← get).isDirectory path then pure false else throw cause) tree =
          if tree.isDirectory path then (.ok false, tree) else (.error cause, tree) := by
        rw [runFrom_bind, runFrom_get]
        dsimp only
        split <;> rfl
      cases cause <;> first | rfl | exact other

/-- There is a directory where one is made or found; else its parent may be missing. -/
theorem makeOrFind_ends (path : Path) (tree : FileTree) :
    Ends (fun missing after => tree.makeDirectory path = .ok after ∧ missing = false ∨
        after = tree ∧ (missing = false → tree.isDirectory path = true))
      (fun after => after = tree) (TreeM.makeOrFind path) tree := by
  have ran := runFrom_makeOrFind path tree
  cases made : tree.makeDirectory path with
  | ok after =>
      rw [made] at ran
      exact ends_of_ran ran (fun _ same => .inl ⟨rfl, (Except.ok.inj same).symm⟩) fun _ same => nomatch same
  | error cause =>
      rw [made] at ran
      by_cases isDirectory : tree.isDirectory path = true
      · cases cause <;> simp [isDirectory] at ran <;>
          exact ends_of_ran ran (by simp [isDirectory]) (by simp)
      · cases cause <;> simp [isDirectory] at ran <;>
          exact ends_of_ran ran (by simp) (by simp)

end AspectLoom.TreeM
