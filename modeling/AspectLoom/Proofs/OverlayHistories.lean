import AspectLoom.Proofs.NestedOverlays
/-!
Overlays that several runs have worked on. A run writes files, makes directories for them and links
the rest of the source, and it takes no file and no directory away. So what an overlay has for a source
path can be told from the paths that were written, by whichever run.
-/
namespace AspectLoom

open Actions
open FileTree (isEntryName)

/-! Aspect units -/

namespace Overlay

variable {overlay : Overlay} {suffix : String} {tree : FileTree} {names : List String}

/-- Whether a path of the source is taken for an aspect unit, by its name and as no directory. -/
def TakesAsUnit (overlay : Overlay) (suffix : String) (tree : FileTree) (names : List String) : Prop :=
  Action.hasSuffix suffix (Path.ofNames names) = true ∧
    tree.isDirectory (overlay.sourceOf (Path.ofNames names)) = false

instance : Decidable (overlay.TakesAsUnit suffix tree names) := inferInstanceAs (Decidable (_ ∧ _))

/-- What a run over an overlay has gone by: the suffix of its aspect units and the paths that it wrote. -/
structure Pass where
  suffix : String
  written : Written

theorem isDirectory_of_kindSeen {path : Path} {isDirectory : Bool}
    (seen : kindSeen tree path = .ok isDirectory) : tree.isDirectory path = isDirectory := by
  rw [kindSeen] at seen
  rw [FileTree.isDirectory]
  split at seen
  · rename_i found
    rw [found]
    exact Except.ok.inj seen
  · rename_i other found
    rw [found]
    cases seen
    split
    · rename_i again
      cases again
      exact absurd rfl other
    · rfl
  · rename_i found
    rw [found]
    split at seen
    · exact Except.ok.inj seen
    · cases seen

end Overlay

namespace Action

variable {written : Written} {suffix : String} {entry : Path} {isDirectory present : Bool}

/-- Aspect units are not linked. -/
theorem not_unit_of_link (choice : decide written suffix entry isDirectory present = .link) :
    ¬ (hasSuffix suffix entry = true ∧ isDirectory = false) := by
  rintro ⟨unit, rfl⟩
  simp [decide, unit] at choice

/-- What is left out is an aspect unit, or it is there. -/
theorem settled_of_skip {reason : SkipReason}
    (choice : decide written suffix entry isDirectory present = .skip reason) :
    (hasSuffix suffix entry = true ∧ isDirectory = false) ∨
      written.contains entry = true ∨ present = true := by
  unfold decide at choice
  split at choice
  · cases choice
  · split at choice
    · rename_i unit
      rw [Bool.and_eq_true, Bool.not_eq_true'] at unit
      exact .inl unit.symm
    · split at choice
      · exact .inr (.inl ‹_›)
      · split at choice
        · exact .inr (.inr ‹_›)
        · cases choice

end Action

/-! What has come from written paths -/

/-- Whether one of some paths is strictly below names. -/
def Path.AnyBelow (paths : List Path) (names : List String) : Prop :=
  ∃ path ∈ paths, names <+: path.names ∧ path.names ≠ names

theorem Path.AnyBelow.above {paths : List Path} {front names : List String}
    (below : AnyBelow paths names) (starts : front <+: names) : AnyBelow paths front := by
  obtain ⟨path, member, longer, different⟩ := below
  refine ⟨path, member, starts.trans longer, ?_⟩
  rintro rfl
  exact different (longer.eq_of_length_le starts.length_le).symm

namespace Ground

open Overlay (Handles Log)

variable {ground : Ground} {overlay : Overlay} {written : Written} {passes : List Overlay.Pass}
  {suffix : String} {start tree made middle after : FileTree} {dir names rest : List String}
  {name : String} {ready : Bool} {log : Log} {entry : Entry} {paths others : List Path}
  {linked linkedToo : List String → Prop}

theorem Walked.anyBelow (walked : Walked written dir) (plain : written.ArePlain) (deep : dir ≠ []) :
    Path.AnyBelow written.paths dir :=
  (Written.reaches_ofNames_iff plain walked.areNames).mp (walked.2.resolve_left deep)

/-- Why something stands at names below the root, if some paths were written and some linked: a directory is
above a written path, a file is at one, and a link leads to the source. -/
inductive Explained (overlay : Overlay) (linked : List String → Prop) (paths : List Path)
    (names : List String) : Entry → Prop where
  | directory (below : Path.AnyBelow paths names) : Explained overlay linked paths names .directory
  | file {path : Path} {bytes : ByteArray} (member : path ∈ paths) (same : path.names = names) :
    Explained overlay linked paths names (.file bytes)
  | link (was : linked names) :
    Explained overlay linked paths names (.link (overlay.sourceOf (Path.ofNames names)).text)

theorem Explained.mono (explained : Explained overlay linked paths names entry)
    (within : paths ⊆ others) (also : ∀ names, linked names → linkedToo names) :
    Explained overlay linkedToo others names entry := by
  cases explained with
  | directory below =>
      obtain ⟨path, member, below⟩ := below
      exact .directory ⟨path, within member, below⟩
  | file member same => exact .file (within member) same
  | link was => exact .link (also names was)

/-- All that stands below the root has come with written paths and links. -/
structure Bears (ground : Ground) (overlay : Overlay) (linked : List String → Prop) (start : FileTree)
    (paths : List Path) (tree : FileTree) : Prop where
  spares : ground.Spares start tree
  explained : ∀ names entry, names ≠ [] → tree.entryAt? (ground.place ++ names) = some entry →
    Explained overlay linked paths names entry
  written : ∀ path ∈ paths, path.names ≠ [] ∧
    ∃ bytes, tree.entryAt? (ground.place ++ path.names) = some (.file bytes)

/-- Nothing is below the root before the first run. -/
theorem Bears.vacant (vacant : ∀ names, names ≠ [] → start.entryAt? (ground.place ++ names) = none) :
    ground.Bears overlay linked start [] start where
  spares := Spares.refl _ _
  explained := by
    intro names entry filled stands
    rw [vacant names filled] at stands
    cases stands
  written := List.forall_mem_nil _

namespace Bears

variable (bears : ground.Bears overlay linked start paths tree)
include bears

theorem congr (same : ∀ path, path ∈ others ↔ path ∈ paths)
    (also : ∀ names, linked names → linkedToo names) :
    ground.Bears overlay linkedToo start others tree where
  spares := bears.spares
  explained := fun names entry filled stands =>
    (bears.explained names entry filled stands).mono (fun path member => (same path).mpr member) also
  written := fun path member => bears.written path ((same path).mp member)

/-- What is above a written path is a directory. -/
theorem directory_of_anyBelow (sound : start.Sound) (below : Path.AnyBelow paths names) :
    tree.entryAt? (ground.place ++ names) = some .directory := by
  obtain ⟨path, member, starts, different⟩ := below
  obtain ⟨_, bytes, file⟩ := bears.written path member
  refine (bears.spares.sound sound).above ((List.prefix_append_right_inj _).mpr starts) ?_ file
  exact fun same => different (List.append_cancel_left same).symm

/-- Directories come above written paths. -/
theorem owns (level : ground.Level) (owns : ground.Owns overlay.root dir tree after)
    (below : ∀ front, front ≠ [] → front <+: dir → Path.AnyBelow paths front) :
    ground.Bears overlay linked start paths after where
  spares := bears.spares.trans owns.spares
  explained := by
    intro names entry filled stands
    rcases owns.makes (ground.place ++ names) with same | ⟨made, _, onWay | ⟨front, starts, same⟩⟩
    · exact bears.explained names entry filled (same ▸ stands)
    · exact absurd (List.append_right_eq_self.mp (level _ onWay (List.prefix_append _ _))) filled
    · cases List.append_cancel_left same
      cases made.symm.trans stands
      exact .directory (below _ filled starts)
  written := by
    intro path member
    obtain ⟨filled, bytes, file⟩ := bears.written path member
    exact ⟨filled, bytes, owns.keeps.files _ _ file⟩

/-- A link comes where nothing stands. -/
theorem put_link (missing : tree.entryAt? (ground.place ++ names) = none)
    (spares : ground.Spares tree (tree.put (ground.place ++ names)
      (.link (overlay.sourceOf (Path.ofNames names)).text)))
    (was : linked names) :
    ground.Bears overlay linked start paths (tree.put (ground.place ++ names)
      (.link (overlay.sourceOf (Path.ofNames names)).text)) := by
  have put : ∀ other, (tree.put (ground.place ++ names)
      (.link (overlay.sourceOf (Path.ofNames names)).text)).entryAt? other =
        if ground.place ++ names = other then some (.link (overlay.sourceOf (Path.ofNames names)).text)
        else tree.entryAt? other := FileTree.entryAt?_put (FileTree.ne_nil_of_missing missing)
  refine ⟨bears.spares.trans spares, ?_, ?_⟩
  · intro other entry filled stands
    rw [put] at stands
    split at stands
    · rename_i same
      cases List.append_cancel_left same
      cases stands
      exact .link was
    · exact bears.explained other entry filled stands
  · intro path member
    obtain ⟨filled, bytes, file⟩ := bears.written path member
    refine ⟨filled, bytes, ?_⟩
    rwa [put, if_neg]
    intro same
    rw [← same, missing] at file
    cases file

/-- A file comes, with directories above it. -/
theorem write {relative : Path} {text : String} (level : ground.Level)
    (takes : ground.Takes overlay.root relative text tree after) :
    ground.Bears overlay linked start (relative :: paths) after := by
  obtain ⟨front, name, split, _⟩ := takes.lands
  obtain ⟨middle, owns, writes⟩ := takes.steps
  refine ⟨bears.spares.trans takes.spares, ?_, ?_⟩
  · intro names entry filled stands
    by_cases here : names = relative.names
    · cases (here ▸ writes.file).symm.trans stands
      exact .file List.mem_cons_self here.symm
    rw [writes.others _ fun same => here (List.append_cancel_left same)] at stands
    rcases owns.makes (ground.place ++ names) with same | ⟨made, _, onWay | ⟨front, starts, same⟩⟩
    · exact (bears.explained names entry filled (same ▸ stands)).mono (List.subset_cons_self _ _)
        fun _ => id
    · exact absurd (List.append_right_eq_self.mp (level _ onWay (List.prefix_append _ _))) filled
    · cases List.append_cancel_left same
      cases made.symm.trans stands
      exact .directory
        ⟨relative, List.mem_cons_self, starts.trans (List.dropLast_prefix _), Ne.symm here⟩
  · refine List.forall_mem_cons.mpr ⟨⟨by simp [split], _, writes.file⟩, fun path member => ?_⟩
    obtain ⟨filled, bytes, file⟩ := bears.written path member
    by_cases here : path.names = relative.names
    · exact ⟨filled, _, here ▸ writes.file⟩
    · exact ⟨filled, bytes, takes.stays here file⟩

end Bears

/-- What a run writes. -/
theorem Bears.writeAll {files : List (Path × String)} (level : ground.Level)
    (stands : ground.Stands overlay.root start)
    (bears : ground.Bears overlay linked start paths tree)
    (plain : ∀ file ∈ files, file.1.isPlain = true) {result : Unit × Written}
    (ran : runFrom ((overlay.writeAll files).run {}) tree = (.ok result, after)) :
    ground.Bears overlay linked start (result.2.paths ++ paths) after := by
  let keeps (_ : List (Path × String)) (written : Written) (tree : FileTree) :=
    ground.Bears overlay linked start (written.paths ++ paths) tree
  refine @writeAll_keeps ground overlay start tree after [] files {} keeps ?_ ?_ ?_ stands plain result ran
    bears
  · exact fun _ _ _ bears => bears.spares
  · exact fun _ _ _ _ _ bears _ => bears
  · intro _ written tree after relative text bears _ _ takes
    refine (bears.write level takes).congr (fun path => ?_) fun _ => id
    simp only [List.mem_append, List.mem_cons, List.not_mem_nil, or_false]
    tauto

/-- Nothing goes while files are written. -/
theorem writeAll_present {files : List (Path × String)} (stands : ground.Stands overlay.root tree)
    (plain : ∀ file ∈ files, file.1.isPlain = true) {result : Unit × Written}
    (ran : runFrom ((overlay.writeAll files).run written) tree = (.ok result, after)) (place : Place)
    (present : (tree.entryAt? place).isSome) : (after.entryAt? place).isSome := by
  let keeps (_ : List (Path × String)) (_ : Written) (later : FileTree) :=
    ground.Spares tree later ∧ (later.entryAt? place).isSome
  refine (@writeAll_keeps ground overlay tree tree after [] files written keeps ?_ ?_ ?_ stands plain result
    ran ⟨Spares.refl _ _, present⟩).2
  · exact fun _ _ _ kept => kept.1
  · exact fun _ _ _ _ _ kept _ => kept
  · rintro _ _ before later relative text ⟨spares, stood⟩ _ _ takes
    refine ⟨spares.trans takes.spares, ?_⟩
    obtain ⟨middle, owns, writes⟩ := takes.steps
    by_cases here : place = ground.place ++ relative.names
    · rw [here, writes.file]
      rfl
    · rw [writes.others place here]
      exact owns.keeps.present place stood

/-! Linking the rest -/

/-- Whether one of some runs links a path where nothing stands: it walks the directory, and the path is none
of its aspect units. -/
def Links (overlay : Overlay) (start : FileTree) (passes : List Overlay.Pass) (names : List String) :
    Prop :=
  ∃ pass ∈ passes, Walked pass.written names.dropLast ∧ ¬ overlay.TakesAsUnit pass.suffix start names

/-- Every path of the source that some run links is in the overlay. -/
def Complete (ground : Ground) (overlay : Overlay) (start : FileTree) (passes : List Overlay.Pass)
    (tree : FileTree) : Prop :=
  ∀ names entry, names ≠ [] → (∀ name ∈ names, isEntryName name = true) →
    start.entryOf (overlay.sourceOf (Path.ofNames names)) = .ok entry →
      Links overlay start passes names → (tree.entryAt? (ground.place ++ names)).isSome

theorem Complete.later (complete : ground.Complete overlay start passes tree)
    (present : ∀ place, (tree.entryAt? place).isSome → (after.entryAt? place).isSome) :
    ground.Complete overlay start passes after :=
  fun names entry filled entries found links =>
    present _ (complete names entry filled entries found links)

section
variable (sound : start.Sound) (apart : ground.Apart overlay written start)
  (unlike : ∀ names, Path.AreNames names →
    overlay.root.components ≠ overlay.sourceRoot.components ++ names.map .name)
include sound apart unlike

/-- The choice for a source entry, by its kind at the start. -/
theorem chosen_decided {action : AspectLoom.Action} (spares : ground.Spares start tree)
    (walked : Walked written dir) (isName : isEntryName name = true)
    (choice : Overlay.chosen ⟨overlay, written, suffix, Path.ofNames dir⟩ tree name = .ok action) :
    ∃ found, Overlay.seen tree (overlay.ofRelative (Path.ofNames (dir ++ [name]))) = .ok found ∧
      action = .decide written suffix (Path.ofNames (dir ++ [name]))
        (start.isDirectory (overlay.sourceOf (Path.ofNames (dir ++ [name])))) found.isSome := by
  have all := areNames_concat walked.areNames isName
  obtain ⟨isDirectory, found, kind, seen, decided⟩ := Overlay.chosen_ok_iff.mp choice
  dsimp only at seen decided
  rw [Path.join_ofNames walked.areNames (Path.isName_of_isEntryName isName)] at seen decided
  rw [apart.kindSeen sound spares walked isName] at kind
  have same := Overlay.isDirectory_of_kindSeen kind
  rw [source_eq walked.areNames isName] at same decided
  have other : ¬ (overlay.sourceRoot.join (Path.ofNames (dir ++ [name])) == overlay.root) = true := by
    rw [Path.beq_iff, Path.components_join (Path.isAbsolute_ofNames all)
      (Path.head?_segments_ofNames all), Path.components_ofNames all]
    exact fun equal => unlike _ all equal.symm
  rw [if_neg other, ← same] at decided
  exact ⟨found, seen, decided⟩

/-- No aspect unit is linked by itself. -/
theorem not_unit_of_choice (spares : ground.Spares start tree) (walked : Walked written dir)
    (isName : isEntryName name = true)
    (choice : Overlay.chosen ⟨overlay, written, suffix, Path.ofNames dir⟩ tree name = .ok .link) :
    ¬ overlay.TakesAsUnit suffix start (dir ++ [name]) := by
  obtain ⟨_, _, decided⟩ := chosen_decided sound apart unlike spares walked isName choice
  exact Action.not_unit_of_link decided.symm

/-- On the way to an entry of a directory that is walked all directories are. -/
theorem descends_above {action : AspectLoom.Action} (spares : ground.Spares start tree)
    (walked : Walked written (dir ++ name :: rest).dropLast) (more : rest ≠ [])
    (entries : ∀ other ∈ dir ++ name :: rest, isEntryName other = true)
    (found : start.entryOf (overlay.sourceOf (Path.ofNames (dir ++ name :: rest))) = .ok entry)
    (here : Walked written dir)
    (choice : Overlay.chosen ⟨overlay, written, suffix, Path.ofNames dir⟩ tree name = .ok action) :
    action = .descend := by
  have split : dir ++ name :: rest = dir ++ [name] ++ rest := List.append_cons ..
  rw [split, List.dropLast_append_of_ne_nil more] at walked
  rw [split] at found entries
  have isName : isEntryName name = true := entries name (by simp)
  obtain ⟨_, _, decided⟩ := chosen_decided sound apart unlike spares here isName choice
  have directory := isDirectory_iff_target.mpr
    (target_above sound (areNames_of_entries entries) (by simp) more found)
  have reached : written.reaches (Path.ofNames (dir ++ [name])) = true :=
    Written.reaches_above walked.areNames (List.prefix_append _ _)
      (walked.2.resolve_left (by simp))
  rw [decided, directory, Action.decide_directory, if_pos reached]

/-- What is left out is there, aspect units apart. -/
theorem present_of_skip {reason : SkipReason} (stands : ground.Stands overlay.root tree)
    (spares : ground.Spares start tree) (walked : Walked written dir)
    (isReady : dir ≠ [] → ground.Ready overlay.root tree dir) (plain : written.ArePlain)
    (has : ∀ path ∈ written.paths, (tree.entryAt? (ground.place ++ path.names)).isSome)
    (isName : isEntryName name = true) (notUnit : ¬ overlay.TakesAsUnit suffix start (dir ++ [name]))
    (choice : Overlay.chosen ⟨overlay, written, suffix, Path.ofNames dir⟩ tree name =
      .ok (.skip reason)) : (tree.entryAt? (ground.place ++ (dir ++ [name]))).isSome := by
  obtain ⟨found, seen, decided⟩ := chosen_decided sound apart unlike spares walked isName choice
  rcases Action.settled_of_skip decided.symm with unit | contained | present
  · exact absurd unit notUnit
  · obtain ⟨path, member, same⟩ :=
      (Written.contains_ofNames_iff plain (areNames_concat walked.areNames isName)).mp contained
    exact same ▸ has path member
  · obtain ⟨entry, rfl⟩ := Option.isSome_iff_exists.mp present
    rw [← List.append_assoc, found_of_seen stands walked.areNames isName isReady seen]
    rfl

/-- What a reconciliation makes. -/
theorem handles_bears (level : ground.Level) (plain : written.ArePlain) (within : written.paths ⊆ paths)
    (links : ∀ names, Links overlay start [⟨suffix, written⟩] names → linked names)
    (handles : Handles overlay written suffix dir names tree ready after log)
    (begins : ground.Begins overlay written dir names tree ready)
    (bears : ground.Bears overlay linked start paths tree) :
    ground.Bears overlay linked start paths after := by
  have below : ∀ {dir : List String}, Walked written dir → ∀ front, front ≠ [] → front <+: dir →
      Path.AnyBelow paths front := by
    intro dir walked front filled starts
    have deep : dir ≠ [] := by
      rintro rfl
      exact filled (List.prefix_nil.mp starts)
    obtain ⟨path, member, below⟩ := (walked.anyBelow plain deep).above starts
    exact ⟨path, within member, below⟩
  induction handles with
  | done => exact bears
  | descend choice owned listed inside onward ihInside ihOnward =>
      obtain ⟨owns, inner⟩ := begins.inside choice owned listed
      have middle := ihInside inner (bears.owns level owns (below inner.walked))
      exact ihOnward (begins.onward (owns.spares.trans (handles_keeps inside inner).spares)) middle
  | skip choice onward ih => exact ih (begins.onward (Spares.refl _ _)) bears
  | @link dir names name tree made middle after ready log choice prepared makes onward ih =>
      obtain ⟨_, _, _, _, later⟩ := begins.link prepared makes
      have notUnit := not_unit_of_choice sound apart unlike bears.spares begins.walked begins.isName choice
      have was : linked (dir ++ [name]) :=
        links _ ⟨_, List.mem_singleton.mpr rfl, by simpa using begins.walked, notUnit⟩
      obtain ⟨isReady, prepares⟩ := begins.prepares prepared
      have bearsMade : ground.Bears overlay linked start paths made := by
        rcases prepares with rfl | owns
        · exact bears
        · exact bears.owns level owns (below begins.walked)
      obtain ⟨missing, same, spares⟩ :=
        makeLink_spares isReady begins.walked.areNames begins.isName makes
      rw [source_eq begins.walked.areNames begins.isName, List.append_assoc] at same
      rw [List.append_assoc] at missing
      subst same
      exact ih later (bearsMade.put_link missing spares was)

/-- What is in a directory that is walked is there in the end, aspect units apart. -/
theorem handles_complete (plain : written.ArePlain)
    (handles : Handles overlay written suffix dir names tree ready after log)
    (begins : ground.Begins overlay written dir names tree ready) (spares : ground.Spares start tree)
    (has : ∀ path ∈ written.paths, (tree.entryAt? (ground.place ++ path.names)).isSome)
    (among : name ∈ names) (walked : Walked written (dir ++ name :: rest).dropLast)
    (entries : ∀ other ∈ dir ++ name :: rest, isEntryName other = true)
    (found : start.entryOf (overlay.sourceOf (Path.ofNames (dir ++ name :: rest))) = .ok entry)
    (notUnit : ¬ overlay.TakesAsUnit suffix start (dir ++ name :: rest)) :
    (after.entryAt? (ground.place ++ (dir ++ name :: rest))).isSome := by
  -- Along the trace: a name is there after its own turn, and later turns keep what is there.
  induction handles generalizing name rest with
  | done => cases among
  | @descend dir names belowNames other tree made middle after ready inner log choice owned listed
      inside onward ihInside ihOnward =>
      obtain ⟨owns, within⟩ := begins.inside choice owned listed
      have first := handles_keeps inside within
      have keeps := owns.keeps.trans first
      have later := begins.onward keeps.spares
      have last := handles_keeps onward later
      rcases List.mem_cons.mp among with rfl | among
      · refine last.present _ ?_
        cases rest with
        | nil =>
            refine first.present _ ?_
            rw [owns.ready.directory]
            rfl
        | cons next others =>
            have split : dir ++ name :: next :: others = dir ++ [name] ++ next :: others :=
              List.append_cons ..
            rw [split] at walked entries found notUnit ⊢
            have entry := hasEntry_of_entryOf sound (areNames_of_entries entries) found
            rw [apart.list sound (spares.trans owns.spares) within.walked] at listed
            exact ihInside within (spares.trans owns.spares)
              (fun path member => owns.keeps.present _ (has path member))
              (mem_list_of_hasEntry sound within.walked.areNames entry listed) walked entries found
              notUnit
      · exact ihOnward later (spares.trans keeps.spares)
          (fun path member => keeps.present _ (has path member)) among walked entries found notUnit
  | skip choice onward ih =>
      have later := begins.onward (Spares.refl _ _)
      rcases List.mem_cons.mp among with rfl | among
      · cases rest with
        | nil =>
            exact (handles_keeps onward later).present _ (present_of_skip sound apart unlike
              begins.stands spares begins.walked begins.below plain has begins.isName notUnit choice)
        | cons next others =>
            -- A name with an entry below it on the walk is descended into, never skipped.
            cases descends_above sound apart unlike spares walked (List.cons_ne_nil _ _) entries found
              begins.walked choice
      · exact ih later spares has among walked entries found notUnit
  | link choice prepared linked onward ih =>
      obtain ⟨_, _, keeps, _, later⟩ := begins.link prepared linked
      rcases List.mem_cons.mp among with rfl | among
      · cases rest with
        | nil =>
            refine (handles_keeps onward later).present _ ?_
            rw [← List.append_assoc, (begins.link_stands prepared linked).2]
            rfl
        | cons next others =>
            cases descends_above sound apart unlike spares walked (List.cons_ne_nil _ _) entries found
              begins.walked choice
      · exact ih later (spares.trans keeps.spares)
          (fun path member => keeps.present _ (has path member)) among walked entries found notUnit

end

/-! Whole runs -/

/-- An overlay when some runs over it have ended. -/
structure Laid (ground : Ground) (overlay : Overlay) (start : FileTree) (passes : List Overlay.Pass)
    (tree : FileTree) : Prop where
  bears : ground.Bears overlay (Links overlay start passes) start
    (passes.flatMap fun pass => pass.written.paths) tree
  plain : ∀ pass ∈ passes, pass.written.ArePlain
  complete : ground.Complete overlay start passes tree

theorem Laid.vacant (vacant : ∀ names, names ≠ [] → start.entryAt? (ground.place ++ names) = none) :
    ground.Laid overlay start [] start where
  bears := .vacant vacant
  plain := List.forall_mem_nil _
  complete := fun _ _ _ _ _ links => absurd links (by simp [Links])

/-- A run over an overlay that runs have left. -/
theorem Laid.run {files : List (Path × String)} {report : ReconcileReport} (sound : start.Sound)
    (level : ground.Level) (stands : ground.Stands overlay.root start)
    (secludes : ground.Secludes overlay.sourceRoot start)
    (unlike : ∀ names, Path.AreNames names →
      overlay.root.components ≠ overlay.sourceRoot.components ++ names.map .name)
    (laid : ground.Laid overlay start passes tree)
    (plain : ∀ file ∈ files, file.1.isPlain = true)
    (wrote : runFrom ((overlay.writeAll files).run {}) tree = (.ok ((), written), middle))
    (reconciled : runFrom (overlay.reconcile written suffix) middle = (.ok report, after)) :
    ground.Laid overlay start (⟨suffix, written⟩ :: passes) after := by
  have apart := secludes.apart written
  have stood := stands.later laid.bears.spares
  have arePlain : written.ArePlain := (writeAll_holds stood (Holds.empty tree) plain wrote).plain
  have bears : ground.Bears overlay (Links overlay start (⟨suffix, written⟩ :: passes)) start
      (written.paths ++ passes.flatMap fun pass => pass.written.paths) middle :=
    (laid.bears.writeAll level stands plain wrote).congr (fun _ => Iff.rfl)
      fun _ => Exists.imp fun _ => And.imp_left (List.mem_cons_of_mem _)
  obtain ⟨names, log, listed, handles, _⟩ :=
    reconcile_handles (stands.later bears.spares) reconciled
  have begins : ground.Begins overlay written [] names middle false :=
    .top (stands.later bears.spares) listed
  have has : ∀ path ∈ written.paths, (middle.entryAt? (ground.place ++ path.names)).isSome := by
    intro path member
    obtain ⟨_, _, file⟩ := bears.written path (List.mem_append_left _ member)
    rw [file]
    rfl
  have top : Walked written [] := ⟨List.forall_mem_nil _, .inl rfl⟩
  rw [apart.list sound bears.spares top] at listed
  refine ⟨?_, List.forall_mem_cons.mpr ⟨arePlain, laid.plain⟩, ?_⟩
  · refine handles_bears sound apart unlike level arePlain (List.subset_append_left _ _) ?_ handles begins
      bears
    exact fun _ => Exists.imp fun _ => And.imp_left fun member =>
      List.mem_cons.mpr (.inl (List.mem_singleton.mp member))
  · intro path entry filled entries found links
    obtain ⟨pass, member, walked, notUnit⟩ := links
    rcases List.mem_cons.mp member with rfl | member
    · obtain ⟨first, rest, rfl⟩ := List.exists_cons_of_ne_nil filled
      have entered : HasEntry overlay start [] first :=
        hasEntry_of_entryOf sound (areNames_of_entries entries) found
      have among := mem_list_of_hasEntry sound (List.forall_mem_nil _) entered listed
      show (after.entryAt? (ground.place ++ ([] ++ first :: rest))).isSome
      exact handles_complete sound apart unlike arePlain handles begins bears.spares has among walked
        entries found notUnit
    · exact laid.complete.later (fun place present =>
        (handles_keeps handles begins).present place (writeAll_present stood plain wrote place present))
          path entry filled entries found ⟨pass, member, walked, notUnit⟩

end Ground
end AspectLoom
