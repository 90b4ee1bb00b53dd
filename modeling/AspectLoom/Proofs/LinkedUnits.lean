import AspectLoom.Proofs.ReconciledOverlays
/-!
Aspect units in a reconciled overlay. None is linked itself, so one is seen only below a directory that
is linked as a whole, and such a directory has no written path below it.
-/
namespace AspectLoom

open Actions
open FileTree (IsStep checkText isEntryName linkBase maxLinks steps)

/-! Walks over names -/

namespace FileTree

variable {tree : FileTree} {base place : Place} {pieces names : List String} {links : Nat}

/-- A walk that succeeds does so with more links to follow. -/
theorem walk_of_le {more : Nat} (walked : tree.walk true links base pieces = .ok place)
    (fewer : links ≤ more) : tree.walk true more base pieces = .ok place := by
  induction links, base, pieces using walk_induction generalizing more with
  | stay links base =>
      rw [walk_nil] at walked ⊢
      exact walked
  | step links base piece rest ih behind =>
      rcases piece_cases piece with rfl | rfl | isStep
      · rw [walk_here] at walked ⊢
        exact ih base walked fewer
      · rw [walk_up] at walked ⊢
        exact ih _ walked fewer
      · obtain ⟨short, ⟨rfl, rfl, _, stops⟩ | ⟨into, onward⟩ | ⟨target, less, link, rfl, onward⟩⟩ :=
          walk_step_ok isStep walked
        · rw [walk_last isStep stops, if_neg (Nat.not_lt.mpr short)]
        · rw [walk_step _ _ _ _ isStep, if_neg (Nat.not_lt.mpr short), into]
          exact ih _ onward fewer
        · obtain ⟨more, rfl⟩ : ∃ one, more = one + 1 := ⟨more - 1, by omega⟩
          rw [walk_step _ _ _ _ isStep, if_neg (Nat.not_lt.mpr short), link]
          dsimp only
          rw [Bool.not_true, Bool.and_false, if_neg Bool.false_ne_true]
          exact behind less (Nat.lt_succ_self _) _ _ onward (Nat.le_of_succ_le_succ fewer)

/-- A walk over names leads straight down, unless it comes to a link first. -/
theorem walk_names (areSteps : ∀ name ∈ names, IsStep name)
    (walked : tree.walk true links base names = .ok place) :
    place = base ++ names ∨ ∃ front name rest target fewer, names = front ++ name :: rest ∧
      fewer < links ∧ tree.entryAt? (base ++ (front ++ [name])) = some (.link target) ∧
        tree.walk true fewer (linkBase (base ++ front) target) (steps target ++ rest) = .ok place := by
  induction names generalizing base with
  | nil =>
      rw [walk_nil] at walked
      cases walked
      exact .inl (List.append_nil _).symm
  | cons name rest ih =>
      obtain ⟨isStep, others⟩ := List.forall_mem_cons.mp areSteps
      obtain ⟨_, ⟨rfl, rfl, _⟩ | ⟨_, onward⟩ | ⟨target, fewer, link, rfl, onward⟩⟩ :=
        walk_step_ok isStep walked
      · exact .inl rfl
      · rcases ih others onward with rfl | ⟨front, last, back, target, fewer, rfl, less, link, behind⟩
        · exact .inl (List.append_assoc ..)
        · rw [List.append_assoc] at link behind
          exact .inr ⟨name :: front, last, back, target, fewer, rfl, less, link, behind⟩
      · refine .inr ⟨[], name, rest, target, fewer, rfl, Nat.lt_succ_self _, link, ?_⟩
        rw [List.append_nil]
        exact onward

end FileTree

theorem Path.fileName?_ofNames {front : List String} {name : String}
    (areNames : AreNames (front ++ [name])) : (ofNames (front ++ [name])).fileName? = some name := by
  rw [fileName?, components_ofNames areNames, List.map_append, List.map_singleton,
    List.getLast?_concat]

theorem Action.hasSuffix_ofNames {suffix name : String} {front : List String}
    (areNames : Path.AreNames (front ++ [name])) :
    hasSuffix suffix (Path.ofNames (front ++ [name])) = name.endsWith suffix := by
  rw [hasSuffix, Path.fileName?_ofNames areNames, Option.any_some]

/-- What is linked is either a directory that no written path lies below or no aspect unit. -/
theorem Action.eq_false_of_decide_link {written : Written} {suffix : String} {entry : Path}
    {isDirectory present : Bool} (link : decide written suffix entry isDirectory present = .link) :
    (isDirectory && written.reaches entry) = false ∧
      (!isDirectory && hasSuffix suffix entry) = false := by
  rw [decide] at link
  split at link
  · cases link
  · rename_i notWalked
    split at link
    · cases link
    · rename_i notUnit
      exact ⟨Bool.eq_false_iff.mpr notWalked, Bool.eq_false_iff.mpr notUnit⟩

theorem Overlay.kindSeen_ok {tree : FileTree} {path : Path} {isDirectory : Bool}
    (kind : kindSeen tree path = .ok isDirectory) :
    checkText path.text = .ok () ∧ isDirectory = tree.isDirectory path := by
  have checked : ∀ {follow entry}, tree.entryAt follow path = .ok entry → checkText path.text = .ok () :=
    fun found => (FileTree.place_ok_iff.mp (FileTree.entryAt_ok_iff.mp found).choose_spec.1).1
  rw [kindSeen] at kind
  rw [FileTree.isDirectory]
  cases found : tree.target path with
  | ok entry =>
      rw [found] at kind
      refine ⟨checked found, ?_⟩
      cases entry <;> exact (Except.ok.inj kind).symm
  | error cause =>
      rw [found] at kind
      dsimp only at kind
      cases stands : tree.entryOf path with
      | ok entry =>
          rw [stands] at kind
          exact ⟨checked stands, (Except.ok.inj kind).symm⟩
      | error cause =>
          rw [stands] at kind
          cases kind

/-! The links of an overlay -/

namespace Ground

open Overlay (Handles Log)

variable {ground : Ground} {root : Path} {overlay : Overlay} {written : Written} {suffix : String}
  {tree start before middle made after : FileTree} {dir names : List String} {name : String}
  {ready : Bool} {log : Log} {place : Place} {target : String}

/-- Making directories makes no links. -/
theorem Makes.link (makes : ground.Makes names before after)
    (link : after.entryAt? place = some (.link target)) :
    before.entryAt? place = some (.link target) := by
  rcases makes place with same | ⟨directory, _⟩
  · rwa [← same]
  · rw [directory] at link
    cases link

/-- Writing a file makes no links. -/
theorem Takes.link {relative : Path} {text : String}
    (takes : ground.Takes root relative text before after)
    (link : after.entryAt? place = some (.link target)) :
    before.entryAt? place = some (.link target) := by
  obtain ⟨middle, owns, writes⟩ := takes.steps
  by_cases here : place = ground.place ++ relative.names
  · rw [here, writes.file] at link
    cases link
  · rw [writes.others place here] at link
    exact owns.makes.link link

/-- What stands off the ground is spared, and no links have come. -/
structure Unlinked (ground : Ground) (before after : FileTree) : Prop where
  spares : ground.Spares before after
  link : ∀ place target, after.entryAt? place = some (.link target) →
    before.entryAt? place = some (.link target)

theorem writeAll_unlinked {files : List (Path × String)} (stands : ground.Stands overlay.root tree)
    (plain : ∀ file ∈ files, file.1.isPlain = true) {result : Unit × Written}
    (ran : runFrom ((overlay.writeAll files).run written) tree = (.ok result, after)) :
    ground.Unlinked tree after := by
  refine @writeAll_keeps ground overlay tree tree after [] files written
    (fun _ _ => ground.Unlinked tree) (fun _ _ _ kept => kept.spares) (fun _ _ _ _ _ kept _ => kept) ?_
    stands plain result ran ⟨Spares.refl _ _, fun _ _ => id⟩
  intro _ _ _ _ _ _ kept _ _ takes
  exact ⟨kept.spares.trans takes.spares, fun place target link => kept.link place target (takes.link link)⟩

/-- A link below the root that was not there before is recorded, and it leads to its source. -/
theorem link_recorded (handles : Handles overlay written suffix dir names tree ready after log)
    (begins : ground.Begins overlay written dir names tree ready) {key : List String}
    (link : after.entryAt? (ground.place ++ key) = some (.link target)) :
    tree.entryAt? (ground.place ++ key) = some (.link target) ∨
      (key, .link) ∈ log ∧ target = (overlay.sourceOf (Path.ofNames key)).text := by
  induction handles with
  | done => exact .inl link
  | descend choice owned listed inside onward ihInside ihOnward =>
      obtain ⟨owns, below⟩ := begins.inside choice owned listed
      have spares := owns.spares.trans (handles_keeps inside below).spares
      rcases ihOnward (begins.onward spares) link with earlier | ⟨later, same⟩
      · rcases ihInside below earlier with first | ⟨inner, same⟩
        · exact .inl (owns.makes.link first)
        · exact .inr ⟨List.mem_cons_of_mem _ (List.mem_append_left _ inner), same⟩
      · exact .inr ⟨List.mem_cons_of_mem _ (List.mem_append_right _ later), same⟩
  | skip choice onward ih =>
      refine (ih (begins.onward (Spares.refl _ _)) link).imp_right ?_
      exact fun ⟨later, same⟩ => ⟨List.mem_cons_of_mem _ later, same⟩
  | @link dir names name tree made middle after ready log choice prepared linked onward ih =>
      obtain ⟨missing, rfl, _, _, later⟩ := begins.link prepared linked
      rcases ih later link with here | ⟨recorded, same⟩
      · rw [FileTree.entryAt?_put (FileTree.ne_nil_of_missing missing)] at here
        split at here
        · rename_i equal
          rw [List.append_assoc] at equal
          cases List.append_cancel_left equal
          cases here
          rw [source_eq begins.walked.areNames begins.isName]
          exact .inr ⟨List.mem_cons_self, rfl⟩
        · rcases (begins.prepares prepared).2 with rfl | owns
          · exact .inl here
          · exact .inl (owns.makes.link here)
      · exact .inr ⟨List.mem_cons_of_mem _ recorded, same⟩

/-- A recorded link was chosen for an entry of a directory that was walked. -/
theorem chosen_of_mem (handles : Handles overlay written suffix dir names tree ready after log)
    (begins : ground.Begins overlay written dir names tree ready) {key : List String}
    (member : (key, .link) ∈ log) :
    ∃ front name here, key = front ++ [name] ∧ Walked written front ∧ isEntryName name = true ∧
      ground.Spares tree here ∧
        Overlay.chosen ⟨overlay, written, suffix, Path.ofNames front⟩ here name = .ok .link := by
  induction handles with
  | done => cases member
  | descend choice owned listed inside onward ihInside ihOnward =>
      obtain ⟨owns, below⟩ := begins.inside choice owned listed
      have spares := owns.spares.trans (handles_keeps inside below).spares
      rcases List.mem_cons.mp member with same | member
      · cases same
      rcases List.mem_append.mp member with inner | later
      · obtain ⟨front, name, here, rfl, walked, isName, more, chose⟩ := ihInside below inner
        exact ⟨front, name, here, rfl, walked, isName, owns.spares.trans more, chose⟩
      · obtain ⟨front, name, here, rfl, walked, isName, more, chose⟩ :=
          ihOnward (begins.onward spares) later
        exact ⟨front, name, here, rfl, walked, isName, spares.trans more, chose⟩
  | skip choice onward ih =>
      rcases List.mem_cons.mp member with same | member
      · cases same
      · exact ih (begins.onward (Spares.refl _ _)) member
  | @link dir names name tree made middle after ready log choice prepared linked onward ih =>
      rcases List.mem_cons.mp member with same | member
      · cases same
        exact ⟨dir, name, tree, rfl, begins.walked, begins.isName, Spares.refl _ _, choice⟩
      · obtain ⟨_, _, keeps, _, later⟩ := begins.link prepared linked
        obtain ⟨front, name, here, rfl, walked, isName, more, chose⟩ := ih later member
        exact ⟨front, name, here, rfl, walked, isName, keeps.spares.trans more, chose⟩

/-- What is known of an entry that is linked, by the source as it was at the beginning. -/
structure Linkable (overlay : Overlay) (written : Written) (suffix : String) (tree : FileTree)
    (dir : List String) (name : String) : Prop where
  checked : checkText (overlay.sourceOf (Path.ofNames (dir ++ [name]))).text = .ok ()
  ofDirectory : tree.isDirectory (overlay.sourceOf (Path.ofNames (dir ++ [name]))) = true →
    written.reaches (Path.ofNames (dir ++ [name])) = false
  ofOther : tree.isDirectory (overlay.sourceOf (Path.ofNames (dir ++ [name]))) = false →
    name.endsWith suffix = false

theorem linkable_of_chosen (apart : ground.Apart overlay written tree) (sound : tree.Sound)
    (spares : ground.Spares tree made) (walked : Walked written dir) (isName : isEntryName name = true)
    (choice : Overlay.chosen ⟨overlay, written, suffix, Path.ofNames dir⟩ made name = .ok .link) :
    Linkable overlay written suffix tree dir name := by
  obtain ⟨isDirectory, found, kind, _, decided⟩ := Overlay.chosen_ok_iff.mp choice
  have areNames := walked.areNames
  rw [apart.kindSeen sound spares walked isName, source_eq areNames isName] at kind
  obtain ⟨checked, rfl⟩ := Overlay.kindSeen_ok kind
  split at decided
  · cases decided
  dsimp only at decided
  rw [Path.join_ofNames areNames (Path.isName_of_isEntryName isName)] at decided
  obtain ⟨notWalked, notUnit⟩ := Action.eq_false_of_decide_link decided.symm
  rw [Action.hasSuffix_ofNames (areNames_concat areNames isName)] at notUnit
  refine ⟨checked, fun directory => ?_, fun other => ?_⟩
  · rw [Overlay.sourceOf] at directory
    rwa [directory, Bool.true_and] at notWalked
  · rw [Overlay.sourceOf] at other
    rwa [other, Bool.not_false, Bool.true_and] at notUnit

theorem linkable_of_mem {log : Log} {key : List String}
    (handles : Handles overlay written suffix dir names tree ready after log)
    (begins : ground.Begins overlay written dir names tree ready)
    (apart : ground.Apart overlay written start) (sound : start.Sound)
    (spares : ground.Spares start tree) (member : (key, .link) ∈ log) :
    ∃ front name, key = front ++ [name] ∧ Walked written front ∧ isEntryName name = true ∧
      Linkable overlay written suffix start front name := by
  obtain ⟨front, name, here, same, walked, isName, more, choice⟩ := chosen_of_mem handles begins member
  exact ⟨front, name, same, walked, isName,
    linkable_of_chosen apart sound (spares.trans more) walked isName choice⟩

end Ground

/-! Aspect units -/

namespace Overlay

/-- A file of the source whose name ends with a suffix. -/
structure IsUnit (overlay : Overlay) (suffix : String) (tree : FileTree) (place : Place) : Prop where
  file : ∃ bytes, tree.entryAt? place = some (.file bytes)
  named : ∃ above name, place = above ++ [name] ∧ name.endsWith suffix = true
  inside : ∃ base, tree.place true overlay.sourceRoot = .ok base ∧ base <+: place

/-- No link of the source that is not called as an aspect unit leads to one. -/
def LinksNoUnits (overlay : Overlay) (suffix : String) (tree : FileTree) : Prop :=
  ∀ names, (∀ name ∈ names, isEntryName name = true) →
    Action.hasSuffix suffix (Path.ofNames names) = false → ∀ target,
      tree.entryOf (overlay.sourceOf (Path.ofNames names)) = .ok (.link target) → ∀ place,
        tree.place true (overlay.sourceOf (Path.ofNames names)) = .ok place →
          ¬ overlay.IsUnit suffix tree place

end Overlay

namespace Ground

variable {ground : Ground} {overlay : Overlay} {written : Written} {suffix : String}
  {tree after : FileTree} {dir rest : List String} {name : String} {place : Place}

/-- What is linked and no directory does not lead to an aspect unit. -/
theorem not_isUnit_of_linkable (sound : tree.Sound) (linksNoUnits : overlay.LinksNoUnits suffix tree)
    (entries : ∀ other ∈ dir ++ [name], isEntryName other = true)
    (linkable : Linkable overlay written suffix tree dir name)
    (placed : tree.place true (overlay.sourceOf (Path.ofNames (dir ++ [name]))) = .ok place) :
    ¬ overlay.IsUnit suffix tree place := by
  intro unit
  have areNames := areNames_of_entries entries
  obtain ⟨bytes, file⟩ := unit.file
  have notDirectory : tree.isDirectory (overlay.sourceOf (Path.ofNames (dir ++ [name]))) = false := by
    rw [FileTree.isDirectory, FileTree.target, FileTree.entryAt_of_place placed, file]
  have other := linkable.ofOther notDirectory
  obtain ⟨checked, walked⟩ := FileTree.place_ok_iff.mp placed
  rw [startOf_sourceOf areNames, steps_sourceOf_concat areNames, ← List.append_assoc] at walked
  obtain ⟨middle, left, _, first, directory, last⟩ := FileTree.walk_front sound
    (FileTree.startOf_directory sound _) (List.cons_ne_nil _ _) walked
  have notLast : place ≠ middle ++ [name] := by
    obtain ⟨above, found, same, suffixed⟩ := unit.named
    rintro rfl
    cases (List.append_inj' same rfl).2
    rw [other] at suffixed
    cases suffixed
  have isName := areNames name (by simp)
  obtain ⟨_, ⟨same, _⟩ | ⟨_, onward⟩ | ⟨target, fewer, link, _⟩⟩ := FileTree.walk_step_ok isName.2.2 last
  · exact notLast same
  · exact notLast (Except.ok.inj ((FileTree.walk_nil ..).symm.trans onward)).symm
  · refine linksNoUnits _ entries ?_ target ?_ place placed unit
    · rwa [Action.hasSuffix_ofNames areNames]
    · obtain ⟨_, _, goes⟩ := FileTree.walk_append first directory
      refine FileTree.entryAt_ok_iff.mpr ⟨middle ++ [name], FileTree.place_ok_iff.mpr ⟨checked, ?_⟩, link⟩
      rw [startOf_sourceOf areNames, steps_sourceOf_concat areNames, ← List.append_assoc,
        goes false [name] (List.cons_ne_nil _ _), FileTree.walk_name (sound.isEntryName link) (by simp)]

/-- Behind a link an aspect unit is found only below a directory. -/
theorem isDirectory_of_unit (apart : ground.Apart overlay written tree) (sound : tree.Sound)
    (spares : ground.Spares tree after) (linksNoUnits : overlay.LinksNoUnits suffix tree)
    (walked : Walked written dir) (isName : isEntryName name = true)
    (linkable : Linkable overlay written suffix tree dir name)
    (behind : after.walk true maxLinks (after.startOf overlay.sourceRoot)
      (overlay.sourceRoot.segments ++ (dir ++ [name]) ++ rest) = .ok place)
    (unit : overlay.IsUnit suffix tree place) :
    rest ≠ [] ∧ tree.isDirectory (overlay.sourceOf (Path.ofNames (dir ++ [name]))) = true := by
  have entries : ∀ other ∈ dir ++ [name], isEntryName other = true :=
    List.forall_mem_append.mpr ⟨walked.1, List.forall_mem_singleton.mpr isName⟩
  have areNames := areNames_of_entries entries
  have agree := (apart dir name walked isName).agree spares
  rw [← startOf_sourceOf areNames, ← steps_sourceOf_concat areNames] at agree
  have leads : ∀ {found}, after.walk true maxLinks (after.startOf overlay.sourceRoot)
      (overlay.sourceRoot.segments ++ (dir ++ [name])) = .ok found →
        after.place true (overlay.sourceOf (Path.ofNames (dir ++ [name]))) = .ok found := by
    intro found walked
    refine FileTree.place_ok_iff.mpr ⟨linkable.checked, ?_⟩
    rwa [startOf_sourceOf areNames, steps_sourceOf_concat areNames]
  by_cases last : rest = []
  · subst last
    rw [List.append_nil] at behind
    have placed := leads behind
    rw [FileTree.place_congr spares.workDir agree] at placed
    exact absurd unit (not_isUnit_of_linkable sound linksNoUnits entries linkable placed)
  · refine ⟨last, ?_⟩
    obtain ⟨middle, _, _, first, directory, _⟩ := FileTree.walk_front (spares.sound sound)
      (FileTree.startOf_directory (spares.sound sound) _) last behind
    have found := FileTree.entryAt_ok_iff.mpr ⟨middle, leads first, directory⟩
    rw [FileTree.entryAt_congr sound spares.workDir agree spares.directories] at found
    exact isDirectory_iff_target.mpr found

/-- A path of the overlay leads to its own place, or over a link below the root. -/
theorem link_of_place {names : List String} (stands : ground.Stands overlay.root after)
    (filled : names ≠ []) (areNames : Path.AreNames names)
    (placed : after.place true (overlay.ofRelative (Path.ofNames names)) = .ok place) :
    place = ground.place ++ names ∨ ∃ front name rest target links, names = front ++ name :: rest ∧
      links < maxLinks ∧ after.entryAt? (ground.place ++ (front ++ [name])) = some (.link target) ∧
        after.walk true links (linkBase (ground.place ++ front) target) (steps target ++ rest) =
          .ok place := by
  obtain ⟨init, last, rfl⟩ := (List.eq_nil_or_concat names).resolve_left filled
  rw [List.concat_eq_append] at *
  obtain ⟨_, walked⟩ := FileTree.place_ok_iff.mp placed
  rw [Overlay.ofRelative, startOf_eq (Path.isAbsolute_join (Path.isAbsolute_ofNames areNames)),
    Path.steps_join_concat areNames] at walked
  obtain ⟨_, left, budget, walked⟩ := stands.way.walk_onward filled walked
  refine (FileTree.walk_names (fun name member => (areNames name member).2.2) walked).imp_right ?_
  rintro ⟨front, name, rest, target, fewer, split, less, link, behind⟩
  exact ⟨front, name, rest, target, fewer, split, by omega, link, behind⟩

/-- Over a link to a source entry a path leads on below the source's root. -/
theorem walk_of_link {front rest : List String} {links : Nat}
    (absolute : overlay.sourceRoot.isAbsolute = true) (areNames : Path.AreNames (front ++ [name]))
    (few : links < maxLinks)
    (behind : after.walk true links (linkBase (ground.place ++ front)
        (overlay.sourceOf (Path.ofNames (front ++ [name]))).text)
      (steps (overlay.sourceOf (Path.ofNames (front ++ [name]))).text ++ rest) = .ok place) :
    after.walk true maxLinks (after.startOf overlay.sourceRoot)
      (overlay.sourceRoot.segments ++ (front ++ [name]) ++ rest) = .ok place := by
  have base : linkBase (ground.place ++ front)
      (overlay.sourceOf (Path.ofNames (front ++ [name]))).text = after.startOf overlay.sourceRoot := by
    rw [linkBase, FileTree.startOf, if_pos absolute, if_pos]
    exact (Path.isAbsolute_join (Path.isAbsolute_ofNames areNames)).trans absolute
  rw [base, steps_sourceOf_concat areNames] at behind
  exact FileTree.walk_of_le behind (Nat.le_of_lt few)

end Ground

namespace Overlay

/-- Where files are written and the rest of the source is linked, no aspect unit is linked, and one is
seen only below a directory that is linked as a whole because no written path lies below it. -/
theorem reconcile_links_no_units (ground : Ground) (overlay : Overlay) (files : List (Path × String))
    (suffix : String) (tree : FileTree) (stands : ground.Stands overlay.root tree)
    (vacant : ∀ names, names ≠ [] → tree.entryAt? (ground.place ++ names) = none)
    (absolute : overlay.sourceRoot.isAbsolute = true)
    (plain : ∀ file ∈ files, file.1.isPlain = true) (linksNoUnits : overlay.LinksNoUnits suffix tree)
    {written : Written} {middle after : FileTree} {report : ReconcileReport}
    (apart : ground.Apart overlay written tree)
    (wrote : runFrom ((overlay.writeAll files).run {}) tree = (.ok ((), written), middle))
    (reconciled : runFrom (overlay.reconcile written suffix) middle = (.ok report, after)) :
    (∀ link ∈ report.linked, ∃ names, link = overlay.ofRelative (Path.ofNames names) ∧
      (Action.hasSuffix suffix (Path.ofNames names) = true →
        tree.isDirectory (overlay.sourceOf (Path.ofNames names)) = true)) ∧
    ∀ names, names ≠ [] → (∀ name ∈ names, isEntryName name = true) → ∀ place,
      after.place true (overlay.ofRelative (Path.ofNames names)) = .ok place →
      overlay.IsUnit suffix tree place →
        ∃ front back, names = front ++ back ∧ back ≠ [] ∧
          overlay.ofRelative (Path.ofNames front) ∈ report.linked ∧
          tree.isDirectory (overlay.sourceOf (Path.ofNames front)) = true ∧
          written.reaches (Path.ofNames front) = false := by
  have sound := stands.sound
  have unlinked := Ground.writeAll_unlinked stands plain wrote
  have ready := stands.later unlinked.spares
  obtain ⟨below, log, listed, handles, rfl⟩ := Ground.reconcile_handles ready reconciled
  have begins : ground.Begins overlay written [] below middle false := .top ready listed
  have spares := unlinked.spares.trans (Ground.handles_keeps handles begins).spares
  rw [foldl_logged]
  simp only [List.nil_append]
  refine ⟨fun link linked => ?_, fun names filled entries place placed unit => ?_⟩
  · obtain ⟨key, recorded, rfl⟩ := mem_linked_iff.mp linked
    obtain ⟨front, name, rfl, walked, isName, known⟩ :=
      Ground.linkable_of_mem handles begins apart sound unlinked.spares recorded
    refine ⟨_, rfl, fun suffixed => ?_⟩
    rw [Action.hasSuffix_ofNames (Ground.areNames_concat walked.areNames isName)] at suffixed
    by_contra other
    rw [known.ofOther (Bool.eq_false_iff.mpr other)] at suffixed
    cases suffixed
  -- A path that shows a unit crosses a link, as nothing else was below the root, and a link that
  -- is new was made for a source entry.
  · have areNames := Ground.areNames_of_entries entries
    rcases Ground.link_of_place (stands.later spares) filled areNames placed with
      rfl | ⟨front, name, rest, target, links, split, few, link, behind⟩
    · obtain ⟨bytes, file⟩ := unit.file
      rw [vacant _ filled] at file
      cases file
    rcases Ground.link_recorded handles begins link with earlier | ⟨recorded, rfl⟩
    · have before := unlinked.link _ _ earlier
      rw [vacant _ (by simp)] at before
      cases before
    obtain ⟨_, _, same, walkedFront, isName, known⟩ :=
      Ground.linkable_of_mem handles begins apart sound unlinked.spares recorded
    obtain ⟨rfl, equal⟩ := List.append_inj' same rfl
    cases equal
    have onward := Ground.walk_of_link absolute (Ground.areNames_concat walkedFront.areNames isName)
      few behind
    obtain ⟨more, directory⟩ := Ground.isDirectory_of_unit apart sound spares linksNoUnits walkedFront
      isName known onward unit
    exact ⟨front ++ [name], rest, by rw [split, List.append_cons], more,
      mem_linked_iff.mpr ⟨_, recorded, rfl⟩, directory, known.ofDirectory directory⟩

/-- A package that is woven, and a directory with nothing but an aspect unit. -/
def unitTree : FileTree where
  entries := [
    (["src"], .directory),
    (["src", "main.go"], .file "package main\n".toUTF8),
    (["src", "pkg"], .directory),
    (["src", "pkg", "a_aspect.go"], .file "package pkg\n".toUTF8)]

/-- The tree once the woven file was written. -/
def unitMiddle : FileTree where
  entries := unitTree.entries ++ [
    (["out"], .directory),
    (["out", "main.go"], .file "package woven\n".toUTF8)]

def unitGround : Ground := ⟨["out"], [["out"]], []⟩

def unitFiles : List (Path × String) := [(⟨"main.go"⟩, "package woven\n")]

theorem unitTree_noLink (place : Place) (target : String) :
    unitTree.entryAt? place ≠ some (.link target) :=
  FileTree.noLink_of_entries (by simp [unitTree]) place target

theorem unitTree_sound : unitTree.Sound where
  distinct := by decide
  named := by decide
  closed := by
    simp only [unitTree, List.forall_mem_cons]
    exact ⟨rfl, rfl, rfl, rfl, List.forall_mem_nil _⟩
  workDir := rfl

/-- Where both roots lead, and what the aspect unit is called. -/
theorem unitTree_places :
    Ground.ofRoot unitTree staleOverlay.root = unitGround ∧
      Ground.ofRoot unitTree staleOverlay.sourceRoot = ⟨["src"], [["src"]], []⟩ ∧
      (unitTree.place true staleOverlay.sourceRoot).toOption = some ["src"] ∧
      "a_aspect.go".endsWith "_aspect.go" = true := by decide +kernel

theorem unitTree_stands : unitGround.Stands staleOverlay.root unitTree :=
  unitTree_places.1 ▸ Ground.ofRoot_stands unitTree_sound fun place _ => unitTree_noLink place

theorem unitTree_vacant (names : List String) :
    unitTree.entryAt? (unitGround.place ++ names) = none :=
  FileTree.vacant_of_entries (by decide) (by simp [unitTree, unitGround]) names

theorem unitTree_apart (written : Written) : unitGround.Apart staleOverlay written unitTree := by
  have way := (Ground.ofRoot_stands unitTree_sound fun place (_ : place ∈
    (Ground.ofRoot unitTree staleOverlay.sourceRoot).entered) => unitTree_noLink place).way
  rw [unitTree_places.2.1] at way
  refine Ground.Secludes.apart ?_ written
  exact Ground.secludes_of_no_links way (by decide) (fun place _ => unitTree_noLink place) (by decide)
    (by decide) (by decide)

theorem unitTree_linksNoUnits : staleOverlay.LinksNoUnits "_aspect.go" unitTree := by
  intro names _ _ target found
  obtain ⟨place, _, link⟩ := FileTree.entryAt_ok_iff.mp found
  exact absurd link (unitTree_noLink place target)

theorem unitTree_isUnit :
    staleOverlay.IsUnit "_aspect.go" unitTree ["src", "pkg", "a_aspect.go"] where
  file := ⟨_, rfl⟩
  named := ⟨["src", "pkg"], "a_aspect.go", rfl, unitTree_places.2.2.2⟩
  inside := ⟨["src"], ok_of_toOption unitTree_places.2.2.1, by decide⟩

/-- The woven file is written, and the directory is linked as it then stands. -/
theorem unitTree_runs :
    ((runFrom ((staleOverlay.writeAll unitFiles).run {}) unitTree).1.toOption =
        some ((), ⟨[⟨"main.go"⟩]⟩) ∧
      (runFrom ((staleOverlay.writeAll unitFiles).run {}) unitTree).2 = unitMiddle) ∧
      (runFrom (staleOverlay.reconcile ⟨[⟨"main.go"⟩]⟩ "_aspect.go")
        unitMiddle).1.toOption.isSome = true ∧
      ((runFrom (staleOverlay.reconcile ⟨[⟨"main.go"⟩]⟩ "_aspect.go") unitMiddle).2.place true
        (staleOverlay.ofRelative (Path.ofNames ["pkg", "a_aspect.go"]))).toOption =
          some ["src", "pkg", "a_aspect.go"] := by decide +kernel

theorem unitTree_wrote : runFrom ((staleOverlay.writeAll unitFiles).run {}) unitTree =
    (.ok ((), ⟨[⟨"main.go"⟩]⟩), unitMiddle) :=
  runFrom_of_toOption unitTree_runs.1.1 unitTree_runs.1.2

/-- The directory is linked, and the aspect unit is seen through the link. -/
theorem unitTree_reconciled : ∃ report after,
    runFrom (staleOverlay.reconcile ⟨[⟨"main.go"⟩]⟩ "_aspect.go") unitMiddle = (.ok report, after) ∧
      after.place true (staleOverlay.ofRelative (Path.ofNames ["pkg", "a_aspect.go"])) =
        .ok ["src", "pkg", "a_aspect.go"] := by
  obtain ⟨report, found⟩ := Option.isSome_iff_exists.mp unitTree_runs.2.1
  exact ⟨report, _, runFrom_of_toOption found rfl, ok_of_toOption unitTree_runs.2.2⟩

theorem reconcile_links_no_units_pkg : ∃ report after,
    runFrom (staleOverlay.reconcile ⟨[⟨"main.go"⟩]⟩ "_aspect.go") unitMiddle = (.ok report, after) ∧
      ∃ front back, ["pkg", "a_aspect.go"] = front ++ back ∧ back ≠ [] ∧
        staleOverlay.ofRelative (Path.ofNames front) ∈ report.linked ∧
        unitTree.isDirectory (staleOverlay.sourceOf (Path.ofNames front)) = true := by
  obtain ⟨report, after, reconciled, placed⟩ := unitTree_reconciled
  obtain ⟨_, shown⟩ := reconcile_links_no_units unitGround staleOverlay unitFiles "_aspect.go" unitTree
    unitTree_stands (fun names _ => unitTree_vacant names) (by decide +kernel) (by decide +kernel)
    unitTree_linksNoUnits
    (unitTree_apart _) unitTree_wrote reconciled
  obtain ⟨front, back, split, more, linked, directory, _⟩ := shown ["pkg", "a_aspect.go"] (by decide)
    (by decide +kernel) _ placed unitTree_isUnit
  exact ⟨report, after, reconciled, front, back, split, more, linked, directory⟩

/-- A directory that no written path lies below is linked with the aspect units in it. -/
theorem reconcile_links_unit_directory :
    unitGround.Stands staleOverlay.root unitTree ∧
      (∀ names, names ≠ [] → unitTree.entryAt? (unitGround.place ++ names) = none) ∧
      (∀ written, unitGround.Apart staleOverlay written unitTree) ∧
      (∀ file ∈ unitFiles, file.1.isPlain = true ∧ Action.hasSuffix "_aspect.go" file.1 = false) ∧
      staleOverlay.LinksNoUnits "_aspect.go" unitTree ∧
      ∃ written middle after report place,
        runFrom ((staleOverlay.writeAll unitFiles).run {}) unitTree = (.ok ((), written), middle) ∧
        runFrom (staleOverlay.reconcile written "_aspect.go") middle = (.ok report, after) ∧
        after.place true (staleOverlay.ofRelative (Path.ofNames ["pkg", "a_aspect.go"])) = .ok place ∧
        staleOverlay.IsUnit "_aspect.go" unitTree place := by
  obtain ⟨report, after, reconciled, placed⟩ := unitTree_reconciled
  exact ⟨unitTree_stands, fun names _ => unitTree_vacant names, unitTree_apart, by decide +kernel,
    unitTree_linksNoUnits,
    _, _, after, report, _, unitTree_wrote, reconciled, placed, unitTree_isUnit⟩

end Overlay
end AspectLoom
