import AspectLoom.Proofs.DirectoryMoves
import AspectLoom.Proofs.NestedOverlays
/-!
Where the links of an overlay lead. None leads to the overlay's root. Whether one leads to a directory
above it can be told beforehand, from the written paths and from what stands in the overlay.
-/
namespace AspectLoom

open Actions
open FileTree (isEntryName)

/-! Links that come -/

namespace FileTree

variable {tree after : FileTree} {path : Path}

/-- No link comes. -/
def Unlinked (before after : FileTree) : Prop :=
  before.Sound → after.Sound ∧ ∀ place target, after.entryAt? place = some (.link target) →
    before.entryAt? place = some (.link target)

instance : Std.Refl Unlinked := ⟨fun _ sound => ⟨sound, fun _ _ => id⟩⟩

instance : IsTrans FileTree Unlinked where
  trans _ _ _ first second sound :=
    have middle := first sound
    have last := second middle.1
    ⟨last.1, fun place target link => middle.2 place target (last.2 place target link)⟩

theorem makeDirectory_unlinked (made : tree.makeDirectory path = .ok after) : Unlinked tree after := by
  intro sound
  obtain ⟨place, walked, missing, rfl⟩ := makeDirectory_ok sound made
  have fits := walk_fits sound _ _ _ (arePieces_segments path) (startOf_directory sound path) walked
  refine ⟨sound.put fits (by simp [missing]), fun other target link => ?_⟩
  rw [entryAt?_put (ne_nil_of_missing missing)] at link
  split at link
  · cases link
  · exact link

theorem removeFile_unlinked (removed : tree.removeFile path = .ok after) : Unlinked tree after := by
  intro sound
  obtain ⟨place, _, noDirectory, rfl⟩ := removeFile_ok removed
  refine ⟨sound.prune noDirectory, fun other target link => ?_⟩
  rw [entryAt?_prune sound noDirectory] at link
  split at link
  · cases link
  · exact link

end FileTree

open FileTree (Unlinked)

namespace Overlay

variable {overlay : Overlay}

theorem ownDirectories_unlinked (dir : Path) : Moves Unlinked (overlay.ownDirectories dir) :=
  overlay.ownDirectories_moves FileTree.makeDirectory_unlinked
    (fun _ => FileTree.removeFile_unlinked) dir

/-- Every link that has come leads past the overlay: it points neither to the root nor to a directory
above it. -/
def LinksPast (overlay : Overlay) (before after : FileTree) : Prop :=
  ∀ place target, after.entryAt? place = some (.link target) →
    before.entryAt? place = some (.link target) ∨
      (⟨target⟩ : Path).isAbove overlay.root = false

namespace LinksPast

variable {before middle after : FileTree}

theorem refl (overlay : Overlay) (tree : FileTree) : overlay.LinksPast tree tree :=
  fun _ _ => .inl

theorem trans (first : overlay.LinksPast before middle) (second : overlay.LinksPast middle after) :
    overlay.LinksPast before after := by
  intro place target link
  rcases second place target link with kept | past
  · exact first place target kept
  · exact .inr past

theorem of_unlinked (unlinked : Unlinked before after) (sound : before.Sound) :
    overlay.LinksPast before after :=
  fun place target link => .inl ((unlinked sound).2 place target link)

theorem of_owns {ground : Ground} {root : Path} {names : List String}
    (owns : ground.Owns root names before after) : overlay.LinksPast before after := by
  intro place target link
  rcases owns.makes place with same | ⟨made, _⟩
  · exact .inl (same ▸ link)
  · rw [made] at link
    cases link

theorem put_link {place : Place} {text : String} (missing : before.entryAt? place = none)
    (past : (⟨text⟩ : Path).isAbove overlay.root = false) :
    overlay.LinksPast before (before.put place (.link text)) := by
  intro other target link
  rw [FileTree.entryAt?_put (FileTree.ne_nil_of_missing missing)] at link
  split at link
  · cases link
    exact .inr past
  · exact .inl link

end LinksPast
end Overlay

namespace Ground

open Overlay (Handles Log LinksPast)

variable {ground : Ground} {overlay : Overlay} {written : Written} {suffix : String}
  {tree after : FileTree} {below dir names front rest : List String} {name : String}
  {ready : Bool} {log : Log}

/-! Every run -/

/-- Making the overlay's own directories, whether or not it succeeds. -/
theorem ownDirectories_past (stands : ground.Stands overlay.root tree)
    (areNames : Path.AreNames names) :
    Ends (fun _ after => ground.Owns overlay.root names tree after)
      (fun after => overlay.LinksPast tree after)
      (overlay.ownDirectories (overlay.ofRelative (Path.ofNames names))) tree := by
  refine ⟨(ownDirectories_ends stands (components_ofRelative areNames) areNames).of_ok, fun ran => ?_⟩
  have unlinked := overlay.ownDirectories_unlinked (overlay.ofRelative (Path.ofNames names)) tree
  rw [leaves, ran] at unlinked
  exact .of_unlinked unlinked stands.sound

section
variable {state : Overlay.WalkState}
  {descend : Path → ReconcileReport → TreeM OverlayError ReconcileReport}

theorem prepare_past (begins : ground.Begins overlay written dir (name :: names) tree state.ready) :
    Ends (fun _ middle => ground.Keeps overlay.root tree middle ∧ overlay.LinksPast tree middle ∧
        ground.Ready overlay.root middle dir)
      (fun middle => overlay.LinksPast tree middle)
      ((Overlay.prepare ⟨overlay, written, suffix, Path.ofNames dir⟩).run state) tree := by
  rw [Overlay.run_prepare]
  split
  · rename_i already
    exact ends_pure ⟨Keeps.refl _ _ _, .refl _ _, begins.isReady already⟩
  · refine ends_bind ((ownDirectories_past begins.stands begins.walked.areNames).imp ?_ fun _ => id)
    exact fun _ middle owns => ends_pure ⟨owns.keeps, .of_owns owns, owns.ready⟩

variable (descends : ∀ dir report tree, Walked written dir → ground.Ready overlay.root tree dir →
    ground.Nested overlay below tree → ground.Shielded written below tree →
      Ends (fun _ after => ground.Keeps overlay.root tree after ∧ overlay.LinksPast tree after)
        (fun after => overlay.LinksPast tree after) (descend (Path.ofNames dir) report) tree)
include descends

theorem visit_past (nested : ground.Nested overlay below tree)
    (shielded : ground.Shielded written below tree)
    (begins : ground.Begins overlay written dir (name :: names) tree state.ready) :
    Ends (fun visited after => ground.Keeps overlay.root tree after ∧ overlay.LinksPast tree after ∧
        (visited.2.ready = true → ground.Ready overlay.root after dir))
      (fun after => overlay.LinksPast tree after)
      ((Overlay.visit ⟨overlay, written, suffix, Path.ofNames dir⟩ descend name).run state) tree := by
  have areNames := begins.walked.areNames
  have isName := begins.isName
  have all := areNames_concat areNames isName
  have unchanged := LinksPast.refl overlay tree
  rw [Overlay.run_visit]
  refine ends_bind (ends_of_ran (Overlay.runFrom_actionFor _ name tree) ?_ fun _ _ => unchanged)
  intro action choice
  dsimp only
  rw [Path.join_ofNames areNames (Path.isName_of_isEntryName isName)]
  cases action with
  | descend =>
      refine ends_bind ((ownDirectories_past begins.stands all).imp ?_ fun _ => id)
      intro _ middle owns
      have past : overlay.LinksPast tree middle := .of_owns owns
      refine ends_bind ((descends _ _ middle (begins.walked.below isName choice) owns.ready
        (nested.later owns.keeps) (shielded.later owns.keeps)).imp ?_ fun _ => past.trans)
      rintro report after ⟨keeps, more⟩
      have whole := owns.keeps.trans keeps
      exact ends_pure ⟨whole, past.trans more,
        fun already => (begins.isReady already).later whole.spares⟩
  | skip reason => exact ends_pure ⟨Keeps.refl _ _ _, unchanged, begins.isReady⟩
  | link =>
      refine ends_bind ((prepare_past begins).imp ?_ fun _ => id)
      rintro prepared middle ⟨keeps, past, isReady⟩
      rw [Overlay.makeLink]
      refine ends_bind (Overlay.fileStep_ends ((Overlay.apply_ends _ middle).imp ?_
        fun _ same => same ▸ past))
      intro _ after made
      obtain ⟨missing, rfl, spares⟩ := makeLink_spares isReady areNames isName made
      have more := (Ready.above isReady).keeps_put missing spares
      -- the entry was chosen before its directory was prepared, and is linked as it was then
      exact ends_pure ⟨keeps.trans more,
        past.trans (.put_link missing (nested.past_of_link shielded begins choice)),
        fun _ => isReady.later spares⟩

theorem visitAll_past (nested : ground.Nested overlay below tree)
    (shielded : ground.Shielded written below tree)
    (begins : ground.Begins overlay written dir names tree state.ready) :
    Ends (fun _ after => ground.Keeps overlay.root tree after ∧ overlay.LinksPast tree after)
      (fun after => overlay.LinksPast tree after)
      ((Overlay.visitAll ⟨overlay, written, suffix, Path.ofNames dir⟩ descend names).run state)
      tree := by
  induction names generalizing tree state with
  | nil => exact ends_pure ⟨Keeps.refl _ _ _, .refl _ _⟩
  | cons name names ih =>
      rw [Overlay.run_visitAll_cons]
      refine ends_bind ((visit_past descends nested shielded begins).imp ?_ fun _ => id)
      rintro visited middle ⟨keeps, past, isReady⟩
      refine (ih (nested.later keeps) (shielded.later keeps)
        { begins.onward keeps.spares with isReady := isReady }).imp ?_ fun _ => past.trans
      exact fun _ after more => ⟨keeps.trans more.1, past.trans more.2⟩

end

theorem walkDirectory_past (suffix : String) (depth : Nat) (report : ReconcileReport)
    (stands : ground.Stands overlay.root tree) (walked : Walked written dir)
    (isReady : dir ≠ [] → ground.Ready overlay.root tree dir)
    (nested : ground.Nested overlay below tree) (shielded : ground.Shielded written below tree) :
    Ends (fun _ after => ground.Keeps overlay.root tree after ∧ overlay.LinksPast tree after)
      (fun after => overlay.LinksPast tree after)
      (overlay.walkDirectory written suffix depth (Path.ofNames dir) report) tree := by
  induction depth generalizing dir tree report with
  | zero => exact ends_pure ⟨Keeps.refl _ _ _, .refl _ _⟩
  | succ depth ih =>
      rw [Overlay.run_walkDirectory]
      refine ends_bind (Overlay.fileStep_ends (ends_of_ran (TreeM.runFrom_ask _ tree) ?_
        fun _ _ => .refl _ _))
      intro names listed
      refine ends_bind ((visitAll_past (fun dir report tree walked isReady nested shielded =>
        ih report isReady.stands walked (fun _ => isReady) nested shielded) nested shielded
        (.of_list stands walked listed isReady)).imp ?_ fun _ => id)
      exact fun _ _ past => ends_pure past

/-! Links above the root -/

theorem Owns.away {root : Path} {key : List String} (owns : ground.Owns root names tree after)
    (level : ground.Level) (notAbove : ¬ key <+: names) :
    after.entryAt? (ground.place ++ key) = tree.entryAt? (ground.place ++ key) := by
  rcases owns.makes (ground.place ++ key) with same | ⟨_, _, onWay | ⟨front, starts, same⟩⟩
  · exact same
  · have top := level _ onWay (List.prefix_append _ _)
    exact absurd (List.append_right_eq_self.mp top ▸ List.nil_prefix) notAbove
  · exact absurd (List.append_cancel_left same ▸ starts) notAbove

/-- What is neither above a directory nor below the names in it that are handled stays. -/
theorem handles_away (handles : Handles overlay written suffix dir names tree ready after log)
    (begins : ground.Begins overlay written dir names tree ready) (level : ground.Level)
    {key : List String} (notAbove : ¬ key <+: dir)
    (notBelow : ∀ name ∈ names, ¬ dir ++ [name] <+: key) :
    after.entryAt? (ground.place ++ key) = tree.entryAt? (ground.place ++ key) := by
  -- a turn changes what is on the way to its directory and what is below its own name
  induction handles with
  | done => rfl
  | descend choice owned listed inside onward ihInside ihOnward =>
      obtain ⟨apart, others⟩ := List.forall_mem_cons.mp notBelow
      obtain ⟨owns, inner⟩ := begins.inside choice owned listed
      have spares := owns.spares.trans (handles_keeps inside inner).spares
      have notHere : ¬ key <+: _ := fun starts =>
        (List.prefix_concat_iff.mp starts).elim (fun same => apart (same ▸ List.prefix_refl _)) notAbove
      rw [ihOnward (begins.onward spares) notAbove others,
        ihInside inner notHere fun _ _ longer => apart ((List.prefix_append _ _).trans longer),
        owns.away level notHere]
  | skip choice onward ih =>
      exact ih (begins.onward (Spares.refl _ _)) notAbove (List.forall_mem_cons.mp notBelow).2
  | link choice prepared linked onward ih =>
      obtain ⟨apart, others⟩ := List.forall_mem_cons.mp notBelow
      obtain ⟨missing, rfl, _, _, later⟩ := begins.link prepared linked
      rw [ih later notAbove others, FileTree.entryAt?_put (FileTree.ne_nil_of_missing missing), if_neg]
      · rcases (begins.prepares prepared).2 with rfl | owns
        · rfl
        · exact owns.away level notAbove
      · rw [List.append_assoc, List.append_right_inj]
        exact fun same => apart (same ▸ List.prefix_refl _)

/-- A link that is recorded stands in the overlay. -/
theorem handles_stands (handles : Handles overlay written suffix dir names tree ready after log)
    (begins : ground.Begins overlay written dir names tree ready) (level : ground.Level)
    {key : List String} (member : (key, .link) ∈ log) :
    after.entryAt? (ground.place ++ key) =
      some (.link (overlay.sourceOf (Path.ofNames key)).text) := by
  induction handles with
  | done => cases member
  | @descend dir names belowNames name tree made middle after ready inner log choice owned listed
      inside onward ihInside ihOnward =>
      obtain ⟨owns, below⟩ := begins.inside choice owned listed
      have spares := owns.spares.trans (handles_keeps inside below).spares
      have other := (List.nodup_cons.mp begins.distinct).1
      rcases List.mem_cons.mp member with same | member
      · cases same
      rcases List.mem_append.mp member with member | member
      · -- made in the directory of this turn, which the later turns do not enter
        obtain ⟨last, _, longer⟩ := below_of_mem inside member
        have starts := (List.prefix_append (dir ++ [name]) [last]).trans longer
        rw [handles_away onward (begins.onward spares) level, ihInside below member]
        · exact fun above => absurd (starts.trans above).length_le (by simp)
        · exact fun _ among again => other (name_eq_of_starts starts again ▸ among)
      · exact ihOnward (begins.onward spares) member
  | skip choice onward ih =>
      rcases List.mem_cons.mp member with same | member
      · cases same
      · exact ih (begins.onward (Spares.refl _ _)) member
  | @link dir names name tree made middle after ready log choice prepared linked onward ih =>
      obtain ⟨_, _, _, _, later⟩ := begins.link prepared linked
      rcases List.mem_cons.mp member with same | member
      · cases same
        have stands := (begins.link_stands prepared linked).2
        rw [List.append_assoc, source_eq begins.walked.areNames begins.isName] at stands
        rw [handles_away onward later level, stands, Overlay.sourceOf]
        · exact fun above => absurd above.length_le (by simp)
        · intro last among again
          have same := name_eq_of_starts (List.prefix_refl _) again
          exact (List.nodup_cons.mp begins.distinct).1 (same ▸ among)
      · exact ih later member

/-- The turn of another name in a directory leaves what stands at a gap. -/
theorem gap_away {next : String} (gap : written.gapFrom dir (next :: rest) = some front)
    (begins : ground.Begins overlay written dir (name :: names) tree ready) (level : ground.Level)
    (among : next ∈ names) (turn : Handles overlay written suffix dir [name] tree ready after log) :
    after.entryAt? (ground.place ++ front) = tree.entryAt? (ground.place ++ front) := by
  obtain ⟨starts, _⟩ := Written.gapFrom_starts gap
  have alone : ground.Begins overlay written dir [name] tree ready :=
    { begins with
      entries := List.forall_mem_singleton.mpr begins.isName
      distinct := List.nodup_singleton _ }
  refine handles_away turn alone level ?_ (List.forall_mem_singleton.mpr fun again => ?_)
  · exact fun above => absurd (starts.trans above).length_le (by simp)
  · exact (List.nodup_cons.mp begins.distinct).1 (name_eq_of_starts starts again ▸ among)

/-- A gap that nothing hides is linked. Its directory is walked in the end, since all above it are. -/
theorem linked_of_gap (handles : Handles overlay written suffix dir names tree ready after log)
    (begins : ground.Begins overlay written dir names tree ready) (level : ground.Level)
    (nested : ground.Nested overlay below tree) (split : below = dir ++ name :: rest)
    (among : name ∈ names) (gap : written.gapFrom dir (name :: rest) = some front)
    (notWritten : ¬ written.contains (Path.ofNames front) = true)
    (vacant : tree.entryAt? (ground.place ++ front) = none) : (front, .link) ∈ log := by
  induction handles generalizing name rest with
  | done => cases among
  | @descend dir names belowNames other tree made middle after ready inner log choice owned listed
      inside onward ihInside ihOnward =>
      obtain ⟨owns, beginsInside⟩ := begins.inside choice owned listed
      have keeps := owns.keeps.trans (handles_keeps inside beginsInside)
      refine List.mem_cons_of_mem _ (List.mem_append.mpr ?_)
      rcases List.mem_cons.mp among with rfl | among
      · rcases nested.at_gap begins split gap notWritten vacant choice with
          ⟨_, next, others, rfl, deeper⟩ | ⟨other, _⟩
        · obtain ⟨starts, _⟩ := Written.gapFrom_starts deeper
          have nestedInside := nested.later owns.keeps
          have areNames : Path.AreNames (dir ++ [name] ++ [next]) :=
            fun other member => nested.areNames other (by rw [split]; simp at member ⊢; tauto)
          have longer : dir ++ [name] ++ [next] ≠ below := by
            rintro rfl
            have none : others = [] := by simpa using split
            subst none
            cases deeper
          have listedBelow : next ∈ belowNames :=
            mem_list_of_hasEntry beginsInside.stands.sound beginsInside.walked.areNames
              (hasEntry_of_target beginsInside.stands.sound areNames
                (nestedInside.above _ ⟨others, by simp [split]⟩ (by simp) longer)) listed
          refine .inl (ihInside beginsInside nestedInside (by simp [split]) listedBelow deeper ?_)
          rw [owns.away level fun above => absurd (starts.trans above).length_le (by simp), vacant]
        · cases other
      · -- the turn of another name leaves the gap vacant
        refine .inr (ihOnward (begins.onward keeps.spares) (nested.later keeps) split among gap ?_)
        rw [gap_away gap begins level among (.descend choice owned listed inside .done), vacant]
  | skip choice onward ih =>
      refine List.mem_cons_of_mem _ ?_
      rcases List.mem_cons.mp among with rfl | among
      · rcases nested.at_gap begins split gap notWritten vacant choice with ⟨other, _⟩ | ⟨other, _⟩
        · cases other
        · cases other
      · exact ih (begins.onward (Spares.refl _ _)) nested split among gap vacant
  | link choice prepared linked onward ih =>
      obtain ⟨_, _, keeps, _, later⟩ := begins.link prepared linked
      rcases List.mem_cons.mp among with rfl | among
      · rcases nested.at_gap begins split gap notWritten vacant choice with ⟨other, _⟩ | ⟨_, rfl⟩
        · cases other
        · exact List.mem_cons_self
      · refine List.mem_cons_of_mem _ (ih later (nested.later keeps) split among gap ?_)
        rw [gap_away gap begins level among (.link choice prepared linked .done), vacant]

/-- Where a reconciliation succeeds and every link leads past the overlay, nothing but a shield has kept
it from a link to the gap. -/
theorem shielded_of_past {report : ReconcileReport} (stands : ground.Stands overlay.root tree)
    (level : ground.Level) (nested : ground.Nested overlay below tree)
    (ran : runFrom (overlay.reconcile written suffix) tree = (.ok report, after))
    (past : overlay.LinksPast tree after) : ground.Shielded written below tree := by
  obtain ⟨names, log, listed, handles, rfl⟩ := reconcile_handles stands ran
  have begins : ground.Begins overlay written [] names tree false := .top stands listed
  intro front gap
  -- a gap that nothing hides is linked, and the link stands in the end and leads above the root
  by_contra hidden
  rw [not_or, not_not] at hidden
  obtain ⟨name, rest, rfl⟩ : ∃ name rest, below = name :: rest := by
    cases below with
    | nil => cases gap
    | cons name rest => exact ⟨name, rest, rfl⟩
  have among : name ∈ names := by
    have short : [name] ≠ name :: rest := by
      rintro same
      cases same
      cases gap
    have areNames : Path.AreNames ([] ++ [name]) :=
      fun other member => nested.areNames other (List.mem_cons.mpr (.inl (by simpa using member)))
    have found := hasEntry_of_target stands.sound areNames
      (nested.above [name] ⟨rest, rfl⟩ (List.cons_ne_nil _ _) short)
    exact mem_list_of_hasEntry stands.sound (List.forall_mem_nil _) found listed
  have linked := linked_of_gap handles begins level nested rfl among gap hidden.1 hidden.2
  rcases past _ _ (handles_stands handles begins level linked) with kept | away
  · rw [hidden.2] at kept
    cases kept
  · obtain ⟨_, more, _, whole⟩ := Written.gapFrom_starts gap
    rw [List.nil_append] at whole
    have frontNames : Path.AreNames front :=
      fun other member => nested.areNames other (whole ▸ List.mem_append_left _ member)
    refine Bool.false_ne_true (away.symm.trans ?_)
    exact (nested.isAbove_iff frontNames).mpr ⟨more, whole.symm⟩

end Ground

namespace Overlay

/-- In a source that holds the overlay every link leads past the overlay exactly when the overlay is
shielded, and then also where the reconciliation fails. -/
theorem reconcile_past_iff (ground : Ground) (overlay : Overlay) (written : Written) (suffix : String)
    (tree : FileTree) (below : List String) (stands : ground.Stands overlay.root tree)
    (level : ground.Level) (nested : ground.Nested overlay below tree) :
    (ground.Shielded written below tree →
        overlay.LinksPast tree (leaves (overlay.reconcile written suffix) tree)) ∧
      ∀ report after, runFrom (overlay.reconcile written suffix) tree = (.ok report, after) →
        (overlay.LinksPast tree after ↔ ground.Shielded written below tree) := by
  have always : ground.Shielded written below tree →
      overlay.LinksPast tree (leaves (overlay.reconcile written suffix) tree) := by
    intro shielded
    have walked : Ground.Walked written [] := ⟨List.forall_mem_nil _, .inl rfl⟩
    have ends := Ground.walkDirectory_past suffix (written.depth + 1) {} stands walked (by simp) nested
      shielded
    exact ends.leaves (fun _ _ => And.right) fun _ => id
  refine ⟨always, fun report after ran => ⟨Ground.shielded_of_past stands level nested ran, ?_⟩⟩
  intro shielded
  have past := always shielded
  rwa [leaves, ran] at past

/-- An overlay two directories below its source root. -/
def buildOverlay : Overlay := ⟨⟨"/src"⟩, ⟨"/src/build/out"⟩⟩

/-- The source once a file was written into the overlay. -/
def buildTree : FileTree where
  entries := [
    (["src"], .directory),
    (["src", "build"], .directory),
    (["src", "build", "gen.go"], .file "package build\n".toUTF8),
    (["src", "build", "out"], .directory),
    (["src", "build", "out", "main.go"], .file "package woven\n".toUTF8),
    (["src", "go.mod"], .file "module m\n".toUTF8),
    (["src", "main.go"], .file "package main\n".toUTF8)]

theorem buildTree_sound : buildTree.Sound where
  distinct := by decide
  named := by decide
  closed := by
    simp only [buildTree, List.forall_mem_cons]
    exact ⟨rfl, rfl, rfl, rfl, rfl, rfl, rfl, List.forall_mem_nil _⟩
  workDir := rfl

theorem buildTree_stands :
    (Ground.ofRoot buildTree buildOverlay.root).Stands buildOverlay.root buildTree :=
  Ground.ofRoot_stands buildTree_sound fun place _ =>
    FileTree.noLink_of_entries (by simp [buildTree]) place

theorem buildTree_level : (Ground.ofRoot buildTree buildOverlay.root).Level := by
  rw [Ground.Level]
  decide +kernel

theorem buildTree_nested :
    (Ground.ofRoot buildTree buildOverlay.root).Nested buildOverlay ["build", "out"] buildTree where
  areNames := Ground.areNames_of_entries (by decide +kernel)
  inside := by decide +kernel
  above := by
    intro front starts filled different
    have among : front = [] ∨ front = ["build"] ∨ front = ["build", "out"] := by
      simpa using (List.mem_inits _ _).mpr starts
    rcases among with rfl | rfl | rfl
    · exact absurd rfl filled
    · exact ok_of_toOption (by decide +kernel)
    · exact absurd rfl different
  settled := .inl (Ground.ready_of_isDirectory buildTree_stands (by decide +kernel))

/-- A file is written in the directory above the root. -/
theorem reconcile_past_iff_build : buildOverlay.LinksPast buildTree
    (leaves (buildOverlay.reconcile ⟨[⟨"build/gen.go"⟩]⟩ "_aspect.go") buildTree) := by
  refine (reconcile_past_iff _ buildOverlay ⟨[⟨"build/gen.go"⟩]⟩ "_aspect.go" buildTree ["build", "out"]
    buildTree_stands buildTree_level buildTree_nested).1 fun front gap => ?_
  have noGap : Written.gapFrom ⟨[⟨"build/gen.go"⟩]⟩ [] ["build", "out"] = none := by decide +kernel
  rw [noGap] at gap
  cases gap

/-- A file is written beside the directory above the root, which is linked. The overlay holds itself. -/
theorem reconcile_links_above :
    (Ground.ofRoot buildTree buildOverlay.root).Nested buildOverlay ["build", "out"] buildTree ∧
      ∃ report after,
        runFrom (buildOverlay.reconcile ⟨[⟨"main.go"⟩]⟩ "_aspect.go") buildTree = (.ok report, after) ∧
          buildOverlay.ofRelative ⟨"build"⟩ ∈ report.linked ∧
            ¬ buildOverlay.LinksPast buildTree after ∧
            after.readBytes (buildOverlay.ofRelative ⟨"build/out/main.go"⟩) =
              .ok "package woven\n".toUTF8 := by
  have ran : (runFrom (buildOverlay.reconcile ⟨[⟨"main.go"⟩]⟩ "_aspect.go")
      buildTree).1.toOption.map ReconcileReport.linked =
        some [⟨"/src/build/out/build"⟩, ⟨"/src/build/out/go.mod"⟩] := by decide +kernel
  obtain ⟨report, same, linked⟩ := runFrom_of_view ran
  have link : (leaves (buildOverlay.reconcile ⟨[⟨"main.go"⟩]⟩ "_aspect.go") buildTree).entryAt?
      ["src", "build", "out", "build"] = some (.link "/src/build") := by decide +kernel
  refine ⟨buildTree_nested, report, _, same, ?_, fun past => ?_, ok_of_toOption (by decide +kernel)⟩
  · rw [linked]
    exact List.mem_cons.mpr (.inl (by decide +kernel))
  · have away := (past _ _ link).resolve_left (by decide +kernel)
    exact absurd away (by decide +kernel)

end Overlay
end AspectLoom
