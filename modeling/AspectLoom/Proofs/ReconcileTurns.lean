import AspectLoom.Proofs.WrittenFiles
/-!
The turns of a reconciliation. Each entry of a directory that is walked has its turn once. Below the
overlay's root nothing comes but the links that are recorded and what written paths cover.
-/
namespace AspectLoom

open Actions
open FileTree (isEntryName)

namespace Ground

open Overlay (Handles Log)

variable {ground : Ground} {overlay : Overlay} {written : Written} {suffix : String}
  {tree before made middle here next after : FileTree} {dir names : List String} {name : String}
  {ready : Bool} {action : AspectLoom.Action} {log first second : Log}

/-! The entries of a log -/

/-- The entries that are recorded lie below the names that were to be handled. -/
theorem below_of_mem (handles : Handles overlay written suffix dir names tree ready after log)
    {entry : List String × AspectLoom.Action} (member : entry ∈ log) :
    ∃ name ∈ names, dir ++ [name] <+: entry.1 := by
  induction handles with
  | done => cases member
  | descend choice owned listed inside onward ihInside ihOnward =>
      rcases List.mem_cons.mp member with rfl | member
      · exact ⟨_, List.mem_cons_self, List.prefix_refl _⟩
      rcases List.mem_append.mp member with member | member
      · obtain ⟨_, _, starts⟩ := ihInside member
        exact ⟨_, List.mem_cons_self, (List.prefix_append _ _).trans starts⟩
      · obtain ⟨other, among, starts⟩ := ihOnward member
        exact ⟨other, List.mem_cons_of_mem _ among, starts⟩
  | skip choice onward ih =>
      rcases List.mem_cons.mp member with rfl | member
      · exact ⟨_, List.mem_cons_self, List.prefix_refl _⟩
      · obtain ⟨other, among, starts⟩ := ih member
        exact ⟨other, List.mem_cons_of_mem _ among, starts⟩
  | link choice prepared linked onward ih =>
      rcases List.mem_cons.mp member with rfl | member
      · exact ⟨_, List.mem_cons_self, List.prefix_refl _⟩
      · obtain ⟨other, among, starts⟩ := ih member
        exact ⟨other, List.mem_cons_of_mem _ among, starts⟩

/-- Every name is recorded. -/
theorem recorded_of_mem (handles : Handles overlay written suffix dir names tree ready after log)
    (member : name ∈ names) : ∃ action, (dir ++ [name], action) ∈ log := by
  induction handles with
  | done => cases member
  | descend choice owned listed inside onward ihInside ihOnward =>
      rcases List.mem_cons.mp member with rfl | member
      · exact ⟨_, List.mem_cons_self⟩
      · obtain ⟨action, among⟩ := ihOnward member
        exact ⟨action, List.mem_cons_of_mem _ (List.mem_append_right _ among)⟩
  | skip choice onward ih =>
      rcases List.mem_cons.mp member with rfl | member
      · exact ⟨_, List.mem_cons_self⟩
      · obtain ⟨action, among⟩ := ih member
        exact ⟨action, List.mem_cons_of_mem _ among⟩
  | link choice prepared linked onward ih =>
      rcases List.mem_cons.mp member with rfl | member
      · exact ⟨_, List.mem_cons_self⟩
      · obtain ⟨action, among⟩ := ih member
        exact ⟨action, List.mem_cons_of_mem _ among⟩

/-- What lies below a directory lies below one name in it. -/
theorem name_eq_of_starts {α : Type} {dir key : List α} {first second : α}
    (left : dir ++ [first] <+: key) (right : dir ++ [second] <+: key) : first = second := by
  have same := (List.prefix_of_prefix_length_le left right (by simp)).eq_of_length (by simp)
  simpa using same

/-- What is recorded for other names does not lie below a name. -/
theorem not_below (handles : Handles overlay written suffix dir names tree ready after log)
    (other : name ∉ names) {key : List String} (recorded : key ∈ log.map Prod.fst) :
    ¬ dir ++ [name] <+: key := by
  intro starts
  obtain ⟨entry, member, rfl⟩ := List.mem_map.mp recorded
  obtain ⟨found, among, below⟩ := below_of_mem handles member
  exact other (name_eq_of_starts starts below ▸ among)

/-- No entry is recorded twice. -/
theorem nodup_log (handles : Handles overlay written suffix dir names tree ready after log)
    (begins : ground.Begins overlay written dir names tree ready) : (log.map Prod.fst).Nodup := by
  induction handles with
  | done => exact List.nodup_nil
  | descend choice owned listed inside onward ihInside ihOnward =>
      obtain ⟨owns, below⟩ := begins.inside choice owned listed
      have spares := owns.spares.trans (handles_keeps inside below).spares
      have other := (List.nodup_cons.mp begins.distinct).1
      rw [List.map_cons, List.map_append]
      refine List.nodup_cons.mpr ⟨fun member => ?_, (ihInside below).append
        (ihOnward (begins.onward spares)) fun key first second => ?_⟩
      · rcases List.mem_append.mp member with inner | later
        · obtain ⟨entry, among, same⟩ := List.mem_map.mp inner
          obtain ⟨_, _, longer⟩ := below_of_mem inside among
          rw [same] at longer
          exact absurd longer.length_le (by simp)
        · exact not_below onward other later (List.prefix_refl _)
      · obtain ⟨entry, among, rfl⟩ := List.mem_map.mp first
        obtain ⟨_, _, longer⟩ := below_of_mem inside among
        exact not_below onward other second ((List.prefix_append _ _).trans longer)
  | skip choice onward ih =>
      have other := (List.nodup_cons.mp begins.distinct).1
      exact List.nodup_cons.mpr ⟨fun member => not_below onward other member (List.prefix_refl _),
        ih (begins.onward (Spares.refl _ _))⟩
  | link choice prepared linked onward ih =>
      have other := (List.nodup_cons.mp begins.distinct).1
      obtain ⟨_, _, _, _, later⟩ := begins.link prepared linked
      exact List.nodup_cons.mpr ⟨fun member => not_below onward other member (List.prefix_refl _),
        ih later⟩

/-! What comes below the root -/

/-- Below the root only recorded links have come, or what written paths cover. -/
def Adds (ground : Ground) (written : Written) (log : Log) (before after : FileTree) : Prop :=
  ∀ names, names ≠ [] →
    after.entryAt? (ground.place ++ names) = before.entryAt? (ground.place ++ names) ∨
      written.Covers names ∨ (names, .link) ∈ log

theorem Adds.refl (ground : Ground) (written : Written) (log : Log) (tree : FileTree) :
    ground.Adds written log tree tree := fun _ _ => .inl rfl

theorem Adds.trans (left : ground.Adds written first before middle)
    (right : ground.Adds written second middle after) :
    ground.Adds written (first ++ second) before after := by
  intro names filled
  rcases right names filled with same | covered | member
  · rw [same]
    exact (left names filled).imp_right (Or.imp_right (List.mem_append_left _))
  · exact .inr (.inl covered)
  · exact .inr (.inr (List.mem_append_right _ member))

theorem Adds.cons (adds : ground.Adds written log before after)
    (entry : List String × AspectLoom.Action) : ground.Adds written (entry :: log) before after :=
  fun names filled => (adds names filled).imp_right (Or.imp_right (List.mem_cons_of_mem _))

/-- Directories that are walked are covered. -/
theorem Walked.covers {front : List String} (walked : Walked written dir) (plain : written.ArePlain)
    (starts : front <+: dir) (filled : front ≠ []) : written.Covers front := by
  rcases walked.2 with rfl | reached
  · exact absurd (List.prefix_nil.mp starts) filled
  · obtain ⟨path, member, longer, _⟩ := (Written.reaches_ofNames_iff plain walked.areNames).mp reached
    exact ⟨path, member, starts.trans longer⟩

theorem Owns.adds {root : Path} (owns : ground.Owns root dir before after) (level : ground.Level)
    (walked : Walked written dir) (plain : written.ArePlain) (log : Log) :
    ground.Adds written log before after := by
  intro names filled
  rcases owns.makes (ground.place ++ names) with same | ⟨_, _, onWay | ⟨front, starts, same⟩⟩
  · exact .inl same
  · exact absurd (List.self_eq_append_right.mp (level _ onWay (List.prefix_append _ _)).symm) filled
  · cases List.append_cancel_left same
    exact .inr (.inl (walked.covers plain starts filled))

/-- A link comes in a directory that is made ready. -/
theorem Begins.link_adds {target : String}
    (begins : ground.Begins overlay written dir (name :: names) tree ready) (level : ground.Level)
    (plain : written.ArePlain) (prepared : overlay.Prepares dir ready tree made)
    (linked : made.makeLink target (overlay.ofRelative (Path.ofNames (dir ++ [name]))) = .ok after) :
    ground.Adds written [(dir ++ [name], .link)] tree after := by
  obtain ⟨missing, rfl, _⟩ := begins.link prepared linked
  intro other filled
  rw [FileTree.entryAt?_put (FileTree.ne_nil_of_missing missing)]
  split
  · rename_i same
    rw [List.append_assoc] at same
    cases List.append_cancel_left same
    exact .inr (.inr List.mem_cons_self)
  · rcases (begins.prepares prepared).2 with rfl | owns
    · exact .inl rfl
    · exact owns.adds level begins.walked plain _ other filled

theorem handles_adds (handles : Handles overlay written suffix dir names tree ready after log)
    (begins : ground.Begins overlay written dir names tree ready) (level : ground.Level)
    (plain : written.ArePlain) : ground.Adds written log tree after := by
  induction handles with
  | done => exact Adds.refl _ _ _ _
  | descend choice owned listed inside onward ihInside ihOnward =>
      obtain ⟨owns, below⟩ := begins.inside choice owned listed
      have spares := owns.spares.trans (handles_keeps inside below).spares
      have made := owns.adds level below.walked plain []
      exact (made.trans ((ihInside below).trans (ihOnward (begins.onward spares)))).cons _
  | skip choice onward ih => exact (ih (begins.onward (Spares.refl _ _))).cons _
  | link choice prepared linked onward ih =>
      obtain ⟨_, _, _, _, later⟩ := begins.link prepared linked
      exact (begins.link_adds level plain prepared linked).trans (ih later)

/-! Turns -/

/-- The turn of an entry: from the tree that it is chosen in to what is then there. -/
structure Turn (ground : Ground) (overlay : Overlay) (written : Written) (suffix : String)
    (dir : List String) (name : String) (action : AspectLoom.Action) (log : Log)
    (here next : FileTree) : Prop where
  stands : ground.Stands overlay.root here
  walked : Walked written dir
  isName : isEntryName name = true
  ready : dir ≠ [] → ground.Ready overlay.root here dir
  choice : Overlay.chosen ⟨overlay, written, suffix, Path.ofNames dir⟩ here name = .ok action
  keeps : ground.Keeps overlay.root here next
  link : action = .link → here.entryAt? (ground.place ++ (dir ++ [name])) = none ∧
    ground.Ready overlay.root next dir ∧ next.entryAt? (ground.place ++ (dir ++ [name])) =
      some (.link (Overlay.Walk.source ⟨overlay, written, suffix, Path.ofNames dir⟩ name).text)
  descend : action = .descend → ∃ below,
    next.list (overlay.sourceOf (Path.ofNames (dir ++ [name]))) = .ok below ∧
      ∀ other ∈ below, ∃ action, (dir ++ [name] ++ [other], action) ∈ log

/-- What was done before an entry's turn and after it. -/
structure Around (ground : Ground) (root : Path) (written : Written) (earlier later : Log)
    (tree here next after : FileTree) : Prop where
  before : ground.Keeps root tree here
  added : ground.Adds written earlier tree here
  onward : ground.Keeps root next after
  addedOnward : ground.Adds written later next after

theorem Turn.mono {more : Log} (turn : ground.Turn overlay written suffix dir name action log here next)
    (within : log ⊆ more) : ground.Turn overlay written suffix dir name action more here next :=
  { turn with
    descend := fun same => (turn.descend same).imp fun _ found =>
      ⟨found.1, fun other member => (found.2 other member).imp fun _ among => within among⟩ }

/-- Among what is recorded from a tree to another one, an entry has its turn. -/
def HasTurn (ground : Ground) (overlay : Overlay) (written : Written) (suffix : String)
    (key : List String) (action : AspectLoom.Action) (log : Log) (tree after : FileTree) : Prop :=
  ∃ front name earlier later here next, key = front ++ [name] ∧
    log = earlier ++ (key, action) :: later ∧
      ground.Turn overlay written suffix front name action log here next ∧
        ground.Around overlay.root written earlier later tree here next after

section
variable {key : List String}

theorem HasTurn.behind (turn : ground.HasTurn overlay written suffix key action log middle after)
    (keeps : ground.Keeps overlay.root tree middle) (adds : ground.Adds written first tree middle) :
    ground.HasTurn overlay written suffix key action (first ++ log) tree after := by
  obtain ⟨front, last, earlier, later, here, next, rfl, rfl, turn, around⟩ := turn
  exact ⟨front, last, first ++ earlier, later, here, next, rfl, (List.append_assoc ..).symm,
    turn.mono (List.subset_append_right _ _), keeps.trans around.before, adds.trans around.added,
    around.onward, around.addedOnward⟩

theorem HasTurn.followed (turn : ground.HasTurn overlay written suffix key action log tree middle)
    (keeps : ground.Keeps overlay.root middle after)
    (adds : ground.Adds written second middle after) :
    ground.HasTurn overlay written suffix key action (log ++ second) tree after := by
  obtain ⟨front, last, earlier, later, here, next, rfl, rfl, turn, around⟩ := turn
  exact ⟨front, last, earlier, later ++ second, here, next, rfl, by simp,
    turn.mono (List.subset_append_left _ _), around.before, around.added,
    around.onward.trans keeps, around.addedOnward.trans adds⟩

theorem Turn.hasTurn
    (turn : ground.Turn overlay written suffix dir name action
      ((dir ++ [name], action) :: log) here next)
    (keeps : ground.Keeps overlay.root next after) (adds : ground.Adds written log next after) :
    ground.HasTurn overlay written suffix (dir ++ [name]) action ((dir ++ [name], action) :: log)
      here after :=
  ⟨dir, name, [], log, here, next, rfl, rfl, turn, Keeps.refl _ _ _, Adds.refl _ _ _ _, keeps, adds⟩

/-- Every recorded entry has its turn. The induction is over the trace: the entry is the first one,
or it has its turn in what comes before the rest of the trace or behind its beginning. -/
theorem turn_of_mem (handles : Handles overlay written suffix dir names tree ready after log)
    (begins : ground.Begins overlay written dir names tree ready) (level : ground.Level)
    (plain : written.ArePlain) (member : (key, action) ∈ log) :
    ground.HasTurn overlay written suffix key action log tree after := by
  induction handles with
  | done => cases member
  | @descend dir names belowNames name tree made middle after ready inner log choice owned listed
      inside onward ihInside ihOnward =>
      obtain ⟨owns, below⟩ := begins.inside choice owned listed
      have keepsInner := handles_keeps inside below
      have addsInner := handles_adds inside below level plain
      have made := (owns.adds level below.walked plain []).cons (dir ++ [name], .descend)
      have onwards := begins.onward (owns.spares.trans keepsInner.spares)
      have keepsOnward := handles_keeps onward onwards
      have addsOnward := handles_adds onward onwards level plain
      rcases List.mem_cons.mp member with same | member
      · cases same
        refine Turn.hasTurn ?_ (keepsInner.trans keepsOnward) (addsInner.trans addsOnward)
        exact { begins with
          isName := begins.isName, ready := begins.below, choice := choice, keeps := owns.keeps
          link := by simp
          descend := fun _ => ⟨_, listed, fun other member =>
            (recorded_of_mem inside member).imp fun _ among =>
              List.mem_cons_of_mem _ (List.mem_append_left _ among)⟩ }
      rcases List.mem_append.mp member with member | member
      · exact ((ihInside below member).followed keepsOnward addsOnward).behind owns.keeps made
      · exact ((ihOnward onwards member).behind keepsInner addsInner).behind owns.keeps made
  | @skip dir names name tree after ready reason log choice onward ih =>
      have onwards := begins.onward (Spares.refl _ _)
      rcases List.mem_cons.mp member with same | member
      · cases same
        refine Turn.hasTurn ?_ (handles_keeps onward onwards) (handles_adds onward onwards level plain)
        exact { begins with
          isName := begins.isName, ready := begins.below, choice := choice, keeps := Keeps.refl _ _ _
          link := by simp
          descend := by simp }
      · exact (ih onwards member).behind (Keeps.refl _ _ _)
          (Adds.refl _ _ [(dir ++ [name], .skip reason)] _)
  | @link dir names name tree made middle after ready log choice prepared linked onward ih =>
      obtain ⟨_, _, keeps, isReady, onwards⟩ := begins.link prepared linked
      have stands := begins.link_stands prepared linked
      rw [List.append_assoc] at stands
      rcases List.mem_cons.mp member with equal | member
      · cases equal
        refine Turn.hasTurn ?_ (handles_keeps onward onwards) (handles_adds onward onwards level plain)
        exact { begins with
          isName := begins.isName, ready := begins.below, choice := choice, keeps := keeps
          link := fun _ => ⟨stands.1, isReady, stands.2⟩
          descend := by simp }
      · exact (ih onwards member).behind keeps (begins.link_adds level plain prepared linked)

end

end Ground
end AspectLoom
