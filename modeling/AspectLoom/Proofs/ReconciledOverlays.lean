import AspectLoom.Proofs.ReconcileAgain
import AspectLoom.Proofs.ReconcileTurns
import AspectLoom.Proofs.SourcePaths
/-!
Overlays that are reconciled with their source after files were written. The files are as they were
written, no link hides one, and every other path of the source leads over the overlay to what it names.
-/
namespace AspectLoom

open Actions
open FileTree (isEntryName maxLinks steps)

namespace Path

variable {base : Path} {left right : List String}

theorem ofNames_beq (first : AreNames left) (second : AreNames right) :
    (ofNames left == ofNames right) = (left == right) := by
  rw [Bool.eq_iff_iff, beq_iff, components_ofNames first, components_ofNames second, beq_iff_eq]
  exact ⟨fun same => List.map_injective_iff.mpr (fun _ _ => Component.name.inj) same, congrArg _⟩

example : (ofNames ["pkg", "main.go"] == ofNames ["pkg", "main"]) = false := by decide +kernel

theorem ofNames_inj (first : AreNames left) (second : AreNames right)
    (same : ofNames left = ofNames right) : left = right := by
  have equal := ofNames_beq first second
  rw [same, ofNames_beq second second] at equal
  simpa using equal.symm

theorem join_ofNames_beq (first : AreNames left) (second : AreNames right) :
    (base.join (ofNames left) == base.join (ofNames right)) = (left == right) := by
  rw [← ofNames_beq first second, Bool.eq_iff_iff, beq_iff, beq_iff,
    components_join (isAbsolute_ofNames first) (head?_segments_ofNames first),
    components_join (isAbsolute_ofNames second) (head?_segments_ofNames second)]
  exact List.append_right_inj _

end Path

/-! Entries in a report -/

namespace Overlay

/-- A report has an entry as often as its log. -/
theorem count_log (overlay : Overlay) {log : Log} {key : List String}
    (areNames : ∀ entry ∈ log, Path.AreNames entry.1) (keyNames : Path.AreNames key) :
    ((pathsOf log .link).map overlay.ofRelative).count (overlay.ofRelative (Path.ofNames key)) +
        (pathsOf log .descend).count (Path.ofNames key) +
      ((skipsOf log).map Prod.fst).count (Path.ofNames key) = (log.map Prod.fst).count key := by
  induction log with
  | nil => rfl
  | cons entry log ih =>
      obtain ⟨first, others⟩ := List.forall_mem_cons.mp areNames
      obtain ⟨names, action⟩ := entry
      have plain := Path.ofNames_beq first keyNames
      have joined : (overlay.ofRelative (Path.ofNames names) == overlay.ofRelative (Path.ofNames key)) =
          (names == key) := Path.join_ofNames_beq first keyNames
      rw [List.map_cons, List.count_cons, ← ih others]
      cases action <;> simp only [pathsOf, skipsOf, List.filter_cons, List.filterMap_cons] <;>
        simp [List.count_cons, plain, joined] <;> omega

end Overlay

/-- Paths to be written that suit a source: none is a directory there, and what is there above one is. -/
structure Overlay.Suits (overlay : Overlay) (tree : FileTree) (paths : List Path) : Prop where
  noDirectory : ∀ path ∈ paths,
    tree.isDirectory (overlay.sourceOf (Path.ofNames path.names)) = false
  above : ∀ path ∈ paths, ∀ front, front <+: path.names → front ≠ path.names → ∀ entry,
    tree.entryOf (overlay.sourceOf (Path.ofNames front)) = .ok entry →
      tree.isDirectory (overlay.sourceOf (Path.ofNames front)) = true

theorem Overlay.Suits.mono {overlay : Overlay} {tree : FileTree} {paths fewer : List Path}
    (suits : overlay.Suits tree paths) (within : fewer ⊆ paths) : overlay.Suits tree fewer :=
  ⟨fun path member => suits.noDirectory path (within member),
    fun path member => suits.above path (within member)⟩

namespace Ground

open Overlay (Handles Log)

section
variable {ground : Ground} {overlay : Overlay} {written : Written} {suffix : String}
  {tree middle after here next : FileTree} {files : List (Path × String)}
  {names front rest : List String} {name : String} {action : AspectLoom.Action} {log : Log}
  {entry : Entry}
  (level : ground.Level) (sound : tree.Sound)
  (filled : ground.Filled overlay tree files written middle)
  (begins : ground.Begins overlay written [] names middle false)
  (handles : Handles overlay written suffix [] names middle false after log)

include level filled begins handles in
/-- The turn of an entry that is recorded. -/
theorem turn_of_concat (member : (front ++ [name], action) ∈ log) :
    ∃ earlier later here next, log = earlier ++ (front ++ [name], action) :: later ∧
      ground.Turn overlay written suffix front name action log here next ∧
        ground.Around overlay.root written earlier later middle here next after := by
  obtain ⟨other, last, earlier, later, here, next, same, split, turn, around⟩ :=
    turn_of_mem handles begins level filled.plain member
  obtain ⟨rfl, equal⟩ := List.append_inj' same rfl
  cases equal
  exact ⟨earlier, later, here, next, split, turn, around⟩

include level filled begins handles in
theorem areNames_of_mem {recorded : List String × AspectLoom.Action} (member : recorded ∈ log) :
    Path.AreNames recorded.1 := by
  obtain ⟨key, action⟩ := recorded
  obtain ⟨front, name, _, _, _, _, rfl, _, turn, _⟩ :=
    turn_of_mem handles begins level filled.plain member
  exact areNames_concat turn.walked.areNames turn.isName

include level filled begins handles in
/-- A link that is made hides no written file, and it stays. -/
theorem link_stays (sound : tree.Sound) (member : (front ++ [name], .link) ∈ log) :
    ¬ written.Covers (front ++ [name]) ∧ ground.Ready overlay.root after front ∧
      after.entryAt? (ground.place ++ (front ++ [name])) = some (.link
        (Overlay.Walk.source ⟨overlay, written, suffix, Path.ofNames front⟩ name).text) := by
  obtain ⟨earlier, later, here, next, split, turn, around⟩ :=
    turn_of_concat level filled begins handles member
  obtain ⟨missing, ready, stands⟩ := turn.link rfl
  have free : ¬ written.Covers (front ++ [name]) := by
    intro covered
    have present := around.before.present _ (filled.toHolds.present sound covered)
    rw [missing] at present
    cases present
  refine ⟨free, ready.later around.onward.spares, ?_⟩
  rcases around.addedOnward (front ++ [name]) (by simp) with same | covered | again
  · rw [same, stands]
  · exact absurd covered free
  · have distinct := nodup_log handles begins
    rw [split, List.map_append, List.map_cons] at distinct
    have once := (List.nodup_cons.mp (List.nodup_append.mp distinct).2.1).1
    exact absurd (List.mem_map.mpr ⟨_, again, rfl⟩) once

include level filled begins handles in
/-- No link is at a written path or above one. -/
theorem link_isAbove (sound : tree.Sound) (member : (front ++ [name], .link) ∈ log) {path : Path}
    (among : path ∈ written.paths) :
    (overlay.ofRelative (Path.ofNames (front ++ [name]))).isAbove (overlay.ofRelative path) =
      false := by
  have free := (link_stays level filled begins handles sound member).1
  rw [← Bool.not_eq_true, Path.isAbove, List.isPrefixOf_iff_prefix,
    components_ofRelative (areNames_of_mem level filled begins handles member), Overlay.ofRelative,
    Path.components_join_plain (filled.plain path among)]
  exact fun starts => free ⟨path, among, (List.prefix_map_iff_of_injective
    fun _ _ => Component.name.inj).mp ((List.prefix_append_right_inj _).mp starts)⟩

include filled begins handles in
/-- What stands in the overlay at an entry's turn is covered. -/
theorem covers_of_present (vacant : ∀ names, names ≠ [] → tree.entryAt? (ground.place ++ names) = none)
    {earlier later : Log} (split : log = earlier ++ (front ++ [name], action) :: later)
    (around : ground.Around overlay.root written earlier later middle here next after)
    (present : here.entryAt? (ground.place ++ (front ++ [name])) ≠ none) :
    written.Covers (front ++ [name]) := by
  have some : front ++ [name] ≠ [] := by simp
  rcases around.added _ some with same | covered | again
  · refine (filled.added _ some).resolve_left fun equal => present ?_
    rw [same, equal, vacant _ some]
  · exact covered
  · have distinct := nodup_log handles begins
    rw [split, List.map_append, List.map_cons] at distinct
    exact absurd rfl ((List.nodup_append.mp distinct).2.2 _ (List.mem_map.mpr ⟨_, again, rfl⟩) _
      List.mem_cons_self)

/-- Whether a directory of the source is walked, as the log tells. -/
def VisitedIn (log : Log) (dir : List String) : Prop := dir = [] ∨ (dir, .descend) ∈ log

variable (disjoint : ground.Disjoint overlay tree)
  (listed : middle.list (overlay.sourceOf (Path.ofNames [])) = .ok names)

include level filled begins handles disjoint listed in
/-- Each source entry of a directory that is walked is recorded. -/
theorem recorded_of_hasEntry (sound : tree.Sound) (visited : VisitedIn log front)
    (entries : ∀ other ∈ front ++ [name], isEntryName other = true)
    (found : HasEntry overlay tree front name) : ∃ action, (front ++ [name], action) ∈ log := by
  rcases List.eq_nil_or_concat front with rfl | ⟨above, last, rfl⟩
  · exact recorded_of_mem handles (disjoint.mem_list filled.spares sound entries found listed)
  · rw [List.concat_eq_append] at *
    obtain ⟨earlier, later, here, next, split, turn, around⟩ :=
      turn_of_concat level filled begins handles (visited.resolve_left (by simp))
    obtain ⟨below, listedBelow, recorded⟩ := turn.descend rfl
    have spares := filled.spares.trans (around.before.spares.trans turn.keeps.spares)
    exact recorded name (disjoint.mem_list spares sound entries found listedBelow)

include level filled begins handles disjoint listed in
/-- Some directory on the way of a source path is the last one that is walked. -/
theorem last_visited (sound : tree.Sound) {back : List String} (visited : VisitedIn log front)
    (more : back ≠ []) (entries : ∀ other ∈ front ++ back, isEntryName other = true)
    (found : tree.entryOf (overlay.sourceOf (Path.ofNames (front ++ back))) = .ok entry) :
    ∃ dir name rest action, front ++ back = dir ++ name :: rest ∧ VisitedIn log dir ∧
      (dir ++ [name], action) ∈ log ∧ (action = .descend → rest = []) := by
  induction back generalizing front with
  | nil => exact absurd rfl more
  | cons name rest ih =>
      have shorter : ∀ other ∈ front ++ [name], isEntryName other = true :=
        fun other member => entries other (by simp at member ⊢; tauto)
      obtain ⟨action, recorded⟩ := recorded_of_hasEntry level filled begins handles disjoint listed sound
        visited shorter (hasEntry_of_entryOf sound (areNames_of_entries entries) found)
      by_cases onward : action = .descend ∧ rest ≠ []
      · obtain ⟨rfl, further⟩ := onward
        have split : front ++ name :: rest = front ++ [name] ++ rest := List.append_cons ..
        rw [split] at entries found ⊢
        exact ih (.inr recorded) further entries found
      · refine ⟨front, name, rest, action, rfl, visited, recorded, fun same => ?_⟩
        by_contra further
        exact onward ⟨same, further⟩

include disjoint in
/-- No name that is walked in the source names the overlay's root. -/
theorem source_ne_root (areNames : Path.AreNames front) (isName : isEntryName name = true) :
    ¬ (Overlay.Walk.source ⟨overlay, written, suffix, Path.ofNames front⟩ name == overlay.root) =
      true := by
  have all := areNames_concat areNames isName
  rw [source_eq areNames isName, Path.beq_iff,
    Path.components_join (Path.isAbsolute_ofNames all) (Path.head?_segments_ofNames all),
    Path.components_ofNames all]
  exact fun equal => disjoint.unlike _ all equal.symm

include disjoint filled in
/-- A directory of the source is seen as one in every turn. -/
theorem kind_of_directory (sound : tree.Sound) {earlier later : Log}
    (turn : ground.Turn overlay written suffix front name action log here next)
    (around : ground.Around overlay.root written earlier later middle here next after)
    (directory : tree.isDirectory (overlay.sourceOf (Path.ofNames (front ++ [name]))) = true)
    {isDirectory : Bool} (kind : Overlay.kindSeen here
      (Overlay.Walk.source ⟨overlay, written, suffix, Path.ofNames front⟩ name) = .ok isDirectory) :
    isDirectory = true := by
  have entries : ∀ other ∈ front ++ [name], isEntryName other = true :=
    List.forall_mem_append.mpr ⟨turn.walked.1, List.forall_mem_singleton.mpr turn.isName⟩
  have found := disjoint.target (filled.spares.trans around.before.spares) sound entries
    (isDirectory_iff_target.mp directory)
  rw [source_eq turn.walked.areNames turn.isName, Overlay.kindSeen] at kind
  rw [Overlay.sourceOf] at found
  rw [found] at kind
  exact (Except.ok.inj kind).symm

variable (suits : overlay.Suits tree written.paths)
  (vacant : ∀ names, names ≠ [] → tree.entryAt? (ground.place ++ names) = none)

/-- What is on the way of a source path is a directory. -/
theorem isDirectory_of_more (sound : tree.Sound) (more : rest ≠ [])
    (entries : ∀ other ∈ front ++ name :: rest, isEntryName other = true)
    (found : tree.entryOf (overlay.sourceOf (Path.ofNames (front ++ name :: rest))) = .ok entry) :
    tree.isDirectory (overlay.sourceOf (Path.ofNames (front ++ [name]))) = true := by
  rw [List.append_cons front] at found entries
  exact isDirectory_iff_target.mpr
    (target_above sound (areNames_of_entries entries) (by simp) more found)

include filled disjoint suits in
/-- A name that is above a written path is a directory in the source, so it is walked. -/
theorem not_reached (sound : tree.Sound) {earlier later : Log}
    (turn : ground.Turn overlay written suffix front name action log here next)
    (around : ground.Around overlay.root written earlier later middle here next after)
    (notWalked : action ≠ .descend)
    (entries : ∀ other ∈ front ++ name :: rest, isEntryName other = true)
    (found : tree.entryOf (overlay.sourceOf (Path.ofNames (front ++ name :: rest))) = .ok entry) :
    written.reaches (Path.ofNames (front ++ [name])) = false := by
  obtain ⟨isDirectory, seenEntry, kind, seen, same⟩ := Overlay.chosen_ok_iff.mp turn.choice
  have areNames := turn.walked.areNames
  have all := areNames_concat areNames turn.isName
  dsimp only at same
  rw [Path.join_ofNames areNames (Path.isName_of_isEntryName turn.isName),
    if_neg (source_ne_root disjoint areNames turn.isName)] at same
  rw [← Bool.not_eq_true]
  intro reached
  obtain ⟨path, among, starts, different⟩ := (Written.reaches_ofNames_iff filled.plain all).mp reached
  obtain ⟨above, stands⟩ := entryOf_above sound (areNames_of_entries entries) found
  have directory := kind_of_directory filled disjoint sound turn around
    (suits.above path among _ starts (Ne.symm different) _ stands) kind
  rw [Action.decide, directory, reached] at same
  exact notWalked same

include filled suits in
theorem not_written (sound : tree.Sound) (all : Path.AreNames (front ++ [name]))
    (entries : ∀ other ∈ front ++ name :: rest, isEntryName other = true)
    (found : tree.entryOf (overlay.sourceOf (Path.ofNames (front ++ name :: rest))) = .ok entry)
    (notCovered : ¬ written.Covers (front ++ name :: rest)) :
    written.contains (Path.ofNames (front ++ [name])) = false := by
  rw [← Bool.not_eq_true]
  intro contained
  obtain ⟨path, among, equal⟩ := (Written.contains_ofNames_iff filled.plain all).mp contained
  by_cases last : rest = []
  · subst last
    exact notCovered ⟨path, among, by rw [equal]⟩
  · have file := suits.noDirectory path among
    rw [equal, isDirectory_of_more sound last entries found] at file
    cases file

include level filled begins handles disjoint suits vacant in
/-- An entry of a source path that is neither written nor above a written path nor an aspect unit in a
directory that is walked is linked, unless a directory is walked instead. -/
theorem action_eq_link (sound : tree.Sound) (member : (front ++ [name], action) ∈ log)
    (notWalked : action ≠ .descend)
    (entries : ∀ other ∈ front ++ name :: rest, isEntryName other = true)
    (found : tree.entryOf (overlay.sourceOf (Path.ofNames (front ++ name :: rest))) = .ok entry)
    (notCovered : ¬ written.Covers (front ++ name :: rest))
    (notUnit : rest = [] → Action.hasSuffix suffix (Path.ofNames (front ++ [name])) = true →
      tree.isDirectory (overlay.sourceOf (Path.ofNames (front ++ [name]))) = true) :
    action = .link := by
  obtain ⟨earlier, later, here, next, split, turn, around⟩ :=
    turn_of_concat level filled begins handles member
  obtain ⟨isDirectory, seenEntry, kind, seen, same⟩ := Overlay.chosen_ok_iff.mp turn.choice
  have areNames := turn.walked.areNames
  have all := areNames_concat areNames turn.isName
  dsimp only at seen same
  rw [Path.join_ofNames areNames (Path.isName_of_isEntryName turn.isName)] at seen same
  rw [if_neg (source_ne_root disjoint areNames turn.isName)] at same
  have notReached := not_reached filled disjoint suits sound turn around notWalked entries found
  have notWritten := not_written filled suits sound all entries found notCovered
  have notAspect : (!isDirectory && Action.hasSuffix suffix (Path.ofNames (front ++ [name]))) = false := by
    rw [← Bool.not_eq_true, Bool.and_eq_true, Bool.not_eq_true']
    rintro ⟨plain, unit⟩
    have directory : tree.isDirectory (overlay.sourceOf (Path.ofNames (front ++ [name]))) = true := by
      by_cases last : rest = []
      · exact notUnit last unit
      · exact isDirectory_of_more sound last entries found
    rw [kind_of_directory filled disjoint sound turn around directory kind] at plain
    cases plain
  have notPresent : seenEntry = none := by
    cases seenEntry with
    | none => rfl
    | some stands =>
        have present := found_of_seen turn.stands areNames turn.isName turn.ready seen
        have covered := covers_of_present filled begins handles vacant split around (by
          rw [← List.append_assoc, present]
          simp)
        rw [Written.covers_iff filled.plain all, notReached, notWritten] at covered
        simp at covered
  rw [same, Action.decide, notReached, Bool.and_false, if_neg Bool.false_ne_true, notAspect,
    if_neg Bool.false_ne_true, notWritten, if_neg Bool.false_ne_true, notPresent]
  rfl

include level filled begins handles disjoint listed suits vacant in
/-- A source path that is neither written nor above a written path nor an aspect unit in a directory
that is walked lies behind a link of the overlay. -/
theorem link_of_source (sound : tree.Sound) {names : List String} (some : names ≠ [])
    (entries : ∀ other ∈ names, isEntryName other = true)
    (found : tree.entryOf (overlay.sourceOf (Path.ofNames names)) = .ok entry)
    (notWritten : written.contains (Path.ofNames names) = false)
    (notReached : written.reaches (Path.ofNames names) = false)
    (notUnit : VisitedIn log names.dropLast → Action.hasSuffix suffix (Path.ofNames names) = true →
      tree.isDirectory (overlay.sourceOf (Path.ofNames names)) = true) :
    ∃ front name rest, names = front ++ name :: rest ∧ (front ++ [name], .link) ∈ log := by
  obtain ⟨front, name, rest, action, rfl, visited, recorded, last⟩ :=
    last_visited level filled begins handles disjoint listed sound (.inl rfl) some entries found
  have all := areNames_of_entries entries
  have notCovered : ¬ written.Covers (front ++ name :: rest) := by
    rw [Written.covers_iff filled.plain all, notWritten, notReached]
    simp
  have notWalked : action ≠ .descend := by
    rintro rfl
    obtain ⟨_, _, _, _, _, turn, _⟩ := turn_of_concat level filled begins handles recorded
    have reached := reaches_of_descend turn.choice
    dsimp only at reached
    rw [Path.join_ofNames turn.walked.areNames (Path.isName_of_isEntryName turn.isName), ← last rfl,
      notReached] at reached
    cases reached
  have isLink := action_eq_link level filled begins handles disjoint suits vacant sound recorded
    notWalked entries found notCovered (by
      rintro rfl
      exact notUnit (by rwa [List.dropLast_concat]))
  exact ⟨front, name, rest, rfl, isLink ▸ recorded⟩

end

/-- Over a link in the overlay a path is walked as in the source. -/
theorem Ready.walk_link {ground : Ground} {overlay : Overlay} {written : Written} {suffix : String}
    {tree : FileTree} {front rest : List String} {name : String}
    (ready : ground.Ready overlay.root tree front) (absolute : overlay.sourceRoot.isAbsolute = true)
    (areNames : Path.AreNames front) (isName : isEntryName name = true)
    (stands : tree.entryAt? (ground.place ++ (front ++ [name])) = some (.link
      (Overlay.Walk.source ⟨overlay, written, suffix, Path.ofNames front⟩ name).text)) (links : Nat) :
    tree.walk true (links + 1 + ground.crossed.length) (tree.startOf overlay.root)
        (overlay.root.segments ++ (front ++ name :: rest)) =
      tree.walk true links (tree.startOf overlay.sourceRoot)
        (overlay.sourceRoot.segments ++ (front ++ name :: rest)) := by
  obtain ⟨_, _, notHere, notUp, short⟩ := Path.isEntryName_iff.mp isName
  rw [← List.append_assoc] at stands
  rw [ready.walk_onward (.inr rfl), FileTree.walk_step _ _ _ _ ⟨notHere, notUp⟩,
    if_neg (Nat.not_lt.mpr short), stands]
  dsimp only
  rw [Bool.not_true, Bool.and_false, if_neg Bool.false_ne_true, steps_source areNames isName]
  have isAbsolute : (Overlay.Walk.source ⟨overlay, written, suffix, Path.ofNames front⟩
      name).text.startsWith "/" = true := by
    rw [source_eq areNames isName]
    exact (Path.isAbsolute_join (Path.isAbsolute_ofNames (areNames_concat areNames isName))).trans absolute
  rw [FileTree.linkBase, if_pos isAbsolute, FileTree.startOf, if_pos absolute, List.append_assoc,
    List.append_assoc]
  rfl

end Ground

/-! What an overlay shows -/

theorem Overlay.mem_pathsOf_iff {log : Log} {action : AspectLoom.Action} {names : List String}
    (areNames : ∀ entry ∈ log, Path.AreNames entry.1) (these : Path.AreNames names) :
    Path.ofNames names ∈ pathsOf log action ↔ (names, action) ∈ log := by
  rw [pathsOf, List.mem_map]
  constructor
  · rintro ⟨⟨key, found⟩, member, same⟩
    obtain ⟨among, equal⟩ := List.mem_filter.mp member
    cases of_decide_eq_true equal
    rwa [← Path.ofNames_inj (areNames _ among) these same]
  · exact fun member => ⟨(names, action), List.mem_filter.mpr ⟨member, by simp⟩, rfl⟩

namespace Overlay

open Ground (VisitedIn)

/-- Whether a source path is an aspect unit in a directory that was walked. -/
def ListsUnit (overlay : Overlay) (suffix : String) (tree : FileTree) (report : ReconcileReport)
    (names : List String) : Prop :=
  (names.dropLast = [] ∨ Path.ofNames names.dropLast ∈ report.recursed) ∧
    Action.hasSuffix suffix (Path.ofNames names) = true ∧
      tree.isDirectory (overlay.sourceOf (Path.ofNames names)) = false

/-- What an overlay shows once files were written and the rest of the source was linked. -/
structure Exposes (overlay : Overlay) (ground : Ground) (files : List (Path × String)) (suffix : String)
    (tree after : FileTree) (written : Written) (report : ReconcileReport) : Prop where
  given : ∀ file ∈ files, written.contains file.1 = true
  content : ∀ path ∈ written.paths, ∃ text,
    files.find? (fun file => file.1 == path) = some (path, text) ∧
      after.readBytes (overlay.ofRelative path) = .ok text.toUTF8
  apart : ∀ link ∈ report.linked, ∀ path ∈ written.paths,
    link.isAbove (overlay.ofRelative path) = false
  once : ∀ dir, dir = [] ∨ Path.ofNames dir ∈ report.recursed → (∀ name ∈ dir, isEntryName name = true) →
    ∀ names, tree.list (overlay.sourceOf (Path.ofNames dir)) = .ok names → ∀ name ∈ names,
      report.linked.count (overlay.ofRelative (Path.ofNames (dir ++ [name]))) +
          report.recursed.count (Path.ofNames (dir ++ [name])) +
        (report.skipped.map Prod.fst).count (Path.ofNames (dir ++ [name])) = 1
  source : ∀ names, names ≠ [] → (∀ name ∈ names, isEntryName name = true) → ∀ entry,
    tree.entryOf (overlay.sourceOf (Path.ofNames names)) = .ok entry →
    written.contains (Path.ofNames names) = false → written.reaches (Path.ofNames names) = false →
    ¬ overlay.ListsUnit suffix tree report names →
      (∀ links, after.walk true (links + 1 + ground.crossed.length) (after.startOf overlay.root)
          (overlay.root.segments ++ names) =
        after.walk true links (after.startOf overlay.sourceRoot)
          (overlay.sourceRoot.segments ++ names)) ∧
      (∃ place, tree.place false (overlay.sourceOf (Path.ofNames names)) = .ok place ∧
        after.place false (overlay.sourceOf (Path.ofNames names)) = .ok place ∧
          after.entryAt? place = some entry) ∧
      ∀ behind, tree.target (overlay.sourceOf (Path.ofNames names)) = .ok behind →
        after.target (overlay.sourceOf (Path.ofNames names)) = .ok behind

/-- Files are written and the rest of the source is linked. -/
theorem write_then_reconcile (ground : Ground) (overlay : Overlay) (files : List (Path × String))
    (suffix : String) (tree : FileTree) (stands : ground.Stands overlay.root tree)
    (level : ground.Level)
    (vacant : ∀ names, names ≠ [] → tree.entryAt? (ground.place ++ names) = none)
    (disjoint : ground.Disjoint overlay tree) (absolute : overlay.sourceRoot.isAbsolute = true)
    (plain : ∀ file ∈ files, file.1.isPlain = true) (suits : overlay.Suits tree (files.map Prod.fst))
    {written : Written} {middle after : FileTree} {report : ReconcileReport}
    (wrote : runFrom ((overlay.writeAll files).run {}) tree = (.ok ((), written), middle))
    (reconciled : runFrom (overlay.reconcile written suffix) middle = (.ok report, after)) :
    overlay.Exposes ground files suffix tree after written report := by
  have filled := Ground.writeAll_filled level stands (.empty tree) plain wrote
  rw [List.nil_append] at filled
  have ready := stands.later filled.spares
  obtain ⟨names, log, listed, handles, rfl⟩ := Ground.reconcile_handles ready reconciled
  have begins : ground.Begins overlay written [] names middle false := .top ready listed
  have keeps := Ground.handles_keeps handles begins
  have areNames : ∀ entry ∈ log, Path.AreNames entry.1 := fun _ member =>
    Ground.areNames_of_mem level filled begins handles member
  have suitsWritten : overlay.Suits tree written.paths := suits.mono fun path member => by
    obtain ⟨text, found, _⟩ := filled.first path member
    exact List.mem_map.mpr ⟨_, List.mem_of_find?_eq_some found, rfl⟩
  have visitedIn : ∀ {dir : List String}, Path.AreNames dir →
      dir = [] ∨ Path.ofNames dir ∈ pathsOf log .descend → VisitedIn log dir :=
    fun these => Or.imp_right (mem_pathsOf_iff areNames these).mp
  rw [foldl_logged]
  simp only [List.nil_append]
  constructor
  case given => exact filled.given
  case content =>
    -- The files are written in full before the walk, and no turn of it changes a file.
    intro path member
    obtain ⟨text, found, stood⟩ := filled.first path member
    exact ⟨text, found, filled.toHolds.readBytes keeps.spares member (keeps.files _ _ stood)⟩
  case apart =>
    intro link linked path member
    obtain ⟨key, recorded, rfl⟩ := mem_linked_iff.mp linked
    obtain ⟨front, name, _, _, _, _, rfl, _⟩ :=
      Ground.turn_of_mem handles begins level filled.plain recorded
    exact Ground.link_isAbove level filled begins handles stands.sound recorded member
  case once =>
    -- An entry is recorded in its own turn, and no other turn has its key.
    intro dir visited dirEntries below listedBelow name among
    have dirNames := Ground.areNames_of_entries dirEntries
    have isName := FileTree.isEntryName_of_list stands.sound listedBelow name among
    obtain ⟨action, recorded⟩ := Ground.recorded_of_hasEntry level filled begins handles disjoint listed
      stands.sound (visitedIn dirNames visited)
      (List.forall_mem_append.mpr ⟨dirEntries, List.forall_mem_singleton.mpr isName⟩)
      (Ground.hasEntry_of_list stands.sound dirNames listedBelow among)
    rw [count_log overlay areNames (Ground.areNames_concat dirNames isName)]
    exact List.count_eq_one_of_mem (Ground.nodup_log handles begins) (List.mem_map.mpr ⟨_, recorded, rfl⟩)
  case source =>
    intro names some entries entry found notWritten notReached notUnit
    have spares := filled.spares.trans keeps.spares
    have listsUnit : VisitedIn log names.dropLast →
        Action.hasSuffix suffix (Path.ofNames names) = true →
        tree.isDirectory (overlay.sourceOf (Path.ofNames names)) = true := by
      intro visited unit
      by_contra plainEntry
      have dirNames : Path.AreNames names.dropLast := fun other among =>
        Ground.areNames_of_entries entries other (List.mem_of_mem_dropLast among)
      exact notUnit ⟨visited.imp_right (mem_pathsOf_iff areNames dirNames).mpr, unit,
        Bool.eq_false_iff.mpr plainEntry⟩
    refine ⟨?_, ?_, fun behind => disjoint.target spares stands.sound entries⟩
    · obtain ⟨dir, name, rest, rfl, recorded⟩ := Ground.link_of_source level filled begins handles
        disjoint listed suitsWritten vacant stands.sound some entries found notWritten notReached
        listsUnit
      obtain ⟨_, readyDir, link⟩ := Ground.link_stays level filled begins handles stands.sound recorded
      have dirNames : Path.AreNames dir := fun other among =>
        Ground.areNames_of_entries entries other (List.mem_append_left _ among)
      exact readyDir.walk_link absolute dirNames (entries name (by simp)) link
    · obtain ⟨front, final, split⟩ := (List.eq_nil_or_concat names).resolve_left some
      rw [List.concat_eq_append] at split
      subst split
      exact disjoint.entryOf spares stands.sound entries found

end Overlay

deriving instance DecidableEq for Path, Written

/-- Two packages, one of which is woven. -/
def libTree : FileTree where
  entries := [
    (["src"], .directory),
    (["src", "lib"], .directory),
    (["src", "lib", "lib.go"], .file "package lib\n".toUTF8),
    (["src", "pkg"], .directory),
    (["src", "pkg", "a.go"], .file "package pkg\n".toUTF8),
    (["src", "pkg", "main.go"], .file "package pkg\n".toUTF8)]

/-- The tree once a file was written. -/
def wovenTree : FileTree where
  entries := libTree.entries ++ [
    (["out"], .directory),
    (["out", "pkg"], .directory),
    (["out", "pkg", "main.go"], .file "package woven\n".toUTF8)]

theorem libTree_sound : libTree.Sound where
  distinct := by decide
  named := by decide
  closed := by
    simp only [libTree, List.forall_mem_cons]
    exact ⟨rfl, rfl, rfl, rfl, rfl, rfl, List.forall_mem_nil _⟩
  workDir := rfl

namespace Overlay

/-- The package that is not woven is linked as a whole, the woven one entry by entry. -/
theorem libTree_handles : staleOverlay.Handles ⟨[⟨"pkg/main.go"⟩]⟩ "_aspect.go" [] ["lib", "pkg"]
    wovenTree false
    ((wovenTree.put ["out", "lib"] (.link "/src/lib")).put ["out", "pkg", "a.go"] (.link "/src/pkg/a.go"))
    [(["lib"], .link), (["pkg"], .descend), (["pkg", "a.go"], .link),
      (["pkg", "main.go"], .skip .written)] := by
  have owned : ∀ names, names = [] ∨ names = ["pkg"] → ∀ tree, tree = wovenTree ∨
      tree = wovenTree.put ["out", "lib"] (.link "/src/lib") →
      runFrom (staleOverlay.ownDirectories (staleOverlay.ofRelative (Path.ofNames names))) tree =
        (.ok (), tree) := by
    rintro names (rfl | rfl) tree (rfl | rfl) <;>
      exact runFrom_of_toOption (by decide +kernel) (by decide +kernel)
  have last : staleOverlay.Handles ⟨[⟨"pkg/main.go"⟩]⟩ "_aspect.go" ["pkg"] ["main.go"]
      ((wovenTree.put ["out", "lib"] (.link "/src/lib")).put ["out", "pkg", "a.go"]
        (.link "/src/pkg/a.go")) true _ [(["pkg", "main.go"], .skip .written)] :=
    .skip (ok_of_toOption (by decide +kernel)) .done
  have inside : staleOverlay.Handles ⟨[⟨"pkg/main.go"⟩]⟩ "_aspect.go" ["pkg"] ["a.go", "main.go"]
      (wovenTree.put ["out", "lib"] (.link "/src/lib")) false _
      [(["pkg", "a.go"], .link), (["pkg", "main.go"], .skip .written)] :=
    .link (ok_of_toOption (by decide +kernel)) (.inr ⟨rfl, owned _ (.inr rfl) _ (.inr rfl)⟩)
      (ok_of_toOption (by decide +kernel)) last
  have listed : (wovenTree.put ["out", "lib"] (.link "/src/lib")).list
      (staleOverlay.sourceOf (Path.ofNames ["pkg"])) = .ok ["a.go", "main.go"] := by
    have placed : ((wovenTree.put ["out", "lib"] (.link "/src/lib")).place true
        (staleOverlay.sourceOf (Path.ofNames ["pkg"]))).toOption = some ["src", "pkg"] := by
      decide +kernel
    exact FileTree.list_of_sorted placed (by decide +kernel) rfl (by decide +kernel)
  have choice : chosen ⟨staleOverlay, ⟨[⟨"pkg/main.go"⟩]⟩, "_aspect.go", Path.ofNames []⟩
      (wovenTree.put ["out", "lib"] (.link "/src/lib")) "pkg" = .ok .descend :=
    ok_of_toOption (by decide +kernel)
  have none : staleOverlay.Handles ⟨[⟨"pkg/main.go"⟩]⟩ "_aspect.go" [] []
      ((wovenTree.put ["out", "lib"] (.link "/src/lib")).put ["out", "pkg", "a.go"]
        (.link "/src/pkg/a.go")) true _ [] := .done
  have onward := Handles.descend choice (owned _ (.inr rfl) _ (.inr rfl)) listed inside none
  exact .link (ok_of_toOption (by decide +kernel)) (.inr ⟨rfl, owned _ (.inl rfl) _ (.inl rfl)⟩)
    (ok_of_toOption (by decide +kernel)) onward

/-- The woven file is read and everything else is linked. -/
theorem write_then_reconcile_lib :
    let files := [((⟨"pkg/main.go"⟩ : Path), "package woven\n")]
    ∃ written middle after report,
      runFrom ((staleOverlay.writeAll files).run {}) libTree = (.ok ((), written), middle) ∧
        runFrom (staleOverlay.reconcile written "_aspect.go") middle = (.ok report, after) ∧
      report.linked = [staleOverlay.ofRelative (Path.ofNames ["lib"]),
        staleOverlay.ofRelative (Path.ofNames ["pkg", "a.go"])] ∧
      ∀ path ∈ written.paths, ∃ text, files.find? (fun file => file.1 == path) = some (path, text) ∧
        after.readBytes (staleOverlay.ofRelative path) = .ok text.toUTF8 := by
  intro files
  have isGround : Ground.ofRoot libTree staleOverlay.root = ⟨["out"], [["out"]], []⟩ := by
    decide +kernel
  have source : Ground.ofRoot libTree staleOverlay.sourceRoot = ⟨["src"], [["src"]], []⟩ := by
    decide +kernel
  have noLinks : ∀ place target, libTree.entryAt? place ≠ some (.link target) :=
    FileTree.noLink_of_entries (by simp [libTree])
  have stands : Ground.Stands ⟨["out"], [["out"]], []⟩ staleOverlay.root libTree :=
    isGround ▸ Ground.ofRoot_stands libTree_sound fun place _ => noLinks place
  have way := (Ground.ofRoot_stands libTree_sound fun place (_ : place ∈
    (Ground.ofRoot libTree staleOverlay.sourceRoot).entered) => noLinks place).way
  rw [source] at way
  have vacant : ∀ names, names ≠ [] → libTree.entryAt? (["out"] ++ names) = none :=
    fun names _ => FileTree.vacant_of_entries (by decide) (by simp [libTree]) names
  have unlike : ∀ names, Path.AreNames names →
      staleOverlay.root.components ≠ staleOverlay.sourceRoot.components ++ names.map .name := by
    have notBelow : ¬ staleOverlay.sourceRoot.components <+: staleOverlay.root.components := by
      decide +kernel
    exact fun names _ same => notBelow (same ▸ List.prefix_append _ _)
  have names : (⟨"pkg/main.go"⟩ : Path).names = ["pkg", "main.go"] := by decide +kernel
  have suits : staleOverlay.Suits libTree (files.map Prod.fst) := by
    constructor
    · exact List.forall_mem_singleton.mpr (by decide +kernel)
    · refine List.forall_mem_singleton.mpr fun front starts different _ _ => ?_
      rw [names] at starts different
      have among : front = [] ∨ front = ["pkg"] ∨ front = ["pkg", "main.go"] := by
        simpa using List.mem_inits _ _ |>.mpr starts
      rcases among with rfl | rfl | rfl
      · decide +kernel
      · decide +kernel
      · exact absurd rfl different
  have wrote : runFrom ((staleOverlay.writeAll files).run {}) libTree =
      (.ok ((), ⟨[⟨"pkg/main.go"⟩]⟩), wovenTree) :=
    runFrom_of_toOption (by decide +kernel) (by decide +kernel)
  have listed : wovenTree.list (staleOverlay.sourceOf (Path.ofNames [])) = .ok ["lib", "pkg"] := by
    have placed : (wovenTree.place true (staleOverlay.sourceOf (Path.ofNames []))).toOption =
        some ["src"] := by decide +kernel
    exact FileTree.list_of_sorted placed (by decide +kernel) rfl (by decide +kernel)
  have filled := Ground.writeAll_filled (by simp [Ground.Level]) stands (.empty libTree)
    (by decide +kernel) wrote
  have reconciled := Ground.runFrom_reconcile (stands.later filled.spares) listed libTree_handles
  have exposes := write_then_reconcile _ _ files "_aspect.go" libTree stands (by simp [Ground.Level])
    vacant (Ground.disjoint_of_no_links unlike way (by decide) (fun place _ => noLinks place)
      (by decide) (by decide)) (by decide +kernel) (by decide +kernel) suits wrote reconciled
  exact ⟨_, _, _, _, wrote, reconciled, by rw [foldl_logged]; rfl, exposes.content⟩

/-- An overlay whose root is reached over a directory in it. -/
def roundOverlay : Overlay := ⟨⟨"/src"⟩, ⟨"/out/x/.."⟩⟩

/-- A source with a file of that directory's name. -/
def roundTree : FileTree where
  entries := [
    (["src"], .directory),
    (["src", "a.go"], .file "package a\n".toUTF8),
    (["src", "x"], .file "".toUTF8)]

/-- The tree once a file was written. -/
def roundedTree : FileTree where
  entries := roundTree.entries ++ [
    (["out"], .directory),
    (["out", "x"], .directory),
    (["out", "a.go"], .file "package woven\n".toUTF8)]

theorem roundTree_sound : roundTree.Sound where
  distinct := by decide
  named := by decide
  closed := by
    simp only [roundTree, List.forall_mem_cons]
    exact ⟨rfl, rfl, rfl, List.forall_mem_nil _⟩
  workDir := rfl

/-- The directory on the way to the root is taken for what the overlay has of the source already. -/
theorem write_then_reconcile_round :
    let files := [((⟨"a.go"⟩ : Path), "package woven\n")]
    let ground := Ground.ofRoot roundTree roundOverlay.root
    ground.Stands roundOverlay.root roundTree ∧
      (∀ names, names ≠ [] → roundTree.entryAt? (ground.place ++ names) = none) ∧
      ground.Disjoint roundOverlay roundTree ∧ (∀ file ∈ files, file.1.isPlain = true) ∧
      roundOverlay.Suits roundTree (files.map Prod.fst) ∧
      ∃ written middle after report,
        runFrom ((roundOverlay.writeAll files).run {}) roundTree = (.ok ((), written), middle) ∧
        runFrom (roundOverlay.reconcile written "_aspect.go") middle = (.ok report, after) ∧
        ¬ roundOverlay.Exposes ground files "_aspect.go" roundTree after written report := by
  intro files ground
  have isGround : ground = ⟨["out"], [["out"], ["out", "x"]], []⟩ := by decide +kernel
  have source : Ground.ofRoot roundTree roundOverlay.sourceRoot = ⟨["src"], [["src"]], []⟩ := by
    decide +kernel
  have noLinks : ∀ place target, roundTree.entryAt? place ≠ some (.link target) :=
    FileTree.noLink_of_entries (by simp [roundTree])
  have stands : ground.Stands roundOverlay.root roundTree :=
    Ground.ofRoot_stands roundTree_sound fun place _ => noLinks place
  have way := (Ground.ofRoot_stands roundTree_sound fun place (_ : place ∈
    (Ground.ofRoot roundTree roundOverlay.sourceRoot).entered) => noLinks place).way
  rw [source] at way
  have vacant : ∀ names, names ≠ [] → roundTree.entryAt? (ground.place ++ names) = none := by
    rw [isGround]
    exact fun names _ => FileTree.vacant_of_entries (by decide) (by simp [roundTree]) names
  have unlike : ∀ names, Path.AreNames names →
      roundOverlay.root.components ≠ roundOverlay.sourceRoot.components ++ names.map .name := by
    have notBelow : ¬ roundOverlay.sourceRoot.components <+: roundOverlay.root.components := by
      decide +kernel
    exact fun names _ same => notBelow (same ▸ List.prefix_append _ _)
  have suits : roundOverlay.Suits roundTree (files.map Prod.fst) := by
    have names : (⟨"a.go"⟩ : Path).names = ["a.go"] := by decide +kernel
    constructor
    · exact List.forall_mem_singleton.mpr (by decide +kernel)
    · refine List.forall_mem_singleton.mpr fun front starts different _ _ => ?_
      rw [names] at starts different
      have among : front = [] ∨ front = ["a.go"] := by
        simpa using (List.mem_inits _ _).mpr starts
      rcases among with rfl | rfl
      · decide +kernel
      · exact absurd rfl different
  have wrote : runFrom ((roundOverlay.writeAll files).run {}) roundTree =
      (.ok ((), ⟨[⟨"a.go"⟩]⟩), roundedTree) :=
    runFrom_of_toOption (by decide +kernel) (by decide +kernel)
  have sound : roundedTree.Sound := by
    refine ⟨by decide +kernel, by decide +kernel, ?_, rfl⟩
    simp only [roundedTree, roundTree, List.cons_append, List.nil_append, List.forall_mem_cons]
    exact ⟨rfl, rfl, rfl, rfl, rfl, rfl, List.forall_mem_nil _⟩
  have standsAfter : (Ground.ofRoot roundedTree roundOverlay.root).Stands roundOverlay.root
      roundedTree := Ground.ofRoot_stands sound fun place _ =>
    FileTree.noLink_of_entries (by simp [roundedTree, roundTree]) place
  have listed : roundedTree.list (roundOverlay.sourceOf (Path.ofNames [])) = .ok ["a.go", "x"] := by
    have placed : (roundedTree.place true (roundOverlay.sourceOf (Path.ofNames []))).toOption =
        some ["src"] := by decide +kernel
    exact FileTree.list_of_sorted placed (by decide +kernel) rfl (by decide +kernel)
  have handles : roundOverlay.Handles ⟨[⟨"a.go"⟩]⟩ "_aspect.go" [] ["a.go", "x"] roundedTree false
      roundedTree [(["a.go"], .skip .written), (["x"], .skip .present)] :=
    .skip (ok_of_toOption (by decide +kernel)) (.skip (ok_of_toOption (by decide +kernel)) .done)
  have reconciled := Ground.runFrom_reconcile standsAfter listed handles
  refine ⟨stands, vacant, ?_, by decide +kernel, suits, _, _, _, _, wrote, reconciled, ?_⟩
  · refine Ground.disjoint_of_no_links unlike way (by decide) (fun place _ => noLinks place) ?_ ?_ <;>
      rw [isGround] <;> decide
  · intro exposes
    have shown := (exposes.source ["x"] (by simp) (by decide +kernel) (.file "".toUTF8)
      (ok_of_toOption (by decide +kernel)) (by decide +kernel) (by decide +kernel)
      fun unit => absurd unit.2.1 (by decide +kernel)).1 39
    rw [isGround] at shown
    exact absurd (congrArg Except.toOption shown) (by decide +kernel)

end Overlay
end AspectLoom
