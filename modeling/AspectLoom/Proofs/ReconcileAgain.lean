import AspectLoom.Proofs.OverlaySteps
import AspectLoom.Proofs.ReconcileTraces
/-!
Reconciling again. What a reconciliation finds in the overlay and what it makes there is still there when
it ends, so a second one makes the same choices except that it finds every link made.
-/
namespace AspectLoom

open Actions
open FileTree (isEntryName maxLinks checkText)

namespace Ground

open Overlay (Handles Log)

variable {ground : Ground} {root : Path} {overlay : Overlay} {written : Written} {suffix : String}
  {tree start before middle made after final : FileTree} {dir names : List String} {name : String}
  {ready : Bool} {log : Log}

/-! What is seen again -/

theorem checkText_of_seen {path : Path} {found : Option Entry} (filled : path.text ≠ "")
    (seen : Overlay.seen tree path = .ok found) : checkText path.text = .ok () := by
  rw [Overlay.seen, FileTree.entryOf, FileTree.entryAt, FileTree.place] at seen
  cases checked : checkText path.text with
  | ok value => rfl
  | error cause =>
      rw [checked] at seen
      rw [checkText, if_neg (c := path.text = "") filled] at checked
      split at checked
      · cases checked
        cases seen
      · split at checked
        · cases checked
          cases seen
        · cases checked

theorem text_ofRelative_ne (areNames : Path.AreNames dir) (isName : isEntryName name = true) :
    (overlay.ofRelative (Path.ofNames (dir ++ [name]))).text ≠ "" := by
  have all := areNames_concat areNames isName
  rw [Overlay.ofRelative, Path.text_join (Path.isAbsolute_ofNames all)]
  simp [Path.text_ofNames_ne all]

theorem checkText_of_chosen {action : AspectLoom.Action} (areNames : Path.AreNames dir)
    (isName : isEntryName name = true)
    (choice : Overlay.chosen ⟨overlay, written, suffix, Path.ofNames dir⟩ tree name = .ok action) :
    checkText (overlay.ofRelative (Path.ofNames (dir ++ [name]))).text = .ok () := by
  obtain ⟨_, _, _, seen, _⟩ := Overlay.chosen_ok_iff.mp choice
  dsimp only at seen
  rw [Path.join_ofNames areNames (Path.isName_of_isEntryName isName)] at seen
  exact checkText_of_seen (text_ofRelative_ne areNames isName) seen

/-- Where something is seen in the root, the root is ready. -/
theorem ready_of_seen {entry : Entry} (stands : ground.Stands overlay.root tree)
    (isName : isEntryName name = true)
    (seen : Overlay.seen tree (overlay.ofRelative (Path.ofNames [name])) = .ok (some entry)) :
    ground.Ready overlay.root tree [] := by
  have isName' := Path.isName_of_isEntryName isName
  obtain ⟨place, placed, found⟩ := Overlay.seen_some_iff.mp seen
  obtain ⟨_, walked⟩ := FileTree.place_ok_iff.mp placed
  have here : overlay.ofRelative (Path.ofNames [name]) = overlay.root.join ⟨name⟩ := by
    simp [Overlay.ofRelative, Path.ofNames]
  have absolute : (overlay.root.join ⟨name⟩).isAbsolute = overlay.root.isAbsolute :=
    Path.isAbsolute_join (Path.isRelative_name isName')
  rw [here, startOf_eq absolute, Path.steps_join_name isName'] at walked
  obtain ⟨entered, left, _, onward⟩ := stands.way.walk_onward (List.cons_ne_nil _ _) walked
  rw [FileTree.walk_last isName'.2.2 (by simp)] at onward
  split at onward
  · cases onward
  · cases onward
    refine ⟨stands, entered, stands.sound.above ?_ ?_ found⟩
    · simp
    · simp

/-- What is seen in a directory of the overlay stands there. -/
theorem found_of_seen {entry : Entry} (stands : ground.Stands overlay.root tree)
    (areNames : Path.AreNames dir) (isName : isEntryName name = true)
    (isReady : dir ≠ [] → ground.Ready overlay.root tree dir)
    (seen : Overlay.seen tree (overlay.ofRelative (Path.ofNames (dir ++ [name]))) = .ok (some entry)) :
    tree.entryAt? (ground.place ++ dir ++ [name]) = some entry := by
  have ready : ground.Ready overlay.root tree dir := by
    by_cases top : dir = []
    · subst top
      exact ready_of_seen stands isName seen
    · exact isReady top
  have checked := checkText_of_seen (text_ofRelative_ne areNames isName) seen
  rw [ready.seen areNames isName checked] at seen
  exact Except.ok.inj seen

/-- What was seen once is seen again. -/
theorem seen_again {found : Option Entry} (keeps : ground.Keeps overlay.root tree final)
    (stands : ground.Stands overlay.root tree) (areNames : Path.AreNames dir)
    (isName : isEntryName name = true) (isReady : dir ≠ [] → ground.Ready overlay.root tree dir)
    (seen : Overlay.seen tree (overlay.ofRelative (Path.ofNames (dir ++ [name]))) = .ok found) :
    ∃ again, Overlay.seen final (overlay.ofRelative (Path.ofNames (dir ++ [name]))) = .ok again ∧
      (found.isSome → again.isSome) := by
  rcases keeps.settled with rfl | ready
  · exact ⟨found, seen, id⟩
  have ready : ground.Ready overlay.root final dir := by
    by_cases top : dir = []
    · exact top ▸ ready
    · exact (isReady top).later keeps.spares
  have checked := checkText_of_seen (text_ofRelative_ne areNames isName) seen
  refine ⟨_, ready.seen areNames isName checked, ?_⟩
  intro present
  obtain ⟨entry, rfl⟩ := Option.isSome_iff_exists.mp present
  apply keeps.present
  rw [found_of_seen stands areNames isName isReady seen]
  rfl

/-! The same choices -/

end Ground

namespace Action

variable {written : Written} {suffix : String} {entry : Path} {isDirectory present later : Bool}

/-- What a choice becomes once it has been carried out. -/
def settled : Action → Action
  | .link => .skip .present
  | .descend => .descend
  | .skip reason => .skip reason

theorem settled_of_ne_link {action : Action} (different : action ≠ .link) :
    action.settled = action := by
  cases action with
  | descend => rfl
  | skip reason => rfl
  | link => exact absurd rfl different

theorem decide_present : decide written suffix entry isDirectory true =
    (decide written suffix entry isDirectory present).settled := by
  unfold decide
  split
  · rfl
  split
  · rfl
  split
  · rfl
  · cases present <;> rfl

/-- What stands in the overlay stays there, and a link comes. -/
theorem decide_settled (stays : present = true → later = true)
    (comes : decide written suffix entry isDirectory present = .link → later = true) :
    decide written suffix entry isDirectory later =
      (decide written suffix entry isDirectory present).settled := by
  cases later with
  | true => exact decide_present
  | false =>
      have missing : present = false := by simpa using stays
      rw [missing] at comes ⊢
      rw [settled_of_ne_link (by simpa using comes)]

example : decide ⟨[⟨"pkg/new.go"⟩]⟩ "_aspect.go" ⟨"pkg/main.go"⟩ false true =
    (decide ⟨[⟨"pkg/new.go"⟩]⟩ "_aspect.go" ⟨"pkg/main.go"⟩ false false).settled := by decide +kernel

end Action

namespace Ground

open Overlay (Handles Log)

variable {ground : Ground} {root : Path} {overlay : Overlay} {written : Written} {suffix : String}
  {tree start before middle made after final : FileTree} {dir names : List String} {name : String}
  {ready : Bool} {log : Log} {action : AspectLoom.Action}

/-- The second choice for an entry. -/
theorem chosen_again (sound : start.Sound) (apart : ground.Apart overlay written start)
    (spares : ground.Spares start tree) (keeps : ground.Keeps overlay.root tree final)
    (begins : ground.Begins overlay written dir (name :: names) tree ready)
    (choice : Overlay.chosen ⟨overlay, written, suffix, Path.ofNames dir⟩ tree name = .ok action)
    (made : action = .link → ground.Ready overlay.root final dir ∧
      (final.entryAt? (ground.place ++ dir ++ [name])).isSome) :
    Overlay.chosen ⟨overlay, written, suffix, Path.ofNames dir⟩ final name = .ok action.settled := by
  have walked := begins.walked
  have isName := begins.isName
  have relative := Path.join_ofNames walked.areNames (Path.isName_of_isEntryName isName)
  obtain ⟨isDirectory, found, kind, seen, same⟩ := Overlay.chosen_ok_iff.mp choice
  dsimp only at seen same
  rw [relative] at seen same
  obtain ⟨again, seenAgain, comes⟩ := seen_again keeps begins.stands walked.areNames isName
    begins.below seen
  have sameKind : Overlay.kindSeen final
      (Overlay.Walk.source ⟨overlay, written, suffix, Path.ofNames dir⟩ name) = _ :=
    (apart.kindSeen sound (spares.trans keeps.spares) walked isName).trans
      (apart.kindSeen sound spares walked isName).symm
  refine Overlay.chosen_ok_iff.mpr ⟨isDirectory, again, sameKind.trans kind, ?_, ?_⟩
  · dsimp only
    rw [relative]
    exact seenAgain
  · dsimp only
    rw [relative]
    split at same
    · rename_i isRoot
      rw [same, if_pos isRoot]
      rfl
    · rename_i notRoot
      rw [same, if_neg notRoot]
      refine (Action.decide_settled comes fun link => ?_).symm
      obtain ⟨here, present⟩ := made (same.trans link)
      rw [here.seen walked.areNames isName (checkText_of_chosen walked.areNames isName choice)]
        at seenAgain
      cases seenAgain
      exact present

/-! The same walk -/

/-- The record of a second reconciliation. -/
def settled (log : Log) : Log := log.map fun entry => (entry.1, entry.2.settled)

/-- Handling the names of a directory once more changes nothing. -/
theorem handles_again (handles : Handles overlay written suffix dir names tree ready after log)
    (sound : start.Sound) (apart : ground.Apart overlay written start)
    (spares : ground.Spares start tree) (begins : ground.Begins overlay written dir names tree ready)
    (keeps : ground.Keeps overlay.root after final) (later : Bool) :
    Handles overlay written suffix dir names final later final (settled log) := by
  induction handles generalizing later with
  | done => exact .done
  | @descend dir names belowNames name tree made middle after ready inner log choice owned listed
      inside onward ihInside ihOnward =>
      obtain ⟨owns, below⟩ := begins.inside choice owned listed
      have first := handles_keeps inside below
      have front := owns.keeps.trans first
      have onwards := begins.onward front.spares
      have back := (handles_keeps onward onwards).trans keeps
      have madeSpares := spares.trans owns.spares
      have choiceAgain := chosen_again sound apart spares (front.trans back) begins choice (by simp)
      have ownedAgain := (owns.ready.later (first.spares.trans back.spares)).ownDirectories_again
        below.walked.1 (checkText_of_chosen begins.walked.areNames begins.isName choice)
      have listedAgain :=
        (apart.list sound (spares.trans (front.trans back).spares) below.walked).trans
          ((apart.list sound madeSpares below.walked).symm.trans listed)
      have insideAgain := ihInside madeSpares below back false
      have onwardAgain := ihOnward (spares.trans front.spares) onwards keeps later
      rw [settled, List.map_cons, List.map_append]
      exact .descend choiceAgain ownedAgain listedAgain insideAgain onwardAgain
  | skip choice onward ih =>
      have onwards := begins.onward (Spares.refl _ _)
      have whole := (handles_keeps onward onwards).trans keeps
      have again := chosen_again sound apart spares whole begins choice (by simp)
      exact .skip again (ih spares onwards keeps later)
  | link choice prepared linked onward ih =>
      obtain ⟨_, _, front, ready, onwards⟩ := begins.link prepared linked
      have back := (handles_keeps onward onwards).trans keeps
      have again := chosen_again sound apart spares (front.trans back) begins choice fun _ => by
        refine ⟨ready.later back.spares, back.present _ ?_⟩
        rw [(begins.link_stands prepared linked).2]
        rfl
      exact .skip again (ih (spares.trans front.spares) onwards keeps later)

theorem pathsOf_settled (log : Log) :
    Overlay.pathsOf (settled log) .link = [] ∧
      Overlay.pathsOf (settled log) .descend = Overlay.pathsOf log .descend := by
  induction log with
  | nil => exact ⟨rfl, rfl⟩
  | cons entry log ih =>
      obtain ⟨names, action⟩ := entry
      rw [settled, List.map_cons, ← settled]
      cases action <;> simpa [Overlay.pathsOf, Action.settled] using ih

/-- A second reconciliation makes no link, walks the same directories and changes nothing. -/
theorem reconcile_again {report : ReconcileReport} (stands : ground.Stands overlay.root tree)
    (apart : ground.Apart overlay written tree)
    (ran : runFrom (overlay.reconcile written suffix) tree = (.ok report, after)) :
    ground.Keeps overlay.root tree after ∧
      ∃ again, runFrom (overlay.reconcile written suffix) after = (.ok again, after) ∧
        again.linked = [] ∧ again.recursed = report.recursed := by
  obtain ⟨names, log, listed, handles, rfl⟩ := reconcile_handles stands ran
  have begins : ground.Begins overlay written [] names tree false := .top stands listed
  have keeps := handles_keeps handles begins
  have handlesAgain := handles_again handles stands.sound apart (Spares.refl _ _) begins
    (Keeps.refl _ _ _) false
  have listedAgain := (apart.list stands.sound keeps.spares begins.walked).trans listed
  refine ⟨keeps, _, runFrom_reconcile (stands.later keeps.spares) listedAgain handlesAgain, ?_⟩
  rw [Overlay.foldl_logged, Overlay.foldl_logged]
  simp [pathsOf_settled]

end Ground
/-- Right after a reconciliation another one makes no link, walks the same directories and leaves the tree
as it is. -/
theorem Overlay.reconcile_twice (overlay : Overlay) (written : Written) (suffix : String)
    (tree : FileTree) (sound : tree.Sound)
    (noLinks : ∀ place ∈ (Ground.ofRoot tree overlay.root).entered, ∀ target,
      tree.entryAt? place ≠ some (.link target))
    (apart : (Ground.ofRoot tree overlay.root).Apart overlay written tree)
    {report : ReconcileReport} {after : FileTree}
    (ran : runFrom (overlay.reconcile written suffix) tree = (.ok report, after)) :
    ∃ again, runFrom (overlay.reconcile written suffix) after = (.ok again, after) ∧
      again.linked = [] ∧ again.recursed = report.recursed :=
  (Ground.reconcile_again (Ground.ofRoot_stands sound noLinks) apart ran).2

instance : DecidableEq Entry
  | .file bytes, .file others => decidable_of_iff (bytes.data = others.data) (by
      rw [Entry.file.injEq, ByteArray.ext_iff])
  | .directory, .directory => isTrue rfl
  | .link target, .link other => decidable_of_iff (target = other) (by rw [Entry.link.injEq])
  | .file _, .directory | .file _, .link _ | .directory, .file _ | .directory, .link _
  | .link _, .file _ | .link _, .directory => isFalse (by simp)

deriving instance DecidableEq for FileTree

/-- The stale tree with a directory in the stead of the link. -/
def ownedTree : FileTree where
  entries := [
    (["src"], .directory),
    (["src", "pkg"], .directory),
    (["src", "pkg", "main.go"], .file "package pkg\n".toUTF8),
    (["out"], .directory),
    (["out", "pkg"], .directory)]

/-- A stale link that is in the way is replaced by the first reconciliation and not missed by the second. -/
theorem Overlay.reconcile_twice_stale :
    let reconcile := staleOverlay.reconcile ⟨[⟨"pkg/new.go"⟩]⟩ "_aspect.go"
    ∃ report after again, runFrom reconcile staleTree = (.ok report, after) ∧
      report.linked = [staleOverlay.ofRelative (Path.ofNames ["pkg", "main.go"])] ∧
        runFrom reconcile after = (.ok again, after) ∧ again.linked = [] := by
  intro reconcile
  have ground : Ground.ofRoot staleTree staleOverlay.root = ⟨["out"], [["out"]], []⟩ := by
    decide +kernel
  have noLinks : ∀ place ∈ (Ground.ofRoot staleTree staleOverlay.root).entered, ∀ target,
      staleTree.entryAt? place ≠ some (.link target) := by
    rw [ground]
    simp [FileTree.entryAt?, staleTree, Assoc.find?]
  have sourceLinks : ∀ below, ["src"] <+: below → ∀ target,
      staleTree.entryAt? below ≠ some (.link target) := by
    intro below starts target link
    have member := FileTree.mem_entries (by rintro rfl; simp at starts) link
    simp [staleTree] at member
    simp [member] at starts
  have apart : (Ground.ofRoot staleTree staleOverlay.root).Apart staleOverlay
      ⟨[⟨"pkg/new.go"⟩]⟩ staleTree := by
    have source : Ground.ofRoot staleTree staleOverlay.sourceRoot = ⟨["src"], [["src"]], []⟩ := by
      decide +kernel
    have way := (Ground.ofRoot_stands staleTree_sound (by
      rw [source]
      simp [FileTree.entryAt?, staleTree, Assoc.find?])).way
    rw [source] at way
    rw [ground]
    refine Ground.Secludes.apart ?_ _
    exact Ground.secludes_of_no_links way (by decide +kernel) sourceLinks (by decide) (by decide)
      (by decide)
  have owned : ∀ tree, tree = staleTree ∨ tree = ownedTree →
      runFrom (staleOverlay.ownDirectories (staleOverlay.ofRelative (Path.ofNames ["pkg"]))) tree =
        (.ok (), ownedTree) := by
    rintro tree (rfl | rfl) <;> exact runFrom_of_toOption (by decide +kernel) (by decide +kernel)
  have inside : staleOverlay.Handles ⟨[⟨"pkg/new.go"⟩]⟩ "_aspect.go" ["pkg"] ["main.go"] ownedTree
      false (ownedTree.put ["out", "pkg", "main.go"] (.link "/src/pkg/main.go"))
      [(["pkg", "main.go"], .link)] :=
    .link (ok_of_toOption (by decide +kernel)) (.inr ⟨rfl, owned _ (.inr rfl)⟩)
      (ok_of_toOption (by decide +kernel)) .done
  have listedInside : ownedTree.list (staleOverlay.sourceOf (Path.ofNames ["pkg"])) = .ok ["main.go"] := by
    have placed : (ownedTree.place true (staleOverlay.sourceOf (Path.ofNames ["pkg"]))).toOption =
        some ["src", "pkg"] := by decide +kernel
    exact FileTree.list_of_sorted placed (by decide +kernel) rfl (by decide +kernel)
  have choice : Overlay.chosen ⟨staleOverlay, ⟨[⟨"pkg/new.go"⟩]⟩, "_aspect.go", Path.ofNames []⟩
      staleTree "pkg" = .ok .descend := ok_of_toOption (by decide +kernel)
  have handles : staleOverlay.Handles ⟨[⟨"pkg/new.go"⟩]⟩ "_aspect.go" [] ["pkg"] staleTree false
      (ownedTree.put ["out", "pkg", "main.go"] (.link "/src/pkg/main.go"))
      [(["pkg"], .descend), (["pkg", "main.go"], .link)] :=
    Overlay.Handles.descend choice (owned _ (.inl rfl)) listedInside inside .done
  have listed : staleTree.list (staleOverlay.sourceOf (Path.ofNames [])) = .ok ["pkg"] := by
    have placed : (staleTree.place true (staleOverlay.sourceOf (Path.ofNames []))).toOption =
        some ["src"] := by decide +kernel
    exact FileTree.list_of_sorted placed (by decide +kernel) rfl (by decide +kernel)
  have ran := Ground.runFrom_reconcile (Ground.ofRoot_stands staleTree_sound noLinks) listed handles
  obtain ⟨again, second, none, _⟩ := reconcile_twice _ _ _ _ staleTree_sound noLinks apart ran
  exact ⟨_, _, again, ran, rfl, second, none⟩

/-- A link that leads over a missing directory, which is on the way to an overlay's root. -/
def detourTree : FileTree where
  entries := [
    (["src"], .directory),
    (["src", "l"], .link "/x/../src/z"),
    (["src", "z"], .directory),
    (["src", "z", "a.go"], .file "package z\n".toUTF8)]

def detourOverlay : Overlay := ⟨⟨"/src"⟩, ⟨"/x/ov"⟩⟩

def detourWritten : Written := ⟨[⟨"l/foo.go"⟩]⟩

/-- The tree with a link for each entry. -/
def linkedTree : FileTree where
  entries := detourTree.entries ++ [
    (["x"], .directory),
    (["x", "ov"], .directory),
    (["x", "ov", "l"], .link "/src/l"),
    (["x", "ov", "z"], .link "/src/z")]

/-- The tree with a directory in the stead of the first link. -/
def detouredTree : FileTree where
  entries := detourTree.entries ++ [
    (["x"], .directory),
    (["x", "ov"], .directory),
    (["x", "ov", "z"], .link "/src/z"),
    (["x", "ov", "l"], .directory)]

theorem detourTree_sound : detourTree.Sound where
  distinct := by decide
  named := by decide
  closed := by
    simp only [detourTree, List.forall_mem_cons]
    exact ⟨rfl, rfl, rfl, rfl, List.forall_mem_nil _⟩
  workDir := rfl

/-- What lies behind a link is not looked at where a directory on the way is missing. -/
theorem visits_over_missing {tree : FileTree} (src : tree.entryAt? ["src"] = some .directory)
    (link : tree.entryAt? ["src", "l"] = some (.link "/x/../src/z")) (missing : tree.entryAt? ["x"] = none)
    (rest : List String) :
    tree.visits maxLinks [] ("src" :: "l" :: rest) = [["src"], ["src", "l"], ["x"]] := by
  have target : FileTree.steps "/x/../src/z" = ["x", "..", "src", "z"] := by decide +kernel
  have base : FileTree.linkBase ["src"] "/x/../src/z" = [] := by decide +kernel
  rw [FileTree.visits_step _ _ _ (by decide) (by decide)]
  dsimp only [List.nil_append]
  rw [src]
  dsimp only
  rw [FileTree.visits_step _ _ _ (by decide) (by decide)]
  dsimp only [List.cons_append, List.nil_append]
  rw [link]
  dsimp only
  rw [target, base]
  change ["src"] :: _ :: tree.visits 39 [] ("x" :: _) = _
  rw [FileTree.visits_step _ _ _ (by decide) (by decide)]
  dsimp only [List.nil_append]
  rw [missing]

/-- Apart from the missing directory nothing outside the source is looked at. -/
theorem visits_detour {tree : FileTree} (src : tree.entryAt? ["src"] = some .directory)
    (link : tree.entryAt? ["src", "l"] = some (.link "/x/../src/z")) (missing : tree.entryAt? ["x"] = none)
    (only : ∀ below target, tree.entryAt? below = some (.link target) → below = ["src", "l"])
    {names : List String} (areNames : Path.AreNames names) {place : Place}
    (visited : place ∈ tree.visits maxLinks [] ("src" :: names)) : ["src"] <+: place ∨ place = ["x"] := by
  cases names with
  | nil =>
      rw [FileTree.visits_step _ _ _ (by decide) (by decide)] at visited
      dsimp only [List.nil_append] at visited
      rw [src] at visited
      simp only [FileTree.visits_nil, List.mem_singleton] at visited
      exact .inl (visited ▸ List.prefix_rfl)
  | cons name rest =>
      obtain ⟨isName, others⟩ := List.forall_mem_cons.mp areNames
      by_cases isLink : name = "l"
      · rw [isLink, visits_over_missing src link missing] at visited
        simp only [List.mem_cons, List.not_mem_nil, or_false] at visited
        rcases visited with rfl | rfl | rfl
        · exact .inl List.prefix_rfl
        · exact .inl (List.prefix_append ["src"] ["l"])
        · exact .inr rfl
      · have noLinks : ∀ below, ["src", name] <+: below → ∀ target,
            tree.entryAt? below ≠ some (.link target) := by
          rintro below starts target found
          obtain ⟨more, same⟩ := only below target found ▸ starts
          exact isLink (List.cons.inj (List.cons.inj same).2).1
        have down : ["src"] <+: ["src", name] := List.prefix_append ["src"] [name]
        rw [FileTree.visits_step _ _ _ (by decide) (by decide)] at visited
        dsimp only [List.nil_append] at visited
        rw [src] at visited
        rcases List.mem_cons.mp visited with rfl | visited
        · exact .inl List.prefix_rfl
        by_cases short : name.utf8ByteSize ≤ FileTree.maxNameSize
        · rw [FileTree.visits_step _ _ _ isName.2.2 short] at visited
          dsimp only [List.cons_append, List.nil_append] at visited
          rcases List.mem_cons.mp visited with rfl | visited
          · exact .inl down
          split at visited
          · exact .inl (down.trans (FileTree.visits_below noLinks
              (fun other member => (others other member).2.2) _ place visited))
          · rename_i target found
            exact absurd found (noLinks _ List.prefix_rfl target)
          · cases visited
        · rw [FileTree.visits_long _ _ _ isName.2.2 (Nat.lt_of_not_le short)] at visited
          cases visited

/-- It is seen once the way to the overlay's root is made. -/
example : (detourTree.target ⟨"/src/l"⟩).toOption = none ∧
    (linkedTree.target ⟨"/src/l"⟩).toOption = some .directory := by decide +kernel

/-- Where the overlay's root leads, and where the way to the source begins. -/
theorem detour_places :
    Ground.ofRoot detourTree detourOverlay.root = ⟨["x", "ov"], [["x"], ["x", "ov"]], []⟩ ∧
      detourTree.startOf detourOverlay.sourceRoot = [] ∧
      detourOverlay.sourceRoot.segments = ["src"] := by decide +kernel

theorem detourTree_links {below : Place} {target : String}
    (link : detourTree.entryAt? below = some (.link target)) : below = ["src", "l"] := by
  have member := FileTree.mem_entries (by rintro rfl; cases link) link
  simp only [detourTree, List.mem_cons, Prod.mk.injEq, reduceCtorEq, and_false, List.not_mem_nil,
    false_or, or_false] at member
  exact member.1

/-- No walked path of the source leads into the overlay. -/
theorem detour_outside {dir : List String} {name : String} {place : Place}
    (walked : Ground.Walked detourWritten dir) (isName : isEntryName name = true)
    (visited : place ∈ detourTree.visits maxLinks (detourTree.startOf detourOverlay.sourceRoot)
      (detourOverlay.sourceRoot.segments ++ (dir ++ [name]))) : ¬ ["x", "ov"] <+: place := by
  rw [detour_places.2.1, detour_places.2.2, List.singleton_append] at visited
  have areNames := Ground.areNames_concat walked.areNames isName
  rcases visits_detour rfl rfl rfl (fun _ _ => detourTree_links) areNames visited with inside | rfl
  · intro off
    exact absurd (List.prefix_of_prefix_length_le inside off (by decide)) (by decide)
  · decide

theorem detour_handles : detourOverlay.Handles detourWritten "_aspect.go" [] ["l", "z"] detourTree false
    linkedTree [(["l"], .link), (["z"], .link)] := by
  have owned : runFrom (detourOverlay.ownDirectories (detourOverlay.ofRelative (Path.ofNames [])))
      detourTree = (.ok (), ⟨linkedTree.entries.dropLast.dropLast, []⟩) :=
    runFrom_of_toOption (by decide +kernel) (by decide +kernel)
  have onward : detourOverlay.Handles detourWritten "_aspect.go" [] ["z"]
      ⟨linkedTree.entries.dropLast, []⟩ true linkedTree [(["z"], .link)] :=
    .link (ok_of_toOption (by decide +kernel)) (.inl ⟨rfl, rfl⟩)
      (ok_of_toOption (by decide +kernel)) .done
  exact .link (ok_of_toOption (by decide +kernel)) (.inr ⟨rfl, owned⟩)
    (ok_of_toOption (by decide +kernel)) onward

theorem detour_handles_again :
    detourOverlay.Handles detourWritten "_aspect.go" [] ["l", "z"] linkedTree false
      (detouredTree.put ["x", "ov", "l", "a.go"] (.link "/src/l/a.go"))
      [(["l"], .descend), (["l", "a.go"], .link), (["z"], .skip .present)] := by
  have owned : ∀ tree, tree = linkedTree ∨ tree = detouredTree →
      runFrom (detourOverlay.ownDirectories (detourOverlay.ofRelative (Path.ofNames ["l"]))) tree =
        (.ok (), detouredTree) := by
    rintro tree (rfl | rfl) <;> exact runFrom_of_toOption (by decide +kernel) (by decide +kernel)
  have listed : detouredTree.list (detourOverlay.sourceOf (Path.ofNames ["l"])) = .ok ["a.go"] := by
    have placed : (detouredTree.place true (detourOverlay.sourceOf (Path.ofNames ["l"]))).toOption =
        some ["src", "z"] := by decide +kernel
    exact FileTree.list_of_sorted placed (by decide +kernel) rfl (by decide +kernel)
  have inside : detourOverlay.Handles detourWritten "_aspect.go" ["l"] ["a.go"] detouredTree false
      (detouredTree.put ["x", "ov", "l", "a.go"] (.link "/src/l/a.go")) [(["l", "a.go"], .link)] :=
    .link (ok_of_toOption (by decide +kernel)) (.inr ⟨rfl, owned _ (.inr rfl)⟩)
      (ok_of_toOption (by decide +kernel)) .done
  have onward : detourOverlay.Handles detourWritten "_aspect.go" [] ["z"]
      (detouredTree.put ["x", "ov", "l", "a.go"] (.link "/src/l/a.go")) false
      (detouredTree.put ["x", "ov", "l", "a.go"] (.link "/src/l/a.go")) [(["z"], .skip .present)] :=
    .skip (ok_of_toOption (by decide +kernel)) .done
  have choice : Overlay.chosen ⟨detourOverlay, detourWritten, "_aspect.go", Path.ofNames []⟩
      linkedTree "l" = .ok .descend := ok_of_toOption (by decide +kernel)
  exact Overlay.Handles.descend choice (owned _ (.inl rfl)) listed inside onward

/-- Making the overlay's root turns the link into a directory, which the second reconciliation walks. -/
theorem Overlay.reconcile_detour :
    let ground := Ground.ofRoot detourTree detourOverlay.root
    let reconcile := detourOverlay.reconcile detourWritten "_aspect.go"
    detourTree.Sound ∧
      (∀ place ∈ ground.entered, ∀ target, detourTree.entryAt? place ≠ some (.link target)) ∧
      (∀ dir name, Ground.Walked detourWritten dir → isEntryName name = true →
        ∀ place ∈ detourTree.visits maxLinks (detourTree.startOf detourOverlay.sourceRoot)
          (detourOverlay.sourceRoot.segments ++ (dir ++ [name])), ¬ ground.place <+: place) ∧
      ∃ report after again last, runFrom reconcile detourTree = (.ok report, after) ∧
        runFrom reconcile after = (.ok again, last) ∧ again.linked ≠ [] ∧
          again.recursed ≠ report.recursed ∧ last ≠ after := by
  intro ground reconcile
  have isGround : ground = ⟨["x", "ov"], [["x"], ["x", "ov"]], []⟩ := detour_places.1
  have noLinks : ∀ place ∈ ground.entered, ∀ target,
      detourTree.entryAt? place ≠ some (.link target) := by
    rw [isGround]
    simp [FileTree.entryAt?, detourTree, Assoc.find?]
  refine ⟨detourTree_sound, noLinks, ?_, ?_⟩
  · rw [isGround]
    exact fun dir name walked isName place visited => detour_outside walked isName visited
  have listed : ∀ tree, tree = detourTree ∨ tree = linkedTree →
      tree.list (detourOverlay.sourceOf (Path.ofNames [])) = .ok ["l", "z"] := by
    intro tree either
    have placed : (tree.place true (detourOverlay.sourceOf (Path.ofNames []))).toOption =
        some ["src"] := by
      rcases either with rfl | rfl <;> decide +kernel
    rcases either with rfl | rfl <;>
      exact FileTree.list_of_sorted placed (by decide +kernel) rfl (by decide +kernel)
  have stands := Ground.ofRoot_stands detourTree_sound noLinks
  have ran := Ground.runFrom_reconcile stands (listed _ (.inl rfl)) detour_handles
  have later := stands.later ((Ground.reconcile_ends stands detourWritten "_aspect.go").of_ok ran)
  have ranAgain := Ground.runFrom_reconcile later (listed _ (.inr rfl)) detour_handles_again
  rw [Overlay.foldl_logged] at ran ranAgain
  exact ⟨_, _, _, _, ran, ranAgain, by simp [Overlay.pathsOf], by simp [Overlay.pathsOf],
    by decide +kernel⟩

end AspectLoom
