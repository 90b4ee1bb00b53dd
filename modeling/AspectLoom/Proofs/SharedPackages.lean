import AspectLoom.Proofs.FollowedRuns
import AspectLoom.Proofs.LoadedPackages
import AspectLoom.Proofs.TreeChanges
/-!
Packages that two sources share. Loading a package does the same in both when they agree on every package
that is asked for on the way, however long the chains of imports are that each of them allows for.
-/
namespace AspectLoom

open Actions PackageCache
open Syntax (Node)

namespace PackageCache

variable {cache before after : PackageCache} {paths : List String} {path : String}
  {clear : String → Prop}

/-- Whether all packages that were asked for meet a condition. -/
def AllAsked (clear : String → Prop) (cache : PackageCache) : Prop :=
  ∀ path, (cache.known? path).isSome → clear path

theorem AllAsked.of_set {index : Option PackageIndex} (all : (cache.set path index).AllAsked clear) :
    cache.AllAsked clear := by
  intro other known
  refine all other ?_
  rw [known?_set]
  split
  · rfl
  · exact known

/-- How many of some paths were not asked for yet. -/
def room (paths : List String) (cache : PackageCache) : Nat :=
  (paths.filter fun path => (cache.known? path).isNone).length

theorem room_le (paths : List String) (cache : PackageCache) : room paths cache ≤ paths.length :=
  List.length_filter_le _ _

theorem room_loaded (loaded : Loaded before after) : room paths after ≤ room paths before := by
  refine (List.monotone_filter_right paths fun path unknown => ?_).length_le
  cases found : before.known? path with
  | none => rfl
  | some entry =>
      rw [loaded.kept path entry found] at unknown
      cases unknown

theorem room_set_lt {index : Option PackageIndex} (member : path ∈ paths)
    (unknown : cache.known? path = none) : room paths (cache.set path index) < room paths cache := by
  have narrows : (paths.filter fun other => ((cache.set path index).known? other).isNone) =
      (paths.filter fun other => (cache.known? other).isNone).filter fun other =>
        ((cache.set path index).known? other).isNone := by
    rw [List.filter_filter]
    refine List.filter_congr fun other _ => ?_
    rw [known?_set]
    split
    · rfl
    · simp
  rw [room, narrows, room]
  refine List.length_filter_lt_length_iff_exists.mpr ⟨path, List.mem_filter.mpr ⟨member, ?_⟩, ?_⟩
  · rw [unknown]
    rfl
  · rw [known?_set, if_pos rfl]
    simp

end PackageCache

namespace PackageSource

/-! What files mention -/

variable {tree : FileTree} {path : Path}

theorem readText_ok {text : String} (read : readText tree path = .ok text) :
    ∃ place bytes, tree.entryAt? place = some (.file bytes) ∧ String.fromUTF8? bytes = some text := by
  rw [readText] at read
  split at read
  · rename_i found
    cases read
    rw [FileTree.readText] at found
    obtain ⟨bytes, bytesRead, found⟩ := bind_ok found
    rw [FileTree.readBytes] at bytesRead
    obtain ⟨entry, target, bytesRead⟩ := bind_ok bytesRead
    split at bytesRead
    · cases bytesRead
      obtain ⟨place, _, stands⟩ := FileTree.entryAt_ok_iff.mp target
      split at found
      · rename_i decoded
        cases found
        exact ⟨place, bytes, stands, decoded⟩
      · cases found
    · cases bytesRead
  · cases read

theorem readFile_ok {file : String × Node} (read : readFile tree path = .ok file) :
    readText tree path = .ok file.1 ∧ Node.ofSource? file.1 = some file.2 := by
  obtain ⟨text, readText, read⟩ := bind_ok read
  split at read
  · rename_i root parsed
    cases read
    exact ⟨readText, parsed⟩
  · cases read

/-- The imports of a file of a tree are mentioned in the tree. -/
theorem mem_mentions {file : String × Node} (read : readFile tree path = .ok file) {spec : Import}
    (member : spec ∈ file.2.imports file.1) : spec.path ∈ mentions tree := by
  obtain ⟨read, parsed⟩ := readFile_ok read
  obtain ⟨place, bytes, stands, decoded⟩ := readText_ok read
  have filled : place ≠ [] := by
    rintro rfl
    cases stands
  refine List.mem_flatMap.mpr ⟨_, FileTree.mem_entries filled stands, ?_⟩
  simp only [mentionedIn, decoded, parsed]
  exact List.mem_map_of_mem member

theorem mem_of_readAll {ε σ α β : Type} {read : α → Except ε β} {items : List α} {results : List β}
    {state after : σ}
    (ran : runFrom (items.mapM fun item => (liftM (read item) : Actions.Action ε σ β)) state =
      (.ok results, after)) :
    after = state ∧ ∀ result ∈ results, ∃ item ∈ items, read item = .ok result := by
  induction items generalizing results after with
  | nil =>
      cases ran
      exact ⟨rfl, List.forall_mem_nil _⟩
  | cons item rest ih =>
      rw [List.mapM_cons] at ran
      obtain ⟨first, middle, firstRan, onward⟩ := runFrom_bind_ok ran
      rw [runFrom_lift] at firstRan
      obtain ⟨firstRead, rfl⟩ := Prod.mk.inj firstRan
      obtain ⟨others, last, restRan, ends⟩ := runFrom_bind_ok onward
      obtain ⟨rfl, among⟩ := ih restRan
      cases ends
      refine ⟨rfl, List.forall_mem_cons.mpr ⟨⟨item, List.mem_cons_self, firstRead⟩, ?_⟩⟩
      intro result member
      obtain ⟨other, otherMember, otherRead⟩ := among result member
      exact ⟨other, List.mem_cons_of_mem _ otherMember, otherRead⟩

/-! Loading -/

/-- Whether two sources have the same package, or both have none, behind an import path. -/
structure Shares (left right : PackageSource) (importPath : String) : Prop where
  dir : right.dirOf? importPath = left.dirOf? importPath
  files : ∀ dir, left.dirOf? importPath = some dir → goFiles right.tree dir = goFiles left.tree dir
  texts : ∀ dir paths, left.dirOf? importPath = some dir → goFiles left.tree dir = .ok paths →
    ∀ path ∈ paths, readFile right.tree path = readFile left.tree path

section
variable {invariant clear : PackageCache → Prop} {first second : String → LoadM (Option PackageIndex)}

theorem bindImport_follows {spec : Import} (bindings : Bindings)
    (follows : Follows invariant clear (first spec.path) (second spec.path)) :
    Follows invariant clear (bindImport first bindings spec) (bindImport second bindings spec) := by
  unfold bindImport
  split
  · exact follows_pure _
  · split
    · exact follows_pure _
    · split
      · exact follows_bind (follows_pure _) fun _ => follows_pure _
      · exact follows_bind follows fun _ =>
          follows_bind (follows_pure _) fun _ => follows_pure _

theorem bindImports_follows {imports : List Import}
    (follows : ∀ spec ∈ imports, Follows invariant clear (first spec.path) (second spec.path)) :
    Follows invariant clear (bindImports first imports) (bindImports second imports) :=
  follows_foldlM (fun bindings spec member => bindImport_follows bindings (follows spec member)) {}

theorem buildIndex_follows (importPath : String) {files : List (String × Node)}
    (follows : ∀ file ∈ files, ∀ spec ∈ file.2.imports file.1,
      Follows invariant clear (first spec.path) (second spec.path)) :
    Follows invariant clear (buildIndex first importPath files)
      (buildIndex second importPath files) := by
  unfold buildIndex
  refine follows_bind (follows_mapM fun file member => ?_) fun _ => follows_pure _
  exact follows_bind (bindImports_follows (follows file member)) fun _ => follows_pure _

end

variable {left right : PackageSource} {clear : String → Prop}

/-- Whether the depths of two lookups are enough for all that was not asked for yet. -/
def Roomy (left right : PackageSource) (depth other : Nat) (cache : PackageCache) : Prop :=
  room (mentions left.tree) cache < depth ∧ room (mentions right.tree) cache < other

theorem Roomy.loaded {depth other : Nat} {before after : PackageCache}
    (roomy : Roomy left right depth other before) (loaded : Loaded before after) :
    Roomy left right depth other after :=
  ⟨Nat.lt_of_le_of_lt (room_loaded loaded) roomy.1, Nat.lt_of_le_of_lt (room_loaded loaded) roomy.2⟩

/-- Files with the same text in both sources are read alike. -/
theorem readAll_alike {paths : List Path} {files : List (String × Node)} {cache after : PackageCache}
    (texts : ∀ path ∈ paths, readFile right.tree path = readFile left.tree path)
    (read : runFrom (paths.mapM fun path => (liftM (readFile left.tree path) : LoadM _)) cache =
      (.ok files, after)) :
    runFrom (paths.mapM fun path => (liftM (readFile right.tree path) : LoadM _)) cache =
      (.ok files, after) := by
  have follows := @follows_mapM _ _ _ _ (fun _ => True) (fun _ => True)
    (fun path => (liftM (readFile left.tree path) : LoadM _))
    (fun path => (liftM (readFile right.tree path) : LoadM _)) paths fun path member => by
      rw [texts path member]
      exact follows_lift _
  exact ((follows _ _ _ trivial read).2 trivial).2

/-- What such files import is mentioned in both sources. -/
theorem mentioned_of_read {paths : List Path} {files : List (String × Node)}
    (texts : ∀ path ∈ paths, readFile right.tree path = readFile left.tree path)
    (read : ∀ file ∈ files, ∃ path ∈ paths, readFile left.tree path = .ok file) :
    ∀ file ∈ files, ∀ spec ∈ file.2.imports file.1,
      spec.path ∈ mentions left.tree ∧ spec.path ∈ mentions right.tree := by
  intro file member spec specMember
  obtain ⟨path, pathMember, leftRead⟩ := read file member
  have rightRead := (texts path pathMember).trans leftRead
  exact ⟨mem_mentions leftRead specMember, mem_mentions rightRead specMember⟩

/-- A package that both sources share is loaded alike when those are that it imports. -/
theorem loadPackage_follows (shares : ∀ path, clear path → Shares left right path) {depth other : Nat}
    {importPath : String} {cache after : PackageCache} {value : Option PackageIndex}
    (nested : ∀ path ∈ mentions left.tree, path ∈ mentions right.tree →
      Follows (Roomy left right depth other) (AllAsked clear) (packageWithin left depth path)
        (packageWithin right other path))
    (roomy : Roomy left right depth other (cache.set importPath none))
    (ran : runFrom (loadPackage left (packageWithin left depth) importPath) cache = (.ok value, after))
    (isClear : after.AllAsked clear) :
    cache.AllAsked clear ∧
      runFrom (loadPackage right (packageWithin right other) importPath) cache = (.ok value, after) := by
  have shared : ∀ {later : PackageCache} {value}, (later.set importPath value).AllAsked clear →
      Shares left right importPath :=
    fun isClear => shares importPath (isClear importPath (by rw [known?_set, if_pos rfl]; rfl))
  unfold loadPackage at ran ⊢
  obtain ⟨_, start, changed, ran⟩ := runFrom_bind_ok ran
  rw [runFrom_bind_of_ok changed]
  cases changed
  split at ran
  · rename_i missing
    cases ran
    rw [(shared isClear).dir, missing]
    exact ⟨isClear.of_set, rfl⟩
  · rename_i dir found
    obtain ⟨paths, second, lists, ran⟩ := runFrom_bind_ok ran
    rw [runFrom_lift] at lists
    obtain ⟨listed, rfl⟩ := Prod.mk.inj lists
    split at ran
    · rename_i empty
      cases ran
      rw [(shared isClear).dir, found]
      refine ⟨isClear.of_set, ?_⟩
      dsimp only
      rw [(shared isClear).files dir found, listed]
      exact (runFrom_bind_of_ok (runFrom_lift _ _) _).trans (by rw [if_pos empty]; rfl)
    · rename_i filled
      obtain ⟨files, third, read, ran⟩ := runFrom_bind_ok ran
      obtain ⟨rfl, among⟩ := mem_of_readAll read
      obtain ⟨index, fourth, built, ran⟩ := runFrom_bind_ok ran
      obtain ⟨_, last, changed, ran⟩ := runFrom_bind_ok ran
      cases changed
      cases ran
      -- The files have one text on both sides, so their imports are mentioned on both.
      have texts := (shared isClear).texts dir paths found listed
      have mentioned := mentioned_of_read texts among
      obtain ⟨_, follows⟩ := buildIndex_follows importPath (fun file member spec specMember =>
        let ⟨first, second⟩ := mentioned file member spec specMember
        nested spec.path first second) _ _ _ roomy built
      obtain ⟨clearMiddle, builtRight⟩ := follows isClear.of_set
      refine ⟨clearMiddle.of_set, ?_⟩
      rw [(shared isClear).dir, found]
      dsimp only
      rw [(shared isClear).files dir found, listed]
      refine (runFrom_bind_of_ok (runFrom_lift _ _) _).trans ?_
      rw [if_neg filled]
      refine (runFrom_bind_of_ok (readAll_alike texts read) _).trans ?_
      exact (runFrom_bind_of_ok builtRight _).trans rfl

theorem packageWithin_follows (shares : ∀ path, clear path → Shares left right path) (depth : Nat) :
    ∀ other, ∀ path ∈ mentions left.tree, path ∈ mentions right.tree →
      Follows (Roomy left right depth other) (AllAsked clear) (packageWithin left depth path)
        (packageWithin right other path) := by
  induction depth with
  | zero =>
      intro other path _ _ cache value after roomy
      exact absurd roomy.1 (Nat.not_lt_zero _)
  | succ depth ih =>
      intro other path member otherMember cache value after roomy ran
      cases other with
      | zero => exact absurd roomy.2 (Nat.not_lt_zero _)
      | succ other =>
          have loaded := (packageWithin_loaded left _ path _ _ _ ran).1
          refine ⟨roomy.loaded loaded, fun isClear => ?_⟩
          rw [packageWithin, runFrom_bind, runFrom_get] at ran ⊢
          dsimp only at ran ⊢
          cases found : Assoc.find? path cache.entries with
          | some known =>
              rw [found] at ran
              cases ran
              exact ⟨isClear, rfl⟩
          | none =>
              rw [found] at ran
              refine loadPackage_follows shares (ih other) ⟨?_, ?_⟩ ran isClear
              · exact Nat.lt_of_lt_of_le (room_set_lt member found) (Nat.le_of_lt_succ roomy.1)
              · exact Nat.lt_of_lt_of_le (room_set_lt otherMember found) (Nat.le_of_lt_succ roomy.2)

/-- A package is looked up alike in sources that share all packages which are asked for. -/
theorem package_follows (shares : ∀ path, clear path → Shares left right path) (path : String) :
    Follows (fun _ => True) (AllAsked clear) (left.package path) (right.package path) := by
  intro cache value after _ ran
  refine ⟨trivial, fun isClear => ?_⟩
  rw [package, runFrom_bind, runFrom_get] at ran ⊢
  dsimp only at ran ⊢
  cases found : Assoc.find? path cache.entries with
  | some known =>
      rw [found] at ran
      cases ran
      exact ⟨isClear, rfl⟩
  | none =>
      rw [found] at ran
      dsimp only at ran ⊢
      rw [importBound, packageWithin, runFrom_bind, runFrom_get] at ran ⊢
      dsimp only at ran ⊢
      rw [found] at ran ⊢
      exact loadPackage_follows shares (packageWithin_follows shares _ _)
        ⟨Nat.lt_succ_of_le (room_le _ _), Nat.lt_succ_of_le (room_le _ _)⟩ ran isClear

theorem bindings_follows (shares : ∀ path, clear path → Shares left right path)
    (imports : List Import) :
    Follows (fun _ => True) (AllAsked clear) (left.bindings imports) (right.bindings imports) :=
  bindImports_follows fun spec _ => package_follows shares spec.path

end PackageSource
end AspectLoom
