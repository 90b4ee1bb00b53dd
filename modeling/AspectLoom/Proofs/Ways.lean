import AspectLoom.Proofs.TreeWalks
/-!
Ways to a place that may still be missing. A way enters directories, made or not, and crosses links.
Once all that it enters is there, it is what a walk does, and nothing else is left of a walk that
goes on behind it.
-/
namespace AspectLoom.FileTree

/-- A way over some pieces from one place to another. It lists the places that it enters, which need
not exist yet, and the links that it crosses. -/
inductive Way (tree : FileTree) :
    Place → List String → Place → List Place → List Place → Prop where
  | stay (place : Place) : Way tree place [] place [] []
  | here {place stop : Place} {pieces : List String} {entered crossed : List Place}
      (onward : Way tree place pieces stop entered crossed) :
      Way tree place ("." :: pieces) stop entered crossed
  | up {place stop : Place} {pieces : List String} {entered crossed : List Place}
      (onward : Way tree place.dropLast pieces stop entered crossed) :
      Way tree place (".." :: pieces) stop entered crossed
  | into {place stop : Place} {piece : String} {pieces : List String} {entered crossed : List Place}
      (isStep : IsStep piece)
      (noLink : ∀ target, tree.entryAt? (place ++ [piece]) ≠ some (.link target))
      (onward : Way tree (place ++ [piece]) pieces stop entered crossed) :
      Way tree place (piece :: pieces) stop ((place ++ [piece]) :: entered) crossed
  | through {place stop : Place} {piece target : String} {pieces : List String}
      {entered crossed : List Place} (isStep : IsStep piece)
      (link : tree.entryAt? (place ++ [piece]) = some (.link target))
      (onward : Way tree (linkBase place target) (steps target ++ pieces) stop entered crossed) :
      Way tree place (piece :: pieces) stop entered ((place ++ [piece]) :: crossed)

namespace Way

variable {tree other : FileTree} {start stop next : Place} {pieces rest : List String}
  {entered crossed : List Place} {follow : Bool} {links : Nat}

theorem stays (way : tree.Way start [] stop entered crossed) :
    stop = start ∧ entered = [] ∧ crossed = [] := by
  cases way
  exact ⟨rfl, rfl, rfl⟩

/-- A walk that goes on behind a way has found all that the way enters. -/
theorem walk_onward (way : tree.Way start pieces stop entered crossed) (more : rest ≠ [])
    (walked : tree.walk follow links start (pieces ++ rest) = .ok next) :
    (∀ place ∈ entered, tree.entryAt? place = some .directory) ∧
      ∃ left, links = left + crossed.length ∧ tree.walk follow left stop rest = .ok next := by
  induction way generalizing links with
  | stay place => exact ⟨List.forall_mem_nil _, links, rfl, walked⟩
  | here onward ih => exact ih (walk_here .. ▸ walked)
  | up onward ih => exact ih (walk_up .. ▸ walked)
  | into isStep noLink onward ih =>
      obtain ⟨_, ⟨_, none, _⟩ | ⟨directory, walked⟩ | ⟨target, fewer, link, _⟩⟩ :=
        walk_step_ok isStep walked
      · exact absurd (List.append_eq_nil_iff.mp none).2 more
      · obtain ⟨found, left, same, walked⟩ := ih walked
        exact ⟨List.forall_mem_cons.mpr ⟨directory, found⟩, left, same, walked⟩
      · exact absurd link (noLink target)
  | through isStep link onward ih =>
      rw [List.cons_append] at walked
      obtain ⟨_, ⟨_, none, _⟩ | ⟨directory, _⟩ | ⟨target, fewer, same, rfl, walked⟩⟩ :=
        walk_step_ok isStep walked
      · exact absurd (List.append_eq_nil_iff.mp none).2 more
      · rw [link] at directory
        cases directory
      · rw [link] at same
        cases same
        rw [← List.append_assoc] at walked
        obtain ⟨found, left, same, walked⟩ := ih walked
        exact ⟨found, left, by rw [same, List.length_cons, Nat.add_assoc], walked⟩

/-- A walk that follows a way to a directory has found all that the way enters. -/
theorem walk_directory (way : tree.Way start pieces stop entered crossed)
    (walked : tree.walk true links start pieces = .ok next)
    (directory : tree.entryAt? next = some .directory) :
    next = stop ∧ crossed.length ≤ links ∧
      ∀ place ∈ entered, tree.entryAt? place = some .directory := by
  obtain ⟨left, _, same⟩ := walk_append walked directory
  have onward := same true ["."] (by simp)
  rw [walk_here, walk_nil] at onward
  obtain ⟨found, left, count, walked⟩ := way.walk_onward (by simp) onward
  rw [walk_here, walk_nil] at walked
  cases walked
  exact ⟨rfl, by omega, found⟩

/-- Where a walk over a way finds nothing, the way ends, and nothing else on it is missing. -/
theorem walk_missing (sound : tree.Sound) (way : tree.Way start pieces stop entered crossed)
    (directory : tree.entryAt? start = some .directory)
    (walked : tree.walk follow links start pieces = .ok next)
    (missing : tree.entryAt? next = none) :
    next = stop ∧ next ∈ entered ∧ crossed.length ≤ links ∧
      ∀ place ∈ entered, place = next ∨ tree.entryAt? place = some .directory := by
  induction way generalizing links with
  | stay place =>
      cases (walk_nil ..).symm.trans walked
      rw [directory] at missing
      cases missing
  | here onward ih => exact ih directory (walk_here .. ▸ walked)
  | up onward ih => exact ih (dropLast_directory sound directory) (walk_up .. ▸ walked)
  | into isStep noLink onward ih =>
      obtain ⟨_, ⟨rfl, none, _⟩ | ⟨directory, walked⟩ | ⟨target, fewer, link, _⟩⟩ :=
        walk_step_ok isStep walked
      · subst none
        cases onward
        exact ⟨rfl, List.mem_cons_self, Nat.zero_le _, by simp⟩
      · obtain ⟨same, member, few, others⟩ := ih directory walked
        exact ⟨same, List.mem_cons_of_mem _ member, few,
          List.forall_mem_cons.mpr ⟨.inr directory, others⟩⟩
      · exact absurd link (noLink target)
  | through isStep link onward ih =>
      obtain ⟨_, ⟨rfl, _⟩ | ⟨directory, _⟩ | ⟨target, fewer, same, rfl, walked⟩⟩ :=
        walk_step_ok isStep walked
      · rw [link] at missing
        cases missing
      · rw [link] at directory
        cases directory
      · rw [link] at same
        cases same
        obtain ⟨same, member, few, others⟩ := ih (linkBase_directory directory) walked
        exact ⟨same, member, Nat.succ_le_succ few, others⟩

/-- A walk goes the way when all that it enters is there. -/
theorem walk_along (sound : tree.Sound) (way : tree.Way start pieces stop entered crossed)
    (found : ∀ place ∈ entered, tree.entryAt? place = some .directory)
    (goes : rest ≠ [] ∨ follow = true) (left : Nat) :
    tree.walk follow (left + crossed.length) start (pieces ++ rest) =
      tree.walk follow left stop rest := by
  induction way with
  | stay place => rfl
  | here onward ih => exact (walk_here ..).trans (ih found)
  | up onward ih => exact (walk_up ..).trans (ih found)
  | into isStep noLink onward ih =>
      obtain ⟨directory, others⟩ := List.forall_mem_cons.mp found
      exact (walk_into sound directory _).trans (ih others)
  | @through place stop piece target others entered crossed isStep link onward ih =>
      have isName := sound.isEntryName link
      have short := (Path.isEntryName_iff.mp isName).2.2.2.2
      have follows : ((others ++ rest).isEmpty && !follow) = false := by
        rcases goes with more | rfl
        · simp [more]
        · simp
      rw [List.cons_append, walk_step _ _ _ _ isStep, if_neg (Nat.not_lt.mpr short), link]
      dsimp only
      rw [follows, if_neg Bool.false_ne_true, ← List.append_assoc]
      exact ih found

/-- A walk that does not follow a last link stops at something that exists as well. -/
theorem walk_existing (sound : tree.Sound) (way : tree.Way start pieces stop entered crossed)
    (directory : tree.entryAt? start = some .directory)
    (found : ∀ place ∈ entered, tree.entryAt? place = some .directory) (left : Nat) :
    ∃ next entry, tree.walk false (left + crossed.length) start pieces = .ok next ∧
      tree.entryAt? next = some entry := by
  induction way with
  | stay place => exact ⟨place, .directory, walk_nil .., directory⟩
  | here onward ih =>
      rw [walk_here]
      exact ih directory found
  | up onward ih =>
      rw [walk_up]
      exact ih (dropLast_directory sound directory) found
  | into isStep noLink onward ih =>
      obtain ⟨directory, others⟩ := List.forall_mem_cons.mp found
      rw [walk_into sound directory]
      exact ih directory others
  | @through place stop piece target others entered crossed isStep link onward ih =>
      have isName := sound.isEntryName link
      cases others with
      | nil => exact ⟨place ++ [piece], _, walk_name isName (by simp), link⟩
      | cons first others =>
          have short := (Path.isEntryName_iff.mp isName).2.2.2.2
          rw [walk_step _ _ _ _ isStep, if_neg (Nat.not_lt.mpr short), link]
          exact ih (linkBase_directory directory) found

/-- A walk that goes on behind a way looks at what the way enters and crosses and at what comes then. -/
theorem visits_onward (way : tree.Way start pieces stop entered crossed)
    (found : ∀ place ∈ entered, tree.entryAt? place = some .directory) (left : Nat) :
    ∀ place ∈ tree.visits (left + crossed.length) start (pieces ++ rest),
      place ∈ entered ∨ place ∈ crossed ∨ place ∈ tree.visits left stop rest := by
  induction way with
  | stay place => exact fun place visited => .inr (.inr visited)
  | here onward ih => exact fun place visited => ih found place (visits_here .. ▸ visited)
  | up onward ih => exact fun place visited => ih found place (visits_up .. ▸ visited)
  | @into place stop piece pieces entered crossed isStep noLink onward ih =>
      obtain ⟨directory, others⟩ := List.forall_mem_cons.mp found
      intro other visited
      by_cases short : piece.utf8ByteSize ≤ maxNameSize
      · rw [List.cons_append, visits_step _ _ _ isStep short, directory] at visited
        rcases List.mem_cons.mp visited with rfl | visited
        · exact .inl List.mem_cons_self
        · exact (ih others other visited).imp_left (List.mem_cons_of_mem _)
      · rw [List.cons_append, visits_long _ _ _ isStep (Nat.lt_of_not_le short)] at visited
        cases visited
  | @through place stop piece target pieces entered crossed isStep link onward ih =>
      intro other visited
      by_cases short : piece.utf8ByteSize ≤ maxNameSize
      · rw [List.cons_append, visits_step _ _ _ isStep short, link] at visited
        rcases List.mem_cons.mp visited with rfl | visited
        · exact .inr (.inl List.mem_cons_self)
        · change other ∈ tree.visits (left + crossed.length) (linkBase place target)
            (steps target ++ (pieces ++ rest)) at visited
          rw [← List.append_assoc] at visited
          exact (ih found other visited).imp_right fun more => more.imp_left (List.mem_cons_of_mem _)
      · rw [List.cons_append, visits_long _ _ _ isStep (Nat.lt_of_not_le short)] at visited
        cases visited

/-- A way is still there when its links are and no link has come where it enters. -/
theorem transport (way : tree.Way start pieces stop entered crossed)
    (noLinks : ∀ place ∈ entered, ∀ target, other.entryAt? place ≠ some (.link target))
    (links : ∀ place ∈ crossed, other.entryAt? place = tree.entryAt? place) :
    other.Way start pieces stop entered crossed := by
  induction way with
  | stay place => exact .stay place
  | here onward ih => exact .here (ih noLinks links)
  | up onward ih => exact .up (ih noLinks links)
  | into isStep noLink onward ih =>
      obtain ⟨first, others⟩ := List.forall_mem_cons.mp noLinks
      exact .into isStep first (ih others links)
  | through isStep link onward ih =>
      obtain ⟨first, others⟩ := List.forall_mem_cons.mp links
      exact .through isStep (first.trans link) (ih noLinks others)

/-- What a way enters is no link. -/
theorem noLink (way : tree.Way start pieces stop entered crossed) {place : Place}
    (member : place ∈ entered) (target : String) :
    tree.entryAt? place ≠ some (.link target) := by
  induction way with
  | stay place => cases member
  | here onward ih => exact ih member
  | up onward ih => exact ih member
  | into isStep noLink onward ih =>
      rcases List.mem_cons.mp member with rfl | later
      · exact noLink target
      · exact ih later
  | through isStep link onward ih => exact ih member

theorem link (way : tree.Way start pieces stop entered crossed) {place : Place}
    (member : place ∈ crossed) : ∃ target, tree.entryAt? place = some (.link target) := by
  induction way with
  | stay place => cases member
  | here onward ih => exact ih member
  | up onward ih => exact ih member
  | into isStep noLink onward ih => exact ih member
  | through isStep link onward ih =>
      rcases List.mem_cons.mp member with rfl | later
      · exact ⟨_, link⟩
      · exact ih later

/-- The way over the first pieces. A link puts its own pieces in front of those that are left. -/
theorem front {all : List String} (way : tree.Way start all stop entered crossed)
    (split : all = pieces ++ rest) :
    ∃ middle first links, tree.Way start pieces middle first links ∧ first ⊆ entered := by
  induction way generalizing pieces with
  | stay place =>
      obtain ⟨rfl, _⟩ := List.append_eq_nil_iff.mp split.symm
      exact ⟨place, [], [], .stay place, List.Subset.refl _⟩
  | @here place _ _ _ _ onward ih =>
      cases pieces with
      | nil => exact ⟨place, [], [], .stay place, List.nil_subset _⟩
      | cons piece pieces =>
          obtain ⟨rfl, same⟩ := List.cons.inj split
          obtain ⟨middle, first, links, way, fewer⟩ := ih same
          exact ⟨middle, first, links, .here way, fewer⟩
  | @up place _ _ _ _ onward ih =>
      cases pieces with
      | nil => exact ⟨place, [], [], .stay place, List.nil_subset _⟩
      | cons piece pieces =>
          obtain ⟨rfl, same⟩ := List.cons.inj split
          obtain ⟨middle, first, links, way, fewer⟩ := ih same
          exact ⟨middle, first, links, .up way, fewer⟩
  | @into place _ _ _ _ _ isStep noLink onward ih =>
      cases pieces with
      | nil => exact ⟨place, [], [], .stay place, List.nil_subset _⟩
      | cons piece pieces =>
          obtain ⟨rfl, same⟩ := List.cons.inj split
          obtain ⟨middle, first, links, way, fewer⟩ := ih same
          exact ⟨middle, _, links, .into isStep noLink way, List.cons_subset_cons _ fewer⟩
  | @through place _ _ target _ _ _ isStep link onward ih =>
      cases pieces with
      | nil => exact ⟨place, [], [], .stay place, List.nil_subset _⟩
      | cons piece pieces =>
          rw [List.cons_append] at split
          obtain ⟨rfl, same⟩ := List.cons.inj split
          obtain ⟨middle, first, links, way, fewer⟩ :=
            ih (by rw [same, List.append_assoc])
          exact ⟨middle, first, _, .through isStep link way, fewer⟩

end Way

end AspectLoom.FileTree
