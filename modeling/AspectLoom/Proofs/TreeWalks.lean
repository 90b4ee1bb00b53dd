import AspectLoom.Proofs.Entries
import AspectLoom.Proofs.PathSegments
/-!
Walks through a file tree. A walk is a walk over a first part of its steps and one from there on, and
it depends on the places that it looks at only.
-/
namespace AspectLoom.FileTree

/-- A tree as a file system holds it: every place has a name, occurs once and is in a directory, and
so is the working directory. -/
structure Sound (tree : FileTree) : Prop where
  distinct : (tree.entries.map Prod.fst).Nodup
  named : ∀ entry ∈ tree.entries, ∀ name ∈ entry.1, isEntryName name = true
  closed : ∀ entry ∈ tree.entries, tree.entryAt? entry.1.dropLast = some .directory
  workDir : tree.entryAt? tree.workDir = some .directory

/-- Where something stands or can be put. -/
structure Fits (tree : FileTree) (place : Place) : Prop where
  parent : tree.entryAt? place.dropLast = some .directory
  named : ∀ name, place.getLast? = some name → isEntryName name = true

variable {tree other : FileTree} {place next : Place} {name : String}

theorem entryAt?_nil (tree : FileTree) : tree.entryAt? [] = some .directory := rfl

theorem entryAt?_of_ne_nil (filled : place ≠ []) :
    tree.entryAt? place = Assoc.find? place tree.entries := by
  cases place with
  | nil => exact absurd rfl filled
  | cons first rest => rfl

theorem mem_entries {entry : Entry} (filled : place ≠ [])
    (stands : tree.entryAt? place = some entry) : (place, entry) ∈ tree.entries :=
  Assoc.mem_of_find? (entryAt?_of_ne_nil filled ▸ stands)

theorem noLink_of_entries (noLinks : ∀ entry ∈ tree.entries, ∀ target, entry.2 ≠ .link target)
    (place : Place) (target : String) : tree.entryAt? place ≠ some (.link target) := by
  intro link
  cases place with
  | nil => cases link
  | cons first rest => exact noLinks _ (mem_entries (List.cons_ne_nil _ _) link) target rfl

/-- Where no entry is below a place, nothing stands there. -/
theorem vacant_of_entries (filled : place ≠ []) (apart : ∀ entry ∈ tree.entries, ¬ place <+: entry.1)
    (names : List String) : tree.entryAt? (place ++ names) = none := by
  by_contra found
  obtain ⟨entry, stands⟩ := Option.ne_none_iff_exists'.mp found
  exact apart _ (mem_entries (by simp [filled]) stands) (List.prefix_append _ _)

namespace Sound

theorem fits (sound : tree.Sound) {entry : Entry} (stands : tree.entryAt? place = some entry) :
    tree.Fits place := by
  by_cases filled : place = []
  · subst filled
    exact ⟨rfl, by simp⟩
  · have member := mem_entries filled stands
    exact ⟨sound.closed _ member, fun name last => sound.named _ member name
      (List.mem_of_getLast? last)⟩

theorem parent (sound : tree.Sound) {entry : Entry}
    (stands : tree.entryAt? (place ++ [name]) = some entry) :
    tree.entryAt? place = some .directory := by
  have fits := (sound.fits stands).parent
  rwa [List.dropLast_concat] at fits

theorem isEntryName (sound : tree.Sound) {entry : Entry}
    (stands : tree.entryAt? (place ++ [name]) = some entry) : isEntryName name = true :=
  (sound.fits stands).named name List.getLast?_concat

/-- Whatever something stands below of is a directory. -/
theorem above (sound : tree.Sound) {below : Place} {entry : Entry} (starts : place <+: below)
    (different : place ≠ below) (stands : tree.entryAt? below = some entry) :
    tree.entryAt? place = some .directory := by
  obtain ⟨names, rfl⟩ := starts
  induction names using List.reverseRecOn generalizing entry with
  | nil => simp at different
  | append_singleton names name ih =>
      rw [← List.append_assoc] at stands
      have parent := sound.parent stands
      cases names with
      | nil => rwa [List.append_nil] at parent
      | cons first rest => exact ih (by simp) parent

end Sound

/-! Steps of a walk -/

/-- What a walk does behind a link. -/
def walkBehind (tree : FileTree) (follow : Bool) :
    Nat → Place → List String → Except FileError Place
  | 0, _, _ => .error .tooManyLinks
  | links + 1, place, pieces => tree.walk follow links place pieces

/-- Where the target of a link in a directory is walked from. -/
def linkBase (place : Place) (target : String) : Place :=
  if target.startsWith "/" then [] else place

theorem walk_nil (tree : FileTree) (follow : Bool) (links : Nat) (place : Place) :
    tree.walk follow links place [] = .ok place := by
  cases links <;> rfl

theorem walk_here (tree : FileTree) (follow : Bool) (links : Nat) (place : Place)
    (rest : List String) :
    tree.walk follow links place ("." :: rest) = tree.walk follow links place rest := by
  cases links <;> rfl

theorem walk_up (tree : FileTree) (follow : Bool) (links : Nat) (place : Place)
    (rest : List String) :
    tree.walk follow links place (".." :: rest) = tree.walk follow links place.dropLast rest := by
  cases links <;> rfl

/-- Whether a piece names an entry of a directory, be it too long. -/
def IsStep (piece : String) : Prop := piece ≠ "." ∧ piece ≠ ".."

instance (piece : String) : Decidable (IsStep piece) :=
  inferInstanceAs (Decidable (_ ∧ _))

theorem piece_cases (piece : String) : piece = "." ∨ piece = ".." ∨ IsStep piece := by
  by_cases here : piece = "."
  · exact .inl here
  · by_cases up : piece = ".."
    · exact .inr (.inl up)
    · exact .inr (.inr ⟨here, up⟩)

theorem walk_step (tree : FileTree) (follow : Bool) (links : Nat) (place : Place) {piece : String}
    (isStep : IsStep piece) (rest : List String) :
    tree.walk follow links place (piece :: rest) =
      if piece.utf8ByteSize > maxNameSize then .error .nameTooLong
      else
        match tree.entryAt? (place ++ [piece]) with
        | none => if rest.isEmpty then .ok (place ++ [piece]) else .error .notFound
        | some (.file _) => if rest.isEmpty then .ok (place ++ [piece]) else .error .notDirectory
        | some .directory => tree.walk follow links (place ++ [piece]) rest
        | some (.link target) =>
          if rest.isEmpty && !follow then .ok (place ++ [piece])
          else tree.walkBehind follow links (linkBase place target) (steps target ++ rest) := by
  cases links with
  | zero => rw [walk, walkWith, if_neg isStep.1, if_neg isStep.2]; rfl
  | succ links => rw [walk, walkWith, if_neg isStep.1, if_neg isStep.2]; rfl

/-- Walks by induction: a step comes before those behind it and before all with fewer links. -/
theorem walk_induction {motive : Nat → Place → List String → Prop}
    (stay : ∀ links place, motive links place [])
    (step : ∀ links place piece rest, (∀ place, motive links place rest) →
      (∀ fewer < links, ∀ place pieces, motive fewer place pieces) →
        motive links place (piece :: rest)) :
    ∀ links place pieces, motive links place pieces := by
  intro links
  induction links using Nat.strong_induction_on with
  | _ links behind =>
      intro place pieces
      induction pieces generalizing place with
      | nil => exact stay links place
      | cons piece rest ih => exact step links place piece rest ih behind

/-- What a walk over a single step that succeeds has done. -/
theorem walk_step_ok {follow : Bool} {links : Nat} {piece : String} {rest : List String}
    (isStep : IsStep piece) (walked : tree.walk follow links place (piece :: rest) = .ok next) :
    piece.utf8ByteSize ≤ maxNameSize ∧
    ((next = place ++ [piece] ∧ rest = [] ∧ tree.entryAt? next ≠ some .directory ∧
        (follow = true → ∀ target, tree.entryAt? next ≠ some (.link target))) ∨
      (tree.entryAt? (place ++ [piece]) = some .directory ∧
        tree.walk follow links (place ++ [piece]) rest = .ok next) ∨
      ∃ target fewer, tree.entryAt? (place ++ [piece]) = some (.link target) ∧ links = fewer + 1 ∧
        tree.walk follow fewer (linkBase place target) (steps target ++ rest) = .ok next) := by
  rw [walk_step _ _ _ _ isStep] at walked
  split at walked
  · cases walked
  rename_i short
  refine ⟨Nat.le_of_not_lt short, ?_⟩
  split at walked
  · rename_i missing
    split at walked
    · rename_i last
      cases walked
      exact .inl ⟨rfl, by simpa using last, by simp [missing], by simp [missing]⟩
    · cases walked
  · rename_i bytes file
    split at walked
    · rename_i last
      cases walked
      exact .inl ⟨rfl, by simpa using last, by simp [file], by simp [file]⟩
    · cases walked
  · rename_i directory
    exact .inr (.inl ⟨directory, walked⟩)
  · rename_i target link
    split at walked
    · rename_i last
      cases walked
      rw [Bool.and_eq_true, Bool.not_eq_true'] at last
      exact .inl ⟨rfl, by simpa using last.1, by simp [link], by simp [last.2]⟩
    · cases links with
      | zero => cases walked
      | succ fewer => exact .inr (.inr ⟨target, fewer, link, rfl, walked⟩)

theorem walk_into (sound : tree.Sound) {follow : Bool} {links : Nat}
    (directory : tree.entryAt? (place ++ [name]) = some .directory) (rest : List String) :
    tree.walk follow links place (name :: rest) =
      tree.walk follow links (place ++ [name]) rest := by
  obtain ⟨_, _, notHere, notUp, short⟩ := Path.isEntryName_iff.mp (sound.isEntryName directory)
  rw [walk_step _ _ _ _ ⟨notHere, notUp⟩, if_neg (Nat.not_lt.mpr short), directory]

/-- A walk down directories. -/
theorem walk_down (sound : tree.Sound) {follow : Bool} {links : Nat} (names : List String)
    (directories : ∀ front, front <+: names → front ≠ [] →
      tree.entryAt? (place ++ front) = some .directory) (rest : List String) :
    tree.walk follow links place (names ++ rest) = tree.walk follow links (place ++ names) rest := by
  induction names generalizing place with
  | nil => rw [List.nil_append, List.append_nil]
  | cons name names ih =>
      have first := directories [name] (by simp) (by simp)
      rw [List.cons_append, walk_into sound first, ih, List.append_assoc, List.singleton_append]
      intro front starts filled
      rw [List.append_assoc, List.singleton_append]
      exact directories (name :: front) ((List.prefix_cons_inj name).mpr starts) (by simp)

/-- A last piece leads to its place unless it is too long or a link to be followed. -/
theorem walk_last {follow : Bool} {links : Nat} {piece : String} (isStep : IsStep piece)
    (stays : follow = true → ∀ target, tree.entryAt? (place ++ [piece]) ≠ some (.link target)) :
    tree.walk follow links place [piece] =
      if piece.utf8ByteSize > maxNameSize then .error .nameTooLong else .ok (place ++ [piece]) := by
  rw [walk_step _ _ _ _ isStep]
  split
  · rfl
  split
  · rfl
  · rfl
  · rw [walk_nil]
  · rename_i target link
    cases follow with
    | false => rfl
    | true => exact absurd link (stays rfl target)

/-- A last name leads to its place. -/
theorem walk_name {follow : Bool} {links : Nat} (isName : isEntryName name = true)
    (stays : follow = true → ∀ target, tree.entryAt? (place ++ [name]) ≠ some (.link target)) :
    tree.walk follow links place [name] = .ok (place ++ [name]) := by
  obtain ⟨_, _, notHere, notUp, short⟩ := Path.isEntryName_iff.mp isName
  rw [walk_last ⟨notHere, notUp⟩ stays, if_neg (Nat.not_lt.mpr short)]

/-! Where walks end -/

/-- Pieces as they stand between slashes. -/
def ArePieces (pieces : List String) : Prop := ∀ piece ∈ pieces, piece ≠ "" ∧ '/' ∉ piece.toList

theorem arePieces_steps (text : String) : ArePieces (steps text) :=
  fun _ member => Path.mem_steps member

theorem arePieces_append {left right : List String} (first : ArePieces left)
    (second : ArePieces right) : ArePieces (left ++ right) :=
  fun piece member => (List.mem_append.mp member).elim (first piece) (second piece)

theorem linkBase_directory {target : String} (directory : tree.entryAt? place = some .directory) :
    tree.entryAt? (linkBase place target) = some .directory := by
  rw [linkBase]
  split
  · rfl
  · exact directory

theorem dropLast_directory (sound : tree.Sound) (directory : tree.entryAt? place = some .directory) :
    tree.entryAt? place.dropLast = some .directory := (sound.fits directory).parent

/-- A walk from a directory ends where something stands or can be put. -/
theorem walk_fits (sound : tree.Sound) {follow : Bool} (links : Nat) (place : Place)
    (pieces : List String) (arePieces : ArePieces pieces)
    (directory : tree.entryAt? place = some .directory)
    (walked : tree.walk follow links place pieces = .ok next) : tree.Fits next := by
  induction links, place, pieces using walk_induction generalizing next with
  | stay links place =>
      cases (walk_nil tree follow links place).symm.trans walked
      exact sound.fits directory
  | step links place piece rest ih behind =>
      obtain ⟨⟨filled, clean⟩, restPieces⟩ := List.forall_mem_cons.mp arePieces
      rcases piece_cases piece with rfl | rfl | isStep
      · exact ih place restPieces directory (walk_here tree follow links place rest ▸ walked)
      · exact ih _ restPieces (dropLast_directory sound directory)
          (walk_up tree follow links place rest ▸ walked)
      · obtain ⟨short, ⟨rfl, _⟩ | ⟨into, onward⟩ | ⟨target, fewer, link, rfl, onward⟩⟩ :=
          walk_step_ok isStep walked
        · refine ⟨by rwa [List.dropLast_concat], fun name last => ?_⟩
          rw [List.getLast?_concat, Option.some.injEq] at last
          subst last
          exact Path.isEntryName_iff.mpr ⟨clean, filled, isStep.1, isStep.2, short⟩
        · exact ih _ restPieces into onward
        · exact behind fewer (Nat.lt_succ_self _) _ _
            (arePieces_append (arePieces_steps target) restPieces) (linkBase_directory directory)
            onward

/-- A walk with a `.` at its end ends at a directory. -/
theorem walk_dot (sound : tree.Sound) {follow : Bool} (links : Nat) (place : Place)
    (pieces : List String) (directory : tree.entryAt? place = some .directory)
    (walked : tree.walk follow links place (pieces ++ ["."]) = .ok next) :
    tree.entryAt? next = some .directory := by
  induction links, place, pieces using walk_induction generalizing next with
  | stay links place =>
      rw [List.nil_append, walk_here, walk_nil] at walked
      cases walked
      exact directory
  | step links place piece rest ih behind =>
      rw [List.cons_append] at walked
      rcases piece_cases piece with rfl | rfl | isStep
      · exact ih place directory (walk_here tree follow links place _ ▸ walked)
      · exact ih _ (dropLast_directory sound directory)
          (walk_up tree follow links place _ ▸ walked)
      · obtain ⟨_, ⟨_, none, _⟩ | ⟨into, onward⟩ | ⟨target, fewer, link, rfl, onward⟩⟩ :=
          walk_step_ok isStep walked
        · simp at none
        · exact ih _ into onward
        · rw [← List.append_assoc] at onward
          exact behind fewer (Nat.lt_succ_self _) _ _ (linkBase_directory directory) onward

/-- A `.` at the end of a walk that follows all links changes nothing. -/
theorem walk_of_dot {links : Nat} {pieces : List String}
    (walked : tree.walk true links place (pieces ++ ["."]) = .ok next) :
    tree.walk true links place pieces = .ok next := by
  induction links, place, pieces using walk_induction with
  | stay links place => rwa [List.nil_append, walk_here] at walked
  | step links place piece rest ih behind =>
      rw [List.cons_append] at walked
      rcases piece_cases piece with rfl | rfl | isStep
      · rw [walk_here] at walked ⊢
        exact ih _ walked
      · rw [walk_up] at walked ⊢
        exact ih _ walked
      · obtain ⟨short, ⟨_, none, _⟩ | ⟨into, onward⟩ | ⟨target, fewer, link, rfl, onward⟩⟩ :=
          walk_step_ok isStep walked
        · simp at none
        · rw [walk_step _ _ _ _ isStep, if_neg (Nat.not_lt.mpr short), into]
          exact ih _ onward
        · rw [walk_step _ _ _ _ isStep, if_neg (Nat.not_lt.mpr short), link]
          dsimp only
          rw [Bool.not_true, Bool.and_false, if_neg Bool.false_ne_true, walkBehind]
          rw [← List.append_assoc] at onward
          exact behind fewer (Nat.lt_succ_self _) _ _ onward

/-- A `.` before the last step changes nothing. -/
theorem walk_without_dots {follow : Bool} (links : Nat) (place : Place) (pieces : List String)
    {rest : List String} (more : rest ≠ []) :
    tree.walk follow links place (pieces.filter (· ≠ ".") ++ rest) =
      tree.walk follow links place (pieces ++ rest) := by
  induction links, place, pieces using walk_induction with
  | stay links place => rfl
  | step links place piece others ih behind =>
      by_cases here : piece = "."
      · subst here
        rw [List.cons_append, walk_here, ← ih]
        rfl
      rw [List.filter_cons_of_pos (by simpa using here), List.cons_append, List.cons_append]
      rcases piece_cases piece with here' | rfl | isStep
      · exact absurd here' here
      · rw [walk_up, walk_up, ih]
      · have behindLink : ∀ target base, tree.walkBehind follow links base
            (steps target ++ (others.filter (· ≠ ".") ++ rest)) =
              tree.walkBehind follow links base (steps target ++ (others ++ rest)) := by
          intro target base
          cases links with
          | zero => rfl
          | succ fewer =>
              -- Both ways go with all dots gone, those of the target too.
              have all := behind fewer (Nat.lt_succ_self _) base (steps target ++ others)
              have some := behind fewer (Nat.lt_succ_self _) base
                (steps target ++ others.filter (· ≠ "."))
              rw [List.filter_append, List.filter_filter] at some
              simp only [Bool.and_self] at some
              rw [List.filter_append, some] at all
              simpa only [walkBehind, List.append_assoc] using all
        rw [walk_step _ _ _ _ isStep, walk_step _ _ _ _ isStep]
        have fewer : (others.filter (· ≠ ".") ++ rest).isEmpty = false := by simp [more]
        have all : (others ++ rest).isEmpty = false := by simp [more]
        rw [fewer, all, ih]
        simp only [behindLink]

theorem walk_congr_dots {follow : Bool} {links : Nat} {left right rest : List String}
    (same : left.filter (· ≠ ".") = right.filter (· ≠ ".")) (more : rest ≠ []) :
    tree.walk follow links place (left ++ rest) = tree.walk follow links place (right ++ rest) := by
  rw [← walk_without_dots _ _ left more, same, walk_without_dots _ _ right more]

/-- A walk that leads to a directory goes on from there with the links that are left. -/
theorem walk_append {links : Nat} {pieces : List String}
    (walked : tree.walk true links place pieces = .ok next)
    (directory : tree.entryAt? next = some .directory) :
    ∃ left ≤ links, ∀ follow rest, rest ≠ [] →
      tree.walk follow links place (pieces ++ rest) = tree.walk follow left next rest := by
  induction links, place, pieces using walk_induction generalizing next with
  | stay links place =>
      cases (walk_nil tree true links place).symm.trans walked
      exact ⟨links, Nat.le_refl _, fun _ _ _ => rfl⟩
  | step links place piece others ih behind =>
      rcases piece_cases piece with rfl | rfl | isStep
      · rw [walk_here] at walked
        obtain ⟨left, few, same⟩ := ih place walked directory
        refine ⟨left, few, fun follow rest filled => ?_⟩
        rw [List.cons_append, walk_here, same follow rest filled]
      · rw [walk_up] at walked
        obtain ⟨left, few, same⟩ := ih _ walked directory
        refine ⟨left, few, fun follow rest filled => ?_⟩
        rw [List.cons_append, walk_up, same follow rest filled]
      · obtain ⟨short, ⟨rfl, _, stops, _⟩ | ⟨into, onward⟩ | ⟨target, fewer, link, rfl, onward⟩⟩ :=
          walk_step_ok isStep walked
        · exact absurd directory stops
        · obtain ⟨left, few, same⟩ := ih _ onward directory
          refine ⟨left, few, fun follow rest filled => ?_⟩
          rw [List.cons_append, walk_step _ _ _ _ isStep, if_neg (Nat.not_lt.mpr short), into]
          exact same follow rest filled
        · obtain ⟨left, few, same⟩ := behind fewer (Nat.lt_succ_self _) _ _ onward directory
          refine ⟨left, Nat.le_succ_of_le few, fun follow rest filled => ?_⟩
          have more : (others ++ rest).isEmpty = false := by simp [filled]
          rw [List.cons_append, walk_step _ _ _ _ isStep, if_neg (Nat.not_lt.mpr short), link]
          dsimp only
          rw [more, Bool.false_and, if_neg Bool.false_ne_true, walkBehind, ← List.append_assoc]
          exact same follow rest filled

/-- A walk that goes on has come to a directory. -/
theorem walk_front (sound : tree.Sound) {follow : Bool} {links : Nat} {pieces rest : List String}
    (directory : tree.entryAt? place = some .directory) (more : rest ≠ [])
    (walked : tree.walk follow links place (pieces ++ rest) = .ok next) :
    ∃ middle left, left ≤ links ∧ tree.walk true links place pieces = .ok middle ∧
      tree.entryAt? middle = some .directory ∧ tree.walk follow left middle rest = .ok next := by
  induction links, place, pieces using walk_induction with
  | stay links place => exact ⟨place, links, Nat.le_refl _, walk_nil .., directory, walked⟩
  | step links place piece others ih behind =>
      rw [List.cons_append] at walked
      rcases piece_cases piece with rfl | rfl | isStep
      · rw [walk_here] at walked ⊢
        exact ih place directory walked
      · rw [walk_up] at walked ⊢
        exact ih _ (dropLast_directory sound directory) walked
      · obtain ⟨short, ⟨_, none, _⟩ | ⟨into, onward⟩ | ⟨target, fewer, link, rfl, onward⟩⟩ :=
          walk_step_ok isStep walked
        · exact absurd (List.append_eq_nil_iff.mp none).2 more
        · rw [walk_step _ _ _ _ isStep, if_neg (Nat.not_lt.mpr short), into]
          exact ih _ into onward
        · rw [← List.append_assoc] at onward
          obtain ⟨middle, left, few, first, found, last⟩ :=
            behind fewer (Nat.lt_succ_self _) _ _ (linkBase_directory directory) onward
          refine ⟨middle, left, Nat.le_succ_of_le few, ?_, found, last⟩
          rw [walk_step _ _ _ _ isStep, if_neg (Nat.not_lt.mpr short), link]
          dsimp only
          rw [Bool.not_true, Bool.and_false, if_neg Bool.false_ne_true]
          exact first

/-! What walks look at -/

-- `again` goes on behind a link, as in a walk.
def visitsWith (tree : FileTree) (again : Place → List String → List Place) :
    Place → List String → List Place
  | _, [] => []
  | place, piece :: rest =>
    if piece = "." then visitsWith tree again place rest
    else if piece = ".." then visitsWith tree again place.dropLast rest
    else if piece.utf8ByteSize > maxNameSize then []
    else
      (place ++ [piece]) ::
        match tree.entryAt? (place ++ [piece]) with
        | some .directory => visitsWith tree again (place ++ [piece]) rest
        | some (.link target) => again (linkBase place target) (steps target ++ rest)
        | _ => []

/-- The places that a walk which follows all links looks at. -/
def visits (tree : FileTree) : Nat → Place → List String → List Place
  | 0 => visitsWith tree fun _ _ => []
  | links + 1 => visitsWith tree (visits tree links)

def visitsBehind (tree : FileTree) : Nat → Place → List String → List Place
  | 0, _, _ => []
  | links + 1, place, pieces => tree.visits links place pieces

theorem visits_nil (tree : FileTree) (links : Nat) (place : Place) :
    tree.visits links place [] = [] := by
  cases links <;> rfl

theorem visits_here (tree : FileTree) (links : Nat) (place : Place) (rest : List String) :
    tree.visits links place ("." :: rest) = tree.visits links place rest := by
  cases links <;> rfl

theorem visits_up (tree : FileTree) (links : Nat) (place : Place) (rest : List String) :
    tree.visits links place (".." :: rest) = tree.visits links place.dropLast rest := by
  cases links <;> rfl

theorem visits_step (tree : FileTree) (links : Nat) (place : Place) {piece : String}
    (isStep : IsStep piece) (short : piece.utf8ByteSize ≤ maxNameSize) (rest : List String) :
    tree.visits links place (piece :: rest) =
      (place ++ [piece]) ::
        match tree.entryAt? (place ++ [piece]) with
        | some .directory => tree.visits links (place ++ [piece]) rest
        | some (.link target) => tree.visitsBehind links (linkBase place target) (steps target ++ rest)
        | _ => [] := by
  have notLong := Nat.not_lt.mpr short
  cases links with
  | zero => rw [visits, visitsWith, if_neg isStep.1, if_neg isStep.2, if_neg notLong]; rfl
  | succ links => rw [visits, visitsWith, if_neg isStep.1, if_neg isStep.2, if_neg notLong]; rfl

theorem visits_long (tree : FileTree) (links : Nat) (place : Place) {piece : String}
    (isStep : IsStep piece) (long : maxNameSize < piece.utf8ByteSize) (rest : List String) :
    tree.visits links place (piece :: rest) = [] := by
  cases links with
  | zero => rw [visits, visitsWith, if_neg isStep.1, if_neg isStep.2, if_pos long]
  | succ links => rw [visits, visitsWith, if_neg isStep.1, if_neg isStep.2, if_pos long]

/-- Trees that hold the same at some places. -/
def AgreeOn (places : List Place) (tree other : FileTree) : Prop :=
  ∀ place ∈ places, other.entryAt? place = tree.entryAt? place

/-- A walk is the same in trees that hold the same where it looks. -/
theorem walk_congr (follow : Bool) (links : Nat) (place : Place) (pieces : List String)
    (agree : AgreeOn (tree.visits links place pieces) tree other) :
    other.walk follow links place pieces = tree.walk follow links place pieces := by
  induction links, place, pieces using walk_induction with
  | stay links place => rw [walk_nil, walk_nil]
  | step links place piece rest ih behind =>
      rcases piece_cases piece with rfl | rfl | isStep
      · rw [visits_here] at agree
        rw [walk_here, walk_here, ih place agree]
      · rw [visits_up] at agree
        rw [walk_up, walk_up, ih _ agree]
      · rw [walk_step _ _ _ _ isStep, walk_step _ _ _ _ isStep]
        split
        · rfl
        rename_i short
        rw [visits_step _ _ _ isStep (Nat.le_of_not_lt short)] at agree
        obtain ⟨here, later⟩ := List.forall_mem_cons.mp agree
        rw [here]
        cases stands : tree.entryAt? (place ++ [piece]) with
        | none => rfl
        | some entry =>
            rw [stands] at later
            cases entry with
            | file bytes => rfl
            | directory => exact ih _ later
            | link target =>
                dsimp only
                split
                · rfl
                · cases links with
                  | zero => rfl
                  | succ fewer => exact behind fewer (Nat.lt_succ_self _) _ _ later

/-- It looks at the same places there. -/
theorem visits_congr (links : Nat) (place : Place) (pieces : List String)
    (agree : AgreeOn (tree.visits links place pieces) tree other) :
    other.visits links place pieces = tree.visits links place pieces := by
  induction links, place, pieces using walk_induction with
  | stay links place => rw [visits_nil, visits_nil]
  | step links place piece rest ih behind =>
      rcases piece_cases piece with rfl | rfl | isStep
      · rw [visits_here] at agree
        rw [visits_here, visits_here, ih place agree]
      · rw [visits_up] at agree
        rw [visits_up, visits_up, ih _ agree]
      · by_cases short : piece.utf8ByteSize ≤ maxNameSize
        · rw [visits_step _ _ _ isStep short] at agree
          rw [visits_step _ _ _ isStep short, visits_step _ _ _ isStep short]
          obtain ⟨here, later⟩ := List.forall_mem_cons.mp agree
          rw [here]
          congr 1
          cases stands : tree.entryAt? (place ++ [piece]) with
          | none => rfl
          | some entry =>
              rw [stands] at later
              cases entry with
              | file bytes => rfl
              | directory => exact ih _ later
              | link target =>
                  cases links with
                  | zero => rfl
                  | succ fewer => exact behind fewer (Nat.lt_succ_self _) _ _ later
        · have long := Nat.lt_of_not_le short
          rw [visits_long _ _ _ isStep long, visits_long _ _ _ isStep long]

/-- What a walk that follows all links finds is a place that it looks at or a directory. -/
theorem walk_visits (sound : tree.Sound) {links : Nat} {pieces : List String}
    {follow : Bool} (directory : tree.entryAt? place = some .directory)
    (walked : tree.walk follow links place pieces = .ok next) :
    next ∈ tree.visits links place pieces ∨ tree.entryAt? next = some .directory := by
  induction links, place, pieces using walk_induction generalizing next with
  | stay links place =>
      cases (walk_nil tree follow links place).symm.trans walked
      exact .inr directory
  | step links place piece rest ih behind =>
      rcases piece_cases piece with rfl | rfl | isStep
      · rw [walk_here] at walked
        rw [visits_here]
        exact ih place directory walked
      · rw [walk_up] at walked
        rw [visits_up]
        exact ih _ (dropLast_directory sound directory) walked
      · obtain ⟨short, ⟨rfl, _⟩ | ⟨into, onward⟩ | ⟨target, fewer, link, rfl, onward⟩⟩ :=
          walk_step_ok isStep walked
        · rw [visits_step _ _ _ isStep short]
          exact .inl List.mem_cons_self
        · rw [visits_step _ _ _ isStep short, into]
          exact (ih _ into onward).imp_left (List.mem_cons_of_mem _)
        · rw [visits_step _ _ _ isStep short, link]
          exact (behind fewer (Nat.lt_succ_self _) _ _ (linkBase_directory directory) onward).imp_left
            (List.mem_cons_of_mem _)

/-- A walk to something that exists looks only at what exists. -/
theorem visits_exist {links : Nat} {pieces : List String} {entry : Entry}
    (walked : tree.walk true links place pieces = .ok next) (stands : tree.entryAt? next = some entry) :
    ∀ visited ∈ tree.visits links place pieces, ∃ found, tree.entryAt? visited = some found := by
  induction links, place, pieces using walk_induction generalizing next with
  | stay links place => simp [visits_nil]
  | step links place piece rest ih behind =>
      rcases piece_cases piece with rfl | rfl | isStep
      · rw [visits_here]
        exact ih place (walk_here tree true links place rest ▸ walked) stands
      · rw [visits_up]
        exact ih _ (walk_up tree true links place rest ▸ walked) stands
      · intro visited member
        obtain ⟨short, ⟨rfl, rfl, noDirectory, noLink⟩ | ⟨into, onward⟩ |
          ⟨target, fewer, link, rfl, onward⟩⟩ := walk_step_ok isStep walked
        · rw [visits_step _ _ _ isStep short] at member
          rcases List.mem_cons.mp member with rfl | behind
          · exact ⟨entry, stands⟩
          · split at behind
            · rename_i directory
              exact absurd directory noDirectory
            · rename_i target link
              exact absurd link (noLink rfl target)
            · cases behind
        · rw [visits_step _ _ _ isStep short, into] at member
          rcases List.mem_cons.mp member with rfl | member
          · exact ⟨_, into⟩
          · exact ih _ onward stands visited member
        · rw [visits_step _ _ _ isStep short, link] at member
          rcases List.mem_cons.mp member with rfl | member
          · exact ⟨_, link⟩
          · exact behind fewer (Nat.lt_succ_self _) _ _ onward stands visited member

/-- A walk that goes on from a directory looks at what it finds there. -/
theorem visits_append {links : Nat} {pieces : List String}
    (walked : tree.walk true links place pieces = .ok next)
    (directory : tree.entryAt? next = some .directory) (isName : isEntryName name = true) :
    next ++ [name] ∈ tree.visits links place (pieces ++ [name]) := by
  obtain ⟨_, _, notHere, notUp, short⟩ := Path.isEntryName_iff.mp isName
  induction links, place, pieces using walk_induction generalizing next with
  | stay links place =>
      cases (walk_nil tree true links place).symm.trans walked
      rw [List.nil_append, visits_step _ _ _ ⟨notHere, notUp⟩ short]
      exact List.mem_cons_self
  | step links place piece others ih behind =>
      rw [List.cons_append]
      rcases piece_cases piece with rfl | rfl | isStep
      · rw [visits_here]
        exact ih place (walk_here tree true links place others ▸ walked) directory
      · rw [visits_up]
        exact ih _ (walk_up tree true links place others ▸ walked) directory
      · obtain ⟨short, ⟨rfl, _, stops, _⟩ | ⟨into, onward⟩ | ⟨target, fewer, link, rfl, onward⟩⟩ :=
          walk_step_ok isStep walked
        · exact absurd directory stops
        · rw [visits_step _ _ _ isStep short, into]
          exact List.mem_cons_of_mem _ (ih _ onward directory)
        · rw [visits_step _ _ _ isStep short, link]
          dsimp only
          rw [← List.append_assoc]
          exact List.mem_cons_of_mem _ (behind fewer (Nat.lt_succ_self _) _ _ onward directory)

/-- Going on looks at more. -/
theorem visits_starts (links : Nat) (place : Place) (pieces rest : List String) :
    tree.visits links place pieces ⊆ tree.visits links place (pieces ++ rest) := by
  induction links, place, pieces using walk_induction with
  | stay links place =>
      rw [visits_nil]
      exact List.nil_subset _
  | step links place piece others ih behind =>
      rw [List.cons_append]
      rcases piece_cases piece with rfl | rfl | isStep
      · rw [visits_here, visits_here]
        exact ih place
      · rw [visits_up, visits_up]
        exact ih _
      · by_cases short : piece.utf8ByteSize ≤ maxNameSize
        · rw [visits_step _ _ _ isStep short, visits_step _ _ _ isStep short]
          refine List.cons_subset_cons _ ?_
          split
          · exact ih _
          · rw [← List.append_assoc]
            cases links with
            | zero => exact List.nil_subset _
            | succ fewer => exact behind fewer (Nat.lt_succ_self _) _ _
          · exact List.nil_subset _
        · rw [visits_long _ _ _ isStep (Nat.lt_of_not_le short)]
          exact List.nil_subset _

/-- A `.` looks at nothing. -/
theorem visits_without_dots (links : Nat) (place : Place) (pieces : List String) :
    tree.visits links place (pieces.filter (· ≠ ".")) = tree.visits links place pieces := by
  induction links, place, pieces using walk_induction with
  | stay links place => rfl
  | step links place piece others ih behind =>
      by_cases here : piece = "."
      · subst here
        rw [visits_here, ← ih]
        rfl
      rw [List.filter_cons_of_pos (by simpa using here)]
      rcases piece_cases piece with here' | rfl | isStep
      · exact absurd here' here
      · rw [visits_up, visits_up, ih]
      · by_cases short : piece.utf8ByteSize ≤ maxNameSize
        · rw [visits_step _ _ _ isStep short, visits_step _ _ _ isStep short]
          congr 1
          split
          · exact ih _
          · rename_i target link
            cases links with
            | zero => rfl
            | succ fewer =>
                -- Both ways go with all dots gone, those of the target too.
                have all := behind fewer (Nat.lt_succ_self _) (linkBase place target)
                  (steps target ++ others)
                have some := behind fewer (Nat.lt_succ_self _) (linkBase place target)
                  (steps target ++ others.filter (· ≠ "."))
                rw [List.filter_append, List.filter_filter] at some
                simp only [Bool.and_self] at some
                rw [List.filter_append, some] at all
                exact all
          · rfl
        · have long := Nat.lt_of_not_le short
          rw [visits_long _ _ _ isStep long, visits_long _ _ _ isStep long]

theorem visits_dot (links : Nat) (place : Place) (pieces : List String) :
    tree.visits links place (pieces ++ ["."]) = tree.visits links place pieces := by
  rw [← visits_without_dots _ _ (pieces ++ ["."]), ← visits_without_dots _ _ pieces]
  simp

/-- Where there are no links a walk over names stays below its start. -/
theorem visits_below {names : List String}
    (noLinks : ∀ below, place <+: below → ∀ target, tree.entryAt? below ≠ some (.link target))
    (areSteps : ∀ name ∈ names, IsStep name) (links : Nat) :
    ∀ visited ∈ tree.visits links place names, place <+: visited := by
  induction names generalizing place with
  | nil => simp [visits_nil]
  | cons name names ih =>
      obtain ⟨isStep, others⟩ := List.forall_mem_cons.mp areSteps
      have down : place <+: place ++ [name] := List.prefix_append _ _
      intro visited member
      by_cases short : name.utf8ByteSize ≤ maxNameSize
      · rw [visits_step _ _ _ isStep short] at member
        rcases List.mem_cons.mp member with rfl | member
        · exact down
        · split at member
          · exact down.trans
              (ih (fun below starts => noLinks below (down.trans starts)) others visited member)
          · rename_i target link
            exact absurd link (noLinks _ down target)
          · cases member
      · rw [visits_long _ _ _ isStep (Nat.lt_of_not_le short)] at member
        cases member

end AspectLoom.FileTree
