import AspectLoom.FileTree.Change
import AspectLoom.Overlay.Reconciliation
import Mathlib.Data.List.Basic
import Mathlib.Data.List.Infix
/-!
Paths by their segments, the pieces that are not empty. Whether a path is absolute and its segments
decide its components, and joining two paths puts the segments of one behind those of the other.
-/
namespace AspectLoom

/-- A name that can stand in a directory. -/
def FileTree.isEntryName (name : String) : Bool :=
  !name.toList.contains '/' && name != "" && name != "." && name != ".." &&
    name.utf8ByteSize ≤ FileTree.maxNameSize

namespace Path

open FileTree (isEntryName steps)

/-- The pieces of a path that are not empty. -/
def segments (path : Path) : List String := path.pieces.filter (· ≠ "")

/-- The path of names below a directory. -/
def ofNames (names : List String) : Path := ⟨"/".intercalate names⟩

/-- The components of a path that are names. -/
def names (path : Path) : List String :=
  path.components.filterMap fun component =>
    match component with
    | .name text => some text
    | _ => none

/-- Whether a path consists of names only; such a path is relative. -/
def isPlain (path : Path) : Bool :=
  path.components.all fun component =>
    match component with
    | .name _ => true
    | _ => false

/-- The component that the first segment of a path alone decides. -/
def leadOf (absolute : Bool) (segments : List String) : List Component :=
  if absolute then [.root] else if segments.head? = some "." then [.current] else []

variable {path base rest : Path}

theorem isAbsolute_iff : path.isAbsolute = true ↔ ∃ chars, path.text.toList = '/' :: chars := by
  rw [isAbsolute, String.startsWith_string_iff]
  constructor
  · rintro ⟨chars, same⟩
    exact ⟨chars, same.symm⟩
  · rintro ⟨chars, same⟩
    exact ⟨chars, same.symm⟩

theorem endsWith_slash_iff {text : String} :
    text.endsWith "/" = true ↔ ∃ chars, text.toList = chars ++ ['/'] := by
  rw [← String.endsWith_toSlice, String.Slice.endsWith_string_iff]
  constructor
  · rintro ⟨chars, same⟩
    exact ⟨chars, by simpa using same.symm⟩
  · rintro ⟨chars, same⟩
    exact ⟨chars, by simpa using same.symm⟩

theorem slash_notMem_of_mem_splitOn {chars piece : List Char} (member : piece ∈ chars.splitOn '/') :
    '/' ∉ piece := by
  induction chars generalizing piece with
  | nil => simp_all
  | cons c rest ih =>
      rw [List.splitOn_cons_eq_if_modifyHead] at member
      split at member
      · rcases List.mem_cons.mp member with rfl | later
        · exact List.not_mem_nil
        · exact ih later
      · rename_i different
        obtain ⟨first, others, split⟩ := List.exists_cons_of_ne_nil (List.splitOn_ne_nil '/' rest)
        rw [split, List.modifyHead_cons] at member
        rw [split] at ih
        rcases List.mem_cons.mp member with rfl | later
        · have clean := ih List.mem_cons_self
          rw [beq_iff_eq] at different
          exact List.not_mem_cons_of_ne_of_not_mem (Ne.symm different) clean
        · exact ih (List.mem_cons_of_mem _ later)

theorem slash_notMem_pieces {piece : String} (member : piece ∈ path.pieces) :
    '/' ∉ piece.toList := by
  obtain ⟨chars, among, rfl⟩ := List.mem_map.mp member
  rw [String.toList_ofList]
  exact slash_notMem_of_mem_splitOn among

theorem pieces_ne_nil (path : Path) : path.pieces ≠ [] := by simp [pieces]

/-- The pieces of joined pieces are the same pieces. -/
theorem pieces_ofPieces {parts : List String} (some : parts ≠ [])
    (clean : ∀ part ∈ parts, '/' ∉ part.toList) : (ofPieces parts).pieces = parts := by
  have split : (ofPieces parts).text.toList.splitOn '/' = parts.map String.toList := by
    rw [ofPieces, String.toList_intercalate]
    refine List.splitOn_intercalate '/' ?_ (by simpa using some)
    intro chars member
    obtain ⟨part, among, rfl⟩ := List.mem_map.mp member
    exact clean part among
  rw [pieces, split, List.map_map]
  simp

theorem ofPieces_pieces (path : Path) : ofPieces path.pieces = path := by
  have joined : (ofPieces path.pieces).text.toList = path.text.toList := by
    rw [ofPieces, String.toList_intercalate, pieces, List.map_map]
    simp [Function.comp_def]
  cases path
  exact congrArg Path.mk (String.toList_inj.mp joined)

theorem pieces_append_slash (left right : String) :
    Path.pieces ⟨left ++ "/" ++ right⟩ = Path.pieces ⟨left⟩ ++ Path.pieces ⟨right⟩ := by
  simp [pieces, List.splitOn_append_cons_self]

/-- What is neither a name nor `..` is no segment or a `.`. -/
theorem isBlankPiece_iff {piece : String} : isBlankPiece piece = true ↔ piece = "" ∨ piece = "." := by
  rw [isBlankPiece, Component.ofPiece?]
  split
  · simp_all
  · split <;> simp_all

theorem ofPiece?_eq_some {piece : String} {component : Component}
    (found : Component.ofPiece? piece = some component) :
    component = .parent ∨ component = .name piece := by
  rw [Component.ofPiece?] at found
  split at found
  · cases found
  · split at found <;> cases found
    · exact .inl rfl
    · exact .inr rfl

/-- Pieces stand for names and `..` only. -/
theorem mem_filterMap_ofPiece? {parts : List String} {component : Component}
    (member : component ∈ parts.filterMap Component.ofPiece?) :
    component = .parent ∨ ∃ name ∈ parts, component = .name name := by
  obtain ⟨piece, among, found⟩ := List.mem_filterMap.mp member
  exact (ofPiece?_eq_some found).imp_right fun same => ⟨piece, among, same⟩

/-- A relative path begins with a segment, unless it is empty. -/
theorem head?_pieces (relative : path.isAbsolute = false) :
    path.pieces = [""] ∨ ∃ first others, path.pieces = first :: others ∧ first ≠ "" := by
  obtain ⟨first, others, split⟩ := List.exists_cons_of_ne_nil path.pieces_ne_nil
  by_cases empty : first = ""
  · subst empty
    cases others with
    | nil => exact .inl split
    | cons second others =>
        exfalso
        have text := congrArg Path.text path.ofPieces_pieces
        rw [split, ofPieces] at text
        have absolute : path.isAbsolute = true := by
          refine isAbsolute_iff.mpr ⟨("/".intercalate (second :: others)).toList, ?_⟩
          rw [← text]
          simp [String.intercalate_cons_cons]
        rw [absolute] at relative
        cases relative
  · exact .inr ⟨first, others, split, empty⟩

/-- An absolute path begins with an empty piece. -/
theorem pieces_absolute (absolute : path.isAbsolute = true) :
    ∃ others, path.pieces = "" :: others := by
  obtain ⟨chars, text⟩ := isAbsolute_iff.mp absolute
  refine ⟨Path.pieces ⟨String.ofList chars⟩, ?_⟩
  rw [pieces, text, List.splitOn_cons_eq_if_modifyHead, if_pos (by simp)]
  simp [pieces]

theorem head_of_absolute {first : String} {others : List String} (absolute : path.isAbsolute = true)
    (split : path.pieces = first :: others) : first = "" := by
  obtain ⟨_, same⟩ := pieces_absolute absolute
  rw [split] at same
  exact (List.cons.inj same).1

theorem head_of_relative {first : String} {others : List String}
    (relative : path.isAbsolute = false) (split : path.pieces = first :: others)
    (more : others ≠ []) : first ≠ "" := by
  rcases head?_pieces relative with bare | ⟨head, tail, same, filled⟩
  · rw [split] at bare
    exact absurd (List.cons.inj bare).2 more
  · rw [split] at same
    rwa [(List.cons.inj same).1]

theorem lead?_eq (path : Path) :
    path.lead?.toList = leadOf path.isAbsolute path.segments := by
  rw [lead?, leadOf]
  split
  · rfl
  · rename_i relative
    rcases head?_pieces (Bool.not_eq_true _ ▸ relative) with split | ⟨first, others, split, filled⟩
    · simp [segments, split]
    · simp only [segments, split, List.head?_cons, ne_eq, filled, decide_true,
        not_false_eq_true, List.filter_cons_of_pos]
      split <;> rfl

theorem filterMap_segments (path : Path) :
    path.segments.filterMap Component.ofPiece? = path.pieces.filterMap Component.ofPiece? := by
  rw [segments, List.filterMap_filter]
  apply List.filterMap_congr
  intro piece _
  by_cases empty : piece = ""
  · simp [empty, Component.ofPiece?]
  · simp [empty]

/-- A segment that is no `.` is the text of its component. -/
theorem map_text_segments (path : Path) :
    (path.segments.filterMap Component.ofPiece?).map Component.text =
      path.segments.filter (· ≠ ".") := by
  rw [← List.filterMap_eq_filter, List.map_filterMap]
  refine List.filterMap_congr fun segment member => ?_
  have filled : segment ≠ "" := by simpa using (List.mem_filter.mp member).2
  by_cases here : segment = "."
  · simp [here, Component.ofPiece?, Option.guard]
  · by_cases up : segment = ".."
    · simp [up, Component.ofPiece?, Component.text, Option.guard]
    · simp [here, up, filled, Component.ofPiece?, Component.text, Option.guard]

theorem components_eq (path : Path) : path.components =
    leadOf path.isAbsolute path.segments ++ path.segments.filterMap Component.ofPiece? := by
  rw [components, lead?_eq, filterMap_segments]

/-- Paths with the same segments have the same components. -/
theorem components_congr {other : Path} (absolute : path.isAbsolute = other.isAbsolute)
    (same : path.segments = other.segments) : path.components = other.components := by
  rw [components_eq, components_eq, absolute, same]

theorem segments_of_no_components (none : path.components = []) : path.segments = [] := by
  have whole := path.components_eq
  rw [none] at whole
  obtain ⟨lead, others⟩ := List.append_eq_nil_iff.mp whole.symm
  cases split : path.segments with
  | nil => rfl
  | cons first rest =>
      have blank := List.filterMap_eq_nil_iff.mp others first (by simp [split])
      have member : first ∈ path.segments := by simp [split]
      have filled : first ≠ "" := by simpa using (List.mem_filter.mp member).2
      have dot : first = "." := by
        refine (isBlankPiece_iff.mp ?_).resolve_left filled
        rw [isBlankPiece, blank]
        rfl
      rw [split, dot, leadOf] at lead
      split at lead <;> simp at lead

/-! Joined paths -/

theorem isAbsolute_join (relative : rest.isAbsolute = false) :
    (base.join rest).isAbsolute = base.isAbsolute := by
  rw [join, if_neg (by simp [relative])]
  by_cases empty : base.text = ""
  · have none : base.isAbsolute = false := by
      rw [← Bool.not_eq_true, isAbsolute_iff, empty]
      simp
    rw [if_pos (by simp [empty]), none, ← relative]
    simp [isAbsolute, empty]
  · have first : ∀ tail : String, (Path.mk (base.text ++ tail)).isAbsolute = base.isAbsolute := by
      intro tail
      have filled : base.text.toList ≠ [] := by simpa using empty
      obtain ⟨c, chars, split⟩ := List.exists_cons_of_ne_nil filled
      rw [Bool.eq_iff_iff, isAbsolute_iff, isAbsolute_iff]
      simp [split]
    split
    · exact first _
    · rw [String.append_assoc]
      exact first _

/-- A relative path's pieces stand behind those of the base, up to empty ones in between. -/
theorem segments_join (relative : rest.isAbsolute = false) :
    (base.join rest).segments = base.segments ++ rest.segments := by
  rw [join, if_neg (by simp [relative])]
  split
  · rename_i ends
    rw [Bool.or_eq_true, decide_eq_true_eq, endsWith_slash_iff] at ends
    rcases ends with empty | ⟨chars, split⟩
    · simp [segments, pieces, empty]
    · have text : base.text = String.ofList chars ++ "/" ++ "" := by
        apply String.toList_inj.mp
        simp [split]
      have left : base.segments = Path.segments ⟨String.ofList chars⟩ := by
        rw [segments, show base = ⟨base.text⟩ from rfl, text, pieces_append_slash,
          List.filter_append, segments]
        simp [pieces]
      rw [segments, text, String.append_empty, pieces_append_slash, List.filter_append, left,
        segments, segments]
  · rw [segments, pieces_append_slash, List.filter_append, segments, segments]

theorem components_join (relative : rest.isAbsolute = false) (plain : rest.segments.head? ≠ some ".") :
    (base.join rest).components = base.components ++ rest.components := by
  rw [components_eq, components_eq, components_eq, isAbsolute_join relative,
    segments_join relative, List.filterMap_append, relative, ← List.append_assoc]
  have none : leadOf false rest.segments = [] := by simp [leadOf, plain]
  rw [none, List.nil_append]
  congr 2
  rw [leadOf, leadOf]
  cases base.segments with
  | nil => simp [plain]
  | cons first others => simp

/-- What a relative path is written behind when it is joined to a base. -/
def opened (base : Path) : String :=
  if base.text = "" || base.text.endsWith "/" then base.text else base.text ++ "/"

theorem text_join (relative : rest.isAbsolute = false) :
    (base.join rest).text = base.opened ++ rest.text := by
  rw [join, if_neg (by simp [relative]), opened]
  split <;> rfl

theorem opened_cases (base : Path) : base.opened = "" ∨ base.opened.endsWith "/" = true := by
  rw [opened]
  split
  · rename_i ends
    rwa [Bool.or_eq_true, decide_eq_true_eq] at ends
  · exact .inr (endsWith_slash_iff.mpr ⟨base.text.toList, by simp⟩)

theorem endsWith_append {front text : String} (filled : text ≠ "") :
    (front ++ text).endsWith "/" = text.endsWith "/" := by
  obtain ⟨chars, last, split⟩ := List.eq_nil_or_concat text.toList |>.resolve_left
    (by simpa using filled)
  rw [Bool.eq_iff_iff, endsWith_slash_iff, endsWith_slash_iff, String.toList_append, split]
  constructor
  · rintro ⟨others, same⟩
    rw [List.concat_eq_append, ← List.append_assoc] at same
    exact ⟨chars, by rw [List.concat_eq_append, List.append_inj_right' same rfl]⟩
  · rintro ⟨others, same⟩
    exact ⟨front.toList ++ others, by rw [same, List.append_assoc]⟩

theorem endsWith_join (relative : rest.isAbsolute = false) (filled : rest.text ≠ "") :
    (base.join rest).text.endsWith "/" = rest.text.endsWith "/" := by
  rw [text_join relative, endsWith_append filled]

theorem opened_join (relative : rest.isAbsolute = false) :
    (base.join rest).opened = base.opened ++ rest.opened := by
  rw [opened, text_join relative]
  by_cases filled : rest.text = ""
  · have bare : rest.opened = "" := by rw [opened, filled]; rfl
    rw [bare, filled, String.append_empty, if_pos]
    rcases base.opened_cases with empty | slash
    · simp [empty]
    · simp [slash]
  · have some : base.opened ++ rest.text ≠ "" := by simp [filled]
    rw [endsWith_append filled, opened.eq_def rest]
    by_cases slash : rest.text.endsWith "/" = true
    · rw [if_pos (by simp [slash]), if_pos (by simp [slash])]
    · rw [Bool.not_eq_true] at slash
      rw [if_neg (by simp [slash, filled]), if_neg (by simp [slash, filled]), String.append_assoc]

theorem join_assoc {further : Path} (relative : rest.isAbsolute = false)
    (furtherRelative : further.isAbsolute = false) :
    (base.join rest).join further = base.join (rest.join further) := by
  have both := (isAbsolute_join furtherRelative).trans relative
  have same : ((base.join rest).join further).text = (base.join (rest.join further)).text := by
    rw [text_join furtherRelative, text_join both, text_join furtherRelative, opened_join relative,
      String.append_assoc]
  exact congrArg Path.mk same

/-! Paths of names -/

theorem isEntryName_iff {name : String} : isEntryName name = true ↔
    '/' ∉ name.toList ∧ name ≠ "" ∧ name ≠ "." ∧ name ≠ ".." ∧
      name.utf8ByteSize ≤ FileTree.maxNameSize := by
  simp [isEntryName, and_assoc]

/-- What stands between slashes and is neither a `.` nor a `..`. -/
def IsName (name : String) : Prop :=
  '/' ∉ name.toList ∧ name ≠ "" ∧ name ≠ "." ∧ name ≠ ".."

def AreNames (names : List String) : Prop := ∀ name ∈ names, IsName name

theorem isName_of_isEntryName {name : String} (isName : isEntryName name = true) : IsName name := by
  obtain ⟨clean, filled, notDot, notUp, _⟩ := isEntryName_iff.mp isName
  exact ⟨clean, filled, notDot, notUp⟩

theorem areNames_singleton {name : String} (isName : IsName name) : AreNames [name] :=
  List.forall_mem_singleton.mpr isName

section
variable {name : String} {names : List String}

theorem ofPiece?_name (isName : IsName name) :
    Component.ofPiece? name = some (.name name) := by
  obtain ⟨_, filled, notDot, notUp⟩ := isName
  simp [Component.ofPiece?, filled, notDot, notUp]

theorem pieces_ofNames (areNames : AreNames names) (some : names ≠ []) :
    (ofNames names).pieces = names :=
  pieces_ofPieces some fun name member => (areNames name member).1

theorem segments_ofNames (areNames : AreNames names) :
    (ofNames names).segments = names := by
  cases names with
  | nil => rfl
  | cons first others =>
      rw [segments, pieces_ofNames areNames (List.cons_ne_nil _ _), List.filter_eq_self]
      intro name member
      simpa using (areNames name member).2.1

theorem isAbsolute_of_pieces {first : String} {others : List String}
    (split : path.pieces = first :: others) (filled : first ≠ "") : path.isAbsolute = false := by
  rw [← Bool.not_eq_true]
  exact fun absolute => filled (head_of_absolute absolute split)

theorem isAbsolute_ofNames (areNames : AreNames names) :
    (ofNames names).isAbsolute = false := by
  cases names with
  | nil => simp [isAbsolute, ofNames]
  | cons first others =>
      have filled := (areNames first List.mem_cons_self).2.1
      exact isAbsolute_of_pieces (pieces_ofNames areNames (List.cons_ne_nil _ _)) filled

theorem head?_segments_ofNames (areNames : AreNames names) :
    (ofNames names).segments.head? ≠ some "." := by
  rw [segments_ofNames areNames]
  intro first
  exact (areNames _ (List.mem_of_mem_head? first)).2.2.1 rfl

theorem components_ofNames (areNames : AreNames names) :
    (ofNames names).components = names.map .name := by
  have lead : leadOf false names = [] := by
    have head := head?_segments_ofNames areNames
    rw [segments_ofNames areNames] at head
    simp [leadOf, head]
  rw [components_eq, isAbsolute_ofNames areNames, segments_ofNames areNames, lead, List.nil_append,
    ← List.filterMap_eq_map]
  exact List.filterMap_congr fun name member => ofPiece?_name (areNames name member)

/-! A name is the path of that one segment -/

theorem ofNames_singleton (name : String) : ofNames [name] = ⟨name⟩ := rfl

theorem isRelative_name (isName : IsName name) : isAbsolute ⟨name⟩ = false := by
  rw [← ofNames_singleton name]
  exact isAbsolute_ofNames (areNames_singleton isName)

theorem segments_name (isName : IsName name) : segments ⟨name⟩ = [name] := by
  rw [← ofNames_singleton name]
  exact segments_ofNames (areNames_singleton isName)

theorem components_name (isName : IsName name) : components ⟨name⟩ = [.name name] := by
  rw [← ofNames_singleton name, components_ofNames (areNames_singleton isName), List.map_singleton]

/-- Going one name further down. -/
theorem join_ofNames (areNames : AreNames names)
    (isName : IsName name) : (ofNames names).join ⟨name⟩ = ofNames (names ++ [name]) := by
  rw [join, if_neg (by simp [isRelative_name isName])]
  cases names with
  | nil => simp [ofNames]
  | cons first others =>
      have filled : (ofNames (first :: others)).text ≠ "" := by
        intro empty
        have split := pieces_ofNames areNames (List.cons_ne_nil _ _)
        rw [show ofNames (first :: others) = ⟨""⟩ from congrArg Path.mk empty] at split
        have blank : first = "" := (List.cons.inj split).1.symm
        exact (areNames first List.mem_cons_self).2.1 blank
      have ends : (ofNames (first :: others)).text.endsWith "/" = false := by
        rw [← Bool.not_eq_true, endsWith_slash_iff]
        rintro ⟨chars, text⟩
        have last : (ofNames (first :: others)).pieces.getLast? = some "" := by
          rw [pieces, text, List.splitOn_append_cons_self]
          simp
        rw [pieces_ofNames areNames (List.cons_ne_nil _ _)] at last
        exact (areNames _ (List.mem_of_getLast? last)).2.1 rfl
      rw [if_neg (by simp [filled, ends])]
      rw [ofNames, ofNames,
        String.intercalate_append_of_ne_nil (List.cons_ne_nil _ _) (List.cons_ne_nil _ _),
        String.intercalate_singleton]

/-- Going down to names and then one name further. -/
theorem join_join_ofNames (areNames : AreNames names) (isName : IsName name) :
    (base.join (ofNames names)).join ⟨name⟩ = base.join (ofNames (names ++ [name])) := by
  rw [join_assoc (isAbsolute_ofNames areNames) (isRelative_name isName), join_ofNames areNames isName]

end

/-! Steps -/

theorem getLast?_pieces (ends : path.text.endsWith "/" = false) (filled : path.text ≠ "") :
    path.pieces.getLast? ≠ some "" := by
  intro last
  obtain ⟨others, split⟩ := List.getLast?_eq_some_iff.mp last
  have text := congrArg Path.text path.ofPieces_pieces
  rw [split, ofPieces] at text
  cases others with
  | nil =>
      rw [List.nil_append, String.intercalate_singleton] at text
      exact filled text.symm
  | cons first others =>
      rw [String.intercalate_append_of_ne_nil (List.cons_ne_nil _ _) (List.cons_ne_nil _ _)] at text
      rw [← Bool.not_eq_true, endsWith_slash_iff] at ends
      refine ends ⟨("/".intercalate (first :: others)).toList, ?_⟩
      rw [← text]
      simp

/-- The steps of a path are its segments, with a `.` behind them for a trailing slash. -/
theorem steps_cases (path : Path) :
    steps path.text = path.segments ∨ steps path.text = path.segments ++ ["."] := by
  rw [steps]
  split
  · exact .inr rfl
  · exact .inl rfl

theorem steps_of_not_endsWith (ends : path.text.endsWith "/" = false) :
    steps path.text = path.segments := by
  rw [steps]
  split
  · rename_i last
    exfalso
    by_cases filled : path.text = ""
    · exact last.2 (by simp [pieces, filled])
    · exact getLast?_pieces ends filled last.1
  · rfl

theorem steps_of_endsWith (ends : path.text.endsWith "/" = true) :
    steps path.text = [] ∨ ∃ front, steps path.text = front ++ ["."] := by
  have last : path.pieces.getLast? = some "" := by
    obtain ⟨chars, text⟩ := endsWith_slash_iff.mp ends
    rw [pieces, text, List.splitOn_append_cons_self]
    simp
  rw [steps]
  split
  · exact .inr ⟨_, rfl⟩
  · rename_i other
    refine .inl ?_
    by_contra filled
    exact other ⟨last, filled⟩

theorem mem_steps {piece : String} (member : piece ∈ steps path.text) :
    piece ≠ "" ∧ '/' ∉ piece.toList := by
  have segment : piece ∈ path.segments → piece ≠ "" ∧ '/' ∉ piece.toList := by
    intro among
    obtain ⟨among, filled⟩ := List.mem_filter.mp among
    exact ⟨by simpa using filled, slash_notMem_pieces among⟩
  rcases path.steps_cases with same | same
  · exact segment (same ▸ member)
  · rw [same] at member
    rcases List.mem_append.mp member with among | dot
    · exact segment among
    · rw [List.mem_singleton.mp dot]
      decide

/-- A path that goes down to a name has no trailing slash. -/
theorem not_endsWith_join {name : String} (isName : IsName name) :
    (base.join ⟨name⟩).text.endsWith "/" = false := by
  have relative := isRelative_name isName
  obtain ⟨clean, filled, _⟩ := isName
  obtain ⟨chars, last, split⟩ := List.eq_nil_or_concat name.toList |>.resolve_left (by simpa using filled)
  have text : ∃ front, (base.join ⟨name⟩).text.toList = front ++ [last] := by
    rw [join, if_neg (by simp [relative])]
    split
    · exact ⟨base.text.toList ++ chars, by simp [split]⟩
    · exact ⟨base.text.toList ++ '/' :: chars, by simp [split]⟩
  obtain ⟨front, text⟩ := text
  rw [← Bool.not_eq_true, endsWith_slash_iff]
  rintro ⟨others, same⟩
  rw [text] at same
  have slash : last = '/' := (List.append_inj' same rfl).2 |> List.cons.inj |>.1
  rw [split, slash] at clean
  simp at clean

theorem steps_join_name {name : String} (isName : IsName name) :
    steps (base.join ⟨name⟩).text = base.segments ++ [name] := by
  rw [steps_of_not_endsWith (not_endsWith_join isName), segments_join (isRelative_name isName),
    segments_name isName]

/-! Parts of a path -/

theorem filterMap_trimEnd (parts : List String) :
    (trimEnd parts).filterMap Component.ofPiece? = parts.filterMap Component.ofPiece? := by
  rw [trimEnd, List.filterMap_reverse]
  have kept : ∀ reversed : List String, (reversed.dropWhile isBlankPiece).filterMap
      Component.ofPiece? = reversed.filterMap Component.ofPiece? := by
    intro reversed
    induction reversed with
    | nil => rfl
    | cons part others ih =>
        rw [List.dropWhile_cons]
        split
        · rename_i blank
          rw [isBlankPiece, Option.isNone_iff_eq_none] at blank
          rw [ih, List.filterMap_cons_none blank]
        · rfl
  rw [kept, List.filterMap_reverse, List.reverse_reverse]

theorem filterMap_dropWhile (parts : List String) :
    (parts.dropWhile isBlankPiece).filterMap Component.ofPiece? =
      parts.filterMap Component.ofPiece? := by
  induction parts with
  | nil => rfl
  | cons part others ih =>
      rw [List.dropWhile_cons]
      split
      · rename_i blank
        rw [isBlankPiece, Option.isNone_iff_eq_none] at blank
        rw [ih, List.filterMap_cons_none blank]
      · rfl

theorem filterMap_dropCounted (count : Nat) (parts : List String) :
    (dropCounted count parts).filterMap Component.ofPiece? =
      (parts.filterMap Component.ofPiece?).drop count := by
  induction parts generalizing count with
  | nil => cases count <;> rfl
  | cons part others ih =>
      cases count with
      | zero => rfl
      | succ count =>
          rw [dropCounted]
          split
          · rename_i blank
            rw [isBlankPiece, Option.isNone_iff_eq_none] at blank
            rw [ih, List.filterMap_cons_none blank]
          · rename_i filled
            rw [isBlankPiece, Bool.not_eq_true, Option.isNone_eq_false_iff,
              Option.isSome_iff_exists] at filled
            obtain ⟨component, filled⟩ := filled
            rw [ih, List.filterMap_cons_some filled, List.drop_succ_cons]

theorem isBlankPiece_eq_false {piece : String} (filled : isBlankPiece piece = false) :
    ∃ component, Component.ofPiece? piece = some component := by
  rwa [isBlankPiece, Option.isNone_eq_false_iff, Option.isSome_iff_exists] at filled

theorem clean_subset {parts : List String} (subset : parts ⊆ path.pieces) :
    ∀ part ∈ parts, '/' ∉ part.toList :=
  fun _ member => slash_notMem_pieces (subset member)

theorem segments_ofPieces {parts : List String} (some : parts ≠ [])
    (clean : ∀ part ∈ parts, '/' ∉ part.toList) :
    (ofPieces parts).segments = parts.filter (· ≠ "") := by
  rw [segments, pieces_ofPieces some clean]

theorem trimEnd_starts (parts : List String) : trimEnd parts <+: parts := by
  rw [trimEnd, ← List.reverse_suffix, List.reverse_reverse]
  exact List.dropWhile_suffix _

theorem trimEnd_cons {first : String} {others : List String} (filled : isBlankPiece first = false) :
    ∃ kept, trimEnd (first :: others) = first :: kept := by
  obtain ⟨component, isComponent⟩ := isBlankPiece_eq_false filled
  cases trimmed : trimEnd (first :: others) with
  | nil =>
      have same := filterMap_trimEnd (first :: others)
      rw [trimmed, List.filterMap_cons_some isComponent] at same
      cases same
  | cons head kept =>
      have start := trimEnd_starts (first :: others)
      rw [trimmed, List.cons_prefix_cons] at start
      exact ⟨kept, by rw [start.1]⟩

/-- Pieces that begin with a segment other than `.` are the pieces of a relative path. -/
theorem components_ofPieces {parts : List String} (clean : ∀ part ∈ parts, '/' ∉ part.toList)
    (filled : ∀ first, parts.head? = some first → isBlankPiece first = false) :
    (ofPieces parts).components = parts.filterMap Component.ofPiece? := by
  cases parts with
  | nil => rfl
  | cons first others =>
      have split := pieces_ofPieces (List.cons_ne_nil first others) clean
      have notBlank := filled first rfl
      rw [← Bool.not_eq_true, isBlankPiece_iff, not_or] at notBlank
      have lead : leadOf false (ofPieces (first :: others)).segments = [] := by
        simp [leadOf, segments, split, notBlank]
      rw [components_eq, isAbsolute_of_pieces split notBlank.1, lead, filterMap_segments, split,
        List.nil_append]

theorem isAbsolute_ofPieces_cons {parts : List String} (some : parts ≠ []) :
    (ofPieces ("" :: parts)).isAbsolute = true := by
  refine isAbsolute_iff.mpr ⟨("/".intercalate parts).toList, ?_⟩
  rw [ofPieces, String.intercalate_cons_of_ne_nil some]
  simp

/-- Two spellings of a path, one of which has more `.` at its end. -/
structure Trims (path shorter : Path) : Prop where
  absolute : shorter.isAbsolute = path.isAbsolute
  segments : shorter.segments <+: path.segments
  components : shorter.components = path.components

theorem trimmed_trims_absolute (absolute : path.isAbsolute = true) :
    path.Trims path.trimmed := by
  have lead : path.lead?.isSome = true := by simp [lead?, absolute]
  obtain ⟨others, split⟩ := pieces_absolute absolute
  have all : path.components = .root :: (trimEnd others).filterMap Component.ofPiece? := by
    rw [components_eq, absolute, filterMap_segments, split, filterMap_trimEnd]
    rfl
  rw [trimmed, if_pos lead, split]
  dsimp only
  split
  · rename_i bare
    have none : trimEnd others = [] := by simpa using bare
    have bare : Path.segments ⟨"/"⟩ = [] := by decide +kernel
    refine ⟨absolute.symm ▸ by decide +kernel, bare ▸ List.nil_prefix, ?_⟩
    rw [all, none]
    decide +kernel
  · rename_i kept
    have some : trimEnd others ≠ [] := by simpa using kept
    have clean : ∀ part ∈ "" :: trimEnd others, '/' ∉ part.toList := by
      refine clean_subset (?_ : _ ⊆ path.pieces)
      rw [split]
      exact List.cons_subset_cons _ (trimEnd_starts others).subset
    have isAbsolute := isAbsolute_ofPieces_cons some
    have short := segments_ofPieces (List.cons_ne_nil _ _) clean
    refine ⟨isAbsolute.trans absolute.symm, ?_, ?_⟩
    · rw [short, Path.segments, split]
      exact ((List.prefix_cons_inj _).mpr (trimEnd_starts others)).filter _
    · rw [all, components_eq, isAbsolute, filterMap_segments,
        pieces_ofPieces (List.cons_ne_nil _ _) clean]
      rfl

/-- Trimming keeps the first piece of a relative path, which is kept either as the lead or as a
piece that stands for something. -/
theorem trimmed_relative {first : String} {others : List String}
    (relative : path.isAbsolute = false) (split : path.pieces = first :: others)
    (filled : first ≠ "") :
    ∃ kept, path.trimmed = ofPieces (first :: kept) ∧ first :: kept <+: path.pieces ∧
      (first :: kept).filterMap Component.ofPiece? =
        path.pieces.filterMap Component.ofPiece? := by
  rw [trimmed, split]
  split
  · refine ⟨trimEnd others, by simp [filled],
      (List.prefix_cons_inj _).mpr (trimEnd_starts others), ?_⟩
    rw [List.filterMap_cons, List.filterMap_cons, filterMap_trimEnd]
  · rename_i plain
    have notDot : first ≠ "." := by
      rintro rfl
      simp [lead?, relative, split] at plain
    have notBlank : isBlankPiece first = false := by
      rw [← Bool.not_eq_true, isBlankPiece_iff, not_or]
      exact ⟨filled, notDot⟩
    obtain ⟨kept, trims⟩ := trimEnd_cons notBlank
    have start := trimEnd_starts (first :: others)
    have same := filterMap_trimEnd (first :: others)
    rw [trims] at start same
    exact ⟨kept, by rw [trims], start, same⟩

theorem trimmed_trims (path : Path) : path.Trims path.trimmed := by
  cases absolute : path.isAbsolute with
  | true => exact trimmed_trims_absolute absolute
  | false =>
      rcases head?_pieces absolute with empty | ⟨first, others, split, filled⟩
      · have text : path = ⟨""⟩ := by
          rw [← ofPieces_pieces path, empty]
          rfl
        subst text
        exact ⟨rfl, List.prefix_refl _, rfl⟩
      · obtain ⟨kept, spelled, start, same⟩ := trimmed_relative absolute split filled
        have clean := clean_subset start.subset
        have some := List.cons_ne_nil first kept
        have relative := isAbsolute_of_pieces (pieces_ofPieces some clean) filled
        have short := segments_ofPieces some clean
        rw [spelled]
        refine ⟨relative.trans absolute.symm, ?_, ?_⟩
        · rw [short, Path.segments]
          exact start.filter _
        · rw [components_eq, components_eq, relative, absolute, filterMap_segments,
            filterMap_segments, pieces_ofPieces some clean, same, short, Path.segments, split]
          simp [leadOf, filled]

theorem dropCounted_suffix (count : Nat) (parts : List String) :
    dropCounted count parts <:+ parts := by
  induction parts generalizing count with
  | nil => cases count <;> exact List.suffix_refl _
  | cons part others ih =>
      cases count with
      | zero => exact List.suffix_refl _
      | succ count =>
          rw [dropCounted]
          split
          · exact (ih _).trans (List.suffix_cons _ _)
          · exact (ih _).trans (List.suffix_cons _ _)

/-- What is left behind some components. -/
theorem components_dropComponents (count : Nat) (path : Path) :
    (path.dropComponents count).components = path.components.drop count := by
  cases count with
  | zero => exact path.trimmed_trims.components
  | succ count =>
      have behind : ∀ parts ⊆ path.pieces,
          (ofPieces (trimEnd (parts.dropWhile isBlankPiece))).components =
            parts.filterMap Component.ofPiece? := by
        intro parts subset
        rw [components_ofPieces, filterMap_trimEnd, filterMap_dropWhile]
        · refine clean_subset (List.Subset.trans ?_ subset)
          exact List.Subset.trans (trimEnd_starts _).subset (List.dropWhile_suffix _).subset
        · intro first head
          have start := trimEnd_starts (parts.dropWhile isBlankPiece)
          have among := List.head?_dropWhile_not isBlankPiece parts
          cases kept : trimEnd (parts.dropWhile isBlankPiece) with
          | nil => simp [kept] at head
          | cons other others =>
              rw [kept] at head start
              obtain ⟨more, same⟩ := start
              rw [← same] at among
              cases head
              simpa using among
      rw [dropComponents, behind]
      · cases lead : path.lead? with
        | none => simp [components, lead, filterMap_dropCounted]
        | some component => simp [components, lead, filterMap_dropCounted]
      · split
        · exact (dropCounted_suffix _ _).subset
        · exact (dropCounted_suffix _ _).subset

/-- A path below another one, seen from there. -/
theorem components_relativeTo? {seen : Path} (below : base.relativeTo? path = some seen) :
    path.components = base.components ++ seen.components := by
  rw [relativeTo?] at below
  split at below
  · rename_i starts
    cases below
    rw [components_dropComponents]
    exact (List.prefix_iff_eq_append.mp (List.isPrefixOf_iff_prefix.mp starts)).symm
  · cases below

theorem relativeTo?_isSome (below : base.components <+: path.components) :
    ∃ seen, base.relativeTo? path = some seen :=
  ⟨_, if_pos (List.isPrefixOf_iff_prefix.mpr below)⟩

/-- The last piece that stands for a component. -/
theorem pieces_split (filled : path.pieces.filterMap Component.ofPiece? ≠ []) :
    ∃ front piece blanks component, path.pieces = front ++ piece :: blanks ∧
      Component.ofPiece? piece = some component ∧
      blanks.filterMap Component.ofPiece? = [] ∧
      (path.pieces.reverse.dropWhile isBlankPiece).drop 1 = front.reverse := by
  cases behind : path.pieces.reverse.dropWhile isBlankPiece with
  | nil =>
      have none := filterMap_trimEnd path.pieces
      rw [trimEnd, behind] at none
      exact absurd none.symm filled
  | cons piece front =>
      have whole := List.takeWhile_append_dropWhile (p := isBlankPiece) (l := path.pieces.reverse)
      rw [behind] at whole
      have notBlank := List.head?_dropWhile_not isBlankPiece path.pieces.reverse
      rw [behind] at notBlank
      obtain ⟨component, isComponent⟩ := isBlankPiece_eq_false (by simpa using notBlank)
      refine ⟨front.reverse, piece, (path.pieces.reverse.takeWhile isBlankPiece).reverse, component,
        ?_, isComponent, ?_, by simp⟩
      · have turned := congrArg List.reverse whole
        rw [List.reverse_append, List.reverse_reverse] at turned
        simpa using turned.symm
      · rw [List.filterMap_eq_nil_iff]
        intro part member
        have blank := List.all_eq_true.mp List.all_takeWhile _ (List.mem_reverse.mp member)
        rwa [isBlankPiece, Option.isNone_iff_eq_none] at blank

theorem leadOf_length (absolute : Bool) (segments : List String) :
    (leadOf absolute segments).length ≤ 1 := by
  rw [leadOf]
  split
  · exact Nat.le_refl _
  · split <;> simp

/-- The path without its last component. -/
structure IsParent (path parent : Path) : Prop where
  absolute : parent.isAbsolute = path.isAbsolute
  segments : parent.segments <+: path.segments
  components : parent.components = path.components.dropLast

theorem Trims.isParent {parent shorter : Path} (trims : parent.Trims shorter)
    (isParent : path.IsParent parent) : path.IsParent shorter :=
  ⟨trims.absolute.trans isParent.absolute, trims.segments.trans isParent.segments,
    trims.components.trans isParent.components⟩

section
variable {front blanks : List String} {piece : String} {component : Component} {parent : Path}

/-- The pieces in front of the last component are those of the parent. -/
theorem isParent_front (split : path.pieces = front ++ piece :: blanks)
    (isComponent : Component.ofPiece? piece = some component)
    (blank : blanks.filterMap Component.ofPiece? = [])
    (some : front ≠ []) (rooted : path.isAbsolute = true → front ≠ [""]) :
    path.IsParent (ofPieces front) := by
  have clean : ∀ part ∈ front, '/' ∉ part.toList := by
    refine clean_subset (?_ : _ ⊆ path.pieces)
    rw [split]
    exact List.subset_append_left _ _
  have pieces := pieces_ofPieces some clean
  obtain ⟨first, others, rfl⟩ := List.exists_cons_of_ne_nil some
  have more : others ++ piece :: blanks ≠ [] := by simp
  have short : (ofPieces (first :: others)).segments <+: path.segments := by
    rw [segments, segments, pieces, split, List.filter_append]
    exact List.prefix_append _ _
  -- Both paths begin with the same piece, which tells whether they are absolute and what they lead.
  have begins : (ofPieces (first :: others)).isAbsolute = path.isAbsolute ∧
      leadOf path.isAbsolute (ofPieces (first :: others)).segments =
        leadOf path.isAbsolute path.segments := by
    cases absolute : path.isAbsolute with
    | true =>
        obtain rfl := head_of_absolute absolute split
        cases others with
        | nil => exact absurd rfl (rooted absolute)
        | cons second others => exact ⟨isAbsolute_ofPieces_cons (List.cons_ne_nil _ _), rfl⟩
    | false =>
        have filled := head_of_relative absolute split more
        refine ⟨isAbsolute_of_pieces pieces filled, ?_⟩
        simp [leadOf, segments, pieces, split, filled]
  refine ⟨begins.1, short, ?_⟩
  rw [components_eq, components_eq, begins.1, begins.2, filterMap_segments, filterMap_segments,
    pieces, split, List.filterMap_append, List.filterMap_cons_some isComponent, blank,
    ← List.append_assoc, List.dropLast_concat]

/-- The only component of a path that is no root is taken from nothing. -/
theorem isParent_empty (only : path.components = [component]) (notRoot : component ≠ .root) :
    path.IsParent ⟨""⟩ := by
  have relative : path.isAbsolute = false := by
    rw [← Bool.not_eq_true]
    intro absolute
    have whole := only
    rw [components_eq, absolute] at whole
    exact notRoot (List.cons.inj whole).1.symm
  refine ⟨relative ▸ rfl, List.nil_prefix, ?_⟩
  rw [only]
  rfl

theorem isParent_root (absolute : path.isAbsolute = true)
    (split : path.pieces = [""] ++ piece :: blanks)
    (isComponent : Component.ofPiece? piece = some component)
    (blank : blanks.filterMap Component.ofPiece? = []) : path.IsParent ⟨"/"⟩ := by
  have bare : Path.segments ⟨"/"⟩ = [] := by decide +kernel
  have root : Path.components ⟨"/"⟩ = [.root] := by decide +kernel
  refine ⟨absolute ▸ by decide +kernel, bare ▸ List.nil_prefix, ?_⟩
  rw [root, components_eq, filterMap_segments, split, absolute, List.filterMap_append,
    List.filterMap_cons_some isComponent, blank]
  rfl

/-- A path that begins with the piece of its last component has no other component. -/
theorem length_of_head (split : path.pieces = piece :: blanks)
    (isComponent : Component.ofPiece? piece = some component)
    (blank : blanks.filterMap Component.ofPiece? = []) : path.components.length = 1 := by
  have notBlank : isBlankPiece piece = false := by simp [isBlankPiece, isComponent]
  rw [← Bool.not_eq_true, isBlankPiece_iff, not_or] at notBlank
  have relative := isAbsolute_of_pieces split notBlank.1
  rw [components_eq, filterMap_segments, relative, segments, split,
    List.filterMap_cons_some isComponent, blank]
  simp [leadOf, notBlank]

theorem parent?_isParent (found : path.parent? = some parent) : path.IsParent parent := by
  rw [parent?] at found
  split at found
  · cases found
  · cases found
  rename_i last notRoot ends
  split at found
  · rename_i single
    cases found
    obtain ⟨component, only⟩ := List.length_eq_one_iff.mp single
    refine isParent_empty only ?_
    rintro rfl
    rw [only] at ends
    exact notRoot (Option.some.inj ends.symm)
  · rename_i several
    have holds : path.pieces.filterMap Component.ofPiece? ≠ [] := by
      intro none
      have whole := path.components_eq
      rw [filterMap_segments, none, List.append_nil] at whole
      have positive : 0 < path.components.length := by
        rw [List.length_pos_iff]
        rintro empty
        rw [empty] at ends
        cases ends
      have short := leadOf_length path.isAbsolute path.segments
      rw [← whole] at short
      omega
    obtain ⟨front, piece, blanks, component, split, isComponent, blank, kept⟩ := pieces_split holds
    have found := Option.some.inj found
    rw [kept, List.length_reverse, List.reverse_reverse] at found
    split at found
    · rename_i bare
      rw [Bool.and_eq_true, decide_eq_true_eq] at bare
      subst found
      obtain ⟨first, rfl⟩ := List.length_eq_one_iff.mp bare.2
      obtain rfl := head_of_absolute bare.1 split
      exact isParent_root bare.1 split isComponent blank
    · rename_i rooted
      subst found
      have filled : front ≠ [] := by
        rintro rfl
        exact several (length_of_head split isComponent blank)
      refine (trimmed_trims _).isParent (isParent_front split isComponent blank filled ?_)
      rintro absolute rfl
      simp [absolute] at rooted

end

/-! Slashes at the end -/

theorem withoutSlashes_append (text : String) :
    ∃ count, text = FileTree.withoutSlashes text ++ String.ofList (List.replicate count '/') := by
  refine ⟨(text.toList.reverse.takeWhile (· = '/')).length, String.toList_inj.mp ?_⟩
  have slashes : ∀ chars : List Char, chars.takeWhile (· = '/') =
      List.replicate (chars.takeWhile (· = '/')).length '/' := by
    intro chars
    refine List.eq_replicate_iff.mpr ⟨rfl, fun c member => ?_⟩
    simpa using List.all_eq_true.mp List.all_takeWhile c member
  have whole := congrArg List.reverse
    (List.takeWhile_append_dropWhile (p := (· = '/')) (l := text.toList.reverse))
  rw [List.reverse_append, List.reverse_reverse] at whole
  rw [String.toList_append, FileTree.withoutSlashes, String.toList_ofList, String.toList_ofList,
    ← List.reverse_replicate, ← slashes]
  exact whole.symm

theorem segments_withoutSlashes (path : Path) :
    Path.segments ⟨FileTree.withoutSlashes path.text⟩ = path.segments := by
  have more : ∀ (count : Nat) (text : String),
      Path.segments ⟨text ++ String.ofList (List.replicate count '/')⟩ = Path.segments ⟨text⟩ := by
    intro count text
    induction count with
    | zero => simp
    | succ count ih =>
        have one : text ++ String.ofList (List.replicate (count + 1) '/') =
            text ++ String.ofList (List.replicate count '/') ++ "/" ++ "" := by
          apply String.toList_inj.mp
          simp [List.replicate_succ']
        rw [one, segments, pieces_append_slash, List.filter_append, ← segments, ih]
        simp [pieces]
  obtain ⟨count, text⟩ := withoutSlashes_append path.text
  conv_rhs => rw [show path = ⟨path.text⟩ from rfl, text]
  exact (more count _).symm

theorem withoutSlashes_endsWith (text : String) :
    (FileTree.withoutSlashes text).endsWith "/" = false := by
  rw [← Bool.not_eq_true, endsWith_slash_iff]
  rintro ⟨chars, same⟩
  rw [FileTree.withoutSlashes, String.toList_ofList, List.reverse_eq_append_iff] at same
  have first := List.head?_dropWhile_not (· = '/') text.toList.reverse
  rw [same] at first
  simp at first

theorem steps_withoutSlashes (path : Path) :
    FileTree.steps (FileTree.withoutSlashes path.text) = path.segments := by
  have bare : FileTree.steps (Path.mk (FileTree.withoutSlashes path.text)).text = _ :=
    steps_of_not_endsWith (withoutSlashes_endsWith path.text)
  exact bare.trans (segments_withoutSlashes path)

theorem isAbsolute_withoutSlashes (filled : FileTree.withoutSlashes path.text ≠ "") :
    Path.isAbsolute ⟨FileTree.withoutSlashes path.text⟩ = path.isAbsolute := by
  obtain ⟨count, text⟩ := withoutSlashes_append path.text
  obtain ⟨c, chars, split⟩ := List.exists_cons_of_ne_nil
    (show (FileTree.withoutSlashes path.text).toList ≠ [] by simpa using filled)
  rw [Bool.eq_iff_iff, isAbsolute_iff, isAbsolute_iff]
  conv_rhs => rw [text]
  simp [split]

/-- A path of slashes has no segments. -/
theorem segments_of_slashes (empty : FileTree.withoutSlashes path.text = "") :
    path.segments = [] := by
  rw [← segments_withoutSlashes, empty]
  rfl

/-! Plain paths -/

theorem ofPiece?_eq_name {piece text : String} (isName : Component.ofPiece? piece = some (.name text)) :
    piece = text ∧ piece ≠ "" ∧ piece ≠ "." ∧ piece ≠ ".." := by
  rw [Component.ofPiece?] at isName
  split at isName
  · cases isName
  · rename_i filled
    rw [not_or] at filled
    split at isName
    · cases isName
    · rename_i notUp
      cases isName
      exact ⟨rfl, filled.1, filled.2, notUp⟩

theorem components_of_isPlain (plain : path.isPlain = true) :
    path.components = path.names.map .name := by
  rw [isPlain] at plain
  rw [Path.names]
  revert plain
  generalize path.components = components
  intro plain
  induction components with
  | nil => rfl
  | cons component others ih =>
      rw [List.all_cons, Bool.and_eq_true] at plain
      cases component with
      | name text => exact congrArg (Component.name text :: ·) (ih plain.2)
      | root => cases plain.1
      | current => cases plain.1
      | parent => cases plain.1

theorem name_notMem_leadOf (absolute : Bool) (segments : List String) (name : String) :
    .name name ∉ leadOf absolute segments := by
  rw [leadOf]
  split
  · simp
  · split <;> simp

theorem areNames_names (path : Path) : AreNames path.names := by
  intro name member
  obtain ⟨component, among, same⟩ := List.mem_filterMap.mp member
  cases component with
  | name text =>
      cases same
      rw [components_eq, filterMap_segments, List.mem_append] at among
      rcases among with lead | piece
      · exact absurd lead (name_notMem_leadOf _ _ _)
      · obtain ⟨piece, among, isName⟩ := List.mem_filterMap.mp piece
        obtain ⟨rfl, filled, notDot, notUp⟩ := ofPiece?_eq_name isName
        exact ⟨slash_notMem_pieces among, filled, notDot, notUp⟩
  | root => cases same
  | current => cases same
  | parent => cases same

/-- Segments that stand for names only are these names and `.`. -/
theorem filter_dot_of_names {segments names : List String} (filled : ∀ piece ∈ segments, piece ≠ "")
    (stand : segments.filterMap Component.ofPiece? = names.map .name) :
    segments.filter (· ≠ ".") = names := by
  induction segments generalizing names with
  | nil => exact (List.map_eq_nil_iff.mp stand.symm).symm
  | cons piece others ih =>
      rw [List.forall_mem_cons] at filled
      cases stands : Component.ofPiece? piece with
      | none =>
          have blank : isBlankPiece piece = true := by
            rw [isBlankPiece, stands]
            rfl
          obtain rfl := (isBlankPiece_iff.mp blank).resolve_left filled.1
          rw [List.filterMap_cons_none stands] at stand
          simpa using ih filled.2 stand
      | some component =>
          rw [List.filterMap_cons_some stands] at stand
          obtain ⟨name, later, rfl, rfl, same⟩ := List.map_eq_cons_iff.mp stand.symm
          obtain ⟨rfl, _, notDot, _⟩ := ofPiece?_eq_name stands
          simpa [notDot] using ih filled.2 same.symm

theorem leadOf_of_isPlain (plain : path.isPlain = true) :
    leadOf path.isAbsolute path.segments = [] := by
  have whole := path.components_eq
  rw [components_of_isPlain plain] at whole
  cases lead : leadOf path.isAbsolute path.segments with
  | nil => rfl
  | cons first others =>
      rw [lead] at whole
      have member : first ∈ path.names.map Component.name := by simp [whole]
      obtain ⟨name, _, rfl⟩ := List.mem_map.mp member
      exact absurd (lead ▸ List.mem_cons_self) (name_notMem_leadOf _ _ name)

/-- A plain path is relative and does not begin with a `.`; but for further ones, its segments are
its names. -/
theorem segments_of_isPlain (plain : path.isPlain = true) :
    path.isAbsolute = false ∧ path.segments.head? ≠ some "." ∧
      path.segments.filter (· ≠ ".") = path.names := by
  have lead := leadOf_of_isPlain plain
  have whole := path.components_eq
  rw [components_of_isPlain plain, lead, List.nil_append] at whole
  rw [leadOf] at lead
  split at lead
  · cases lead
  rename_i relative
  split at lead
  · cases lead
  rename_i notDot
  refine ⟨by simpa using relative, notDot, filter_dot_of_names (fun piece member => ?_) whole.symm⟩
  simpa using (List.mem_filter.mp member).2

/-- Below a base, a plain path names what its names do. -/
theorem components_join_plain (plain : path.isPlain = true) :
    (base.join path).components = base.components ++ path.names.map .name := by
  obtain ⟨relative, head, _⟩ := segments_of_isPlain plain
  rw [components_join relative head, components_of_isPlain plain]

/-- Whether a path is spelled as the path of a directory only. -/
def SpelledAsDirectory (path : Path) : Prop :=
  path.text = "" ∨ path.text.endsWith "/" = true ∨ ∃ front, path.segments = front ++ ["."]

theorem SpelledAsDirectory.join (spelled : rest.SpelledAsDirectory)
    (relative : rest.isAbsolute = false) : (base.join rest).SpelledAsDirectory := by
  by_cases filled : rest.text = ""
  · rw [SpelledAsDirectory, text_join relative, filled, String.append_empty]
    exact base.opened_cases.imp_right Or.inl
  rcases spelled with none | slash | ⟨front, segments⟩
  · exact absurd none filled
  · exact .inr (.inl ((endsWith_join relative filled).trans slash))
  · refine .inr (.inr ⟨base.segments ++ front, ?_⟩)
    rw [segments_join relative, segments, List.append_assoc]

/-- A plain path is spelled as that of a directory or ends with its last name. -/
theorem isPlain_cases (plain : path.isPlain = true) :
    path.SpelledAsDirectory ∨ ∃ front name, path.text ≠ "" ∧ path.text.endsWith "/" = false ∧
      path.segments = front ++ [name] ∧ IsName name ∧
        path.names = front.filter (· ≠ ".") ++ [name] := by
  obtain ⟨relative, _, names⟩ := segments_of_isPlain plain
  by_cases empty : path.text = ""
  · exact .inl (.inl empty)
  by_cases slash : path.text.endsWith "/" = true
  · exact .inl (.inr (.inl slash))
  rw [Bool.not_eq_true] at slash
  rcases List.eq_nil_or_concat path.segments with none | ⟨front, last, segments⟩
  · rcases head?_pieces relative with bare | ⟨first, others, split, filled⟩
    · have text := congrArg Path.text path.ofPieces_pieces
      rw [bare] at text
      exact absurd text.symm empty
    · rw [Path.segments, split, List.filter_cons_of_pos (by simpa using filled)] at none
      cases none
  · rw [List.concat_eq_append] at segments
    by_cases dot : last = "."
    · subst dot
      exact .inl (.inr (.inr ⟨front, segments⟩))
    · refine .inr ⟨front, last, empty, slash, segments, ?_, ?_⟩
      · refine areNames_names path last ?_
        rw [← names, segments, List.mem_filter]
        exact ⟨by simp, by simpa using dot⟩
      · rw [← names, segments, List.filter_append, List.filter_singleton]
        simp [dot]

theorem parent?_isSome {front : List Component} {name : String}
    (components : path.components = front ++ [.name name]) : ∃ parent, path.parent? = some parent := by
  rw [parent?, components, List.getLast?_concat]
  dsimp only
  split
  · exact ⟨_, rfl⟩
  · exact ⟨_, rfl⟩

/-! Paths of files -/

section
variable {seen : Path} {name : String}

theorem components_join_name (isName : IsName name) :
    (base.join ⟨name⟩).components = base.components ++ [.name name] := by
  rw [← ofNames_singleton, components_join (isAbsolute_ofNames (areNames_singleton isName))
    (head?_segments_ofNames (areNames_singleton isName)),
    components_ofNames (areNames_singleton isName)]
  rfl

theorem isName_of_fileName? (found : path.fileName? = some name) : IsName name := by
  rw [fileName?] at found
  split at found
  · rename_i text last
    cases found
    exact areNames_names path _ (List.mem_filterMap.mpr ⟨_, List.mem_of_getLast? last, rfl⟩)
  · cases found

theorem root_notMem_pieces (path : Path) : .root ∉ path.pieces.filterMap Component.ofPiece? := by
  intro member
  obtain same | ⟨_, _, same⟩ := mem_filterMap_ofPiece? member <;> cases same

/-- The root is the first component of a path or none of them. -/
theorem isAbsolute_iff_root : path.isAbsolute = true ↔ .root ∈ path.components := by
  rw [components, List.mem_append, or_iff_left path.root_notMem_pieces, lead?]
  split
  · rename_i absolute
    simp [absolute]
  · rename_i relative
    split <;> simp [relative]

/-- What is seen from an absolute path is relative. -/
theorem isRelative_relativeTo? (absolute : base.isAbsolute = true)
    (below : base.relativeTo? path = some seen) : seen.isAbsolute = false := by
  rw [← Bool.not_eq_true, isAbsolute_iff_root]
  intro member
  have first : base.components = .root :: base.components.tail := by
    rw [components, lead?, if_pos absolute]
    rfl
  have split : path.components = .root :: (base.components.tail ++ seen.components) := by
    rw [components_relativeTo? below, first]
    rfl
  have behind : .root ∈ path.components.tail := by
    rw [split]
    exact List.mem_append_right _ member
  rw [components] at behind
  cases lead : path.lead? with
  | none =>
      rw [lead] at behind
      exact path.root_notMem_pieces (List.mem_of_mem_tail behind)
  | some component =>
      rw [lead] at behind
      exact path.root_notMem_pieces behind

end

end Path
end AspectLoom
