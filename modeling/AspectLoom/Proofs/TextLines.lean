import AspectLoom.Proofs.TextPlaces
import Mathlib.Algebra.GroupWithZero.Nat
import Mathlib.Data.List.Induction
import Mathlib.Data.Prod.Lex
/-!
Lines and columns of places. Searching a text for its line breaks and counting rows and columns while
it is read tell the same, later places have greater positions, and a position leads back to its
place through the lines of the text.
-/
namespace AspectLoom.Text

/-- The lines of a text. A text that ends in a line break has an empty last line. -/
def lines (text : String) : List String := (text.toList.splitOn '\n').map String.ofList

/-- Where a line begins, which is behind the lines before it and their breaks. The first line is
line one. -/
def lineStart (text : String) (line : Nat) : Nat :=
  (((lines text).take (line - 1)).map fun before => before.utf8ByteSize + 1).sum

/-! Reading a text -/

theorem lastLine_concat (chars : List Char) (c : Char) :
    lastLine (chars ++ [c]) = if c = '\n' then [] else lastLine chars ++ [c] := by
  unfold lastLine
  by_cases isBreak : c = '\n' <;> simp [isBreak]

/-- The row of a point counts the line breaks that have been read, and its column the bytes behind
the last of them. -/
theorem foldl_advance (chars : List Char) : chars.foldl Point.advance {} =
    ⟨chars.count '\n', (String.ofList (lastLine chars)).utf8ByteSize⟩ := by
  induction chars using List.reverseRecOn with
  | nil => rfl
  | append_singleton front c ih =>
      rw [List.foldl_append, ih, lastLine_concat]
      by_cases isBreak : c = '\n'
      · simp [Point.advance, isBreak]
      · simp [Point.advance, isBreak]

theorem position_eq (text : String) (offset : Nat) :
    position text offset = ((pointAt text offset).row + 1, (pointAt text offset).column + 1) := by
  rw [pointAt, foldl_advance]
  rfl

/-! The order of positions -/

/-- A point as a pair in the order of rows and then of columns. -/
def Point.rank (point : Point) : Nat ×ₗ Nat := toLex (point.row, point.column)

theorem Point.rank_advance (point : Point) (c : Char) : point.rank < (point.advance c).rank := by
  have filled := c.utf8Size_pos
  rw [Point.rank, Point.rank, Prod.Lex.toLex_lt_toLex, Point.advance]
  split
  · exact .inl (Nat.lt_succ_self _)
  · exact .inr ⟨rfl, Nat.lt_add_of_pos_right filled⟩

theorem Point.rank_foldl (chars : List Char) (point : Point) :
    point.rank ≤ (chars.foldl Point.advance point).rank := by
  induction chars generalizing point with
  | nil => exact le_rfl
  | cons c rest ih => exact (point.rank_advance c).le.trans (ih _)

theorem pointAt_append (before after : String) :
    pointAt (before ++ after) before.utf8ByteSize = before.toList.foldl Point.advance {} := by
  rw [pointAt, upTo_append]

/-- Places that follow each other in a text have points that do. -/
theorem rank_pointAt_lt {text : String} {low high : Nat} (opens : IsPlace text low)
    (closes : IsPlace text high) (before : low < high) :
    (pointAt text low).rank < (pointAt text high).rank := by
  obtain ⟨front, middle, after, rfl, rfl, rfl⟩ := isPlace_split opens closes before.le
  have lower := pointAt_append front (middle ++ after)
  have upper := pointAt_append (front ++ middle) after
  rw [String.utf8ByteSize_append] at upper
  rw [← String.append_assoc] at lower
  rw [lower, upper, String.toList_append, List.foldl_append]
  cases chars : middle.toList with
  | nil =>
      rw [String.toList_eq_nil_iff.mp chars] at before
      simp at before
  | cons c rest => exact (Point.rank_advance _ c).trans_le (Point.rank_foldl rest _)

/-- Lines first and then columns: the order of places in a text is that of their positions. -/
theorem position_lt {text : String} {low high : Nat} (opens : IsPlace text low)
    (closes : IsPlace text high) (before : low < high) :
    toLex (position text low) < toLex (position text high) := by
  have less := rank_pointAt_lt opens closes before
  rw [Point.rank, Point.rank, Prod.Lex.toLex_lt_toLex] at less
  rw [Prod.Lex.toLex_lt_toLex, position_eq, position_eq]
  simpa using less

/-! From a position to its place -/

/-- What stands before a place ends some lines and begins another one. -/
theorem exists_closed (before : List Char) : ∃ closed : List (List Char),
    closed.length = before.count '\n' ∧
    (closed.map fun line => (String.ofList line).utf8ByteSize + 1).sum +
      (String.ofList (lastLine before)).utf8ByteSize = (String.ofList before).utf8ByteSize ∧
    ∀ after, (before ++ after).splitOn '\n' =
      closed ++ (after.splitOn '\n').modifyHead (lastLine before ++ ·) := by
  have kept (pieces : List (List Char)) : pieces.modifyHead ([] ++ ·) = pieces :=
    congrFun List.modifyHead_id pieces
  induction before using List.reverseRecOn with
  | nil => exact ⟨[], rfl, rfl, fun after => (kept _).symm⟩
  | append_singleton front c ih =>
      obtain ⟨closed, counted, size, split⟩ := ih
      rw [lastLine_concat]
      by_cases isBreak : c = '\n'
      · -- The break closes the line that was begun, and an empty one begins.
        have one : "\n".utf8ByteSize = 1 := rfl
        subst isBreak
        refine ⟨closed ++ [lastLine front], by simp [counted], ?_, fun after => ?_⟩
        · simp [one] at size ⊢
          omega
        · rw [List.append_assoc, split, if_pos rfl, kept]
          simp [List.splitOn_cons_eq_if_modifyHead]
      · refine ⟨closed, by simp [counted, isBreak], ?_, fun after => ?_⟩
        · simp [isBreak] at size ⊢
          omega
        · rw [List.append_assoc, split]
          simp [List.splitOn_cons_eq_if_modifyHead, isBreak, Function.comp_def]

/-- A place lies in the line of its position, as many bytes behind the start of the line as its
column is behind column one. -/
theorem place_of_position {text : String} {offset : Nat} (place : IsPlace text offset) :
    ∃ line, (lines text)[(position text offset).1 - 1]? = some line ∧
      (position text offset).2 - 1 ≤ line.utf8ByteSize ∧
      lineStart text (position text offset).1 + ((position text offset).2 - 1) = offset := by
  obtain ⟨before, after, rfl, rfl⟩ := place
  obtain ⟨closed, counted, size, split⟩ := exists_closed before.toList
  obtain ⟨first, others, pieces⟩ := List.exists_cons_of_ne_nil (List.splitOn_ne_nil '\n' after.toList)
  -- The line of the place is what stands before it there and the first piece of what follows.
  have whole : lines (before ++ after) = closed.map String.ofList ++
      String.ofList (lastLine before.toList ++ first) :: others.map String.ofList := by
    rw [lines, String.toList_append, split, pieces]
    simp
  have number : (position (before ++ after) before.utf8ByteSize).1 - 1 =
      (closed.map String.ofList).length := by
    rw [position, upTo_append, List.length_map, counted]
    rfl
  have column : (position (before ++ after) before.utf8ByteSize).2 - 1 =
      (String.ofList (lastLine before.toList)).utf8ByteSize := by
    rw [position, upTo_append]
    rfl
  rw [lineStart, number, column, whole, List.take_left, List.map_map]
  refine ⟨String.ofList (lastLine before.toList ++ first), by simp, by simp, ?_⟩
  simpa [Function.comp_def] using size

end AspectLoom.Text
