import AspectLoom.Text.Span
import Mathlib.Data.List.Basic
/-!
Places in a text. An offset is a place when the text can be cut there, so slices between places are
never empty by accident: they have the size of their span and go together without a seam.
-/
namespace AspectLoom.Text

/-- An offset at which a text can be cut into two texts. -/
def IsPlace (text : String) (offset : Nat) : Prop :=
  ∃ before after, text = before ++ after ∧ before.utf8ByteSize = offset

theorem isPlace_zero (text : String) : IsPlace text 0 := ⟨"", text, by simp, by simp⟩

theorem isPlace_size (text : String) : IsPlace text text.utf8ByteSize := ⟨text, "", by simp, rfl⟩

theorem isPlace_le {text : String} {offset : Nat} (place : IsPlace text offset) :
    offset ≤ text.utf8ByteSize := by
  obtain ⟨before, after, rfl, rfl⟩ := place
  simp

theorem slice?_between (before middle after : String) :
    slice? (before ++ middle ++ after) before.utf8ByteSize
      (before.utf8ByteSize + middle.utf8ByteSize) = some middle := by
  have inside : before.utf8ByteSize ≤ before.utf8ByteSize + middle.utf8ByteSize ∧
      before.utf8ByteSize + middle.utf8ByteSize ≤ (before ++ middle ++ after).utf8ByteSize := by
    simp only [String.utf8ByteSize_append]
    omega
  have cut : (before ++ middle ++ after).toUTF8.extract before.utf8ByteSize
      (before.utf8ByteSize + middle.utf8ByteSize) = middle.toByteArray := by
    simp only [String.toUTF8_eq_toByteArray, String.toByteArray_append, ByteArray.append_assoc,
      ← String.size_toByteArray]
    have shifted := ByteArray.extract_append_size_add (a := before.toByteArray)
      (b := middle.toByteArray ++ after.toByteArray) (i := 0) (j := middle.toByteArray.size)
    rw [Nat.add_zero] at shifted
    rw [shifted]
    exact ByteArray.extract_append_eq_left rfl
  simp only [slice?, if_pos inside, cut, String.fromUTF8?, dif_pos middle.isValidUTF8]
  rfl

theorem slice_between (before middle after : String) :
    slice (before ++ middle ++ after)
      ⟨before.utf8ByteSize, before.utf8ByteSize + middle.utf8ByteSize⟩ = middle := by
  rw [slice, slice?_between, Option.getD_some]

/-- A text up to a place is what stands before the place. -/
theorem upTo_append (before after : String) : upTo (before ++ after) before.utf8ByteSize = before := by
  have cut := slice?_between "" before after
  simp only [String.empty_append, String.utf8ByteSize_empty, Nat.zero_add] at cut
  rw [upTo, cut, Option.getD_some]

/-- Two places cut a text into three texts. -/
theorem isPlace_split {text : String} {start stop : Nat} (opens : IsPlace text start)
    (closes : IsPlace text stop) (ordered : start ≤ stop) :
    ∃ before middle after, text = before ++ middle ++ after ∧ before.utf8ByteSize = start ∧
      start + middle.utf8ByteSize = stop := by
  obtain ⟨before, rest, same, rfl⟩ := opens
  obtain ⟨upTo, after, rfl, rfl⟩ := closes
  have chars : upTo.toList ++ after.toList = before.toList ++ rest.toList := by
    simpa using congrArg String.toList same
  rcases List.append_eq_append_iff.mp chars with ⟨extra, longer, shorter⟩ | ⟨middle, longer, shorter⟩
  · have joined : before = upTo ++ String.ofList extra := by
      apply String.toList_injective
      simpa using longer
    subst joined
    have none : (String.ofList extra).utf8ByteSize = 0 := by
      simp only [String.utf8ByteSize_append] at ordered
      omega
    have empty : String.ofList extra = "" := String.utf8ByteSize_eq_zero_iff.mp none
    exact ⟨upTo, "", after, by simp, by simp [empty], by simp [empty]⟩
  · have joined : upTo = before ++ String.ofList middle := by
      apply String.toList_injective
      simpa using longer
    subst joined
    exact ⟨before, String.ofList middle, after, rfl, rfl, by simp⟩

theorem slice_size {text : String} {start stop : Nat} (opens : IsPlace text start)
    (closes : IsPlace text stop) (ordered : start ≤ stop) :
    start + (slice text ⟨start, stop⟩).utf8ByteSize = stop := by
  obtain ⟨before, middle, after, rfl, rfl, rfl⟩ := isPlace_split opens closes ordered
  rw [slice_between]

/-- A place of a text that lies in its first part is a place of that part. -/
theorem isPlace_left {left right : String} {offset : Nat} (place : IsPlace (left ++ right) offset)
    (inside : offset ≤ left.utf8ByteSize) : IsPlace left offset := by
  have ends : IsPlace (left ++ right) left.utf8ByteSize := ⟨left, right, rfl, rfl⟩
  obtain ⟨before, middle, after, same, size, sizes⟩ := isPlace_split place ends inside
  have whole := slice_between "" left right
  have parts := slice_between "" (before ++ middle) after
  simp only [String.empty_append, String.utf8ByteSize_empty, Nat.zero_add,
    String.utf8ByteSize_append, size, sizes] at whole parts
  rw [same, parts] at whole
  exact ⟨before, middle, whole.symm, size⟩

/-- Slices that meet make one slice. -/
theorem slice_append {text : String} {first second third : Nat} (opens : IsPlace text first)
    (meets : IsPlace text second) (closes : IsPlace text third) (left : first ≤ second)
    (right : second ≤ third) :
    slice text ⟨first, second⟩ ++ slice text ⟨second, third⟩ = slice text ⟨first, third⟩ := by
  obtain ⟨upTo, high, after, rfl, rfl, rfl⟩ := isPlace_split meets closes right
  rw [String.append_assoc] at opens
  obtain ⟨before, low, rfl, rfl⟩ := isPlace_left opens left
  have lower := slice_between before low (high ++ after)
  have upper := slice_between (before ++ low) high after
  have both := slice_between before (low ++ high) after
  simp only [String.utf8ByteSize_append, ← String.append_assoc, ← Nat.add_assoc] at *
  rw [lower, upper, both]

theorem slice_whole (text : String) : slice text ⟨0, text.utf8ByteSize⟩ = text := by
  simpa using slice_between "" text ""

end AspectLoom.Text
