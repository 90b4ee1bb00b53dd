/-!
Stretches of a text by byte offsets, and the line and column of an offset. A text that is given is
searched for its line breaks; while a text is read, rows and columns are counted on the way.
-/
namespace AspectLoom

structure Span where
  start : Nat
  stop : Nat
deriving DecidableEq, Repr, Inhabited

namespace Span

def size (span : Span) : Nat := span.stop - span.start

def contains (outer inner : Span) : Bool := outer.start ≤ inner.start && inner.stop ≤ outer.stop

end Span

namespace Text

/-- The text between two offsets, if both lie in the text and on character boundaries. -/
def slice? (text : String) (start stop : Nat) : Option String :=
  if start ≤ stop ∧ stop ≤ text.utf8ByteSize then
    String.fromUTF8? (text.toUTF8.extract start stop)
  else none

/-- The text of a span; a span that fits nowhere in the text has none. -/
def slice (text : String) (span : Span) : String := (slice? text span.start span.stop).getD ""

/-- The line that follows the last line break of a text. -/
def lastLine (chars : List Char) : List Char := (chars.reverse.takeWhile (· ≠ '\n')).reverse

/-- Line and column of the end of a text, both counted from one; a column counts bytes. -/
def endPosition (text : String) : Nat × Nat :=
  (text.toList.count '\n' + 1, (String.ofList (lastLine text.toList)).utf8ByteSize + 1)

/-- The text before an offset. An offset that is no place in the text counts as its end. -/
def upTo (text : String) (offset : Nat) : String := (slice? text 0 offset).getD text

/-- Line and column of an offset. -/
def position (text : String) (offset : Nat) : Nat × Nat := endPosition (upTo text offset)

/-- A row and a column, both counted from zero; a column counts bytes. -/
structure Point where
  row : Nat := 0
  column : Nat := 0
deriving DecidableEq, Repr, Inhabited

/-- The point that is reached when one more character has been read. -/
def Point.advance (point : Point) (c : Char) : Point :=
  if c = '\n' then { row := point.row + 1 }
  else { point with column := point.column + c.utf8Size }

/-- The point of an offset, reached by reading the text from its start. -/
def pointAt (text : String) (offset : Nat) : Point :=
  (upTo text offset).toList.foldl Point.advance {}

/-- The text without the characters of a class at its ends. -/
def trimBoth (drop : Char → Bool) (text : String) : String :=
  String.ofList ((text.toList.dropWhile drop).reverse.dropWhile drop).reverse

/-- The two sides of the last place where a separator occurs. -/
def splitLast? (separator : Char) (text : String) : Option (String × String) :=
  let reversed := text.toList.reverse
  let tail := reversed.takeWhile (· ≠ separator)
  match reversed.dropWhile (· ≠ separator) with
  | [] => none
  | _ :: head => some (String.ofList head.reverse, String.ofList tail.reverse)

/-- What follows a given beginning of the text. -/
def stripStart? (start text : String) : Option String :=
  (start.toList.isPrefixOf? text.toList).map String.ofList

end Text
end AspectLoom
