import AspectLoom.Program.GoType
import AspectLoom.Unicode.Class
/-!
Mentions of named types in the text of a type. A mention is a package path, a dot and a name; it
reaches as far as it can, and what lies between two mentions is kept as it is.
-/
namespace AspectLoom

/-- A piece of the text of a type. -/
inductive TypePiece where
  | plain (c : Char)
  | mention (path name : String)
deriving DecidableEq, Repr, Inhabited

namespace TypePiece

def canStartPath (c : Char) : Bool :=
  Unicode.isAsciiLetter c || Unicode.isAsciiDigit c || c == '_'

def isPathChar (c : Char) : Bool :=
  Unicode.isWord c || c == '.' || c == '/' || c == '~' || c == '-'

def canStartName (c : Char) : Bool := Unicode.isAsciiLetter c || c == '_'

/-- Cuts a run of path characters at the last dot that a name follows. The dot is left out. -/
def cutAtLastName : List Char → Option (List Char × List Char)
  | [] => none
  | c :: rest =>
    if isPathChar c then
      match cutAtLastName rest with
      | some (path, following) => some (c :: path, following)
      | none => if c == '.' && rest.head?.any canStartName then some ([], rest) else none
    else none

theorem length_cutAtLastName {chars path following : List Char}
    (cut : cutAtLastName chars = some (path, following)) :
    following.length < chars.length := by
  induction chars generalizing path with
  | nil => simp [cutAtLastName] at cut
  | cons c rest ih => grind [cutAtLastName]

/-- The pieces of a text, from left to right. -/
def ofChars (chars : List Char) : List TypePiece :=
  match chars with
  | [] => []
  | c :: rest =>
    if canStartPath c then
      match _ : cutAtLastName rest with
      | some (path, following) =>
        mention (String.ofList (c :: path)) (String.ofList (following.takeWhile Unicode.isWord)) ::
          ofChars (following.dropWhile Unicode.isWord)
      | none => plain c :: ofChars rest
    else plain c :: ofChars rest
termination_by chars.length
decreasing_by
  · have shorter := length_cutAtLastName ‹_›
    have kept := (List.dropWhile_suffix Unicode.isWord (l := following)).length_le
    simp only [List.length_cons]
    omega
  all_goals simp

end TypePiece

/-- The pieces of a type's text. -/
def GoType.pieces (type : GoType) : List TypePiece := TypePiece.ofChars type.text.toList

end AspectLoom
