import AspectLoom.Text.Span
import AspectLoom.Unicode.Class
/-!
Imports of a file, and the name under which a file refers to an imported package.
-/
namespace AspectLoom

structure Import where
  /-- The name written before the path: an alias, `.` or `_`. -/
  name : Option String
  path : String
deriving DecidableEq, Repr, Inhabited

namespace Import

def isDot (spec : Import) : Bool := spec.name == some "."

def isBlank (spec : Import) : Bool := spec.name == some "_"

/-- A last path segment such as `v2`. -/
def isMajorVersion : List Char → Bool
  | 'v' :: digits => !digits.isEmpty && digits.all Unicode.isAsciiDigit
  | _ => false

/-- Drops an ending such as `.v3`; the digits may be missing. -/
def dropVersionSuffix (segment : List Char) : List Char :=
  let reversed := segment.reverse
  match reversed.dropWhile Unicode.isAsciiDigit with
  | 'v' :: '.' :: head => head.reverse
  | _ => segment

def dropGoMark (segment : List Char) : List Char :=
  (['g', 'o', '-'].isPrefixOf? segment).getD segment

/-- The package name that an import path suggests. -/
def guessName (path : String) : String :=
  let segment := match (path.toList.splitOn '/').reverse with
    | last :: before :: _ => if isMajorVersion last then before else last
    | [last] => last
    | [] => []
  String.ofList ((dropVersionSuffix (dropGoMark segment)).map fun c =>
    if c = '-' ∨ c = '.' then '_' else c)

/-- The written name, else the package's own name where it is known, else a guess. -/
def localName (spec : Import) (packageName : Option String) : String :=
  match spec.name, packageName with
  | some name, _ => name
  | none, some name => name
  | none, none => guessName spec.path

end Import
end AspectLoom
