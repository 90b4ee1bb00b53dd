import AspectLoom.Assoc
import AspectLoom.Path
import AspectLoom.Sort
/-!
A tree of files, directories and symbolic links. Resolving a path walks its pieces from the root or
the working directory and follows links on the way; every other operation is said in terms of the
place that a path resolves to.
-/
namespace AspectLoom

/-- The names from the root down. The root itself is the empty place, and always a directory. -/
abbrev Place := List String

inductive Entry where
  | file (bytes : ByteArray)
  | directory
  | link (target : String)
deriving Inhabited

inductive FileError where
  | notFound
  | alreadyExists
  | notDirectory
  | isDirectory
  | nameTooLong
  | tooManyLinks
  /-- The file's bytes are not UTF-8. -/
  | invalidText
  /-- A path with a zero character names nothing. -/
  | zeroInPath
  /-- A file stands where a directory of the overlay belongs. -/
  | blockedByFile
deriving DecidableEq, Repr

namespace FileError

def message : FileError → String
  | notFound => "No such file or directory (os error 2)"
  | alreadyExists => "File exists (os error 17)"
  | notDirectory => "Not a directory (os error 20)"
  | isDirectory => "Is a directory (os error 21)"
  | nameTooLong => "File name too long (os error 36)"
  | tooManyLinks => "Too many levels of symbolic links (os error 40)"
  | invalidText => "stream did not contain valid UTF-8"
  | zeroInPath => "file name contained an unexpected NUL byte"
  | blockedByFile => "not a directory"

end FileError

structure FileTree where
  /-- Every place below the root with what stands there. -/
  entries : List (Place × Entry) := []
  workDir : Place := []
deriving Inhabited

namespace FileTree

def entryAt? (tree : FileTree) : Place → Option Entry
  | [] => some .directory
  | place => Assoc.find? place tree.entries

/-- The names in a directory, in no particular order. -/
def children (tree : FileTree) (place : Place) : List String :=
  tree.entries.filterMap fun (below, _) =>
    if below.dropLast = place then below.getLast? else none

/-- The pieces of a path to walk; a trailing slash asks for a directory, as `.` does. -/
def steps (text : String) : List String :=
  let pieces := Path.pieces ⟨text⟩
  let kept := pieces.filter (· ≠ "")
  if pieces.getLast? = some "" ∧ kept ≠ [] then kept ++ ["."] else kept

def maxLinks : Nat := 40

def maxNameSize : Nat := 255

def maxPathSize : Nat := 4095

-- `again` goes on behind a link; it has one link fewer to follow.
def walkWith (tree : FileTree) (follow : Bool)
    (again : Place → List String → Except FileError Place) :
    Place → List String → Except FileError Place
  | place, [] => .ok place
  | place, piece :: rest =>
    if piece = "." then walkWith tree follow again place rest
    else if piece = ".." then walkWith tree follow again place.dropLast rest
    else if piece.utf8ByteSize > maxNameSize then .error .nameTooLong
    else
      let next := place ++ [piece]
      match tree.entryAt? next with
      | none => if rest.isEmpty then .ok next else .error .notFound
      | some (.file _) => if rest.isEmpty then .ok next else .error .notDirectory
      | some .directory => walkWith tree follow again next rest
      | some (.link target) =>
        if rest.isEmpty && !follow then .ok next
        else again (if target.startsWith "/" then [] else place) (steps target ++ rest)

/-- Where the pieces lead from a directory. Only the last piece may name nothing. -/
def walk (tree : FileTree) (follow : Bool) : Nat → Place → List String → Except FileError Place
  | 0 => walkWith tree follow fun _ _ => .error .tooManyLinks
  | links + 1 => walkWith tree follow (walk tree follow links)

def checkText (text : String) : Except FileError Unit :=
  if text.toList.contains '\x00' then .error .zeroInPath
  else if text = "" then .error .notFound
  else if text.utf8ByteSize > maxPathSize then .error .nameTooLong
  else .ok ()

/-- The place of a path, which may be empty. A link in last position is followed on demand. -/
def place (tree : FileTree) (follow : Bool) (path : Path) : Except FileError Place := do
  checkText path.text
  walk tree follow maxLinks (if path.isAbsolute then [] else tree.workDir) (steps path.text)

def entryAt (tree : FileTree) (follow : Bool) (path : Path) : Except FileError Entry := do
  let place ← tree.place follow path
  match tree.entryAt? place with
  | some entry => .ok entry
  | none => .error .notFound

/-- What a path names, behind all links. -/
def target (tree : FileTree) (path : Path) : Except FileError Entry := tree.entryAt true path

/-- What stands at a path itself, be it a link. -/
def entryOf (tree : FileTree) (path : Path) : Except FileError Entry := tree.entryAt false path

def isDirectory (tree : FileTree) (path : Path) : Bool :=
  match tree.target path with
  | .ok .directory => true
  | _ => false

def isFile (tree : FileTree) (path : Path) : Bool :=
  match tree.target path with
  | .ok (.file _) => true
  | _ => false

def readBytes (tree : FileTree) (path : Path) : Except FileError ByteArray := do
  match ← tree.target path with
  | .file bytes => .ok bytes
  | _ => .error .isDirectory

def readText (tree : FileTree) (path : Path) : Except FileError String := do
  match String.fromUTF8? (← tree.readBytes path) with
  | some text => .ok text
  | none => .error .invalidText

/-- The names in the directory of a path, sorted. -/
def list (tree : FileTree) (path : Path) : Except FileError (List String) := do
  let place ← tree.place true path
  match tree.entryAt? place with
  | some .directory => .ok (sortBy (fun left right => left ≤ right) (tree.children place))
  | some _ => .error .notDirectory
  | none => .error .notFound

def pathOf (place : Place) : Path := ⟨"/" ++ "/".intercalate place⟩

/-- The absolute path of an existing file or directory without links and `..` pieces. -/
def canonical (tree : FileTree) (path : Path) : Except FileError Path := do
  let place ← tree.place true path
  if (tree.entryAt? place).isSome then .ok (pathOf place) else .error .notFound

end FileTree
end AspectLoom
