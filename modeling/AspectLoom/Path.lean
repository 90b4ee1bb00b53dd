/-!
Slash-separated paths. A path is its text; what it names is its list of components. Doubled and
trailing slashes and inner `.` pieces are no components, a leading `.` is one, and `..` is never
resolved, so two spellings are the same path exactly when their components agree.
-/
namespace AspectLoom

inductive Component where
  | root
  | current
  | parent
  | name (text : String)
deriving DecidableEq, Repr, Inhabited

namespace Component

def text : Component → String
  | root => "/"
  | current => "."
  | parent => ".."
  | name text => text

def rank : Component → Nat
  | root => 0
  | current => 1
  | parent => 2
  | name _ => 3

-- Names compare by code point, which is the order of their bytes.
def before : Component → Component → Bool
  | name left, name right => decide (left < right)
  | left, right => decide (left.rank < right.rank)

/-- The component a piece between slashes stands for; an empty piece and `.` stand for none. -/
def ofPiece? (piece : String) : Option Component :=
  if piece = "" ∨ piece = "." then none
  else if piece = ".." then some parent
  else some (name piece)

end Component

structure Path where
  text : String
deriving Repr, Inhabited

namespace Path

instance : ToString Path := ⟨Path.text⟩

/-- The text between slashes, in order, empty pieces included. -/
def pieces (path : Path) : List String :=
  (path.text.toList.splitOn '/').map String.ofList

def ofPieces (pieces : List String) : Path := ⟨"/".intercalate pieces⟩

def isAbsolute (path : Path) : Bool := path.text.startsWith "/"

def isRelative (path : Path) : Bool := !path.isAbsolute

/-- The component that the first piece alone decides: the root, or a leading `.`. -/
def lead? (path : Path) : Option Component :=
  if path.isAbsolute then some .root
  else if path.pieces.head? = some "." then some .current
  else none

def components (path : Path) : List Component :=
  path.lead?.toList ++ path.pieces.filterMap Component.ofPiece?

/-- Paths are compared by what they name, not by their spelling. -/
instance : BEq Path := ⟨fun left right => left.components == right.components⟩

def lexBefore : List Component → List Component → Bool
  | [], [] => false
  | [], _ :: _ => true
  | _ :: _, [] => false
  | left :: lefts, right :: rights =>
    if left = right then lexBefore lefts rights else left.before right

def before (left right : Path) : Bool := lexBefore left.components right.components

/-- The second path seen from the first; an absolute path stands for itself. -/
def join (base path : Path) : Path :=
  if path.isAbsolute then path
  else if base.text = "" || base.text.endsWith "/" then ⟨base.text ++ path.text⟩
  else ⟨base.text ++ "/" ++ path.text⟩

def ofComponents (components : List Component) : Path :=
  components.foldl (fun path component => path.join ⟨component.text⟩) ⟨""⟩

def isBlankPiece (piece : String) : Bool := (Component.ofPiece? piece).isNone

def trimEnd (pieces : List String) : List String :=
  (pieces.reverse.dropWhile isBlankPiece).reverse

-- The piece that decides the lead is kept even where it would be blank further on.
def trimmed (path : Path) : Path :=
  if path.lead?.isSome then
    match path.pieces with
    | [] => ⟨""⟩
    | first :: rest =>
      let kept := trimEnd rest
      if first = "" && kept.isEmpty then ⟨"/"⟩ else ofPieces (first :: kept)
  else ofPieces (trimEnd path.pieces)

/-- Drops pieces until the given number of components is gone. -/
def dropCounted : Nat → List String → List String
  | 0, pieces => pieces
  | _ + 1, [] => []
  | count + 1, piece :: pieces =>
    if isBlankPiece piece then dropCounted (count + 1) pieces else dropCounted count pieces

/-- What is left after the first components, as it is spelled in the path. -/
def dropComponents (count : Nat) (path : Path) : Path :=
  match count with
  | 0 => path.trimmed
  | count + 1 =>
    let rest := if path.lead?.isSome then dropCounted count path.pieces
      else dropCounted (count + 1) path.pieces
    ofPieces (trimEnd (rest.dropWhile isBlankPiece))

/-- The path relative to a base, or nothing when its components do not start with the base's. -/
def relativeTo? (base path : Path) : Option Path :=
  if base.components.isPrefixOf path.components then
    some (path.dropComponents base.components.length)
  else none

/-- Component-wise: `/a` is above `/a` and `/a/b`, not above `/ab`. -/
def isAbove (base path : Path) : Bool := base.components.isPrefixOf path.components

def fileName? (path : Path) : Option String :=
  match path.components.getLast? with
  | some (.name text) => some text
  | _ => none

/-- The path without its last component; the root and the empty path have no parent. -/
def parent? (path : Path) : Option Path :=
  match path.components.getLast? with
  | none | some .root => none
  | some _ =>
    if path.components.length = 1 then some ⟨""⟩
    else
      let kept := (path.pieces.reverse.dropWhile isBlankPiece).drop 1
      some (if path.isAbsolute && kept.length = 1 then ⟨"/"⟩
        else Path.trimmed (ofPieces kept.reverse))

/-- Every name and `..` in order, with `.` pieces and doubled slashes gone. -/
def normalized (path : Path) : Path := ofComponents path.components

end Path
end AspectLoom
