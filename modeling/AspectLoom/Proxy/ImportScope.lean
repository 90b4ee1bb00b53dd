import AspectLoom.Program.TypeMention
import AspectLoom.Program.Unit
/-!
The names under which a unit reaches packages. A package that the unit does not import gets an
alias of its own when a generated type needs it, and keeps that alias.
-/
namespace AspectLoom

structure ImportScope where
  unit : CompilationUnit
  /-- The known package names by import path. -/
  packageNames : List (String × String)
  /-- The aliases of packages that the unit does not import, by import path. -/
  added : List (String × String) := []
deriving Inhabited

namespace ImportScope

/-- The name that an import of the unit binds. -/
def localName (scope : ImportScope) (spec : Import) : String :=
  spec.localName (Assoc.find? spec.path scope.packageNames)

/-- Whether an import of the unit binds a name. -/
def isLocalName (scope : ImportScope) (name : String) : Bool :=
  scope.unit.imports.any fun spec => !spec.isBlank && scope.localName spec == name

def isTaken (scope : ImportScope) (name : String) : Bool :=
  scope.isLocalName name || scope.added.any fun entry => entry.2 == name

/-- The first free name among `base` with the numbers from `number` on. -/
def numberedAlias (scope : ImportScope) (base : String) : Nat → Nat → String
  | 0, _ => base
  | tries + 1, number =>
    let numbered := base ++ toString number
    if scope.isTaken numbered then scope.numberedAlias base tries (number + 1) else numbered

/-- A free alias for a package. There are fewer taken names than numbers to try. -/
def freshAlias (scope : ImportScope) (path : String) : String :=
  let base := "_ag_" ++ Import.guessName path
  if scope.isTaken base then
    scope.numberedAlias base (scope.unit.imports.length + scope.added.length + 1) 1
  else base

/-- The qualifier of a package's types. Types of the unit's own package and of dot imports have
none, and a path that is the local name of an import is taken for that name. -/
def qualifier (scope : ImportScope) (path : String) : Option String × ImportScope :=
  if path = scope.unit.packagePath then (none, scope)
  else
    match scope.unit.importOf? path with
    | some spec => (if spec.isDot then none else some (scope.localName spec), scope)
    | none =>
      if scope.isLocalName path then (some path, scope)
      else
        match Assoc.find? path scope.added with
        | some name => (some name, scope)
        | none =>
          let name := scope.freshAlias path
          (some name, { scope with added := Assoc.insert path name scope.added })

def spellPiece (scope : ImportScope) : TypePiece → String × ImportScope
  | .plain c => (c.toString, scope)
  | .mention path name =>
    match scope.qualifier path with
    | (some qualifier, scope) => (qualifier ++ "." ++ name, scope)
    | (none, scope) => (name, scope)

def spellPieces (scope : ImportScope) : List TypePiece → String × ImportScope
  | [] => ("", scope)
  | piece :: rest =>
    let (text, scope) := scope.spellPiece piece
    let (texts, scope) := spellPieces scope rest
    (text ++ texts, scope)

/-- A type as the unit writes it. -/
def spell (scope : ImportScope) (type : GoType) : String × ImportScope :=
  scope.spellPieces type.pieces

def spellAll (scope : ImportScope) : List GoType → List String × ImportScope
  | [] => ([], scope)
  | type :: rest =>
    let (text, scope) := scope.spell type
    let (texts, scope) := spellAll scope rest
    (text :: texts, scope)

/-- The added imports as aliases and paths, in the order in which they were needed. -/
def extraImports (scope : ImportScope) : List (String × String) :=
  scope.added.map fun (path, name) => (name, path)

end ImportScope
end AspectLoom
