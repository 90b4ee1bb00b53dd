import AspectLoom.FileTree.Basic
import AspectLoom.Program.LoadError
import AspectLoom.Unicode.Class
/-!
The module path that a source tree declares in its `go.mod` file.
-/
namespace AspectLoom.ModuleFile

def trim (text : String) : String := Text.trimBoth Unicode.isBlank text

/-- The text before a line comment. -/
def beforeComment : List Char → List Char
  | [] => []
  | '/' :: '/' :: _ => []
  | c :: rest => c :: beforeComment rest

/-- The path that a line declares, if it does. -/
def pathOfLine? (line : String) : Option String := do
  let rest ← Text.stripStart? "module" (trim line)
  if rest.toList.head?.all fun c => !Unicode.isBlank c then none
  let path := Text.trimBoth (· = '"') (trim (String.ofList (beforeComment rest.toList)))
  if path = "" then none else some path

def pathOf? (text : String) : Option String :=
  (text.toList.splitOn '\n').findSome? fun line => pathOfLine? (String.ofList line)

/-- The module path of a source tree; a tree without `go.mod` is no module. -/
def read (tree : FileTree) (root : Path) : Except LoadError (Option String) :=
  let path := root.join ⟨"go.mod"⟩
  if tree.isFile path then
    match tree.readText path with
    | .ok text => .ok (pathOf? text)
    | .error cause => .error (.file path cause)
  else .ok none

end AspectLoom.ModuleFile
