import AspectLoom.FileTree.Basic
/-!
Snapshots: everything below a directory, by relative path.
-/
namespace AspectLoom.FileTree

def relativeText (names : List String) : String := "/".intercalate names

/-- Everything below a place in the order of the relative paths. Links are not followed. -/
def below (tree : FileTree) (place : Place) : List (String × Entry) :=
  (tree.entries.filterMap fun (inner, entry) =>
    match place.isPrefixOf? inner with
    | some [] | none => none
    | some names => some (relativeText names, entry)).mergeSort fun left right =>
      left.1 ≤ right.1

/-- What is below the directory of a path; a file has nothing below it, a missing path no answer. -/
def snapshot? (tree : FileTree) (path : Path) : Option (List (String × Entry)) :=
  match tree.place true path with
  | .error _ => none
  | .ok place =>
    match tree.entryAt? place with
    | none => none
    | some (.file _) => some []
    | some _ => some (tree.below place)

end AspectLoom.FileTree
