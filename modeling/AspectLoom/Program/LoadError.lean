import AspectLoom.FileTree.Basic
import AspectLoom.Program.Symbols
/-!
Why a package cannot be loaded.
-/
namespace AspectLoom

inductive LoadError where
  | targetNotFound (target : String) (root : Path)
  | emptyPackage (dir : Path)
  | mixedPackages (dir : Path) (first second : String)
  /-- The file is no Go source text. -/
  | badSyntax (file : Path)
  | missingPackageClause (file : Path)
  | file (path : Path) (cause : FileError)
deriving Repr

namespace LoadError

def message : LoadError → String
  | targetNotFound target root =>
    "target package '" ++ target ++ "' not found under " ++ root.text
  | emptyPackage dir => "package directory " ++ dir.text ++ " contains no Go source files"
  | mixedPackages dir first second =>
    "conflicting package names in " ++ dir.text ++ ": '" ++ first ++ "' and '" ++ second ++ "'"
  | badSyntax path => "syntax error in " ++ path.text
  | missingPackageClause path =>
    "syntax error at " ++ (Location.mk path 1 1).text ++ ": missing package clause"
  | file path cause => "io error reading " ++ path.text ++ ": " ++ cause.message

end LoadError
end AspectLoom
