import AspectLoom.Program.Layout
/-!
The packages that generated functions use, with the names under which they are imported.
-/
namespace AspectLoom

/-- An import together with the name that it binds. -/
structure NamedImport where
  «alias» : String
  path : String
deriving DecidableEq, Repr, Inhabited

/-- The packages that every proxy uses. -/
structure ProxyImports where
  /-- Declares the context that a proxy hands to its advice. -/
  runtime : NamedImport := ⟨"aspectrt", "golang.org/x/exp/aspectgo/aspect/rt"⟩
  /-- Declares the advice types. -/
  advice : NamedImport := ⟨"agaspect", "agaspect"⟩
deriving DecidableEq, Repr, Inhabited

namespace ProxyImports

/-- The imports for an advice package directly below the root of a layout. -/
def forLayout (layout : Layout) (advicePackage : String) : ProxyImports where
  advice := ⟨advicePackage, layout.importPathFor advicePackage⟩

end ProxyImports
end AspectLoom
