import AspectLoom.Proofs.IndexedTypes
import AspectLoom.Proofs.Lookups
/-!
The packages of type names. In a file a qualifier names the package of an import, and a bare name a
type of the package itself, else of a package that is imported with a dot, else a predeclared one.
An index qualifies the names in its types by these packages, but for two sorts of bare names, which
it overlooks: those of dot imports, and those that the package declares anew although every package
can name them.
-/
namespace AspectLoom

open Actions PackageCache
open Syntax (Node)

/-- Two names with one end differ by what stands before it. -/
theorem GoType.named_inj {path other name : String} :
    path ++ "." ++ name = other ++ "." ++ name ↔ path = other := by
  rw [String.append_left_inj, String.append_left_inj]

theorem GoType.named_ne (path name : String) : path ++ "." ++ name ≠ name := by
  intro same
  have lengths := congrArg String.length same
  rw [String.length_append, String.length_append] at lengths
  have dot : ".".length = 1 := by decide
  omega

/-! What names stand for -/

/-- The packages of a source tree by their import paths. -/
abbrev Packages := String → Option PackageIndex

namespace Import

/-- The name under which a file refers to a package that it imports. Of a package outside the tree
only the path is known, and the name is the one that it suggests. -/
def nameIn (packages : Packages) (spec : Import) : String :=
  spec.localName ((packages spec.path).map PackageIndex.name)

/-- An import gives a name to its package. -/
structure Binds (packages : Packages) (spec : Import) (name : String) : Prop where
  notBlank : spec.isBlank = false
  notDot : spec.isDot = false
  named : spec.nameIn packages = name

instance (packages : Packages) (spec : Import) (name : String) :
    Decidable (spec.Binds packages name) :=
  decidable_of_iff (spec.isBlank = false ∧ spec.isDot = false ∧ spec.nameIn packages = name)
    ⟨fun ⟨notBlank, notDot, named⟩ => ⟨notBlank, notDot, named⟩,
      fun ⟨notBlank, notDot, named⟩ => ⟨notBlank, notDot, named⟩⟩

/-- A dot import gives access to a type. -/
def Opens (packages : Packages) (spec : Import) (name : String) : Prop :=
  spec.isDot = true ∧ ∃ index, packages spec.path = some index ∧ index.hasType name = true

end Import

namespace TypeName

/-- The package that declares what a name in a file stands for; predeclared types have none. -/
inductive DeclaredBy (packages : Packages) (own : PackageIndex) (imports : List Import) :
    TypeName → Option String → Prop where
  | imported {spec : Import} {qualifier name : String} (member : spec ∈ imports)
      (binds : spec.Binds packages qualifier)
      (only : ∀ other ∈ imports, other.Binds packages qualifier → other.path = spec.path) :
      DeclaredBy packages own imports ⟨some qualifier, name⟩ (some spec.path)
  | own {name : String} (declares : own.hasType name = true) :
      DeclaredBy packages own imports ⟨none, name⟩ (some own.path)
  | opened {spec : Import} {name : String} (undeclared : own.hasType name = false)
      (member : spec ∈ imports) (opens : spec.Opens packages name) :
      DeclaredBy packages own imports ⟨none, name⟩ (some spec.path)
  | predeclared {name : String} (undeclared : own.hasType name = false)
      (unopened : ∀ spec ∈ imports, ¬spec.Opens packages name)
      (known : GoType.predeclared.contains name = true) :
      DeclaredBy packages own imports ⟨none, name⟩ none

/-- A name in a canonical type, by the package that declares it. -/
def within (name : TypeName) : Option String → String
  | some path => path ++ "." ++ name.name
  | none => name.name

/-- A bare name that stands for a type of a dot import, or for one of the package that has the name
of a predeclared type. -/
def Overlooked (packages : Packages) (own : PackageIndex) (imports : List Import)
    (name : TypeName) : Prop :=
  name.qualifier = none ∧
    if own.hasType name.name then GoType.predeclared.contains name.name = true
    else ∃ spec ∈ imports, spec.Opens packages name.name

end TypeName

/-! Imports of a file -/

/-- What an import adds to the names that a file knows. -/
def bindName (packages : Packages) (aliases : List (String × String)) (spec : Import) :
    List (String × String) :=
  if spec.isBlank ∨ spec.isDot then aliases
  else Assoc.insert (spec.nameIn packages) spec.path aliases

section
variable {packages : Packages} {own : PackageIndex} {imports : List Import} {spec : Import}
  {aliases : List (String × String)} {qualifier path : String}

theorem find?_bindName : Assoc.find? qualifier (bindName packages aliases spec) =
    if spec.Binds packages qualifier then some spec.path else Assoc.find? qualifier aliases := by
  unfold bindName
  by_cases silent : spec.isBlank ∨ spec.isDot
  · rw [if_pos silent, if_neg]
    rintro ⟨notBlank, notDot, _⟩
    simp [notBlank, notDot] at silent
  · obtain ⟨notBlank, notDot⟩ := not_or.mp silent
    rw [if_neg silent, Assoc.find?_insert]
    by_cases named : spec.nameIn packages = qualifier
    · rw [if_pos named, if_pos ⟨by simpa using notBlank, by simpa using notDot, named⟩]
    · rw [if_neg named, if_neg fun binds => named binds.named]

/-- A name that imports give to one package only is known by that package. -/
theorem find?_bindNames (only : ∀ other ∈ imports, other.Binds packages qualifier → other.path = path)
    (held : (∃ spec ∈ imports, spec.Binds packages qualifier) ∨
      Assoc.find? qualifier aliases = some path) :
    Assoc.find? qualifier (imports.foldl (bindName packages) aliases) = some path := by
  induction imports generalizing aliases with
  | nil =>
      obtain ⟨_, none, _⟩ | held := held
      · cases none
      · exact held
  | cons spec rest ih =>
      refine ih (fun other member => only other (List.mem_cons_of_mem _ member)) ?_
      rw [find?_bindName]
      by_cases binds : spec.Binds packages qualifier
      · exact .inr (by rw [if_pos binds, only spec List.mem_cons_self binds])
      · rw [if_neg binds]
        refine held.imp_left ?_
        rintro ⟨other, member, otherBinds⟩
        rcases List.mem_cons.mp member with rfl | later
        · exact absurd otherBinds binds
        · exact ⟨other, later, otherBinds⟩

/-! Names in canonical types -/

/-- A declared name is spelled by the package that declares it just when it is not overlooked. -/
theorem nameText_within {context : TypeContext} {name : TypeName} {declaring : Option String}
    (packagePath : context.packagePath = own.path)
    (bound : context.aliases = imports.foldl (bindName packages) [])
    (foreign : ∀ spec ∈ imports, spec.path ≠ own.path)
    (declared : name.DeclaredBy packages own imports declaring) (written : String) :
    context.nameText name written = name.within declaring ↔
      ¬name.Overlooked packages own imports := by
  cases declared with
  | @imported spec qualifier name member binds only =>
      have known : context.importPath? qualifier = some spec.path := by
        rw [TypeContext.importPath?, bound]
        exact find?_bindNames only (.inl ⟨spec, member, binds⟩)
      refine iff_of_true ?_ fun ⟨bare, _⟩ => by cases bare
      simp only [TypeContext.nameText, known]
      rfl
  | @own name declares =>
      have overlooked : TypeName.Overlooked packages own imports ⟨none, name⟩ ↔
          GoType.predeclared.contains name = true := by
        simp [TypeName.Overlooked, declares]
      rw [overlooked, TypeContext.nameText, TypeContext.localType, packagePath]
      by_cases known : GoType.predeclared.contains name = true
      · rw [if_pos known]
        exact iff_of_false (GoType.named_ne own.path name).symm (not_not_intro known)
      · rw [if_neg known]
        exact iff_of_true rfl known
  | @opened spec name undeclared member opens =>
      have overlooked : TypeName.Overlooked packages own imports ⟨none, name⟩ := by
        refine ⟨rfl, ?_⟩
        rw [if_neg (by simp [undeclared])]
        exact ⟨spec, member, opens⟩
      refine iff_of_false (fun same => ?_) (not_not_intro overlooked)
      rw [TypeContext.nameText, TypeContext.localType, packagePath] at same
      split at same
      · exact GoType.named_ne spec.path name same.symm
      · exact foreign spec member (GoType.named_inj.mp same).symm
  | @predeclared name undeclared unopened known =>
      have kept : ¬TypeName.Overlooked packages own imports ⟨none, name⟩ := by
        rintro ⟨_, opened⟩
        rw [if_neg (by simp [undeclared])] at opened
        obtain ⟨spec, member, opens⟩ := opened
        exact unopened spec member opens
      refine iff_of_true ?_ kept
      rw [TypeContext.nameText, TypeContext.localType, if_pos known]
      rfl

end
end AspectLoom
