import AspectLoom.Proofs.PackageFindings
import AspectLoom.Proofs.Selection
/-!
Declarations are numbered by their full names, so the declaration behind a number need not be the
one that a form was chosen for. Full names of functions and methods never meet, though, as long as
no package path begins like a receiver, and the form suits the other declaration too.
-/
namespace AspectLoom

open Actions PackageCache
open Syntax (Node)

namespace Declaration

variable {decl : Declaration}

theorem fullName_method (method : decl.receiver ≠ none) : decl.fullName.toList.head? = some '(' := by
  unfold fullName
  cases receiver : decl.receiver with
  | none => exact absurd receiver method
  | some type => simp

theorem fullName_function (function : decl.receiver = none) (plain : '(' ∉ decl.packagePath.toList) :
    decl.fullName.toList.head? ≠ some '(' := by
  unfold fullName
  rw [function]
  cases chars : decl.packagePath.toList with
  | nil => simp [chars]
  | cons first rest =>
      rw [chars] at plain
      intro begins
      simp only [String.toList_append, chars, List.cons_append, List.head?_cons] at begins
      cases begins
      exact plain List.mem_cons_self

end Declaration

/-- No package in a cache has a path with a parenthesis. -/
def PackageCache.Plain (cache : PackageCache) : Prop :=
  ∀ path index, cache.known? path = some (some index) → '(' ∉ path.toList

theorem PackageCache.plain_of_names {cache : PackageCache}
    (plain : ∀ entry ∈ cache.packageNames, '(' ∉ entry.1.toList) : cache.Plain := by
  intro path index found
  apply plain (path, index.name)
  apply mem_sortBy.mpr
  exact List.mem_filterMap.mpr ⟨_, Assoc.mem_of_find? found, rfl⟩

theorem Declaration.function_iff {decl other : Declaration} {cache : PackageCache}
    (plain : cache.Plain) (known : decl.KnownIn cache) (otherKnown : other.KnownIn cache)
    (same : decl.fullName = other.fullName) : decl.receiver = none ↔ other.receiver = none := by
  have begins : ∀ left right : Declaration, left.KnownIn cache → left.fullName = right.fullName →
      left.receiver = none → right.receiver = none := by
    intro left right leftKnown equal function
    obtain ⟨index, found⟩ := leftKnown function
    by_contra method
    apply fullName_function function (plain _ _ found)
    rw [equal]
    exact fullName_method method
  exact ⟨begins decl other known same, begins other decl otherKnown same.symm⟩

theorem Shape.suits_iff {shape : Shape} {decl other : Declaration}
    (same : decl.receiver = none ↔ other.receiver = none) : shape.Suits decl ↔ shape.Suits other := by
  cases shape with
  | ident name => exact same
  | qualified qualifier name => exact same
  | selector operand name type => exact not_congr same
  | unsupported kind => rfl

namespace SymbolTable

variable {table : SymbolTable}

/-- Whether the number that a use has is that of a declaration with the full name of one that the
form of the use suits. -/
def Backs (table : SymbolTable) (cache : PackageCache) (use : Use) : Prop :=
  ∀ id, use.binding = .function id → ∃ stored origin, table.get? id = some stored ∧
    stored.fullName = origin.fullName ∧ origin.KnownIn cache ∧ use.site.shape.Suits origin

/-- A table all of which comes from packages in a cache. -/
structure Accounts (table : SymbolTable) (cache : PackageCache) : Prop where
  known : ∀ id decl, table.get? id = some decl → decl.KnownIn cache
  backed : ∀ use ∈ table.uses.toList, table.Backs cache use

theorem backs_kept {after : SymbolTable} {cache : PackageCache} {use : Use}
    (backs : table.Backs cache use)
    (kept : ∀ id known, table.get? id = some known → after.get? id = some known) :
    after.Backs cache use := by
  intro id bound
  obtain ⟨stored, origin, held, rest⟩ := backs id bound
  exact ⟨stored, origin, kept id stored held, rest⟩

theorem note_accounts {cache : PackageCache} {finding : Finding} (accounts : table.Accounts cache)
    (holds : finding.Holds cache) : (table.note finding).Accounts cache := by
  unfold note
  cases found : finding.decl with
  | none =>
      refine ⟨accounts.known, ?_⟩
      intro use member
      simp only [record, Array.toList_push] at member
      rcases List.mem_append.mp member with old | new
      · exact backs_kept (accounts.backed use old) fun _ _ held => held
      · cases List.mem_singleton.mp new
        rintro id ⟨⟩
  | some decl =>
      obtain ⟨suits, known⟩ := holds decl found
      refine ⟨?_, ?_⟩
      · intro id other held
        rcases add_only held with old | rfl
        · exact accounts.known id other old
        · exact known
      · intro use member
        simp only [record, Array.toList_push, add_uses] at member
        rcases List.mem_append.mp member with old | new
        · exact backs_kept (accounts.backed use old) fun _ _ held => add_kept decl held
        · cases List.mem_singleton.mp new
          rintro id ⟨⟩
          obtain ⟨stored, held, same⟩ := table.add_names decl
          exact ⟨stored, decl, held, same, known, suits⟩

theorem notes_accounts {cache : PackageCache} (found : List Finding) :
    ∀ table : SymbolTable, table.Accounts cache → (∀ finding ∈ found, finding.Holds cache) →
      (found.foldl note table).Accounts cache := by
  induction found with
  | nil => exact fun _ accounts _ => accounts
  | cons finding rest ih =>
      intro table accounts holds
      exact ih _ (note_accounts accounts (holds finding List.mem_cons_self))
        fun other member => holds other (List.mem_cons_of_mem _ member)

/-- The declaration behind a use is one that its form suits. -/
theorem accounts_suits {cache : PackageCache} (accounts : table.Accounts cache)
    (plain : cache.Plain) {use : Use} {id : DeclId} (member : use ∈ table.uses.toList)
    (bound : use.binding = .function id) :
    ∃ decl, table.get? id = some decl ∧ use.site.shape.Suits decl := by
  obtain ⟨stored, origin, held, same, known, suits⟩ := accounts.backed use member id bound
  exact ⟨stored, held, (Shape.suits_iff (Declaration.function_iff plain
    (accounts.known id stored held) known same)).mpr suits⟩

end SymbolTable

/-- A join point whose declaration is known and suits its form. -/
def JoinPoint.Fits (package : TargetPackage) (point : JoinPoint) : Prop :=
  ∃ decl, package.symbols.get? point.decl = some decl ∧ point.site.shape.Suits decl

namespace TargetPackage

theorem resolved_accounts {packages : PackageSource} {path : String}
    {units : List (CompilationUnit × Node)} {package : TargetPackage}
    (resolves : resolved packages path units = .ok package) :
    ∃ cache, package.symbols.Accounts cache ∧ package.packageNames = cache.packageNames := by
  obtain ⟨found, cache, entered, _, names, holds, _⟩ := resolved_findings resolves
  refine ⟨cache, ?_, names⟩
  rw [entered]
  refine SymbolTable.notes_accounts found {} ⟨?_, List.forall_mem_nil _⟩ holds
  intro id decl held
  cases held

theorem load_resolved {tree : FileTree} {sourceRoot : Path} {target suffix : String}
    {package : TargetPackage} (loads : load tree sourceRoot target suffix = .ok package) :
    ∃ packages path units, resolved packages path units = .ok package := by
  unfold load at loads
  split at loads
  · obtain ⟨root, _, loads⟩ := bind_ok loads
    obtain ⟨module, _, loads⟩ := bind_ok loads
    obtain ⟨⟨dir, path⟩, _, loads⟩ := bind_ok loads
    obtain ⟨units, _, loads⟩ := bind_ok loads
    exact ⟨_, path, units, loads⟩
  · cases loads

/-- What pointcuts select in a resolved package can be told by its form alone. -/
theorem resolved_fits {packages : PackageSource} {path : String}
    {units : List (CompilationUnit × Node)} {package : TargetPackage}
    (resolves : resolved packages path units = .ok package)
    (plain : ∀ entry ∈ package.packageNames, '(' ∉ entry.1.toList) (pointcuts : List Pointcut) :
    ∀ point ∈ (JoinPoints.ofPointcuts pointcuts package).toList, point.Fits package := by
  obtain ⟨cache, accounts, names⟩ := resolved_accounts resolves
  rw [names] at plain
  intro point member
  obtain ⟨entry, among, rfl⟩ := List.mem_map.mp member
  obtain ⟨reference, referenceMember, site, id⟩ :=
    (JoinPoints.ofPointcuts_selected pointcuts package).refers entry among
  obtain ⟨use, used, refers⟩ := mem_references referenceMember
  obtain ⟨same, bound, _⟩ := reference_of_use refers
  obtain ⟨decl, held, suits⟩ :=
    SymbolTable.accounts_suits accounts (PackageCache.plain_of_names plain) used bound
  refine ⟨decl, ?_, ?_⟩
  · rw [id]
    exact held
  · rw [site, same]
    exact suits

theorem selected_fits {tree : FileTree} {sourceRoot : Path} {target suffix : String}
    {package : TargetPackage} (loads : load tree sourceRoot target suffix = .ok package)
    (plain : ∀ entry ∈ package.packageNames, '(' ∉ entry.1.toList) (pointcuts : List Pointcut) :
    ∀ point ∈ (JoinPoints.ofPointcuts pointcuts package).toList, point.Fits package := by
  obtain ⟨packages, path, units, resolves⟩ := load_resolved loads
  exact resolved_fits resolves plain pointcuts

end TargetPackage
end AspectLoom
