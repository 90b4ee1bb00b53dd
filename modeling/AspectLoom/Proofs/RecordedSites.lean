import AspectLoom.Proofs.PackageFindings
import AspectLoom.Proofs.Selection
/-!
The sites that are recorded for a unit lie to each other as weaving needs it, and so do those of
any join points that pointcuts select.
-/
namespace AspectLoom

open Syntax (Node)

namespace Site

theorem mem_sites {package : TargetPackage} {reference : Reference}
    (member : reference ∈ package.references) : reference.site ∈ package.symbols.sites := by
  obtain ⟨use, used, refers⟩ := TargetPackage.mem_references member
  rw [(TargetPackage.reference_of_use refers).1]
  exact List.mem_map_of_mem used

/-- Of sites that are gathered any two are separable. -/
theorem separable_of_gathered {unit : UnitId} {nodes : List Node} {sites : List Site}
    (gathered : Gathered unit nodes sites) : sites.Pairwise Separable := by
  apply gathered.ordered.imp_of_mem
  intro earlier later earlierMember laterMember leads
  exact separable_of_leads leads (gathered.sized earlier earlierMember).2
    (gathered.sized later laterMember).2

theorem keys_nodup {sites : List Site} (separable : sites.Pairwise Separable) :
    (sites.map Site.toSiteKey).Nodup := by
  apply List.pairwise_map.mpr
  apply separable.imp
  intro left right apart same
  exact apart.1 (congrArg SiteKey.span same)

end Site

theorem Gathered.afterClause {unit : CompilationUnit} {root : Node} {sites : List Site}
    (file : FileLaid unit root)
    (gathered : Gathered unit.id (root.namedChildren.filter Resolver.isDeclared) sites) :
    ∀ site ∈ sites, unit.packageClause.stop ≤ site.span.start := by
  intro site member
  obtain ⟨node, among, inside⟩ := gathered.inside site member
  obtain ⟨named, declared⟩ := List.mem_filter.mp among
  simp only [Resolver.isDeclared, Bool.and_eq_true, bne_iff_ne] at declared
  have behind := file.clauseFirst node named declared.2 declared.1
  exact Nat.le_trans behind ((Span.contains_iff ..).mp inside).1

namespace JoinPoints

/-- The join points of a unit have sites of their own among those that were recorded for it. -/
theorem sites_of_unit (pointcuts : List Pointcut) (package : TargetPackage) (unit : UnitId) :
    let points := (ofPointcuts pointcuts package).ofUnit unit
    (points.map fun point => point.site.toSiteKey).Nodup ∧
      ∀ point ∈ points, point.site ∈ package.symbols.sites.filter fun site => site.unit == unit := by
  have selected := ofPointcuts_selected pointcuts package
  have perm := inOrder_perm
    ((ofPointcuts pointcuts package).toList.filter fun point => point.site.unit == unit)
  have keys : ((ofPointcuts pointcuts package).toList.map fun point => point.site.toSiteKey) =
      (ofPointcuts pointcuts package).entries.map Prod.fst := by
    rw [toList, List.map_map]
    exact List.map_congr_left fun entry member => (selected.keyed entry member).symm
  refine ⟨(perm.map _).nodup_iff.mpr ?_, ?_⟩
  · apply List.Nodup.sublist (List.filter_sublist.map _)
    rw [keys]
    exact selected.distinct
  · intro point member
    obtain ⟨among, own⟩ := List.mem_filter.mp (perm.mem_iff.mp member)
    obtain ⟨entry, entryMember, rfl⟩ := List.mem_map.mp among
    obtain ⟨reference, referenceMember, same, _⟩ := selected.refers entry entryMember
    refine List.mem_filter.mpr ⟨?_, own⟩
    rw [same]
    exact Site.mem_sites referenceMember

end JoinPoints

theorem SitesNested.of_gathered {unit : CompilationUnit} {root : Node} {recorded : List Site}
    {points : List JoinPoint} (file : FileLaid unit root)
    (gathered : Gathered unit.id (root.namedChildren.filter Resolver.isDeclared) recorded)
    (distinct : (points.map fun point => point.site.toSiteKey).Nodup)
    (among : ∀ point ∈ points, point.site ∈ recorded) :
    SitesNested unit (points.map JoinPoint.site) := by
  have : Std.Symm Site.Separable := ⟨fun _ _ => Site.Separable.symm⟩
  have separable := Site.separable_of_gathered gathered
  have sized : ∀ point ∈ points, point.site.Sized :=
    fun point member => (gathered.sized _ (among point member)).2
  refine ⟨?_, ?_, ?_, ?_⟩
  · exact List.forall_mem_map.mpr fun point member =>
      gathered.afterClause file point.site (among point member)
  · exact List.forall_mem_map.mpr fun point member => (sized point member).filled
  · refine List.forall_mem_map.mpr fun point member operand name type shape => ?_
    obtain ⟨ordered, inside, _⟩ := (sized point member).operand operand name type shape
    exact ⟨ordered, inside⟩
  · apply List.pairwise_map.mpr
    apply (List.pairwise_map.mp distinct).imp_of_mem
    intro left right leftMember rightMember different
    apply separable.forall (among left leftMember) (among right rightMember)
    intro same
    exact different (congrArg Site.toSiteKey same)

namespace TargetPackage

/-- The sites that are recorded for a unit have different keys, follow the package clause and are
apart, or one is in the operand of one that was recorded later. So the join points that pointcuts
select can be woven, and each begins behind the end of an earlier one or in its operand. -/
theorem resolved_sites_nested {packages : PackageSource} {path : String}
    {units : List (CompilationUnit × Node)} {package : TargetPackage}
    (laid : ∀ file ∈ units, FileLaid file.1 file.2)
    (distinct : (units.map fun file => file.1.id).Nodup)
    (resolves : resolved packages path units = .ok package) :
    ∀ unit ∈ package.units,
      let sites := package.symbols.sites.filter fun site => site.unit == unit.id
      (sites.map Site.toSiteKey).Nodup ∧
      (∀ site ∈ sites, unit.packageClause.stop ≤ site.span.start) ∧
      sites.Pairwise (fun earlier later =>
        earlier.span.Apart later.span ∨ earlier.InOperand later) ∧
      ∀ pointcuts,
        let points := (JoinPoints.ofPointcuts pointcuts package).ofUnit unit.id
        SitesNested unit (points.map JoinPoint.site) ∧
          (JoinPoints.inOrder points).Pairwise JoinPoint.Follows := by
  obtain ⟨found, _, entered, unitsEq, _, _, gathered⟩ := resolved_findings resolves
  have sitesEq : package.symbols.sites = found.map Finding.site := by
    rw [entered, SymbolTable.notes_sites]
    rfl
  intro unit member
  rw [unitsEq] at member
  obtain ⟨⟨_, root⟩, fileMember, rfl⟩ := List.mem_map.mp member
  have file := laid _ fileMember
  have own := (gathered (fun other among => (laid other among).laid) distinct).1 _ fileMember
  unfold UnitGathered at own
  rw [← sitesEq] at own
  refine ⟨Site.keys_nodup (Site.separable_of_gathered own), own.afterClause file, own.ordered, ?_⟩
  intro pointcuts
  obtain ⟨keys, among⟩ := JoinPoints.sites_of_unit pointcuts package _
  have nested := SitesNested.of_gathered file own keys among
  exact ⟨nested, JoinPoints.inOrder_follows nested⟩

/-- A file in which a method is named behind a call of a function. -/
def nestedFile : CompilationUnit × Node :=
  (CompilationUnit.parse 0 ⟨"/s/m.go"⟩ ⟨"m.go"⟩ "p"
    "package p\ntype T int\nfunc f() T { return 0 }\nfunc (t T) M() {}\nfunc g() { f().M() }\n"
    false).toOption.getD default

def nestedSource : PackageSource := ⟨{}, ⟨⟨"/s"⟩, "p"⟩⟩

theorem nestedFile_resolves : ∃ package, resolved nestedSource "p" [nestedFile] = .ok package ∧
    package.symbols.sites.map (fun site => site.span) = [⟨74, 75⟩, ⟨74, 79⟩] := by
  have spans : ((resolved nestedSource "p" [nestedFile]).toOption.map fun package =>
      package.symbols.sites.map fun site => site.span) = some [⟨74, 75⟩, ⟨74, 79⟩] := by
    decide +kernel
  cases resolves : resolved nestedSource "p" [nestedFile] with
  | error cause =>
      rw [resolves] at spans
      cases spans
  | ok package =>
      rw [resolves] at spans
      exact ⟨package, rfl, Option.some.inj spans⟩

theorem resolved_sites_nested_method :
    FileLaid nestedFile.1 nestedFile.2 ∧
      ∃ package, resolved nestedSource "p" [nestedFile] = .ok package ∧
        package.symbols.sites.map (fun site => site.span) = [⟨74, 75⟩, ⟨74, 79⟩] ∧
        ∀ unit ∈ package.units, ∀ pointcuts, SitesNested unit
          (((JoinPoints.ofPointcuts pointcuts package).ofUnit unit.id).map JoinPoint.site) := by
  have laid : ∀ file ∈ [nestedFile], FileLaid file.1 file.2 := by decide +kernel
  obtain ⟨package, resolves, spans⟩ := nestedFile_resolves
  refine ⟨laid _ List.mem_cons_self, package, resolves, spans, ?_⟩
  intro unit member pointcuts
  have distinct : ([nestedFile].map fun file => file.1.id).Nodup := by decide
  exact ((resolved_sites_nested laid distinct resolves unit member).2.2.2 pointcuts).1

end TargetPackage
end AspectLoom
