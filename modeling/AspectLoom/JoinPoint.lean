import AspectLoom.Aspect.Spec
import AspectLoom.Program.TargetPackage
import AspectLoom.Sort
/-!
Join points: the references that a pointcut selects. Where several pointcuts select one reference
the last one governs it, and each change of rule is a finding.
-/
namespace AspectLoom

/-- A reference in a woven unit to a function or method. -/
structure Reference where
  site : Site
  unit : CompilationUnit
  id : DeclId
  decl : Declaration
deriving Inhabited

structure JoinPoint where
  site : Site
  decl : DeclId
  /-- The place of the governing pointcut in the specification. -/
  pointcut : Nat
  advice : String
deriving DecidableEq, Repr, Inhabited

namespace TargetPackage

/-- What a use refers to. Units that declare advice are left out. -/
def reference? (package : TargetPackage) (use : Use) : Option Reference := do
  let unit ← package.unit? use.site.unit
  if unit.isAspect then none
  match use.binding with
  | .other => none
  | .function id => return ⟨use.site, unit, id, ← package.symbols.get? id⟩

/-- The references of a package in the order of its uses. -/
def references (package : TargetPackage) : List Reference :=
  package.symbols.uses.toList.filterMap package.reference?

end TargetPackage

namespace Reference

def fullName (reference : Reference) : String := reference.decl.fullName

def location (reference : Reference) : Location :=
  reference.unit.location reference.site.span.start

def joinPoint (reference : Reference) (pointcut : Pointcut) : JoinPoint :=
  ⟨reference.site, reference.id, pointcut.index, pointcut.advice⟩

/-- The pointcuts that select a reference, in order. -/
def selectors (pointcuts : List Pointcut) (reference : Reference) :
    List (Reference × Pointcut) :=
  (pointcuts.filter fun pointcut => pointcut.selects reference.fullName).map fun pointcut =>
    (reference, pointcut)

end Reference

/-- The join points of a package by their sites, in the order in which they were found. -/
structure JoinPoints where
  entries : List (SiteKey × JoinPoint) := []
  findings : List Diagnostic := []
deriving Inhabited

namespace JoinPoints

def conflict (reference : Reference) (pointcut : Pointcut) (overridden : JoinPoint) : Diagnostic :=
  .conflict reference.location reference.fullName overridden.advice pointcut.advice

/-- Puts a reference under the rule of a pointcut. -/
def select (points : JoinPoints) (selected : Reference × Pointcut) : JoinPoints :=
  let (reference, pointcut) := selected
  let key := reference.site.toSiteKey
  let overridden := Assoc.find? key points.entries
  { entries := Assoc.insert key (reference.joinPoint pointcut) points.entries
    findings := points.findings ++ (overridden.map (conflict reference pointcut)).toList }

/-- The join points that pointcuts select in a package. -/
def ofPointcuts (pointcuts : List Pointcut) (package : TargetPackage) : JoinPoints :=
  (package.references.flatMap (Reference.selectors pointcuts)).foldl select {}

/-- The join points of a specification. What is to be said about its patterns comes first. -/
def ofSpec (spec : AspectSpec) (package : TargetPackage) : JoinPoints :=
  let (pointcuts, findings) := spec.pointcuts
  let points := ofPointcuts pointcuts package
  { points with findings := findings ++ points.findings }

def toList (points : JoinPoints) : List JoinPoint := points.entries.map Prod.snd

def isEmpty (points : JoinPoints) : Bool := points.entries.isEmpty

def size (points : JoinPoints) : Nat := points.entries.length

/-- The order of sites in a unit: by start, and what encloses another site before it. -/
def precedes (left right : JoinPoint) : Bool :=
  left.site.span.start < right.site.span.start ||
    (left.site.span.start == right.site.span.start && right.site.span.stop ≤ left.site.span.stop)

def inOrder (points : List JoinPoint) : List JoinPoint := sortBy precedes points

/-- The join points of a unit in the order of their sites. -/
def ofUnit (points : JoinPoints) (unit : UnitId) : List JoinPoint :=
  inOrder (points.toList.filter fun point => point.site.unit == unit)

/-- The units that have join points, in order. -/
def units (points : JoinPoints) : List UnitId :=
  ((points.toList.map fun point => point.site.unit).eraseDups).mergeSort

end JoinPoints
end AspectLoom
