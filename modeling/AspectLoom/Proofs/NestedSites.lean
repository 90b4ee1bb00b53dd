import AspectLoom.JoinPoint
import AspectLoom.Proofs.TextPlaces
import Mathlib.Data.List.Basic
/-!
How the reference sites of a unit lie to each other. Two sites are apart, or one of them lies in
the operand of the other; in source order a site then comes before all that lies in its operand.
-/
namespace AspectLoom

/-- Two stretches without a common part. -/
def Span.Apart (left right : Span) : Prop := left.stop ≤ right.start ∨ right.stop ≤ left.start

theorem Span.Apart.symm {left right : Span} (apart : left.Apart right) : right.Apart left :=
  Or.symm apart

theorem Span.eq_of_ends {left right : Span} (starts : left.start = right.start)
    (stops : left.stop = right.stop) : left = right := by
  cases left
  cases right
  subst starts stops
  rfl

theorem Span.contains_iff (outer inner : Span) :
    outer.contains inner = true ↔ outer.start ≤ inner.start ∧ inner.stop ≤ outer.stop := by
  simp [Span.contains]

namespace Site

/-- A site that lies in the receiver expression of another one. -/
def InOperand (inner outer : Site) : Prop :=
  ∃ operand name type, outer.shape = .selector operand name type ∧
    operand.contains inner.span = true

/-- Two sites that a weave can keep apart: neither hides a part of the other. -/
def Separable (left right : Site) : Prop :=
  left.span ≠ right.span ∧
    (left.span.Apart right.span ∨ left.InOperand right ∨ right.InOperand left)

theorem Separable.symm {left right : Site} (separable : left.Separable right) :
    right.Separable left := by
  obtain ⟨different, apart | inner | outer⟩ := separable
  · exact ⟨different.symm, .inl apart.symm⟩
  · exact ⟨different.symm, .inr (.inr inner)⟩
  · exact ⟨different.symm, .inr (.inl outer)⟩

end Site

/-- The sites of a unit as a weave needs them. -/
structure SitesNested (unit : CompilationUnit) (sites : List Site) : Prop where
  afterClause : ∀ site ∈ sites, unit.packageClause.stop ≤ site.span.start
  filled : ∀ site ∈ sites, site.span.start < site.span.stop
  operandInside : ∀ site ∈ sites, ∀ operand name type,
    site.shape = .selector operand name type →
      operand.start ≤ operand.stop ∧ site.span.contains operand = true
  separable : sites.Pairwise Site.Separable

/-- A site whose ends, and those of its operand, are places in a source text. -/
structure Site.OnPlaces (source : String) (site : Site) : Prop where
  starts : Text.IsPlace source site.span.start
  stops : Text.IsPlace source site.span.stop
  operand : ∀ operand name type, site.shape = .selector operand name type →
    Text.IsPlace source operand.start ∧ Text.IsPlace source operand.stop

namespace JoinPoint

/-- In source order a join point is behind an earlier one or in its operand. -/
def Follows (earlier later : JoinPoint) : Prop :=
  earlier.site.span.stop ≤ later.site.span.start ∨ later.site.InOperand earlier.site

end JoinPoint

namespace JoinPoints

theorem precedes_iff (left right : JoinPoint) :
    precedes left right = true ↔
      left.site.span.start < right.site.span.start ∨
        (left.site.span.start = right.site.span.start ∧
          right.site.span.stop ≤ left.site.span.stop) := by
  simp [precedes]

theorem precedes_trans (first second third : JoinPoint) (left : precedes first second = true)
    (right : precedes second third = true) : precedes first third = true := by
  rw [precedes_iff] at *
  omega

theorem precedes_total (left right : JoinPoint) :
    (precedes left right || precedes right left) = true := by
  rw [Bool.or_eq_true, precedes_iff, precedes_iff]
  omega

theorem inOrder_perm (points : List JoinPoint) : (inOrder points).Perm points :=
  sortBy_perm points

theorem inOrder_sorted (points : List JoinPoint) :
    (inOrder points).Pairwise fun left right => precedes left right = true :=
  pairwise_sortBy precedes_trans precedes_total points

/-- What begins first and is not in the operand of what follows must hold it or end before it. -/
theorem follows_of_precedes {earlier later : JoinPoint}
    (separable : earlier.site.Separable later.site) (order : precedes earlier later = true)
    (filled : later.site.span.start < later.site.span.stop)
    (operandInside : ∀ operand name type, later.site.shape = .selector operand name type →
      operand.start ≤ operand.stop ∧ later.site.span.contains operand = true) :
    earlier.Follows later := by
  rw [precedes_iff] at order
  obtain ⟨different, (before | behind) | ⟨operand, name, type, shape, inside⟩ | outer⟩ := separable
  · exact .inl before
  · omega
  · have own := (operandInside operand name type shape).2
    rw [Span.contains_iff] at inside own
    exact absurd (Span.eq_of_ends (by omega) (by omega)) different
  · exact .inr outer

theorem inOrder_follows {unit : CompilationUnit} {points : List JoinPoint}
    (sites : SitesNested unit (points.map JoinPoint.site)) :
    (inOrder points).Pairwise JoinPoint.Follows := by
  have member : ∀ point ∈ inOrder points, point.site ∈ points.map JoinPoint.site := by
    intro point here
    exact List.mem_map_of_mem ((inOrder_perm points).mem_iff.mp here)
  have separable : (inOrder points).Pairwise fun left right => left.site.Separable right.site :=
    ((inOrder_perm points).pairwise_iff fun same => same.symm).mpr
      (List.pairwise_map.mp sites.separable)
  apply ((inOrder_sorted points).and separable).imp_of_mem
  intro earlier later _ here ⟨order, apart⟩
  exact follows_of_precedes apart order (sites.filled _ (member later here))
    (sites.operandInside _ (member later here))

end JoinPoints
end AspectLoom
