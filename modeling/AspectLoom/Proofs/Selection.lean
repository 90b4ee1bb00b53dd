import AspectLoom.JoinPoint
import AspectLoom.Proofs.Entries
/-!
What pointcuts select. A join point stands for a reference of the package, and of references with
one site only the last is kept.
-/
namespace AspectLoom

namespace TargetPackage

/-- A reference is a recorded use of a known declaration, in a unit that is woven. -/
theorem reference_of_use {package : TargetPackage} {use : Use} {reference : Reference}
    (refers : package.reference? use = some reference) :
    reference.site = use.site ∧ use.binding = .function reference.id ∧
      package.symbols.get? reference.id = some reference.decl ∧
      package.unit? use.site.unit = some reference.unit ∧ reference.unit.isAspect = false := by
  unfold reference? at refers
  obtain ⟨unit, found, refers⟩ := Option.bind_eq_some_iff.mp refers
  cases woven : unit.isAspect with
  | true =>
      rw [woven] at refers
      cases refers
  | false =>
      simp only [woven, Bool.false_eq_true, if_false] at refers
      cases bound : use.binding with
      | other =>
          rw [bound] at refers
          cases refers
      | function id =>
          rw [bound] at refers
          obtain ⟨decl, known, refers⟩ := Option.bind_eq_some_iff.mp refers
          cases refers
          exact ⟨rfl, rfl, known, found, woven⟩

theorem mem_references {package : TargetPackage} {reference : Reference}
    (member : reference ∈ package.references) :
    ∃ use ∈ package.symbols.uses.toList, package.reference? use = some reference :=
  List.mem_filterMap.mp member

end TargetPackage

namespace JoinPoints

/-- Join points by their own sites, each of which stands for a reference. -/
structure Selected (package : TargetPackage) (points : JoinPoints) : Prop where
  distinct : (points.entries.map Prod.fst).Nodup
  keyed : ∀ entry ∈ points.entries, entry.1 = entry.2.site.toSiteKey
  refers : ∀ entry ∈ points.entries, ∃ reference ∈ package.references,
    entry.2.site = reference.site ∧ entry.2.decl = reference.id

theorem select_selected {package : TargetPackage} {points : JoinPoints} {reference : Reference}
    (pointcut : Pointcut) (selected : Selected package points)
    (member : reference ∈ package.references) :
    Selected package (points.select (reference, pointcut)) where
  distinct := Assoc.keys_insert_nodup selected.distinct
  keyed := by
    intro entry among
    rcases Assoc.mem_insert among with rfl | old
    · rfl
    · exact selected.keyed entry old
  refers := by
    intro entry among
    rcases Assoc.mem_insert among with rfl | old
    · exact ⟨reference, member, rfl, rfl⟩
    · exact selected.refers entry old

theorem foldl_selected {package : TargetPackage} (selections : List (Reference × Pointcut)) :
    ∀ points, Selected package points →
      (∀ selection ∈ selections, selection.1 ∈ package.references) →
      Selected package (selections.foldl select points) := by
  induction selections with
  | nil => exact fun _ selected _ => selected
  | cons selection rest ih =>
      intro points selected members
      exact ih _ (select_selected selection.2 selected (members selection List.mem_cons_self))
        fun other member => members other (List.mem_cons_of_mem _ member)

theorem ofPointcuts_selected (pointcuts : List Pointcut) (package : TargetPackage) :
    Selected package (ofPointcuts pointcuts package) := by
  apply foldl_selected
  · exact ⟨.nil, List.forall_mem_nil _, List.forall_mem_nil _⟩
  · intro selection member
    obtain ⟨reference, among, chosen⟩ := List.mem_flatMap.mp member
    obtain ⟨_, _, rfl⟩ := List.mem_map.mp chosen
    exact among

end JoinPoints
end AspectLoom
