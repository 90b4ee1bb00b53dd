/-!
Sorting by a relation of what may stand before what. Items of which each may stand before the other
keep their order.
-/
namespace AspectLoom

variable {α : Type} (before : α → α → Bool)

def insertBy (item : α) : List α → List α
  | [] => [item]
  | other :: rest =>
    if before item other then item :: other :: rest else other :: insertBy item rest

def sortBy : List α → List α
  | [] => []
  | item :: rest => insertBy before item (sortBy rest)

variable {before} {item : α} {items : List α}

theorem insertBy_perm (item : α) (items : List α) :
    (insertBy before item items).Perm (item :: items) := by
  induction items with
  | nil => exact List.Perm.refl _
  | cons other rest ih =>
      rw [insertBy]
      split
      · exact List.Perm.refl _
      · exact (ih.cons other).trans (List.Perm.swap ..)

theorem sortBy_perm (items : List α) : (sortBy before items).Perm items := by
  induction items with
  | nil => exact List.Perm.refl _
  | cons item rest ih => exact (insertBy_perm item _).trans (ih.cons item)

theorem mem_sortBy : item ∈ sortBy before items ↔ item ∈ items := (sortBy_perm items).mem_iff

section
variable {β γ : Type} {behind : β → β → Bool} {key : α → γ} {other : β → γ}
  (alike : ∀ first second third fourth, key first = other third → key second = other fourth →
    before first second = behind third fourth)
include alike

theorem map_insertBy_congr {items : List α} {others : List β} {first : α} {second : β}
    (same : items.map key = others.map other) (firstSame : key first = other second) :
    (insertBy before first items).map key = (insertBy behind second others).map other := by
  induction items generalizing others with
  | nil =>
      rw [List.map_eq_nil_iff.mp same.symm, insertBy, insertBy]
      exact congrArg (· :: []) firstSame
  | cons item rest ih =>
      obtain ⟨next, more, rfl, nextSame, restSame⟩ := List.map_eq_cons_iff.mp same.symm
      rw [insertBy, insertBy, alike _ _ _ _ firstSame nextSame.symm]
      split
      · rw [List.map_cons, firstSame, same, ← List.map_cons]
      · rw [List.map_cons, List.map_cons, nextSame, ih restSame.symm]

/-- Items that are compared by a key come in the same order as others with the same keys. -/
theorem map_sortBy_congr {items : List α} {others : List β}
    (same : items.map key = others.map other) :
    (sortBy before items).map key = (sortBy behind others).map other := by
  induction items generalizing others with
  | nil =>
      rw [List.map_eq_nil_iff.mp same.symm]
      rfl
  | cons item rest ih =>
      obtain ⟨next, more, rfl, nextSame, restSame⟩ := List.map_eq_cons_iff.mp same.symm
      exact map_insertBy_congr alike (ih restSame.symm) nextSame.symm

end

section
variable (trans : ∀ first second third, before first second = true → before second third = true →
  before first third = true) (total : ∀ left right, (before left right || before right left) = true)
include trans total

theorem pairwise_insertBy (sorted : items.Pairwise fun left right => before left right = true) :
    (insertBy before item items).Pairwise fun left right => before left right = true := by
  induction items with
  | nil => exact List.pairwise_singleton _ _
  | cons other rest ih =>
      obtain ⟨first, others⟩ := List.pairwise_cons.mp sorted
      rw [insertBy]
      split
      · rename_i leads
        refine List.pairwise_cons.mpr ⟨fun later member => ?_, sorted⟩
        rcases List.mem_cons.mp member with rfl | behind
        · exact leads
        · exact trans _ _ _ leads (first later behind)
      · rename_i follows
        have turned : before other item = true := by
          have either := total item other
          rw [Bool.or_eq_true] at either
          exact either.resolve_left follows
        refine List.pairwise_cons.mpr ⟨fun later member => ?_, ih others⟩
        rcases List.mem_cons.mp ((insertBy_perm item rest).mem_iff.mp member) with rfl | behind
        · exact turned
        · exact first later behind

theorem pairwise_sortBy (items : List α) :
    (sortBy before items).Pairwise fun left right => before left right = true := by
  induction items with
  | nil => exact List.Pairwise.nil
  | cons item rest ih => exact pairwise_insertBy trans total ih

end

/-- What is in order stays as it is. -/
theorem sortBy_of_pairwise (sorted : items.Pairwise fun left right => before left right = true) :
    sortBy before items = items := by
  induction items with
  | nil => rfl
  | cons item rest ih =>
      obtain ⟨first, others⟩ := List.pairwise_cons.mp sorted
      rw [sortBy, ih others]
      cases rest with
      | nil => rfl
      | cons other rest => rw [insertBy, if_pos (first other List.mem_cons_self)]

end AspectLoom
