import AspectLoom.Proofs.Selection
import Mathlib.Data.List.Induction
/-!
Which pointcut governs a site. Of all pairs of a use and a pointcut that matches it the last one of
a site governs it, and every pair that takes a site over from another one is a finding.
-/
namespace AspectLoom

/-! Last items -/

section
variable {α β : Type}

/-- The last item of a list for which something holds. -/
def IsLast (items : List α) (holds : α → Prop) (item : α) : Prop :=
  ∃ earlier later, items = earlier ++ item :: later ∧ holds item ∧ ∀ other ∈ later, ¬ holds other

variable {holds : α → Prop} {item first : α} {rest : List α}

theorem isLast_later (last : IsLast rest holds item) : IsLast (first :: rest) holds item := by
  obtain ⟨earlier, later, rfl, good, none⟩ := last
  exact ⟨first :: earlier, later, rfl, good, none⟩

theorem isLast_first (good : holds first) (none : ∀ other ∈ rest, ¬ holds other) :
    IsLast (first :: rest) holds first := ⟨[], rest, rfl, good, none⟩

theorem isLast_of_filter {keeps : α → Bool} {items : List α}
    (last : (items.filter keeps).getLast? = some item) :
    IsLast items (fun item => keeps item = true) item := by
  induction items with
  | nil => cases last
  | cons first rest ih =>
      cases following : (rest.filter keeps).getLast? with
      | some other =>
          have same : some other = some item := by
            rw [← last]
            by_cases kept : keeps first = true
            · simp [kept, List.getLast?_cons, following]
            · simp [kept, following]
          exact isLast_later (ih (following.trans same))
      | none =>
          have none : rest.filter keeps = [] := List.getLast?_eq_none_iff.mp following
          by_cases kept : keeps first = true
          · simp only [List.filter_cons, kept, none, if_true, List.getLast?_singleton,
              Option.some.injEq] at last
            subst last
            exact isLast_first kept (List.filter_eq_nil_iff.mp none)
          · simp [kept, none] at last

/-- The last item of joined lists is the last one of the last list that is not empty. -/
theorem isLast_of_flatMap {parts : β → List α} {items : List β}
    (last : (items.flatMap parts).getLast? = some item) :
    ∃ whole, IsLast items (fun whole => parts whole ≠ []) whole ∧
      (parts whole).getLast? = some item := by
  induction items with
  | nil => cases last
  | cons first rest ih =>
      rw [List.flatMap_cons, List.getLast?_append] at last
      cases following : (rest.flatMap parts).getLast? with
      | some other =>
          rw [following] at last
          obtain ⟨whole, isLast, own⟩ := ih (following.trans last)
          exact ⟨whole, isLast_later isLast, own⟩
      | none =>
          rw [following] at last
          have none := List.flatMap_eq_nil_iff.mp (List.getLast?_eq_none_iff.mp following)
          refine ⟨first, isLast_first ?_ fun other member filled => filled (none other member), last⟩
          intro empty
          simp [empty] at last

/-- Copies of an item behind a list count once, or not at all if the list holds the item. -/
theorem eraseDups_append_copies [DecidableEq α] {front copies : List α} (filled : copies ≠ [])
    (equal : ∀ copy ∈ copies, copy = item) :
    (front ++ copies).eraseDups =
      if item ∈ front then front.eraseDups else front.eraseDups ++ [item] := by
  rw [List.eraseDups_append]
  split
  · rename_i known
    have none : copies.removeAll front = [] := by
      apply List.filter_eq_nil_iff.mpr
      intro copy member
      simp [equal copy member, known]
    rw [none, List.eraseDups_nil, List.append_nil]
  · rename_i unknown
    have all : copies.removeAll front = copies := by
      apply List.filter_eq_self.mpr
      intro copy member
      simp [equal copy member, unknown]
    obtain ⟨first, more, rfl⟩ := List.exists_cons_of_ne_nil filled
    obtain ⟨rfl, others⟩ := List.forall_mem_cons.mp equal
    have once : more.filter (fun copy => !copy == first) = [] := by
      apply List.filter_eq_nil_iff.mpr
      intro copy member
      simp [others copy member]
    rw [all, List.eraseDups_cons, once, List.eraseDups_nil]

/-- In joined lists of equal items each of them comes first where its list does. -/
theorem eraseDups_flatMap [DecidableEq α] {key : β → α} {parts : β → List α}
    (equal : ∀ whole, ∀ part ∈ parts whole, part = key whole) (items : List β) :
    (items.flatMap parts).eraseDups =
      ((items.filter fun whole => parts whole ≠ []).map key).eraseDups := by
  induction items using List.reverseRecOn with
  | nil => rfl
  | append_singleton front whole ih =>
      rw [List.flatMap_append, List.flatMap_singleton, List.filter_append, List.map_append]
      by_cases filled : parts whole = []
      · simp [filled, ih]
      · have known : key whole ∈ front.flatMap parts ↔
            key whole ∈ (front.filter fun whole => parts whole ≠ []).map key := by
          rw [← List.mem_eraseDups, ih, List.mem_eraseDups]
        have one : ([whole].filter fun whole => parts whole ≠ []).map key = [key whole] := by
          simp [filled]
        rw [one, eraseDups_append_copies filled (equal whole),
          eraseDups_append_copies (List.cons_ne_nil _ _) fun _ => List.mem_singleton.mp, ih]
        simp only [known]

end

namespace TargetPackage

/-- A pointcut matches a use: it is in a unit that is woven and bound to a known declaration, whose
full name the pointcut selects. -/
def Matches (package : TargetPackage) (use : Use) (pointcut : Pointcut) : Prop :=
  ∃ unit id decl, package.unit? use.site.unit = some unit ∧ unit.isAspect = false ∧
    use.binding = .function id ∧ package.symbols.get? id = some decl ∧
    pointcut.selects decl.fullName = true

variable {package : TargetPackage} {use : Use} {reference : Reference} {pointcut : Pointcut}

theorem reference?_eq_some_iff : package.reference? use = some reference ↔
    reference.site = use.site ∧ use.binding = .function reference.id ∧
      package.symbols.get? reference.id = some reference.decl ∧
      package.unit? use.site.unit = some reference.unit ∧ reference.unit.isAspect = false := by
  refine ⟨reference_of_use, ?_⟩
  rintro ⟨site, bound, known, unit, woven⟩
  have same : (⟨use.site, reference.unit, reference.id, reference.decl⟩ : Reference) = reference := by
    rw [← site]
  simp [reference?, unit, woven, bound, known, same]

theorem matches_iff : package.Matches use pointcut ↔
    ∃ reference, package.reference? use = some reference ∧
      pointcut.selects reference.fullName = true := by
  constructor
  · rintro ⟨unit, id, decl, found, woven, bound, known, selects⟩
    exact ⟨⟨use.site, unit, id, decl⟩,
      reference?_eq_some_iff.mpr ⟨rfl, bound, known, found, woven⟩, selects⟩
  · rintro ⟨reference, refers, selects⟩
    obtain ⟨_, bound, known, found, woven⟩ := reference?_eq_some_iff.mp refers
    exact ⟨_, _, _, found, woven, bound, known, selects⟩

instance : Decidable (package.Matches use pointcut) :=
  decidable_of_iff
    ((package.reference? use).any (fun reference => pointcut.selects reference.fullName) = true)
    (by rw [matches_iff, Option.any_eq_true])

/-- Some pointcut matches a use. -/
def IsMatched (package : TargetPackage) (pointcuts : List Pointcut) (use : Use) : Prop :=
  ∃ pointcut ∈ pointcuts, package.Matches use pointcut

instance {pointcuts : List Pointcut} : Decidable (package.IsMatched pointcuts use) :=
  inferInstanceAs (Decidable (∃ pointcut ∈ pointcuts, package.Matches use pointcut))

/-- The pairs of a use and a pointcut that matches it. -/
def pairsOf (package : TargetPackage) (pointcuts : List Pointcut) (use : Use) :
    List (Reference × Pointcut) :=
  (package.reference? use).toList.flatMap (Reference.selectors pointcuts)

/-- All pairs of a use and a pointcut that matches it, use by use. -/
def pairs (package : TargetPackage) (pointcuts : List Pointcut) : List (Reference × Pointcut) :=
  package.symbols.uses.toList.flatMap (package.pairsOf pointcuts)

variable {pointcuts : List Pointcut}

theorem pairsOf_eq (package : TargetPackage) (pointcuts : List Pointcut) (use : Use) :
    package.pairsOf pointcuts use =
      match package.reference? use with
      | some reference => (pointcuts.filter fun pointcut => package.Matches use pointcut).map
          fun pointcut => (reference, pointcut)
      | none => [] := by
  unfold pairsOf
  cases refers : package.reference? use with
  | none => rfl
  | some reference =>
      have same : ∀ pointcut, pointcut.selects reference.fullName =
          decide (package.Matches use pointcut) := by
        intro pointcut
        rw [Bool.eq_iff_iff, decide_eq_true_eq, matches_iff, refers]
        simp
      simp [Reference.selectors, same]

theorem mem_pairsOf : (reference, pointcut) ∈ package.pairsOf pointcuts use ↔
    package.reference? use = some reference ∧ pointcut ∈ pointcuts ∧
      package.Matches use pointcut := by
  rw [pairsOf_eq]
  cases package.reference? use with
  | none => simp
  | some other =>
      simp only [List.mem_map, List.mem_filter, decide_eq_true_eq, Prod.mk.injEq, Option.some.injEq]
      constructor
      · rintro ⟨_, member, rfl, rfl⟩
        exact ⟨rfl, member⟩
      · rintro ⟨rfl, member⟩
        exact ⟨_, member, rfl, rfl⟩

theorem pairsOf_ne_nil_iff :
    package.pairsOf pointcuts use ≠ [] ↔ package.IsMatched pointcuts use := by
  constructor
  · intro filled
    obtain ⟨⟨reference, pointcut⟩, member⟩ := List.exists_mem_of_ne_nil _ filled
    exact ⟨pointcut, (mem_pairsOf.mp member).2⟩
  · rintro ⟨pointcut, member, good⟩
    obtain ⟨reference, refers, _⟩ := matches_iff.mp good
    exact List.ne_nil_of_mem (mem_pairsOf.mpr ⟨refers, member, good⟩)

theorem length_pairsOf (package : TargetPackage) (pointcuts : List Pointcut) (use : Use) :
    (package.pairsOf pointcuts use).length =
      pointcuts.countP fun pointcut => package.Matches use pointcut := by
  rw [pairsOf_eq, List.countP_eq_length_filter]
  cases refers : package.reference? use with
  | some reference => simp
  | none =>
      have never : ∀ pointcut, ¬ package.Matches use pointcut := by
        intro pointcut good
        obtain ⟨_, refers', _⟩ := matches_iff.mp good
        rw [refers] at refers'
        cases refers'
      simp [never]

theorem pairs_eq (package : TargetPackage) (pointcuts : List Pointcut) :
    package.pairs pointcuts = package.references.flatMap (Reference.selectors pointcuts) := by
  unfold pairs references
  induction package.symbols.uses.toList with
  | nil => rfl
  | cons use rest ih =>
      rw [List.flatMap_cons, ih]
      cases refers : package.reference? use <;> simp [pairsOf, refers]

end TargetPackage

namespace JoinPoints

def siteOf (pair : Reference × Pointcut) : SiteKey := pair.1.site.toSiteKey

/-- The pair that governs a site after some pairs, which is the last one of the site. -/
def governing? (pairs : List (Reference × Pointcut)) (key : SiteKey) :
    Option (Reference × Pointcut) :=
  (pairs.filter fun pair => siteOf pair = key).getLast?

/-- What is to be said about a pair that takes a site over from the pair that governed it. -/
def takeover? (before : List (Reference × Pointcut)) (pair : Reference × Pointcut) :
    Option Diagnostic :=
  (governing? before (siteOf pair)).map fun overridden =>
    .conflict pair.1.location pair.1.fullName overridden.2.advice pair.2.advice

/-- What is to be said about some pairs, each of them after those before it. -/
def takeovers (pairs : List (Reference × Pointcut)) : List Diagnostic :=
  pairs.zipIdx.filterMap fun item => takeover? (pairs.take item.2) item.1

variable {pairs : List (Reference × Pointcut)} {pair : Reference × Pointcut} {key : SiteKey}

theorem governing?_concat (pairs : List (Reference × Pointcut)) (pair : Reference × Pointcut)
    (key : SiteKey) :
    governing? (pairs ++ [pair]) key =
      if siteOf pair = key then some pair else governing? pairs key := by
  unfold governing?
  rw [List.filter_append, List.getLast?_append]
  by_cases same : siteOf pair = key <;> simp [same]

theorem takeovers_concat (pairs : List (Reference × Pointcut)) (pair : Reference × Pointcut) :
    takeovers (pairs ++ [pair]) = takeovers pairs ++ (takeover? pairs pair).toList := by
  unfold takeovers
  rw [List.zipIdx_append, List.filterMap_append]
  congr 1
  · apply List.filterMap_congr
    intro item member
    have below : item.2 < pairs.length := by
      simpa using List.snd_lt_of_mem_zipIdx member
    rw [List.take_append_of_le_length (Nat.le_of_lt below)]
  · rw [Nat.zero_add, List.zipIdx_singleton, List.filterMap_cons, List.take_left]
    cases takeover? pairs pair <;> rfl

/-- What is kept after some pairs have been selected one after the other. -/
structure Tracks (pairs : List (Reference × Pointcut)) (points : JoinPoints) : Prop where
  governed : ∀ key, Assoc.find? key points.entries =
    (governing? pairs key).map fun pair => pair.1.joinPoint pair.2
  ordered : points.entries.map Prod.fst = (pairs.map siteOf).eraseDups
  findings : points.findings = takeovers pairs
  counted : points.findings.length + points.entries.length = pairs.length

theorem select_tracks {points : JoinPoints} (tracks : Tracks pairs points) :
    Tracks (pairs ++ [pair]) (points.select pair) where
  governed := by
    intro key
    rw [governing?_concat]
    change Assoc.find? key (Assoc.insert (siteOf pair) _ points.entries) = _
    rw [Assoc.find?_insert, tracks.governed]
    split <;> rfl
  ordered := by
    change (Assoc.insert (siteOf pair) _ points.entries).map Prod.fst = _
    rw [Assoc.keys_insert, List.map_append, tracks.ordered, List.map_singleton,
      eraseDups_append_copies (List.cons_ne_nil _ _) fun _ => List.mem_singleton.mp]
    simp only [List.mem_eraseDups]
  findings := by
    rw [takeovers_concat, ← tracks.findings]
    change points.findings ++ ((Assoc.find? (siteOf pair) points.entries).map _).toList = _
    rw [tracks.governed, Option.map_map]
    rfl
  counted := by
    have counted := tracks.counted
    have grown := Assoc.length_insert (siteOf pair) (pair.1.joinPoint pair.2) points.entries
    change (points.findings ++ ((Assoc.find? (siteOf pair) points.entries).map _).toList).length +
      (Assoc.insert (siteOf pair) _ points.entries).length = _
    rw [grown, List.length_append, List.length_append, List.length_singleton]
    cases Assoc.find? (siteOf pair) points.entries with
    | none =>
        simp only [Option.map_none, Option.toList_none, List.length_nil, Option.isSome_none,
          Bool.false_eq_true, if_false]
        omega
    | some overridden =>
        simp only [Option.map_some, Option.toList_some, List.length_singleton, Option.isSome_some,
          if_true]
        omega

theorem foldl_tracks (pairs : List (Reference × Pointcut)) : Tracks pairs (pairs.foldl select {}) := by
  induction pairs using List.reverseRecOn with
  | nil => exact ⟨fun _ => rfl, rfl, rfl, rfl⟩
  | append_singleton front pair ih =>
      rw [List.foldl_append]
      exact select_tracks ih

/-! Uses behind the pairs -/

variable {package : TargetPackage} {pointcuts : List Pointcut} {use : Use}

theorem ofPointcuts_tracks (pointcuts : List Pointcut) (package : TargetPackage) :
    Tracks (package.pairs pointcuts) (ofPointcuts pointcuts package) := by
  rw [TargetPackage.pairs_eq]
  exact foldl_tracks _

theorem siteOf_pair (member : pair ∈ package.pairsOf pointcuts use) :
    siteOf pair = use.site.toSiteKey := by
  obtain ⟨refers, _⟩ := TargetPackage.mem_pairsOf.mp member
  rw [siteOf, (TargetPackage.reference_of_use refers).1]

/-- Of the pairs of a use either all are at a site or none is. -/
theorem pairsOf_at (package : TargetPackage) (pointcuts : List Pointcut) (use : Use)
    (key : SiteKey) :
    (package.pairsOf pointcuts use).filter (fun pair => siteOf pair = key) =
      if use.site.toSiteKey = key then package.pairsOf pointcuts use else [] := by
  split
  · rename_i same
    apply List.filter_eq_self.mpr
    intro pair member
    simp [siteOf_pair member, same]
  · rename_i different
    apply List.filter_eq_nil_iff.mpr
    intro pair member
    simp [siteOf_pair member, different]

theorem governing?_eq (package : TargetPackage) (pointcuts : List Pointcut) (key : SiteKey) :
    governing? (package.pairs pointcuts) key =
      (package.symbols.uses.toList.flatMap fun use =>
        if use.site.toSiteKey = key then package.pairsOf pointcuts use else []).getLast? := by
  rw [governing?, TargetPackage.pairs, List.filter_flatMap]
  simp only [pairsOf_at]

theorem pairs_at_ne_nil_iff {key : SiteKey} :
    (if use.site.toSiteKey = key then package.pairsOf pointcuts use else []) ≠ [] ↔
      use.site.toSiteKey = key ∧ package.IsMatched pointcuts use := by
  rw [← TargetPackage.pairsOf_ne_nil_iff]
  split
  · rename_i same
    simp [same]
  · rename_i different
    simp [different]

theorem exists_governing_iff (package : TargetPackage) (pointcuts : List Pointcut) (key : SiteKey) :
    (∃ pair, governing? (package.pairs pointcuts) key = some pair) ↔
      ∃ use ∈ package.symbols.uses.toList,
        use.site.toSiteKey = key ∧ package.IsMatched pointcuts use := by
  rw [← Option.isSome_iff_exists, governing?_eq, List.getLast?_isSome, ne_eq,
    List.flatMap_eq_nil_iff]
  simp only [not_forall, exists_prop, ← ne_eq, pairs_at_ne_nil_iff]

/-- The pair that governs a site is that of the last use there that a pointcut matches, with the
last pointcut that matches it. -/
theorem governing?_last (governs : governing? (package.pairs pointcuts) key = some pair) :
    ∃ use, IsLast package.symbols.uses.toList
        (fun use => use.site.toSiteKey = key ∧ package.IsMatched pointcuts use) use ∧
      package.reference? use = some pair.1 ∧ IsLast pointcuts (package.Matches use) pair.2 := by
  obtain ⟨reference, pointcut⟩ := pair
  rw [governing?_eq] at governs
  obtain ⟨use, last, own⟩ := isLast_of_flatMap governs
  simp only [pairs_at_ne_nil_iff] at last
  have here : use.site.toSiteKey = key := by
    obtain ⟨_, _, _, ⟨here, _⟩, _⟩ := last
    exact here
  rw [if_pos here] at own
  have refers := (TargetPackage.mem_pairsOf.mp (List.mem_of_getLast? own)).1
  refine ⟨use, last, refers, ?_⟩
  rw [TargetPackage.pairsOf_eq, refers, List.getLast?_map] at own
  obtain ⟨other, found, same⟩ := Option.map_eq_some_iff.mp own
  cases same
  simpa using isLast_of_filter found

/-- The keys of the pairs, each where it first came, are those of the uses that are matched. -/
theorem pairs_keys (package : TargetPackage) (pointcuts : List Pointcut) :
    ((package.pairs pointcuts).map siteOf).eraseDups =
      ((package.symbols.uses.toList.filter fun use => package.IsMatched pointcuts use).map
        fun use => use.site.toSiteKey).eraseDups := by
  have equal : ∀ use, ∀ key ∈ (package.pairsOf pointcuts use).map siteOf,
      key = use.site.toSiteKey := by
    intro use
    exact List.forall_mem_map.mpr fun pair member => siteOf_pair member
  rw [TargetPackage.pairs, List.map_flatMap, eraseDups_flatMap equal]
  simp only [ne_eq, List.map_eq_nil_iff, ← TargetPackage.pairsOf_ne_nil_iff]

/-- What pointcuts select in a package. A site is a join point exactly when a pointcut matches a
use there. The last of these uses and the last pointcut that matches it govern the site, the sites
are in the order in which they were first matched, and every other match is a finding, which names
the advice that governed the site just before and the one that took it over. -/
theorem ofPointcuts_governs (pointcuts : List Pointcut) (package : TargetPackage) :
    let points := ofPointcuts pointcuts package
    let uses := package.symbols.uses.toList
    (∀ key, (∃ point, Assoc.find? key points.entries = some point) ↔
      ∃ use ∈ uses, use.site.toSiteKey = key ∧ package.IsMatched pointcuts use) ∧
    (∀ key point, Assoc.find? key points.entries = some point → ∃ use id pointcut,
      IsLast uses (fun use => use.site.toSiteKey = key ∧ package.IsMatched pointcuts use) use ∧
      use.binding = .function id ∧ IsLast pointcuts (package.Matches use) pointcut ∧
      point = ⟨use.site, id, pointcut.index, pointcut.advice⟩) ∧
    points.entries.map Prod.fst =
      ((uses.filter fun use => package.IsMatched pointcuts use).map
        fun use => use.site.toSiteKey).eraseDups ∧
    points.findings.length + points.entries.length =
      (uses.product pointcuts).countP (fun pair => package.Matches pair.1 pair.2) ∧
    points.findings = takeovers (package.pairs pointcuts) := by
  have tracks := ofPointcuts_tracks pointcuts package
  refine ⟨?_, ?_, ?_, ?_, tracks.findings⟩
  · intro key
    rw [← exists_governing_iff, tracks.governed]
    simp
  · intro key point found
    rw [tracks.governed] at found
    obtain ⟨pair, governs, rfl⟩ := Option.map_eq_some_iff.mp found
    obtain ⟨use, last, refers, lastPointcut⟩ := governing?_last governs
    obtain ⟨site, bound, _⟩ := TargetPackage.reference_of_use refers
    refine ⟨use, _, pair.2, last, bound, lastPointcut, ?_⟩
    rw [← site]
    rfl
  · rw [tracks.ordered, pairs_keys]
  · rw [tracks.counted, TargetPackage.pairs, List.length_flatMap, List.product,
      List.countP_flatMap]
    simp only [TargetPackage.length_pairsOf, Function.comp_def, List.countP_map]

end JoinPoints
end AspectLoom
