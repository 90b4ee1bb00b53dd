import AspectLoom.Proofs.WrittenQualifiers
/-!
Aliases over the spelling of any types, one after the other. Each is the first free one for its
package, stays with it, and is given only where the unit has no other name for the package.
-/
namespace AspectLoom.ImportScope

variable {scope after : ImportScope} {path : String}

/-! The search for an alias -/

/-- The names that are tried for a package, in order. -/
def candidate (path : String) : Nat → String
  | 0 => "_ag_" ++ Import.guessName path
  | number + 1 => "_ag_" ++ Import.guessName path ++ toString (number + 1)

theorem numberedAlias_first {base : String} {tries number : Nat}
    (taken : scope.isTaken base = true)
    (free : scope.isTaken (scope.numberedAlias base tries number) = false) :
    ∃ step < tries, scope.numberedAlias base tries number = base ++ toString (number + step) ∧
      ∀ earlier < step, scope.isTaken (base ++ toString (number + earlier)) = true := by
  induction tries generalizing number with
  | zero =>
      rw [numberedAlias, taken] at free
      cases free
  | succ tries ih =>
      rw [numberedAlias] at free ⊢
      split at free
      · rename_i first
        obtain ⟨step, below, same, passed⟩ := ih free
        rw [if_pos first]
        refine ⟨step + 1, Nat.succ_lt_succ below, ?_, fun earlier sooner => ?_⟩
        · rw [same, Nat.add_assoc, Nat.add_comm 1 step]
        · cases earlier with
          | zero => exact first
          | succ earlier =>
              have later := passed earlier (Nat.lt_of_succ_lt_succ sooner)
              rwa [Nat.add_assoc, Nat.add_comm 1 earlier] at later
      · rename_i first
        rw [if_neg first]
        exact ⟨0, Nat.succ_pos tries, rfl, fun _ sooner => absurd sooner (Nat.not_lt_zero _)⟩

/-- The alias of a package is the first free name of all that could be tried. It is found after as
many tries as there are taken names, at the latest. -/
theorem freshAlias_first (scope : ImportScope) (path : String) :
    ∃ number ≤ scope.takenNames.length + 1,
      scope.freshAlias path = candidate path number ∧
      scope.isTaken (candidate path number) = false ∧
      ∀ earlier < number, scope.isTaken (candidate path earlier) = true := by
  have free := scope.freshAlias_free path
  -- the plain candidate is tried apart from the numbered ones
  cases taken : scope.isTaken (candidate path 0) with
  | false =>
      have same : scope.freshAlias path = candidate path 0 := by
        rw [freshAlias, ← candidate, if_neg (Bool.eq_false_iff.mp taken)]
      exact ⟨0, Nat.zero_le _, same, taken, fun _ sooner => absurd sooner (Nat.not_lt_zero _)⟩
  | true =>
      have searched : scope.freshAlias path =
          scope.numberedAlias (candidate path 0) (scope.takenNames.length + 1) 1 := by
        rw [freshAlias, ← candidate, if_pos taken, takenNames, List.length_append,
          List.length_map, List.length_map]
      obtain ⟨step, below, same, passed⟩ := numberedAlias_first taken (searched ▸ free)
      have found : scope.freshAlias path = candidate path (step + 1) := by
        rw [searched, same, Nat.add_comm 1 step]
        rfl
      refine ⟨step + 1, below, found, found ▸ free, fun earlier sooner => ?_⟩
      cases earlier with
      | zero => exact taken
      | succ earlier =>
          have tried := passed earlier (Nat.lt_of_succ_lt_succ sooner)
          rwa [Nat.add_comm 1 earlier] at tried

/-! Aliases that are given -/

/-- The aliases of a scope are new and differ, and only packages that the unit cannot name have
one, each a single one. -/
structure Tidy (scope : ImportScope) : Prop extends Sound scope where
  single : (scope.added.map Prod.fst).Nodup
  lacking : ∀ entry ∈ scope.added, scope.Lacks entry.1

theorem Tidy.qualifier (tidy : scope.Tidy) (path : String) : (scope.qualifier path).2.Tidy := by
  have sound := (scope.qualifier_advances path tidy.toSound).1
  have keeps := scope.qualifier_keeps path
  -- only a package without a name can get an entry
  by_cases lacks : scope.Lacks path
  · have lackingStill := keeps.lacks.mpr lacks
    have othersStill : ∀ entry ∈ scope.added, (scope.qualifier path).2.Lacks entry.1 :=
      fun entry member => keeps.lacks.mpr (tidy.lacking entry member)
    refine ⟨sound, ?_, ?_⟩
    · rw [qualifier_of_lacks lacks]
      split
      · exact tidy.single
      · exact Assoc.keys_insert_nodup tidy.single
    · intro entry member
      rw [qualifier_of_lacks lacks] at member
      split at member
      · exact othersStill entry member
      · rcases Assoc.mem_insert member with rfl | old
        · exact lackingStill
        · exact othersStill entry old
  · rw [qualifier_of_not_lacks lacks]
    exact tidy

theorem Tidy.spellAll (tidy : scope.Tidy) (types : List GoType) : (scope.spellAll types).2.Tidy :=
  spellAll_preserves (fun _ path held => held.qualifier path) tidy types

/-- What has an alias is called by it ever after. -/
theorem Tidy.qualifier_of_mem (tidy : scope.Tidy) {name : String}
    (given : (path, name) ∈ scope.added) (keeps : scope.Keeps after) :
    after.qualifier path = (some name, after) := by
  have found := keeps.found path name (Assoc.find?_of_mem tidy.single given)
  rw [qualifier_of_lacks (keeps.lacks.mpr (tidy.lacking _ given)), found]

/-- A package that lacks a name is not the unit's own, and at most imported as blank. -/
theorem Lacks.foreign_and_blank (lacks : scope.Lacks path) :
    path ≠ scope.unit.packagePath ∧
      ∀ spec ∈ scope.unit.imports, spec.path = path → spec.isBlank = true := by
  refine ⟨lacks.foreign, fun spec member same => ?_⟩
  have unusable := List.find?_eq_none.mp lacks.missing spec member
  simpa [same] using unusable

/-- Whatever a unit spells and in whatever order: the extra imports give different packages
different aliases, none of them the name of an import of the unit, and none to the unit's own
package or one that it imports. A package keeps its alias, and all texts are written with the
aliases of the end. Every new alias is the first free name of its numbered candidates. -/
theorem extraImports_kept_apart_and_needed (unit : CompilationUnit)
    (packageNames : List (String × String)) (earlier later : List GoType) :
    let start : ImportScope := ⟨unit, packageNames, []⟩
    let scope := (start.spellAll earlier).2
    let after := (scope.spellAll later).2
    (scope.extraImports.map Prod.fst).Nodup ∧ (scope.extraImports.map Prod.snd).Nodup ∧
    (∀ entry ∈ scope.extraImports,
      (∀ spec ∈ unit.imports, spec.isBlank = false →
        entry.1 ≠ spec.localName (Assoc.find? spec.path packageNames)) ∧
      (entry.2 ≠ unit.packagePath ∧
        ∀ spec ∈ unit.imports, spec.path = entry.2 → spec.isBlank = true) ∧
      entry ∈ after.extraImports ∧ after.qualifier entry.2 = (some entry.1, after)) ∧
    (scope.spellAll later).1 = later.map after.textIn ∧
    ∀ (reached : ImportScope) (path : String), ∃ number ≤ reached.takenNames.length + 1,
      reached.freshAlias path = candidate path number ∧
      reached.isTaken (candidate path number) = false ∧
      ∀ tried < number, reached.isTaken (candidate path tried) = true := by
  intro start scope after
  have empty : start.Tidy :=
    ⟨⟨List.forall_mem_nil _, List.nodup_nil⟩, List.nodup_nil, List.forall_mem_nil _⟩
  have tidy : scope.Tidy := empty.spellAll earlier
  have fromStart : start.Keeps scope := start.spellAll_keeps earlier
  have keeps : scope.Keeps after := scope.spellAll_keeps later
  refine ⟨?_, ?_, ?_, (spellAll_kept (.refl after)).1, freshAlias_first⟩
  · rw [extraImports, List.map_map]
    exact tidy.apart
  · rw [extraImports, List.map_map]
    exact tidy.single
  · intro entry member
    obtain ⟨given, among, rfl⟩ := List.mem_map.mp member
    have lacks : start.Lacks given.1 := fromStart.lacks.mp (tidy.lacking given among)
    have called := tidy.qualifier_of_mem among keeps
    refine ⟨fun spec imported usable same => ?_, lacks.foreign_and_blank, ?_, called⟩
    · have bound : start.isLocalName given.2 = true := by
        have name : given.2 = start.localName spec := same
        rw [name]
        exact isLocalName_of_usable imported usable
      rw [← fromStart.isLocalName, tidy.fresh given among] at bound
      cases bound
    · have found := keeps.found given.1 given.2 (Assoc.find?_of_mem tidy.single among)
      exact List.mem_map.mpr ⟨given, Assoc.mem_of_find? found, rfl⟩

end AspectLoom.ImportScope
