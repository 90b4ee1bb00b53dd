import AspectLoom.Proofs.GoverningPointcuts
import AspectLoom.Proofs.LoadedUnits
import AspectLoom.Proofs.RecordedSites
import AspectLoom.Proofs.Replacements
import AspectLoom.Proofs.WeaveFaults
/-!
References whose form cannot be woven. A weave passes none of its join points over, so it fails
where a pointcut selects such a reference.
-/
namespace AspectLoom

open Actions

namespace UnitWeaver

variable {weaver : UnitWeaver}

/-- Weaving that succeeds has met none but forms that can be woven. -/
theorem weaveText_forms (count : Nat) : ∀ (points : List JoinPoint) (start stop : Nat)
    (memory final : UnitMemory) (text : String), points.length = count →
    points.Pairwise JoinPoint.Follows →
    runFrom (weaver.weaveText start stop points) memory = (.ok text, final) →
    ∀ point ∈ points, (calleeOf point.site.shape).isSome = true := by
  induction count using Nat.strong_induction_on with
  | _ count ih =>
      intro points start stop memory final text length follows ran
      cases points with
      | nil => exact List.forall_mem_nil _
      | cons point rest =>
          rw [weaveText] at ran
          obtain ⟨_, called, pointRan, ran⟩ := runFrom_bind_ok ran
          obtain ⟨_, _, restRan, _⟩ := runFrom_bind_ok ran
          obtain ⟨_, callee, _, reached, way⟩ := weavePoint_ok pointRan
          have ordered := (List.pairwise_cons.mp follows).2
          have behind : ∀ other ∈ after point rest, (calleeOf other.site.shape).isSome = true :=
            ih _ (by have shorter := length_after_lt point point rest; omega) _ _ _ _ _ _ rfl
              (ordered.sublist (List.dropWhile_sublist _)) restRan
          have nested : ∀ other ∈ nestedIn point rest,
              (calleeOf other.site.shape).isSome = true := by
            rcases way with ⟨_, function, _⟩ | ⟨operand, _, _, _, _, _, shape, _, operandRan, _⟩
            · rw [nestedIn_function follows function]
              exact List.forall_mem_nil _
            · -- All that is nested in a method's reference is woven with its operand.
              rw [within_nestedIn follows shape] at operandRan
              exact ih _ (by have fewer := length_nestedIn_lt point point rest; omega) _ _ _ _ _ _
                rfl (ordered.sublist (List.takeWhile_sublist _)) operandRan
          intro other member
          rcases List.mem_cons.mp member with rfl | among
          · rw [reached]
            rfl
          · rw [← nestedIn_append_after point rest] at among
            rcases List.mem_append.mp among with inner | later
            · exact nested other inner
            · exact behind other later

end UnitWeaver

namespace WovenUnit

open UnitWeaver

variable {package : TargetPackage} {imports : ProxyImports} {pointcuts : List Pointcut}

theorem weave_fails {unit : CompilationUnit} {points : List JoinPoint} {point : JoinPoint}
    {kind : String} (sites : SitesNested unit (points.map JoinPoint.site)) (member : point ∈ points)
    (shape : point.site.shape = .unsupported kind) (session : WeaveSession) :
    ∃ error after, weave package imports unit points session = (.error error, after) := by
  rcases ran : weave package imports unit points session with ⟨error | woven, after⟩
  · exact ⟨error, after, rfl⟩
  · exfalso
    cases woven with
    | none =>
        unfold weave at ran
        split at ran
        · rename_i empty
          rw [List.isEmpty_iff.mp empty] at member
          cases member
        · dsimp only at ran
          split at ran
          rename_i outcome _ _
          cases outcome <;> cases (Prod.mk.inj ran).1
    | some woven =>
        obtain ⟨final, unitRan, _⟩ := weave_ok ran
        obtain ⟨_, _, textRan, _⟩ := run_ok unitRan
        have ordered := JoinPoints.inOrder_follows sites
        have form := weaveText_forms _ _ _ _ _ _ _ rfl ordered textRan point
          ((JoinPoints.inOrder_perm points).mem_iff.mpr member)
        rw [shape] at form
        cases form

/-- Weaving unit by unit fails if one of the units cannot be woven whatever was woven before. -/
theorem weaveEach_fails_of_unit {points : JoinPoints} {unit : CompilationUnit}
    (fails : ∀ session, ∃ error after,
      weave package imports unit (points.ofUnit unit.id) session = (.error error, after))
    (units : List CompilationUnit) (member : unit ∈ units) (session : WeaveSession) :
    ∃ error, weaveEach package imports points session units = .error error := by
  induction units generalizing session with
  | nil => cases member
  | cons first rest ih =>
      rw [weaveEach]
      rcases ran : weave package imports first (points.ofUnit first.id) session with
        ⟨error | woven, after⟩
      · exact ⟨error, rfl⟩
      · rcases List.mem_cons.mp member with rfl | later
        · obtain ⟨error, last, failed⟩ := fails session
          cases ran.symm.trans failed
        · obtain ⟨error, failed⟩ := ih later after
          exact ⟨error, by dsimp only; rw [failed]; rfl⟩

/-- What is recorded at one site of a unit is the only use that has the site. -/
theorem use_unique {packages : PackageSource} {path : String}
    {units : List (CompilationUnit × Syntax.Node)}
    (laid : ∀ file ∈ units, FileLaid file.1 file.2)
    (distinct : (units.map fun file => file.1.id).Nodup)
    (resolves : TargetPackage.resolved packages path units = .ok package)
    {unit : CompilationUnit} (isUnit : unit ∈ package.units) {use other : Use}
    (used : use ∈ package.symbols.uses.toList) (own : use.site.unit = unit.id)
    (otherUsed : other ∈ package.symbols.uses.toList)
    (same : other.site.toSiteKey = use.site.toSiteKey) : other.site = use.site := by
  obtain ⟨keys, _⟩ := TargetPackage.resolved_sites_nested laid distinct resolves unit isUnit
  have among : ∀ each ∈ package.symbols.uses.toList, each.site.toSiteKey = use.site.toSiteKey →
      each.site ∈ package.symbols.sites.filter fun site => site.unit == unit.id := by
    intro each member key
    refine List.mem_filter.mpr ⟨List.mem_map_of_mem member, beq_iff_eq.mpr ?_⟩
    exact (congrArg SiteKey.unit key).trans own
  exact List.inj_on_of_nodup_map keys (among other otherUsed same) (among use used rfl) same

/-- A weave fails if a pointcut matches a use whose form cannot be woven. -/
theorem weaveEach_fails {packages : PackageSource} {path : String}
    {units : List (CompilationUnit × Syntax.Node)}
    (laid : ∀ file ∈ units, FileLaid file.1 file.2)
    (numbered : TargetPackage.Numbered (units.map Prod.fst))
    (resolves : TargetPackage.resolved packages path units = .ok package) {use : Use}
    {kind : String} (used : use ∈ package.symbols.uses.toList)
    (shape : use.site.shape = .unsupported kind) (matched : package.IsMatched pointcuts use)
    (session : WeaveSession) :
    ∃ error, weaveEach package imports (JoinPoints.ofPointcuts pointcuts package) session
      package.wovenUnits = .error error := by
  obtain ⟨_, _, unit, _, _, found, woven, _⟩ := id matched
  have isUnit : unit ∈ package.units := List.mem_of_getElem? found
  have own : use.site.unit = unit.id := by
    unfold TargetPackage.unit? at found
    rw [(TargetPackage.resolved_units resolves).2] at found
    exact (numbered _ unit found).symm
  have distinct : (units.map fun file => file.1.id).Nodup := by
    have distinct := numbered.nodup
    rwa [List.map_map] at distinct
  -- The join point at the place of the use can only be the one that the use gives.
  obtain ⟨selected, governed, _⟩ := JoinPoints.ofPointcuts_governs pointcuts package
  obtain ⟨point, here⟩ := (selected use.site.toSiteKey).mpr ⟨use, used, rfl, matched⟩
  obtain ⟨other, _, _, ⟨_, _, splits, ⟨key, _⟩, _⟩, _, _, same⟩ := governed _ _ here
  have otherUsed : other ∈ package.symbols.uses.toList := by
    rw [splits]
    exact List.mem_append_right _ List.mem_cons_self
  have site : point.site = use.site := by
    rw [same]
    exact use_unique laid distinct resolves isUnit used own otherUsed key
  have member : point ∈ (JoinPoints.ofPointcuts pointcuts package).ofUnit unit.id := by
    refine (JoinPoints.inOrder_perm _).mem_iff.mpr (List.mem_filter.mpr ⟨?_, ?_⟩)
    · exact List.mem_map_of_mem (Assoc.mem_of_find? here)
    · rw [site, own]
      exact beq_self_eq_true _
  obtain ⟨_, _, _, nested⟩ :=
    TargetPackage.resolved_sites_nested laid distinct resolves unit isUnit
  refine weaveEach_fails_of_unit (fun session => ?_) _ (List.mem_filter.mpr ⟨isUnit, ?_⟩) session
  · exact weave_fails (nested pointcuts).1 member (site ▸ shape) session
  · rw [woven]
    rfl

end WovenUnit
end AspectLoom
