import AspectLoom.Proofs.GoverningPointcuts
import AspectLoom.Proofs.PackageOrigins
import AspectLoom.Proofs.RecordedSites
import AspectLoom.Proofs.TextLines
import AspectLoom.Proofs.WeaveFaults
/-!
Recorded places. The line and column that a use is recorded with are those of the start of its span,
so a finding about a reference and a failure to weave it have the location of a recorded use.
-/
namespace AspectLoom

open Actions
open Syntax (Node)

/-- The order of locations in a file: that of their lines, and in a line that of their columns. -/
def Location.rank (location : Location) : Nat ×ₗ Nat := toLex (location.line, location.column)

namespace TargetPackage

/-- The location that a use was recorded with. -/
def locationOf? (package : TargetPackage) (use : Use) : Option Location :=
  (package.unit? use.site.unit).map fun unit => ⟨unit.path, use.site.line, use.site.column⟩

/-- Units are told apart by their numbers, and each use was recorded in one of them, with the location
of the start of its span. -/
structure UsesLocated (package : TargetPackage) : Prop where
  numbered : Numbered package.units
  located : ∀ use ∈ package.symbols.uses.toList, ∃ unit,
    package.unit? use.site.unit = some unit ∧
      unit.location use.site.span.start = ⟨unit.path, use.site.line, use.site.column⟩

end TargetPackage

/-! Recording -/

namespace Resolver

variable {resolver : Resolver} {node : Node} {memory last : WalkMemory} {site : Site}

/-- Whether a site lies in the file of a resolver and has the position of its start. -/
def Locates (resolver : Resolver) (site : Site) : Prop :=
  site.unit = resolver.unit.id ∧ resolver.unit.location site.span.start =
    ⟨resolver.unit.path, site.line, site.column⟩

theorem locates_siteOf (resolver : Resolver) (node : Node) (shape : Shape) :
    resolver.Locates (resolver.siteOf node shape) := by
  refine ⟨rfl, ?_⟩
  rw [CompilationUnit.location, Text.position_eq]
  rfl

theorem Origin.located (origin : resolver.Origin node memory last site) :
    resolver.Locates site := by
  obtain ⟨inner, there, next, sites, _, ready, ran, added, member, _⟩ := origin
  -- The sites that were added are those of the findings of one run at one reference.
  obtain ⟨found, entered, _, _, sited⟩ := resolver.refer_sites inner _ _ _ ready ran
  rw [entered, SymbolTable.notes_sites] at added
  rw [← List.append_cancel_left added] at member
  obtain ⟨finding, among, rfl⟩ := List.mem_map.mp member
  obtain ⟨place, shape, same, _⟩ := sited finding among
  rw [same]
  exact resolver.locates_siteOf place shape

end Resolver

namespace TargetPackage

variable {package : TargetPackage}

theorem resolved_located {packages : PackageSource} {path : String}
    {units : List (CompilationUnit × Node)} (numbered : Numbered (units.map Prod.fst))
    (resolves : resolved packages path units = .ok package) : package.UsesLocated := by
  obtain ⟨last, ran, rfl⟩ := resolved_ok_iff.mp resolves
  obtain ⟨entries, start, prepared, _⟩ := runFrom_bind_ok ran
  obtain ⟨_, _, files⟩ := resolvers_ready prepared
  obtain ⟨_, origins⟩ := resolveAll_walked prepared ran
  refine ⟨numbered, fun use member => ?_⟩
  obtain ⟨⟨resolver, code⟩, isPiece, before, next, _, origin⟩ :=
    origins use.site (List.mem_map_of_mem member)
  obtain ⟨root, among, _⟩ := mem_codes.mp isPiece
  have isUnit : resolver.unit ∈ units.map Prod.fst := by
    rw [← files, List.map_map]
    exact List.mem_map_of_mem among
  obtain ⟨own, located⟩ := origin.located
  refine ⟨resolver.unit, ?_, located⟩
  rw [unit?, own]
  exact numbered.getElem?_id isUnit

theorem load_located {tree : FileTree} {sourceRoot : Path} {target suffix : String}
    (loads : load tree sourceRoot target suffix = .ok package) : package.UsesLocated := by
  obtain ⟨_, _, _, _, _, _, _, _, read, resolves⟩ := load_ok_iff.mp loads
  obtain ⟨_, _, numbered, _⟩ := UnitReader.readAll_paths read
  exact resolved_located numbered resolves

end TargetPackage

/-! Findings -/

namespace JoinPoints

variable {package : TargetPackage} {pointcuts : List Pointcut} {finding : Diagnostic}

/-- A finding of a selection is about the reference of a recorded use. -/
theorem finding_of_use (found : finding ∈ (ofPointcuts pointcuts package).findings) :
    ∃ use ∈ package.symbols.uses.toList, ∃ reference overridden winner,
      package.reference? use = some reference ∧
      finding = .conflict reference.location reference.fullName overridden winner := by
  rw [(ofPointcuts_tracks pointcuts package).findings] at found
  obtain ⟨⟨⟨reference, pointcut⟩, index⟩, member, takes⟩ := List.mem_filterMap.mp found
  obtain ⟨overridden, _, rfl⟩ := Option.map_eq_some_iff.mp takes
  obtain ⟨use, isUse, isPair⟩ := List.mem_flatMap.mp (List.fst_mem_of_mem_zipIdx member)
  obtain ⟨refers, _⟩ := TargetPackage.mem_pairsOf.mp isPair
  exact ⟨use, isUse, reference, _, _, refers, rfl⟩

end JoinPoints

/-! Failures to weave -/

namespace UnitWeaver

variable {weaver : UnitWeaver} {points : List JoinPoint}

/-- Every run that fails does so at the start of one of some join points. -/
def FailsAt {α : Type} (weaver : UnitWeaver) (points : List JoinPoint) (action : UnitM α) : Prop :=
  ∀ memory error after, runFrom action memory = (.error error, after) →
    ∃ point ∈ points, error.location = weaver.unit.location point.site.span.start

theorem failsAt_pure {α : Type} (value : α) :
    weaver.FailsAt points (pure value : UnitM α) := by
  intro memory error after ran
  cases ran

theorem failsAt_throw {α : Type} {point : JoinPoint} (member : point ∈ points)
    (fault : WeaveFault) : weaver.FailsAt points (throw (weaver.errorAt point fault) : UnitM α) := by
  intro memory error after ran
  cases ran
  exact ⟨point, member, rfl⟩

theorem failsAt_bind {α β : Type} {action : UnitM α} {next : α → UnitM β}
    (first : weaver.FailsAt points action)
    (second : ∀ value, weaver.FailsAt points (next value)) :
    weaver.FailsAt points (action >>= next) := by
  intro memory error after ran
  rw [runFrom_bind] at ran
  rcases firstRan : runFrom action memory with ⟨cause | value, middle⟩
  · rw [firstRan] at ran
    cases ran
    exact first _ _ _ firstRan
  · rw [firstRan] at ran
    exact second value _ _ _ ran

theorem call_failsAt {point : JoinPoint} (member : point ∈ points) (decl : Declaration)
    (callee : Callee) (receiver : String) :
    weaver.FailsAt points (weaver.call point decl callee receiver) := by
  have names : weaver.FailsAt points (weaver.nextNames point decl.fullName) := by
    intro memory error after ran
    rw [runFrom_nextNames] at ran
    split at ran
    · cases ran
    · cases ran
      exact ⟨point, member, rfl⟩
  have generates : ∀ names, weaver.FailsAt points (weaver.generate point decl callee names) := by
    intro names memory error after ran
    cases ran
  exact failsAt_bind names fun names => failsAt_bind (generates names) fun _ => failsAt_pure _

theorem run_failsAt (weaver : UnitWeaver) (points : List JoinPoint) :
    weaver.FailsAt points (weaver.run points) := by
  have steps : weaver.HoldsOfSteps points (weaver.FailsAt points) :=
    ⟨failsAt_pure, failsAt_bind, fun _ member => call_failsAt member,
      fun _ member fault _ => failsAt_throw member fault⟩
  have reads : weaver.FailsAt points (get : UnitM UnitMemory) := by
    intro memory error after ran
    cases ran
  have takes : weaver.FailsAt points takePairs := by
    intro memory error after ran
    cases ran
  exact run_holds steps reads takes

end UnitWeaver

theorem WovenUnit.weave_failsAt {package : TargetPackage} {imports : ProxyImports}
    {unit : CompilationUnit} {points : List JoinPoint} {session : WeaveSession} {error : UnitError}
    (failed : (weave package imports unit points session).1 = .error error) :
    ∃ point ∈ points, error.location = unit.location point.site.span.start := by
  unfold weave at failed
  split at failed
  · cases failed
  · rcases ran : runFrom ((UnitWeaver.mk package unit imports).run points)
      ⟨session, { unit := unit, packageNames := package.packageNames }⟩ with ⟨outcome, memory⟩
    have fails := (UnitWeaver.mk package unit imports).run_failsAt points
      ⟨session, { unit := unit, packageNames := package.packageNames }⟩ error memory
    unfold runFrom at ran
    simp only [ran] at failed
    cases outcome with
    | ok woven => cases failed
    | error cause =>
        cases failed
        exact fails ran

namespace TargetPackage

variable {package : TargetPackage}

/-! One place -/

theorem UsesLocated.recordedAt (located : package.UsesLocated) {use : Use} {unit : CompilationUnit}
    (isUse : use ∈ package.symbols.uses.toList) (isUnit : package.unit? use.site.unit = some unit) :
    package.locationOf? use = some (unit.location use.site.span.start) := by
  obtain ⟨other, found, location⟩ := located.located use isUse
  cases isUnit.symm.trans found
  rw [locationOf?, isUnit, location]
  rfl

/-- A finding about a selection has the location of the use that it is about. -/
theorem UsesLocated.finding (located : package.UsesLocated) {pointcuts : List Pointcut}
    {finding : Diagnostic} (found : finding ∈ (JoinPoints.ofPointcuts pointcuts package).findings) :
    ∃ use ∈ package.symbols.uses.toList, ∃ reference location overridden winner,
      package.reference? use = some reference ∧ package.locationOf? use = some location ∧
      finding = .conflict location reference.fullName overridden winner := by
  obtain ⟨use, isUse, reference, overridden, winner, refers, rfl⟩ := JoinPoints.finding_of_use found
  obtain ⟨site, _, _, isUnit, _⟩ := reference_of_use refers
  have recorded := located.recordedAt isUse isUnit
  rw [← site] at recorded
  exact ⟨use, isUse, reference, _, overridden, winner, refers, recorded, rfl⟩

/-- A failure to weave a unit has the location of a use that is one of its join points. -/
theorem UsesLocated.failure (located : package.UsesLocated) {pointcuts : List Pointcut}
    {imports : ProxyImports} {unit : CompilationUnit} {session : WeaveSession} {error : UnitError}
    (isUnit : unit ∈ package.units)
    (failed : (WovenUnit.weave package imports unit
      ((JoinPoints.ofPointcuts pointcuts package).ofUnit unit.id) session).1 = .error error) :
    ∃ use ∈ package.symbols.uses.toList,
      (∃ point ∈ (JoinPoints.ofPointcuts pointcuts package).ofUnit unit.id, point.site = use.site) ∧
      package.locationOf? use = some error.location := by
  obtain ⟨point, member, location⟩ := WovenUnit.weave_failsAt failed
  obtain ⟨recorded, own⟩ := List.mem_filter.mp
    ((JoinPoints.sites_of_unit pointcuts package unit.id).2 point member)
  obtain ⟨use, isUse, site⟩ := List.mem_map.mp recorded
  rw [beq_iff_eq, ← site] at own
  refine ⟨use, isUse, ⟨point, member, site.symm⟩, ?_⟩
  have found : package.unit? use.site.unit = some unit := by
    rw [own]
    exact located.numbered.getElem?_id isUnit
  rw [location, ← site]
  exact located.recordedAt isUse found

/-- Lines and columns tell places apart and in order: what begins later in a text has a later line,
or the same line and a later column, and a place is as many bytes behind the start of its line as
its column is behind column one. Of a package that is loaded every use is recorded with the location
that its unit computes for the start of its span. So every finding about a selection has the
location of the use that it is about, and every failure to weave a unit has that of a use which is
a join point of the unit. -/
theorem locations_agree :
    (∀ (unit : CompilationUnit) (low high : Nat), Text.IsPlace unit.source low →
      Text.IsPlace unit.source high → low < high →
      (unit.location low).rank < (unit.location high).rank) ∧
    (∀ (unit : CompilationUnit) (offset : Nat), Text.IsPlace unit.source offset →
      let location := unit.location offset
      location.file = unit.path ∧ 0 < location.line ∧ 0 < location.column ∧
      (∃ line, (Text.lines unit.source)[location.line - 1]? = some line ∧
        location.column - 1 ≤ line.utf8ByteSize) ∧
      Text.lineStart unit.source location.line + location.column - 1 = offset) ∧
    (∀ tree sourceRoot target suffix package,
      load tree sourceRoot target suffix = .ok package →
      (∀ use ∈ package.symbols.uses.toList, ∃ unit, package.unit? use.site.unit = some unit ∧
        unit.location use.site.span.start = ⟨unit.path, use.site.line, use.site.column⟩) ∧
      ∀ pointcuts : List Pointcut,
        (∀ finding ∈ (JoinPoints.ofPointcuts pointcuts package).findings,
          ∃ use ∈ package.symbols.uses.toList, ∃ reference location overridden winner,
            package.reference? use = some reference ∧ package.locationOf? use = some location ∧
            finding = .conflict location reference.fullName overridden winner) ∧
        ∀ unit ∈ package.units, ∀ imports session error,
          let points := (JoinPoints.ofPointcuts pointcuts package).ofUnit unit.id
          (WovenUnit.weave package imports unit points session).1 = .error error →
          ∃ use ∈ package.symbols.uses.toList, (∃ point ∈ points, point.site = use.site) ∧
            package.locationOf? use = some error.location) := by
  refine ⟨?_, ?_, ?_⟩
  · intro unit low high opens closes before
    exact Text.position_lt opens closes before
  · intro unit offset place
    obtain ⟨line, found, inside, leads⟩ := Text.place_of_position place
    have column : 0 < (unit.location offset).column := Nat.succ_pos _
    refine ⟨rfl, Nat.succ_pos _, column, ⟨line, found, inside⟩, ?_⟩
    rw [Nat.add_sub_assoc column]
    exact leads
  · intro tree sourceRoot target suffix package loads
    have located := load_located loads
    refine ⟨located.located, fun pointcuts => ⟨fun finding found => located.finding found, ?_⟩⟩
    intro unit isUnit imports session error points failed
    exact located.failure isUnit failed

/-- The start of a line with a wide character, behind three other lines. -/
def wideStart : String := "package p\ntype T int\nfunc (t T) M() {}\n"

def wideLine : String := "var s, f = \"é\", "

/-- A package with a method expression behind a wide character. -/
def wideTree : FileTree where
  entries := [(["s"], .directory),
    (["s", "m.go"], .file (wideStart ++ wideLine ++ "T.M\n").toUTF8)]

def widePackage : Except LoadError TargetPackage := load wideTree ⟨"/s"⟩ "." "_aspect.go"

def widePointcuts : List Pointcut :=
  [(Pointcut.compile 0 "A" ".*").1, (Pointcut.compile 1 "B" ".*").1]

def widePoints (package : TargetPackage) : JoinPoints := JoinPoints.ofPointcuts widePointcuts package

def weaveWide (package : TargetPackage) (unit : CompilationUnit) :
    Except UnitError (Option WovenUnit) :=
  (WovenUnit.weave package {} unit ((widePoints package).ofUnit unit.id)
    ⟨{ scheme := .sequential }, []⟩).1

/-- Line and column of a failure. -/
def failureAt? (outcome : Except UnitError (Option WovenUnit)) : Option (Nat × Nat) :=
  match outcome with
  | .error error => some (error.location.line, error.location.column)
  | .ok _ => none

def wideSummary (package : TargetPackage) :=
  package.units.map fun unit =>
    (unit.source, failureAt? (weaveWide package unit), (widePoints package).findings.length)

theorem wide_fails : ∃ package unit error finding, widePackage = .ok package ∧
    unit ∈ package.units ∧ unit.source = wideStart ++ wideLine ++ "T.M\n" ∧
    weaveWide package unit = .error error ∧
    (error.location.line, error.location.column) = (4, 18) ∧
    finding ∈ (widePoints package).findings := by
  have summary : widePackage.toOption.map wideSummary =
      some [(wideStart ++ wideLine ++ "T.M\n", some (4, 18), 1)] := by
    decide +kernel
  cases loads : widePackage with
  | error cause =>
      rw [loads] at summary
      cases summary
  | ok package =>
      rw [loads] at summary
      obtain ⟨unit, others, units, same, _⟩ := List.map_eq_cons_iff.mp (Option.some.inj summary)
      simp only [Prod.mk.injEq] at same
      obtain ⟨source, failure, count⟩ := same
      obtain ⟨finding, found⟩ := List.exists_mem_of_length_pos (by rw [count]; decide)
      cases failed : weaveWide package unit with
      | ok woven =>
          rw [failed] at failure
          cases failure
      | error error =>
          rw [failed] at failure
          refine ⟨package, unit, error, finding, rfl, ?_, source, failed, Option.some.inj failure,
            found⟩
          rw [units]
          exact List.mem_cons_self

theorem locations_agree_wide : ∃ package unit error finding, widePackage = .ok package ∧
    unit ∈ package.units ∧ weaveWide package unit = .error error ∧
    (error.location.line, error.location.column) = (4, 18) ∧
    (∃ use ∈ package.symbols.uses.toList, package.locationOf? use = some error.location ∧
      ∃ unit, package.unit? use.site.unit = some unit ∧
        unit.location use.site.span.start = ⟨unit.path, use.site.line, use.site.column⟩) ∧
    (∃ use ∈ package.symbols.uses.toList, ∃ location fullName overridden winner,
      package.locationOf? use = some location ∧
      finding = Diagnostic.conflict location fullName overridden winner) ∧
    (Text.IsPlace unit.source 39 ∧ Text.IsPlace unit.source 56 ∧
      (unit.location 39).rank < (unit.location 56).rank ∧
      Text.lineStart unit.source (unit.location 56).line + (unit.location 56).column - 1 = 56) := by
  obtain ⟨package, unit, error, finding, loads, isUnit, source, failed, position, found⟩ := wide_fails
  obtain ⟨ordered, leads, loaded⟩ := locations_agree
  obtain ⟨located, selected⟩ := loaded _ _ _ _ package loads
  obtain ⟨conflicts, failures⟩ := selected widePointcuts
  obtain ⟨use, isUse, _, sameAt⟩ := failures unit isUnit _ _ error failed
  obtain ⟨other, isOther, _, location, overridden, winner, _, otherAt, same⟩ := conflicts finding found
  have low : Text.IsPlace unit.source 39 := by
    rw [source]
    exact ⟨wideStart, wideLine ++ "T.M\n", String.append_assoc, rfl⟩
  have high : Text.IsPlace unit.source 56 := by
    rw [source]
    exact ⟨wideStart ++ wideLine, "T.M\n", rfl, rfl⟩
  exact ⟨package, unit, error, finding, loads, isUnit, failed, position,
    ⟨use, isUse, sameAt, located use isUse⟩,
    ⟨other, isOther, location, _, overridden, winner, otherAt, same⟩, low, high,
    ordered unit 39 56 low high (by decide), (leads unit 56 high).2.2.2.2⟩

end TargetPackage
end AspectLoom
