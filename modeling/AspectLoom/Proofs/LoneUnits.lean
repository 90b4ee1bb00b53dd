import AspectLoom.Proofs.Replacements
import AspectLoom.Proofs.WeaveFaults
/-!
What a woven unit depends on. Under content naming a session only remembers names, and of those a
run that succeeds never meets one. So a unit comes out as if it were woven alone, whatever was woven
before it.
-/
namespace AspectLoom

open Actions

/-- All that weaving reads of a join point. The number of its declaration and the place of its
pointcut are left out. -/
structure PointReading where
  site : Site
  advice : String
  decl : Option Declaration
deriving DecidableEq

def JoinPoint.reading (package : TargetPackage) (point : JoinPoint) : PointReading :=
  ⟨point.site, point.advice, package.symbols.get? point.decl⟩

/-- Two sessions under content naming of which the first has issued all names of the second. -/
structure WeaveSession.Covers (session other : WeaveSession) : Prop where
  content : session.names.scheme = .content
  otherContent : other.names.scheme = .content
  pairs_eq : session.pairs = other.pairs
  issued : other.names.issued ⊆ session.names.issued

structure UnitMemory.Covers (memory other : UnitMemory) : Prop where
  session : memory.session.Covers other.session
  scope_eq : memory.scope = other.scope

/-- The session that a weave with content naming begins with. -/
def WeaveSession.content : WeaveSession := ⟨{ scheme := .content }, []⟩

theorem WeaveSession.content_covers : WeaveSession.content.Covers .content where
  content := rfl
  otherContent := rfl
  pairs_eq := rfl
  issued := List.Subset.refl _

/-- Under content naming a name that is free stays free when fewer names are issued. -/
theorem NameSession.next_fewer {session other after : NameSession} {path : Path} {span : Span}
    {fullName : String} {names : SyntheticNames} (content : session.scheme = .content)
    (otherContent : other.scheme = .content) (fewer : other.issued ⊆ session.issued)
    (issued : session.next path span fullName = (.ok names, after)) :
    ∃ last, other.next path span fullName = (.ok names, last) ∧ after.scheme = .content ∧
      last.scheme = .content ∧ last.issued ⊆ after.issued := by
  have same : other.proxyName path span fullName = session.proxyName path span fullName := by
    unfold proxyName
    rw [content, otherContent]
  have kept := (next_scheme issued).trans content
  unfold next at issued ⊢
  simp only [advance_issued, same, List.contains_eq_mem, decide_eq_true_eq] at issued ⊢
  split at issued
  · cases issued
  · rename_i free
    cases issued
    rw [if_neg fun taken => free (fewer taken)]
    exact ⟨_, rfl, kept, (advance_scheme other).trans otherContent, List.cons_subset_cons _ fewer⟩

namespace UnitWeaver

/-- Each result of the first action is one of the second too, from any memory with fewer names. -/
def Repeats {α : Type} (first second : UnitM α) : Prop :=
  ∀ memory other value after, memory.Covers other → runFrom first memory = (.ok value, after) →
    ∃ last, runFrom second other = (.ok value, last) ∧ after.Covers last

theorem repeats_pure {α : Type} (value : α) : Repeats (pure value : UnitM α) (pure value) := by
  intro memory other given after covers ran
  cases ran
  exact ⟨other, rfl, covers⟩

theorem repeats_throw {α : Type} (error : UnitError) (second : UnitM α) :
    Repeats (throw error) second := by
  intro memory other given after covers ran
  cases ran

theorem repeats_bind {α β : Type} {first second : UnitM α} {next later : α → UnitM β}
    (begins : Repeats first second) (goesOn : ∀ value, Repeats (next value) (later value)) :
    Repeats (first >>= next) (second >>= later) := by
  intro memory other result after covers ran
  obtain ⟨value, middle, firstRan, ran⟩ := runFrom_bind_ok ran
  obtain ⟨between, secondRan, covered⟩ := begins _ _ _ _ covers firstRan
  obtain ⟨last, laterRan, reached⟩ := goesOn value _ _ _ _ covered ran
  exact ⟨last, (runFrom_bind_of_ok secondRan later).trans laterRan, reached⟩

variable {left right : TargetPackage} {unit : CompilationUnit} {imports : ProxyImports}

section
variable {point other : JoinPoint} (siteEq : point.site = other.site)
include siteEq

theorem nextNames_repeats (fullName : String) :
    Repeats ((UnitWeaver.mk left unit imports).nextNames point fullName)
      ((UnitWeaver.mk right unit imports).nextNames other fullName) := by
  intro memory fewer value after covers ran
  rw [runFrom_nextNames] at ran
  split at ran
  · rename_i names issued next
    cases ran
    rw [siteEq] at next
    obtain ⟨last, again, content, otherContent, kept⟩ := NameSession.next_fewer
      covers.session.content covers.session.otherContent covers.session.issued next
    refine ⟨{ fewer with session := { fewer.session with names := last } }, ?_,
      ⟨content, otherContent, covers.session.pairs_eq, kept⟩, covers.scope_eq⟩
    rw [runFrom_nextNames, again]
  · cases ran

theorem call_repeats (adviceEq : point.advice = other.advice) (decl : Declaration) (callee : Callee)
    (receiver : String) :
    Repeats ((UnitWeaver.mk left unit imports).call point decl callee receiver)
      ((UnitWeaver.mk right unit imports).call other decl callee receiver) := by
  refine repeats_bind (nextNames_repeats siteEq _) fun names =>
    repeats_bind ?_ fun _ => repeats_pure _
  intro memory fewer value after covers ran
  cases ran
  refine ⟨_, rfl, ⟨covers.session.content, covers.session.otherContent, ?_, covers.session.issued⟩, ?_⟩
  · simp only [covers.session.pairs_eq, covers.scope_eq, adviceEq]
  · simp only [covers.scope_eq]

end

/-! Join points that read the same lie the same -/

section
variable {point other : JoinPoint} {rest others : List JoinPoint}
  (same : rest.map (JoinPoint.reading left) = others.map (JoinPoint.reading right))
include same

theorem inOrder_reading : (JoinPoints.inOrder rest).map (JoinPoint.reading left) =
    (JoinPoints.inOrder others).map (JoinPoint.reading right) := by
  refine map_sortBy_congr (fun first second third fourth firstSame secondSame => ?_) same
  have firstSite : first.site = third.site := congrArg PointReading.site firstSame
  have secondSite : second.site = fourth.site := congrArg PointReading.site secondSame
  rw [JoinPoints.precedes, JoinPoints.precedes, firstSite, secondSite]

theorem within_reading (operand : Span) :
    (within operand rest).map (JoinPoint.reading left) =
      (within operand others).map (JoinPoint.reading right) := by
  have kept := congrArg (List.filter fun read => operand.contains read.site.span) same
  rwa [List.filter_map, List.filter_map] at kept

variable (siteEq : point.site = other.site)
include siteEq

theorem nestedIn_reading : (nestedIn point rest).map (JoinPoint.reading left) =
    (nestedIn other others).map (JoinPoint.reading right) := by
  have kept := congrArg
    (List.takeWhile fun read => decide (read.site.span.start < point.site.span.stop)) same
  rw [List.takeWhile_map, List.takeWhile_map] at kept
  rw [nestedIn, nestedIn, ← siteEq]
  exact kept

theorem after_reading : (after point rest).map (JoinPoint.reading left) =
    (after other others).map (JoinPoint.reading right) := by
  have kept := congrArg
    (List.dropWhile fun read => decide (read.site.span.start < point.site.span.stop)) same
  rw [List.dropWhile_map, List.dropWhile_map] at kept
  rw [after, after, ← siteEq]
  exact kept

end

/-! Weaving join points that read the same -/

mutual

/-- A text whose join points read the same is woven the same with fewer names issued. -/
theorem weaveText_repeats (start stop : Nat) (points others : List JoinPoint)
    (same : points.map (JoinPoint.reading left) = others.map (JoinPoint.reading right)) :
    Repeats ((UnitWeaver.mk left unit imports).weaveText start stop points)
      ((UnitWeaver.mk right unit imports).weaveText start stop others) := by
  match points, others with
  | [], [] =>
      rw [weaveText, weaveText]
      exact repeats_pure _
  | [], _ :: _ | _ :: _, [] => cases same
  | point :: rest, other :: more =>
      obtain ⟨here, there⟩ := List.cons.inj same
      have siteEq : point.site = other.site := congrArg PointReading.site here
      rw [weaveText, weaveText, siteEq]
      exact repeats_bind (weavePoint_repeats here _ _ (nestedIn_reading there siteEq)) fun _ =>
        repeats_bind (weaveText_repeats _ _ _ _ (after_reading there siteEq)) fun _ =>
          repeats_pure _
termination_by 2 * points.length
decreasing_by
  · have shorter := length_nestedIn_lt point point rest
    omega
  · have shorter := length_after_lt point point rest
    omega

theorem weavePoint_repeats {point other : JoinPoint}
    (here : point.reading left = other.reading right) (nested others : List JoinPoint)
    (same : nested.map (JoinPoint.reading left) = others.map (JoinPoint.reading right)) :
    Repeats ((UnitWeaver.mk left unit imports).weavePoint point nested)
      ((UnitWeaver.mk right unit imports).weavePoint other others) := by
  have siteEq : point.site = other.site := congrArg PointReading.site here
  have adviceEq : point.advice = other.advice := congrArg PointReading.advice here
  have declEq : left.symbols.get? point.decl = right.symbols.get? other.decl :=
    congrArg PointReading.decl here
  rw [weavePoint, weavePoint, ← declEq, ← siteEq]
  cases left.symbols.get? point.decl with
  | none => exact repeats_throw _ _
  | some decl =>
      dsimp only
      split
      · exact call_repeats siteEq adviceEq _ _ _
      · exact call_repeats siteEq adviceEq _ _ _
      · rename_i operand name operandType receiver shape isMethod
        exact repeats_bind (weaveText_repeats _ _ _ _ (within_reading same operand)) fun _ =>
          call_repeats siteEq adviceEq _ _ _
      · exact repeats_throw _ _
      · exact repeats_throw _ _
      · exact repeats_throw _ _
termination_by 2 * nested.length + 1
decreasing_by
  exact Nat.lt_succ_of_le (Nat.mul_le_mul_left 2 (length_within_le _ _))

end

theorem run_repeats {points others : List JoinPoint}
    (same : points.map (JoinPoint.reading left) = others.map (JoinPoint.reading right)) :
    Repeats ((UnitWeaver.mk left unit imports).run points)
      ((UnitWeaver.mk right unit imports).run others) := by
  refine repeats_bind (weaveText_repeats _ _ _ _ (inOrder_reading same)) fun text => ?_
  intro memory other value after covers ran
  cases ran
  refine ⟨{ other with session := { other.session with pairs := [] } }, ?_,
    ⟨covers.session.content, covers.session.otherContent, rfl, covers.session.issued⟩,
    covers.scope_eq⟩
  rw [covers.session.pairs_eq, covers.scope_eq]
  rfl

end UnitWeaver

namespace WovenUnit

variable {left right package : TargetPackage} {imports : ProxyImports} {unit : CompilationUnit}
  {session after : WeaveSession} {outcome : Option WovenUnit}

theorem weave_of_run {points : List JoinPoint} {woven : WovenUnit} {final : UnitMemory}
    (filled : points ≠ [])
    (ran : runFrom ((UnitWeaver.mk package unit imports).run points)
      ⟨session, { unit := unit, packageNames := package.packageNames }⟩ = (.ok woven, final)) :
    weave package imports unit points session = (.ok (some woven), final.session) := by
  unfold runFrom at ran
  rw [weave, if_neg (by simpa using filled)]
  simp only [ran]
  rfl

/-- Only a unit without join points is not woven, and it leaves the session as it is. -/
theorem weave_none {points : List JoinPoint}
    (ran : weave package imports unit points session = (.ok none, after)) :
    points = [] ∧ after = session := by
  cases points with
  | nil =>
      cases ran
      exact ⟨rfl, rfl⟩
  | cons point rest =>
      rcases inner : runFrom ((UnitWeaver.mk package unit imports).run (point :: rest))
        ⟨session, { unit := unit, packageNames := package.packageNames }⟩ with ⟨cause | woven, final⟩
      · unfold runFrom at inner
        simp only [weave, List.isEmpty_cons, Bool.false_eq_true, if_false, inner] at ran
        cases ran
      · rw [weave_of_run (List.cons_ne_nil _ _) inner] at ran
        cases ran

/-- A unit is woven the same from any session with fewer names. -/
theorem weave_repeats {points others : List JoinPoint} {other : WeaveSession}
    (covers : session.Covers other) (names : left.packageNames = right.packageNames)
    (same : points.map (JoinPoint.reading left) = others.map (JoinPoint.reading right))
    (ran : weave left imports unit points session = (.ok outcome, after)) :
    ∃ last, weave right imports unit others other = (.ok outcome, last) ∧ after.Covers last := by
  cases outcome with
  | none =>
      obtain ⟨rfl, rfl⟩ := weave_none ran
      rw [List.map_eq_nil_iff.mp same.symm]
      exact ⟨other, rfl, covers⟩
  | some woven =>
      obtain ⟨final, unitRan, rfl⟩ := weave_ok ran
      obtain ⟨last, again, reached⟩ := UnitWeaver.run_repeats same _
        ⟨other, { unit := unit, packageNames := right.packageNames }⟩ _ _ ⟨covers, by rw [names]⟩ unitRan
      refine ⟨last.session, weave_of_run ?_ again, reached.session⟩
      rintro rfl
      rw [List.map_eq_nil_iff.mp same] at ran
      cases ran

/-- A session with content naming is left as one, and without pairs. -/
theorem weave_covers {points : List JoinPoint} (covers : session.Covers .content)
    (ran : weave package imports unit points session = (.ok outcome, after)) :
    after.Covers .content := by
  obtain ⟨last, again, reached⟩ := weave_repeats covers rfl rfl ran
  refine ⟨reached.content, rfl, ?_, List.nil_subset _⟩
  cases outcome with
  | none =>
      rw [(weave_none ran).2]
      exact covers.pairs_eq
  | some woven =>
      obtain ⟨final, unitRan, rfl⟩ := weave_ok ran
      obtain ⟨_, middle, _, _, _, closing⟩ := UnitWeaver.run_ok unitRan
      rw [closing]
      rfl

theorem weave_unit {points : List JoinPoint} {woven : WovenUnit}
    (ran : weave package imports unit points session = (.ok (some woven), after)) :
    woven.unit = unit.id := by
  obtain ⟨final, unitRan, _⟩ := weave_ok ran
  unfold UnitWeaver.run at unitRan
  obtain ⟨text, middle, _, unitRan⟩ := runFrom_bind_ok unitRan
  cases unitRan
  rfl

/-- Units woven with one session are all woven, the later ones with what the first left. -/
theorem weaveEach_cons {points : JoinPoints} {units : List CompilationUnit} {woven : List WovenUnit}
    (ran : weaveEach package imports points session (unit :: units) = .ok woven) :
    ∃ own middle others, weave package imports unit (points.ofUnit unit.id) session = (.ok own, middle) ∧
      weaveEach package imports points middle units = .ok others ∧ woven = own.toList ++ others := by
  rw [weaveEach] at ran
  rcases first : weave package imports unit (points.ofUnit unit.id) session with ⟨cause | own, middle⟩
  · rw [first] at ran
    cases ran
  · rw [first] at ran
    dsimp only at ran
    cases later : weaveEach package imports points middle units with
    | error cause =>
        rw [later] at ran
        cases ran
    | ok others =>
        rw [later] at ran
        cases ran
        exact ⟨own, middle, others, rfl, later, rfl⟩

variable {points : JoinPoints} {units : List CompilationUnit} {woven : List WovenUnit}

theorem mem_weaveEach (ran : weaveEach package imports points session units = .ok woven) :
    ∀ other ∈ woven, other.unit ∈ units.map CompilationUnit.id := by
  induction units generalizing session woven with
  | nil =>
      cases ran
      exact List.forall_mem_nil _
  | cons unit rest ih =>
      obtain ⟨own, middle, others, first, later, rfl⟩ := weaveEach_cons ran
      intro other member
      rcases List.mem_append.mp member with here | there
      · rw [Option.mem_toList] at here
        cases here
        exact List.mem_cons.mpr (.inl (weave_unit first))
      · exact List.mem_cons_of_mem _ (ih later other there)

/-- What a unit became in a weave. -/
def outcomeFor (unit : CompilationUnit) (woven : List WovenUnit) : Option WovenUnit :=
  woven.find? fun other => other.unit == unit.id

/-- A unit among others that are woven comes out as it does alone. -/
theorem weaveEach_lone (covers : session.Covers .content)
    (distinct : (units.map CompilationUnit.id).Nodup) (member : unit ∈ units)
    (ran : weaveEach package imports points session units = .ok woven) :
    ∃ last, weave package imports unit (points.ofUnit unit.id) .content =
      (.ok (outcomeFor unit woven), last) := by
  induction units generalizing session woven with
  | nil => cases member
  | cons head rest ih =>
      obtain ⟨own, middle, others, first, later, rfl⟩ := weaveEach_cons ran
      obtain ⟨new, restDistinct⟩ := List.nodup_cons.mp distinct
      rcases List.mem_cons.mp member with rfl | behind
      · obtain ⟨last, again, _⟩ := weave_repeats covers rfl rfl first
        refine ⟨last, again.trans (congrArg (fun found => (Except.ok found, last)) ?_)⟩
        cases own with
        | none =>
            refine (List.find?_eq_none.mpr fun other there same => new ?_).symm
            rw [← beq_iff_eq.mp same]
            exact mem_weaveEach later other there
        | some whole =>
            refine (List.find?_cons_of_pos ?_).symm
            exact beq_iff_eq.mpr (weave_unit first)
      · obtain ⟨last, alone⟩ := ih (weave_covers covers first) restDistinct behind later
        refine ⟨last, alone.trans (congrArg (fun found => (Except.ok found, last)) ?_)⟩
        have passes : own.toList.find? (fun other => other.unit == unit.id) = none := by
          refine List.find?_eq_none.mpr fun other here same => new ?_
          rw [Option.mem_toList] at here
          cases here
          rw [← weave_unit first, beq_iff_eq.mp same]
          exact List.mem_map_of_mem behind
        rw [outcomeFor, outcomeFor, List.find?_append, passes, Option.none_or]

/-- Under content naming a unit is woven the same in any two weaves, whatever other units are woven
with it and in whatever order, if its own join points are the same with the same declarations and
the same package names are known. It is as if it were woven alone. -/
theorem weaveEach_own {leftPoints rightPoints : JoinPoints} {leftUnits rightUnits : List CompilationUnit}
    {leftWoven rightWoven : List WovenUnit} (names : left.packageNames = right.packageNames)
    (same : (leftPoints.ofUnit unit.id).map (JoinPoint.reading left) =
      (rightPoints.ofUnit unit.id).map (JoinPoint.reading right))
    (leftMember : unit ∈ leftUnits) (rightMember : unit ∈ rightUnits)
    (leftDistinct : (leftUnits.map CompilationUnit.id).Nodup)
    (rightDistinct : (rightUnits.map CompilationUnit.id).Nodup)
    (leftRan : weaveEach left imports leftPoints .content leftUnits = .ok leftWoven)
    (rightRan : weaveEach right imports rightPoints .content rightUnits = .ok rightWoven) :
    outcomeFor unit leftWoven = outcomeFor unit rightWoven ∧
      (weave left imports unit (leftPoints.ofUnit unit.id) .content).1 =
        .ok (outcomeFor unit leftWoven) := by
  obtain ⟨leftLast, leftAlone⟩ :=
    weaveEach_lone WeaveSession.content_covers leftDistinct leftMember leftRan
  obtain ⟨rightLast, rightAlone⟩ :=
    weaveEach_lone WeaveSession.content_covers rightDistinct rightMember rightRan
  obtain ⟨last, again, _⟩ := weave_repeats WeaveSession.content_covers names same leftAlone
  refine ⟨?_, by rw [leftAlone]⟩
  exact Except.ok.inj (Prod.ext_iff.mp (again.symm.trans rightAlone)).1

/-- A unit that calls a function of its package. -/
def callingUnit (id : UnitId) (function : String) : CompilationUnit where
  id := id
  path := ⟨"/s/" ++ function ++ ".go"⟩
  relativePath := ⟨function ++ ".go"⟩
  packageName := "p"
  packagePath := "p"
  source := "package p\nvar _ = " ++ function ++ "()\n"
  imports := []
  packageClause := ⟨0, 9⟩
  isAspect := false

def callPoint (unit : UnitId) (function : String) (decl : DeclId) (advice : String) : JoinPoint :=
  ⟨⟨⟨unit, ⟨18, 19⟩⟩, 2, 9, .ident function⟩, decl, 0, advice⟩

def callPoints (points : List JoinPoint) : JoinPoints where
  entries := points.map fun point => (point.site.toSiteKey, point)

/-- A package whose functions are numbered in the order that is given. -/
def callPackage (functions : List String) : TargetPackage where
  layout := ⟨⟨"/s"⟩, "p"⟩
  path := "p"
  units := [callingUnit 0 "f", callingUnit 1 "g"]
  symbols := .ofDeclarations (functions.map fun name => ⟨"p", name, none, {}⟩)
  packageNames := []

def firstPoints : JoinPoints := callPoints [callPoint 0 "f" 0 "A", callPoint 1 "g" 1 "A"]

/-- The other unit has another advice and comes first, and the declarations are numbered anew. -/
def secondPoints : JoinPoints := callPoints [callPoint 1 "g" 0 "B", callPoint 0 "f" 1 "A"]

theorem weaveEach_own_calls : ∃ leftWoven rightWoven,
    weaveEach (callPackage ["f", "g"]) {} firstPoints .content
      [callingUnit 0 "f", callingUnit 1 "g"] = .ok leftWoven ∧
    weaveEach (callPackage ["g", "f"]) {} secondPoints .content
      [callingUnit 1 "g", callingUnit 0 "f"] = .ok rightWoven ∧
    (outcomeFor (callingUnit 0 "f") leftWoven).isSome = true ∧
    outcomeFor (callingUnit 0 "f") leftWoven = outcomeFor (callingUnit 0 "f") rightWoven := by
  have leftFound : ((weaveEach (callPackage ["f", "g"]) {} firstPoints .content
      [callingUnit 0 "f", callingUnit 1 "g"]).toOption.map fun woven =>
        (outcomeFor (callingUnit 0 "f") woven).isSome) = some true := by decide +kernel
  have rightRuns : ((weaveEach (callPackage ["g", "f"]) {} secondPoints .content
      [callingUnit 1 "g", callingUnit 0 "f"]).toOption.isSome) = true := by decide +kernel
  obtain ⟨leftWoven, leftRan, found⟩ := Option.map_eq_some_iff.mp leftFound
  obtain ⟨rightWoven, rightRan⟩ := Option.isSome_iff_exists.mp rightRuns
  have names : (callPackage ["f", "g"]).packageNames = (callPackage ["g", "f"]).packageNames := rfl
  have same : (firstPoints.ofUnit 0).map (JoinPoint.reading (callPackage ["f", "g"])) =
      (secondPoints.ofUnit 0).map (JoinPoint.reading (callPackage ["g", "f"])) := by decide
  have own := weaveEach_own names same List.mem_cons_self
    (List.mem_cons_of_mem _ List.mem_cons_self) (by decide) (by decide)
    (ok_of_toOption leftRan) (ok_of_toOption rightRan)
  exact ⟨leftWoven, rightWoven, ok_of_toOption leftRan, ok_of_toOption rightRan, found, own.1⟩

end WovenUnit
end AspectLoom
