import AspectLoom.Proofs.IssuedNames
import AspectLoom.Proofs.SuitedUses
import AspectLoom.Proofs.WeaveSteps
/-!
How weaving fails. For join points whose forms suit their declarations only two faults are left:
a form that cannot be woven, and a content name that was issued before.
-/
namespace AspectLoom

open Actions

/-- A failure at a join point that is to be expected: its form cannot be woven, or its content has
a name that is taken. -/
def UnitError.Expected (error : UnitError) (package : TargetPackage) (scheme : NamingScheme)
    (unit : CompilationUnit) (points : List JoinPoint) : Prop :=
  ∃ point ∈ points, error.location = unit.location point.site.span.start ∧
    ((∃ kind decl, point.site.shape = .unsupported kind ∧
        package.symbols.get? point.decl = some decl ∧
        error.fault = .unsupported kind decl.fullName) ∨
      scheme = .content ∧ ∃ name, error.fault = .nameTaken name)

/-- A session that follows a scheme and whose counted names come from its counter. -/
structure NameSession.Follows (session : NameSession) (scheme : NamingScheme) : Prop where
  scheme_eq : session.scheme = scheme
  counted : session.Counted

namespace UnitWeaver

variable {weaver : UnitWeaver} {scheme : NamingScheme} {points : List JoinPoint}

/-- Every run keeps to the naming scheme, and one that fails does so as expected. -/
def Behaves {α : Type} (weaver : UnitWeaver) (scheme : NamingScheme) (points : List JoinPoint)
    (action : UnitM α) : Prop :=
  ∀ memory outcome after, memory.session.names.Follows scheme →
    runFrom action memory = (outcome, after) →
      after.session.names.Follows scheme ∧ ∀ error, outcome = .error error →
        error.Expected weaver.package scheme weaver.unit points

theorem behaves_pure {α : Type} (value : α) :
    weaver.Behaves scheme points (pure value : UnitM α) := by
  intro memory outcome after follows ran
  cases ran
  exact ⟨follows, fun _ failed => by cases failed⟩

theorem behaves_bind {α β : Type} {action : UnitM α} {next : α → UnitM β}
    (first : weaver.Behaves scheme points action)
    (second : ∀ value, weaver.Behaves scheme points (next value)) :
    weaver.Behaves scheme points (action >>= next) := by
  intro memory outcome after follows ran
  rw [runFrom_bind] at ran
  rcases firstRan : runFrom action memory with ⟨cause | value, middle⟩
  · rw [firstRan] at ran
    cases ran
    obtain ⟨kept, expected⟩ := first _ _ _ follows firstRan
    refine ⟨kept, ?_⟩
    rintro _ ⟨⟩
    exact expected cause rfl
  · rw [firstRan] at ran
    exact second value _ _ _ (first _ _ _ follows firstRan).1 ran

theorem nextNames_behaves {point : JoinPoint} (member : point ∈ points) (fullName : String) :
    weaver.Behaves scheme points (weaver.nextNames point fullName) := by
  intro memory outcome after follows ran
  rw [runFrom_nextNames] at ran
  split at ran
  · rename_i names issued next
    cases ran
    refine ⟨⟨(NameSession.next_scheme next).trans follows.scheme_eq,
      NameSession.next_counted follows.counted next⟩, ?_⟩
    rintro _ ⟨⟩
  · rename_i taken issued next
    cases ran
    refine ⟨⟨(NameSession.next_scheme next).trans follows.scheme_eq,
      NameSession.next_counted follows.counted next⟩, ?_⟩
    rintro _ ⟨⟩
    refine ⟨point, member, rfl, .inr ⟨?_, taken, rfl⟩⟩
    cases scheme with
    | content => rfl
    | sequential =>
        obtain ⟨names, free⟩ := NameSession.next_free follows.counted follows.scheme_eq next
        cases free

theorem call_behaves {point : JoinPoint} (member : point ∈ points) (decl : Declaration)
    (callee : Callee) (receiver : String) :
    weaver.Behaves scheme points (weaver.call point decl callee receiver) := by
  have generates : ∀ names, weaver.Behaves scheme points
      (weaver.generate point decl callee names) := by
    intro names memory outcome after follows ran
    cases ran
    exact ⟨follows, fun _ failed => by cases failed⟩
  exact behaves_bind (nextNames_behaves member _) fun names =>
    behaves_bind (generates names) fun _ => behaves_pure _

/-- A join point that fits its declaration is refused only when its form cannot be woven. -/
theorem refuse_behaves {α : Type} {point : JoinPoint} {fault : WeaveFault} (member : point ∈ points)
    (fits : point.Fits weaver.package) (refuses : weaver.Refuses point fault) :
    weaver.Behaves scheme points (throw (weaver.errorAt point fault) : UnitM α) := by
  intro memory outcome after follows ran
  cases ran
  refine ⟨follows, ?_⟩
  rintro _ ⟨⟩
  obtain ⟨decl, known, suits⟩ := fits
  cases refuses with
  | unknown none => cases none.symm.trans known
  | unsupported found shape => exact ⟨point, member, rfl, .inl ⟨_, _, shape, found, rfl⟩⟩
  | behindReceiver found shape isFunction =>
      cases found.symm.trans known
      rw [shape] at suits
      exact absurd isFunction suits
  | withoutReceiver found bare supported isMethod =>
      cases found.symm.trans known
      cases shape : point.site.shape with
      | ident name =>
          rw [shape] at suits
          cases isMethod.symm.trans suits
      | qualified qualifier name =>
          rw [shape] at suits
          cases isMethod.symm.trans suits
      | selector operand name type => exact absurd shape (bare operand name type)
      | unsupported kind => exact absurd shape (supported kind)

/-- Weaving join points that fit goes wrong only at a form that cannot be woven or a taken name. -/
theorem run_behaves (fits : ∀ point ∈ points, point.Fits weaver.package) :
    weaver.Behaves scheme points (weaver.run points) := by
  have steps : weaver.HoldsOfSteps points (weaver.Behaves scheme points) :=
    ⟨behaves_pure, behaves_bind, fun _ member => call_behaves member,
      fun point member _ => refuse_behaves member (fits point member)⟩
  have reads : weaver.Behaves scheme points (get : UnitM UnitMemory) := by
    intro memory outcome after follows ran
    cases ran
    exact ⟨follows, fun _ failed => by cases failed⟩
  have takes : weaver.Behaves scheme points takePairs := by
    intro memory outcome after follows ran
    cases ran
    exact ⟨follows, fun _ failed => by cases failed⟩
  exact run_holds steps reads takes

end UnitWeaver

namespace WovenUnit

variable {package : TargetPackage} {imports : ProxyImports} {scheme : NamingScheme}

theorem weave_behaves {unit : CompilationUnit} {points : List JoinPoint}
    {session after : WeaveSession} {outcome : Except UnitError (Option WovenUnit)}
    (fits : ∀ point ∈ points, point.Fits package) (follows : session.names.Follows scheme)
    (ran : weave package imports unit points session = (outcome, after)) :
    after.names.Follows scheme ∧ ∀ error, outcome = .error error →
      error.Expected package scheme unit points := by
  unfold weave at ran
  split at ran
  · cases ran
    exact ⟨follows, fun _ failed => by cases failed⟩
  · rcases inner : runFrom ((UnitWeaver.mk package unit imports).run points)
      ⟨session, { unit := unit, packageNames := package.packageNames }⟩ with ⟨result, memory⟩
    obtain ⟨kept, expected⟩ := UnitWeaver.run_behaves fits _ _ _ follows inner
    unfold runFrom at inner
    simp only [inner] at ran
    cases ran
    refine ⟨kept, ?_⟩
    intro error failed
    cases result with
    | ok woven => cases failed
    | error cause =>
        cases failed
        exact expected _ rfl

/-- Weaves units in order with one session, up to the first that cannot be woven. -/
def weaveEach (package : TargetPackage) (imports : ProxyImports) (points : JoinPoints) :
    WeaveSession → List CompilationUnit → Except UnitError (List WovenUnit)
  | _, [] => .ok []
  | session, unit :: units =>
    match weave package imports unit (points.ofUnit unit.id) session with
    | (.error error, _) => .error error
    | (.ok woven, session) =>
      (weaveEach package imports points session units).map (woven.toList ++ ·)

theorem weaveEach_expected {points : JoinPoints} {error : UnitError}
    (fits : ∀ point ∈ points.toList, point.Fits package) (units : List CompilationUnit) :
    ∀ session : WeaveSession, session.names.Follows scheme →
      weaveEach package imports points session units = .error error →
      ∃ unit ∈ units, error.Expected package scheme unit (points.ofUnit unit.id) := by
  induction units with
  | nil =>
      intro session _ failed
      cases failed
  | cons unit rest ih =>
      intro session follows failed
      have own : ∀ point ∈ points.ofUnit unit.id, point.Fits package := by
        intro point member
        have among := (sortBy_perm _).mem_iff.mp member
        exact fits point (List.mem_filter.mp among).1
      rw [weaveEach] at failed
      rcases ran : weave package imports unit (points.ofUnit unit.id) session with
        ⟨cause | woven, after⟩
      · rw [ran] at failed
        cases failed
        exact ⟨unit, List.mem_cons_self, (weave_behaves own follows ran).2 error rfl⟩
      · rw [ran] at failed
        dsimp only at failed
        cases later : weaveEach package imports points after rest with
        | ok others =>
            rw [later] at failed
            cases failed
        | error cause =>
            rw [later] at failed
            cases failed
            obtain ⟨other, member, expected⟩ := ih after (weave_behaves own follows ran).1 later
            exact ⟨other, List.mem_cons_of_mem _ member, expected⟩

/-- When the units of a loaded package are woven with one session, at the join points that
pointcuts select, only a form that cannot be woven or a content name that is taken is a fault. -/
theorem weaveEach_faults {tree : FileTree} {sourceRoot : Path} {target suffix : String}
    (loads : TargetPackage.load tree sourceRoot target suffix = .ok package)
    (plain : ∀ entry ∈ package.packageNames, '(' ∉ entry.1.toList) (pointcuts : List Pointcut)
    {error : UnitError}
    (failed : weaveEach package imports (JoinPoints.ofPointcuts pointcuts package)
      ⟨{ scheme := scheme }, []⟩ package.wovenUnits = .error error) :
    ∃ unit ∈ package.wovenUnits, error.Expected package scheme unit
      ((JoinPoints.ofPointcuts pointcuts package).ofUnit unit.id) :=
  weaveEach_expected (TargetPackage.selected_fits loads plain pointcuts) package.wovenUnits
    ⟨{ scheme := scheme }, []⟩ ⟨rfl, NameSession.counted_start scheme⟩ failed

/-- A package with a method expression. -/
def expressionTree : FileTree where
  entries := [(["s"], .directory),
    (["s", "m.go"], .file "package p\ntype T int\nfunc (t T) M() {}\nvar f = T.M\n".toUTF8)]

def expressionPackage : Except LoadError TargetPackage :=
  TargetPackage.load expressionTree ⟨"/s"⟩ "." "_aspect.go"

def everyPointcut : List Pointcut := [(Pointcut.compile 0 "A" ".*").1]

def weaveExpression (package : TargetPackage) : Except UnitError (List WovenUnit) :=
  weaveEach package {} (JoinPoints.ofPointcuts everyPointcut package)
    ⟨{ scheme := .sequential }, []⟩ package.wovenUnits

def faultOf : Except UnitError (List WovenUnit) → Option WeaveFault
  | .error error => some error.fault
  | .ok _ => none

theorem expression_fails : ∃ package error, expressionPackage = .ok package ∧
    package.packageNames = [(".", "p")] ∧ weaveExpression package = .error error ∧
    error.fault = .unsupported "method expression" "(..T).M" := by
  have names : expressionPackage.toOption.map (fun package =>
      (package.packageNames, faultOf (weaveExpression package))) =
        some ([(".", "p")], some (.unsupported "method expression" "(..T).M")) := by
    decide +kernel
  cases loads : expressionPackage with
  | error cause =>
      rw [loads] at names
      cases names
  | ok package =>
      rw [loads] at names
      obtain ⟨paths, fault⟩ := Prod.mk.inj (Option.some.inj names)
      cases failed : weaveExpression package with
      | ok woven =>
          rw [failed] at fault
          cases fault
      | error error =>
          rw [failed] at fault
          exact ⟨package, error, rfl, paths, failed, Option.some.inj fault⟩

theorem weaveEach_faults_expression : ∃ package error,
    expressionPackage = .ok package ∧ weaveExpression package = .error error ∧
      error.fault = .unsupported "method expression" "(..T).M" ∧
      ∃ unit ∈ package.wovenUnits, error.Expected package .sequential unit
        ((JoinPoints.ofPointcuts everyPointcut package).ofUnit unit.id) := by
  obtain ⟨package, error, loads, paths, failed, fault⟩ := expression_fails
  have plain : ∀ entry ∈ package.packageNames, '(' ∉ entry.1.toList := by
    rw [paths]
    decide
  exact ⟨package, error, loads, failed, fault, weaveEach_faults loads plain everyPointcut failed⟩

end WovenUnit
end AspectLoom
