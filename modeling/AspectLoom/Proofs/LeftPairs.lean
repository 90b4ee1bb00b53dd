import AspectLoom.Proofs.LoneUnits
import AspectLoom.Proofs.WovenRuns
/-!
Pairs that are left in a session. When a unit cannot be woven, the pairs that were generated for it
before the failure stay, and the next unit that is woven takes them with its own.
-/
namespace AspectLoom

open Actions

/-- What a session is asked to weave. -/
structure WeaveCall where
  package : TargetPackage
  imports : ProxyImports
  unit : CompilationUnit
  points : List JoinPoint

namespace WovenUnit

variable {package : TargetPackage} {imports : ProxyImports} {unit : CompilationUnit}
  {points : List JoinPoint} {session after : WeaveSession}

/-- A unit that cannot be woven leaves a pair for every name that was issued for it. -/
theorem weave_error {cause : UnitError}
    (ran : weave package imports unit points session = (.error cause, after)) :
    ∃ pairs, UnitWeaver.Grown session after pairs := by
  let weaver : UnitWeaver := ⟨package, unit, imports⟩
  let start : UnitMemory := ⟨session, { unit := unit, packageNames := package.packageNames }⟩
  obtain ⟨final, unitRan, rfl⟩ :
      ∃ final, runFrom (weaver.run points) start = (.error cause, final) ∧
        final.session = after := by
    unfold weave at ran
    split at ran
    · cases ran
    · dsimp only at ran
      split at ran
      rename_i outcome final inner
      cases outcome with
      | ok woven => cases ran
      | error other =>
          cases ran
          exact ⟨final, inner, rfl⟩
  have grown := weaver.weaveText_grown 0 unit.source.utf8ByteSize (JoinPoints.inOrder points) start
  unfold UnitWeaver.run at unitRan
  rw [runFrom_bind] at unitRan
  unfold leaves at grown
  -- Behind the text nothing fails, so the failure is that of the text.
  split at unitRan
  · cases unitRan
  · rename_i middle textRan
    cases unitRan
    rwa [textRan] at grown

end WovenUnit

namespace WeaveCall

def answer (call : WeaveCall) (session : WeaveSession) :
    Except UnitError (Option WovenUnit) × WeaveSession :=
  WovenUnit.weave call.package call.imports call.unit call.points session

/-- What a session is after some calls, whether or not they succeed. -/
def sessionAfter (session : WeaveSession) (calls : List WeaveCall) : WeaveSession :=
  calls.foldl (fun session call => (call.answer session).2) session

/-- Pairs of a call's own join points, one for each. -/
def OwnPairs (call : WeaveCall) (pairs : List ProxyPair) : Prop :=
  ∃ uses : List (JoinPoint × SyntheticNames), (uses.map Prod.fst).Perm call.points ∧
    List.Forall₂ (UnitWeaver.PairOf call.package call.imports) uses pairs

theorem OwnPairs.length_eq {call : WeaveCall} {pairs : List ProxyPair}
    (own : call.OwnPairs pairs) : pairs.length = call.points.length := by
  obtain ⟨uses, perm, made⟩ := own
  rw [← made.length_eq, ← perm.length_eq, List.length_map]

/-- Whether pairs are left in a session by a call, given whether there were any before: a unit that
is woven takes all of them, and a failure behind the first name that is issued leaves some. -/
def leavesPairs (call : WeaveCall) (session : WeaveSession) (before : Bool) : Bool :=
  match call.answer session with
  | (.ok (some _), _) => false
  | (.ok none, _) => before
  | (.error _, after) => before || session.names.issuedCount < after.names.issuedCount

def pairsLeft (session : WeaveSession) (before : Bool) : List WeaveCall → Bool
  | [] => before
  | call :: rest =>
    pairsLeft (call.answer session).2 (call.leavesPairs session before) rest

variable {session : WeaveSession}

theorem answer_pairs (call : WeaveCall) (session : WeaveSession) :
    (call.answer session).2.pairs.isEmpty = !call.leavesPairs session (!session.pairs.isEmpty) := by
  unfold leavesPairs
  rcases answered : call.answer session with ⟨cause | none | woven, after⟩
  · obtain ⟨pairs, grown⟩ := WovenUnit.weave_error answered
    have issued : after.names.issuedCount = pairs.length + session.names.issuedCount := by
      simp only [NameSession.issuedCount, grown.issued_eq, List.length_append,
        List.length_reverse, List.length_map]
    dsimp only
    rw [issued, grown.pairs_eq, Bool.eq_iff_iff]
    simp [List.length_eq_zero_iff]
  · obtain ⟨_, rfl⟩ := WovenUnit.weave_none answered
    simp
  · obtain ⟨final, ran, rfl⟩ := WovenUnit.weave_ok answered
    obtain ⟨_, _, _, _, _, closing⟩ := UnitWeaver.run_ok ran
    simp [closing]

theorem sessionAfter_pairs (session : WeaveSession) (calls : List WeaveCall) :
    (sessionAfter session calls).pairs.isEmpty =
      !pairsLeft session (!session.pairs.isEmpty) calls := by
  induction calls generalizing session with
  | nil => simp [sessionAfter, pairsLeft]
  | cons call rest ih =>
      rw [sessionAfter, List.foldl_cons, ← sessionAfter, ih, pairsLeft, answer_pairs, Bool.not_not]

/-- A unit that is woven takes the pairs that are left in the session and then its own, one for each
of its join points. So its pairs are those of its own join points just where none were left: where
no call since the last woven unit failed after a name was issued. -/
theorem answer_ownPairs_iff (noPairs : session.pairs = []) (earlier : List WeaveCall)
    {call : WeaveCall} {woven : WovenUnit} {after : WeaveSession}
    (sites : SitesNested call.unit (call.points.map JoinPoint.site))
    (places : ∀ point ∈ call.points, point.site.OnPlaces call.unit.source)
    (answered : call.answer (sessionAfter session earlier) = (.ok (some woven), after)) :
    (∃ own, woven.pairs = (sessionAfter session earlier).pairs ++ own ∧ call.OwnPairs own) ∧
      (call.OwnPairs woven.pairs ↔ pairsLeft session false earlier = false) ∧
      after.pairs = [] := by
  obtain ⟨final, unitRan, rfl⟩ := WovenUnit.weave_ok answered
  obtain ⟨text, middle, textRan, _, taken, closing⟩ := UnitWeaver.run_ok unitRan
  have stretch := UnitWeaver.inOrder_inStretch sites places
  obtain ⟨cut, own, cutFor⟩ := UnitWeaver.weaveText_cut
    (UnitWeaver.mk call.package call.unit call.imports) _ _ 0 _ _ _ _ rfl stretch
    (Text.isPlace_zero _) (Text.isPlace_size _) textRan
  have whole : woven.pairs = (sessionAfter session earlier).pairs ++ own := by
    rw [taken, cutFor.grown.pairs_eq]
  have ofCall : call.OwnPairs own :=
    ⟨cut.calls, cutFor.perm.trans (JoinPoints.inOrder_perm call.points), cutFor.made⟩
  have left := sessionAfter_pairs session earlier
  rw [noPairs, List.isEmpty_nil, Bool.not_true] at left
  refine ⟨⟨own, whole, ofCall⟩, ?_, by rw [closing]⟩
  constructor
  · intro ofWoven
    -- There are as many pairs as join points either way, so none comes before the call's own.
    have counted := ofWoven.length_eq.trans ofCall.length_eq.symm
    rw [whole, List.length_append, Nat.add_eq_right, List.length_eq_zero_iff] at counted
    rw [counted, List.isEmpty_nil] at left
    simpa using left
  · intro none
    rw [none, Bool.not_false, List.isEmpty_iff] at left
    rwa [whole, left, List.nil_append]

/-! Calls that fail in front of a unit that is woven -/

/-- A unit of the same package, with one reference. -/
def plainUnit : CompilationUnit :=
  { WovenUnit.nestedUnit with
    id := 1, path := ⟨"/s/n.go"⟩, relativePath := ⟨"n.go"⟩, source := "package p\nvar _ = f()\n" }

def plainCall : WeaveCall where
  package := WovenUnit.nestedPackage
  imports := {}
  unit := plainUnit
  points := [⟨⟨⟨1, ⟨18, 19⟩⟩, 2, 9, .ident "f"⟩, 0, 0, "A"⟩]

/-- A reference that cannot be woven. -/
def oddPoint : JoinPoint := ⟨⟨⟨0, ⟨22, 23⟩⟩, 2, 13, .unsupported "odd"⟩, 1, 0, "A"⟩

def oddCall : WeaveCall where
  package := WovenUnit.nestedPackage
  imports := {}
  unit := WovenUnit.nestedUnit
  points := [oddPoint]

/-- The reference that cannot be woven comes after one that can. -/
def lateCall : WeaveCall :=
  { oddCall with points := [⟨⟨⟨0, ⟨18, 19⟩⟩, 2, 9, .ident "f"⟩, 0, 0, "A"⟩, oddPoint] }

def freshSession : WeaveSession := ⟨⟨.sequential, 0, []⟩, []⟩

theorem plainCall_sites : SitesNested plainCall.unit (plainCall.points.map JoinPoint.site) where
  afterClause := by decide
  filled := by decide
  operandInside := by
    intro site member operand name type shape
    obtain rfl := List.mem_singleton.mp member
    cases shape
  separable := List.pairwise_singleton _ _

theorem plainCall_places :
    ∀ point ∈ plainCall.points, point.site.OnPlaces plainCall.unit.source := by
  intro point member
  obtain rfl := List.mem_singleton.mp member
  refine ⟨⟨"package p\nvar _ = ", "f()\n", by decide +kernel, by decide +kernel⟩,
    ⟨"package p\nvar _ = f", "()\n", by decide +kernel, by decide +kernel⟩, ?_⟩
  intro operand name type shape
  cases shape

def proxyNames (woven : WovenUnit) : List String := woven.pairs.map fun pair => pair.names.proxy

/-- A failure in front of the first name leaves nothing. -/
theorem answer_ownPairs_iff_odd :
    (oddCall.answer freshSession).1.toOption = none ∧
      ∃ woven after,
        plainCall.answer (sessionAfter freshSession [oddCall]) = (.ok (some woven), after) ∧
        plainCall.OwnPairs woven.pairs ∧ after.pairs = [] := by
  have names : (plainCall.answer (sessionAfter freshSession [oddCall])).1.toOption.join.map
      proxyNames = some ["_ag_proxy_0"] := by decide +kernel
  obtain ⟨woven, after, answered, _⟩ := WovenUnit.weave_of_view names
  obtain ⟨_, own, empty⟩ :=
    answer_ownPairs_iff rfl [oddCall] plainCall_sites plainCall_places answered
  exact ⟨by decide +kernel, woven, after, answered, own.mpr (by decide +kernel), empty⟩

/-- A unit with one join point gets the pair of another unit, which could not be woven, too. -/
theorem answer_takes_foreign_pair :
    (lateCall.answer freshSession).1.toOption = none ∧
      ∃ woven after,
        plainCall.answer (sessionAfter freshSession [lateCall]) = (.ok (some woven), after) ∧
        plainCall.points.length = 1 ∧ proxyNames woven = ["_ag_proxy_0", "_ag_proxy_1"] ∧
        ¬ plainCall.OwnPairs woven.pairs := by
  have names : (plainCall.answer (sessionAfter freshSession [lateCall])).1.toOption.join.map
      proxyNames = some ["_ag_proxy_0", "_ag_proxy_1"] := by decide +kernel
  obtain ⟨woven, after, answered, named⟩ := WovenUnit.weave_of_view names
  refine ⟨by decide +kernel, woven, after, answered, rfl, named, fun own => ?_⟩
  have counted := own.length_eq
  rw [← List.length_map, ← proxyNames, named] at counted
  cases counted

end WeaveCall
end AspectLoom
