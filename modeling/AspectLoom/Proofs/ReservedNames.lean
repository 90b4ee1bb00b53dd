import AspectLoom.Proofs.HiddenNames
import AspectLoom.Proofs.NameRuns
import AspectLoom.Proofs.ProxyPairs
import AspectLoom.Proofs.WrittenQualifiers
/-!
Reserved names. The variables of generated functions and the names of such functions begin alike,
and so do invented aliases of packages: a pair is free of clashes exactly if none of the packages
in it is called by such a name.
-/
namespace AspectLoom

/-! Variables -/

def CodeLine.boundNames : CodeLine → List String
  | makeContext name _ _ _ => [name]
  | setProceed _ body => body.flatMap Code.boundNames
  | giveFunction signature body => signature.headNames ++ body.flatMap Code.boundNames

def GoFunction.boundNames (function : GoFunction) : List String :=
  function.signature.headNames ++
    (function.lines.flatMap CodeLine.boundNames ++ function.code.flatMap Code.boundNames)

namespace SpelledSignature

/-- What follows the common beginning in the variables of a pair. -/
def variableStems (signature : SpelledSignature) : List String :=
  signature.receiver.toList.map (fun _ => "recv") ++
    (numbered "p" signature.params.length ++
      ("ctx" :: (numbered "arg" signature.params.length ++
        if signature.results.isEmpty then []
        else "res" :: numbered "res" signature.results.length)))

theorem numbered_append (first second : String) (count : Nat) :
    numbered (first ++ second) count = (numbered second count).map (first ++ ·) := by
  rw [numbered, numbered, List.map_map]
  exact List.map_congr_left fun number _ => String.append_assoc

theorem variableStems_append (signature : SpelledSignature) :
    signature.variableStems.map ("_ag_" ++ ·) =
      signature.receiver.toList.map (fun _ => receiverName) ++
        (signature.paramNames ++ ("_ag_ctx" :: (signature.argumentNames ++
          if signature.results.isEmpty then [] else "_ag_res" :: signature.resultNames))) := by
  have params : signature.paramNames = (numbered "p" _).map ("_ag_" ++ ·) :=
    numbered_append "_ag_" "p" _
  have arguments : signature.argumentNames = (numbered "arg" _).map ("_ag_" ++ ·) :=
    numbered_append "_ag_" "arg" _
  have results : signature.resultNames = (numbered "res" _).map ("_ag_" ++ ·) :=
    numbered_append "_ag_" "res" _
  rw [variableStems, params, arguments, results]
  simp only [List.map_append, List.map_cons, List.map_map, apply_ite (List.map ("_ag_" ++ ·))]
  rfl

end SpelledSignature

namespace Advised

/-- All variables of both functions. -/
def boundNames (advised : Advised) (imports : ProxyImports) : List String :=
  (advised.proxyFunction imports).boundNames ++ advised.generatorFunction.boundNames

theorem unboxFrom_boundNames (list : BoxedList) {names types : List String} (first : Nat)
    (long : names.length = types.length) :
    (unboxFrom list names types first).flatMap Code.boundNames = names := by
  have pairs : ((names.zip types).zipIdx first).map (fun entry => entry.1.1) = names := by
    calc ((names.zip types).zipIdx first).map (fun entry => entry.1.1)
        = (((names.zip types).zipIdx first).map Prod.fst).map Prod.fst := List.map_map.symm
      _ = (names.zip types).map Prod.fst := by rw [List.zipIdx_map_fst]
      _ = names := List.map_fst_zip (Nat.le_of_eq long)
  rw [unboxFrom, List.flatMap_map]
  exact (List.flatMap_pure_eq_map _ _).trans pairs

variable {advised : Advised} {imports : ProxyImports}

theorem proceedCode_boundNames :
    advised.proceedCode.flatMap Code.boundNames =
      advised.signature.argumentNames ++
        if advised.signature.results.isEmpty then [] else advised.signature.resultNames := by
  rw [proceedCode, List.flatMap_append,
    unboxFrom_boundNames _ 0 advised.signature.argumentNames_length, answerCode]
  split <;> simp [Code.boundNames]

theorem adviceCode_boundNames :
    (advised.adviceCode imports).flatMap Code.boundNames =
      if advised.signature.results.isEmpty then []
      else "_ag_res" :: advised.signature.resultNames := by
  rw [adviceCode]
  split
  · rfl
  · rw [List.flatMap_cons, List.flatMap_append,
      unboxFrom_boundNames _ 0 advised.signature.resultNames_length]
    simp [Code.boundNames]

theorem forwardCode_boundNames : advised.forwardCode.flatMap Code.boundNames = [] := by
  rw [forwardCode]
  split <;> rfl

theorem proxyFunction_boundNames :
    (advised.proxyFunction imports).boundNames =
      advised.signature.headNames ++ ("_ag_ctx" :: (advised.proceedCode.flatMap Code.boundNames ++
        (advised.adviceCode imports).flatMap Code.boundNames)) := by
  simp [GoFunction.boundNames, proxyFunction, CodeLine.boundNames]

/-- The receiver is bound outside the function that the generator gives, the parameters inside. -/
theorem generatorFunction_boundNames :
    advised.generatorFunction.boundNames = advised.signature.headNames := by
  have outer : (generatorSignature advised.signature).headNames =
      advised.signature.receiver.toList.map fun _ => SpelledSignature.receiverName :=
    List.append_nil _
  have inner : advised.signature.bound.headNames = advised.signature.paramNames := rfl
  rw [SpelledSignature.headNames, ← outer, ← inner]
  simp [GoFunction.boundNames, generatorFunction, CodeLine.boundNames, forwardCode_boundNames]

/-- The variables of a pair are known from its signature. -/
theorem mem_boundNames {name : String} :
    name ∈ advised.boundNames imports ↔
      ∃ stem ∈ advised.signature.variableStems, name = "_ag_" ++ stem := by
  have member : name ∈ advised.boundNames imports ↔
      name ∈ advised.signature.variableStems.map ("_ag_" ++ ·) := by
    rw [SpelledSignature.variableStems_append, boundNames, proxyFunction_boundNames,
      generatorFunction_boundNames, proceedCode_boundNames, adviceCode_boundNames,
      SpelledSignature.headNames]
    split
    · simp only [List.mem_append, List.mem_cons, List.not_mem_nil, or_false]
      tauto
    · simp only [List.mem_append, List.mem_cons]
      tauto
  rw [member, List.mem_map]
  exact exists_congr fun stem => and_congr_right fun _ => eq_comm

end Advised

/-! Names of generated functions -/

namespace NameSession

/-- Whether a session can issue a name in the course of a weave. -/
def CanIssue (name : String) : Prop :=
  ∃ scheme requests, name ∈ grantedNames (answerAll { scheme := scheme } requests).1

/-- What distinguishes a reference in the names made for it: a number or a hash. -/
def IsMark (mark : String) : Prop :=
  (∃ number : Nat, mark = toString number) ∨ ∃ request : NameRequest, mark = request.short

/-- What follows the common beginning in the names of generated functions. -/
def IsStem (stem : String) : Prop :=
  ∃ mark, IsMark mark ∧ (stem = "proxy_" ++ mark ∨ stem = "pgen_ag_proxy_" ++ mark)

theorem ofProxy_eq (mark : String) :
    SyntheticNames.ofProxy ("_ag_proxy_" ++ mark) =
      ⟨"_ag_" ++ ("proxy_" ++ mark), "_ag_" ++ ("pgen_ag_proxy_" ++ mark)⟩ := by
  simp only [SyntheticNames.ofProxy, ← String.append_assoc, String.reduceAppend]

theorem proxyName_eq (session : NameSession) (request : NameRequest) :
    ∃ mark, IsMark mark ∧ session.proxyName request.path request.span request.fullName =
      "_ag_proxy_" ++ mark := by
  cases scheme : session.scheme with
  | sequential => exact ⟨_, .inl ⟨_, rfl⟩, proxyName_counted scheme⟩
  | content => exact ⟨_, .inr ⟨request, rfl⟩, proxyName_content scheme⟩

/-- Every mark is given: a number behind as many requests, a hash at once. -/
theorem grants_of_isMark {mark : String} (marks : IsMark mark) :
    ∃ scheme requests, .ofProxy ("_ag_proxy_" ++ mark) ∈
      granted (answerAll { scheme := scheme } requests).1 := by
  obtain ⟨number, rfl⟩ | ⟨request, rfl⟩ := marks
  · refine ⟨.sequential, List.replicate (number + 1) ⟨default, default, ""⟩, ?_⟩
    rw [answerAll_counted (counted_start .sequential) rfl, List.length_replicate]
    have last : number ∈ List.range (number + 1) := List.mem_range.mpr (Nat.lt_succ_self _)
    refine List.mem_filterMap.mpr ⟨_, List.mem_map.mpr ⟨number, last, rfl⟩, ?_⟩
    rw [Nat.zero_add]
    rfl
  · refine ⟨.content, [request], ?_⟩
    rw [answerAll_cons, answer_content rfl, if_neg List.not_mem_nil]
    exact List.mem_cons_self

theorem isStem_head {stem : String} (issued : IsStem stem) : stem.toList.head? = some 'p' := by
  obtain ⟨mark, _, rfl | rfl⟩ := issued
  · simp
  · simp

theorem canIssue_iff {name : String} :
    CanIssue name ↔ ∃ stem, IsStem stem ∧ name = "_ag_" ++ stem := by
  constructor
  · rintro ⟨scheme, requests, member⟩
    obtain ⟨names, among, member⟩ := List.mem_flatMap.mp member
    obtain ⟨state, request, rfl⟩ := answerAll_built _ requests names among
    obtain ⟨mark, marks, proxy⟩ := state.proxyName_eq request
    rw [proxy, ofProxy_eq] at member
    rcases List.mem_pair.mp member with rfl | rfl
    · exact ⟨_, ⟨mark, marks, .inl rfl⟩, rfl⟩
    · exact ⟨_, ⟨mark, marks, .inr rfl⟩, rfl⟩
  · rintro ⟨stem, ⟨mark, marks, same⟩, rfl⟩
    obtain ⟨scheme, requests, among⟩ := grants_of_isMark marks
    refine ⟨scheme, requests, List.mem_flatMap.mpr ⟨_, among, ?_⟩⟩
    rw [ofProxy_eq, List.mem_pair]
    obtain rfl | rfl := same
    · exact .inl rfl
    · exact .inr rfl

end NameSession

/-! Qualifiers -/

def Callee.qualifier? : Callee → Option String
  | function qualifier _ => qualifier
  | method _ => none

/-- What follows the common beginning in a name that generated functions can bind or have. -/
def SpelledSignature.Reserves (signature : SpelledSignature) (stem : String) : Prop :=
  stem ∈ signature.variableStems ∨ NameSession.IsStem stem

/-- Whether a qualifier is no reserved name. -/
def SpelledSignature.Allows (signature : SpelledSignature) (qualifier : String) : Prop :=
  ∀ stem, qualifier = "_ag_" ++ stem → ¬ signature.Reserves stem

theorem SpelledSignature.allows_append {signature : SpelledSignature} {stem : String} :
    signature.Allows ("_ag_" ++ stem) ↔ ¬ signature.Reserves stem := by
  constructor
  · exact fun allows => allows stem rfl
  · intro free other same
    rwa [← (String.append_right_inj _).mp same]

namespace Advised

/-- The package qualifiers in a pair that is written with some types. -/
def qualifiers (advised : Advised) (imports : ProxyImports) (scope : ImportScope)
    (types : List GoType) : List String :=
  imports.runtime.alias :: imports.advice.alias ::
    (advised.callee.qualifier?.toList ++ types.flatMap scope.qualifiersIn)

/-- Whether no variable of a pair and no name that can be issued is a package qualifier in it. -/
def NamesApart (advised : Advised) (imports : ProxyImports) (scope : ImportScope)
    (types : List GoType) : Prop :=
  ∀ name, name ∈ advised.boundNames imports ∨ NameSession.CanIssue name →
    name ∉ advised.qualifiers imports scope types

variable {advised : Advised} {imports : ProxyImports} {scope : ImportScope} {types : List GoType}

theorem reserves_iff {name : String} :
    (name ∈ advised.boundNames imports ∨ NameSession.CanIssue name) ↔
      ∃ stem, advised.signature.Reserves stem ∧ name = "_ag_" ++ stem := by
  rw [mem_boundNames, NameSession.canIssue_iff, ← exists_or]
  exact exists_congr fun stem => or_and_right.symm

theorem namesApart_iff :
    advised.NamesApart imports scope types ↔
      ∀ qualifier ∈ advised.qualifiers imports scope types, advised.signature.Allows qualifier := by
  simp only [NamesApart, reserves_iff]
  constructor
  · rintro apart _ member stem rfl reserves
    exact apart _ ⟨stem, reserves, rfl⟩ member
  · rintro allows _ ⟨stem, reserves, rfl⟩ member
    exact allows _ member stem rfl reserves

/-- A name that begins otherwise is not reserved. -/
theorem allows_of_head {signature : SpelledSignature} {name : String}
    (other : name.toList.head? ≠ some '_') : signature.Allows name := by
  rintro stem rfl
  simp at other

/-- No variable of a pair and no name that can be issued is a package qualifier in it, unless one of
these packages is called by a reserved name: the package of the callee, one that the unit itself has
a name for, or one whose alias is made of its path. The names of the runtime and of the advice are
not reserved. -/
theorem namesApart_iff_allows (unit : CompilationUnit)
    (packageNames : List (String × String)) (earlier : List GoType) (decl : Declaration)
    (receiver : Option GoType) (callee : Callee) (advice : String) (names : SyntheticNames) :
    let start : ImportScope := ⟨unit, packageNames, []⟩
    let spelled := SpelledSignature.ofDeclaration (start.spellAll earlier).2 decl receiver
    let advised : Advised := ⟨spelled.1, advice, callee, names⟩
    let types := decl.signatureTypes receiver
    (advised.pair {}).proxy = (advised.proxyFunction {}).text ∧
      (advised.pair {}).generator = advised.generatorFunction.text ∧
      spelled.1 = decl.writtenIn receiver spelled.2 ∧
      (advised.NamesApart {} spelled.2 types ↔
        (∀ qualifier, callee.qualifier? = some qualifier → spelled.1.Allows qualifier) ∧
        ∀ path ∈ types.flatMap GoType.paths,
          (∀ qualifier, start.ownQualifier? path = some qualifier → spelled.1.Allows qualifier) ∧
          (start.Lacks path → ∀ digits,
            Assoc.find? path spelled.2.added =
                some ("_ag_" ++ (Import.guessName path ++ digits)) →
              ¬ spelled.1.Reserves (Import.guessName path ++ digits))) := by
  intro start spelled advised types
  obtain ⟨written, settled⟩ :=
    SpelledSignature.ofDeclaration_kept (start.spellAll earlier).2 decl receiver
  have keeps : start.Keeps spelled.2 :=
    SpelledSignature.ofDeclaration_preserves
      (fun middle path known => known.trans (middle.qualifier_keeps path))
      (start.spellAll_keeps earlier) decl receiver
  have new : start.Invented := fun entry member => nomatch member
  have invented : spelled.2.Invented :=
    SpelledSignature.ofDeclaration_preserves ImportScope.qualifier_invented
      (ImportScope.spellAll_preserves ImportScope.qualifier_invented new earlier) decl receiver
  have standard : spelled.1.Allows "aspectrt" ∧ spelled.1.Allows "agaspect" :=
    ⟨allows_of_head (by decide), allows_of_head (by decide)⟩
  refine ⟨proxyFunction_text.symm, generatorFunction_text.symm, written, ?_⟩
  refine namesApart_iff.trans ?_
  rw [qualifiers, List.forall_mem_cons, List.forall_mem_cons, List.forall_mem_append,
    and_iff_right standard.1, and_iff_right standard.2]
  refine and_congr ?_ ?_
  · simp only [Option.mem_toList]
    rfl
  calc (∀ qualifier ∈ types.flatMap spelled.2.qualifiersIn, spelled.1.Allows qualifier)
      ↔ ∀ path ∈ types.flatMap GoType.paths, ∀ qualifier,
          (spelled.2.qualifier path).1 = some qualifier → spelled.1.Allows qualifier := by
        rw [ImportScope.forall_mem_qualifiersIn]
    _ ↔ _ := by
        refine forall₂_congr fun path member => ?_
        refine (ImportScope.forall_qualifier_iff keeps invented (settled path member)).trans ?_
        simp only [SpelledSignature.allows_append]

/-! Declarations with packages that are not imported -/

/-- A method with types from the unit's imports and from a package without one. -/
def copyDeclaration : Declaration where
  packagePath := "example.com/app/worker"
  name := "Copy"
  receiver := some ⟨"*example.com/app/worker.W"⟩
  signature := ⟨[⟨none, ⟨"io.Reader"⟩⟩], [⟨none, ⟨"fmt.Stringer"⟩⟩, ⟨none, ⟨"error"⟩⟩], false⟩

/-- An alias with a number is no reserved name. -/
theorem namesApart_iff_allows_copy :
    let start : ImportScope := ⟨ImportScope.mixedUnit, [("fmt", "format")], []⟩
    let earlier : List GoType := [⟨"[]example.com/app/io.R"⟩]
    let spelled := SpelledSignature.ofDeclaration (start.spellAll earlier).2 copyDeclaration
      copyDeclaration.receiver
    let advised : Advised := ⟨spelled.1, "Det", .method "Copy", .ofProxy "_ag_proxy_0"⟩
    let types := copyDeclaration.signatureTypes copyDeclaration.receiver
    advised.qualifiers {} spelled.2 types = ["aspectrt", "agaspect", "w", "_ag_io1", "format"] ∧
      advised.NamesApart {} spelled.2 types := by
  intro start earlier spelled advised types
  have known : Assoc.find? "io" spelled.2.added = some ("_ag_" ++ "io1") := by decide +kernel
  have paths : types.flatMap GoType.paths = ["example.com/app/worker", "io", "fmt"] := by
    decide +kernel
  have own : start.ownQualifier? "example.com/app/worker" = some "w" ∧
      start.ownQualifier? "io" = none ∧ start.ownQualifier? "fmt" = some "format" := by
    decide +kernel
  have imported : start.unit.importOf? "example.com/app/worker" ≠ none ∧
      start.unit.importOf? "fmt" ≠ none := by decide +kernel
  have free : "io1" ∉ spelled.1.variableStems := by decide +kernel
  refine ⟨by decide +kernel, ?_⟩
  refine (namesApart_iff_allows ImportScope.mixedUnit [("fmt", "format")] earlier copyDeclaration
    copyDeclaration.receiver (.method "Copy") "Det" (.ofProxy "_ag_proxy_0")).2.2.2.mpr ⟨nofun, ?_⟩
  rw [paths]
  refine List.forall_mem_cons.mpr ⟨⟨?_, ?_⟩, List.forall_mem_cons.mpr ⟨⟨?_, ?_⟩,
    List.forall_mem_singleton.mpr ⟨?_, ?_⟩⟩⟩
  · rw [own.1]
    rintro _ ⟨⟩
    exact allows_of_head (by decide)
  · exact fun lacks => absurd lacks.missing imported.1
  · rw [own.2.1]
    exact nofun
  · intro _ digits found
    rw [known, Option.some_inj, String.append_right_inj] at found
    rw [← found]
    rintro (bound | issued)
    · exact free bound
    · exact absurd (NameSession.isStem_head issued) (by decide)
  · rw [own.2.2]
    rintro _ ⟨⟩
    exact allows_of_head (by decide)
  · exact fun lacks => absurd lacks.missing imported.2

/-- A method with types from packages that are called like a receiver and like a proxy. -/
def traceDeclaration : Declaration where
  packagePath := "example.com/app/worker"
  name := "Trace"
  receiver := some ⟨"*example.com/app/worker.W"⟩
  signature := ⟨[⟨none, ⟨"example.com/app/recv.T"⟩⟩], [⟨none, ⟨"example.com/app/proxy_0.T"⟩⟩], false⟩

/-- The alias of a package `recv` is the variable for the receiver, and that of a package `proxy_0`
is the name of the first proxy. -/
theorem names_clash_receiver :
    let spelled := SpelledSignature.ofDeclaration workerScope traceDeclaration
      traceDeclaration.receiver
    let advised : Advised := ⟨spelled.1, "Det", .method "Trace", .ofProxy "_ag_proxy_0"⟩
    let qualifiers := advised.qualifiers {} spelled.2
      (traceDeclaration.signatureTypes traceDeclaration.receiver)
    spelled.1.params = ["_ag_recv.T"] ∧ spelled.1.results = ["_ag_proxy_0.T"] ∧
      "_ag_recv" ∈ advised.boundNames {} ∧ "_ag_recv" ∈ qualifiers ∧
      NameSession.CanIssue "_ag_proxy_0" ∧ "_ag_proxy_0" ∈ qualifiers := by
  intro spelled advised qualifiers
  have issued : NameSession.CanIssue "_ag_proxy_0" :=
    NameSession.canIssue_iff.mpr ⟨"proxy_0", ⟨"0", .inl ⟨0, rfl⟩, .inl rfl⟩, rfl⟩
  refine ⟨by decide +kernel, by decide +kernel, by decide +kernel, by decide +kernel, issued, ?_⟩
  decide +kernel

end Advised
end AspectLoom
