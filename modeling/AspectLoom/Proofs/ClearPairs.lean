import AspectLoom.Proofs.ProxyRuns
/-!
Clear pairs of generated functions. The variables of a pair have names of their own, and a pair is
clear if it takes nothing of such a name from outside.
-/
namespace AspectLoom.Advised

/-- Whether the names of a pair are new and mean in its code what they are written for. -/
def isClear (advised : Advised) (imports : ProxyImports) (mentions : String → List String) :
    Bool :=
  decide (advised.callee.global?.toList ++ [advised.names.proxy, advised.names.generator]).Nodup &&
    (advised.proxyFunction imports).isClear mentions &&
    advised.generatorFunction.isClear mentions

variable {advised : Advised} {imports : ProxyImports}

theorem isClear_iff {mentions : String → List String} :
    advised.isClear imports mentions = true ↔
      (advised.callee.global?.toList ++ [advised.names.proxy, advised.names.generator]).Nodup ∧
      (advised.proxyFunction imports).isClear mentions = true ∧
      advised.generatorFunction.isClear mentions = true := by
  rw [isClear, Bool.and_eq_true, Bool.and_eq_true, decide_eq_true_iff, and_assoc]

theorem distinct_iff :
    (advised.callee.global?.toList ++ [advised.names.proxy, advised.names.generator]).Nodup ↔
      advised.names.proxy ≠ advised.names.generator ∧
      advised.callee.global? ≠ some advised.names.proxy ∧
      advised.callee.global? ≠ some advised.names.generator := by
  cases advised.callee.global? with
  | none => simp
  | some text => simp [and_comm]

/-- All variables of a pair. -/
def ownNames (advised : Advised) : List String :=
  let signature := advised.signature
  ["_ag_ctx", "_ag_res", SpelledSignature.receiverName] ++ signature.paramNames ++
    signature.argumentNames ++ signature.resultNames

/-- All names that a pair takes from outside. -/
def outerNames (advised : Advised) (imports : ProxyImports) (mentions : String → List String) :
    List String :=
  let signature := advised.signature
  [imports.runtime.alias, imports.advice.alias, advised.names.proxy] ++
    advised.callCode.target.outerNames ++
    (signature.slotTypes ++ signature.params ++ signature.results).flatMap mentions

theorem headNames_subset (advised : Advised) : advised.signature.headNames ⊆ advised.ownNames := by
  intro name member
  rcases List.mem_append.mp member with receiver | param
  · obtain ⟨_, _, rfl⟩ := List.mem_map.mp receiver
    simp [ownNames]
  · simp [ownNames, param]

theorem generatorNames_subset (advised : Advised) :
    (generatorSignature advised.signature).headNames ⊆ advised.ownNames := by
  intro name member
  rcases List.mem_append.mp member with receiver | param
  · obtain ⟨_, _, rfl⟩ := List.mem_map.mp receiver
    simp [ownNames]
  · cases param

theorem mem_unboxFrom {list : BoxedList} {names types : List String} {first : Nat} {step : Code}
    (member : step ∈ unboxFrom list names types first) :
    ∃ name ∈ names, ∃ type ∈ types, ∃ position, step = .unbox name list position type := by
  obtain ⟨⟨⟨name, type⟩, position⟩, among, rfl⟩ := List.mem_map.mp member
  obtain ⟨named, typed⟩ := List.of_mem_zip (List.fst_mem_of_mem_zipIdx among)
  exact ⟨name, named, type, typed, position, rfl⟩

section

variable {mentions : String → List String}

/-- Whether a step of code takes nothing from outside that has the name of a variable. -/
def Apart (advised : Advised) (mentions : String → List String) (step : Code) : Prop :=
  step.boundNames ⊆ advised.ownNames ∧
    ∀ name ∈ step.outerNames mentions, name ∉ advised.ownNames

variable (apart : ∀ name ∈ advised.outerNames imports mentions, name ∉ advised.ownNames)
include apart

theorem apart_unboxFrom {list : BoxedList} {names types : List String} {first : Nat} {step : Code}
    (named : names ⊆ advised.ownNames)
    (typed : types ⊆ advised.signature.slotTypes ++ advised.signature.params ++
      advised.signature.results)
    (member : step ∈ unboxFrom list names types first) : advised.Apart mentions step := by
  obtain ⟨name, isName, type, isType, position, rfl⟩ := mem_unboxFrom member
  refine ⟨List.cons_subset.mpr ⟨named isName, List.nil_subset _⟩, fun outer mentioned => apart outer ?_⟩
  exact List.mem_append_right _ (List.mem_flatMap.mpr ⟨type, typed isType, mentioned⟩)

theorem apart_callee {outer : String} (member : outer ∈ advised.callCode.target.outerNames) :
    outer ∉ advised.ownNames :=
  apart outer (List.mem_append_left _ (List.mem_append_right _ member))

theorem apart_proceedCode {step : Code} (member : step ∈ advised.proceedCode) :
    advised.Apart mentions step := by
  rcases List.mem_append.mp member with unboxes | answers
  · refine apart_unboxFrom apart ?_ ?_ unboxes
    · intro name argument
      simp [ownNames, argument]
    · intro type slot
      simp [slot]
  · have results : advised.signature.resultNames ⊆ advised.ownNames := by
      intro name result
      simp [ownNames, result]
    rw [answerCode] at answers
    split at answers
    · rcases List.mem_pair.mp answers with rfl | rfl
      · exact ⟨List.nil_subset _, fun _ => apart_callee apart⟩
      · exact ⟨List.nil_subset _, List.forall_mem_nil _⟩
    · rcases List.mem_pair.mp answers with rfl | rfl
      · exact ⟨results, fun _ => apart_callee apart⟩
      · exact ⟨List.nil_subset _, List.forall_mem_nil _⟩

theorem apart_adviceCode {step : Code} (member : step ∈ advised.adviceCode imports) :
    advised.Apart mentions step := by
  have advice : ∀ outer ∈ (advised.adviceCall imports).target.outerNames,
      outer ∉ advised.ownNames := by
    intro outer called
    rw [List.mem_singleton.mp called]
    exact apart _ (by simp [outerNames])
  rw [adviceCode] at member
  split at member
  · obtain rfl := List.mem_singleton.mp member
    exact ⟨List.nil_subset _, advice⟩
  · rcases List.mem_cons.mp member with rfl | later
    · exact ⟨List.cons_subset.mpr ⟨by simp [ownNames], List.nil_subset _⟩, advice⟩
    · rcases List.mem_append.mp later with unboxes | gives
      · refine apart_unboxFrom apart ?_ ?_ unboxes
        · intro name result
          simp [ownNames, result]
        · intro type result
          simp [result]
      · obtain rfl := List.mem_singleton.mp gives
        exact ⟨List.nil_subset _, List.forall_mem_nil _⟩

theorem apart_forwardCode {step : Code} (member : step ∈ advised.forwardCode) :
    advised.Apart mentions step := by
  have proxy : ∀ outer ∈ advised.forwardCall.target.outerNames, outer ∉ advised.ownNames := by
    intro outer called
    rw [List.mem_singleton.mp called]
    exact apart _ (by simp [outerNames])
  rw [forwardCode] at member
  split at member
  · obtain rfl := List.mem_singleton.mp member
    exact ⟨List.nil_subset _, proxy⟩
  · obtain rfl := List.mem_singleton.mp member
    exact ⟨List.nil_subset _, proxy⟩

/-- A pair is clear if nothing that it takes from outside has the name of a variable. -/
theorem isClear_of_apart (distinct : (advised.callee.global?.toList ++
      [advised.names.proxy, advised.names.generator]).Nodup) :
    advised.isClear imports mentions = true := by
  have head := advised.headNames_subset
  have outer := advised.generatorNames_subset
  have context : "_ag_ctx" ∈ advised.ownNames := by simp [ownNames]
  have inside : "_ag_ctx" :: "_ag_ctx" :: advised.signature.headNames ⊆ advised.ownNames :=
    List.cons_subset.mpr ⟨context, List.cons_subset.mpr ⟨context, head⟩⟩
  refine isClear_iff.mpr ⟨distinct, proxyFunction_isClear_iff.mpr ⟨?_, ?_, ?_⟩,
    generatorFunction_isClear_iff.mpr ⟨?_, ?_⟩⟩
  · intro hidden
    exact apart _ (by simp [outerNames]) (head hidden)
  · exact Code.isClear_of_apart inside fun step => apart_proceedCode apart
  · exact Code.isClear_of_apart inside fun step => apart_adviceCode apart
  · rw [List.all_eq_true]
    intro type spelled
    refine areVisible_iff.mpr fun name mentioned hidden => apart name ?_ (outer hidden)
    refine List.mem_append_right _ (List.mem_flatMap.mpr ⟨type, ?_, mentioned⟩)
    rcases List.mem_append.mp spelled with param | result
    · simp [param]
    · simp [result]
  · have params : advised.signature.bound.headNames ⊆ advised.ownNames := fun name param => by
      have param : name ∈ advised.signature.paramNames := param
      simp [ownNames, param]
    exact Code.isClear_of_apart (List.append_subset.mpr ⟨params, outer⟩)
      fun step => apart_forwardCode apart

end

end AspectLoom.Advised
