import AspectLoom.Proofs.Entries
import AspectLoom.Proofs.WalkFindings
/-!
What the memory of a walk says about names: which ones its scopes bind, and which function of the
package or of the dot imports the others stand for.
-/
namespace AspectLoom.Resolver

open Actions PackageCache
open Syntax (Node)

/-! Scopes -/

/-- One of some scopes binds a name. -/
def Bound (scopes : List Scope) (name : String) : Prop :=
  ∃ scope ∈ scopes, name ∈ scope.map Prod.fst

/-- Some scopes with names bound in the innermost one. Without scopes the names are lost. -/
def bindEach (names : Scope) (scopes : List Scope) : List Scope :=
  names.foldl (fun scopes entry => bindIn entry.1 entry.2 scopes) scopes

section
variable {scopes outer : List Scope} {scope names : Scope} {name : String}

theorem bindEach_append (names more : Scope) (scopes : List Scope) :
    bindEach (names ++ more) scopes = bindEach more (bindEach names scopes) := List.foldl_append

theorem bindEach_nil (names : Scope) : bindEach names [] = [] := by
  induction names with
  | nil => rfl
  | cons entry rest ih => exact ih

/-- Only the innermost scope changes. -/
theorem bindEach_cons (names scope : Scope) (outer : List Scope) :
    bindEach names (scope :: outer) =
      names.foldl (fun scope entry => Assoc.insert entry.1 entry.2 scope) scope :: outer := by
  induction names generalizing scope with
  | nil => rfl
  | cons entry rest ih => exact ih _

theorem bindEach_tail (names : Scope) (scopes : List Scope) :
    (bindEach names scopes).tail = scopes.tail := by
  cases scopes with
  | nil => simp [bindEach_nil]
  | cons scope outer => simp [bindEach_cons]

theorem bindEach_eq_nil : bindEach names scopes = [] ↔ scopes = [] := by
  cases scopes with
  | nil => simp [bindEach_nil]
  | cons scope outer => simp [bindEach_cons]

theorem bound_cons_iff :
    Bound (scope :: outer) name ↔ name ∈ scope.map Prod.fst ∨ Bound outer name := by
  simp [Bound]

theorem bound_empty_iff : Bound ([] :: outer) name ↔ Bound outer name := by
  simp [bound_cons_iff]

theorem mem_keys_foldl (names scope : Scope) :
    name ∈ (names.foldl (fun scope entry => Assoc.insert entry.1 entry.2 scope) scope).map
        Prod.fst ↔
      name ∈ scope.map Prod.fst ∨ name ∈ names.map Prod.fst := by
  induction names generalizing scope with
  | nil => simp
  | cons entry rest ih =>
      rw [List.foldl_cons, ih, Assoc.mem_keys_insert, List.map_cons, List.mem_cons]
      tauto

theorem bound_bindEach_iff (hosted : scopes = [] → names.map Prod.fst = []) :
    Bound (bindEach names scopes) name ↔ Bound scopes name ∨ name ∈ names.map Prod.fst := by
  cases scopes with
  | nil => simp [hosted rfl, bindEach_nil]
  | cons scope outer =>
      rw [bindEach_cons, bound_cons_iff, bound_cons_iff, mem_keys_foldl]
      tauto

/-- A local declaration is found if there is one. -/
theorem found_iff : (scopes.findSome? fun scope => Assoc.find? name scope).isSome ↔
    Bound scopes name := by
  induction scopes with
  | nil => simp [Bound]
  | cons scope outer ih =>
      rw [List.findSome?_cons, bound_cons_iff, ← ih]
      cases found : Assoc.find? name scope with
      | none => simp [Assoc.find?_eq_none.mp found]
      | some type =>
          have member := List.mem_map_of_mem (f := Prod.fst) (Assoc.mem_of_find? found)
          simp [member]

theorem runFrom_local? (name : String) (memory : WalkMemory) :
    runFrom (local? name) memory =
      (.ok (memory.scopes.findSome? fun scope => Assoc.find? name scope), memory) := rfl

theorem runFrom_isLocal (name : String) (memory : WalkMemory) :
    runFrom (isLocal name) memory =
      (.ok (memory.scopes.findSome? fun scope => Assoc.find? name scope).isSome, memory) := rfl

theorem runFrom_bindAll (names : Scope) (memory : WalkMemory) :
    runFrom (bindAll names) memory =
      (.ok ⟨⟩, { memory with
        scopes := bindEach (names.filter fun entry => entry.1 != "_") memory.scopes }) := by
  induction names generalizing memory with
  | nil => rfl
  | cons entry rest ih =>
      obtain ⟨name, type⟩ := entry
      have step : runFrom (bind name type) memory =
          (.ok ⟨⟩, if name = "_" then memory
            else { memory with scopes := bindIn name type memory.scopes }) := by
        unfold bind
        split <;> rfl
      refine (runFrom_bind_of_ok step _).trans ((ih _).trans ?_)
      by_cases blank : name = "_" <;> simp [blank, bindEach]

end

/-! Functions -/

/-- What a cache says about a function of a name in dot-imported packages. It says nothing as long
as it does not know the packages before the first one that has the function. -/
def dotAnswer? (cache : PackageCache) (name : String) : List String → Option (Option Declaration)
  | [] => some none
  | path :: paths =>
    match cache.known? path with
    | none => none
    | some index =>
      match index.bind fun index => index.function? name with
      | some decl => some (some decl)
      | none => dotAnswer? cache name paths

/-- What a cache says about the function that a name stands for where no scope binds it: one of
the package or, unless the package has a value of the name, one of the dot imports. -/
def answer? (resolver : Resolver) (cache : PackageCache) (name : String) :
    Option (Option Declaration) :=
  if name = "_" then some none
  else
    match resolver.index.function? name with
    | some decl => some (some decl)
    | none =>
      if resolver.index.hasValue name then some none
      else dotAnswer? cache name resolver.dotImports

section
variable {resolver : Resolver} {before after : PackageCache} {name : String}
  {answer : Option Declaration}

theorem answer?_blank (cache : PackageCache) : resolver.answer? cache "_" = some none := if_pos rfl

theorem answer?_function {decl : Declaration} (notBlank : name ≠ "_")
    (found : resolver.index.function? name = some decl) (cache : PackageCache) :
    resolver.answer? cache name = some (some decl) := by
  rw [answer?, if_neg notBlank, found]

theorem answer?_value (notBlank : name ≠ "_") (absent : resolver.index.function? name = none)
    (isValue : resolver.index.hasValue name = true) (cache : PackageCache) :
    resolver.answer? cache name = some none := by
  rw [answer?, if_neg notBlank, absent]
  exact if_pos isValue

theorem answer?_dot (notBlank : name ≠ "_") (absent : resolver.index.function? name = none)
    (noValue : ¬resolver.index.hasValue name = true) (cache : PackageCache) :
    resolver.answer? cache name = dotAnswer? cache name resolver.dotImports := by
  rw [answer?, if_neg notBlank, absent]
  exact if_neg noValue

theorem dotAnswer?_loaded {paths : List String} (loaded : Loaded before after)
    (answered : dotAnswer? before name paths = some answer) :
    dotAnswer? after name paths = some answer := by
  induction paths with
  | nil => exact answered
  | cons path rest ih =>
      rw [dotAnswer?] at answered ⊢
      cases known : before.known? path with
      | none => simp [known] at answered
      | some index =>
          rw [loaded.kept path index known]
          rw [known] at answered
          dsimp only at answered ⊢
          split at answered
          · exact answered
          · exact ih answered

/-- What a cache says once it says ever after. -/
theorem answer?_loaded (loaded : Loaded before after)
    (answered : resolver.answer? before name = some answer) :
    resolver.answer? after name = some answer := by
  unfold answer? at answered ⊢
  split
  · rwa [if_pos ‹_›] at answered
  · rw [if_neg ‹_›] at answered
    split at answered
    · exact answered
    · split at answered
      · rwa [if_pos ‹_›]
      · rw [if_neg ‹_›]
        exact dotAnswer?_loaded loaded answered

theorem dotFunctionIn_answers {paths : List String} {memory last : WalkMemory}
    {found : Option Declaration}
    (ran : runFrom (resolver.dotFunctionIn name paths) memory = (.ok found, last)) :
    dotAnswer? last.cache name paths = some found := by
  induction paths generalizing memory with
  | nil =>
      cases ran
      rfl
  | cons path rest ih =>
      rw [dotFunctionIn] at ran
      obtain ⟨index, middle, asked, ran⟩ := runFrom_bind_ok ran
      have known := PackageSource.package_known (loading_ok asked).1
      rw [dotAnswer?]
      split at ran
      · rename_i decl here
        cases ran
        rw [known]
        dsimp only
        rw [here]
      · rename_i absent
        have loaded := ((resolver.dotFunctionIn_looks name rest).quiet _ _ _ ran).loaded
        rw [loaded.kept path index known]
        dsimp only
        rw [absent]
        exact ih ran

end
end AspectLoom.Resolver
