import AspectLoom.Proofs.WalkSteps
import AspectLoom.Proofs.RecordedFunctions
/-!
The types that are held for variables. In a block a name has the type that its last declaration
gives, and a method behind a variable is looked up and recorded with that type.
-/
namespace AspectLoom

open Actions Scoping
open Syntax (Node Kind)

/-- The second table holds what has been found since the first one. -/
def SymbolTable.Grows (before after : SymbolTable) : Prop :=
  ∃ found : List Finding, after = found.foldl SymbolTable.note before

theorem SymbolTable.Grows.trans {first second third : SymbolTable} (begins : first.Grows second)
    (goesOn : second.Grows third) : first.Grows third := by
  obtain ⟨found, rfl⟩ := begins
  obtain ⟨later, rfl⟩ := goesOn
  exact ⟨found ++ later, List.foldl_append.symm⟩

namespace Resolver

/-- Declarations that have been carried out, each with the types that it gave its names. -/
abbrev Given := List (Node × Scope)

/-- The types that a name has been given, in their order. -/
def typesOf (name : String) (given : Given) : List (Option GoType) :=
  ((given.flatMap Prod.snd).filter fun entry => entry.1 == name).map Prod.snd

/-- Carries out a step and tells what it gives if it is a declaration. Blank names are given
nothing. -/
def carryGiving (resolver : Resolver) : Step → ResolveM Given
  | .declare node => do
    let names ← resolver.declares node
    bindAll names
    return [(node, names.filter fun entry => entry.1 != "_")]
  | step => do
    resolver.carryOut step
    return []

/-- Carries out steps and tells what the declarations among them give. -/
def collect (resolver : Resolver) : List Step → ResolveM Given
  | [] => return []
  | step :: rest => do
    let given ← resolver.carryGiving step
    return given ++ (← collect resolver rest)

/-- The memory with which the steps of a block begin. -/
def entering (memory : WalkMemory) : WalkMemory := { memory with scopes := [] :: memory.scopes }

/-- A walk of a block comes to a step in it at any depth. What has been declared before in the
blocks around the step is told from the inside to the outside. -/
inductive Comes (resolver : Resolver) :
    Node → WalkMemory → List Given → Step → WalkMemory → Prop where
  | here {block : Node} {memory there : WalkMemory} {given : Given} {front back : List Step}
      {step : Step} (splits : blockSteps resolver.source block = front ++ step :: back)
      (ran : runFrom (resolver.collect front) (entering memory) = (.ok given, there)) :
      Comes resolver block memory [given] step there
  | inside {block inner : Node} {memory middle there : WalkMemory} {given : Given}
      {givens : List Given} {front back : List Step} {step : Step}
      (splits : blockSteps resolver.source block = front ++ .visit inner :: back)
      (ran : runFrom (resolver.collect front) (entering memory) = (.ok given, middle))
      (comes : Comes resolver inner middle givens step there) :
      Comes resolver block memory (givens ++ [given]) step there

/-- The type that scopes hold for a name, if they bind it. -/
def heldType? (scopes : List Scope) (name : String) : Option (Option GoType) :=
  scopes.findSome? fun scope => Assoc.find? name scope

section
variable {resolver : Resolver} {node child : Node} {memory after middle : WalkMemory}
  {given : Given} {front back : List Step} {step : Step} {name : String}

/-! Single steps -/

/-- A run that binds nothing keeps the scopes, and what it records is added. -/
theorem performs_nothing_bound {pieces : List Piece} {action : ResolveM Unit}
    (performs : resolver.Performs pieces action)
    (undeclaring : declaredNames resolver.source pieces = [])
    (ran : runFrom action memory = (.ok ⟨⟩, after)) :
    after.scopes = memory.scopes ∧ memory.symbols.Grows after.symbols := by
  have performed := (performs memory).of_ok ran
  obtain ⟨names, same, scopes⟩ := performed.bound
  obtain ⟨found, entered, _⟩ := performed.entered fun _ => undeclaring
  rw [undeclaring, List.map_eq_nil_iff] at same
  subst same
  exact ⟨scopes, found, entered⟩

theorem refer_performs (resolver : Resolver) (node : Node) : ∃ pieces,
    declaredNames resolver.source pieces = [] ∧ resolver.Performs pieces (resolver.refer node) := by
  unfold refer
  split
  · exact ⟨[.use node false], rfl, resolveName_performs fun isOperand =>
      absurd isOperand Bool.false_ne_true⟩
  · split
    · rename_i operand field _ _
      dsimp only
      split
      · exact ⟨[.use operand true], rfl, resolveNameSelector_performs⟩
      · exact ⟨[], rfl, performs_after (resolver.infer_looks operand) (fun _ _ _ _ => trivial)
          fun _ _ => resolveMethod_performs⟩
    · exact ⟨[], rfl, performs_nothing _⟩
  · exact ⟨[], rfl, performs_nothing _⟩

theorem walk_block_keeps (isOne : isBlock child = true)
    (ran : runFrom (resolver.walk child) memory = (.ok ⟨⟩, after)) :
    after.scopes = memory.scopes ∧ memory.symbols.Grows after.symbols := by
  refine performs_nothing_bound (walk_performs resolver child) ?_ ran
  rw [declaredNames_part, isOne]
  rfl

theorem carryGiving_of_carryOut
    (ran : runFrom (resolver.carryOut step) memory = (.ok ⟨⟩, after)) :
    ∃ given, runFrom (resolver.carryGiving step) memory = (.ok given, after) := by
  cases step with
  | declare node =>
      obtain ⟨names, middle, looked, bound⟩ := runFrom_bind_ok ran
      refine ⟨[(node, names.filter fun entry => entry.1 != "_")], ?_⟩
      rw [carryGiving, runFrom_bind_of_ok looked, runFrom_bind_of_ok bound]
      rfl
  | visit child => exact ⟨[], runFrom_bind_of_ok ran _⟩
  | refer node => exact ⟨[], runFrom_bind_of_ok ran _⟩

/-- Of the steps of a block only declarations change the scopes. -/
theorem carryGiving_binds (blocks : ∀ child, step = .visit child → isBlock child = true)
    (ran : runFrom (resolver.carryGiving step) memory = (.ok given, after)) :
    after.scopes = bindEach (given.flatMap Prod.snd) memory.scopes ∧
      memory.symbols.Grows after.symbols := by
  cases step with
  | declare node =>
      obtain ⟨names, middle, looked, ran⟩ := runFrom_bind_ok ran
      have looks := resolver.declares_looks node
      have stays := looks.stays memory
      have kept := looks.quiet _ _ _ looked
      rw [leaves, looked] at stays
      rw [runFrom_bind_of_ok (runFrom_bindAll names middle)] at ran
      cases ran
      refine ⟨?_, [], kept.symbols_eq⟩
      rw [← stays]
      simp
  | visit child =>
      obtain ⟨_, middle, walked, ran⟩ := runFrom_bind_ok ran
      cases ran
      exact walk_block_keeps (blocks child rfl) walked
  | refer node =>
      obtain ⟨_, middle, referred, ran⟩ := runFrom_bind_ok ran
      cases ran
      obtain ⟨pieces, undeclaring, performs⟩ := resolver.refer_performs node
      exact performs_nothing_bound performs undeclaring referred

/-! Steps one after the other -/

theorem collect_of_carry {steps : List Step}
    (ran : runFrom (resolver.carry steps) memory = (.ok ⟨⟩, after)) :
    ∃ given, runFrom (resolver.collect steps) memory = (.ok given, after) := by
  induction steps generalizing memory with
  | nil =>
      cases ran
      exact ⟨[], rfl⟩
  | cons step rest ih =>
      rw [carry_cons] at ran
      obtain ⟨_, middle, first, ran⟩ := runFrom_bind_ok ran
      obtain ⟨given, carried⟩ := carryGiving_of_carryOut first
      obtain ⟨later, collected⟩ := ih ran
      refine ⟨given ++ later, ?_⟩
      rw [collect, runFrom_bind_of_ok carried, runFrom_bind_of_ok collected]
      rfl

theorem collect_cons_ok {rest : List Step}
    (ran : runFrom (resolver.collect (step :: rest)) memory = (.ok given, after)) :
    ∃ first later middle, runFrom (resolver.carryGiving step) memory = (.ok first, middle) ∧
      runFrom (resolver.collect rest) middle = (.ok later, after) ∧ given = first ++ later := by
  obtain ⟨first, middle, carried, ran⟩ := runFrom_bind_ok ran
  obtain ⟨later, last, collected, ran⟩ := runFrom_bind_ok ran
  cases ran
  exact ⟨first, later, middle, carried, collected, rfl⟩

theorem collect_append_ok
    (ran : runFrom (resolver.collect (front ++ back)) memory = (.ok given, after)) :
    ∃ first later middle, runFrom (resolver.collect front) memory = (.ok first, middle) ∧
      runFrom (resolver.collect back) middle = (.ok later, after) ∧ given = first ++ later := by
  induction front generalizing memory given with
  | nil => exact ⟨[], given, memory, rfl, ran, rfl⟩
  | cons step rest ih =>
      obtain ⟨first, later, middle, carried, collected, rfl⟩ := collect_cons_ok ran
      obtain ⟨more, last, there, begins, goesOn, rfl⟩ := ih collected
      refine ⟨first ++ more, last, there, ?_, goesOn, (List.append_assoc ..).symm⟩
      rw [collect, runFrom_bind_of_ok carried, runFrom_bind_of_ok begins]
      rfl

theorem collect_binds {steps : List Step}
    (blocks : ∀ child, .visit child ∈ steps → isBlock child = true)
    (ran : runFrom (resolver.collect steps) memory = (.ok given, after)) :
    after.scopes = bindEach (given.flatMap Prod.snd) memory.scopes ∧
      memory.symbols.Grows after.symbols := by
  induction steps generalizing memory given with
  | nil =>
      cases ran
      exact ⟨rfl, [], rfl⟩
  | cons step rest ih =>
      obtain ⟨first, later, middle, carried, collected, rfl⟩ := collect_cons_ok ran
      have here := carryGiving_binds
        (fun child same => blocks child (same ▸ List.mem_cons_self)) carried
      have behind := ih (fun child member => blocks child (List.mem_cons_of_mem _ member)) collected
      refine ⟨?_, here.2.trans behind.2⟩
      rw [behind.1, here.1, List.flatMap_append, bindEach_append]

/-! Names and their types -/

/-- A scope holds for a name what it has been given last. -/
theorem find?_given (names scope : Scope) (name : String) :
    Assoc.find? name (names.foldl (fun scope entry => Assoc.insert entry.1 entry.2 scope) scope) =
      (((names.filter fun entry => entry.1 == name).map Prod.snd).getLast?).or
        (Assoc.find? name scope) := by
  induction names generalizing scope with
  | nil => rfl
  | cons entry rest ih =>
      rw [List.foldl_cons, ih, Assoc.find?_insert]
      by_cases same : entry.1 = name
      · simp [same, List.getLast?_cons]
      · simp [same]

theorem heldType?_cons (scope : Scope) (outer : List Scope) (name : String) :
    heldType? (scope :: outer) name = (Assoc.find? name scope).or (heldType? outer name) := by
  rw [heldType?, List.findSome?_cons]
  cases Assoc.find? name scope <;> rfl

/-- In a block the names are held with the types that they have been given last. -/
theorem collect_holds {block : Node}
    (splits : blockSteps resolver.source block = front ++ step :: back)
    (ran : runFrom (resolver.collect front) (entering memory) = (.ok given, after))
    (name : String) :
    heldType? after.scopes name =
      (typesOf name given).getLast?.or (heldType? memory.scopes name) := by
  have blocks : ∀ child, .visit child ∈ front → isBlock child = true := by
    intro child member
    apply isBlock_of_visit resolver.source block
    rw [splits]
    exact List.mem_append_left _ member
  rw [(collect_binds blocks ran).1, entering, bindEach_cons, heldType?_cons, find?_given]
  simp [typesOf, Assoc.find?]

/-- At a step a name is held with what the innermost block that declares it has given it last. -/
theorem Comes.holds {block : Node} {givens : List Given} {there : WalkMemory}
    (comes : Comes resolver block memory givens step there) (name : String) :
    heldType? there.scopes name =
      (givens.findSome? fun given => (typesOf name given).getLast?).or
        (heldType? memory.scopes name) := by
  induction comes with
  | here splits ran => simp [collect_holds splits ran]
  | inside splits ran comes ih =>
      rw [ih, collect_holds splits ran, List.findSome?_append, List.findSome?_singleton,
        Option.or_assoc]

/-! What a walk comes to -/

/-- A step in a block, at any depth. -/
inductive Passes (source : String) : Node → Step → Prop where
  | here {block : Node} {step : Step} (member : step ∈ blockSteps source block) :
      Passes source block step
  | inside {block inner : Node} {step : Step} (member : .visit inner ∈ blockSteps source block)
      (passes : Passes source inner step) : Passes source block step

theorem carryOut_of_carryGiving
    (ran : runFrom (resolver.carryGiving step) memory = (.ok given, after)) :
    runFrom (resolver.carryOut step) memory = (.ok ⟨⟩, after) := by
  cases step with
  | declare node =>
      obtain ⟨names, middle, looked, ran⟩ := runFrom_bind_ok ran
      obtain ⟨_, last, bound, ran⟩ := runFrom_bind_ok ran
      cases ran
      exact (runFrom_bind_of_ok looked _).trans bound
  | visit child =>
      obtain ⟨_, middle, walked, ran⟩ := runFrom_bind_ok ran
      cases ran
      exact walked
  | refer node =>
      obtain ⟨_, middle, referred, ran⟩ := runFrom_bind_ok ran
      cases ran
      exact referred

/-- A walk of a block that succeeds carries out all of its steps. -/
theorem walk_collects {block : Node} (isOne : isBlock block = true)
    (ran : runFrom (resolver.walk block) memory = (.ok ⟨⟩, after)) :
    ∃ given last, runFrom (resolver.collect (blockSteps resolver.source block)) (entering memory) =
      (.ok given, last) ∧ after.symbols = last.symbols := by
  rcases inner : runFrom (resolver.carry (blockSteps resolver.source block)) (entering memory) with
    ⟨result, last⟩
  rw [resolver.walk_block isOne, runFrom_inScope] at ran
  unfold entering at inner
  rw [inner] at ran
  cases ran
  obtain ⟨given, collected⟩ := collect_of_carry inner
  exact ⟨given, last, collected, rfl⟩

/-- Every step in a block is come to by a walk that succeeds. -/
theorem Passes.comes {block : Node} (passes : Passes resolver.source block step)
    (isOne : isBlock block = true)
    (ran : runFrom (resolver.walk block) memory = (.ok ⟨⟩, after)) :
    ∃ givens there, Comes resolver block memory givens step there := by
  induction passes generalizing memory after with
  | here member =>
      obtain ⟨front, back, splits⟩ := List.append_of_mem member
      obtain ⟨given, last, collected, _⟩ := walk_collects isOne ran
      rw [splits] at collected
      obtain ⟨first, _, there, before, _, _⟩ := collect_append_ok collected
      exact ⟨[first], there, .here splits before⟩
  | @inside block inner step member passes ih =>
      obtain ⟨front, back, splits⟩ := List.append_of_mem member
      obtain ⟨given, last, collected, _⟩ := walk_collects isOne ran
      rw [splits] at collected
      obtain ⟨first, _, middle, before, goesOn, _⟩ := collect_append_ok collected
      obtain ⟨_, _, next, walked, _, _⟩ := collect_cons_ok goesOn
      obtain ⟨givens, there, comes⟩ :=
        ih (isBlock_of_visit _ _ member) (carryOut_of_carryGiving walked)
      exact ⟨givens ++ [first], there, .inside splits before comes⟩

/-- A step that a walk comes to is carried out, and what it records is kept. -/
theorem Comes.carried {block : Node} {givens : List Given} {there : WalkMemory}
    (comes : Comes resolver block memory givens step there) (isOne : isBlock block = true)
    (ran : runFrom (resolver.walk block) memory = (.ok ⟨⟩, after)) :
    ∃ next, runFrom (resolver.carryOut step) there = (.ok ⟨⟩, next) ∧
      next.symbols.Grows after.symbols := by
  have reached : ∀ {block : Node} {memory after middle : WalkMemory} {given : Given}
      {front back : List Step} {step : Step}, isBlock block = true →
      blockSteps resolver.source block = front ++ step :: back →
      runFrom (resolver.collect front) (entering memory) = (.ok given, middle) →
      runFrom (resolver.walk block) memory = (.ok ⟨⟩, after) →
      ∃ next, runFrom (resolver.carryOut step) middle = (.ok ⟨⟩, next) ∧
        next.symbols.Grows after.symbols := by
    intro block memory after middle given front back step isOne splits before ran
    obtain ⟨all, last, collected, kept⟩ := walk_collects isOne ran
    rw [splits] at collected
    obtain ⟨first, _, there, again, goesOn, _⟩ := collect_append_ok collected
    cases before.symm.trans again
    obtain ⟨_, later, next, carried, behind, _⟩ := collect_cons_ok goesOn
    refine ⟨next, carryOut_of_carryGiving carried, ?_⟩
    rw [kept]
    refine (collect_binds (fun child member => ?_) behind).2
    apply isBlock_of_visit resolver.source block
    rw [splits]
    exact List.mem_append_right _ (List.mem_cons_of_mem _ member)
  induction comes generalizing after with
  | here splits before => exact reached isOne splits before ran
  | @inside block inner memory middle there given givens front back step splits before comes ih =>
      obtain ⟨between, walked, grows⟩ := reached isOne splits before ran
      have isInner : isBlock inner = true := by
        apply isBlock_of_visit resolver.source block
        rw [splits]
        exact List.mem_append_right _ List.mem_cons_self
      obtain ⟨next, carried, goesOn⟩ := ih isInner walked
      exact ⟨next, carried, goesOn.trans grows⟩

/-! References through variables -/

/-- Looking up a method of a type. Without a type none is found. -/
def methodBehind (resolver : Resolver) (type : Option GoType) (name : String) :
    ResolveM (Option Declaration) :=
  match type with
  | none => return none
  | some type => resolver.methodOf type name

/-- What a reference to a method behind an operand of some type records. -/
def methodFindings (resolver : Resolver) (selector operand : Node) (name : String) :
    Option GoType → Option Declaration → List Finding
  | some type, some decl =>
    [⟨resolver.siteOf selector (.selector operand.span name type), some decl⟩]
  | _, _ => []

theorem resolveMethod_records {selector operand : Node} {type : Option GoType}
    (ran : runFrom (resolver.resolveMethod selector operand name type) memory = (.ok ⟨⟩, after)) :
    ∃ method, (runFrom (resolver.methodBehind type name) memory).1 = .ok method ∧
      after.symbols =
        (resolver.methodFindings selector operand name type method).foldl SymbolTable.note
          memory.symbols := by
  cases type with
  | none =>
      cases ran
      exact ⟨none, rfl, rfl⟩
  | some type =>
      obtain ⟨method, middle, found, ran⟩ := runFrom_bind_ok ran
      have kept := (resolver.methodOf_looks type name).quiet _ _ _ found
      refine ⟨method, congrArg Prod.fst found, ?_⟩
      cases method with
      | none =>
          cases ran
          exact kept.symbols_eq
      | some decl =>
          rw [runFrom_recordFunction] at ran
          cases ran
          rw [kept.symbols_eq]
          rfl

theorem refer_variable {selector operand field : Node} {type : Option GoType}
    (reference : IsReference selector operand field)
    (held : heldType? memory.scopes (resolver.text operand) = some type) :
    runFrom (resolver.refer selector) memory =
      runFrom (resolver.resolveMethod selector operand (resolver.text field) type) memory := by
  have isLocal : runFrom (local? (resolver.text operand)) memory = (.ok (some type), memory) := by
    rw [runFrom_local?, ← held]
    rfl
  rw [resolver.refer_name reference.toIsSelector reference.isName, resolveNameSelector,
    runFrom_bind_of_ok isLocal]

/-! Bodies of functions -/

/-- The body of the last function of a file. -/
def lastBody (file : CompilationUnit × Node) : Node := ((lastNode file).child? .body).getD default

def Step.refers? : Step → Option Node
  | .refer node => some node
  | _ => none

/-- What is seen of a reference: what stands before the selector, and the names of both. -/
def seenReference (resolver : Resolver) (selector : Node) : Option (Span × String × String) :=
  match selector.child? .operand, selector.child? .field with
  | some operand, some field =>
    if selector.kind = .selectorExpression ∧ operand.kind = .identifier then
      some (operand.span, resolver.text operand, resolver.text field)
    else none
  | _, _ => none

/-- What is seen of declarations: their kinds, and the names with their types. -/
def seenGiven (given : Given) : List (Kind × Scope) :=
  given.map fun (node, names) => (node.kind, names)

theorem typesOf_seen (name : String) (given : Given) :
    typesOf name given =
      (((seenGiven given).flatMap Prod.snd).filter fun entry => entry.1 == name).map Prod.snd := by
  simp [typesOf, seenGiven, List.flatMap_map]

/-- A walk comes to a reference that is at a position among the steps of a block. -/
theorem comes_at {block : Node} {position : Nat} {span : Span} {method : String}
    {seen : List (Kind × Scope)}
    (refers : ((blockSteps resolver.source block)[position]?.bind Step.refers?).bind
      resolver.seenReference = some (span, name, method))
    (gives : (runFrom (resolver.collect ((blockSteps resolver.source block).take position))
      (entering memory)).1.toOption.map seenGiven = some seen) :
    ∃ selector operand field given, IsReference selector operand field ∧
      (operand.span = span ∧ resolver.text operand = name ∧ resolver.text field = method) ∧
      seenGiven given = seen ∧
      Comes resolver block memory [given] (.refer selector)
        (leaves (resolver.collect ((blockSteps resolver.source block).take position))
          (entering memory)) := by
  obtain ⟨selector, found, sees⟩ := Option.bind_eq_some_iff.mp refers
  obtain ⟨step, here, isOne⟩ := Option.bind_eq_some_iff.mp found
  obtain ⟨given, ran, same⟩ := runFrom_of_view gives
  have step : step = .refer selector := by
    cases step <;> cases isOne
    rfl
  subst step
  obtain ⟨inside, here⟩ := List.getElem?_eq_some_iff.mp here
  have splits : blockSteps resolver.source block =
      (blockSteps resolver.source block).take position ++
        .refer selector :: (blockSteps resolver.source block).drop (position + 1) := by
    rw [← here, ← List.drop_eq_getElem_cons inside, List.take_append_drop]
  unfold seenReference at sees
  split at sees
  · rename_i operand field isOperand isField
    split at sees
    · rename_i kinds
      cases sees
      exact ⟨selector, operand, field, given, ⟨⟨kinds.1, isOperand, isField⟩, kinds.2⟩,
        ⟨rfl, rfl, rfl⟩, same, .here splits ran⟩
    · cases sees
  · cases sees

/-- A walk of a block comes to every reference in it. A variable has there the type that the last
declaration before it in the innermost block with one gives, which is the type that the first one
introduced it with just when these two agree. A method behind the variable is looked up with the
type and recorded with it. -/
theorem walk_types_variables (resolver : Resolver) {block : Node} {memory after : WalkMemory}
    (isOne : isBlock block = true) (ran : runFrom (resolver.walk block) memory = (.ok ⟨⟩, after)) :
    (∀ step, Passes resolver.source block step →
      ∃ givens there, Comes resolver block memory givens step there) ∧
    ∀ givens selector operand field there,
      Comes resolver block memory givens (.refer selector) there →
      IsReference selector operand field →
      ∀ inner given outer introduced later, givens = inner ++ given :: outer →
        (∀ closer ∈ inner, typesOf (resolver.text operand) closer = []) →
        typesOf (resolver.text operand) given = introduced :: later →
        ∃ held, heldType? there.scopes (resolver.text operand) = some held ∧
          (held = introduced ↔ (introduced :: later).getLast? = some introduced) ∧
          ∃ method next,
            (runFrom (resolver.methodBehind held (resolver.text field)) there).1 = .ok method ∧
            runFrom (resolver.refer selector) there = (.ok ⟨⟩, next) ∧
            next.symbols = (resolver.methodFindings selector operand (resolver.text field) held
              method).foldl SymbolTable.note there.symbols ∧
            next.symbols.Grows after.symbols := by
  refine ⟨fun step passes => passes.comes isOne ran, ?_⟩
  rintro _ selector operand field there comes reference inner given outer introduced later rfl
    undeclared declared
  have last : heldType? there.scopes (resolver.text operand) =
      (introduced :: later).getLast? := by
    rw [comes.holds, List.findSome?_append, List.findSome?_cons, declared]
    have none : inner.findSome? (fun given => (typesOf (resolver.text operand) given).getLast?) =
        none := by
      rw [List.findSome?_eq_none_iff]
      intro closer member
      rw [undeclared closer member]
      rfl
    rw [none, List.getLast?_cons]
    rfl
  rw [List.getLast?_cons] at last
  refine ⟨_, last, ?_, ?_⟩
  · rw [List.getLast?_cons, Option.some_inj]
  · obtain ⟨next, carried, grows⟩ := comes.carried isOne ran
    have referred := (refer_variable reference last).symm.trans carried
    obtain ⟨method, found, recorded⟩ := resolveMethod_records referred
    exact ⟨method, next, found, carried, recorded, grows⟩

/-- A variable is assigned a value of its own type together with a new one. -/
def renamedFile : CompilationUnit × Node :=
  parsedFile ("package p\ntype D interface{ Do() }\nfunc n() (D, error) { return nil, nil }\n" ++
    "func g() { var d D; d, err := n(); _ = err; d.Do() }\n")

/-- The variable keeps its type, and the method is looked up with it. -/
theorem walk_types_variables_renamed :
    let resolver := ofFile renamedFile
    let block := lastBody renamedFile
    isBlock block = true ∧ ∃ after, runFrom (resolver.walk block) ⟨{}, {}, []⟩ = (.ok ⟨⟩, after) ∧
      ∃ selector operand field given there,
        Comes resolver block ⟨{}, {}, []⟩ [given] (.refer selector) there ∧
        IsReference selector operand field ∧ resolver.text operand = "d" ∧
        typesOf "d" given = [some ⟨"p.D"⟩, some ⟨"p.D"⟩] ∧
        heldType? there.scopes "d" = some (some ⟨"p.D"⟩) ∧
        ∃ (method : Option Declaration) (next : WalkMemory),
          next.symbols = (resolver.methodFindings selector operand "Do" (some ⟨"p.D"⟩)
            method).foldl SymbolTable.note there.symbols ∧
          next.symbols.Grows after.symbols := by
  intro resolver block
  obtain ⟨isOne, succeeds, refers, gives⟩ : isBlock block = true ∧
      (runFrom (resolver.walk block) ⟨{}, {}, []⟩).1.toOption = some ⟨⟩ ∧
      ((blockSteps resolver.source block)[5]?.bind Step.refers?).bind resolver.seenReference =
        some (⟨119, 120⟩, "d", "Do") ∧
      (runFrom (resolver.collect ((blockSteps resolver.source block).take 5))
        (entering ⟨{}, {}, []⟩)).1.toOption.map seenGiven =
        some [(.varSpec, [("d", some ⟨"p.D"⟩)]),
          (.shortVarDeclaration, [("d", some ⟨"p.D"⟩), ("err", some ⟨"error"⟩)])] := by
    decide +kernel
  have ran := runFrom_of_toOption succeeds rfl
  obtain ⟨selector, operand, field, given, reference, ⟨_, text, method⟩, seen, comes⟩ :=
    comes_at refers gives
  have types : typesOf "d" given = [some ⟨"p.D"⟩, some ⟨"p.D"⟩] := by
    rw [typesOf_seen, seen]
    rfl
  have typed := (walk_types_variables resolver isOne ran).2 [given] selector operand field _ comes
    reference [] given [] (some ⟨"p.D"⟩) [some ⟨"p.D"⟩] rfl (List.forall_mem_nil _) (text ▸ types)
  obtain ⟨held, isHeld, agrees, found, next, _, _, records, grows⟩ := typed
  obtain rfl := agrees.mpr rfl
  rw [text] at isHeld
  rw [method] at records
  exact ⟨isOne, _, ran, selector, operand, field, given, _, comes, reference, text, types, isHeld,
    found, next, records, grows⟩

/-- An interface variable is assigned a value of a concrete type together with a new one. -/
def reassignedFile : CompilationUnit × Node :=
  parsedFile ("package p\ntype D interface{ Do() }\ntype W struct{}\nfunc (w *W) Do() {}\n" ++
    "func n() (*W, error) { return nil, nil }\n" ++
    "func g() { var d D; d, err := n(); _ = err; d.Do() }\n")

/-- The variable was introduced as an interface, but it has the type of what was assigned last, with
which the method is recorded. -/
theorem walk_retypes_variable :
    let resolver := ofFile reassignedFile
    let block := lastBody reassignedFile
    isBlock block = true ∧ ∃ after, runFrom (resolver.walk block) ⟨{}, {}, []⟩ = (.ok ⟨⟩, after) ∧
      ∃ selector operand field given there,
        Comes resolver block ⟨{}, {}, []⟩ [given] (.refer selector) there ∧
        IsReference selector operand field ∧ resolver.text operand = "d" ∧
        seenGiven given = [(.varSpec, [("d", some ⟨"p.D"⟩)]),
          (.shortVarDeclaration, [("d", some ⟨"*p.W"⟩), ("err", some ⟨"error"⟩)])] ∧
        heldType? there.scopes "d" = some (some ⟨"*p.W"⟩) ∧
        ∃ use ∈ after.symbols.uses, use.site.span = ⟨156, 160⟩ ∧
          use.site.shape = .selector operand.span "Do" ⟨"*p.W"⟩ := by
  intro resolver block
  obtain ⟨isOne, succeeds, refers, gives, held, recorded⟩ : isBlock block = true ∧
      (runFrom (resolver.walk block) ⟨{}, {}, []⟩).1.toOption = some ⟨⟩ ∧
      ((blockSteps resolver.source block)[5]?.bind Step.refers?).bind resolver.seenReference =
        some (⟨156, 157⟩, "d", "Do") ∧
      (runFrom (resolver.collect ((blockSteps resolver.source block).take 5))
        (entering ⟨{}, {}, []⟩)).1.toOption.map seenGiven =
        some [(.varSpec, [("d", some ⟨"p.D"⟩)]),
          (.shortVarDeclaration, [("d", some ⟨"*p.W"⟩), ("err", some ⟨"error"⟩)])] ∧
      heldType? (leaves (resolver.collect ((blockSteps resolver.source block).take 5))
        (entering ⟨{}, {}, []⟩)).scopes "d" = some (some ⟨"*p.W"⟩) ∧
      ∃ use ∈ (leaves (resolver.walk block) ⟨{}, {}, []⟩).symbols.uses, use.site.span = ⟨156, 160⟩ ∧
        use.site.shape = .selector ⟨156, 157⟩ "Do" ⟨"*p.W"⟩ := by
    decide +kernel
  obtain ⟨selector, operand, field, given, reference, ⟨span, text, _⟩, seen, comes⟩ :=
    comes_at refers gives
  refine ⟨isOne, _, runFrom_of_toOption succeeds rfl, selector, operand, field, given, _, comes,
    reference, text, seen, held, ?_⟩
  rw [span]
  exact recorded

end
end Resolver
end AspectLoom
