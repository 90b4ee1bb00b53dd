import AspectLoom.Proofs.ScopeStacks
import AspectLoom.Proofs.ScopedPlaces
/-!
A walk goes through the pieces of a node in their order. It binds what they declare and records
the names that stand for functions where nothing before binds them.
-/
namespace AspectLoom.Resolver

open Actions PackageCache Scoping
open Syntax (Node Kind)

/-- The names that some pieces declare in the block around them. -/
def declaredNames (source : String) (pieces : List Piece) : List String :=
  (pieces.flatMap (Piece.declared source)).map Prod.fst

/-- No scope binds a name and it is none of some more names. An operand is the name of neither a
type nor an import. -/
structure Free (resolver : Resolver) (scopes : List Scope) (hidden : List String) (use : Node)
    (isOperand : Bool) : Prop where
  unbound : ¬Bound scopes (resolver.text use)
  unhidden : resolver.text use ∉ hidden
  operand : isOperand = true → resolver.context.importPath? (resolver.text use) = none ∧
    resolver.index.hasType (resolver.text use) = false

/-- What is entered for a name that stands for a function. -/
def naming (resolver : Resolver) (use : Node) (decl : Declaration) : Finding :=
  ⟨resolver.siteOf use (.ident (resolver.text use)), some decl⟩

/-- What is found in some pieces. A function is entered for its name only where the name is free,
and wherever it is. -/
structure Names (resolver : Resolver) (pieces : List Piece) (scopes : List Scope)
    (cache : PackageCache) (found : List Finding) : Prop where
  sound : ∀ finding ∈ found, ∀ name decl, finding.site.shape = .ident name →
    finding.decl = some decl → ∃ use isOperand hidden,
      UsedAfter resolver.source pieces use isOperand hidden ∧
        resolver.Free scopes hidden use isOperand ∧
        resolver.answer? cache (resolver.text use) = some (some decl) ∧
        finding = resolver.naming use decl
  complete : ∀ use isOperand hidden, UsedAfter resolver.source pieces use isOperand hidden →
    resolver.Free scopes hidden use isOperand →
      ∃ answer, resolver.answer? cache (resolver.text use) = some answer ∧
        ∀ decl, answer = some decl → resolver.naming use decl ∈ found

/-- What a walk over some pieces does. The names that they declare are kept if there is a scope. -/
structure Performed (resolver : Resolver) (pieces : List Piece) (before after : WalkMemory) :
    Prop where
  loaded : Loaded before.cache after.cache
  bound : ∃ names, names.map Prod.fst = declaredNames resolver.source pieces ∧
    after.scopes = bindEach names before.scopes
  entered : (before.scopes = [] → declaredNames resolver.source pieces = []) →
    ∃ found, after.symbols = found.foldl SymbolTable.note before.symbols ∧
      resolver.Names pieces before.scopes after.cache found

/-- Scopes with more names in the innermost one. -/
def Widened (before after : List Scope) : Prop := ∃ names, after = bindEach names before

/-- Every run walks over some pieces as far as it comes. -/
def Performs {α : Type} (resolver : Resolver) (pieces : List Piece) (action : ResolveM α) : Prop :=
  ∀ memory, Ends (fun _ after => resolver.Performed pieces memory after)
    (fun after => Widened memory.scopes after.scopes) action memory

section
variable {resolver : Resolver} {pieces more : List Piece} {memory before middle after : WalkMemory}
  {cache last : PackageCache} {scopes : List Scope} {names : Scope} {found later : List Finding}
  {node child use : Node} {isOperand : Bool} {hidden : List String} {decl : Declaration}

theorem declaredNames_append (source : String) (pieces more : List Piece) :
    declaredNames source (pieces ++ more) =
      declaredNames source pieces ++ declaredNames source more := by
  simp [declaredNames]

theorem Widened.trans {first second third : List Scope} (begins : Widened first second)
    (goesOn : Widened second third) : Widened first third := by
  obtain ⟨names, rfl⟩ := begins
  obtain ⟨later, rfl⟩ := goesOn
  exact ⟨names ++ later, (bindEach_append names later first).symm⟩

theorem Performed.widened (performed : resolver.Performed pieces before after) :
    Widened before.scopes after.scopes := by
  obtain ⟨names, _, same⟩ := performed.bound
  exact ⟨names, same⟩

/-! Names one after the other -/

theorem free_bindEach_iff (hosted : scopes = [] → names.map Prod.fst = []) :
    resolver.Free (bindEach names scopes) hidden use isOperand ↔
      resolver.Free scopes (names.map Prod.fst ++ hidden) use isOperand := by
  constructor
  · rintro ⟨unbound, unhidden, operand⟩
    rw [bound_bindEach_iff hosted] at unbound
    refine ⟨fun isBound => unbound (.inl isBound), fun among => ?_, operand⟩
    rcases List.mem_append.mp among with here | there
    · exact unbound (.inr here)
    · exact unhidden there
  · rintro ⟨unbound, unhidden, operand⟩
    refine ⟨fun isBound => ?_, fun among => unhidden (List.mem_append_right _ among), operand⟩
    rcases (bound_bindEach_iff hosted).mp isBound with outer | here
    · exact unbound outer
    · exact unhidden (List.mem_append_left _ here)

theorem Names.append (begins : resolver.Names pieces scopes cache found)
    (declares : names.map Prod.fst = declaredNames resolver.source pieces)
    (hosted : scopes = [] → names.map Prod.fst = [])
    (goesOn : resolver.Names more (bindEach names scopes) last later) (loaded : Loaded cache last) :
    resolver.Names (pieces ++ more) scopes last (found ++ later) := by
  constructor
  · intro finding member name decl shape same
    rcases List.mem_append.mp member with here | there
    · obtain ⟨use, isOperand, hidden, used, free, answered, is⟩ :=
        begins.sound finding here name decl shape same
      exact ⟨use, isOperand, hidden, usedAfter_append more used, free,
        answer?_loaded loaded answered, is⟩
    · obtain ⟨use, isOperand, hidden, used, free, answered, is⟩ :=
        goesOn.sound finding there name decl shape same
      refine ⟨use, isOperand, _, usedAfter_behind pieces used, ?_, answered, is⟩
      change resolver.Free scopes (declaredNames resolver.source pieces ++ hidden) use isOperand
      rw [← declares]
      exact (free_bindEach_iff hosted).mp free
  · intro use isOperand hidden used free
    rcases usedAfter_append_cases used with here | ⟨inner, there, rfl⟩
    · obtain ⟨answer, answered, entered⟩ := begins.complete use isOperand hidden here free
      exact ⟨answer, answer?_loaded loaded answered,
        fun decl same => List.mem_append_left _ (entered decl same)⟩
    · -- In the scopes behind the first pieces it is free of what these declare.
      change resolver.Free scopes (declaredNames resolver.source pieces ++ inner) use isOperand
        at free
      rw [← declares] at free
      obtain ⟨answer, answered, entered⟩ :=
        goesOn.complete use isOperand inner there ((free_bindEach_iff hosted).mpr free)
      exact ⟨answer, answered, fun decl same => List.mem_append_right _ (entered decl same)⟩

theorem Performed.append (begins : resolver.Performed pieces before middle)
    (goesOn : resolver.Performed more middle after) :
    resolver.Performed (pieces ++ more) before after := by
  obtain ⟨names, declares, bound⟩ := begins.bound
  obtain ⟨laterNames, laterDeclares, laterBound⟩ := goesOn.bound
  refine ⟨begins.loaded.trans goesOn.loaded, ⟨names ++ laterNames, ?_, ?_⟩, ?_⟩
  · rw [List.map_append, declares, laterDeclares, declaredNames_append]
  · rw [laterBound, bound, bindEach_append]
  · intro hosted
    rw [declaredNames_append] at hosted
    have first : before.scopes = [] → declaredNames resolver.source pieces = [] :=
      fun none => (List.append_eq_nil_iff.mp (hosted none)).1
    have second : middle.scopes = [] → declaredNames resolver.source more = [] := by
      rw [bound, bindEach_eq_nil]
      exact fun none => (List.append_eq_nil_iff.mp (hosted none)).2
    obtain ⟨found, entered, finds⟩ := begins.entered first
    obtain ⟨later, laterEntered, laterFinds⟩ := goesOn.entered second
    rw [bound] at laterFinds
    refine ⟨found ++ later, ?_, finds.append declares ?_ laterFinds goesOn.loaded⟩
    · rw [laterEntered, entered, List.foldl_append]
    · rw [declares]
      exact first

/-! Steps -/

/-- Findings that are no functions by their names. -/
def Unnamed (found : List Finding) : Prop :=
  ∀ finding ∈ found, ∀ name, finding.site.shape = .ident name → finding.decl = none

theorem unnamed_nil : Unnamed [] := List.forall_mem_nil _

theorem unnamed_value (site : Site) : Unnamed [⟨site, none⟩] := by
  intro finding member name _
  cases List.mem_singleton.mp member
  rfl

/-- Nothing is declared and no name is used. -/
theorem performed_other (loaded : Loaded before.cache after.cache)
    (same : after.scopes = before.scopes)
    (entered : after.symbols = found.foldl SymbolTable.note before.symbols)
    (unnamed : Unnamed found) : resolver.Performed [] before after := by
  refine ⟨loaded, ⟨[], rfl, same⟩, fun _ => ⟨found, entered, ?_, ?_⟩⟩
  · intro finding member name decl shape same
    rw [unnamed finding member name shape] at same
    cases same
  · intro use isOperand hidden used
    cases used

section
variable {α β : Type} {action : ResolveM α} {next : α → ResolveM β}

theorem ends_looks {success : α → WalkMemory → Prop} (looks : Looks action)
    (succeeds : ∀ value after, runFrom action memory = (.ok value, after) →
      memory.Kept after → after.scopes = memory.scopes → success value after) :
    Ends success (fun after => Widened memory.scopes after.scopes) action memory := by
  have stays := looks.stays memory
  constructor
  · intro value after ran
    rw [leaves, ran] at stays
    exact succeeds value after ran (looks.quiet _ _ _ ran) stays
  · intro cause after ran
    rw [leaves, ran] at stays
    exact ⟨[], stays⟩

theorem performed_kept (kept : before.Kept after) (stays : after.scopes = before.scopes) :
    resolver.Performed [] before after := by
  have entered : after.symbols = [].foldl SymbolTable.note before.symbols := kept.symbols_eq
  exact performed_other kept.loaded stays entered unnamed_nil

theorem performs_looks (looks : Looks action) : resolver.Performs [] action :=
  fun _ => ends_looks looks fun _ _ _ => performed_kept

theorem performs_bind (first : resolver.Performs pieces action)
    (second : ∀ value, resolver.Performs more (next value)) :
    resolver.Performs (pieces ++ more) (action >>= next) := by
  intro memory
  apply ends_bind
  refine (first memory).imp (fun value middle performed => ?_) fun _ => id
  refine (second value middle).imp (fun _ after goesOn => performed.append goesOn) ?_
  exact fun after => performed.widened.trans

/-- After a lookup something is known about its value. -/
theorem performs_after {fact : α → Prop} (looks : Looks action)
    (tells : ∀ memory value after, runFrom action memory = (.ok value, after) → fact value)
    (second : ∀ value, fact value → resolver.Performs pieces (next value)) :
    resolver.Performs pieces (action >>= next) := by
  intro memory
  apply ends_bind
  refine ends_looks looks fun value middle ran kept stays => ?_
  have performed : resolver.Performed [] memory middle := performed_kept kept stays
  refine (second value (tells _ _ _ ran) middle).imp
    (fun _ after goesOn => performed.append goesOn) ?_
  exact fun after => performed.widened.trans

end

/-! Bindings -/

theorem declaredNames_declare (source : String) (names : List String) (place : Nat) :
    declaredNames source [.declare names place] = names.filter (· != "_") := by
  simp [declaredNames, Piece.declared, Function.comp_def]

theorem bindAll_performs (resolver : Resolver) (names : Scope) (place : Nat) :
    resolver.Performs [.declare (names.map Prod.fst) place] (bindAll names) := by
  intro memory
  refine ends_of_ok (runFrom_bindAll names memory) ?_
  refine ⟨Std.Refl.refl _, ⟨_, ?_, rfl⟩, fun _ => ⟨[], rfl, ?_, ?_⟩⟩
  · rw [declaredNames_declare, List.filter_map]
    rfl
  · exact List.forall_mem_nil _
  · intro use isOperand hidden used _
    cases used with
    | later _ used => cases used

/-- Binding names of which only the types are looked up. -/
theorem bindAll_named {bindings : Scope} {names : List String}
    (same : bindings.map Prod.fst = names) (place : Nat) :
    resolver.Performs [.declare names place] (bindAll bindings) :=
  same ▸ bindAll_performs resolver bindings place

theorem bindUntyped_performs (list : Option Node) (place : Nat) :
    resolver.Performs [.declare (listNames resolver.source list) place]
      (resolver.bindUntyped list) := by
  apply bindAll_named
  rw [List.map_map]
  rfl

theorem bindParameters_performs (function : Node) (place : Nat) :
    resolver.Performs [.declare (parameterNames resolver.source function) place]
      (resolver.bindParameters function) := by
  apply bindAll_named
  simp [parameterNames, parameterBindings, List.map_flatMap, Function.comp_def]

theorem inferEach_length {nodes : List (Option Node)} {types : List (Option GoType)}
    (ran : runFrom (resolver.inferEach nodes) memory = (.ok types, after)) :
    types.length = nodes.length := mapM_length ran

/-- There are as many types as names. -/
theorem assignedTypes_length {count : Nat} {values : List Node} {types : List (Option GoType)}
    (ran : runFrom (resolver.assignedTypes count values) memory = (.ok types, after)) :
    types.length = count := by
  unfold assignedTypes at ran
  split at ran
  · split at ran
    · obtain ⟨results, _, _, ran⟩ := runFrom_bind_ok ran
      cases ran
      simp
    · simpa using inferEach_length ran
  · simpa using inferEach_length ran

theorem bindShortVar_performs (node : Node) (place : Nat) :
    resolver.Performs [.declare (assignedNames resolver.source (node.child? .left)) place]
      (resolver.bindShortVar node) := by
  refine performs_after (resolver.assignedTypes_looks _ _)
    (fun _ _ _ => assignedTypes_length) fun types length => bindAll_named ?_ place
  have firsts := List.map_fst_zip (Nat.le_of_eq length.symm)
  conv_rhs => rw [assignedNames, ← firsts, List.filter_map, List.map_map]
  rw [List.map_map]
  rfl

theorem bindSpec_performs (node : Node) (place : Nat) :
    resolver.Performs [.declare (TypeContext.namesOf resolver.source node) place]
      (resolver.bindSpec node) := by
  have binds : ∀ types : List (Option GoType),
      types.length = (TypeContext.namesOf resolver.source node).length →
        resolver.Performs [.declare (TypeContext.namesOf resolver.source node) place]
          (bindAll ((TypeContext.namesOf resolver.source node).zip types)) :=
    fun types length => bindAll_named (List.map_fst_zip (Nat.le_of_eq length.symm)) place
  unfold bindSpec
  dsimp only
  split
  · exact binds _ (List.length_map _)
  · exact performs_after (resolver.assignedTypes_looks _ _)
      (fun _ _ _ => assignedTypes_length) binds

theorem bindRange_performs (node : Node) (place : Nat) :
    resolver.Performs [.declare (listNames resolver.source (node.child? .left)) place]
      (resolver.bindRange node) := by
  have firsts := List.zipIdx_map_fst 0 (listItems (node.child? .left))
  unfold bindRange
  split
  · refine performs_after (resolver.infer_looks _) (fun _ _ _ _ => trivial) fun type _ => ?_
    refine performs_after (looks_pure _) (fun _ _ _ _ => trivial) fun element _ => ?_
    refine bindAll_named ?_ place
    conv_rhs => rw [listNames, ← firsts, List.map_map]
    rw [List.map_map]
    rfl
  · refine performs_after (looks_pure _) (fun _ _ _ _ => trivial) fun element _ => ?_
    refine bindAll_named ?_ place
    conv_rhs => rw [listNames, ← firsts, List.map_map]
    rw [List.map_map]
    rfl

/-! Single names -/

section
variable {shape : Shape} {field qualifier path name : String} {type : Option GoType}
  {operand : Node}

theorem used_alone {other : Bool} (used : UsedAfter resolver.source [.use node isOperand] use other
    hidden) : use = node ∧ other = isOperand ∧ hidden = [] := by
  cases used with
  | use => exact ⟨rfl, rfl, rfl⟩
  | later _ used => cases used

/-- Nothing is entered for a name that is not free. -/
theorem Performed.unfree (performed : resolver.Performed [] before after)
    (unfree : ¬resolver.Free before.scopes [] node isOperand) :
    resolver.Performed [.use node isOperand] before after := by
  refine ⟨performed.loaded, performed.bound, fun _ => ?_⟩
  obtain ⟨found, entered, names⟩ := performed.entered fun _ => rfl
  refine ⟨found, entered, ?_, ?_⟩
  · intro finding member name decl shape same
    obtain ⟨_, _, _, used, _⟩ := names.sound finding member name decl shape same
    cases used
  · intro use other hidden used free
    obtain ⟨rfl, rfl, rfl⟩ := used_alone used
    exact absurd free unfree

theorem performed_answered (loaded : Loaded before.cache after.cache)
    (same : after.scopes = before.scopes)
    (entered : after.symbols = found.foldl SymbolTable.note before.symbols)
    (unnamed : Unnamed found)
    (answered : resolver.answer? after.cache (resolver.text node) = some none) :
    resolver.Performed [.use node isOperand] before after := by
  refine ⟨loaded, ⟨[], rfl, same⟩, fun _ => ⟨found, entered, ?_, ?_⟩⟩
  · intro finding member name decl shape same
    rw [unnamed finding member name shape] at same
    cases same
  · intro use other hidden used _
    obtain ⟨rfl, _, _⟩ := used_alone used
    exact ⟨none, answered, by simp⟩

theorem performed_naming (loaded : Loaded before.cache after.cache)
    (same : after.scopes = before.scopes)
    (entered : after.symbols = before.symbols.note (resolver.naming node decl))
    (free : resolver.Free before.scopes [] node isOperand)
    (answered : resolver.answer? after.cache (resolver.text node) = some (some decl)) :
    resolver.Performed [.use node isOperand] before after := by
  refine ⟨loaded, ⟨[], rfl, same⟩, fun _ => ⟨[resolver.naming node decl], entered, ?_, ?_⟩⟩
  · intro finding member name other shape same
    cases List.mem_singleton.mp member
    cases same
    exact ⟨node, isOperand, [], .use _ _ _, free, answered, rfl⟩
  · intro use other hidden used _
    obtain ⟨rfl, _, _⟩ := used_alone used
    refine ⟨some decl, answered, fun other same => ?_⟩
    cases same
    exact List.mem_singleton_self _

theorem runFrom_recordFunction (node : Node) (shape : Shape) (decl : Declaration) :
    runFrom (resolver.recordFunction node shape decl) memory =
      (.ok ⟨⟩, { memory with
        symbols := memory.symbols.note ⟨resolver.siteOf node shape, some decl⟩ }) := rfl

theorem runFrom_recordValue (node : Node) (shape : Shape) :
    runFrom (resolver.recordValue node shape) memory =
      (.ok ⟨⟩, { memory with
        symbols := memory.symbols.note ⟨resolver.siteOf node shape, none⟩ }) := rfl

/-- Records what a name stands for, unless it is bound. -/
theorem resolveName_performs
    (plain : isOperand = true → resolver.context.importPath? (resolver.text node) = none ∧
      resolver.index.hasType (resolver.text node) = false) :
    resolver.Performs [.use node isOperand] (resolver.resolveName node) := by
  intro memory
  unfold resolveName
  refine ends_bind_of_ok (runFrom_isLocal _ memory) ?_
  split
  · rename_i blankOrBound
    apply ends_pure
    rw [Bool.or_eq_true, decide_eq_true_eq, found_iff] at blankOrBound
    rcases blankOrBound with blank | bound
    · have answered := resolver.answer?_blank memory.cache
      rw [← blank] at answered
      exact performed_answered (Std.Refl.refl _) rfl rfl unnamed_nil answered
    · exact (performed_other (Std.Refl.refl _) rfl rfl unnamed_nil).unfree
        fun free => free.unbound bound
  · rename_i neither
    rw [Bool.or_eq_true, decide_eq_true_eq, found_iff, not_or] at neither
    obtain ⟨notBlank, unbound⟩ := neither
    have free : resolver.Free memory.scopes [] node isOperand := ⟨unbound, by simp, plain⟩
    split
    · rename_i decl here
      have answered := answer?_function notBlank here memory.cache
      exact ends_of_ok (runFrom_recordFunction ..)
        (performed_naming (Std.Refl.refl _) rfl rfl free answered)
    · rename_i absent
      split
      · rename_i isValue
        have answered := answer?_value notBlank absent isValue memory.cache
        exact ends_of_ok (runFrom_recordValue ..)
          (performed_answered (Std.Refl.refl _) rfl rfl (unnamed_value _) answered)
      · rename_i noValue
        apply ends_bind
        refine ends_looks (resolver.dotFunction_looks _) fun found middle ran kept stays => ?_
        have answered := answer?_dot notBlank absent noValue middle.cache
        rw [dotFunctionIn_answers ran] at answered
        split
        · rename_i decl
          refine ends_of_ok (runFrom_recordFunction ..) ?_
          refine performed_naming kept.loaded stays ?_ free answered
          change middle.symbols.note (resolver.naming node decl) = _
          rw [kept.symbols_eq]
        · have entered : middle.symbols = [].foldl SymbolTable.note memory.symbols :=
            kept.symbols_eq
          exact ends_pure (performed_answered kept.loaded stays entered unnamed_nil answered)

/-! Names behind others -/

theorem performs_nothing {α : Type} (value : α) : resolver.Performs [] (pure value) :=
  performs_looks (looks_pure value)

theorem recordFunction_performs (other : ∀ name, shape ≠ .ident name) :
    resolver.Performs [] (resolver.recordFunction node shape decl) := by
  intro memory
  have unnamed : Unnamed [⟨resolver.siteOf node shape, some decl⟩] := by
    intro finding member name same
    cases List.mem_singleton.mp member
    exact absurd same (other name)
  exact ends_of_ok (runFrom_recordFunction ..)
    (performed_other (Std.Refl.refl _) rfl rfl unnamed)

theorem recordValue_performs : resolver.Performs [] (resolver.recordValue node shape) := by
  intro memory
  exact ends_of_ok (runFrom_recordValue ..)
    (performed_other (Std.Refl.refl _) rfl rfl (unnamed_value _))

theorem resolveQualified_performs :
    resolver.Performs [] (resolver.resolveQualified node qualifier path name) := by
  have other : ∀ bare, Shape.qualified qualifier name ≠ .ident bare := by simp
  unfold resolveQualified
  refine performs_after (resolver.package_looks path) (fun _ _ _ _ => trivial) fun index _ => ?_
  split
  · exact performs_nothing _
  · split
    · exact recordFunction_performs other
    · split
      · exact recordValue_performs
      · exact performs_nothing _

theorem resolveMethod_performs :
    resolver.Performs [] (resolver.resolveMethod node operand name type) := by
  unfold resolveMethod
  split
  · exact performs_nothing _
  · refine performs_after (resolver.methodOf_looks _ _) (fun _ _ _ _ => trivial) fun found _ => ?_
    split
    · exact recordFunction_performs (by simp)
    · exact performs_nothing _

theorem resolveNameSelector_performs :
    resolver.Performs [.use operand true] (resolver.resolveNameSelector node operand name) := by
  have unfree : ∀ {α : Type} {action : ResolveM α} {memory : WalkMemory},
      resolver.Performs [] action → ¬resolver.Free memory.scopes [] operand true →
        Ends (fun _ after => resolver.Performed [.use operand true] memory after)
          (fun after => Widened memory.scopes after.scopes) action memory :=
    fun performs unfree =>
      (performs _).imp (fun _ _ performed => performed.unfree unfree) fun _ => id
  intro memory
  unfold resolveNameSelector
  refine ends_bind_of_ok (runFrom_local? _ memory) ?_
  split
  · rename_i type found
    refine unfree resolveMethod_performs fun free => free.unbound ?_
    exact found_iff.mp (by rw [found]; rfl)
  · split
    · rename_i path isImport
      refine unfree resolveQualified_performs fun free => ?_
      rw [(free.operand rfl).1] at isImport
      cases isImport
    · rename_i noImport
      split
      · rename_i isType
        have typed : ¬resolver.Free memory.scopes [] operand true := by
          intro free
          rw [(free.operand rfl).2] at isType
          cases isType
        split
        · exact unfree (recordFunction_performs (by simp [methodExpression])) typed
        · exact unfree (performs_nothing _) typed
      · rename_i noType
        have plain : true = true →
            resolver.context.importPath? (resolver.text operand) = none ∧
              resolver.index.hasType (resolver.text operand) = false :=
          fun _ => ⟨noImport, by simpa using noType⟩
        exact performs_bind (resolveName_performs plain) (fun _ => resolveMethod_performs) memory

end

/-! Parts -/

theorem usedAfter_part_iff : UsedAfter resolver.source [.part child] use isOperand hidden ↔
    UsedAfter resolver.source (Scoping.pieces resolver.source child) use isOperand hidden := by
  refine ⟨fun used => ?_, fun used => .inside [] used⟩
  cases used with
  | inside _ used => exact used
  | later _ used => cases used

theorem Names.part {inner : List Scope}
    (names : resolver.Names (Scoping.pieces resolver.source child) inner cache found)
    (same : ∀ name, Bound inner name ↔ Bound scopes name) :
    resolver.Names [.part child] scopes cache found := by
  have free : ∀ use isOperand hidden, resolver.Free inner hidden use isOperand ↔
      resolver.Free scopes hidden use isOperand := fun _ _ _ =>
    ⟨fun free => ⟨fun bound => free.unbound ((same _).mpr bound), free.unhidden, free.operand⟩,
      fun free => ⟨fun bound => free.unbound ((same _).mp bound), free.unhidden, free.operand⟩⟩
  constructor
  · intro finding member name decl shape same
    obtain ⟨use, isOperand, hidden, used, isFree, rest⟩ :=
      names.sound finding member name decl shape same
    exact ⟨use, isOperand, hidden, usedAfter_part_iff.mpr used, (free ..).mp isFree, rest⟩
  · intro use isOperand hidden used isFree
    exact names.complete use isOperand hidden (usedAfter_part_iff.mp used) ((free ..).mpr isFree)

/-- The names of a part count in the block around it, unless it is a block by itself. -/
theorem declaredNames_part (source : String) (child : Node) :
    declaredNames source [.part child] =
      if isBlock child then [] else declaredNames source (Scoping.pieces source child) := by
  simp only [declaredNames, List.flatMap_singleton, Piece.declared, declared_eq]
  split <;> rfl

theorem performs_part {action : ResolveM Unit} (noBlock : isBlock child = false)
    (performs : resolver.Performs (Scoping.pieces resolver.source child) action) :
    resolver.Performs [.part child] action := by
  have same : declaredNames resolver.source [.part child] =
      declaredNames resolver.source (Scoping.pieces resolver.source child) := by
    rw [declaredNames_part, noBlock]
    rfl
  intro memory
  refine (performs memory).imp (fun _ after performed => ?_) fun _ => id
  refine ⟨performed.loaded, same ▸ performed.bound, fun hosted => ?_⟩
  obtain ⟨found, entered, names⟩ := performed.entered (same ▸ hosted)
  exact ⟨found, entered, names.part fun _ => Iff.rfl⟩

/-- A walk in a scope of its own binds nothing around it. -/
theorem performs_block {action : ResolveM Unit} (block : isBlock child = true)
    (performs : resolver.Performs (Scoping.pieces resolver.source child) action) :
    resolver.Performs [.part child] (inScope action) := by
  intro memory
  have ends := performs { memory with scopes := [] :: memory.scopes }
  refine ends_of_ran (runFrom_inScope action memory) (fun value same => ?_) fun cause same => ?_
  · -- The scope of its own goes with the names that it got, and the others were left alone.
    have performed := ends.of_ok (Prod.ext same rfl)
    obtain ⟨bound, _, scopes⟩ := performed.bound
    obtain ⟨found, entered, names⟩ := performed.entered fun none =>
      absurd none (List.cons_ne_nil _ _)
    refine ⟨performed.loaded, ⟨[], ?_, ?_⟩, fun _ => ⟨found, entered, names.part ?_⟩⟩
    · rw [declaredNames_part, block]
      rfl
    · exact (congrArg List.tail scopes).trans (bindEach_tail ..)
    · exact fun _ => bound_empty_iff
  · obtain ⟨bound, scopes⟩ := ends.of_error (Prod.ext same rfl)
    exact ⟨[], (congrArg List.tail scopes).trans (bindEach_tail ..)⟩

/-! The walk -/

theorem declare_performs {names : List String} {place : Nat}
    (member : .declare names place ∈ Scoping.pieces resolver.source node) :
    resolver.Performs [.declare names place] (resolver.carryOut (.declare node)) := by
  rw [carryOut]
  cases declares_of_mem member with
  | parameters kinds =>
      rw [← bindParameters_declares resolver kinds]
      exact bindParameters_performs node _
  | assigned kind =>
      rw [← bindShortVar_declares resolver kind]
      exact bindShortVar_performs node _
  | spec kinds =>
      rw [← bindSpec_declares resolver kinds]
      exact bindSpec_performs node _
  | clause kinds =>
      rcases kinds with kind | kind
      · rw [← bindRange_declares resolver kind]
        exact bindRange_performs node _
      · rw [← bindUntyped_declares resolver kind]
        exact bindUntyped_performs _ _
  | guard kind =>
      rw [← bindAlias_declares resolver kind]
      exact bindUntyped_performs _ _

theorem use_performs (member : .use use isOperand ∈ Scoping.pieces resolver.source node) :
    resolver.Performs [.use use isOperand] (resolver.refer node) := by
  cases refers_of_mem member with
  | bare kind =>
      rw [refer, kind]
      exact resolveName_performs fun isOperand => absurd isOperand Bool.false_ne_true
  | operand kind found fieldFound isName =>
      rw [refer_name resolver ⟨kind, found, fieldFound⟩ isName]
      exact resolveNameSelector_performs

/-- Nothing is declared or used anew by what a selector behind an expression is. -/
theorem behind_performs (resolver : Resolver) (node : Node) : resolver.Performs []
    (resolver.carry (if isBehindExpression node then [.refer node] else [])) := by
  split
  · rename_i behind
    obtain ⟨operand, field, isSelector, noName⟩ := isBehindExpression_iff.mp behind
    rw [carry_cons, carryOut, refer_expression resolver isSelector noName]
    exact performs_bind (performs_after (resolver.infer_looks operand) (fun _ _ _ _ => trivial)
      fun _ _ => resolveMethod_performs) fun _ => performs_nothing _
  · exact performs_nothing _

section
variable (walked : ∀ child, .part child ∈ Scoping.pieces resolver.source node →
  resolver.Performs [.part child] (resolver.walk child))
include walked

/-- The steps at some pieces perform them. The induction is over the pieces. -/
theorem carry_performs (among : pieces ⊆ Scoping.pieces resolver.source node) :
    resolver.Performs pieces (resolver.carry (pieces.map (stepAt node))) := by
  induction pieces with
  | nil => exact performs_nothing _
  | cons piece rest ih =>
      obtain ⟨isPiece, others⟩ := List.cons_subset.mp among
      have first : resolver.Performs [piece] (resolver.carryOut (stepAt node piece)) := by
        cases piece with
        | part child => exact walked child isPiece
        | declare names place => exact declare_performs isPiece
        | use name isOperand => exact use_performs isPiece
      exact performs_bind first fun _ => ih others

theorem steps_performs : resolver.Performs (Scoping.pieces resolver.source node)
    (resolver.carry (steps resolver.source node)) := by
  have performs := performs_bind (carry_performs walked (List.Subset.refl _)) fun _ =>
    behind_performs resolver node
  rw [List.append_nil, ← carry_append] at performs
  exact performs

end

/-- A walk of a node performs it. -/
theorem walk_performs (resolver : Resolver) (node : Node) :
    resolver.Performs [.part node] (resolver.walk node) := by
  have performs : resolver.Performs (Scoping.pieces resolver.source node)
      (resolver.carry (steps resolver.source node)) :=
    steps_performs fun child isPart => walk_performs resolver child
  rw [walk_eq_steps, aroundBlock]
  split
  · exact performs_block ‹_› performs
  · exact performs_part (eq_false_of_ne_true ‹_›) performs
termination_by sizeOf node
decreasing_by exact sizeOf_part_lt isPart

end
end AspectLoom.Resolver
