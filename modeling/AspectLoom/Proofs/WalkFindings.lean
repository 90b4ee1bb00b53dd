import AspectLoom.Proofs.Findings
import AspectLoom.Proofs.WalkSteps
/-!
Every walk enters a list of findings in the symbol table and does nothing else to it. Each finding
has a form that fits its declaration, and in a laid tree the sites are gathered node by node.
-/
namespace AspectLoom

open Actions PackageCache Scoping
open Syntax (Node)

/-- Whether a reference of some form can be one to a declaration. -/
def Shape.Suits (shape : Shape) (decl : Declaration) : Prop :=
  match shape with
  | .ident _ | .qualified .. => decl.receiver = none
  | .selector .. => decl.receiver ≠ none
  | .unsupported _ => True

/-- Whether a finding is one that a walk can make with a cache. -/
def Finding.Holds (finding : Finding) (cache : PackageCache) : Prop :=
  ∀ decl, finding.decl = some decl → finding.site.shape.Suits decl ∧ decl.KnownIn cache

theorem Finding.holds_loaded {finding : Finding} {before after : PackageCache}
    (holds : finding.Holds before) (loaded : Loaded before after) : finding.Holds after :=
  fun decl same =>
    ⟨(holds decl same).1, Declaration.knownIn_loaded (holds decl same).2 loaded⟩

namespace Resolver

variable {resolver : Resolver}

/-- Between two memories nothing but findings for which a rule holds have been entered. -/
def Entered (rule : List Finding → Prop) (before after : WalkMemory) : Prop :=
  ∃ found, after.symbols = found.foldl SymbolTable.note before.symbols ∧
    Loaded before.cache after.cache ∧ (∀ finding ∈ found, finding.Holds after.cache) ∧ rule found

/-- Every run that succeeds enters findings for which a rule holds. -/
def Finds {α : Type} (resolver : Resolver) (rule : List Finding → Prop) (action : ResolveM α) :
    Prop :=
  ∀ memory value after, resolver.Ready memory.cache →
    runFrom action memory = (.ok value, after) → Entered rule memory after

section
variable {α β : Type} {rule left right : List Finding → Prop} {action : ResolveM α}
  {next : α → ResolveM β} {memory : WalkMemory}

theorem entered_nothing (nothing : rule []) : Entered rule memory memory :=
  ⟨[], rfl, Std.Refl.refl _, List.forall_mem_nil _, nothing⟩

theorem finds_quiet (quiet : Quiet action) (nothing : rule []) : resolver.Finds rule action := by
  intro memory value after _ ran
  have kept := quiet _ _ _ ran
  exact ⟨[], kept.symbols_eq, kept.loaded, List.forall_mem_nil _, nothing⟩

theorem finds_mono (finds : resolver.Finds left action) (weaker : ∀ found, left found → rule found) :
    resolver.Finds rule action := by
  intro memory value after ready ran
  obtain ⟨found, entered, loaded, holds, ruled⟩ := finds _ _ _ ready ran
  exact ⟨found, entered, loaded, holds, weaker found ruled⟩

theorem Entered.loaded {before after : WalkMemory} (entered : Entered rule before after) :
    Loaded before.cache after.cache := by
  obtain ⟨_, _, loaded, _⟩ := entered
  exact loaded

theorem entered_append {first second third : WalkMemory} (begins : Entered left first second)
    (goesOn : Entered right second third)
    (joins : ∀ found later, left found → right later → rule (found ++ later)) :
    Entered rule first third := by
  obtain ⟨found, entered, loaded, holds, ruled⟩ := begins
  obtain ⟨later, laterEntered, laterLoaded, laterHolds, laterRuled⟩ := goesOn
  refine ⟨found ++ later, ?_, loaded.trans laterLoaded, ?_, joins _ _ ruled laterRuled⟩
  · rw [laterEntered, entered, List.foldl_append]
  · refine List.forall_mem_append.mpr ⟨?_, laterHolds⟩
    exact fun finding member => Finding.holds_loaded (holds finding member) laterLoaded

theorem finds_bind (first : resolver.Finds left action)
    (second : ∀ value, resolver.Finds right (next value))
    (joins : ∀ found later, left found → right later → rule (found ++ later)) :
    resolver.Finds rule (action >>= next) := by
  intro memory result after ready ran
  obtain ⟨value, middle, firstRan, ran⟩ := runFrom_bind_ok ran
  have entered := first _ _ _ ready firstRan
  exact entered_append entered (second value _ _ _ (ready_loaded ready entered.loaded) ran) joins

/-- After a lookup what it tells is known. -/
theorem finds_lookup {fact : α → PackageCache → Prop} (quiet : Quiet action)
    (tells : resolver.Tells action fact)
    (second : ∀ value memory result after, resolver.Ready memory.cache → fact value memory.cache →
      runFrom (next value) memory = (.ok result, after) → Entered rule memory after) :
    resolver.Finds rule (action >>= next) := by
  intro memory result after ready ran
  obtain ⟨value, middle, firstRan, ran⟩ := runFrom_bind_ok ran
  have kept := quiet _ _ _ firstRan
  obtain ⟨found, entered, loaded, holds, ruled⟩ := second value middle _ _
    (ready_loaded ready kept.loaded) (tells _ _ _ ready firstRan) ran
  exact ⟨found, kept.symbols_eq ▸ entered, kept.loaded.trans loaded, holds, ruled⟩

/-- A quiet beginning adds nothing. -/
theorem finds_after (quiet : Quiet action) (second : ∀ value, resolver.Finds rule (next value)) :
    resolver.Finds rule (action >>= next) :=
  have tells : resolver.Tells action fun _ _ => True := fun _ _ _ _ _ => trivial
  finds_lookup quiet tells fun value _ _ _ ready _ ran => second value _ _ _ ready ran

/-- A quiet end adds nothing. -/
theorem finds_before (first : resolver.Finds rule action) (quiet : ∀ value, Quiet (next value)) :
    resolver.Finds rule (action >>= next) := by
  have quietly : ∀ value, resolver.Finds (· = []) (next value) :=
    fun value => finds_quiet (quiet value) rfl
  refine finds_bind first quietly ?_
  rintro found _ ruled rfl
  rwa [List.append_nil]

theorem runFrom_inScope (walk : ResolveM Unit) (memory : WalkMemory) :
    runFrom (inScope walk) memory =
      ((runFrom walk { memory with scopes := [] :: memory.scopes }).1,
        { (runFrom walk { memory with scopes := [] :: memory.scopes }).2 with
          scopes := (runFrom walk { memory with scopes := [] :: memory.scopes }).2.scopes.tail }) := rfl

theorem finds_inScope {walk : ResolveM Unit} (finds : resolver.Finds rule walk) :
    resolver.Finds rule (inScope walk) := by
  intro memory value after ready ran
  rcases inner : runFrom walk { memory with scopes := [] :: memory.scopes } with ⟨outcome, middle⟩
  rw [runFrom_inScope, inner] at ran
  cases ran
  exact finds { memory with scopes := [] :: memory.scopes } _ middle ready inner

end

/-! Single references -/

/-- At most the site of one node, in a form of some kind. -/
def AtMost (resolver : Resolver) (node : Node) (form : Shape → Prop) (found : List Finding) :
    Prop :=
  found = [] ∨ ∃ shape decl, form shape ∧ found = [⟨resolver.siteOf node shape, decl⟩]

/-- A form without an operand. -/
def IsPlain (shape : Shape) : Prop := ∀ operand name type, shape ≠ .selector operand name type

/-- A method behind an operand. -/
def IsMethod (operand : Node) (shape : Shape) : Prop :=
  ∃ name type, shape = .selector operand.span name type

section
variable {memory after : WalkMemory} {node : Node} {form : Shape → Prop} {shape : Shape}
  {decl : Declaration} {value : Unit}

theorem entered_none (ran : runFrom (pure () : ResolveM Unit) memory = (.ok value, after)) :
    Entered (resolver.AtMost node form) memory after := by
  cases ran
  exact entered_nothing (.inl rfl)

theorem entered_function
    (ran : runFrom (resolver.recordFunction node shape decl) memory = (.ok value, after))
    (formed : form shape) (suits : shape.Suits decl) (known : decl.KnownIn memory.cache) :
    Entered (resolver.AtMost node form) memory after := by
  cases ran
  refine ⟨_, rfl, Std.Refl.refl _, ?_, .inr ⟨shape, some decl, formed, rfl⟩⟩
  intro finding member
  cases List.mem_singleton.mp member
  rintro _ ⟨⟩
  exact ⟨suits, known⟩

theorem entered_value (ran : runFrom (resolver.recordValue node shape) memory = (.ok value, after))
    (formed : form shape) : Entered (resolver.AtMost node form) memory after := by
  cases ran
  refine ⟨_, rfl, Std.Refl.refl _, ?_, .inr ⟨shape, none, formed, rfl⟩⟩
  intro finding member
  cases List.mem_singleton.mp member
  rintro _ ⟨⟩

end

theorem resolveName_finds (node : Node) :
    resolver.Finds (resolver.AtMost node IsPlain) (resolver.resolveName node) := by
  have plain : IsPlain (.ident (resolver.text node)) := fun _ _ _ same => by cases same
  unfold resolveName
  apply finds_after (isLocal_looks _).quiet
  intro hidden
  split
  · exact finds_quiet (steps_pure _) (.inl rfl)
  · split
    · rename_i decl found
      intro memory value after ready ran
      obtain ⟨function, known⟩ := function_known ready.sound ready.own found
      exact entered_function ran plain function known
    · split
      · intro memory value after _ ran
        exact entered_value ran plain
      · apply finds_lookup (resolver.dotFunction_looks _).quiet (resolver.dotFunction_tells _)
        intro found memory value after _ tells ran
        split at ran
        · obtain ⟨function, known⟩ := tells _ rfl
          exact entered_function ran plain function known
        · exact entered_none ran

theorem resolveQualified_finds (node : Node) (qualifier path name : String) :
    resolver.Finds (resolver.AtMost node IsPlain)
      (resolver.resolveQualified node qualifier path name) := by
  have plain : IsPlain (.qualified qualifier name) := fun _ _ _ same => by cases same
  unfold resolveQualified
  apply finds_lookup (resolver.package_looks path).quiet (resolver.package_tells path)
  intro found memory value after ready given ran
  split at ran
  · exact entered_none ran
  · rename_i index
    split at ran
    · rename_i decl here
      obtain ⟨function, known⟩ := function_known ready.sound (given index rfl) here
      exact entered_function ran plain function known
    · split at ran
      · exact entered_value ran plain
      · exact entered_none ran

theorem resolveMethod_finds (node operand : Node) (name : String) (type : Option GoType) :
    resolver.Finds (resolver.AtMost node (IsMethod operand))
      (resolver.resolveMethod node operand name type) := by
  unfold resolveMethod
  split
  · exact finds_quiet (steps_pure _) (.inl rfl)
  · rename_i type
    apply finds_lookup (resolver.methodOf_looks type name).quiet (resolver.methodOf_tells type name)
    intro found memory value after _ tells ran
    split at ran
    · rename_i decl
      have method := tells decl rfl
      exact entered_function ran ⟨name, type, rfl⟩ method fun function => absurd function method
    · exact entered_none ran

/-- A method expression, which has no operand that could be woven. -/
theorem resolveTypeMethod_finds (node : Node) (type name : String) :
    resolver.Finds (resolver.AtMost node IsPlain)
      (match resolver.index.method? type name with
        | some decl => resolver.recordFunction node methodExpression decl
        | none => pure ()) := by
  split
  · rename_i decl found
    intro memory value after ready ran
    have method := PackageIndex.declares_method (ready.sound _ _ ready.own) found
    exact entered_function ran (fun _ _ _ same => by cases same) trivial
      fun function => absurd function method
  · exact finds_quiet (steps_pure _) (.inl rfl)

/-! Sites in laid trees -/

/-- Under some condition the sites are gathered in nodes. -/
def Under (resolver : Resolver) (condition : Prop) (nodes : List Node) (found : List Finding) :
    Prop :=
  condition → Gathered resolver.unit.id nodes (found.map Finding.site)

section
variable {node operand field : Node} {found later : List Finding} {shape : Shape}

theorem plain_sized (plain : IsPlain shape) (filled : node.start < node.stop) :
    (resolver.siteOf node shape).Sized :=
  ⟨filled, fun operand name type same => absurd same (plain operand name type)⟩

theorem plain_gathered (filled : node.start < node.stop)
    (most : resolver.AtMost node IsPlain found) :
    Gathered resolver.unit.id [node] (found.map Finding.site) := by
  obtain rfl | ⟨shape, decl, plain, rfl⟩ := most
  · exact .nil
  · exact .single rfl (plain_sized plain filled) rfl

theorem selector_filled (laid : node.Laid) (isField : node.child? .field = some field) :
    node.start < node.stop := by
  have member := Node.mem_of_child? isField
  have filled := (Node.laid_arranged (Node.laid_children laid member)).filled
    (.inr (Node.child?_label isField))
  have inside := Node.laid_inside laid member
  omega

/-- The field behind an operand is text that the operand does not hold. -/
theorem method_sized (laid : node.Laid) (isOperand : node.child? .operand = some operand)
    (isField : node.child? .field = some field) (method : IsMethod operand shape) :
    (resolver.siteOf node shape).Sized := by
  refine ⟨selector_filled laid isField, ?_⟩
  intro span name type same
  obtain ⟨_, _, rfl⟩ := method
  cases same
  have member := Node.mem_of_child? isOperand
  refine ⟨(Node.laid_arranged (Node.laid_children laid member)).ordered,
    (Node.laid_arranged laid).inside operand member, ?_⟩
  intro whole
  have fieldMember := Node.mem_of_child? isField
  have filled := (Node.laid_arranged (Node.laid_children laid fieldMember)).filled
    (.inr (Node.child?_label isField))
  have inside := Node.laid_inside laid fieldMember
  have starts : operand.start = node.start := congrArg Span.start whole
  have stops : operand.stop = node.stop := congrArg Span.stop whole
  rcases Node.laid_parts laid isOperand isField (by decide) with before | behind
  · change operand.stop ≤ field.start at before
    omega
  · change field.stop ≤ operand.start at behind
    omega

theorem selector_gathered (laid : node.Laid) (isOperand : node.child? .operand = some operand)
    (isField : node.child? .field = some field)
    (gathered : Gathered resolver.unit.id [operand] (found.map Finding.site))
    (most : resolver.AtMost node (IsMethod operand) later) :
    Gathered resolver.unit.id [node] ((found ++ later).map Finding.site) := by
  obtain rfl | ⟨shape, decl, method, rfl⟩ := most
  · rw [List.append_nil]
    apply gathered.mono
    intro other member
    cases List.mem_singleton.mp member
    exact ⟨node, List.mem_singleton_self _,
      (Node.laid_arranged laid).inside operand (Node.mem_of_child? isOperand)⟩
  · obtain ⟨name, type, same⟩ := id method
    rw [List.map_append]
    exact gathered.behind rfl (method_sized laid isOperand isField method) rfl same

end

/-- A selector behind a name. -/
theorem resolveNameSelector_finds {node operand field : Node} (name : String)
    (isOperand : node.child? .operand = some operand) (isField : node.child? .field = some field)
    (isName : operand.kind = .identifier) :
    resolver.Finds (resolver.Under node.Laid [node])
      (resolver.resolveNameSelector node operand name) := by
  have alone : ∀ found, resolver.AtMost node IsPlain found →
      resolver.Under node.Laid [node] found :=
    fun found most laid => plain_gathered (selector_filled laid isField) most
  have nothing : Gathered resolver.unit.id [operand] (([] : List Finding).map Finding.site) := .nil
  have method : ∀ type, resolver.Finds (resolver.Under node.Laid [node])
      (resolver.resolveMethod node operand name type) :=
    fun type => finds_mono (resolver.resolveMethod_finds node operand name type)
      fun found most laid => selector_gathered laid isOperand isField nothing most
  unfold resolveNameSelector
  apply finds_after (local?_looks _).quiet
  intro found
  split
  · exact method _
  · split
    · exact finds_mono (resolveQualified_finds _ _ _ _) alone
    · split
      · exact finds_mono (resolveTypeMethod_finds _ _ _) alone
      · refine finds_bind (resolveName_finds operand)
          (fun _ => resolveMethod_finds node operand name _) ?_
        intro found later most methodMost laid
        have filled := (Node.laid_arranged (Node.laid_children laid
          (Node.mem_of_child? isOperand))).filled (.inl isName)
        exact selector_gathered laid isOperand isField (plain_gathered filled most) methodMost

/-! Nodes one after the other -/

/-- Nodes that follow each other in a laid tree. -/
structure InLine (nodes : List Node) : Prop where
  laid : ∀ node ∈ nodes, node.Laid
  apart : nodes.Pairwise fun left right => left.stop ≤ right.start

theorem inLine_children {node : Node} (laid : node.Laid) : InLine node.children :=
  ⟨fun _ => Node.laid_children laid, (Node.laid_arranged laid).apart⟩

theorem inLine_rest {node : Node} {rest : List Node} (line : InLine (node :: rest)) :
    InLine rest :=
  ⟨fun other member => line.laid other (List.mem_cons_of_mem _ member),
    (List.pairwise_cons.mp line.apart).2⟩

theorem under_nothing {condition : Prop} {nodes : List Node} :
    resolver.Under condition nodes [] := fun _ => .nil

section
variable {α β : Type} {action : ResolveM α} {next : α → ResolveM β} {condition other : Prop}
  {nodes more : List Node}

/-- What is found in nodes is found in the nodes that hold them. -/
theorem finds_inside (finds : resolver.Finds (resolver.Under condition nodes) action)
    (weaker : other → condition)
    (covered : other → ∀ node ∈ nodes, ∃ outer ∈ more, outer.span.contains node.span = true) :
    resolver.Finds (resolver.Under other more) action :=
  finds_mono finds fun _ under given => (under (weaker given)).mono (covered given)

/-- Two walks one after the other, in nodes that are apart. -/
theorem finds_both (first : resolver.Finds (resolver.Under condition nodes) action)
    (second : ∀ value, resolver.Finds (resolver.Under condition more) (next value))
    (apart : condition → ∀ node ∈ nodes, ∀ other ∈ more, node.span.Apart other.span) :
    resolver.Finds (resolver.Under condition (nodes ++ more)) (action >>= next) := by
  refine finds_bind first second ?_
  intro found later under laterUnder given
  rw [List.map_append]
  exact (under given).append (laterUnder given) (apart given)

end

/-- Parts of a node lie in it. -/
theorem finds_parts {action : ResolveM Unit} {node : Node} {nodes : List Node}
    (children : ∀ child ∈ nodes, child ∈ node.children)
    (finds : resolver.Finds (resolver.Under node.Laid nodes) action) :
    resolver.Finds (resolver.Under node.Laid [node]) action :=
  finds_inside finds id fun laid child member =>
    ⟨node, List.mem_singleton_self _, (Node.laid_arranged laid).inside child (children child member)⟩

theorem part_children {node : Node} {label : Syntax.Label} :
    ∀ child ∈ (node.child? label).toList, child ∈ node.children := by
  intro child member
  exact Node.mem_of_child? (Option.mem_toList.mp member)

section
variable {action tail : ResolveM Unit} {node : Node} {rest kept : List Node}

theorem finds_head (among : kept ⊆ rest)
    (first : resolver.Finds (resolver.Under node.Laid [node]) action)
    (second : resolver.Finds (resolver.Under (InLine rest) kept) tail) :
    resolver.Finds (resolver.Under (InLine (node :: rest)) (node :: kept))
      (action >>= fun _ => tail) := by
  have head : resolver.Finds (resolver.Under (InLine (node :: rest)) [node]) action :=
    finds_mono first fun _ under line => under (line.laid node List.mem_cons_self)
  have following : resolver.Finds (resolver.Under (InLine (node :: rest)) kept) tail :=
    finds_mono second fun _ under line => under (inLine_rest line)
  refine finds_both head (fun _ => following) ?_
  intro line other member later laterMember
  cases List.mem_singleton.mp member
  exact .inl ((List.pairwise_cons.mp line.apart).1 later (among laterMember))

theorem finds_rest {more : List Node} (among : kept ⊆ more)
    (second : resolver.Finds (resolver.Under (InLine rest) kept) tail) :
    resolver.Finds (resolver.Under (InLine (node :: rest)) more) tail :=
  finds_mono second fun _ under line => (under (inLine_rest line)).subset among

end

/-! Parts of a laid node -/

/-- The nodes among some pieces. -/
def partNodes (all : List Piece) : List Node :=
  all.filterMap fun
    | .part child => some child
    | _ => none

section
variable {node child : Node} {all : List Piece} {names : List String} {place : Nat}

theorem mem_partNodes_iff : child ∈ partNodes all ↔ .part child ∈ all := by
  rw [partNodes, List.mem_filterMap]
  constructor
  · rintro ⟨piece, member, same⟩
    cases piece <;> cases same
    exact member
  · exact fun member => ⟨_, member, rfl⟩

theorem partNodes_append (front back : List Piece) :
    partNodes (front ++ back) = partNodes front ++ partNodes back := List.filterMap_append

theorem partNodes_declare : partNodes (.declare names place :: all) = partNodes all := rfl

theorem partNodes_map (nodes : List Node) : partNodes (nodes.map .part) = nodes := by
  rw [partNodes, List.filterMap_map]
  exact List.filterMap_some

theorem partNodes_partAs (node : Node) (label : Syntax.Label) :
    partNodes (partAs node label) = (node.child? label).toList := partNodes_map _

theorem partNodes_elementParts (nodes : List Node) :
    (partNodes (elementParts nodes)).Sublist nodes := by
  have sublist : (partNodes (elementParts nodes)).Sublist
      (partNodes ((nodes.filter Node.isNamed).map .part)) :=
    (elementParts_sublist nodes).filterMap _
  rw [partNodes_map] at sublist
  exact sublist.trans List.filter_sublist

theorem sublist_apart {nodes : List Node} (laid : node.Laid) (sublist : nodes.Sublist node.children) :
    nodes.Pairwise fun left right => left.span.Apart right.span :=
  ((Node.laid_arranged laid).apart.sublist sublist).imp Or.inl

theorem part_apart {nodes : List Node} {label : Syntax.Label}
    (others : nodes.Pairwise fun left right => left.span.Apart right.span)
    (apart : ∀ part, node.child? label = some part → ∀ other ∈ nodes, part.span.Apart other.span) :
    ((node.child? label).toList ++ nodes).Pairwise fun left right => left.span.Apart right.span := by
  cases found : node.child? label with
  | none => exact others
  | some part => exact List.pairwise_cons.mpr ⟨apart part found, others⟩

theorem single_apart {label : Syntax.Label} :
    (node.child? label).toList.Pairwise fun left right => left.span.Apart right.span := by
  cases node.child? label with
  | none => exact .nil
  | some part => exact List.pairwise_singleton _ _

theorem labelled_apart {part other : Node} {label otherLabel : Syntax.Label} (laid : node.Laid)
    (different : label ≠ otherLabel) (found : node.child? label = some part)
    (member : other ∈ (node.child? otherLabel).toList) : part.span.Apart other.span :=
  Node.laid_parts laid found (Option.mem_toList.mp member) different

theorem cases_apart {part other : Node} {label : Syntax.Label} (laid : node.Laid)
    (found : node.child? label = some part) (member : other ∈ node.children.filter isCase) :
    part.span.Apart other.span := by
  obtain ⟨among, isOne⟩ := List.mem_filter.mp member
  apply Node.laid_apart laid (Node.mem_of_child? found) among
  rintro rfl
  have labelled := Node.child?_label found
  rw [(Node.laid_arranged laid).cases part among isOne] at labelled
  cases labelled

/-- The parts of a node are apart. -/
theorem parts_apart (source : String) (laid : node.Laid) :
    (partNodes (pieces source node)).Pairwise fun left right => left.span.Apart right.span := by
  have each : (partNodes (partsOf node.children)).Pairwise fun left right =>
      left.span.Apart right.span := by
    rw [partsOf, partNodes_map]
    exact sublist_apart laid List.filter_sublist
  unfold pieces
  split
  · exact .nil
  · split
    -- functions
    iterate 3
      rw [partNodes_declare, partNodes_partAs]
      exact single_apart
    · exact .nil
    · split
      · split
        · exact .nil
        · exact List.pairwise_singleton _ _
      · exact each
    · exact partNodes_partAs node .body ▸ single_apart
    · exact sublist_apart laid (partNodes_elementParts _)
    -- declarations behind a value
    iterate 3
      rw [partNodes_append, partNodes_partAs]
      exact part_apart .nil fun _ _ _ none => by cases none
    -- clauses
    iterate 2
      rw [partNodes_append, partNodes_partAs]
      split
      · exact part_apart .nil fun _ _ _ none => by cases none
      · rw [partNodes_partAs]
        exact part_apart single_apart fun _ found _ => labelled_apart laid (by decide) found
    · rw [List.append_assoc, partNodes_append, partNodes_append, partNodes_declare, partNodes_map,
        partNodes_partAs, partNodes_partAs]
      refine part_apart (part_apart (sublist_apart laid List.filter_sublist) ?_) ?_
      · exact fun _ found _ => cases_apart laid found
      · intro part found
        refine List.forall_mem_append.mpr ⟨fun _ => labelled_apart laid (by decide) found, ?_⟩
        exact fun _ => cases_apart laid found
    · exact each

end

/-! The walk -/

section
variable {node : Node}

/-- What a name or a selector refers to is found in it. -/
theorem refer_gathers (resolver : Resolver) (node : Node) :
    resolver.Finds (resolver.Under node.Laid [node]) (resolver.refer node) := by
  unfold refer
  split
  · rename_i isName
    refine finds_mono (resolveName_finds node) fun _ most laid => ?_
    exact plain_gathered ((Node.laid_arranged laid).filled (.inl isName)) most
  · split
    · rename_i operand field isOperand isField
      dsimp only
      split
      · exact resolveNameSelector_finds _ isOperand isField ‹_›
      · refine finds_after (resolver.infer_looks operand).quiet fun type => ?_
        refine finds_mono (resolveMethod_finds node operand _ type) fun _ most laid => ?_
        have nothing : Gathered resolver.unit.id [operand] (([] : List Finding).map Finding.site) :=
          .nil
        exact selector_gathered laid isOperand isField nothing most
    · exact finds_quiet (steps_pure _) under_nothing
  · exact finds_quiet (steps_pure _) under_nothing

theorem behind_gathers {operand field : Node} (isSelector : IsSelector node operand field)
    (noName : operand.kind ≠ .identifier)
    (walked : resolver.Finds (resolver.Under operand.Laid [operand]) (resolver.walk operand)) :
    resolver.Finds (resolver.Under node.Laid [node])
      (resolver.carry [.visit operand, .refer node]) := by
  have method : resolver.Finds (resolver.AtMost node (IsMethod operand))
      (resolver.carry [.refer node]) := by
    rw [carry_cons, carryOut, refer_expression resolver isSelector noName]
    exact finds_before (finds_after (resolver.infer_looks operand).quiet fun _ =>
      resolveMethod_finds node operand _ _) fun _ => steps_pure _
  rw [carry_cons]
  refine finds_bind walked (fun _ => method) fun found later under most laid => ?_
  exact selector_gathered laid isSelector.isOperand isSelector.isField
    (under (Node.laid_children laid (Node.mem_of_child? isSelector.isOperand))) most

/-- Steps at parts that are apart find what is in the parts. The induction is over the pieces, of
which none uses a name. -/
theorem carry_gathers {all : List Piece} (among : all ⊆ pieces resolver.source node)
    (unused : ∀ name isOperand, .use name isOperand ∉ all)
    (walked : ∀ child, .part child ∈ pieces resolver.source node →
      resolver.Finds (resolver.Under child.Laid [child]) (resolver.walk child))
    (apart : node.Laid → (partNodes all).Pairwise fun left right => left.span.Apart right.span) :
    resolver.Finds (resolver.Under node.Laid (partNodes all))
      (resolver.carry (all.map (stepAt node))) := by
  induction all with
  | nil => exact finds_quiet (steps_pure _) under_nothing
  | cons piece rest ih =>
      obtain ⟨isPiece, others⟩ := List.cons_subset.mp among
      have unusedRest : ∀ name isOperand, .use name isOperand ∉ rest :=
        fun name isOperand member => unused name isOperand (List.mem_cons_of_mem _ member)
      rw [List.map_cons, carry_cons]
      cases piece with
      | part child =>
          have first : resolver.Finds (resolver.Under node.Laid [child]) (resolver.walk child) :=
            finds_mono (walked child isPiece) fun _ under laid =>
              under (Node.laid_children laid (mem_children isPiece))
          refine finds_both first (fun _ => ih others unusedRest fun laid =>
            (List.pairwise_cons.mp (apart laid)).2) fun laid part member => ?_
          cases List.mem_singleton.mp member
          exact (List.pairwise_cons.mp (apart laid)).1
      | declare names place =>
          exact finds_after (resolver.declare_quiet node) fun _ => ih others unusedRest apart
      | use name isOperand => exact absurd List.mem_cons_self (unused name isOperand)

theorem steps_gathers
    (walked : ∀ child, .part child ∈ pieces resolver.source node →
      resolver.Finds (resolver.Under child.Laid [child]) (resolver.walk child)) :
    resolver.Finds (resolver.Under node.Laid [node])
      (resolver.carry (steps resolver.source node)) := by
  cases behind : isBehindExpression node with
  | true =>
      obtain ⟨operand, field, isSelector, noName⟩ := isBehindExpression_iff.mp behind
      have isPart : .part operand ∈ pieces resolver.source node := by
        rw [pieces_selector resolver.source isSelector.kind isSelector.isOperand
          isSelector.isField, if_neg noName]
        exact List.mem_singleton_self _
      rw [steps_behind isSelector noName]
      exact behind_gathers isSelector noName (walked operand isPart)
  | false =>
      rw [steps_of_notBehind behind]
      by_cases used : ∃ name isOperand, .use name isOperand ∈ pieces resolver.source node
      · obtain ⟨name, isOperand, member⟩ := used
        rw [(use_cases member).1, carry_refer]
        exact refer_gathers resolver node
      · refine finds_parts (fun child member => mem_children (mem_partNodes_iff.mp member))
          (carry_gathers (List.Subset.refl _) ?_ walked (parts_apart _))
        exact fun name isOperand member => used ⟨name, isOperand, member⟩

end

/-- A walk finds what is in a node, and what is in an operand before what is behind it. -/
theorem walk_finds (resolver : Resolver) (node : Node) :
    resolver.Finds (resolver.Under node.Laid [node]) (resolver.walk node) := by
  have gathers : resolver.Finds (resolver.Under node.Laid [node])
      (resolver.carry (steps resolver.source node)) :=
    steps_gathers fun child isPart => walk_finds resolver child
  rw [walk_eq_steps, aroundBlock]
  split
  · exact finds_inScope gathers
  · exact gathers
termination_by sizeOf node
decreasing_by exact sizeOf_part_lt isPart

theorem walkChild_finds (resolver : Resolver) (node : Node) (label : Syntax.Label) :
    resolver.Finds (resolver.Under node.Laid (node.child? label).toList)
      (resolver.walkChild node label) := by
  rw [walkChild]
  split
  · rename_i child found
    rw [found]
    refine finds_mono (walk_finds resolver child) ?_
    exact fun _ under laid => under (Node.laid_children laid (Node.mem_of_child? found))
  · exact finds_quiet (steps_pure _) under_nothing

end Resolver
end AspectLoom
