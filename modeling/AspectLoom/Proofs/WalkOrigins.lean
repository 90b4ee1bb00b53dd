import AspectLoom.Proofs.HeldTypes
import AspectLoom.Proofs.PackageFindings
/-!
Where the recorded sites come from. A walk arrives at every step in a node, with names in its scopes
that were declared before the step, and every site that it records is one of a reference at which it
arrives. In a laid tree no other reference is recorded at the place of a selector.
-/
namespace AspectLoom.Resolver

open Actions PackageCache Scoping
open Syntax (Node Kind)

/-- The memory with which the steps of a node begin. -/
def opening (node : Node) (memory : WalkMemory) : WalkMemory :=
  if isBlock node then entering memory else memory

/-- A walk of a node arrives at a step in it at any depth. -/
inductive Arrives (resolver : Resolver) : Node → WalkMemory → Step → WalkMemory → Prop where
  | here {node : Node} {memory there : WalkMemory} {front back : List Step} {step : Step}
      (splits : steps resolver.source node = front ++ step :: back)
      (ran : runFrom (resolver.carry front) (opening node memory) = (.ok ⟨⟩, there)) :
      Arrives resolver node memory step there
  | inside {node child : Node} {memory middle there : WalkMemory} {front back : List Step}
      {step : Step} (splits : steps resolver.source node = front ++ .visit child :: back)
      (ran : runFrom (resolver.carry front) (opening node memory) = (.ok ⟨⟩, middle))
      (arrives : Arrives resolver child middle step there) :
      Arrives resolver node memory step there

/-- Between two memories nothing but findings have been entered. -/
abbrev Onward (before after : WalkMemory) : Prop := Entered (fun _ => True) before after

/-- The places at which a reference is recorded: its own and, behind a name, that of the name. -/
def PlaceOf (node : Node) (place : Span) : Prop :=
  place = node.span ∨ ∃ operand field, IsReference node operand field ∧ place = operand.span

/-- A site was recorded at a reference at which the walk of a node arrived. -/
def Origin (resolver : Resolver) (node : Node) (memory last : WalkMemory) (site : Site) : Prop :=
  ∃ inner there next sites, resolver.Arrives node memory (.refer inner) there ∧
    resolver.Ready there.cache ∧ runFrom (resolver.refer inner) there = (.ok ⟨⟩, next) ∧
    next.symbols.sites = there.symbols.sites ++ sites ∧ site ∈ sites ∧
    (site.unit = resolver.unit.id ∧ PlaceOf inner site.span) ∧ Loaded next.cache last.cache

section
variable {resolver : Resolver} {node child inner : Node} {memory middle after there last : WalkMemory}
  {front back all : List Step} {step : Step} {site : Site} {name : String}

theorem Onward.refl (memory : WalkMemory) : Onward memory memory := entered_nothing trivial

theorem Onward.trans {first second third : WalkMemory} (begins : Onward first second)
    (goesOn : Onward second third) : Onward first third :=
  entered_append begins goesOn fun _ _ _ _ => trivial

theorem Onward.grows {before after : WalkMemory} (onward : Onward before after) :
    before.symbols.Grows after.symbols := by
  obtain ⟨found, entered, _⟩ := onward
  exact ⟨found, entered⟩

/-! Single steps -/

/-- What is recorded at a reference is of the unit and has one of the places. -/
def Placed (resolver : Resolver) (node : Node) (found : List Finding) : Prop :=
  ∀ finding ∈ found, finding.site.unit = resolver.unit.id ∧ PlaceOf node finding.site.span

/-- What is recorded at a reference has the site of one of its places. -/
def Sited (resolver : Resolver) (node : Node) (found : List Finding) : Prop :=
  ∀ finding ∈ found, ∃ place shape, finding.site = resolver.siteOf place shape ∧
    PlaceOf node place.span

theorem sited_atMost {form : Shape → Prop} {found : List Finding}
    (most : resolver.AtMost node form found) : resolver.Sited node found := by
  obtain rfl | ⟨shape, decl, _, rfl⟩ := most
  · exact List.forall_mem_nil _
  · intro finding member
    cases List.mem_singleton.mp member
    exact ⟨node, shape, rfl, .inl rfl⟩

theorem refer_sites (resolver : Resolver) (node : Node) :
    resolver.Finds (resolver.Sited node) (resolver.refer node) := by
  have nothing : resolver.Finds (resolver.Sited node) (pure () : ResolveM Unit) :=
    finds_quiet (steps_pure _) (List.forall_mem_nil _)
  have own : ∀ {form : Shape → Prop} {action : ResolveM Unit},
      resolver.Finds (resolver.AtMost node form) action → resolver.Finds (resolver.Sited node) action :=
    fun finds => finds_mono finds fun _ => sited_atMost
  unfold refer
  split
  · exact own (resolveName_finds node)
  · rename_i kind
    split
    · rename_i operand field isOperand isField
      dsimp only
      split
      · rename_i isName
        have reference : IsReference node operand field := ⟨⟨kind, isOperand, isField⟩, isName⟩
        unfold resolveNameSelector
        apply finds_after (local?_looks _).quiet
        intro found
        split
        · exact own (resolveMethod_finds node operand _ _)
        · split
          · exact own (resolveQualified_finds node _ _ _)
          · split
            · exact own (resolveTypeMethod_finds node _ _)
            · refine finds_bind (resolveName_finds operand)
                (fun _ => resolveMethod_finds node operand _ _) ?_
              intro found later named method
              refine List.forall_mem_append.mpr ⟨fun finding member => ?_, sited_atMost method⟩
              obtain ⟨shape, _, _, rfl⟩ := named.resolve_left (List.ne_nil_of_mem member)
              cases List.mem_singleton.mp member
              exact ⟨operand, shape, rfl, .inr ⟨operand, field, reference, rfl⟩⟩
      · exact finds_after (resolver.infer_looks operand).quiet fun _ =>
          own (resolveMethod_finds node operand _ _)
    · exact nothing
  · exact nothing

theorem refer_finds (resolver : Resolver) (node : Node) :
    resolver.Finds (resolver.Placed node) (resolver.refer node) := by
  refine finds_mono (resolver.refer_sites node) fun found sited finding member => ?_
  obtain ⟨place, shape, same, isPlace⟩ := sited finding member
  rw [same]
  exact ⟨rfl, isPlace⟩

theorem carryOut_finds (resolver : Resolver) (step : Step) :
    resolver.Finds (fun _ => True) (resolver.carryOut step) := by
  cases step with
  | visit child => exact finds_mono (walk_finds resolver child) fun _ _ => trivial
  | declare node =>
      exact finds_quiet (steps_bind (resolver.declares_looks node).quiet fun _ => bindAll_quiet _)
        trivial
  | refer node => exact finds_mono (resolver.refer_finds node) fun _ _ => trivial

theorem carry_finds (resolver : Resolver) (all : List Step) :
    resolver.Finds (fun _ => True) (resolver.carry all) := by
  induction all with
  | nil => exact finds_quiet (steps_pure _) trivial
  | cons step rest ih =>
      exact finds_bind (resolver.carryOut_finds step) (fun _ => ih) fun _ _ _ _ => trivial

theorem carry_cons_ok
    (ran : runFrom (resolver.carry (step :: all)) memory = (.ok ⟨⟩, after)) :
    ∃ middle, runFrom (resolver.carryOut step) memory = (.ok ⟨⟩, middle) ∧
      runFrom (resolver.carry all) middle = (.ok ⟨⟩, after) := by
  rw [carry_cons] at ran
  obtain ⟨_, middle, first, ran⟩ := runFrom_bind_ok ran
  exact ⟨middle, first, ran⟩

/-- A walk that succeeds carries out the steps of its node. -/
theorem walk_opens (ran : runFrom (resolver.walk node) memory = (.ok ⟨⟩, after)) :
    ∃ last, runFrom (resolver.carry (steps resolver.source node)) (opening node memory) =
        (.ok ⟨⟩, last) ∧ after.symbols = last.symbols ∧ after.cache = last.cache := by
  rw [walk_eq_steps, aroundBlock] at ran
  rw [opening]
  split at ran
  · rename_i isOne
    rw [if_pos isOne]
    rcases inner : runFrom (resolver.carry (steps resolver.source node)) (entering memory) with
      ⟨result, last⟩
    rw [runFrom_inScope] at ran
    unfold entering at inner
    rw [inner] at ran
    cases ran
    exact ⟨last, rfl, rfl, rfl⟩
  · rename_i noBlock
    rw [if_neg noBlock]
    exact ⟨after, ran, rfl, rfl⟩

theorem opening_symbols (node : Node) (memory : WalkMemory) :
    (opening node memory).symbols = memory.symbols := by
  unfold opening entering
  split <;> rfl

theorem opening_cache (node : Node) (memory : WalkMemory) :
    (opening node memory).cache = memory.cache := by
  unfold opening entering
  split <;> rfl

theorem onward_opening (onward : Onward (opening node memory) after) : Onward memory after := by
  unfold Onward Entered at onward
  rw [opening_symbols, opening_cache] at onward
  exact onward

/-! Arriving -/

theorem visit_of_part (isPart : .part child ∈ pieces resolver.source node) :
    .visit child ∈ steps resolver.source node :=
  List.mem_append_left _ (List.mem_map.mpr ⟨_, isPart, rfl⟩)

/-- A walk that succeeds arrives at every step of every node in it, and carries it out. -/
theorem holds_arrives (holds : Holds resolver.source node inner)
    (member : step ∈ steps resolver.source inner) (ready : resolver.Ready memory.cache)
    (ran : runFrom (resolver.walk node) memory = (.ok ⟨⟩, after)) :
    ∃ there next, resolver.Arrives node memory step there ∧ Onward memory there ∧
      runFrom (resolver.carryOut step) there = (.ok ⟨⟩, next) ∧ Onward next after := by
  induction holds generalizing memory after with
  | self node =>
      obtain ⟨last, carried, symbols, cache⟩ := walk_opens ran
      obtain ⟨front, back, splits⟩ := List.append_of_mem member
      rw [splits] at carried
      obtain ⟨there, next, before, here, behind⟩ := forM_split_ok carried
      rw [← opening_cache node] at ready
      have first := resolver.carry_finds front _ _ _ ready before
      have readyThere := ready_loaded ready first.loaded
      have readyNext := ready_loaded readyThere
        (resolver.carryOut_finds step _ _ _ readyThere here).loaded
      have later := resolver.carry_finds back _ _ _ readyNext behind
      unfold Onward Entered
      rw [symbols, cache]
      exact ⟨there, next, .here splits before, onward_opening first, here, later⟩
  | @part node child inner isPart holds ih =>
      obtain ⟨last, carried, symbols, cache⟩ := walk_opens ran
      obtain ⟨front, back, splits⟩ := List.append_of_mem (visit_of_part isPart)
      rw [splits] at carried
      obtain ⟨middle, next, before, walked, behind⟩ := forM_split_ok carried
      rw [← opening_cache node] at ready
      have first := resolver.carry_finds front _ _ _ ready before
      have readyMiddle := ready_loaded ready first.loaded
      have readyNext := ready_loaded readyMiddle
        (resolver.carryOut_finds (.visit child) _ _ _ readyMiddle walked).loaded
      have later := resolver.carry_finds back _ _ _ readyNext behind
      obtain ⟨there, goesOn, arrives, onward, here, rest⟩ := ih member readyMiddle walked
      refine ⟨there, goesOn, .inside splits before arrives, ?_, here, ?_⟩
      · exact (onward_opening first).trans onward
      · refine rest.trans ?_
        unfold Onward Entered
        rw [symbols, cache]
        exact later

/-! Origins -/

theorem Origin.later (origin : resolver.Origin node memory middle site)
    (loaded : Loaded middle.cache last.cache) : resolver.Origin node memory last site := by
  obtain ⟨inner, there, next, sites, arrives, ready, ran, recorded, member, place, kept⟩ := origin
  exact ⟨inner, there, next, sites, arrives, ready, ran, recorded, member, place,
    kept.trans loaded⟩

/-- What a walk records from one memory to another comes from references at which it arrives. -/
def Records (resolver : Resolver) (node : Node) (memory last before after : WalkMemory) : Prop :=
  ∃ sites, after.symbols.sites = before.symbols.sites ++ sites ∧
    ∀ site ∈ sites, resolver.Origin node memory last site

theorem Records.append {first second third : WalkMemory}
    (begins : resolver.Records node memory last first second)
    (goesOn : resolver.Records node memory last second third) :
    resolver.Records node memory last first third := by
  obtain ⟨sites, recorded, origins⟩ := begins
  obtain ⟨more, added, others⟩ := goesOn
  refine ⟨sites ++ more, ?_, List.forall_mem_append.mpr ⟨origins, others⟩⟩
  rw [added, recorded, List.append_assoc]

section
variable (below : ∀ child, .part child ∈ pieces resolver.source node →
  ∀ {memory after : WalkMemory}, resolver.Ready memory.cache →
    runFrom (resolver.walk child) memory = (.ok ⟨⟩, after) →
    resolver.Records child memory after memory after)
include below

/-- One step of a walk, behind those that have been carried out. -/
theorem carryOut_records {next : WalkMemory} {rest : List Step}
    (splits : steps resolver.source node = front ++ step :: rest)
    (before : runFrom (resolver.carry front) (opening node memory) = (.ok ⟨⟩, middle))
    (ready : resolver.Ready middle.cache)
    (here : runFrom (resolver.carryOut step) middle = (.ok ⟨⟩, next))
    (later : Loaded next.cache last.cache) : resolver.Records node memory last middle next := by
  cases step with
  | visit child =>
      have isPart : .part child ∈ pieces resolver.source node := by
        apply mem_steps_visit
        rw [splits]
        exact List.mem_append_right _ List.mem_cons_self
      obtain ⟨sites, recorded, origins⟩ := below child isPart ready here
      refine ⟨sites, recorded, fun site member => ?_⟩
      obtain ⟨inner, there, beyond, own, arrives, others⟩ := (origins site member).later later
      exact ⟨inner, there, beyond, own, .inside splits before arrives, others⟩
  | declare other =>
      have quiet := steps_bind (resolver.declares_looks other).quiet fun names =>
        bindAll_quiet names
      have kept := quiet _ _ _ here
      refine ⟨[], ?_, List.forall_mem_nil _⟩
      rw [kept.symbols_eq, List.append_nil]
  | refer other =>
      obtain ⟨found, entered, loaded, _, placed⟩ := resolver.refer_finds other _ _ _ ready here
      have recorded : next.symbols.sites =
          middle.symbols.sites ++ found.map Finding.site := by
        rw [entered, SymbolTable.notes_sites]
      refine ⟨_, recorded, fun site member => ?_⟩
      obtain ⟨finding, among, rfl⟩ := List.mem_map.mp member
      exact ⟨other, middle, next, _, .here splits before, ready, here, recorded, member,
        placed finding among, later⟩

/-- The induction is over the steps that are left; those before them have been carried out. -/
theorem carry_records (splits : steps resolver.source node = front ++ back)
    (before : runFrom (resolver.carry front) (opening node memory) = (.ok ⟨⟩, middle))
    (ready : resolver.Ready middle.cache)
    (ran : runFrom (resolver.carry back) middle = (.ok ⟨⟩, last)) :
    resolver.Records node memory last middle last := by
  induction back generalizing middle front with
  | nil =>
      cases ran
      exact ⟨[], (List.append_nil _).symm, List.forall_mem_nil _⟩
  | cons step rest ih =>
      obtain ⟨next, here, behind⟩ := carry_cons_ok ran
      have readyNext := ready_loaded ready
        (resolver.carryOut_finds step _ _ _ ready here).loaded
      have later := resolver.carry_finds rest _ _ _ readyNext behind
      have beforeNext : runFrom (resolver.carry (front ++ [step])) (opening node memory) =
          (.ok ⟨⟩, next) := by
        rw [carry_append, runFrom_bind_of_ok before, carry_cons, runFrom_bind_of_ok here]
        rfl
      have first := carryOut_records below splits before ready here later.loaded
      exact first.append (ih (by rw [splits, List.append_assoc]; rfl) beforeNext readyNext behind)

end

/-- All that a walk records comes from references at which it arrives. -/
theorem walk_origins (resolver : Resolver) (node : Node) :
    ∀ {memory after : WalkMemory}, resolver.Ready memory.cache →
      runFrom (resolver.walk node) memory = (.ok ⟨⟩, after) →
      ∃ sites, after.symbols.sites = memory.symbols.sites ++ sites ∧
        ∀ site ∈ sites, resolver.Origin node memory after site := by
  intro memory after ready ran
  obtain ⟨last, carried, symbols, cache⟩ := walk_opens ran
  rw [← opening_cache node] at ready
  obtain ⟨sites, recorded, origins⟩ :=
    carry_records (fun child isPart _ _ ready ran => walk_origins resolver child ready ran)
      (List.nil_append _).symm rfl ready carried
  rw [opening_symbols] at recorded
  refine ⟨sites, by rw [symbols, recorded], fun site member => ?_⟩
  exact (origins site member).later (by rw [cache]; exact Std.Refl.refl _)
termination_by sizeOf node
decreasing_by exact sizeOf_part_lt isPart

/-! Names that were declared before -/

theorem bound_bindEach {names : Scope} {scopes : List Scope}
    (bound : Bound (bindEach names scopes) name) :
    Bound scopes name ∨ name ∈ names.map Prod.fst := by
  cases scopes with
  | nil =>
      rw [bindEach_nil] at bound
      exact .inl bound
  | cons scope outer => exact (bound_bindEach_iff fun none => by cases none).mp bound

/-- What the steps at some pieces bind, the pieces declare. -/
theorem pieces_bind {some : List Piece} (among : some ⊆ pieces resolver.source node)
    (ran : runFrom (resolver.carry (some.map (stepAt node))) memory = (.ok ⟨⟩, after))
    (bound : Bound after.scopes name) :
    Bound memory.scopes name ∨ name ∈ declaredNames resolver.source some := by
  have performs := carry_performs (fun child _ => walk_performs resolver child) among
  obtain ⟨names, same, scopes⟩ := ((performs memory).of_ok ran).bound
  rw [scopes] at bound
  exact same ▸ bound_bindEach bound

/-- The steps before a step are at the pieces before one, or at all pieces. -/
theorem steps_before (splits : steps resolver.source node = front ++ step :: back) :
    ∃ some more, pieces resolver.source node = some ++ more ∧ front = some.map (stepAt node) ∧
      ∀ child, step = .visit child → ∃ rest, more = .part child :: rest := by
  rcases List.append_eq_append_iff.mp splits with ⟨extra, front, tail⟩ | ⟨extra, mapped, rest⟩
  · -- The step is the last one, that of a selector behind an expression.
    refine ⟨pieces resolver.source node, [], (List.append_nil _).symm, ?_, ?_⟩
    · split at tail
      · cases extra with
        | nil => rw [front, List.append_nil]
        | cons first others =>
            have short := congrArg List.length tail
            simp at short
      · have short := congrArg List.length tail
        simp at short
    · rintro child rfl
      split at tail
      · cases extra with
        | nil => cases tail
        | cons first others =>
            have short := congrArg List.length tail
            simp at short
      · have short := congrArg List.length tail
        simp at short
  · obtain ⟨some, more, same, rfl, mappedMore⟩ := List.map_eq_append_iff.mp mapped
    refine ⟨some, more, same, rfl, ?_⟩
    rintro child rfl
    cases extra with
    | nil =>
        exfalso
        split at rest
        · cases rest
        · cases rest
    | cons first others =>
        cases rest
        obtain ⟨piece, others, rfl, isVisit, _⟩ := List.map_eq_cons_iff.mp mappedMore
        cases piece with
        | part inner =>
            cases isVisit
            exact ⟨others, rfl⟩
        | declare names place => cases isVisit
        | use name isOperand => cases isVisit

/-- The reference among the steps of a node is the node itself. -/
theorem refer_self {source : String} (member : .refer inner ∈ steps source node) :
    inner = node := by
  rcases List.mem_append.mp member with piece | last
  · obtain ⟨piece, _, same⟩ := List.mem_map.mp piece
    cases piece <;> cases same
    rfl
  · split at last
    · cases List.mem_singleton.mp last
      rfl
    · cases last

theorem opening_bound (bound : Bound (opening node memory).scopes name) :
    Bound memory.scopes name := by
  unfold opening entering at bound
  split at bound
  · exact bound_empty_iff.mp bound
  · exact bound

/-- Where a walk arrives at a reference, only names are bound that were bound before or have been
declared before the names that are used in the node of the reference, or in that node. -/
theorem Arrives.bound (arrives : resolver.Arrives node memory step there)
    (refers : step = .refer inner) :
    ∃ hidden, (∀ use isOperand more,
        UsedAfter resolver.source (pieces resolver.source inner) use isOperand more →
        UsedAfter resolver.source (pieces resolver.source node) use isOperand (hidden ++ more)) ∧
      ∀ name, Bound there.scopes name → Bound memory.scopes name ∨ name ∈ hidden ∨
        name ∈ declaredNames resolver.source (pieces resolver.source inner) := by
  induction arrives with
  | @here node memory there front back step splits ran =>
      subst refers
      have member : .refer inner ∈ steps resolver.source node := by
        rw [splits]
        exact List.mem_append_right _ List.mem_cons_self
      have same := (refer_self member).symm
      subst same
      obtain ⟨some, more, split, rfl, _⟩ := steps_before splits
      refine ⟨[], fun _ _ _ used => used, fun name bound => ?_⟩
      have among : some ⊆ pieces resolver.source node := by
        rw [split]
        exact List.subset_append_left _ _
      rcases pieces_bind among ran bound with before | declares
      · exact .inl (opening_bound before)
      · refine .inr (.inr ?_)
        rw [split, declaredNames_append]
        exact List.mem_append_left _ declares
  | @inside node child memory middle there front back step splits ran arrives ih =>
      obtain ⟨hidden, used, bounds⟩ := ih refers
      obtain ⟨some, more, split, rfl, isVisit⟩ := steps_before splits
      obtain ⟨rest, rfl⟩ := isVisit child rfl
      have among : some ⊆ pieces resolver.source node := by
        rw [split]
        exact List.subset_append_left _ _
      refine ⟨declaredNames resolver.source some ++ hidden, ?_, fun name bound => ?_⟩
      · intro use isOperand more inside
        rw [split, List.append_assoc]
        exact usedAfter_behind some (.inside rest (used use isOperand more inside))
      · rcases bounds name bound with before | here | own
        · rcases pieces_bind among ran before with outside | declares
          · exact .inl (opening_bound outside)
          · exact .inr (.inl (List.mem_append_left _ declares))
        · exact .inr (.inl (List.mem_append_right _ here))
        · exact .inr (.inr own)

/-! Places of references -/

theorem Arrives.holds (arrives : resolver.Arrives node memory step there) :
    ∃ inner, Holds resolver.source node inner ∧ step ∈ steps resolver.source inner := by
  induction arrives with
  | @here node memory there front back step splits ran =>
      refine ⟨node, .self node, ?_⟩
      rw [splits]
      exact List.mem_append_right _ List.mem_cons_self
  | inside splits _ _ ih =>
      obtain ⟨inner, holds, member⟩ := ih
      refine ⟨inner, .part (mem_steps_visit ?_) holds, member⟩
      rw [splits]
      exact List.mem_append_right _ List.mem_cons_self

theorem Arrives.refers (arrives : resolver.Arrives node memory (.refer inner) there) :
    Holds resolver.source node inner ∧ .refer inner ∈ steps resolver.source inner := by
  obtain ⟨_, holds, member⟩ := arrives.holds
  obtain rfl := refer_self member
  exact ⟨holds, member⟩

/-- A reference is to a bare name or to one behind a name, or a selector behind an expression. -/
theorem refer_cases {source : String} (refers : .refer inner ∈ steps source inner) :
    (∃ use isOperand, pieces source inner = [.use use isOperand]) ∨
      ∃ operand field, IsSelector inner operand field ∧ operand.kind ≠ .identifier ∧
        pieces source inner = [.part operand] := by
  rcases List.mem_append.mp refers with piece | last
  · obtain ⟨piece, among, same⟩ := List.mem_map.mp piece
    cases piece with
    | part child => cases same
    | declare names place => cases same
    | use use isOperand => exact .inl ⟨use, isOperand, (use_cases among).1⟩
  · split at last
    · rename_i behind
      obtain ⟨operand, field, selector, noName⟩ := isBehindExpression_iff.mp behind
      refine .inr ⟨operand, field, selector, noName, ?_⟩
      rw [pieces_selector source selector.kind selector.isOperand selector.isField, if_neg noName]
    · cases last

/-- A selector is longer than its operand. -/
theorem IsSelector.longer {operand field : Node} (selector : IsSelector node operand field)
    (laid : node.Laid) :
    node.start < node.stop ∧ ¬(operand.start ≤ node.start ∧ node.stop ≤ operand.stop) := by
  have filled := selector_filled laid selector.isField
  refine ⟨filled, fun whole => ?_⟩
  have member := Node.mem_of_child? selector.isField
  have fieldFilled := (Node.laid_arranged (Node.laid_children laid member)).filled
    (.inr (Node.child?_label selector.isField))
  have inside := Node.laid_inside laid member
  rcases Node.laid_parts laid selector.isOperand selector.isField (by decide) with before | behind
  · change operand.stop ≤ field.start at before
    omega
  · change field.stop ≤ operand.start at behind
    omega

theorem PlaceOf.inside {place : Span} (placed : PlaceOf node place) (laid : node.Laid) :
    node.start ≤ place.start ∧ place.stop ≤ node.stop := by
  obtain rfl | ⟨operand, field, reference, rfl⟩ := placed
  · exact ⟨Nat.le_refl _, Nat.le_refl _⟩
  · exact Node.laid_inside laid (Node.mem_of_child? reference.isOperand)

/-- What a reference is recorded for is not inside a part of it. -/
theorem not_placeOf_inside {source : String} {child selector : Node} (laid : inner.Laid)
    (refers : .refer inner ∈ steps source inner) (isPart : .part child ∈ pieces source inner)
    (holds : Holds source child selector) : ¬ PlaceOf inner selector.span := by
  intro placed
  rcases refer_cases refers with ⟨use, isOperand, alone⟩ | ⟨operand, field, isSelector, noName, only⟩
  · rw [alone] at isPart
    cases List.mem_singleton.mp isPart
  rw [only] at isPart
  cases List.mem_singleton.mp isPart
  have longer := (isSelector.longer laid).2
  have between := holds_between
    (Node.laid_children laid (Node.mem_of_child? isSelector.isOperand)) holds
  obtain same | ⟨name, _, reference, _⟩ := placed
  · have starts : selector.start = inner.start := congrArg Span.start same
    have stops : selector.stop = inner.stop := congrArg Span.stop same
    omega
  · cases reference.isOperand.symm.trans isSelector.isOperand
    exact noName reference.isName

/-- At the place of a selector no other reference is recorded. The recursion is down to the part that
holds both. -/
theorem place_unique {source : String} {selector operand field : Node} (node : Node)
    (laid : node.Laid) (holds : Holds source node inner)
    (refers : .refer inner ∈ steps source inner) (holdsSelector : Holds source node selector)
    (isSelector : IsSelector selector operand field) (placed : PlaceOf inner selector.span) :
    inner = selector := by
  have innerWithin := holds_between laid holds
  have selectorWithin := holds_between laid holdsSelector
  have longer := isSelector.longer selectorWithin.1
  have within := placed.inside innerWithin.1
  change inner.start ≤ selector.start ∧ selector.stop ≤ inner.stop at within
  cases holds with
  | self =>
      cases holdsSelector with
      | self => rfl
      | part isPart holdsSelector =>
          exact absurd placed (not_placeOf_inside laid refers isPart holdsSelector)
  | @part _ child _ isPart holds =>
      have childLaid := Node.laid_children laid (mem_children isPart)
      have between := holds_between childLaid holds
      cases holdsSelector with
      | self =>
          exfalso
          rw [pieces_selector source isSelector.kind isSelector.isOperand isSelector.isField]
            at isPart
          split at isPart
          · cases List.mem_singleton.mp isPart
          · cases List.mem_singleton.mp isPart
            omega
      | @part _ other _ isOther holdsSelector =>
          have otherBetween :=
            holds_between (Node.laid_children laid (mem_children isOther)) holdsSelector
          have inside : child.start ≤ selector.start ∧ selector.start < child.stop := by omega
          have same : other = child := part_unique laid isPart isOther inside (by omega)
          subst same
          exact place_unique other childLaid holds refers holdsSelector isSelector placed
termination_by sizeOf node
decreasing_by exact sizeOf_part_lt isPart

end
end AspectLoom.Resolver
