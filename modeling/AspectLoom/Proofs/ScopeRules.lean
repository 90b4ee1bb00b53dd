import AspectLoom.Proofs.LaidTrees
/-!
Where the local names of Go code are in scope. A declaration counts from its end to the end of the
innermost block around it, and names of parameters in all of the body. The rules speak of places in
the source and of no walk.
-/
namespace AspectLoom.Scoping

open Resolver (isSkipped hasScope isFieldKey isCase parameterLists listItems)
open Syntax (Node Kind Label)

/-- What is in a node. -/
inductive Piece where
  /-- A node that can hold code. -/
  | part (node : Node)
  /-- Names that are declared, which count from a place on. -/
  | declare (names : List String) (place : Nat)
  /-- A name that stands for something. An operand is one that a selector follows. -/
  | use (name : Node) (isOperand : Bool)

def partAs (node : Node) (label : Label) : List Piece := (node.child? label).toList.map .part

def partsOf (nodes : List Node) : List Piece := (nodes.filter Node.isNamed).map .part

/-- A bare name in front of an element names a field. -/
def elementParts (nodes : List Node) : List Piece :=
  match nodes.filter Node.isNamed with
  | [] => []
  | first :: rest => (if isFieldKey first then rest else first :: rest).map .part

def parameterNames (source : String) (function : Node) : List String :=
  (parameterLists function).flatMap fun list =>
    list.namedChildren.flatMap (TypeContext.namesOf source)

def listNames (source : String) (list : Option Node) : List String :=
  (listItems list).map (Node.text source)

/-- The names on the left of a `:=`. -/
def assignedNames (source : String) (list : Option Node) : List String :=
  ((listItems list).filter fun item => item.kind == .identifier).map (Node.text source)

def partStop (node : Node) (label : Label) : Nat :=
  ((node.child? label).map Node.stop).getD node.start

def partStart (node : Node) (label : Label) : Nat :=
  ((node.child? label).map Node.start).getD node.stop

/-- The pieces of a node. Types, labels and comments hold no code. -/
def pieces (source : String) (node : Node) : List Piece :=
  if isSkipped node.kind then []
  else
    match node.kind with
    | .functionDeclaration | .methodDeclaration | .funcLiteral =>
      .declare (parameterNames source node) (partStart node .body) :: partAs node .body
    | .identifier => [.use node false]
    | .selectorExpression =>
      match node.child? .operand, node.child? .field with
      | some operand, some _ =>
        if operand.kind = .identifier then [.use operand true] else [.part operand]
      | _, _ => partsOf node.children
    | .compositeLiteral => partAs node .body
    | .keyedElement => elementParts node.children
    | .shortVarDeclaration =>
      partAs node .right ++ [.declare (assignedNames source (node.child? .left)) node.stop]
    | .varSpec | .constSpec =>
      partAs node .value ++ [.declare (TypeContext.namesOf source node) node.stop]
    | .rangeClause | .receiveStatement =>
      partAs node .right ++
        if node.hasSymbol ":=" then [.declare (listNames source (node.child? .left)) node.stop]
        else partAs node .left
    | .typeSwitchStatement =>
      partAs node .initializer ++ partAs node .value ++
        .declare (listNames source (node.child? .alias)) (partStop node .value) ::
          (node.children.filter isCase).map .part
    | _ => partsOf node.children

/-- Nodes that are blocks, which no declaration in them counts outside of. -/
def isBlock (node : Node) : Bool :=
  hasScope node.kind ||
    match node.kind with
    | .functionDeclaration | .methodDeclaration | .funcLiteral => true
    | _ => false

section
variable {source : String} {node child : Node} {nodes : List Node} {label : Label}
  {names : List String} {place : Nat} {name : Node} {isOperand : Bool}

@[simp] theorem mem_partAs_iff : .part child ∈ partAs node label ↔ node.child? label = some child := by
  simp [partAs]

@[simp] theorem declare_notMem_partAs : .declare names place ∉ partAs node label := by
  simp [partAs]

@[simp] theorem declare_notMem_partsOf : .declare names place ∉ partsOf nodes := by
  simp [partsOf]

@[simp] theorem use_notMem_partAs : .use name isOperand ∉ partAs node label := by
  simp [partAs]

@[simp] theorem use_notMem_partsOf : .use name isOperand ∉ partsOf nodes := by
  simp [partsOf]

theorem mem_partsOf (member : .part child ∈ partsOf nodes) : child ∈ nodes := by
  obtain ⟨_, found, same⟩ := List.mem_map.mp member
  cases same
  exact (List.mem_filter.mp found).1

theorem elementParts_sublist (nodes : List Node) :
    (elementParts nodes).Sublist ((nodes.filter Node.isNamed).map .part) := by
  unfold elementParts
  cases nodes.filter Node.isNamed with
  | nil => exact List.Sublist.refl _
  | cons first rest =>
      apply List.Sublist.map
      split
      · exact List.sublist_cons_self _ _
      · exact List.Sublist.refl _

@[simp] theorem declare_notMem_elementParts : .declare names place ∉ elementParts nodes := by
  intro among
  have found := (elementParts_sublist _).subset among
  simp at found

@[simp] theorem use_notMem_elementParts : .use name isOperand ∉ elementParts nodes := by
  intro among
  have found := (elementParts_sublist _).subset among
  simp at found

/-- The parts of a node are children. -/
theorem mem_children (member : .part child ∈ pieces source node) : child ∈ node.children := by
  unfold pieces at member
  split at member
  · cases member
  · split at member
    -- functions
    iterate 3 exact Node.mem_of_child? (by simpa using member)
    · cases List.mem_singleton.mp member
    · split at member
      · rename_i found _
        split at member
        · cases List.mem_singleton.mp member
        · cases List.mem_singleton.mp member
          exact Node.mem_of_child? found
      · exact mem_partsOf member
    · exact Node.mem_of_child? (mem_partAs_iff.mp member)
    · exact mem_partsOf ((elementParts_sublist _).subset member)
    -- declarations behind a value
    iterate 3 exact Node.mem_of_child? (by simpa using member)
    -- clauses
    iterate 2
      split at member
      · exact Node.mem_of_child? (by simpa using member)
      · rcases List.mem_append.mp member with right | left
        · exact Node.mem_of_child? (mem_partAs_iff.mp right)
        · exact Node.mem_of_child? (mem_partAs_iff.mp left)
    · have parts : node.child? .initializer = some child ∨ node.child? .value = some child ∨
          child ∈ node.children ∧ isCase child = true := by simpa using member
      rcases parts with found | found | ⟨among, _⟩
      · exact Node.mem_of_child? found
      · exact Node.mem_of_child? found
      · exact among
    · exact mem_partsOf member

theorem sizeOf_part_lt (member : .part child ∈ pieces source node) : sizeOf child < sizeOf node :=
  Node.sizeOf_lt_of_mem (mem_children member)

end

/-- The names that are declared in a node and in no block in it, with the places from which on they
count. -/
def declared (source : String) (node : Node) : List (String × Nat) :=
  (pieces source node).attach.flatMap fun
    | ⟨.part child, _⟩ => if isBlock child then [] else declared source child
    | ⟨.declare names place, _⟩ => (names.filter (· != "_")).map fun name => (name, place)
    | ⟨.use _ _, _⟩ => []
termination_by sizeOf node
decreasing_by exact sizeOf_part_lt ‹_›

/-- What a piece declares in the block around it. -/
def Piece.declared (source : String) : Piece → List (String × Nat)
  | .part child => if isBlock child then [] else Scoping.declared source child
  | .declare names place => (names.filter (· != "_")).map fun name => (name, place)
  | .use _ _ => []

theorem declared_eq (source : String) (node : Node) :
    declared source node = (pieces source node).flatMap (Piece.declared source) := by
  rw [declared]
  conv_rhs => rw [← List.attach_map_subtype_val (pieces source node), List.flatMap_map]
  congr 1
  funext ⟨piece, member⟩
  cases piece <;> rfl

/-- A node is another one or a part of it at any depth. -/
inductive Holds (source : String) : Node → Node → Prop where
  | self (node : Node) : Holds source node node
  | part {node child inner : Node} (isPart : .part child ∈ pieces source node)
      (holds : Holds source child inner) : Holds source node inner

/-- The nodes that a node holds. -/
def heldIn (source : String) (node : Node) : List Node :=
  node :: (pieces source node).attach.flatMap fun
    | ⟨.part child, _⟩ => heldIn source child
    | _ => []
termination_by sizeOf node
decreasing_by exact sizeOf_part_lt ‹_›

theorem holds_of_mem (source : String) (node : Node) {inner : Node}
    (member : inner ∈ heldIn source node) : Holds source node inner := by
  rw [heldIn, List.mem_cons, List.mem_flatMap] at member
  rcases member with rfl | ⟨⟨piece, isPiece⟩, _, among⟩
  · exact .self inner
  · cases piece with
    | part child => exact .part isPiece (holds_of_mem source child among)
    | declare names place => cases among
    | use name isOperand => cases among
termination_by sizeOf node
decreasing_by exact sizeOf_part_lt ‹_›

theorem mem_of_holds {source : String} {node inner : Node} (holds : Holds source node inner) :
    inner ∈ heldIn source node := by
  induction holds with
  | self node =>
      rw [heldIn]
      exact List.mem_cons_self
  | @part node child inner isPart _ ih =>
      rw [heldIn]
      refine List.mem_cons_of_mem _ (List.mem_flatMap.mpr ⟨⟨.part child, isPart⟩, ?_, ih⟩)
      exact List.mem_attach _ _

/-- A name stands for something in a node at any depth. -/
def Uses (source : String) (node name : Node) (isOperand : Bool) : Prop :=
  ∃ inner, Holds source node inner ∧ .use name isOperand ∈ pieces source inner

/-- The uses in a node. -/
def usesIn (source : String) (node : Node) : List (Node × Bool) :=
  ((heldIn source node).flatMap (pieces source)).filterMap fun
    | .use name isOperand => some (name, isOperand)
    | _ => none

theorem uses_of_mem {source : String} {node name : Node} {isOperand : Bool}
    (member : (name, isOperand) ∈ usesIn source node) : Uses source node name isOperand := by
  obtain ⟨piece, among, same⟩ := List.mem_filterMap.mp member
  obtain ⟨inner, held, isPiece⟩ := List.mem_flatMap.mp among
  cases piece with
  | use name isOperand =>
      cases same
      exact ⟨inner, holds_of_mem source node held, isPiece⟩
  | _ => cases same

/-- In a node, a declaration of a name counts at a place: it is behind the declaration and in the
innermost block around that. The node stands for what it makes up of its own block. -/
def InScope (source : String) (node : Node) (name : String) (place : Nat) : Prop :=
  ∃ block, Holds source node block ∧ (block = node ∨ isBlock block = true) ∧
    (block.start ≤ place ∧ place < block.stop) ∧
    ∃ begins, (name, begins) ∈ declared source block ∧ begins ≤ place

/-! Trees as they are parsed -/

/-- Kinds of node that declare names in the block around them. -/
def isDeclaring : Kind → Bool
  | .shortVarDeclaration | .varSpec | .constSpec | .rangeClause | .receiveStatement => true
  | _ => false

mutual

/-- Whether no declaration is in a node, as in an expression. -/
def isExpression (node : Node) : Bool :=
  match node with
  | ⟨kind, label, span, children⟩ =>
    isBlock ⟨kind, label, span, children⟩ || (!isDeclaring kind && areExpressions children)

def areExpressions (nodes : List Node) : Bool :=
  match nodes with
  | [] => true
  | node :: rest => isExpression node && areExpressions rest

end

/-- What a clause takes from or assigns to are expressions, and what a type switch is about stands
between its first statement and its cases. -/
structure Parted (node : Node) : Prop where
  clauses : node.kind = .rangeClause ∨ node.kind = .receiveStatement →
    ∀ child ∈ node.children, isExpression child = true
  guarded : node.kind = .typeSwitchStatement → ∃ value ∈ node.child? .value,
    (∀ before ∈ node.child? .initializer, before.stop ≤ value.start) ∧
      ∀ child ∈ node.children, isCase child = true → value.stop ≤ child.start

instance (node : Node) : Decidable (Parted node) :=
  decidable_of_iff
    ((node.kind = .rangeClause ∨ node.kind = .receiveStatement →
        ∀ child ∈ node.children, isExpression child = true) ∧
      (node.kind = .typeSwitchStatement → ∃ value ∈ node.child? .value,
        (∀ before ∈ node.child? .initializer, before.stop ≤ value.start) ∧
          ∀ child ∈ node.children, isCase child = true → value.stop ≤ child.start))
    ⟨fun ⟨clauses, guarded⟩ => ⟨clauses, guarded⟩, fun ⟨clauses, guarded⟩ => ⟨clauses, guarded⟩⟩

mutual

def isParted (node : Node) : Bool :=
  match node with
  | ⟨kind, label, span, children⟩ =>
    decide (Parted ⟨kind, label, span, children⟩) && areParted children

def areParted (nodes : List Node) : Bool :=
  match nodes with
  | [] => true
  | node :: rest => isParted node && areParted rest

end

/-- A tree that is laid and whose nodes are parted. -/
structure Formed (node : Node) : Prop where
  laid : node.Laid
  parted : isParted node = true

instance (node : Node) : Decidable (Formed node) :=
  decidable_of_iff (node.Laid ∧ isParted node = true)
    ⟨fun ⟨laid, parted⟩ => ⟨laid, parted⟩, fun ⟨laid, parted⟩ => ⟨laid, parted⟩⟩

theorem areExpressions_mem {nodes : List Node} {child : Node} (all : areExpressions nodes = true)
    (member : child ∈ nodes) : isExpression child = true := by
  induction nodes with
  | nil => cases member
  | cons first rest ih =>
      rw [areExpressions, Bool.and_eq_true] at all
      rcases List.mem_cons.mp member with rfl | later
      · exact all.1
      · exact ih all.2 later

theorem areParted_mem {nodes : List Node} {child : Node} (all : areParted nodes = true)
    (member : child ∈ nodes) : isParted child = true := by
  induction nodes with
  | nil => cases member
  | cons first rest ih =>
      rw [areParted, Bool.and_eq_true] at all
      rcases List.mem_cons.mp member with rfl | later
      · exact all.1
      · exact ih all.2 later

section
variable {source : String} {node child : Node} {names : List String} {place begins : Nat}
  {name : String}

theorem isExpression_cases (expression : isExpression node = true) :
    isBlock node = true ∨
      isDeclaring node.kind = false ∧ ∀ child ∈ node.children, isExpression child = true := by
  obtain ⟨kind, label, span, children⟩ := node
  rw [isExpression, Bool.or_eq_true, Bool.and_eq_true, Bool.not_eq_true'] at expression
  exact expression.imp_right fun ⟨kept, all⟩ => ⟨kept, fun _ => areExpressions_mem all⟩

theorem formed_child (formed : Formed node) (member : child ∈ node.children) : Formed child := by
  refine ⟨Node.laid_children formed.laid member, ?_⟩
  obtain ⟨kind, label, span, children⟩ := node
  have parted := formed.parted
  rw [isParted, Bool.and_eq_true] at parted
  exact areParted_mem parted.2 member

theorem formed_parted (formed : Formed node) : Parted node := by
  obtain ⟨kind, label, span, children⟩ := node
  have parted := formed.parted
  rw [isParted, Bool.and_eq_true] at parted
  exact of_decide_eq_true parted.1

/-! What nodes declare -/

/-- What the pieces of a node declare and from which place on, for each kind of node that has such
a piece. -/
inductive Declares (source : String) (node : Node) : List String → Nat → Prop where
  | parameters (kinds : node.kind = .functionDeclaration ∨ node.kind = .methodDeclaration ∨
      node.kind = .funcLiteral) :
      Declares source node (parameterNames source node) (partStart node .body)
  | assigned (kind : node.kind = .shortVarDeclaration) :
      Declares source node (assignedNames source (node.child? .left)) node.stop
  | spec (kinds : node.kind = .varSpec ∨ node.kind = .constSpec) :
      Declares source node (TypeContext.namesOf source node) node.stop
  | clause (kinds : node.kind = .rangeClause ∨ node.kind = .receiveStatement) :
      Declares source node (listNames source (node.child? .left)) node.stop
  | guard (kind : node.kind = .typeSwitchStatement) :
      Declares source node (listNames source (node.child? .alias)) (partStop node .value)

theorem declares_of_mem (member : .declare names place ∈ pieces source node) :
    Declares source node names place := by
  unfold pieces at member
  split at member
  · cases member
  · split at member
    all_goals rename_i kind
    · obtain ⟨rfl, rfl⟩ : names = _ ∧ place = _ := by simpa using member
      exact .parameters (.inl kind)
    · obtain ⟨rfl, rfl⟩ : names = _ ∧ place = _ := by simpa using member
      exact .parameters (.inr (.inl kind))
    · obtain ⟨rfl, rfl⟩ : names = _ ∧ place = _ := by simpa using member
      exact .parameters (.inr (.inr kind))
    · simp at member
    · split at member
      · split at member <;> simp at member
      · simp at member
    · simp at member
    · simp at member
    · obtain ⟨rfl, rfl⟩ : names = _ ∧ place = _ := by simpa using member
      exact .assigned kind
    · obtain ⟨rfl, rfl⟩ : names = _ ∧ place = _ := by simpa using member
      exact .spec (.inl kind)
    · obtain ⟨rfl, rfl⟩ : names = _ ∧ place = _ := by simpa using member
      exact .spec (.inr kind)
    · split at member
      · obtain ⟨rfl, rfl⟩ : names = _ ∧ place = _ := by simpa using member
        exact .clause (.inl kind)
      · simp at member
    · split at member
      · obtain ⟨rfl, rfl⟩ : names = _ ∧ place = _ := by simpa using member
        exact .clause (.inr kind)
      · simp at member
    · obtain ⟨rfl, rfl⟩ : names = _ ∧ place = _ := by simpa using member
      exact .guard kind
    · simp at member

/-- Only blocks and declarations declare names. -/
theorem declare_cases (member : .declare names place ∈ pieces source node) :
    (isBlock node = true ∧ (place = partStart node .body ∨ place = partStop node .value)) ∨
      (isDeclaring node.kind = true ∧ place = node.stop) := by
  cases declares_of_mem member with
  | parameters kinds =>
      refine .inl ⟨?_, .inl rfl⟩
      rcases kinds with kind | kind | kind <;> simp [isBlock, kind]
  | assigned kind => exact .inr ⟨by rw [kind]; rfl, rfl⟩
  | spec kinds => exact .inr ⟨by rcases kinds with kind | kind <;> rw [kind] <;> rfl, rfl⟩
  | clause kinds => exact .inr ⟨by rcases kinds with kind | kind <;> rw [kind] <;> rfl, rfl⟩
  | guard kind => exact .inl ⟨by simp [isBlock, kind, hasScope], .inr rfl⟩

theorem mem_declared_iff : (name, begins) ∈ declared source node ↔
    ∃ piece ∈ pieces source node, (name, begins) ∈ piece.declared source := by
  rw [declared_eq, List.mem_flatMap]

theorem mem_declare_iff : (name, begins) ∈ (Piece.declare names place).declared source ↔
    name ∈ names ∧ name ≠ "_" ∧ place = begins := by
  simp [Piece.declared, and_assoc]

/-- An expression declares nothing in the block around it. -/
theorem expression_declared (node : Node) (expression : isExpression node = true) :
    (Piece.part node).declared source = [] := by
  rw [Piece.declared]
  split
  · rfl
  · rename_i inside
    obtain ⟨keeps, children⟩ := (isExpression_cases expression).resolve_left inside
    refine List.eq_nil_iff_forall_not_mem.mpr ?_
    rintro ⟨name, begins⟩ member
    obtain ⟨piece, among, declares⟩ := mem_declared_iff.mp member
    cases piece with
    | part child =>
        rw [expression_declared child (children child (mem_children among))] at declares
        cases declares
    | declare names place =>
        rcases declare_cases among with ⟨block, _⟩ | ⟨declaring, _⟩
        · exact inside block
        · rw [keeps] at declaring
          cases declaring
    | use name isOperand => cases declares
termination_by sizeOf node
decreasing_by exact sizeOf_part_lt among

/-- A declaration counts from a place in its node. -/
theorem declare_between (laid : node.Laid) (member : .declare names place ∈ pieces source node) :
    node.start ≤ place ∧ place ≤ node.stop := by
  have ordered := (Node.laid_arranged laid).ordered
  have inside : ∀ label child, node.child? label = some child →
      node.start ≤ child.start ∧ child.start ≤ child.stop ∧ child.stop ≤ node.stop := by
    intro label child found
    have among := Node.mem_of_child? found
    have within := Node.laid_inside laid among
    exact ⟨within.1, (Node.laid_arranged (Node.laid_children laid among)).ordered, within.2⟩
  rcases declare_cases member with ⟨_, rfl | rfl⟩ | ⟨_, rfl⟩
  · unfold partStart
    cases found : node.child? .body with
    | none => exact ⟨ordered, Nat.le_refl _⟩
    | some child =>
        have within := inside _ _ found
        exact ⟨within.1, Nat.le_trans within.2.1 within.2.2⟩
  · unfold partStop
    cases found : node.child? .value with
    | none => exact ⟨Nat.le_refl _, ordered⟩
    | some child =>
        have within := inside _ _ found
        exact ⟨Nat.le_trans within.1 within.2.1, within.2.2⟩
  · exact ⟨ordered, Nat.le_refl _⟩

theorem declared_between (node : Node) (laid : node.Laid)
    (member : (name, begins) ∈ declared source node) :
    node.start ≤ begins ∧ begins ≤ node.stop := by
  obtain ⟨piece, among, declares⟩ := mem_declared_iff.mp member
  cases piece with
  | part child =>
      rw [Piece.declared] at declares
      split at declares
      · cases declares
      · have childMember := mem_children among
        have inside := Node.laid_inside laid childMember
        have between := declared_between child (Node.laid_children laid childMember) declares
        omega
  | declare names place =>
      obtain ⟨_, _, rfl⟩ := mem_declare_iff.mp declares
      exact declare_between laid among
  | use name isOperand => cases declares
termination_by sizeOf node
decreasing_by exact sizeOf_part_lt among

end

/-! The order of pieces -/

/-- A piece comes before another one in the source, as far as names are concerned. -/
def Piece.Before (source : String) : Piece → Piece → Prop
  | .part first, .part second =>
    first.stop ≤ second.start ∨
      (Piece.part first).declared source = [] ∧ (Piece.part second).declared source = []
  | .part first, .declare _ place => first.stop ≤ place
  | .declare _ place, .part second => place ≤ second.start
  | _, _ => True

section
variable {source : String} {node child : Node} {label : Label} {names : List String} {place : Nat}

theorem parts_before {nodes kept : List Node} (sublist : kept.Sublist nodes)
    (apart : nodes.Pairwise fun left right => left.stop ≤ right.start) :
    (kept.map Piece.part).Pairwise (Piece.Before source) :=
  List.pairwise_map.mpr ((apart.sublist sublist).imp fun before => .inl before)

theorem partAs_before : (partAs node label).Pairwise (Piece.Before source) := by
  unfold partAs
  cases node.child? label with
  | none => exact .nil
  | some child => exact List.pairwise_singleton _ _

theorem partAs_append {back : List Piece} (behind : back.Pairwise (Piece.Before source))
    (before : ∀ child ∈ node.child? label, ∀ piece ∈ back, (Piece.part child).Before source piece) :
    (partAs node label ++ back).Pairwise (Piece.Before source) := by
  refine List.pairwise_append.mpr ⟨partAs_before, behind, ?_⟩
  intro piece member other among
  obtain ⟨child, found, rfl⟩ := List.mem_map.mp member
  exact before child (Option.mem_toList.mp found) other among

theorem function_before :
    (Piece.declare names (partStart node .body) :: partAs node .body).Pairwise
      (Piece.Before source) := by
  refine List.pairwise_cons.mpr ⟨fun piece among => ?_, partAs_before⟩
  obtain ⟨body, found, rfl⟩ := List.mem_map.mp among
  change partStart node .body ≤ body.start
  rw [partStart, Option.mem_toList.mp found]
  exact Nat.le_refl _

theorem last_before (laid : node.Laid) :
    (partAs node label ++ [Piece.declare names node.stop]).Pairwise (Piece.Before source) := by
  refine partAs_append (List.pairwise_singleton _ _) fun child found piece among => ?_
  cases List.mem_singleton.mp among
  exact (Node.laid_inside laid (Node.mem_of_child? found)).2

/-- What is on the left of a clause can be walked behind what is on the right, since expressions
declare nothing around them. -/
theorem clause_before (laid : node.Laid)
    (expressions : ∀ child ∈ node.children, isExpression child = true) :
    (partAs node .right ++ if node.hasSymbol ":=" then [Piece.declare names node.stop]
      else partAs node .left).Pairwise (Piece.Before source) := by
  split
  · exact last_before laid
  · refine partAs_append partAs_before fun right found piece among => ?_
    obtain ⟨left, leftFound, rfl⟩ := List.mem_map.mp among
    exact .inr ⟨expression_declared right (expressions _ (Node.mem_of_child? found)),
      expression_declared left (expressions _
        (Node.mem_of_child? (Option.mem_toList.mp leftFound)))⟩

theorem switch_before (formed : Formed node) (kind : node.kind = .typeSwitchStatement) :
    (partAs node .initializer ++ partAs node .value ++
      Piece.declare names (partStop node .value) ::
        (node.children.filter isCase).map .part).Pairwise (Piece.Before source) := by
  obtain ⟨value, found, before, behind⟩ := (formed_parted formed).guarded kind
  have stop : partStop node .value = value.stop := by
    rw [partStop, Option.mem_def.mp found]
    rfl
  have cases : ∀ piece ∈ (node.children.filter isCase).map Piece.part,
      ∃ clause, piece = .part clause ∧ value.stop ≤ clause.start := by
    intro piece among
    obtain ⟨clause, member, rfl⟩ := List.mem_map.mp among
    obtain ⟨among, isOne⟩ := List.mem_filter.mp member
    exact ⟨clause, rfl, behind clause among isOne⟩
  -- What ends where the value does or before it comes before all that is behind the value.
  have later : ∀ first : Node, first.stop ≤ value.stop →
      ∀ piece ∈ Piece.declare names (partStop node .value) ::
        (node.children.filter isCase).map .part, (Piece.part first).Before source piece := by
    intro first le piece among
    rcases List.mem_cons.mp among with rfl | among
    · exact stop ▸ le
    · obtain ⟨clause, rfl, starts⟩ := cases piece among
      exact .inl (Nat.le_trans le starts)
  have apart := (Node.laid_arranged formed.laid).apart
  rw [List.append_assoc]
  refine partAs_append (partAs_append (List.pairwise_cons.mpr ⟨fun piece among => ?_,
    parts_before List.filter_sublist apart⟩) ?_) ?_
  · obtain ⟨clause, rfl, starts⟩ := cases piece among
    exact stop ▸ starts
  · intro first firstFound
    cases Option.some.inj (found.symm.trans firstFound)
    exact later value (Nat.le_refl _)
  · intro first firstFound piece among
    have le := before first firstFound
    have valueLaid := (formed_child formed (Node.mem_of_child? found)).laid
    have ordered := (Node.laid_arranged valueLaid).ordered
    rcases List.mem_append.mp among with front | back
    · obtain ⟨second, secondFound, rfl⟩ := List.mem_map.mp front
      cases Option.some.inj (found.symm.trans (Option.mem_toList.mp secondFound))
      exact .inl le
    · exact later first (Nat.le_trans le ordered) piece back

/-- The pieces of a node are in order. -/
theorem pieces_before (formed : Formed node) :
    (pieces source node).Pairwise (Piece.Before source) := by
  have apart := (Node.laid_arranged formed.laid).apart
  have each : (partsOf node.children).Pairwise (Piece.Before source) :=
    parts_before List.filter_sublist apart
  unfold pieces
  split
  · exact .nil
  · split
    all_goals rename_i kind
    iterate 3 exact function_before
    · exact List.pairwise_singleton _ _
    · split
      · split <;> exact List.pairwise_singleton _ _
      · exact each
    · exact partAs_before
    · exact (parts_before List.filter_sublist apart).sublist (elementParts_sublist _)
    iterate 3 exact last_before formed.laid
    · exact clause_before formed.laid ((formed_parted formed).clauses (.inl kind))
    · exact clause_before formed.laid ((formed_parted formed).clauses (.inr kind))
    · exact switch_before formed kind
    · exact each

end

end AspectLoom.Scoping
