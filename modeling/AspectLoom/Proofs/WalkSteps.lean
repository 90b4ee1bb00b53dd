import AspectLoom.Proofs.Lookups
import AspectLoom.Proofs.ScopedPlaces
/-!
The steps of a walk. What a walk does in a node, and in which order, is given by the node alone: it
walks parts, declares names and looks up what names refer to. A block is walked as one list of steps
in a scope of its own, among which the parts are only blocks.
-/
namespace AspectLoom.Resolver

open Actions Scoping
open Syntax (Node Kind)

/-- Something that a walk does. -/
inductive Step where
  /-- It walks a part of a node. -/
  | visit (node : Node)
  /-- It declares the names of a node. -/
  | declare (node : Node)
  /-- It records what a name or a selector refers to. -/
  | refer (node : Node)

/-- The types of the names that a node declares, as they can be told where it stands. -/
def declares (resolver : Resolver) (node : Node) : ResolveM Scope :=
  match node.kind with
  | .functionDeclaration | .methodDeclaration | .funcLiteral =>
    return (parameterLists node).flatMap resolver.parameterBindings
  | .shortVarDeclaration => do
    let names := listItems (node.child? .left)
    let types ← resolver.assignedTypes names.length (listItems (node.child? .right))
    return ((names.zip types).filter fun (name, _) => name.kind == .identifier).map
      fun (name, type) => (resolver.text name, type)
  | .varSpec | .constSpec => do
    let names := TypeContext.namesOf resolver.source node
    let types ← match node.child? .type with
      | some type =>
        pure (names.map fun _ => some (resolver.context.canonical resolver.source type))
      | none => resolver.assignedTypes names.length (listItems (node.child? .value))
    return names.zip types
  | .rangeClause => do
    let element ← match node.child? .right with
      | some right => pure ((← resolver.infer right).bind GoType.sliceElem?)
      | none => pure none
    return (listItems (node.child? .left)).zipIdx.map fun (name, position) =>
      (resolver.text name, if position = 1 then element else none)
  | .receiveStatement =>
    return (listItems (node.child? .left)).map fun name => (resolver.text name, none)
  | .typeSwitchStatement =>
    return (listItems (node.child? .alias)).map fun name => (resolver.text name, none)
  | _ => return []

/-- Records what a name or a selector refers to. What stands before the selector has been walked
unless it is a name. -/
def refer (resolver : Resolver) (node : Node) : ResolveM Unit :=
  match node.kind with
  | .identifier => resolver.resolveName node
  | .selectorExpression =>
    match node.child? .operand, node.child? .field with
    | some operand, some field => do
      let name := resolver.text field
      if operand.kind = .identifier then resolver.resolveNameSelector node operand name
      else resolver.resolveMethod node operand name (← resolver.infer operand)
    | _, _ => return
  | _ => return

def carryOut (resolver : Resolver) : Step → ResolveM Unit
  | .visit node => resolver.walk node
  | .declare node => resolver.declares node >>= bindAll
  | .refer node => resolver.refer node

def carry (resolver : Resolver) (steps : List Step) : ResolveM Unit := steps.forM resolver.carryOut

/-- The step of a node at one of its pieces. -/
def stepAt (node : Node) : Piece → Step
  | .part child => .visit child
  | .declare _ _ => .declare node
  | .use _ _ => .refer node

/-- A selector with what stands before and behind the dot. -/
structure IsSelector (selector operand field : Node) : Prop where
  kind : selector.kind = .selectorExpression
  isOperand : selector.child? .operand = some operand
  isField : selector.child? .field = some field

/-- A selector behind a name. -/
structure IsReference (selector operand field : Node) : Prop
    extends IsSelector selector operand field where
  isName : operand.kind = .identifier

/-- A selector behind an expression that is no name. -/
def isBehindExpression (node : Node) : Bool :=
  node.kind == .selectorExpression &&
    match node.child? .operand, node.child? .field with
    | some operand, some _ => operand.kind != .identifier
    | _, _ => false

/-- The steps of a node: one at each piece, and then what a selector behind an expression is. -/
def steps (source : String) (node : Node) : List Step :=
  (pieces source node).map (stepAt node) ++ if isBehindExpression node then [.refer node] else []

def aroundBlock (node : Node) (action : ResolveM Unit) : ResolveM Unit :=
  if isBlock node then inScope action else action

section
variable {resolver : Resolver} {node child : Node}

theorem mem_steps_visit {source : String} (member : .visit child ∈ steps source node) :
    .part child ∈ pieces source node := by
  rcases List.mem_append.mp member with here | last
  · obtain ⟨piece, among, same⟩ := List.mem_map.mp here
    cases piece with
    | part inner =>
        cases same
        exact among
    | declare names place => cases same
    | use name isOperand => cases same
  · split at last
    · cases List.mem_singleton.mp last
    · cases last

theorem carry_cons (first : Step) (rest : List Step) :
    resolver.carry (first :: rest) = resolver.carryOut first >>= fun _ => resolver.carry rest := rfl

theorem carry_append (front back : List Step) :
    resolver.carry (front ++ back) = resolver.carry front >>= fun _ => resolver.carry back := by
  simp [carry]

theorem carry_declare (names : List String) (place : Nat) :
    resolver.carry ([.declare names place].map (stepAt node)) =
      resolver.declares node >>= bindAll := by
  simp [carry, stepAt, carryOut]

theorem carry_refer (name : Node) (isOperand : Bool) :
    resolver.carry ([.use name isOperand].map (stepAt node)) = resolver.refer node := by
  simp [carry, stepAt, carryOut]

/-! Parts -/

theorem carry_part (label : Syntax.Label) :
    resolver.carry ((partAs node label).map (stepAt node)) = resolver.walkChild node label := by
  rw [walkChild]
  split
  · rename_i found
    simp [carry, partAs, found, stepAt, carryOut]
  · rename_i found
    simp [carry, partAs, found]

theorem carry_parts (nodes : List Node) :
    resolver.carry ((partsOf nodes).map (stepAt node)) = resolver.walkEach nodes := by
  induction nodes with
  | nil =>
      rw [walkEach]
      rfl
  | cons first rest ih =>
      rw [walkEach, ← ih]
      cases named : first.isNamed <;> simp [carry, partsOf, named, stepAt, carryOut]

theorem carry_elements (nodes : List Node) :
    resolver.carry ((elementParts nodes).map (stepAt node)) = resolver.walkElement true nodes := by
  have others : ∀ nodes, resolver.carry ((partsOf nodes).map (stepAt node)) =
      resolver.walkElement false nodes := by
    intro nodes
    induction nodes with
    | nil =>
        rw [walkElement]
        rfl
    | cons first rest ih =>
        rw [walkElement, ← ih]
        cases named : first.isNamed <;> simp [carry, partsOf, named, stepAt, carryOut]
  induction nodes with
  | nil =>
      rw [walkElement]
      rfl
  | cons first rest ih =>
      rw [walkElement, ← ih, ← others]
      cases named : first.isNamed <;> cases isKey : isFieldKey first <;>
        simp [carry, elementParts, partsOf, named, isKey, stepAt, carryOut]

theorem carry_cases (nodes : List Node) :
    resolver.carry (((nodes.filter isCase).map Piece.part).map (stepAt node)) =
      resolver.walkCases nodes := by
  induction nodes with
  | nil =>
      rw [walkCases]
      rfl
  | cons first rest ih =>
      rw [walkCases, ← ih]
      cases isOne : isCase first <;> simp [carry, isOne, stepAt, carryOut]

/-! Declarations -/

theorem bindParameters_declares (resolver : Resolver) {node : Node}
    (kinds : node.kind = .functionDeclaration ∨ node.kind = .methodDeclaration ∨
      node.kind = .funcLiteral) :
    resolver.bindParameters node = resolver.declares node >>= bindAll := by
  rw [declares]
  rcases kinds with kind | kind | kind <;> rw [kind] <;> rfl

theorem bindShortVar_declares (resolver : Resolver) {node : Node}
    (kind : node.kind = .shortVarDeclaration) :
    resolver.bindShortVar node = resolver.declares node >>= bindAll := by
  rw [declares, kind]
  simp [bindShortVar]

theorem bindSpec_declares (resolver : Resolver) {node : Node}
    (kinds : node.kind = .varSpec ∨ node.kind = .constSpec) :
    resolver.bindSpec node = resolver.declares node >>= bindAll := by
  rw [declares, bindSpec]
  rcases kinds with kind | kind <;> rw [kind] <;> cases node.child? .type <;> simp

theorem bindRange_declares (resolver : Resolver) {node : Node} (kind : node.kind = .rangeClause) :
    resolver.bindRange node = resolver.declares node >>= bindAll := by
  rw [declares, bindRange, kind]
  cases node.child? .right <;> simp

theorem bindUntyped_declares (resolver : Resolver) {node : Node}
    (kind : node.kind = .receiveStatement) :
    resolver.bindUntyped (node.child? .left) = resolver.declares node >>= bindAll := by
  rw [declares, kind]
  rfl

theorem bindAlias_declares (resolver : Resolver) {node : Node}
    (kind : node.kind = .typeSwitchStatement) :
    resolver.bindUntyped (node.child? .alias) = resolver.declares node >>= bindAll := by
  rw [declares, kind]
  rfl

/-! Single steps -/

theorem declares_looks (resolver : Resolver) (node : Node) : Looks (resolver.declares node) := by
  unfold declares
  split
  · exact looks_pure _
  · exact looks_pure _
  · exact looks_pure _
  · exact looks_bind (resolver.assignedTypes_looks _ _) fun _ => looks_pure _
  -- a constant is declared as a variable is
  iterate 2
    · dsimp only
      split
      · exact looks_bind (looks_pure _) fun _ => looks_pure _
      · exact looks_bind (resolver.assignedTypes_looks _ _) fun _ => looks_pure _
  · split
    · exact looks_bind (resolver.infer_looks _) fun _ =>
        looks_bind (looks_pure _) fun _ => looks_pure _
    · exact looks_bind (looks_pure _) fun _ => looks_pure _
  · exact looks_pure _
  · exact looks_pure _
  · exact looks_pure _

theorem declare_quiet (resolver : Resolver) (node : Node) :
    Quiet (resolver.carryOut (.declare node)) :=
  steps_bind (resolver.declares_looks node).quiet fun _ => bindAll_quiet _

theorem isBehindExpression_iff : isBehindExpression node = true ↔
    ∃ operand field, IsSelector node operand field ∧ operand.kind ≠ .identifier := by
  constructor
  · intro behind
    rw [isBehindExpression, Bool.and_eq_true, beq_iff_eq] at behind
    obtain ⟨kind, operands⟩ := behind
    split at operands
    · rename_i operand field isOperand isField
      exact ⟨operand, field, ⟨kind, isOperand, isField⟩, by simpa using operands⟩
    · cases operands
  · rintro ⟨operand, field, isSelector, noName⟩
    simp [isBehindExpression, isSelector.kind, isSelector.isOperand, isSelector.isField, noName]

theorem refer_name (resolver : Resolver) {selector operand field : Node}
    (selects : IsSelector selector operand field) (isName : operand.kind = .identifier) :
    resolver.refer selector =
      resolver.resolveNameSelector selector operand (resolver.text field) := by
  rw [refer, selects.kind]
  dsimp only
  rw [selects.isOperand, selects.isField]
  exact if_pos isName

theorem refer_expression (resolver : Resolver) {selector operand field : Node}
    (selects : IsSelector selector operand field) (noName : operand.kind ≠ .identifier) :
    resolver.refer selector = (do
      resolver.resolveMethod selector operand (resolver.text field) (← resolver.infer operand)) := by
  rw [refer, selects.kind]
  dsimp only
  rw [selects.isOperand, selects.isField]
  exact if_neg noName

/-! The walk -/

theorem noBlock_of_skipped (skipped : isSkipped node.kind = true) : isBlock node = false := by
  unfold isBlock
  cases kind : node.kind <;> first | rfl | (rw [kind] at skipped; cases skipped)

theorem steps_of_notBehind {source : String} (notBehind : isBehindExpression node = false) :
    steps source node = (pieces source node).map (stepAt node) := by
  rw [steps, notBehind]
  exact List.append_nil _

theorem steps_of_kind {source : String} (other : node.kind ≠ .selectorExpression) :
    steps source node = (pieces source node).map (stepAt node) :=
  steps_of_notBehind (by rw [isBehindExpression, beq_eq_false_iff_ne.mpr other, Bool.false_and])

/-- Behind an expression a selector is looked up after the expression has been walked. -/
theorem steps_behind {source : String} {operand field : Node}
    (isSelector : IsSelector node operand field) (noName : operand.kind ≠ .identifier) :
    steps source node = [.visit operand, .refer node] := by
  have behind := isBehindExpression_iff.mpr ⟨operand, field, isSelector, noName⟩
  rw [steps, pieces_selector source isSelector.kind isSelector.isOperand isSelector.isField,
    if_neg noName, if_pos behind]
  rfl

theorem walk_selector (kind : node.kind = .selectorExpression) :
    (match _ : node.child? .operand, node.child? .field with
      | some operand, some field =>
        if operand.kind = .identifier then
          resolver.resolveNameSelector node operand (resolver.text field)
        else do
          resolver.walk operand
          resolver.resolveMethod node operand (resolver.text field) (← resolver.infer operand)
      | _, _ => resolver.walkEach node.children) =
        resolver.carry (steps resolver.source node) := by
  have unskipped : ¬isSkipped node.kind = true := by simp [kind, isSkipped, Kind.isType]
  rw [steps, Scoping.pieces, if_neg unskipped, kind]
  cases found : node.child? .operand with
  | none => simp [isBehindExpression, found, kind, carry_parts]
  | some operand =>
      cases foundField : node.child? .field with
      | none => simp [isBehindExpression, found, foundField, kind, carry_parts]
      | some field =>
          by_cases named : operand.kind = .identifier <;>
            simp [isBehindExpression, found, foundField, kind, named, carry, carryOut, stepAt,
              refer]

/-! What a walk does in a node, by the pieces of the node -/

section
variable {all : List Piece} {action : ResolveM Unit}

theorem eq_steps_of_plain (other : node.kind ≠ .selectorExpression) (noBlock : isBlock node = false)
    (pieces : Scoping.pieces resolver.source node = all)
    (carried : resolver.carry (all.map (stepAt node)) = action) :
    action = aroundBlock node (resolver.carry (steps resolver.source node)) := by
  rw [aroundBlock, noBlock, steps_of_kind other, pieces, carried]
  rfl

theorem eq_steps_of_block (other : node.kind ≠ .selectorExpression) (isOne : isBlock node = true)
    (pieces : Scoping.pieces resolver.source node = all)
    (carried : resolver.carry (all.map (stepAt node)) = action) :
    inScope action = aroundBlock node (resolver.carry (steps resolver.source node)) := by
  rw [aroundBlock, isOne, steps_of_kind other, pieces, carried]
  rfl

end

theorem function_eq_steps (unskipped : ¬isSkipped node.kind = true)
    (kinds : node.kind = .functionDeclaration ∨ node.kind = .methodDeclaration ∨
      node.kind = .funcLiteral) :
    inScope (resolver.bindParameters node >>= fun _ => resolver.walkChild node .body) =
      aroundBlock node (resolver.carry (steps resolver.source node)) := by
  have pieces : Scoping.pieces resolver.source node =
      [.declare (parameterNames resolver.source node) (partStart node .body)] ++
        partAs node .body := by
    rw [Scoping.pieces, if_neg unskipped]
    rcases kinds with kind | kind | kind <;> rw [kind] <;> rfl
  refine eq_steps_of_block ?_ ?_ pieces ?_
  · rcases kinds with kind | kind | kind <;> simp [kind]
  · rcases kinds with kind | kind | kind <;> simp [isBlock, kind]
  · rw [List.map_append, carry_append, carry_declare, carry_part, bindParameters_declares _ kinds]

/-- A range clause or a received value: what is on the left is declared or only walked. -/
theorem clause_eq_steps {binds : ResolveM Unit} (unskipped : ¬isSkipped node.kind = true)
    (kinds : node.kind = .rangeClause ∨ node.kind = .receiveStatement)
    (declared : binds = resolver.declares node >>= bindAll) :
    (resolver.walkChild node .right >>= fun _ =>
        if node.hasSymbol ":=" then binds else resolver.walkChild node .left) =
      aroundBlock node (resolver.carry (steps resolver.source node)) := by
  have pieces : Scoping.pieces resolver.source node = partAs node .right ++
      if node.hasSymbol ":=" then
        [.declare (listNames resolver.source (node.child? .left)) node.stop]
      else partAs node .left := by
    rw [Scoping.pieces, if_neg unskipped]
    rcases kinds with kind | kind <;> rw [kind]
  refine eq_steps_of_plain ?_ ?_ pieces ?_
  · rcases kinds with kind | kind <;> simp [kind]
  · rcases kinds with kind | kind <;> simp [isBlock, hasScope, kind]
  · rw [List.map_append, carry_append, carry_part, declared]
    split
    · rw [carry_declare]
    · rw [carry_part]

/-- A declaration whose names can be used behind it only. -/
theorem declaration_eq_steps {label : Syntax.Label} {names : List String} {binds : ResolveM Unit}
    (other : node.kind ≠ .selectorExpression) (noBlock : isBlock node = false)
    (pieces : Scoping.pieces resolver.source node = partAs node label ++ [.declare names node.stop])
    (declared : binds = resolver.declares node >>= bindAll) :
    (resolver.walkChild node label >>= fun _ => binds) =
      aroundBlock node (resolver.carry (steps resolver.source node)) := by
  refine eq_steps_of_plain other noBlock pieces ?_
  rw [List.map_append, carry_append, carry_declare, carry_part, declared]

theorem skipped_eq_steps (skipped : isSkipped node.kind = true) :
    (pure () : ResolveM Unit) = aroundBlock node (resolver.carry (steps resolver.source node)) := by
  have other : node.kind ≠ .selectorExpression := by
    intro kind
    rw [kind] at skipped
    cases skipped
  have pieces : Scoping.pieces resolver.source node = [] := by
    rw [Scoping.pieces, if_pos skipped]
  exact eq_steps_of_plain other (noBlock_of_skipped skipped) pieces rfl

/-- A walk carries out the steps of a node, in a scope of its own if the node is a block. -/
theorem walk_eq_steps (resolver : Resolver) (node : Node) :
    resolver.walk node = aroundBlock node (resolver.carry (steps resolver.source node)) := by
  rw [walk]
  split
  · exact skipped_eq_steps ‹_›
  · rename_i unskipped
    -- One case for each kind of node that a walk tells apart; the last stands for all others.
    split
    all_goals rename_i kind
    · exact function_eq_steps unskipped (.inl kind)
    · exact function_eq_steps unskipped (.inr (.inl kind))
    · exact function_eq_steps unskipped (.inr (.inr kind))
    · refine eq_steps_of_plain (by simp [kind]) (by simp [isBlock, hasScope, kind])
        (pieces_identifier _ kind) ?_
      rw [carry_refer, refer, kind]
    · have noBlock : isBlock node = false := by simp [isBlock, hasScope, kind]
      rw [aroundBlock, noBlock]
      exact walk_selector kind
    · refine eq_steps_of_plain (by simp [kind]) (by simp [isBlock, hasScope, kind])
        (by rw [Scoping.pieces, if_neg unskipped, kind]) (carry_part .body)
    · refine eq_steps_of_plain (by simp [kind]) (by simp [isBlock, hasScope, kind])
        (by rw [Scoping.pieces, if_neg unskipped, kind]) (carry_elements _)
    · refine declaration_eq_steps (by simp [kind]) (by simp [isBlock, hasScope, kind])
        (by rw [Scoping.pieces, if_neg unskipped, kind]) (resolver.bindShortVar_declares kind)
    · refine declaration_eq_steps (by simp [kind]) (by simp [isBlock, hasScope, kind])
        (by rw [Scoping.pieces, if_neg unskipped, kind]) (resolver.bindSpec_declares (.inl kind))
    · refine declaration_eq_steps (by simp [kind]) (by simp [isBlock, hasScope, kind])
        (by rw [Scoping.pieces, if_neg unskipped, kind]) (resolver.bindSpec_declares (.inr kind))
    · exact clause_eq_steps unskipped (.inl kind) (resolver.bindRange_declares kind)
    · exact clause_eq_steps unskipped (.inr kind) (resolver.bindUntyped_declares kind)
    · refine eq_steps_of_block (by simp [kind]) (by simp [isBlock, hasScope, kind])
        (by rw [Scoping.pieces, if_neg unskipped, kind]) ?_
      rw [List.map_append, List.map_append, List.map_cons, carry_append, carry_append, carry_cons,
        carry_cases, carry_part, carry_part, resolver.bindAlias_declares kind]
      simp [stepAt, carryOut]
    · have other : node.kind ≠ .selectorExpression := fun kind => by contradiction
      have pieces : Scoping.pieces resolver.source node = partsOf node.children := by
        rw [Scoping.pieces, if_neg unskipped]
        split <;> first | rfl | contradiction
      split
      · rename_i isScope
        exact eq_steps_of_block other (by rw [isBlock, isScope]; rfl) pieces (carry_parts _)
      · rename_i unscoped
        have noBlock : isBlock node = false := by
          rw [isBlock, (Bool.not_eq_true _).mp unscoped, Bool.false_or]
          split <;> first | rfl | contradiction
        exact eq_steps_of_plain other noBlock pieces (carry_parts _)

/-! Blocks -/

/-- The steps of a node. Those of a part stand in place of the part unless it is a block. -/
def blockSteps (source : String) (node : Node) : List Step :=
  (steps source node).attach.flatMap fun
    | ⟨.visit child, _⟩ => if isBlock child then [.visit child] else blockSteps source child
    | ⟨.declare node, _⟩ => [.declare node]
    | ⟨.refer node, _⟩ => [.refer node]
termination_by sizeOf node
decreasing_by exact sizeOf_part_lt (mem_steps_visit ‹_›)

/-- What stands for a step in the block around it. -/
def Step.inBlock (source : String) : Step → List Step
  | .visit child => if isBlock child then [.visit child] else blockSteps source child
  | .declare node => [.declare node]
  | .refer node => [.refer node]

theorem blockSteps_eq (source : String) (node : Node) :
    blockSteps source node = (steps source node).flatMap (Step.inBlock source) := by
  rw [blockSteps]
  conv_rhs => rw [← List.attach_map_subtype_val (steps source node), List.flatMap_map]
  congr 1
  funext ⟨step, member⟩
  cases step <;> rfl

/-- Only blocks are left to be walked as parts. -/
theorem isBlock_of_visit (source : String) (node : Node)
    (member : .visit child ∈ blockSteps source node) : isBlock child = true := by
  rw [blockSteps_eq, List.mem_flatMap] at member
  obtain ⟨step, among, here⟩ := member
  cases step with
  | visit part =>
      rw [Step.inBlock] at here
      split at here
      · cases List.mem_singleton.mp here
        assumption
      · exact isBlock_of_visit source part here
  | declare node => cases List.mem_singleton.mp here
  | refer node => cases List.mem_singleton.mp here
termination_by sizeOf node
decreasing_by exact sizeOf_part_lt (mem_steps_visit among)

theorem carry_blockSteps (resolver : Resolver) (node : Node) :
    resolver.carry (blockSteps resolver.source node) =
      resolver.carry (steps resolver.source node) := by
  have each : ∀ step ∈ steps resolver.source node,
      resolver.carry (step.inBlock resolver.source) = resolver.carryOut step := by
    intro step member
    cases step with
    | visit part =>
        rw [Step.inBlock, carryOut, walk_eq_steps, ← carry_blockSteps resolver part, aroundBlock]
        split
        · rw [carry_cons, carryOut, walk_eq_steps, ← carry_blockSteps resolver part, aroundBlock,
            if_pos ‹_›]
          simp [carry]
        · rfl
    | declare node => simp [Step.inBlock, carry]
    | refer node => simp [Step.inBlock, carry]
  rw [blockSteps_eq]
  generalize steps resolver.source node = all at each
  induction all with
  | nil => rfl
  | cons step rest ih =>
      rw [List.forall_mem_cons] at each
      rw [List.flatMap_cons, carry_append, each.1, ih each.2, carry_cons]
termination_by sizeOf node
decreasing_by all_goals exact sizeOf_part_lt (mem_steps_visit ‹_›)

/-- A walk of a block carries out its steps in a scope of its own. -/
theorem walk_block (resolver : Resolver) (isOne : isBlock node = true) :
    resolver.walk node = inScope (resolver.carry (blockSteps resolver.source node)) := by
  rw [walk_eq_steps, aroundBlock, if_pos isOne, carry_blockSteps]

end
end AspectLoom.Resolver
