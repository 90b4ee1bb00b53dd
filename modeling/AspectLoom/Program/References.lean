import AspectLoom.Program.PackageCache
/-!
References to functions and methods. A file is walked with a stack of scopes; a name that no local
declaration hides is a use of the function or value of the package that it names, and a method is
found by the static type of what stands before it, where that type can be inferred. What stands
before a method is walked first, so inner uses come before outer ones.
-/
namespace AspectLoom

open Syntax (Node)

/-- The local names of a block, each with its type where it is known. -/
abbrev Scope := List (String × Option GoType)

/-- What a walk knows and has found. -/
structure WalkMemory where
  cache : PackageCache
  symbols : SymbolTable
  /-- The innermost scope comes first. -/
  scopes : List Scope := []
deriving Inhabited

/-- A file in the package that is being resolved. -/
structure Resolver where
  packages : PackageSource
  index : PackageIndex
  unit : CompilationUnit
  context : TypeContext
  dotImports : List String

abbrev ResolveM := ExceptT LoadError (StateM WalkMemory)

namespace Resolver

def source (resolver : Resolver) : String := resolver.unit.source

def text (resolver : Resolver) (node : Node) : String := node.text resolver.source

/-! Scopes -/

/-- Runs a walk in a scope of its own, which is gone afterwards in any case. -/
def inScope (walk : ResolveM Unit) : ResolveM Unit := ExceptT.mk do
  modify fun memory => { memory with scopes := [] :: memory.scopes }
  let outcome ← walk.run
  modify fun memory => { memory with scopes := memory.scopes.tail }
  return outcome

def bindIn (name : String) (type : Option GoType) : List Scope → List Scope
  | [] => []
  | scope :: outer => Assoc.insert name type scope :: outer

/-- Declares a local name. Outside of all scopes there are no local names. -/
def bind (name : String) (type : Option GoType) : ResolveM Unit :=
  if name = "_" then return
  else modify fun memory => { memory with scopes := bindIn name type memory.scopes }

def bindAll (names : List (String × Option GoType)) : ResolveM Unit :=
  names.forM fun (name, type) => bind name type

/-- The innermost local declaration of a name, with its type where it is known. -/
def local? (name : String) : ResolveM (Option (Option GoType)) := do
  return (← get).scopes.findSome? fun scope => Assoc.find? name scope

def isLocal (name : String) : ResolveM Bool := do return (← local? name).isSome

/-! Packages -/

def loading {α : Type} (action : LoadM α) : ResolveM α := ExceptT.mk do
  let memory ← get
  let (outcome, cache) := action.run memory.cache
  set { memory with cache := cache }
  return outcome

def package (resolver : Resolver) (path : String) : ResolveM (Option PackageIndex) :=
  loading (resolver.packages.package path)

def indexOf (resolver : Resolver) (path : String) : ResolveM (Option PackageIndex) :=
  if path = resolver.index.path then return some resolver.index else resolver.package path

/-- The first function of a name among the packages of dot imports. -/
def dotFunctionIn (resolver : Resolver) (name : String) :
    List String → ResolveM (Option Declaration)
  | [] => return none
  | path :: paths => do
    match (← resolver.package path).bind fun index => index.function? name with
    | some decl => return some decl
    | none => dotFunctionIn resolver name paths

def dotFunction (resolver : Resolver) (name : String) : ResolveM (Option Declaration) :=
  dotFunctionIn resolver name resolver.dotImports

def methodOf (resolver : Resolver) (type : GoType) (name : String) :
    ResolveM (Option Declaration) := do
  match type.namedParts? with
  | none => return none
  | some (path, base) => return (← resolver.indexOf path).bind fun index => index.method? base name

/-- The import path that a name stands for, unless it is hidden. -/
def importBehind? (resolver : Resolver) (operand : Node) : ResolveM (Option String) := do
  if operand.kind = .identifier then
    let name := resolver.text operand
    if ← isLocal name then return none else return resolver.context.importPath? name
  else return none

/-! Static types -/

def fieldOf (resolver : Resolver) (type : Option GoType) (name : String) :
    ResolveM (Option GoType) := do
  match type.bind GoType.namedParts? with
  | none => return none
  | some (path, base) => return (← resolver.indexOf path).bind fun index => index.field? base name

def resultTypes (decl : Option Declaration) : List GoType :=
  match decl with
  | some decl => decl.results.map Param.type
  | none => []

/-- The result types of calling a name. -/
def namedResults (resolver : Resolver) (name : String) : ResolveM (List GoType) := do
  if ← isLocal name then return []
  else if resolver.index.hasType name then return [resolver.context.localType name]
  else
    match resolver.index.function? name with
    | some decl => return resultTypes (some decl)
    | none => return resultTypes (← resolver.dotFunction name)

/-- The type of a conversion to a type in parentheses. -/
def conversionTypes (resolver : Resolver) (function : Node) : List GoType :=
  (function.firstNamed?.bind (resolver.context.typeOfExpression? resolver.source)).toList

def nameType? (resolver : Resolver) (name : String) : ResolveM (Option GoType) := do
  match ← local? name with
  | some type => return type
  | none => return resolver.index.value? name

def throughOperator (operator : String) (type : Option GoType) : Option GoType :=
  match operator with
  | "&" => type.map GoType.pointerTo
  | "*" => type.bind GoType.pointee?
  | _ => none

mutual

/-- The static type of an expression, where it can be told without a type checker. -/
def infer (resolver : Resolver) (node : Node) : ResolveM (Option GoType) := do
  match resolver.context.literalType? resolver.source node with
  | some type => return some type
  | none =>
    match node.kind with
    | .identifier => resolver.nameType? (resolver.text node)
    | .parenthesizedExpression =>
      match _ : node.firstNamed? with
      | some inner => infer resolver inner
      | none => return none
    | .unaryExpression =>
      match node.child? .operator, _ : node.child? .operand with
      | some operator, some operand =>
        return throughOperator (resolver.text operator) (← infer resolver operand)
      | _, _ => return none
    | .callExpression =>
      match ← callResults resolver node with
      | [type] => return some type
      | _ => return none
    | .selectorExpression =>
      match _ : node.child? .operand, node.child? .field with
      | some operand, some field =>
        match ← resolver.importBehind? operand with
        | some path =>
          return (← resolver.package path).bind fun index => index.value? (resolver.text field)
        | none => resolver.fieldOf (← infer resolver operand) (resolver.text field)
      | _, _ => return none
    | .indexExpression =>
      match _ : node.child? .operand with
      | some operand => return (← infer resolver operand).bind GoType.sliceElem?
      | none => return none
    | .typeAssertionExpression =>
      return (node.child? .type).map (resolver.context.canonical resolver.source)
    | _ => return none
termination_by 3 * sizeOf node + 2
decreasing_by all_goals (first
  | have shorter := Node.sizeOf_firstNamed?_lt ‹_›; omega
  | have shorter := Node.sizeOf_child?_lt ‹_›; omega
  | omega)

/-- The result types of a call. -/
def callResults (resolver : Resolver) (call : Node) : ResolveM (List GoType) := do
  match resolver.context.literalType? resolver.source call with
  | some type => return [type]
  | none =>
    match _ : call.child? .function with
    | none => return []
    | some function =>
      match function.kind with
      | .identifier => resolver.namedResults (resolver.text function)
      | .selectorExpression => return resultTypes (← selectorCallee resolver function)
      | .parenthesizedExpression => return resolver.conversionTypes function
      | _ => return []
termination_by 3 * sizeOf call + 1
decreasing_by
  have shorter := Node.sizeOf_child?_lt ‹_›
  omega

/-- The function or method that a selector expression names. -/
def selectorCallee (resolver : Resolver) (function : Node) : ResolveM (Option Declaration) := do
  match _ : function.child? .operand, function.child? .field with
  | some operand, some field =>
    match ← resolver.importBehind? operand with
    | some path =>
      return (← resolver.package path).bind fun index => index.function? (resolver.text field)
    | none =>
      match ← infer resolver operand with
      | some type => resolver.methodOf type (resolver.text field)
      | none => return none
  | _, _ => return none
termination_by 3 * sizeOf function
decreasing_by
  have shorter := Node.sizeOf_child?_lt ‹_›
  omega

end

def inferEach (resolver : Resolver) (nodes : List (Option Node)) :
    ResolveM (List (Option GoType)) :=
  nodes.mapM fun node =>
    match node with
    | some node => resolver.infer node
    | none => return none

/-- The types of as many names as are assigned: the results of one call, or one value each. -/
def assignedTypes (resolver : Resolver) (count : Nat) (values : List Node) :
    ResolveM (List (Option GoType)) := do
  match values with
  | [call] =>
    if count > 1 ∧ call.kind = .callExpression then
      let results ← resolver.callResults call
      return (List.range count).map fun position => results[position]?
    else resolver.inferEach ((List.range count).map fun position => values[position]?)
  | _ => resolver.inferEach ((List.range count).map fun position => values[position]?)

/-! Uses -/

def siteOf (resolver : Resolver) (node : Node) (shape : Shape) : Site :=
  let point := node.startPoint resolver.source
  { unit := resolver.unit.id, span := node.span, line := point.row + 1, column := point.column + 1,
    shape := shape }

def recordFunction (resolver : Resolver) (node : Node) (shape : Shape) (decl : Declaration) :
    ResolveM Unit :=
  modify fun memory =>
    let (id, symbols) := memory.symbols.add decl
    { memory with symbols := symbols.record ⟨resolver.siteOf node shape, .function id⟩ }

def recordValue (resolver : Resolver) (node : Node) (shape : Shape) : ResolveM Unit :=
  modify fun memory =>
    { memory with symbols := memory.symbols.record ⟨resolver.siteOf node shape, .other⟩ }

/-- Records what a bare name refers to. -/
def resolveName (resolver : Resolver) (node : Node) : ResolveM Unit := do
  let name := resolver.text node
  if name = "_" || (← isLocal name) then return
  else
    match resolver.index.function? name with
    | some decl => resolver.recordFunction node (.ident name) decl
    | none =>
      if resolver.index.hasValue name then resolver.recordValue node (.ident name)
      else
        match ← resolver.dotFunction name with
        | some decl => resolver.recordFunction node (.ident name) decl
        | none => return

/-- Records what a name behind an import refers to. -/
def resolveQualified (resolver : Resolver) (node : Node) (qualifier path name : String) :
    ResolveM Unit := do
  match ← resolver.package path with
  | none => return
  | some index =>
    match index.function? name with
    | some decl => resolver.recordFunction node (.qualified qualifier name) decl
    | none =>
      if index.hasValue name then resolver.recordValue node (.qualified qualifier name)
      else return

def methodExpression : Shape := .unsupported "method expression"

def resolveMethod (resolver : Resolver) (node operand : Node) (name : String)
    (type : Option GoType) : ResolveM Unit := do
  match type with
  | none => return
  | some type =>
    match ← resolver.methodOf type name with
    | some decl => resolver.recordFunction node (.selector operand.span name type) decl
    | none => return

/-- A selector behind a name, which can be a variable, an import or a type. -/
def resolveNameSelector (resolver : Resolver) (node operand : Node) (name : String) :
    ResolveM Unit := do
  let qualifier := resolver.text operand
  match ← local? qualifier with
  | some type => resolver.resolveMethod node operand name type
  | none =>
    match resolver.context.importPath? qualifier with
    | some path => resolver.resolveQualified node qualifier path name
    | none =>
      if resolver.index.hasType qualifier then
        match resolver.index.method? qualifier name with
        | some decl => resolver.recordFunction node methodExpression decl
        | none => return
      else
        resolver.resolveName operand
        resolver.resolveMethod node operand name (resolver.index.value? qualifier)

/-! Bindings -/

def parameterBindings (resolver : Resolver) (list : Node) : List (String × Option GoType) :=
  list.namedChildren.flatMap fun node =>
    let type := (node.child? .type).map (resolver.context.canonical resolver.source)
    let type := if node.kind = .variadicParameterDeclaration then type.map GoType.sliceOf else type
    (TypeContext.namesOf resolver.source node).map fun name => (name, type)

/-- The parameter lists of a function in the order in which their names are declared. -/
def parameterLists (function : Node) : List Node :=
  ([Syntax.Label.receiver, .parameters, .result].filterMap function.child?).filter fun list =>
    list.kind == .parameterList

def bindParameters (resolver : Resolver) (function : Node) : ResolveM Unit :=
  bindAll ((parameterLists function).flatMap (resolver.parameterBindings))

/-- The expressions of a list; an expression that is no list stands for itself. -/
def listItems (list : Option Node) : List Node :=
  match list with
  | none => []
  | some node =>
    if node.kind = .expressionList then
      node.namedChildren.filter fun item => item.kind != .comment
    else [node]

def bindShortVar (resolver : Resolver) (node : Node) : ResolveM Unit := do
  let names := listItems (node.child? .left)
  let types ← resolver.assignedTypes names.length (listItems (node.child? .right))
  bindAll (((names.zip types).filter fun (name, _) => name.kind == .identifier).map
    fun (name, type) => (resolver.text name, type))

def bindSpec (resolver : Resolver) (node : Node) : ResolveM Unit := do
  let names := TypeContext.namesOf resolver.source node
  let types ← match node.child? .type with
    | some type =>
      pure (names.map fun _ => some (resolver.context.canonical resolver.source type))
    | none => resolver.assignedTypes names.length (listItems (node.child? .value))
  bindAll (names.zip types)

/-- In a range over a slice the second name has the type of the elements. -/
def bindRange (resolver : Resolver) (node : Node) : ResolveM Unit := do
  let element ← match node.child? .right with
    | some right => pure ((← resolver.infer right).bind GoType.sliceElem?)
    | none => pure none
  bindAll ((listItems (node.child? .left)).zipIdx.map fun (name, position) =>
    (resolver.text name, if position = 1 then element else none))

def bindUntyped (resolver : Resolver) (list : Option Node) : ResolveM Unit :=
  bindAll ((listItems list).map fun name => (resolver.text name, none))

/-! The walk -/

def isSkipped (kind : Syntax.Kind) : Bool :=
  kind.isType ||
    match kind with
    | .comment | .typeDeclaration | .typeIdentifier | .fieldIdentifier | .labelName
    | .parameterList | .typeArguments => true
    | _ => false

/-- Kinds of node that have a scope of their own. -/
def hasScope : Syntax.Kind → Bool
  | .block | .ifStatement | .forStatement | .expressionSwitchStatement | .typeSwitchStatement
  | .selectStatement | .expressionCase | .typeCase | .defaultCase | .communicationCase => true
  | _ => false

/-- A bare name as the key of an element, which names a field. -/
def isFieldKey (node : Node) : Bool :=
  match node.kind with
  | .identifier | .fieldIdentifier => true
  | .literalElement =>
    match node.namedChildren with
    | [inner] => inner.kind == .identifier
    | _ => false
  | _ => false

def isCase (node : Node) : Bool := node.kind == .typeCase || node.kind == .defaultCase

theorem sizeOf_children_lt (node : Node) : sizeOf node.children < sizeOf node := by
  cases node
  simp only [Node.mk.sizeOf_spec]
  omega

mutual

/-- Records the uses in a node. -/
def walk (resolver : Resolver) (node : Node) : ResolveM Unit := do
  if isSkipped node.kind then return
  else
    match node.kind with
    | .functionDeclaration | .methodDeclaration | .funcLiteral => inScope do
      resolver.bindParameters node
      walkChild resolver node .body
    | .identifier => resolver.resolveName node
    | .selectorExpression =>
      match _ : node.child? .operand, node.child? .field with
      | some operand, some field =>
        let name := resolver.text field
        if operand.kind = .identifier then resolver.resolveNameSelector node operand name
        else
          walk resolver operand
          resolver.resolveMethod node operand name (← resolver.infer operand)
      | _, _ => walkEach resolver node.children
    | .compositeLiteral => walkChild resolver node .body
    | .keyedElement => walkElement resolver true node.children
    | .shortVarDeclaration =>
      walkChild resolver node .right
      resolver.bindShortVar node
    | .varSpec | .constSpec =>
      walkChild resolver node .value
      resolver.bindSpec node
    | .rangeClause =>
      walkChild resolver node .right
      if node.hasSymbol ":=" then resolver.bindRange node else walkChild resolver node .left
    | .receiveStatement =>
      walkChild resolver node .right
      if node.hasSymbol ":=" then resolver.bindUntyped (node.child? .left)
      else walkChild resolver node .left
    | .typeSwitchStatement => inScope do
      walkChild resolver node .initializer
      walkChild resolver node .value
      resolver.bindUntyped (node.child? .alias)
      walkCases resolver node.children
    | kind =>
      if hasScope kind then inScope (walkEach resolver node.children)
      else walkEach resolver node.children
termination_by 2 * sizeOf node + 1
decreasing_by all_goals (first
  | have shorter := Node.sizeOf_child?_lt ‹_›; omega
  | have shorter := sizeOf_children_lt node; omega)

/-- Walks the child in a part, if there is one. -/
def walkChild (resolver : Resolver) (node : Node) (label : Syntax.Label) : ResolveM Unit := do
  match _ : node.child? label with
  | some child => walk resolver child
  | none => return
termination_by 2 * sizeOf node
decreasing_by
  have shorter := Node.sizeOf_child?_lt ‹_›
  omega

/-- Walks nodes in order. Symbols refer to nothing. -/
def walkEach (resolver : Resolver) (nodes : List Node) : ResolveM Unit := do
  match nodes with
  | [] => return
  | node :: rest =>
    if node.isNamed then walk resolver node
    walkEach resolver rest
termination_by 2 * sizeOf nodes
decreasing_by all_goals (simp only [List.cons.sizeOf_spec]; omega)

/-- Walks an element of a literal. A first child that names a field refers to nothing. -/
def walkElement (resolver : Resolver) (isFirst : Bool) (nodes : List Node) : ResolveM Unit := do
  match nodes with
  | [] => return
  | node :: rest =>
    if node.isNamed then
      if !(isFirst && isFieldKey node) then walk resolver node
      walkElement resolver false rest
    else walkElement resolver isFirst rest
termination_by 2 * sizeOf nodes
decreasing_by all_goals (simp only [List.cons.sizeOf_spec]; omega)

def walkCases (resolver : Resolver) (nodes : List Node) : ResolveM Unit := do
  match nodes with
  | [] => return
  | node :: rest =>
    if isCase node then walk resolver node
    walkCases resolver rest
termination_by 2 * sizeOf nodes
decreasing_by all_goals (simp only [List.cons.sizeOf_spec]; omega)

end

/-- Walks a declaration of the package. What it declares is in the index, not in a scope. -/
def walkTopLevel (resolver : Resolver) (node : Node) : ResolveM Unit :=
  match node.kind with
  | .packageClause | .importDeclaration | .typeDeclaration | .comment => return
  | .varDeclaration | .constDeclaration =>
    (PackageIndex.valueSpecs node).forM fun spec => resolver.walkChild spec .value
  | _ => resolver.walk node

/-- Records the uses in a file. -/
def resolve (resolver : Resolver) (root : Node) : ResolveM Unit :=
  root.namedChildren.forM resolver.walkTopLevel

end Resolver
end AspectLoom
