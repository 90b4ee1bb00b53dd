import AspectLoom.Assoc
import AspectLoom.Program.Declaration
import AspectLoom.Syntax.Node
/-!
Canonical types of the types that a file writes. What a name stands for depends on the package and
on the imports of the file.
-/
namespace AspectLoom

open Syntax (Node)

structure TypeContext where
  packagePath : String
  /-- The import paths behind the local names of imports. -/
  aliases : List (String × String)
deriving Repr, Inhabited

namespace TypeContext

def importPath? (context : TypeContext) (localName : String) : Option String :=
  Assoc.find? localName context.aliases

/-- The type of an unqualified name. -/
def localType (context : TypeContext) (name : String) : GoType :=
  if GoType.predeclared.contains name then ⟨name⟩ else .named context.packagePath name

def partText (source : String) (label : Syntax.Label) (node : Node) : String :=
  ((node.child? label).map (Node.text source)).getD ""

/-- A qualified name by its import path; an unknown qualifier is kept as it is written. -/
def qualifiedText (context : TypeContext) (source : String) (node : Node) : String :=
  match context.importPath? (partText source .package node) with
  | some path => path ++ "." ++ partText source .name node
  | none => node.text source

/-- What stands between a token and the one before it: one blank for any gap. -/
def gap (previous : Option Nat) (node : Node) : String :=
  if previous.any fun stop => stop < node.start then " " else ""

mutual

def typeText (context : TypeContext) (source : String) (node : Node) : String :=
  match node with
  | ⟨.comment, _, _, _⟩ => ""
  | ⟨.qualifiedType, label, span, children⟩ =>
    qualifiedText context source ⟨.qualifiedType, label, span, children⟩
  | ⟨.typeIdentifier, _, span, _⟩ => (context.localType (Text.slice source span)).text
  | ⟨_, _, span, []⟩ => Text.slice source span
  | ⟨_, _, _, first :: rest⟩ => typeTexts context source none (first :: rest)

def typeTexts (context : TypeContext) (source : String) (previous : Option Nat)
    (nodes : List Node) : String :=
  match nodes with
  | [] => ""
  | node :: rest =>
    if node.kind == .comment then typeTexts context source previous rest
    else
      gap previous node ++ typeText context source node ++
        typeTexts context source (some node.stop) rest

end

/-- The canonical type of a type node. -/
def canonical (context : TypeContext) (source : String) (node : Node) : GoType :=
  ⟨typeText context source node⟩

/-! Signatures -/

def isParameter (node : Node) : Bool :=
  node.kind == .parameterDeclaration || node.kind == .variadicParameterDeclaration

/-- The names that a declaration gives. -/
def namesOf (source : String) (node : Node) : List String :=
  (node.childrenAs .name).map (Node.text source)

def declaredParams (context : TypeContext) (source : String) (node : Node) : List Param :=
  match node.child? .type with
  | none => []
  | some type =>
    let type := context.canonical source type
    match namesOf source node with
    | [] => [⟨none, type⟩]
    | names => names.map fun name => ⟨some name, type⟩

/-- The declarations of a list that have a type. -/
def typedParameters (list : Node) : List Node :=
  list.namedChildren.filter fun node => isParameter node && (node.child? .type).isSome

/-- The parameters of a list, and whether the last declaration is variadic. -/
def parameterList (context : TypeContext) (source : String) (list : Node) : List Param × Bool :=
  let declarations := typedParameters list
  (declarations.flatMap (declaredParams context source),
    declarations.getLast?.any fun node => node.kind == .variadicParameterDeclaration)

def resultList (context : TypeContext) (source : String) (result : Option Node) : List Param :=
  match result with
  | none => []
  | some node =>
    if node.kind == .parameterList then (context.parameterList source node).1
    else [⟨none, context.canonical source node⟩]

/-- The signature of a function, method or interface element. -/
def signature (context : TypeContext) (source : String) (node : Node) : Signature :=
  let (params, variadic) := match node.child? .parameters with
    | some list => context.parameterList source list
    | none => ([], false)
  ⟨params, context.resultList source (node.child? .result), variadic⟩

/-! Types of literals -/

/-- An expression without the parentheses around it. -/
def bareExpression? (node : Node) : Option Node :=
  if node.kind == .parenthesizedExpression then
    match _ : node.firstNamed? with
    | some inner => bareExpression? inner
    | none => none
  else some node
termination_by sizeOf node
decreasing_by exact Node.sizeOf_firstNamed?_lt ‹_›

def compositeType? (context : TypeContext) (source : String) (node : Node) : Option GoType :=
  (node.child? .type).map (context.canonical source)

/-- A type that is written where the grammar expects an expression. -/
def typeOfExpression? (context : TypeContext) (source : String) (node : Node) : Option GoType :=
  match node.kind with
  | .identifier => some (context.localType (node.text source))
  | .selectorExpression => do
    let operand ← node.child? .operand
    let field ← node.child? .field
    let path ← context.importPath? (operand.text source)
    return .named path (field.text source)
  | kind =>
    if kind.isType || kind == .typeIdentifier then some (context.canonical source node) else none

/-- The type behind `&` before a composite literal. -/
def addressType? (context : TypeContext) (source : String) (node : Node) : Option GoType := do
  let operator ← node.child? .operator
  let operand ← node.child? .operand
  if operator.text source = "&" ∧ operand.kind = .compositeLiteral then
    (context.compositeType? source operand).map GoType.pointerTo
  else none

/-- The type of a call of `new`. -/
def allocationType? (context : TypeContext) (source : String) (node : Node) : Option GoType := do
  let function ← node.child? .function
  if function.kind = .identifier ∧ function.text source = "new" then
    let argument ← (← node.child? .arguments).firstNamed?
    (context.typeOfExpression? source argument).map GoType.pointerTo
  else none

/-- The type of an expression that spells its type. -/
def literalType? (context : TypeContext) (source : String) (node : Node) : Option GoType :=
  (bareExpression? node).bind fun node =>
    match node.kind with
    | .compositeLiteral => context.compositeType? source node
    | .unaryExpression => context.addressType? source node
    | .callExpression => context.allocationType? source node
    | _ => none

end TypeContext
end AspectLoom
