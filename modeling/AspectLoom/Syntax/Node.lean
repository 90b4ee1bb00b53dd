import AspectLoom.Text.Span
/-!
Syntax trees of Go source. A node has a kind, a span of the source and children in source order;
tokens such as braces are children too, so the leaves of a type spell it out. A child can have a
label, which is the part it plays in its parent.
-/
namespace AspectLoom.Syntax

inductive Kind where
  | sourceFile | packageClause | packageIdentifier | importDeclaration | importSpecList | importSpec
  | dot | blankIdentifier
  | constDeclaration | constSpec | varDeclaration | varSpecList | varSpec
  | typeDeclaration | typeSpec | typeAlias
  | functionDeclaration | methodDeclaration
  | typeParameterList | typeParameterDeclaration | typeConstraint
  | parameterList | parameterDeclaration | variadicParameterDeclaration
  | typeIdentifier | qualifiedType | genericType | typeArguments | typeElem | pointerType
  | arrayType | implicitLengthArrayType | sliceType | structType | fieldDeclarationList | fieldDeclaration
  | interfaceType | methodElem | mapType | channelType | functionType | negatedType
  | parenthesizedType
  | block | statementList | expressionStatement | sendStatement | receiveStatement | incStatement
  | decStatement | assignmentStatement | shortVarDeclaration | labeledStatement | labelName
  | emptyStatement | fallthroughStatement | breakStatement | continueStatement | gotoStatement
  | returnStatement | goStatement | deferStatement | ifStatement | forStatement | forClause
  | rangeClause | expressionSwitchStatement | expressionCase | defaultCase | typeSwitchStatement
  | typeCase | selectStatement | communicationCase
  | expressionList | identifier | fieldIdentifier | unaryExpression | binaryExpression
  | selectorExpression | indexExpression | sliceExpression | callExpression | argumentList
  | variadicArgument | typeAssertionExpression | typeConversionExpression
  | typeInstantiationExpression | parenthesizedExpression | compositeLiteral | literalValue
  | literalElement | keyedElement | funcLiteral
  | interpretedString | rawString | intLiteral | floatLiteral | imaginaryLiteral | runeLiteral
  | nilLiteral | trueLiteral | falseLiteral | iota
  | comment
  /-- A word or mark that stands for itself. -/
  | symbol (text : String)
deriving DecidableEq, Repr, Inhabited

namespace Kind

/-- Kinds of node that spell a type and are no mere name. -/
def isType : Kind → Bool
  | qualifiedType | genericType | pointerType | arrayType | implicitLengthArrayType | sliceType
  | structType | interfaceType | mapType | channelType | functionType | negatedType
  | parenthesizedType => true
  | _ => false

def isNamed : Kind → Bool
  | symbol _ => false
  | _ => true

end Kind

/-- The part that a child plays in its parent. -/
inductive Label where
  | name | type | typeParameters | parameters | result | receiver | body | function | arguments
  | operand | field | operator | key | value | left | right | initializer | condition | consequence
  | alternative | update | alias | package | path | tag | index | length | element | channel
  | communication | typeArguments
deriving DecidableEq, Repr, Inhabited

structure Node where
  kind : Kind
  label : Option Label := none
  span : Span
  children : List Node := []
deriving Inhabited

namespace Node

def start (node : Node) : Nat := node.span.start

def stop (node : Node) : Nat := node.span.stop

/-- The row and column at which a node begins. -/
def startPoint (source : String) (node : Node) : Text.Point := Text.pointAt source node.start

def isNamed (node : Node) : Bool := node.kind.isNamed

def namedChildren (node : Node) : List Node := node.children.filter isNamed

/-- The first child that plays a part. -/
def child? (node : Node) (label : Label) : Option Node :=
  node.children.find? fun child => child.label == some label

/-- All children that play a part. -/
def childrenAs (node : Node) (label : Label) : List Node :=
  node.children.filter fun child => child.label == some label

def firstNamed? (node : Node) : Option Node := node.namedChildren.head?

theorem mem_of_child? {node child : Node} {label : Label} (found : node.child? label = some child) :
    child ∈ node.children := List.mem_of_find?_eq_some found

theorem mem_of_firstNamed? {node child : Node} (found : node.firstNamed? = some child) :
    child ∈ node.children :=
  (List.mem_filter.1 (List.mem_of_head? found)).1

theorem sizeOf_lt_of_mem {node child : Node} (member : child ∈ node.children) :
    sizeOf child < sizeOf node := by
  have below := List.sizeOf_lt_of_mem member
  cases node
  simp only [Node.mk.sizeOf_spec] at *
  omega

theorem sizeOf_child?_lt {node child : Node} {label : Label}
    (found : node.child? label = some child) : sizeOf child < sizeOf node :=
  sizeOf_lt_of_mem (mem_of_child? found)

theorem sizeOf_firstNamed?_lt {node child : Node} (found : node.firstNamed? = some child) :
    sizeOf child < sizeOf node :=
  sizeOf_lt_of_mem (mem_of_firstNamed? found)

def firstOfKind? (node : Node) (kind : Kind) : Option Node :=
  node.namedChildren.find? fun child => child.kind == kind

/-- Whether a symbol is among the children. -/
def hasSymbol (node : Node) (text : String) : Bool :=
  node.children.any fun child => child.kind == .symbol text

def text (source : String) (node : Node) : String := Text.slice source node.span

def withLabel (label : Label) (node : Node) : Node := { node with label := some label }

/-- A node over its children, which it spans. -/
def spanning (kind : Kind) (children : List Node) : Node where
  kind := kind
  span := ⟨(children.head?.map start).getD 0, (children.getLast?.map stop).getD 0⟩
  children := children

/-- A node that stands at one place and has no children. -/
def leaf (kind : Kind) (span : Span) : Node where
  kind := kind
  span := span

def comment (span : Span) : Node := leaf .comment span

/-- Whether a span lies within a node and not at one of its ends. -/
def encloses (node : Node) (span : Span) : Bool :=
  node.start < span.start && span.stop < node.stop

def insertSorted (added : Node) : List Node → List Node
  | [] => [added]
  | node :: rest =>
    if node.start < added.start then node :: insertSorted added rest else added :: node :: rest

mutual

/-- Puts a comment into the innermost node that has other children on both sides of it. -/
def insertComment (span : Span) (node : Node) : Node :=
  match node with
  | ⟨kind, label, whole, children⟩ =>
    match insertCommentBelow span children with
    | some children => ⟨kind, label, whole, children⟩
    | none => ⟨kind, label, whole, insertSorted (comment span) children⟩

def insertCommentBelow (span : Span) (nodes : List Node) : Option (List Node) :=
  match nodes with
  | [] => none
  | node :: rest =>
    if node.encloses span then some (insertComment span node :: rest)
    else (insertCommentBelow span rest).map (node :: ·)

end

end Node
end AspectLoom.Syntax
