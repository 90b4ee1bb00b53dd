import AspectLoom.Syntax.Grammar.Types
/-!
Expressions. The beginning of an operand can often be read both as a value and as a type, so both
readings are kept until what follows decides, and a conversion or an instantiation is preferred to
a call or an index expression where it is heavier.
-/
namespace AspectLoom.Syntax.Grammar

def innerExpression (inside : Inside) : Reader Reading := inside (.expression .inner)

/-- The readings of an operand so far. -/
structure Operand where
  value : Option Reading := none
  type : Option Reading := none
deriving Inhabited

namespace Operand

def ofValue (kind : Kind) (children : List Node) (weight : Int) : Operand :=
  { value := some ⟨.spanning kind children, weight⟩ }

/-- The head of a generic type, which only a name can be. -/
def genericHead? (operand : Operand) : Option Reading :=
  operand.type.bind fun type =>
    if type.node.kind == .typeIdentifier then some ⟨type.node, 0⟩
    else if type.node.kind == .qualifiedType || type.node.kind == .negatedType then some type
    else none

/-- The type as other phrases can hold it. An array that counts its elements needs a literal. -/
def fullType? (operand : Operand) : Option Reading :=
  operand.type.filter fun type => type.node.kind != .implicitLengthArrayType

/-- Kinds of type that a literal can have. -/
def hasLiterals : Kind → Bool
  | .mapType | .sliceType | .arrayType | .implicitLengthArrayType | .structType | .typeIdentifier
  | .genericType | .qualifiedType => true
  | _ => false

/-- The type of a literal whose brace follows. -/
def literalType? (mode : Mode) (operand : Operand) : Option Node :=
  operand.type.bind fun type =>
    if hasLiterals type.node.kind && (!mode.bare || operand.value.isNone) then some type.node
    else none

end Operand

/-! Arguments and literals -/

def argument (inside : Inside) : Reader (List Node) := do
  let value ← innerExpression inside
  match ← optionalSymbol "..." with
  | [] => return [value.node]
  | dots => return [.spanning .variadicArgument (value.node :: dots)]

def argumentList (inside : Inside) : Reader Node := do
  let opening ← symbol "("
  let items ← optionalNodes do
    let items ← separated comma (argument inside)
    return items ++ (← optionalSymbol ",")
  let closing ← symbol ")"
  return .spanning .argumentList ([opening] ++ items ++ [closing])

/-- The arguments of `new` and `make`, of which the first is a type. -/
def allocationArguments (inside : Inside) : Reader Node := do
  let opening ← symbol "("
  let items ← optionalNodes do
    let first ← typeGoal inside
    let rest ← many do
      let separator ← symbol ","
      return [separator, (← innerExpression inside).node]
    return first.node :: rest ++ (← optionalSymbol ",")
  let closing ← symbol ")"
  return .spanning .argumentList ([opening] ++ items ++ [closing])

def literalElement (inside : Inside) : Reader Node := do
  let content ← if ← nextIs "\x7b" then inside .literalValue else innerExpression inside
  return .spanning .literalElement [content.node]

def keyedElement (inside : Inside) : Reader (List Node) := do
  let first ← literalElement inside
  match ← optionalSymbol ":" with
  | [] => return [first]
  | colon =>
    let value ← literalElement inside
    return [.spanning .keyedElement ([first.withLabel .key] ++ colon ++ [value.withLabel .value])]

def literalValue (inside : Inside) : Reader Reading := do
  let opening ← symbol "\x7b"
  let items ← optionalNodes (separated comma (keyedElement inside))
  let trailing ← optionalSymbol ","
  let closing ← symbol "\x7d"
  return ⟨.spanning .literalValue ([opening] ++ items ++ trailing ++ [closing]), 0⟩

/-! How an operand begins -/

def valueOf (kind : Kind) (token : Token) : Operand :=
  { value := some ⟨ofToken kind token, 0⟩ }

/-- A name that stands alone: a value, and a type as well unless it is one of a few words. -/
def nameOperand (inside : Inside) : Reader Operand := do
  let token ← take isName
  match token.text with
  | "nil" => return valueOf .nilLiteral token
  | "true" => return valueOf .trueLiteral token
  | "false" => return valueOf .falseLiteral token
  | "iota" => return valueOf .iota token
  | "new" | "make" =>
    if ← nextIs "(" then
      let function := (ofToken .identifier token).withLabel .function
      let arguments ← partOf .arguments (allocationArguments inside)
      return .ofValue .callExpression [function, arguments] 0
    else return valueOf .identifier token
  | _ =>
    return {
      value := some ⟨ofToken .identifier token, 0⟩
      type := some ⟨ofToken .typeIdentifier token, nameWeight⟩ }

def literalOperand : Reader Operand := do
  let token ← take fun token => token.lexeme != .mark && token.lexeme != .keyword && !isName token
  match token.lexeme with
  | .int => return valueOf .intLiteral token
  | .float => return valueOf .floatLiteral token
  | .imaginary => return valueOf .imaginaryLiteral token
  | .rune => return valueOf .runeLiteral token
  | .rawText => return valueOf .rawString token
  | _ => return valueOf .interpretedString token

def parenthesizedValue (inside : Inside) : Reader Reading := do
  let opening ← symbol "("
  let value ← innerExpression inside
  let closing ← symbol ")"
  return ⟨.spanning .parenthesizedExpression [opening, value.node, closing], value.weight⟩

/-- Both readings of the same text; they end at the same place. -/
def both (value type : Reader Reading) : Reader Operand := do
  let start ← get
  let typeReading ← attempt type
  let behindType ← get
  set start
  let valueReading ← attempt value
  if valueReading.isNone then
    if typeReading.isNone then fail
    set behindType
  return { value := valueReading, type := typeReading }

def functionOperand (inside : Inside) : Reader Operand := do
  let word ← symbol "func"
  let parts ← signature inside .inner
  if ← nextIs "\x7b" then
    let body ← inside .block
    return .ofValue .funcLiteral ([word] ++ parts ++ [as .body body]) 0
  else return { type := some ⟨.spanning .functionType (word :: parts), 0⟩ }

def bracketOperand (inside : Inside) : Reader Operand := do
  match ← attempt (implicitLengthArrayType inside .inner) with
  | some type => return { type := some type }
  | none => return { type := some (← compositeType inside .inner) }

def startsTypeOperand (tokens : List Token) : Bool :=
  match tokens with
  | first :: second :: _ =>
    ["map", "chan", "struct", "interface"].any (fun text => isSymbol text first) ||
      (isSymbol "<-" first && isSymbol "chan" second)
  | _ => false

def operandStart (inside : Inside) : Reader Operand := do
  match ← next? with
  | none => fail
  | some token =>
    if isName token then nameOperand inside
    else if isSymbol "(" token then
      both (parenthesizedValue inside) (parenthesizedType inside)
    else if isSymbol "func" token then functionOperand inside
    else if isSymbol "[" token then bracketOperand inside
    else if startsTypeOperand (← get) then
      return { type := some (← compositeType inside .inner) }
    else literalOperand

/-! How an operand goes on -/

/-- The token that can go on with an operand. A mere type always goes on. -/
def nextFor? (mode : Mode) (operand : Operand) : Reader (Option Token) :=
  if operand.value.isSome then nextOn? mode else next?

/-- Whether `.(type)` follows. -/
def atGuard : Reader Bool := do
  match ← get with
  | dot :: opening :: word :: closing :: _ =>
    return isSymbol "." dot && isSymbol "(" opening && isSymbol "type" word &&
      isSymbol ")" closing
  | _ => return false

def assertion (inside : Inside) (value : Reading) (dot : Node) : Reader Operand := do
  let opening ← symbol "("
  let type ← typeGoal inside
  let closing ← symbol ")"
  return .ofValue .typeAssertionExpression
    [as .operand value, dot, opening, as .type type, closing] value.weight

/-- A selection, which behind a plain name can also be a qualified type. -/
def selection (value : Reading) (named : Bool) (dot : Node) : Reader Operand := do
  let field ← take isName
  let package := { value.node with kind := .packageIdentifier, label := none }
  return {
    value := some ⟨.spanning .selectorExpression
      [as .operand value, dot, (ofToken .fieldIdentifier field).withLabel .field], value.weight⟩
    type := if named then
      some ⟨qualifiedOver package dot (ofToken .typeIdentifier field), 0⟩ else none }

def dotStep (inside : Inside) (operand : Operand) : Reader Operand := do
  match operand.value with
  | none => fail
  | some value =>
    let dot ← symbol "."
    if ← nextIs "(" then assertion inside value dot
    else
      let named := operand.type.any fun type => type.node.kind == .typeIdentifier
      selection value named dot

def indexOf (inside : Inside) (value : Reading) : Reader Reading := do
  let opening ← symbol "["
  let index ← innerExpression inside
  let closing ← symbol "]"
  return ⟨.spanning .indexExpression [as .operand value, opening, as .index index, closing],
    value.weight + index.weight⟩

def optionalExpression (inside : Inside) : Reader (List Node) := do
  return [(← innerExpression inside).node]

def sliceOf (inside : Inside) (value : Reading) : Reader Reading := do
  let opening ← symbol "["
  let low ← optionalNodes (optionalExpression inside)
  let colon ← symbol ":"
  let high ← optionalNodes (optionalExpression inside)
  let capacity ← if high.isEmpty then pure [] else optionalNodes do
    let colon ← symbol ":"
    return colon :: (← optionalExpression inside)
  let closing ← symbol "]"
  return ⟨.spanning .sliceExpression
    ([as .operand value, opening] ++ low ++ [colon] ++ high ++ capacity ++ [closing]),
    value.weight⟩

/-- An index or slice expression. -/
def indexValue (inside : Inside) (operand : Operand) : Reader Reading := do
  match operand.value with
  | none => fail
  | some value =>
    match ← attempt (indexOf inside value) with
    | some reading => return reading
    | none => sliceOf inside value

/-- What types in brackets make of a type: an instantiation, and a generic type over a name. -/
def instantiated (inside : Inside) (operand : Operand) : Reader Operand := do
  match operand.fullType? with
  | none => fail
  | some type =>
    let start ← get
    let arguments ← attempt (typeArguments inside)
    let behind ← get
    set start
    let value ← attempt do
      let (nodes, weight) ← bracketed (typeGoal inside)
      return (⟨.spanning .typeInstantiationExpression (as .type type :: nodes),
        type.weight + weight⟩ : Reading)
    set behind
    let generic := match operand.genericHead?, arguments with
      | some head, some arguments => some (genericOver head arguments)
      | _, _ => none
    if value.isNone && generic.isNone then fail
    return { value := value, type := generic }

def bracketStep (inside : Inside) (operand : Operand) : Reader Operand := do
  let start ← get
  let types ← attempt (instantiated inside operand)
  let behindTypes ← get
  set start
  let index ← attempt (indexValue inside operand)
  if index.isNone then
    if types.isNone then fail
    set behindTypes
  return {
    value := heavier index (types.bind Operand.value)
    type := types.bind Operand.type }

/-- The only argument of a list that can be read as the operand of a conversion. -/
def soleArgument? (arguments : Node) : Option Node :=
  match arguments.namedChildren with
  | [argument] => if argument.kind == .variadicArgument then none else some argument
  | _ => none

def callOf (arguments : Node) (value : Reading) : Reading :=
  ⟨.spanning .callExpression [as .function value, arguments.withLabel .arguments], value.weight⟩

def conversionWeight : Int := -1

/-- The children of an argument list, with its only argument as an operand. -/
def conversionOf (arguments : Node) (type : Reading) : Option Reading :=
  (soleArgument? arguments).map fun _ =>
    let children := arguments.children.map fun child =>
      if child.isNamed then child.withLabel .operand else child
    ⟨.spanning .typeConversionExpression (as .type type :: children),
      type.weight + conversionWeight⟩

def callStep (inside : Inside) (operand : Operand) : Reader Operand := do
  let arguments ← argumentList inside
  match heavier (operand.value.map (callOf arguments))
      (operand.fullType?.bind (conversionOf arguments)) with
  | some value => return { value := some value }
  | none => fail

def literalStep (inside : Inside) (type : Node) : Reader Operand := do
  let body ← inside .literalValue
  return .ofValue .compositeLiteral [type.withLabel .type, as .body body] 0

/-- One step further, if the next token belongs to the operand. -/
def operandStep (inside : Inside) (mode : Mode) (operand : Operand) : Reader Operand := do
  match ← nextFor? mode operand with
  | none => fail
  | some token =>
    if isSymbol "." token then
      if mode.guarded && (← atGuard) then fail else dotStep inside operand
    else if isSymbol "[" token then bracketStep inside operand
    else if isSymbol "(" token then callStep inside operand
    else if isSymbol "\x7b" token then
      match operand.literalType? mode with
      | some type => literalStep inside type
      | none => fail
    else fail

def operandSteps (inside : Inside) (mode : Mode) : Nat → Operand → Reader Operand
  | 0, operand => return operand
  | count + 1, operand => do
    match ← attempt (operandStep inside mode operand) with
    | some further => operandSteps inside mode count further
    | none => return operand

def primary (inside : Inside) (mode : Mode) : Reader Reading := do
  let start ← operandStart inside
  let operand ← operandSteps inside mode (← get).length start
  match operand.value with
  | some value => return value
  | none => fail

/-! Operators -/

def unaryOperators : List String := ["+", "-", "!", "^", "*", "&", "<-"]

def unary (inside : Inside) (mode : Mode) : Reader Reading := do
  let token ← take fun token => unaryOperators.any fun text => isSymbol text token
  let operand ← inside (.operand mode)
  let operator := (ofToken (.symbol token.text) token).withLabel .operator
  return ⟨.spanning .unaryExpression [operator, as .operand operand], operand.weight⟩

/-- An operand with its prefixed operators. `<-chan` begins a type. -/
def operand (inside : Inside) (mode : Mode) : Reader Reading := do
  match ← attempt (primary inside mode) with
  | some reading => return reading
  | none => unary inside mode

/-- Binary operators by level, those that bind closest first. -/
def levels : List (List String) :=
  [["*", "/", "%", "<<", ">>", "&", "&^"], ["+", "-", "|", "^"],
   ["==", "!=", "<", "<=", ">", ">="], ["&&"], ["||"]]

def binaryOf (left : Reading) (operator : Node) (right : Reading) : Reading :=
  ⟨.spanning .binaryExpression
    [as .left left, operator.withLabel .operator, as .right right], left.weight + right.weight⟩

/-- Operands of a level, joined from the left. -/
def joined (mode : Mode) (operators : List String) (item : Reader Reading) :
    Nat → Reading → Reader Reading
  | 0, left => return left
  | count + 1, left => do
    let further ← attempt do
      match ← nextOn? mode with
      | none => fail
      | some token =>
        if operators.any fun text => isSymbol text token then
          let operator ← symbol token.text
          return binaryOf left operator (← item)
        else fail
    match further with
    | some reading => joined mode operators item count reading
    | none => return left

def binary (mode : Mode) (item : Reader Reading) : List (List String) → Reader Reading
  | [] => item
  | operators :: closer => do
    let first ← binary mode item closer
    joined mode operators (binary mode item closer) (← get).length first

def expression (inside : Inside) (mode : Mode) : Reader Reading :=
  binary mode (inside (.operand mode)) levels.reverse

end AspectLoom.Syntax.Grammar
