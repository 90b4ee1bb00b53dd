import AspectLoom.Syntax.Grammar.Basic
/-!
Types and signatures. A name with bracketed types behind it is preferred as a generic type over
every other reading of the same text, and a plain name is the least preferred type.
-/
namespace AspectLoom.Syntax.Grammar

def typeGoal (inside : Inside) : Reader Reading := inside (.type .inner)

/-! Weights -/

def nameWeight : Int := -1

def genericWeight : Int := 1

def argumentsWeight : Int := 2

def typeElem (inside : Inside) (mode : Mode) : Reader Reading := do
  let (nodes, weight) ← separatedReadings (symbolOn mode "|") (inside (.type mode))
  return ⟨.spanning .typeElem nodes, weight⟩

/-- Items in brackets, with the weight of them all. -/
def bracketed (item : Reader Reading) : Reader (List Node × Int) := do
  let opening ← symbol "["
  let (items, weight) ← separatedReadings (symbol ",") item
  let trailing ← optionalSymbol ","
  let closing ← symbol "]"
  return ([opening] ++ items ++ trailing ++ [closing], weight)

def typeArguments (inside : Inside) : Reader Reading := do
  let (nodes, weight) ← bracketed (typeElem inside .inner)
  return ⟨.spanning .typeArguments nodes, argumentsWeight + weight⟩

/-- A generic type over a name that is read already. -/
def genericOver (name arguments : Reading) : Reading :=
  ⟨.spanning .genericType [as .type name, as .typeArguments arguments],
    genericWeight + name.weight + arguments.weight⟩

def qualifiedOver (package dot name : Node) : Node :=
  .spanning .qualifiedType [package.withLabel .package, dot, name.withLabel .name]

/-- A name or a qualified name. As the head of a generic type a plain name has no weight. -/
def typeHead (mode : Mode) : Reader Reading := do
  let first ← take isName
  let qualified ← attempt do
    let dot ← symbolOn mode "."
    return (dot, ← nameAs .typeIdentifier)
  match qualified with
  | some (dot, name) => return ⟨qualifiedOver (ofToken .packageIdentifier first) dot name, 0⟩
  | none => return ⟨ofToken .typeIdentifier first, 0⟩

def namedType (inside : Inside) (mode : Mode) : Reader Reading := do
  let head ← typeHead mode
  let arguments ← attempt do
    if ← nextIsOn mode "[" then typeArguments inside else fail
  match arguments with
  | some arguments => return genericOver head arguments
  | none =>
    return if head.node.kind == .typeIdentifier then ⟨head.node, nameWeight⟩ else head

def pointerType (inside : Inside) (mode : Mode) : Reader Reading := do
  let star ← symbol "*"
  let pointee ← inside (.type mode)
  return ⟨.spanning .pointerType [star, pointee.node], pointee.weight⟩

def sliceType (inside : Inside) (mode : Mode) : Reader Reading := do
  let opening ← symbol "["
  let closing ← symbol "]"
  let element ← inside (.type mode)
  return ⟨.spanning .sliceType [opening, closing, as .element element], element.weight⟩

def arrayType (inside : Inside) (mode : Mode) : Reader Reading := do
  let opening ← symbol "["
  let length ← inside (.expression .inner)
  let closing ← symbol "]"
  let element ← inside (.type mode)
  return ⟨.spanning .arrayType [opening, as .length length, closing, as .element element],
    element.weight⟩

def implicitLengthArrayType (inside : Inside) (mode : Mode) : Reader Reading := do
  let opening ← symbol "["
  let dots ← symbol "..."
  let closing ← symbol "]"
  let element ← inside (.type mode)
  return ⟨.spanning .implicitLengthArrayType [opening, dots, closing, as .element element],
    element.weight⟩

def mapType (inside : Inside) (mode : Mode) : Reader Reading := do
  let word ← symbol "map"
  let opening ← symbol "["
  let key ← typeGoal inside
  let closing ← symbol "]"
  let value ← inside (.type mode)
  return ⟨.spanning .mapType [word, opening, as .key key, closing, as .value value],
    key.weight + value.weight⟩

def channelType (inside : Inside) (mode : Mode) : Reader Reading := do
  let arrowBefore ← optionalSymbol "<-"
  let word ← symbol "chan"
  let arrowBehind ← if arrowBefore.isEmpty && !(← startsReceiving) then optionalSymbol "<-"
    else pure []
  let value ← inside (.type mode)
  return ⟨.spanning .channelType (arrowBefore ++ [word] ++ arrowBehind ++ [as .value value]),
    value.weight⟩
where
  /-- In `chan <-chan` the arrow belongs to the second channel. -/
  startsReceiving : Reader Bool := do
    match ← get with
    | arrow :: word :: _ => return isSymbol "<-" arrow && isSymbol "chan" word
    | _ => return false

def negatedType (inside : Inside) (mode : Mode) : Reader Reading := do
  let mark ← symbol "~"
  let type ← inside (.type mode)
  return ⟨.spanning .negatedType [mark, type.node], type.weight⟩

def parenthesizedType (inside : Inside) : Reader Reading := do
  let opening ← symbol "("
  let type ← typeGoal inside
  let closing ← symbol ")"
  return ⟨.spanning .parenthesizedType [opening, type.node, closing], type.weight⟩

/-! Parameters -/

/-- Names before a type that they share. -/
def namesBefore (inside : Inside) (names : Reader (List Node)) : Reader Node := do
  let names ← names
  let type ← typeGoal inside
  return .spanning .parameterDeclaration (names ++ [as .type type])

def parameterName : Reader (List Node) := do
  return [(← nameAs .identifier).withLabel .name]

def variadicParameter (inside : Inside) : Reader Node := do
  let name ← optionalNodes parameterName
  let dots ← symbol "..."
  let type ← typeGoal inside
  return .spanning .variadicParameterDeclaration (name ++ [dots, as .type type])

def endsParameter : Reader Unit := do
  if (← nextIs ",") || (← nextIs ")") then return else fail

/-- A declaration of as many names as there are before a type, else of a type alone. -/
def parameter (inside : Inside) : Reader (List Node) := do
  let named ← attempt do
    let node ← namesBefore inside (separated comma parameterName)
    endsParameter
    return node
  match named with
  | some node => return [node]
  | none =>
    match ← attempt (variadicParameter inside) with
    | some node => return [node]
    | none => return [← namesBefore inside (pure [])]

def parameterList (inside : Inside) : Reader Node := do
  let opening ← symbol "("
  let items ← optionalNodes (separated comma (parameter inside))
  let trailing ← optionalSymbol ","
  let closing ← symbol ")"
  return .spanning .parameterList ([opening] ++ items ++ trailing ++ [closing])

def startsType (token : Token) : Bool :=
  isName token ||
    ["func", "struct", "interface", "map", "chan", "*", "[", "<-", "~"].any fun text =>
      isSymbol text token

/-- The results of a signature, if there are any. -/
def result (inside : Inside) (mode : Mode) : Reader (List Node) := do
  match ← nextOn? mode with
  | some token =>
    if isSymbol "(" token then return [(← parameterList inside).withLabel .result]
    else if startsType token then return [as .result (← inside (.type mode))]
    else return []
  | none => return []

/-- Parameters and results. -/
def signature (inside : Inside) (mode : Mode) : Reader (List Node) := do
  let parameters ← partOf .parameters (parameterList inside)
  return parameters :: (← result inside mode)

def functionType (inside : Inside) (mode : Mode) : Reader Reading := do
  let word ← symbol "func"
  return ⟨.spanning .functionType (word :: (← signature inside mode)), 0⟩

/-! Structures and interfaces -/

def stringLiteral : Reader Node := do
  let token ← take fun token => token.lexeme == .rawText || token.lexeme == .quotedText
  return ofToken (if token.lexeme == .rawText then .rawString else .interpretedString) token

def fieldTag : Reader (List Node) := optionalNodes do
  match ← nextOn? .line with
  | some _ => return [(← stringLiteral).withLabel .tag]
  | none => fail

def endsField : Reader Unit := do
  match ← nextOn? .line with
  | none => return
  | some token => if isSymbol ";" token || isSymbol "\x7d" token then return else fail

def embeddedField (inside : Inside) : Reader Node := do
  let star ← optionalSymbol "*"
  let type ← namedType inside .line
  let tag ← fieldTag
  endsField
  return .spanning .fieldDeclaration (star ++ [as .type type] ++ tag)

def fieldName : Reader (List Node) := do
  return [(← nameAs .fieldIdentifier).withLabel .name]

def namedFields (inside : Inside) : Reader Node := do
  let names ← separated comma fieldName
  let type ← inside (.type .line)
  return .spanning .fieldDeclaration (names ++ [as .type type] ++ (← fieldTag))

def fieldDeclaration (inside : Inside) : Reader (List Node) := do
  match ← attempt (embeddedField inside) with
  | some node => return [node]
  | none => return [← namedFields inside]

def structType (inside : Inside) : Reader Reading := do
  let word ← symbol "struct"
  let opening ← symbol "\x7b"
  let fields ← optionalNodes (terminated (fieldDeclaration inside))
  let closing ← symbol "\x7d"
  return ⟨.spanning .structType
    [word, .spanning .fieldDeclarationList ([opening] ++ fields ++ [closing])], 0⟩

def methodElem (inside : Inside) : Reader (List Node) := do
  let name ← fieldName
  return [.spanning .methodElem (name ++ (← signature inside .line))]

def interfaceElem (inside : Inside) : Reader (List Node) := do
  match ← attempt (methodElem inside) with
  | some nodes => return nodes
  | none => return [(← typeElem inside .line).node]

def interfaceType (inside : Inside) : Reader Reading := do
  let word ← symbol "interface"
  let opening ← symbol "\x7b"
  let elems ← optionalNodes (terminated (interfaceElem inside))
  let closing ← symbol "\x7d"
  return ⟨.spanning .interfaceType ([word, opening] ++ elems ++ [closing]), 0⟩

/-- A type that begins with a mark or keyword. -/
def compositeType (inside : Inside) (mode : Mode) : Reader Reading := do
  match ← next? with
  | none => fail
  | some token =>
    if isSymbol "*" token then pointerType inside mode
    else if isSymbol "[" token then
      match ← attempt (sliceType inside mode) with
      | some reading => return reading
      | none => arrayType inside mode
    else if isSymbol "map" token then mapType inside mode
    else if isSymbol "chan" token || isSymbol "<-" token then channelType inside mode
    else if isSymbol "func" token then functionType inside mode
    else if isSymbol "struct" token then structType inside
    else if isSymbol "interface" token then interfaceType inside
    else if isSymbol "~" token then negatedType inside mode
    else fail

def type (inside : Inside) (mode : Mode) : Reader Reading := do
  match ← next? with
  | none => fail
  | some token =>
    if isName token then namedType inside mode
    else if isSymbol "(" token then parenthesizedType inside
    else compositeType inside mode

/-! Type parameters -/

def typeParameter (inside : Inside) : Reader (List Node) := do
  let names ← separated comma parameterName
  let elem ← typeElem inside .inner
  let constraint : Node := { elem.node with kind := .typeConstraint }
  return [.spanning .typeParameterDeclaration (names ++ [constraint.withLabel .type])]

def typeParameterList (inside : Inside) : Reader Node := do
  let opening ← symbol "["
  let items ← separated comma (typeParameter inside)
  let trailing ← optionalSymbol ","
  let closing ← symbol "]"
  return .spanning .typeParameterList ([opening] ++ items ++ trailing ++ [closing])

end AspectLoom.Syntax.Grammar
