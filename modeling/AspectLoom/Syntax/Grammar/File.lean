import AspectLoom.Syntax.Grammar.Statements
/-!
Source files. Besides the declarations of a package, statements can stand at the top of a file.
-/
namespace AspectLoom.Syntax.Grammar

def packageClause : Reader Node := do
  let word ← symbol "package"
  return .spanning .packageClause [word, ← nameAs .packageIdentifier]

def importName : Reader (List Node) := optionalNodes do
  if ← nextIs "." then return [{ (← symbol ".") with kind := .dot, label := some .name }]
  let token ← take isName
  let kind := if token.text = "_" then Kind.blankIdentifier else .packageIdentifier
  return [(ofToken kind token).withLabel .name]

def importSpec : Reader (List Node) := do
  let name ← importName
  return [.spanning .importSpec (name ++ [← partOf .path stringLiteral])]

def importDeclaration : Reader Node := do
  let word ← symbol "import"
  if ← nextIs "(" then
    let opening ← symbol "("
    let specs ← optionalNodes (terminated importSpec)
    let closing ← symbol ")"
    let list : Node := .spanning .importSpecList ([opening] ++ specs ++ [closing])
    return .spanning .importDeclaration [word, list]
  else return .spanning .importDeclaration (word :: (← importSpec))

/-- A body on the same line, if there is one. -/
def optionalBody (inside : Inside) : Reader (List Node) := do
  if ← nextIsOn .line "\x7b" then return [as .body (← inside .block)] else return []

def functionDeclaration (inside : Inside) : Reader Node := do
  let word ← symbol "func"
  let name ← partOf .name (nameAs .identifier)
  let typeParameters ← if ← nextIs "[" then
      pure [← partOf .typeParameters (typeParameterList inside)] else pure []
  let parts ← signature inside .line
  return .spanning .functionDeclaration
    ([word, name] ++ typeParameters ++ parts ++ (← optionalBody inside))

def methodDeclaration (inside : Inside) : Reader Node := do
  let word ← symbol "func"
  let receiver ← partOf .receiver (parameterList inside)
  let name ← partOf .name (nameAs .fieldIdentifier)
  let parts ← signature inside .line
  return .spanning .methodDeclaration
    ([word, receiver, name] ++ parts ++ (← optionalBody inside))

def isFunctionName (tokens : List Token) : Bool :=
  match tokens with
  | _ :: name :: _ => isName name
  | _ => false

def topLevel (inside : Inside) : Reader Node := do
  if ← nextIs "package" then packageClause
  else if ← nextIs "import" then importDeclaration
  else if ← nextIs "func" then
    if isFunctionName (← get) then functionDeclaration inside
    else
      match ← attempt (methodDeclaration inside) with
      | some node => return node
      | none => return (← inside .statement).node
  else return (← inside .statement).node

def topLevelUpTo (inside : Inside) : Nat → Reader (List Node)
  | 0 => fail
  | count + 1 => do
    if (← get).isEmpty then return []
    let node ← topLevel inside
    let mark ← terminator
    return node :: mark ++ (← topLevelUpTo inside count)

/-- How one goal is read, given how goals are read further inside. -/
def rule (inside : Inside) : Goal → Reader Reading
  | .type mode => type inside mode
  | .operand mode => operand inside mode
  | .expression mode => expression inside mode
  | .literalValue => literalValue inside
  | .block => block inside
  | .statement => statement inside

/-- The grammar down to a depth of goals within goals. -/
def read : Nat → Goal → Reader Reading
  | 0, _ => fail
  | depth + 1, goal => rule (read depth) goal

/-- No more goals than these lie within each other, because every third one takes a token. -/
def depthFor (tokens : List Token) : Nat := 4 * tokens.length + 4

end Grammar

/-- The syntax tree of a source text, with its comments; a text that is no Go source has none. -/
def Node.ofSource? (source : String) : Option Node := do
  let (tokens, comments) ← Token.scan source
  let (children, _) ← Grammar.topLevelUpTo (Grammar.read (Grammar.depthFor tokens))
    (tokens.length + 1) tokens
  let root : Node :=
    { kind := .sourceFile, span := ⟨0, source.utf8ByteSize⟩, children := children }
  return comments.foldl (fun node span => node.insertComment span) root

end AspectLoom.Syntax
