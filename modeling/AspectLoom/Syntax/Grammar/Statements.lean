import AspectLoom.Syntax.Grammar.Expressions
/-!
Statements, and declarations of constants, variables and types.
-/
namespace AspectLoom.Syntax.Grammar

def expressionList (inside : Inside) (mode : Mode) : Reader Node := do
  return .spanning .expressionList
    (← separated (commaOn mode) do return [(← inside (.expression mode)).node])

/-! Declarations -/

def constSpec (inside : Inside) : Reader (List Node) := do
  let names ← separated (do return [(← symbolOn .line ",").withLabel .name]) parameterName
  let value ← optionalNodes do
    let type ← if ← nextIsOn .line "=" then pure [] else constType
    let equals ← symbol "="
    return type ++ [equals, ← partOf .value (expressionList inside .line)]
  return [.spanning .constSpec (names ++ value)]
where
  constType : Reader (List Node) := do
    match ← nextOn? .line with
    | none => fail
    | some _ => return [as .type (← inside (.type .line))]

def varSpec (inside : Inside) : Reader (List Node) := do
  let names ← separated comma parameterName
  let type ← if ← nextIs "=" then pure [] else
    pure [as .type (← inside (.type .line))]
  let value ← if type.isEmpty then assigned else optionalNodes do
    if ← nextIsOn .line "=" then assigned else fail
  return [.spanning .varSpec (names ++ type ++ value)]
where
  assigned : Reader (List Node) := do
    let equals ← symbol "="
    return [equals, ← partOf .value (expressionList inside .line)]

def typeAlias (inside : Inside) (name : Node) (parameters : List Node) : Reader Node := do
  let equals ← symbol "="
  return .spanning .typeAlias
    ([name] ++ parameters ++ [equals, as .type (← inside (.type .line))])

def endsSpec : Reader Unit := do
  match ← nextOn? .line with
  | none => return
  | some token =>
    if [";", ")", "\x7d"].any fun text => isSymbol text token then return else fail

/-- A type declared by a type. -/
def definedType (inside : Inside) (name : Node) (parameters : List Node) : Reader Node := do
  let type ← inside (.type .line)
  endsSpec
  return .spanning .typeSpec ([name] ++ parameters ++ [as .type type])

/-- A bracket behind the name begins an array type where it can, and type parameters otherwise. -/
def typeSpec (inside : Inside) : Reader (List Node) := do
  let name := (← nameAs .typeIdentifier).withLabel .name
  match ← attempt (definedType inside name []) with
  | some node => return [node]
  | none =>
    let parameters ← if ← nextIs "[" then
        pure [(← typeParameterList inside).withLabel .typeParameters] else pure []
    if ← nextIs "=" then return [← typeAlias inside name parameters]
    else return [← definedType inside name parameters]

/-- Specifications in parentheses, each with a terminator. -/
def group (spec : Reader (List Node)) : Reader (List Node) := do
  let opening ← symbol "("
  let specs ← many do return (← spec) ++ (← terminator)
  let closing ← symbol ")"
  return [opening] ++ specs ++ [closing]

def declarationOf (kind : Kind) (word : String) (spec : Reader (List Node)) : Reader Node := do
  let first ← symbol word
  let specs ← if ← nextIs "(" then group spec else spec
  return .spanning kind (first :: specs)

def varDeclaration (inside : Inside) : Reader Node := do
  let first ← symbol "var"
  if ← nextIs "(" then
    return .spanning .varDeclaration [first, .spanning .varSpecList (← group (varSpec inside))]
  else return .spanning .varDeclaration (first :: (← varSpec inside))

/-! Simple statements -/

def assignmentOperators : List String :=
  ["=", "*=", "/=", "%=", "<<=", ">>=", "&=", "&^=", "+=", "-=", "|=", "^="]

/-- The tail of a statement that begins with expressions. `right` is the mode behind an operator. -/
def simpleFrom (inside : Inside) (left right : Mode) (list : Node) : Reader Node := do
  let alone? := match list.children with
    | [node] => some node
    | _ => none
  match ← nextOn? left, alone? with
  | some token, some node =>
    if isSymbol "<-" token then
      let arrow ← symbol "<-"
      let value ← inside (.expression right)
      return .spanning .sendStatement [node.withLabel .channel, arrow, as .value value]
    else if isSymbol "++" token then
      return .spanning .incStatement [node, ← symbol "++"]
    else if isSymbol "--" token then
      return .spanning .decStatement [node, ← symbol "--"]
    else assigned token (some node)
  | some token, none => assigned token none
  | none, some node => return .spanning .expressionStatement [node]
  | none, none => fail
where
  assigned (token : Token) (alone? : Option Node) : Reader Node := do
    if isSymbol ":=" token then
      let operator ← symbol ":="
      let values ← partOf .right (expressionList inside right)
      return .spanning .shortVarDeclaration [list.withLabel .left, operator, values]
    else if assignmentOperators.any fun text => isSymbol text token then
      let operator ← partOf .operator (symbol token.text)
      let values ← partOf .right (expressionList inside right)
      return .spanning .assignmentStatement [list.withLabel .left, operator, values]
    else
      match alone? with
      | some node => return .spanning .expressionStatement [node]
      | none => fail

def simpleStatement (inside : Inside) (left right : Mode) : Reader Node := do
  simpleFrom inside left right (← expressionList inside left)

/-- A statement and a semicolon in front of what a header is about. -/
def initializer (inside : Inside) : Reader (List Node) := optionalNodes do
  let statement ← partOf .initializer (simpleStatement inside .header .inner)
  return [statement, ← symbol ";"]

/-! Statements with blocks -/

def bodyGoal (inside : Inside) (label : Label) : Reader Node := do
  return as label (← inside .block)

def ifStatement (inside : Inside) : Reader Node := do
  let word ← symbol "if"
  let before ← initializer inside
  let condition ← inside (.expression .header)
  let consequence ← bodyGoal inside .consequence
  let otherwise ← optionalNodes do
    let word ← symbolOn .line "else"
    let branch ← if ← nextIs "if" then inside .statement else inside .block
    return [word, as .alternative branch]
  return .spanning .ifStatement
    ([word] ++ before ++ [as .condition condition, consequence] ++ otherwise)

/-- The targets of an assignment or declaration and its operator. -/
def targets (inside : Inside) : Reader (List Node) := do
  let left ← partOf .left (expressionList inside .header)
  let operator ← if ← nextIs ":=" then symbol ":=" else symbol "="
  return [left, operator]

def rangeClause (inside : Inside) : Reader Node := do
  let left ← if ← nextIs "range" then pure [] else targets inside
  let word ← symbol "range"
  let right ← inside (.expression .header)
  return .spanning .rangeClause (left ++ [word, as .right right])

def forClause (inside : Inside) : Reader Node := do
  let first ← if ← nextIs ";" then pure [] else
    pure [← partOf .initializer (simpleStatement inside .header .inner)]
  let between ← symbol ";"
  let condition ← if ← nextIs ";" then pure [] else
    pure [as .condition (← innerExpression inside)]
  let behind ← symbol ";"
  let update ← if ← nextIs "\x7b" then pure [] else
    pure [← partOf .update (simpleStatement inside .header .header)]
  return .spanning .forClause (first ++ [between] ++ condition ++ [behind] ++ update)

def forHeader (inside : Inside) : Reader (List Node) := do
  if ← nextIs "\x7b" then return []
  match ← attempt (rangeClause inside) with
  | some clause => return [clause]
  | none =>
    match ← attempt (forClause inside) with
    | some clause => return [clause]
    | none => return [(← inside (.expression .header)).node]

def forStatement (inside : Inside) : Reader Node := do
  let word ← symbol "for"
  let header ← forHeader inside
  return .spanning .forStatement ([word] ++ header ++ [← bodyGoal inside .body])

/-! Lists of statements and cases -/

def atListEnd : Reader Bool := do
  match ← next? with
  | none => return true
  | some token =>
    return ["\x7d", "case", "default"].any fun text => isSymbol text token

def statementsUpTo (inside : Inside) : Nat → Reader (List Node)
  | 0 => fail
  | count + 1 => do
    if ← atListEnd then return []
    let statement ← inside .statement
    if ← atListEnd then return [statement.node]
    let mark ← terminator
    return statement.node :: mark ++ (← statementsUpTo inside count)

/-- The statements up to the end of a block or case, as one node if there are any. -/
def statementList (inside : Inside) : Reader (List Node) := do
  match ← statementsUpTo inside ((← get).length + 1) with
  | [] => return []
  | nodes => return [.spanning .statementList nodes]

def block (inside : Inside) : Reader Reading := do
  let opening ← symbol "\x7b"
  let statements ← statementList inside
  let closing ← symbol "\x7d"
  return ⟨.spanning .block ([opening] ++ statements ++ [closing]), 0⟩

def defaultCase (inside : Inside) : Reader Node := do
  let word ← symbol "default"
  let colon ← symbol ":"
  return .spanning .defaultCase ([word, colon] ++ (← statementList inside))

/-- A case of a given kind, or the default case. -/
def caseOf (inside : Inside) (kind : Kind) (guard : Reader (List Node)) :
    Reader (List Node) := do
  if ← nextIs "default" then return [← defaultCase inside]
  let word ← symbol "case"
  let guard ← guard
  let colon ← symbol ":"
  return [.spanning kind ([word] ++ guard ++ [colon] ++ (← statementList inside))]

def cases (inside : Inside) (kind : Kind) (guard : Reader (List Node)) : Reader (List Node) := do
  let opening ← symbol "\x7b"
  let items ← many (caseOf inside kind guard)
  let closing ← symbol "\x7d"
  return [opening] ++ items ++ [closing]

def expressionSwitch (inside : Inside) (word : Node) : Reader Node := do
  let before ← initializer inside
  let value ← if ← nextIs "\x7b" then pure [] else
    pure [as .value (← inside (.expression .header))]
  let cases ← cases inside .expressionCase do
    return [← partOf .value (expressionList inside .inner)]
  return .spanning .expressionSwitchStatement ([word] ++ before ++ value ++ cases)

/-- What stands between `switch` and the cases of a type switch. -/
def typeSwitchHeader (inside : Inside) : Reader (List Node) := do
  let before ← initializer inside
  let named ← optionalNodes do
    let names ← partOf .alias (expressionList inside .header)
    return [names, ← symbol ":="]
  let value ← inside (.expression { Mode.header with guarded := true })
  let dot ← symbol "."
  let opening ← symbol "("
  let word ← symbol "type"
  let closing ← symbol ")"
  return before ++ named ++ [as .value value, dot, opening, word, closing]

def typeCaseTypes (inside : Inside) : Reader (List Node) :=
  separated comma do return [as .type (← typeGoal inside)]

def switchStatement (inside : Inside) : Reader Node := do
  let word ← symbol "switch"
  match ← attempt (typeSwitchHeader inside) with
  | some header =>
    let cases ← cases inside .typeCase (typeCaseTypes inside)
    return .spanning .typeSwitchStatement ([word] ++ header ++ cases)
  | none => expressionSwitch inside word

def sendCommunication (inside : Inside) : Reader Node := do
  let channel ← innerExpression inside
  let arrow ← symbol "<-"
  let value ← innerExpression inside
  return .spanning .sendStatement [as .channel channel, arrow, as .value value]

def receiveCommunication (inside : Inside) : Reader Node := do
  let left ← optionalNodes do
    let left ← partOf .left (expressionList inside .inner)
    let operator ← if ← nextIs ":=" then symbol ":=" else symbol "="
    return [left, operator]
  let right ← innerExpression inside
  return .spanning .receiveStatement (left ++ [as .right right])

def communication (inside : Inside) : Reader (List Node) := do
  let node ← match ← attempt (sendCommunication inside) with
    | some node => pure node
    | none => receiveCommunication inside
  return [node.withLabel .communication]

def selectStatement (inside : Inside) : Reader Node := do
  let word ← symbol "select"
  let cases ← cases inside .communicationCase (communication inside)
  return .spanning .selectStatement (word :: cases)

/-! Other statements -/

/-- A word with a label behind it, if one stands on the line. -/
def jump (kind : Kind) (word : String) : Reader Node := do
  let first ← symbol word
  let label ← optionalNodes do
    match ← nextOn? .line with
    | none => fail
    | some _ => return [← nameAs .labelName]
  return .spanning kind (first :: label)

def gotoStatement : Reader Node := do
  let word ← symbol "goto"
  return .spanning .gotoStatement [word, ← nameAs .labelName]

def returnStatement (inside : Inside) : Reader Node := do
  let word ← symbol "return"
  let values ← optionalNodes do
    match ← nextOn? .line with
    | none => fail
    | some _ => return [← expressionList inside .line]
  return .spanning .returnStatement (word :: values)

def prefixedStatement (kind : Kind) (word : String) (inside : Inside) : Reader Node := do
  let first ← symbol word
  return .spanning kind [first, (← inside (.expression .line)).node]

def startsLabel (tokens : List Token) : Bool :=
  match tokens with
  | first :: second :: _ => isName first && isSymbol ":" second && !second.afterBreak
  | _ => false

/-- A label with its statement; at the end of a list the statement can be missing. -/
def labeledStatement (inside : Inside) : Reader Node := do
  let name ← nameAs .labelName
  let colon ← symbol ":"
  if ← atListEnd then return .spanning .labeledStatement [name, colon]
  else return .spanning .labeledStatement [name, colon, (← inside .statement).node]

def keywordStatement (inside : Inside) (word : String) : Reader Node :=
  match word with
  | "const" => declarationOf .constDeclaration "const" (constSpec inside)
  | "var" => varDeclaration inside
  | "type" => declarationOf .typeDeclaration "type" (typeSpec inside)
  | "return" => returnStatement inside
  | "go" => prefixedStatement .goStatement "go" inside
  | "defer" => prefixedStatement .deferStatement "defer" inside
  | "if" => ifStatement inside
  | "for" => forStatement inside
  | "switch" => switchStatement inside
  | "select" => selectStatement inside
  | "break" => jump .breakStatement "break"
  | "continue" => jump .continueStatement "continue"
  | "goto" => gotoStatement
  | "fallthrough" => do return .spanning .fallthroughStatement [← symbol "fallthrough"]
  | _ => simpleStatement inside .line .line

def statement (inside : Inside) : Reader Reading := do
  match ← next? with
  | none => fail
  | some token =>
    let node ←
      if token.lexeme == .keyword then keywordStatement inside token.text
      else if isSymbol "\x7b" token then pure (← inside .block).node
      else if isSymbol ";" token then do pure (.spanning .emptyStatement [← symbol ";"])
      else if startsLabel (← get) then labeledStatement inside
      else simpleStatement inside .line .line
    return ⟨node, 0⟩

end AspectLoom.Syntax.Grammar
