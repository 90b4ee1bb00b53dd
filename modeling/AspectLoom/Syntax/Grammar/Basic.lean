import AspectLoom.Syntax.Node
import AspectLoom.Syntax.Token
/-!
The means of reading Go source. A reader takes tokens from the front of a list or fails. The rules
of the grammar refer to each other through goals, so that each rule is a definition of its own and
only the last step, which turns goals into readers, is recursive.
-/
namespace AspectLoom.Syntax.Grammar

/-- How the surroundings bear on what is read. -/
structure Mode where
  /-- Whether a line break ends a complete phrase. -/
  lineEnds : Bool := false
  /-- Whether a brace behind a name opens a block rather than a literal. -/
  bare : Bool := false
  /-- Whether `.(type)` is left to a type switch. -/
  guarded : Bool := false
deriving DecidableEq, Repr, Inhabited

namespace Mode

/-- Within brackets of any kind. -/
def inner : Mode := {}

/-- Within a statement of a block. -/
def line : Mode := { lineEnds := true }

/-- Within the header of a statement whose block follows. -/
def header : Mode := { bare := true }

end Mode

/-- A node with its preference among the readings of one text: the heaviest reading is right. -/
structure Reading where
  node : Node
  weight : Int := 0
deriving Inhabited

/-- The parts of the grammar that contain each other. -/
inductive Goal where
  | type (mode : Mode)
  | operand (mode : Mode)
  | expression (mode : Mode)
  | literalValue
  | block
  | statement
deriving DecidableEq, Repr

abbrev Reader (α : Type) := StateT (List Token) Option α

/-- How the goals are read further inside. -/
abbrev Inside := Goal → Reader Reading

def fail {α : Type} : Reader α := fun _ => none

def next? : Reader (Option Token) := do return (← get).head?

/-- The next token, unless it stands on a new line and that ends the phrase. -/
def nextOn? (mode : Mode) : Reader (Option Token) := do
  match (← get).head? with
  | some token => return if mode.lineEnds && token.afterBreak then none else some token
  | none => return none

def isSymbol (text : String) (token : Token) : Bool :=
  (token.lexeme == .mark || token.lexeme == .keyword) && token.text == text

def isName (token : Token) : Bool := token.lexeme == .name

def nextIs (text : String) : Reader Bool := do return (← next?).any (isSymbol text)

def nextIsOn (mode : Mode) (text : String) : Reader Bool := do
  return (← nextOn? mode).any (isSymbol text)

def take (accept : Token → Bool) : Reader Token := fun tokens =>
  match tokens with
  | token :: rest => if accept token then some (token, rest) else none
  | [] => none

def ofToken (kind : Kind) (token : Token) : Node := Node.leaf kind token.span

/-- A mark or keyword. -/
def symbol (text : String) : Reader Node := do
  let token ← take (isSymbol text)
  return ofToken (.symbol text) token

/-- A mark that the phrase can still hold. -/
def symbolOn (mode : Mode) (text : String) : Reader Node := do
  if ← nextIsOn mode text then symbol text else fail

def nameAs (kind : Kind) : Reader Node := do return ofToken kind (← take isName)

/-- Reads if it can, and leaves everything as it is otherwise. -/
def attempt {α : Type} (reader : Reader α) : Reader (Option α) := fun tokens =>
  match reader tokens with
  | some (value, rest) => some (some value, rest)
  | none => some (none, tokens)

def optionalNodes (reader : Reader (List Node)) : Reader (List Node) := do
  return (← attempt reader).getD []

def optionalSymbol (text : String) : Reader (List Node) := optionalNodes do return [← symbol text]

def manyUpTo (reader : Reader (List Node)) : Nat → Reader (List Node)
  | 0 => return []
  | count + 1 => do
    match ← attempt reader with
    | some nodes => return nodes ++ (← manyUpTo reader count)
    | none => return []

/-- Reads as often as it can; every time must take a token. -/
def many (reader : Reader (List Node)) : Reader (List Node) := do
  manyUpTo reader (← get).length

/-- One or more, with a separator between them. -/
def separated (separator item : Reader (List Node)) : Reader (List Node) := do
  let first ← item
  return first ++ (← many do return (← separator) ++ (← item))

def comma : Reader (List Node) := do return [← symbol ","]

def commaOn (mode : Mode) : Reader (List Node) := do return [← symbolOn mode ","]

/-- A semicolon, a line break or the end of the text. -/
def terminator : Reader (List Node) := do
  match ← next? with
  | none => return []
  | some token => if token.afterBreak then return [] else return [← symbol ";"]

/-- Items with terminators between them and perhaps behind the last. -/
def terminated (item : Reader (List Node)) : Reader (List Node) := do
  let items ← separated terminator item
  return items ++ (← optionalNodes terminator)

/-- A reading's node in a given part. -/
def as (label : Label) (reading : Reading) : Node := reading.node.withLabel label

def partOf (label : Label) (reader : Reader Node) : Reader Node := do
  return (← reader).withLabel label

def moreReadings (separator : Reader Node) (item : Reader Reading) : Nat → Reader (List Node × Int)
  | 0 => return ([], 0)
  | count + 1 => do
    let read ← attempt do
      let mark ← separator
      return (mark, ← item)
    match read with
    | none => return ([], 0)
    | some (mark, reading) =>
      let (nodes, weight) ← moreReadings separator item count
      return (mark :: reading.node :: nodes, reading.weight + weight)

/-- One or more readings with marks between them, and the weight of all. -/
def separatedReadings (separator : Reader Node) (item : Reader Reading) :
    Reader (List Node × Int) := do
  let first ← item
  let (rest, weight) ← moreReadings separator item (← get).length
  return (first.node :: rest, first.weight + weight)

/-- The heavier of two readings, the first if they weigh the same. -/
def heavier (first second : Option Reading) : Option Reading :=
  match first, second with
  | some left, some right => if right.weight > left.weight then some right else some left
  | left, right => left <|> right

end AspectLoom.Syntax.Grammar
