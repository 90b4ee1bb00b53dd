import AspectLoom.Unicode.Class
import AspectLoom.Text.Span
/-!
Tokens of Go source. A token remembers whether a line break stands before it, because a line break
ends a statement where the grammar lets it end. Comments are kept apart from the tokens.
-/
namespace AspectLoom.Syntax

inductive Lexeme where
  | name
  /-- A word that is no name anywhere. -/
  | keyword
  /-- Punctuation and operators. -/
  | mark
  | int
  | float
  | imaginary
  | rune
  | rawText
  | quotedText
deriving DecidableEq, Repr, Inhabited

structure Token where
  lexeme : Lexeme
  text : String
  span : Span
  /-- Whether a line break stands between this token and the one before it. -/
  afterBreak : Bool
deriving DecidableEq, Repr, Inhabited

namespace Token

def keywords : List String :=
  ["break", "case", "chan", "const", "continue", "default", "defer", "else", "fallthrough", "for",
   "func", "go", "goto", "if", "import", "interface", "map", "package", "range", "return", "select",
   "struct", "switch", "type", "var"]

/-- Marks, longer ones before those they begin with. -/
def marks : List (List Char) :=
  ["<<=", ">>=", "&^=", "...", "<<", ">>", "&^", "+=", "-=", "*=", "/=", "%=", "&=", "|=", "^=",
   "&&", "||", "<-", "++", "--", "==", "!=", "<=", ">=", ":=", "+", "-", "*", "/", "%", "&", "|",
   "^", "<", ">", "=", "!", "(", ")", "[", "]", "\x7b", "\x7d", ",", ";", ".", ":", "~"].map
    String.toList

def isSpace (c : Char) : Bool := c == ' ' || ('\t' ≤ c && c ≤ '\r')

def isDecimal (c : Char) : Bool := '0' ≤ c && c ≤ '9'

def isOctal (c : Char) : Bool := '0' ≤ c && c ≤ '7'

def isBinary (c : Char) : Bool := c == '0' || c == '1'

def isHex (c : Char) : Bool := isDecimal c || ('a' ≤ c && c ≤ 'f') || ('A' ≤ c && c ≤ 'F')

/-! Every reader below gives the number of characters that its form takes at the front, if any. -/

/-- The digits behind a digit; a single underscore can stand before each. -/
def moreDigits (isDigit : Char → Bool) : List Char → Nat
  | [] => 0
  | [c] => if isDigit c then 1 else 0
  | c :: next :: rest =>
    if isDigit c then 1 + moreDigits isDigit (next :: rest)
    else if c = '_' ∧ isDigit next then 2 + moreDigits isDigit rest
    else 0

def digits? (isDigit : Char → Bool) (chars : List Char) : Option Nat :=
  match chars with
  | [] => none
  | c :: rest => if isDigit c then some (1 + moreDigits isDigit rest) else none

/-- A form of numbers: how many characters it takes of a text that begins with one. -/
abbrev Form := List Char → Option Nat

def one (allowed : Char → Bool) : Form
  | c :: _ => if allowed c then some 1 else none
  | [] => none

def seq (first second : Form) : Form := fun chars => do
  let length ← first chars
  let more ← second (chars.drop length)
  return length + more

def orEmpty (form : Form) : Form := fun chars => some ((form chars).getD 0)

/-- The form that takes more. -/
def longer (first second : Form) : Form := fun chars =>
  match first chars, second chars with
  | some left, some right => some (max left right)
  | left, right => left <|> right

def among (allowed : String) : Form := one fun c => allowed.toList.contains c

def decimals : Form := digits? isDecimal

def based (letters : String) (isDigit : Char → Bool) : Form :=
  seq (among "0") (seq (among letters) (seq (orEmpty (among "_")) (digits? isDigit)))

def octalForm : Form :=
  seq (among "0") (seq (orEmpty (among "oO")) (seq (orEmpty (among "_")) (digits? isOctal)))

def decimalForm : Form :=
  longer (among "0")
    (seq (one fun c => isDecimal c && c != '0')
      (orEmpty (seq (orEmpty (among "_")) decimals)))

def intForm : Form :=
  longer (longer (based "bB" isBinary) decimalForm) (longer octalForm (based "xX" isHex))

def exponent (letters : String) : Form :=
  seq (among letters) (seq (orEmpty (among "+-")) decimals)

def decimalFloatForm : Form :=
  longer
    (longer (seq decimals (seq (among ".") (seq (orEmpty decimals) (orEmpty (exponent "eE")))))
      (seq decimals (exponent "eE")))
    (seq (among ".") (seq decimals (orEmpty (exponent "eE"))))

def hexMantissa : Form :=
  let hexes := digits? isHex
  longer
    (longer (seq (orEmpty (among "_")) (seq hexes (seq (among ".") (orEmpty hexes))))
      (seq (orEmpty (among "_")) hexes))
    (seq (among ".") hexes)

def floatForm : Form :=
  longer decimalFloatForm
    (seq (among "0") (seq (among "xX") (seq hexMantissa (exponent "pP"))))

def imaginaryForm : Form := seq (longer decimals (longer intForm floatForm)) (among "i")

/-- The kind and length of a number at the front; the longest form wins. -/
def number? (chars : List Char) : Option (Lexeme × Nat) :=
  let int := (intForm chars).getD 0
  let float := (floatForm chars).getD 0
  let imaginary := (imaginaryForm chars).getD 0
  if int = 0 && float = 0 then none
  else if imaginary > max int float then some (.imaginary, imaginary)
  else if float > int then some (.float, float)
  else some (.int, int)

/-- The length of an escape behind a backslash. -/
def escape? : List Char → Option Nat
  | [] => none
  | 'x' :: rest =>
    let count := (rest.takeWhile isHex).length
    if count < 2 then none else some (count + 1)
  | 'u' :: rest => if (rest.take 4).length = 4 ∧ (rest.take 4).all isHex then some 5 else none
  | 'U' :: rest => if (rest.take 8).length = 8 ∧ (rest.take 8).all isHex then some 9 else none
  | _ :: _ => some 1

/-- The length of a quoted text behind its opening quote, the closing quote included. -/
def quotedLength : Nat → List Char → Option Nat
  | 0, _ => none
  | _ + 1, [] => none
  | fuel + 1, c :: rest =>
    if c = '"' then some 1
    else if c = '\n' then none
    else if c = '\\' then do
      let length ← escape? rest
      let more ← quotedLength fuel (rest.drop length)
      return 1 + length + more
    else (quotedLength fuel rest).map (· + 1)

/-- The length of a rune behind its opening quote, the closing quote included. -/
def runeLength? : List Char → Option Nat
  | '\\' :: rest =>
    let length? : Option Nat := match rest with
      | 'x' :: rest => if (rest.take 2).length = 2 ∧ (rest.take 2).all isHex then some 3 else none
      | 'u' :: _ | 'U' :: _ => escape? rest
      | c :: _ =>
        if "abfnrtv\\'\"".toList.contains c then some 1
        else if (rest.take 3).length = 3 ∧ (rest.take 3).all isOctal then some 3 else none
      | [] => none
    match length? with
    | some length => if rest[length]? = some '\'' then some (length + 2) else none
    | none => none
  | c :: '\'' :: _ => if c = '\'' then none else some 2
  | _ => none

/-- The length of a comment to its closing mark, behind its opening mark. -/
def blockCommentLength : List Char → Option Nat
  | '*' :: '/' :: _ => some 2
  | _ :: rest => (blockCommentLength rest).map (· + 1)
  | [] => none

/-- The length of the comment at the front. One that is never closed is no comment. -/
def comment? : List Char → Option Nat
  | '/' :: '/' :: rest => some (2 + (rest.takeWhile (· != '\n')).length)
  | '/' :: '*' :: rest => (blockCommentLength rest).map (· + 2)
  | _ => none

/-- The kind and length of the token at the front. -/
def front? (chars : List Char) : Option (Lexeme × Nat) :=
  match chars with
  | [] => none
  | '"' :: rest => (quotedLength (rest.length + 1) rest).map fun length => (.quotedText, length + 1)
  | '\'' :: rest => (runeLength? rest).map fun length => (.rune, length + 1)
  | '\x60' :: rest =>
    let inner := (rest.takeWhile (· != '\x60')).length
    if inner < rest.length then some (.rawText, inner + 2) else none
  | c :: rest =>
    if Unicode.isIdentifierStart c || c == '_' then
      let length := 1 + (rest.takeWhile Unicode.isIdentifierPart).length
      let word := String.ofList (chars.take length)
      some (if keywords.contains word then .keyword else .name, length)
    else
      number? chars <|>
        (marks.find? fun mark => mark.isPrefixOf chars).map fun mark => (.mark, mark.length)

/-- The tokens and the spans of the comments from an offset on. -/
def scanFrom : Nat → Nat → Bool → List Char → Option (List Token × List Span)
  | 0, _, _, _ => none
  | _ + 1, _, _, [] => some ([], [])
  | fuel + 1, offset, afterBreak, c :: rest =>
    if isSpace c then scanFrom fuel (offset + c.utf8Size) (afterBreak || c == '\n') rest
    else
      let chars := c :: rest
      match comment? chars with
      | some length => do
        let stop := offset + (String.ofList (chars.take length)).utf8ByteSize
        let (tokens, comments) ← scanFrom fuel stop afterBreak (chars.drop length)
        return (tokens, ⟨offset, stop⟩ :: comments)
      | none => do
        let (lexeme, length) ← front? chars
        let text := String.ofList (chars.take length)
        let stop := offset + text.utf8ByteSize
        let (tokens, comments) ← scanFrom fuel stop false (chars.drop length)
        return (⟨lexeme, text, ⟨offset, stop⟩, afterBreak⟩ :: tokens, comments)

/-- The tokens and comments of a source text; a byte order mark at its start is skipped. -/
def scan (source : String) : Option (List Token × List Span) :=
  let chars := source.toList
  match chars with
  | '\ufeff' :: rest => scanFrom (chars.length + 1) 3 false rest
  | _ => scanFrom (chars.length + 1) 0 false chars

end Token
end AspectLoom.Syntax
