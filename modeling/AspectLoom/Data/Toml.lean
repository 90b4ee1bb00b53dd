import AspectLoom.Data.Value
/-!
TOML texts as data. A text is a list of statements, which are read first and then put together: a
header names the table or the list element that the settings behind it belong to.
-/
namespace AspectLoom.Toml

def isBlank (c : Char) : Bool := c == ' ' || c == '\t'

def skip (chars : List Char) : List Char := chars.dropWhile isBlank

/-- Characters that a comment or a literal text may hold. -/
def isPermitted (c : Char) : Bool := c == '\t' || (' ' ≤ c && c ≤ '~') || '\x7f' < c

/-- What follows a line break, if there is one. -/
def newline? : List Char → Option (List Char)
  | '\n' :: rest => some rest
  | '\r' :: '\n' :: rest => some rest
  | _ => none

def skipComment (chars : List Char) : List Char :=
  match chars with
  | '#' :: rest => rest.dropWhile isPermitted
  | _ => chars

/-- Blanks and a comment up to the end of the line. -/
def endLine? (chars : List Char) : Option (List Char) :=
  match skipComment (skip chars) with
  | [] => some []
  | rest => newline? rest

/-- Blanks, comments and line breaks. -/
def skipLines : Nat → List Char → List Char
  | 0, chars => chars
  | fuel + 1, chars =>
    let rest := skipComment (skip chars)
    match newline? rest with
    | some rest => skipLines fuel rest
    | none => rest

/-! Texts -/

def hexValue? (c : Char) : Option Nat :=
  if '0' ≤ c ∧ c ≤ '9' then some (c.toNat - 48)
  else if 'a' ≤ c ∧ c ≤ 'f' then some (c.toNat - 87)
  else if 'A' ≤ c ∧ c ≤ 'F' then some (c.toNat - 55)
  else none

def hexChar? (count : Nat) (chars : List Char) : Option (Char × List Char) := do
  let digits := chars.take count
  if digits.length < count then none
  let code ← digits.foldlM (fun code c => (hexValue? c).map (16 * code + ·)) 0
  if code.isValidChar then some (Char.ofNat code, chars.drop count) else none

def escape? : List Char → Option (Char × List Char)
  | 'b' :: rest => some ('\x08', rest)
  | 't' :: rest => some ('\t', rest)
  | 'n' :: rest => some ('\n', rest)
  | 'f' :: rest => some ('\x0c', rest)
  | 'r' :: rest => some ('\r', rest)
  | '"' :: rest => some ('"', rest)
  | '\\' :: rest => some ('\\', rest)
  | 'u' :: rest => hexChar? 4 rest
  | 'U' :: rest => hexChar? 8 rest
  | _ => none

def readBasic : Nat → List Char → List Char → Option (String × List Char)
  | 0, _, _ => none
  | _ + 1, _, [] => none
  | fuel + 1, value, c :: rest =>
    if c = '"' then some (String.ofList value.reverse, rest)
    else if c = '\\' then
      (escape? rest).bind fun (char, rest) => readBasic fuel (char :: value) rest
    else if isPermitted c then readBasic fuel (c :: value) rest
    else none

def readLiteral : List Char → List Char → Option (String × List Char)
  | _, [] => none
  | value, c :: rest =>
    if c = '\'' then some (String.ofList value.reverse, rest)
    else if isPermitted c then readLiteral (c :: value) rest
    else none

/-- Three quotes end a text of several lines; up to two more before them belong to it. -/
def closing? (quote : Char) (chars : List Char) : Option (List Char × List Char) :=
  let count := (chars.takeWhile (· == quote)).length
  if count < 3 then none
  else if 5 < count then some ([quote, quote], chars.drop 5)
  else some (List.replicate (count - 3) quote, chars.drop count)

/-- Blanks and line breaks behind a backslash at the end of a line. -/
def skipFold (chars : List Char) : Option (List Char) :=
  (newline? (skip chars)).map fun rest =>
    rest.dropWhile fun c => isBlank c || c == '\n' || c == '\r'

def readMultiline (escapes : Bool) : Nat → List Char → List Char → Option (String × List Char)
  | 0, _, _ => none
  | _ + 1, _, [] => none
  | fuel + 1, value, c :: rest =>
    let quote := if escapes then '"' else '\''
    match closing? quote (c :: rest) with
    | some (last, rest) => some (String.ofList (value.reverse ++ last), rest)
    | none =>
      match newline? (c :: rest) with
      | some rest => readMultiline escapes fuel ('\n' :: value) rest
      | none =>
        if escapes && c == '\\' then
          match skipFold rest with
          | some rest => readMultiline escapes fuel value rest
          | none =>
            (escape? rest).bind fun (char, rest) => readMultiline escapes fuel (char :: value) rest
        else if isPermitted c then readMultiline escapes fuel (c :: value) rest
        else none

/-- A line break directly behind the opening quotes is no part of the text. -/
def dropFirstBreak (chars : List Char) : List Char := (newline? chars).getD chars

def readText? (chars : List Char) : Option (String × List Char) :=
  match chars with
  | '"' :: '"' :: '"' :: rest => readMultiline true (rest.length + 1) [] (dropFirstBreak rest)
  | '\'' :: '\'' :: '\'' :: rest => readMultiline false (rest.length + 1) [] (dropFirstBreak rest)
  | '"' :: rest => readBasic (rest.length + 1) [] rest
  | '\'' :: rest => readLiteral [] rest
  | _ => none

/-! Keys and values -/

def isKeyChar (c : Char) : Bool :=
  ('a' ≤ c && c ≤ 'z') || ('A' ≤ c && c ≤ 'Z') || ('0' ≤ c && c ≤ '9') || c == '_' || c == '-'

def readKeyPart (chars : List Char) : Option (String × List Char) :=
  match chars with
  | '"' :: rest => readBasic (rest.length + 1) [] rest
  | '\'' :: rest => readLiteral [] rest
  | _ =>
    let name := chars.takeWhile isKeyChar
    if name.isEmpty then none else some (String.ofList name, chars.drop name.length)

/-- A key of one or more parts with points between them. -/
def readKey : Nat → List Char → Option (List String × List Char)
  | 0, _ => none
  | fuel + 1, chars => do
    let (part, rest) ← readKeyPart (skip chars)
    match skip rest with
    | '.' :: rest =>
      let (parts, rest) ← readKey fuel rest
      return (part :: parts, rest)
    | rest => return ([part], rest)

/-- A value that is no text, list or table: a number, truth value or date. -/
def isOtherChar (c : Char) : Bool :=
  isKeyChar c || c == '+' || c == '.' || c == ':'

/-- What is known of a table while a text is put together. Settings can add to an open table; a
header can name an implied one. -/
inductive Openness where
  | closed
  | implied
  | dotted
deriving DecidableEq

inductive Node where
  | value (data : Data)
  | table (openness : Openness) (entries : List (String × Node))
  /-- The elements that headers in double brackets opened, the latest first. -/
  | tables (elements : List (List (String × Node)))
deriving Inhabited

abbrev Entries := List (String × Node)

/-- Puts a setting in a table; a dotted key goes through tables that only dotted keys opened. -/
def insertAt : List String → Node → Entries → Option Entries
  | [], _, _ => none
  | [key], node, entries =>
    if entries.any fun entry => entry.1 == key then none else some (entries ++ [(key, node)])
  | key :: keys, node, entries =>
    match entries.lookup key with
    | none => (insertAt keys node []).map fun inner => entries ++ [(key, .table .dotted inner)]
    | some (.table .dotted inner) =>
      (insertAt keys node inner).map fun inner =>
        entries.map fun entry => if entry.1 == key then (key, .table .dotted inner) else entry
    | some _ => none

mutual
def Node.toData : Node → Data
  | .value data => data
  | .table _ entries => .table (entriesToData entries)
  | .tables elements => .list (elementsToData elements).reverse

def entriesToData : List (String × Node) → List (String × Data)
  | [] => []
  | (key, node) :: rest => (key, node.toData) :: entriesToData rest

def elementsToData : List (List (String × Node)) → List Data
  | [] => []
  | entries :: rest => .table (entriesToData entries) :: elementsToData rest
end

inductive Goal where
  | value
  | items (items : List Data)
  | entries (entries : Entries)

/-- Reads a value, or the rest of a list or an inline table behind its opening bracket. -/
def read : Nat → Goal → List Char → Option (Data × List Char)
  | 0, _, _ => none
  | fuel + 1, goal, chars =>
    match goal with
    | .value =>
      match chars with
      | '[' :: rest => read fuel (.items []) rest
      | '\x7b' :: rest =>
        match skip rest with
        | '\x7d' :: rest => some (.table [], rest)
        | rest => read fuel (.entries []) rest
      | _ =>
        match readText? chars with
        | some (text, rest) => some (.text text, rest)
        | none =>
          if chars.head?.any isOtherChar then some (.other, chars.dropWhile isOtherChar) else none
    | .items items =>
      match skipLines (chars.length + 1) chars with
      | ']' :: rest => some (.list items.reverse, rest)
      | chars => do
        let (item, rest) ← read fuel .value chars
        match skipLines (rest.length + 1) rest with
        | ',' :: rest => read fuel (.items (item :: items)) rest
        | ']' :: rest => return (.list (item :: items).reverse, rest)
        | _ => none
    | .entries entries => do
      let (key, rest) ← readKey (chars.length + 1) chars
      match rest with
      | '=' :: rest =>
        let (value, rest) ← read fuel .value (skip rest)
        let entries ← insertAt key (.value value) entries
        match skip rest with
        | ',' :: rest => read fuel (.entries entries) rest
        | '\x7d' :: rest => return (.table (entriesToData entries), rest)
        | _ => none
      | _ => none

/-! Statements -/

inductive Statement where
  | setting (key : List String) (value : Data)
  | header (key : List String)
  | elementHeader (key : List String)

def readHeader (chars : List Char) : Option (List String × List Char) := do
  let (key, rest) ← readKey (chars.length + 1) chars
  match rest with
  | ']' :: rest => return (key, rest)
  | _ => none

def readStatement (chars : List Char) : Option (Statement × List Char) := do
  let (statement, rest) ← match chars with
    | '[' :: '[' :: rest =>
      let (key, rest) ← readHeader rest
      match rest with
      | ']' :: rest => some (Statement.elementHeader key, rest)
      | _ => none
    | '[' :: rest =>
      let (key, rest) ← readHeader rest
      some (Statement.header key, rest)
    | _ =>
      let (key, rest) ← readKey (chars.length + 1) chars
      match rest with
      | '=' :: rest =>
        let (value, rest) ← read (rest.length + 1) .value (skip rest)
        some (Statement.setting key value, rest)
      | _ => none
  return (statement, ← endLine? rest)

def readStatements : Nat → List Statement → List Char → Option (List Statement)
  | 0, _, _ => none
  | fuel + 1, statements, chars =>
    match skipLines (chars.length + 1) chars with
    | [] => some statements.reverse
    | chars => do
      let (statement, rest) ← readStatement chars
      readStatements fuel (statement :: statements) rest

def replace (key : String) (node : Node) (entries : Entries) : Entries :=
  entries.map fun entry => if entry.1 == key then (key, node) else entry

/-- Changes what a header's last key names, going through tables and latest list elements. -/
def descend (change : String → Entries → Option Entries) : List String → Entries → Option Entries
  | [], _ => none
  | [key], entries => change key entries
  | key :: keys, entries =>
    match entries.lookup key with
    | none => (descend change keys []).map fun inner => entries ++ [(key, .table .implied inner)]
    | some (.table openness inner) =>
      (descend change keys inner).map fun inner => replace key (.table openness inner) entries
    | some (.tables (latest :: earlier)) =>
      (descend change keys latest).map fun latest =>
        replace key (.tables (latest :: earlier)) entries
    | some _ => none

/-- Opens the table of a header: a new one, or one that only longer headers have implied. -/
def openTable (settings : Entries) (key : String) (entries : Entries) : Option Entries :=
  match entries.lookup key with
  | none => some (entries ++ [(key, .table .closed settings)])
  | some (.table .implied inner) =>
    if settings.any fun setting => inner.any fun entry => entry.1 == setting.1 then none
    else some (replace key (.table .closed (inner ++ settings)) entries)
  | some _ => none

def openElement (settings : Entries) (key : String) (entries : Entries) : Option Entries :=
  match entries.lookup key with
  | none => some (entries ++ [(key, .tables [settings])])
  | some (.tables elements) => some (replace key (.tables (settings :: elements)) entries)
  | some _ => none

def settingsOf : List Statement → Entries → Option Entries
  | [], entries => some entries
  | .setting key value :: rest, entries => do
    settingsOf rest (← insertAt key (.value value) entries)
  | _ :: rest, entries => settingsOf rest entries

def isSetting : Statement → Bool
  | .setting .. => true
  | _ => false

/-- Puts headers and their settings together, in order. -/
def assemble : Nat → List Statement → Entries → Option Entries
  | 0, _, _ => none
  | _ + 1, [], entries => some entries
  | fuel + 1, statement :: rest, entries => do
    let settings ← settingsOf (rest.takeWhile isSetting) []
    let rest := rest.dropWhile isSetting
    match statement with
    | .header key => assemble fuel rest (← descend (openTable settings) key entries)
    | .elementHeader key => assemble fuel rest (← descend (openElement settings) key entries)
    | .setting .. => none

/-- The table that a text describes. -/
def parse (text : String) : Option Data := do
  let chars := match text.toList with
    | '\ufeff' :: rest => rest
    | chars => chars
  let statements ← readStatements (chars.length + 1) [] chars
  let root ← settingsOf (statements.takeWhile isSetting) []
  let entries ← assemble (statements.length + 1) (statements.dropWhile isSetting) root
  return .table (entriesToData entries)

end AspectLoom.Toml
