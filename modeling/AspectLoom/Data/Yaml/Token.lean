import AspectLoom.Data.Yaml.Scalar
/-!
The tokens of a YAML text. Indentation opens and closes blocks. A scalar or collection that turns
out to be a key, because a `:` follows it on its line, gets its key mark put in front of it then.
-/
namespace AspectLoom.Yaml

inductive Token where
  | versionDirective (major minor : Nat)
  | tagDirective (handle : String)
  | documentStart
  | documentEnd
  | blockList
  | blockTable
  | blockEnd
  | flowListStart
  | flowListEnd
  | flowTableStart
  | flowTableEnd
  | entry
  | flowEntry
  | key
  | value
  | alias (name : String)
  | anchor (name : String)
  | tag (handle suffix : String)
  | scalar (text : String) (plain : Bool)
deriving DecidableEq, Repr, Inhabited

/-- A place that can still become a key. -/
structure KeyPlace where
  /-- The number of tokens before it. -/
  index : Nat
  line : Nat
  column : Nat
  /-- How many characters were left there. -/
  left : Nat
  /-- Nothing but a key can stand here. -/
  required : Bool

structure Lexer where
  cursor : Cursor
  tokens : Array Token := #[]
  /-- The column of the innermost block, `-1` outside all blocks, and those of the blocks around. -/
  indent : Int := -1
  indents : List Int := []
  keyAllowed : Bool := true
  /-- One possible key for every open flow collection, and one outside them. -/
  keys : List (Option KeyPlace) := [none]

namespace Lexer

def flowLevel (lexer : Lexer) : Nat := lexer.keys.length - 1

def inFlow (lexer : Lexer) : Bool := lexer.flowLevel != 0

def column (lexer : Lexer) : Int := lexer.cursor.column

def push (lexer : Lexer) (token : Token) : Lexer :=
  { lexer with tokens := lexer.tokens.push token }

def skip (lexer : Lexer) (count : Nat) : Lexer :=
  { lexer with cursor := lexer.cursor.skip count }

/-- Opens a block if the column is deeper than the innermost one. -/
def openBlock (lexer : Lexer) (column : Int) (index : Nat) (token : Token) : Lexer :=
  if !lexer.inFlow && lexer.indent < column then
    { lexer with
      indents := lexer.indent :: lexer.indents
      indent := column
      tokens := lexer.tokens.insertIdxIfInBounds index token }
  else lexer

def closeBlocksFrom (column : Int) : List Int → Lexer → Lexer
  | outer, lexer =>
    if lexer.indent ≤ column then { lexer with indents := outer }
    else
      match outer with
      | [] => { lexer with indents := [] }
      | indent :: outer =>
        closeBlocksFrom column outer { lexer.push .blockEnd with indent := indent }

/-- Closes every block that is deeper than a column. -/
def closeBlocks (lexer : Lexer) (column : Int) : Lexer :=
  if lexer.inFlow then lexer else closeBlocksFrom column lexer.indents lexer

/-- Gives up the innermost possible key; one that is required cannot be given up. -/
def dropKey (lexer : Lexer) : Option Lexer :=
  match lexer.keys with
  | some place :: outer =>
    if place.required then none else some { lexer with keys := none :: outer }
  | _ => some lexer

def isStale (cursor : Cursor) (place : KeyPlace) : Bool :=
  place.line < cursor.line || place.left > cursor.chars.length + 1024

/-- Gives up keys that would not end on their line or within 1024 characters. -/
def dropStaleKeys (lexer : Lexer) : Option Lexer := do
  let keys ← lexer.keys.mapM fun key =>
    match key with
    | some place =>
      if isStale lexer.cursor place then (if place.required then none else some none)
      else some (some place)
    | none => some none
  return { lexer with keys := keys }

/-- Notes that what comes next could be a key. -/
def markKey (lexer : Lexer) : Option Lexer := do
  if !lexer.keyAllowed then return lexer
  let lexer ← lexer.dropKey
  let place : KeyPlace :=
    { index := lexer.tokens.size
      line := lexer.cursor.line
      column := lexer.cursor.column
      left := lexer.cursor.chars.length
      required := !lexer.inFlow && lexer.indent == lexer.column }
  return { lexer with keys := some place :: lexer.keys.drop 1 }

def documentMark (lexer : Lexer) (token : Token) : Option Lexer := do
  let lexer ← (lexer.closeBlocks (-1)).dropKey
  return { (lexer.skip 3).push token with keyAllowed := false }

def openFlow (lexer : Lexer) (token : Token) : Option Lexer := do
  let lexer ← lexer.markKey
  return { (lexer.skip 1).push token with keys := none :: lexer.keys, keyAllowed := true }

def closeFlow (lexer : Lexer) (token : Token) : Option Lexer := do
  let lexer ← lexer.dropKey
  let keys := if lexer.inFlow then lexer.keys.drop 1 else lexer.keys
  return { (lexer.skip 1).push token with keys := keys, keyAllowed := false }

def flowEntry (lexer : Lexer) : Option Lexer := do
  let lexer ← lexer.dropKey
  return { (lexer.skip 1).push .flowEntry with keyAllowed := true }

def blockEntry (lexer : Lexer) : Option Lexer := do
  if !lexer.inFlow && !lexer.keyAllowed then none
  let lexer ← (lexer.openBlock lexer.column lexer.tokens.size .blockList).dropKey
  return { (lexer.skip 1).push .entry with keyAllowed := true }

def keyMark (lexer : Lexer) : Option Lexer := do
  if !lexer.inFlow && !lexer.keyAllowed then none
  let lexer ← (lexer.openBlock lexer.column lexer.tokens.size .blockTable).dropKey
  return { (lexer.skip 1).push .key with keyAllowed := !lexer.inFlow }

def valueMark (lexer : Lexer) : Option Lexer :=
  match lexer.keys with
  | some place :: outer =>
    let lexer := { lexer with tokens := lexer.tokens.insertIdxIfInBounds place.index .key }
    let lexer := lexer.openBlock place.column place.index .blockTable
    some { (lexer.skip 1).push .value with keys := none :: outer, keyAllowed := false }
  | _ =>
    if !lexer.inFlow && !lexer.keyAllowed then none
    else
      let lexer := lexer.openBlock lexer.column lexer.tokens.size .blockTable
      some { (lexer.skip 1).push .value with keyAllowed := !lexer.inFlow }

def isNameChar (c : Char) : Bool :=
  ('a' ≤ c && c ≤ 'z') || ('A' ≤ c && c ≤ 'Z') || ('0' ≤ c && c ≤ '9') || c == '_' || c == '-'

/-- A name ends at a blank, a break or one of a few marks. -/
def endsName : List Char → Bool
  | [] => true
  | c :: _ => isBlank c || isBreak c || "?:,]\x7d%@\x60".toList.contains c

/-- An anchor or alias, with its name. -/
def reference (lexer : Lexer) (token : String → Token) : Option Lexer := do
  let lexer ← lexer.markKey
  let lexer := { lexer.skip 1 with keyAllowed := false }
  let name := lexer.cursor.chars.takeWhile isNameChar
  let rest := lexer.skip name.length
  if name.isEmpty || !endsName rest.cursor.chars then none
  return rest.push (token (String.ofList name))

def isTagChar (c : Char) : Bool :=
  isNameChar c || ";/?:@&=+$.!~*'()%".toList.contains c

def isFlowTagChar (c : Char) : Bool := isTagChar c || c == ',' || c == '[' || c == ']'

/-- A tag in angle brackets, behind a handle, or alone. -/
def tag (lexer : Lexer) : Option Lexer := do
  let lexer ← lexer.markKey
  let lexer := { lexer.skip 1 with keyAllowed := false }
  let chars := lexer.cursor.chars
  let (lexer, token) ← match chars with
    | '<' :: rest =>
      let uri := rest.takeWhile isFlowTagChar
      if uri.isEmpty then none
      match rest.drop uri.length with
      | '>' :: _ => some (lexer.skip (uri.length + 2), Token.tag "" (String.ofList uri))
      | _ => none
    | _ =>
      let word := chars.takeWhile isNameChar
      match chars.drop word.length with
      | '!' :: rest =>
        let suffix := rest.takeWhile isTagChar
        if suffix.isEmpty then none
        some (lexer.skip (word.length + 1 + suffix.length),
          Token.tag ("!" ++ String.ofList word ++ "!") (String.ofList suffix))
      | _ =>
        let suffix := chars.takeWhile isTagChar
        some (lexer.skip suffix.length, Token.tag "!" (String.ofList suffix))
  let ended := endsToken lexer.cursor.chars ||
    (lexer.inFlow && lexer.cursor.chars.head? == some ',')
  if !ended then none
  return lexer.push token

def block (lexer : Lexer) (literal : Bool) : Option Lexer := do
  let lexer ← lexer.dropKey
  let (value, cursor) ← readBlock literal lexer.indent (lexer.cursor.skip 1)
  return { lexer.push (.scalar (String.ofList value) false) with
    cursor := cursor, keyAllowed := true }

def quoted (lexer : Lexer) (double : Bool) : Option Lexer := do
  let lexer ← lexer.markKey
  let cursor := lexer.cursor.skip 1
  let (value, cursor) ← readQuoted double (cursor.chars.length + 1) [] cursor
  return { lexer.push (.scalar (String.ofList value) false) with
    cursor := cursor, keyAllowed := false }

def plain (lexer : Lexer) : Option Lexer := do
  let lexer ← lexer.markKey
  let cursor := lexer.cursor
  let scalar ← readPlain lexer.inFlow (lexer.indent + 1).toNat (cursor.chars.length + 1) [] {}
    cursor
  return { lexer.push (.scalar (String.ofList scalar.value) true) with
    cursor := scalar.rest, keyAllowed := scalar.broken }

def number? (chars : List Char) : Option Nat :=
  if chars.length ≤ 9 then (String.ofList chars).toNat? else none

/-- A directive up to the end of its line: the version of YAML or the handle of a tag. -/
def directive (lexer : Lexer) : Option Lexer := do
  let lexer ← (lexer.closeBlocks (-1)).dropKey
  let line := lexer.cursor.chars.takeWhile fun c => !isBreak c
  let words := (line.takeWhile (· ≠ '#')).splitBy fun left right => isBlank left == isBlank right
  let token ← match words.filter fun word => !word.all isBlank with
    | [name, version] =>
      if String.ofList name != "%YAML" then none
      match version.splitOn '.' with
      | [major, minor] => some (Token.versionDirective (← number? major) (← number? minor))
      | _ => none
    | [name, handle, _] =>
      if String.ofList name != "%TAG" || handle.head? != some '!' then none
      some (Token.tagDirective (String.ofList handle))
    | _ => none
  return { (lexer.skip line.length).push token with keyAllowed := false }

/-- Blanks, comments and line breaks between tokens. A tab counts as a blank only where no key can
start. -/
def skipToToken : Nat → Lexer → Lexer
  | 0, lexer => lexer
  | fuel + 1, lexer =>
    match lexer.cursor.chars with
    | [] => lexer
    | c :: _ =>
      if c == ' ' || (c == '\t' && (lexer.inFlow || !lexer.keyAllowed)) then
        skipToToken fuel (lexer.skip 1)
      else if c == '#' then
        skipToToken fuel (lexer.skip (lexer.cursor.chars.takeWhile fun c => !isBreak c).length)
      else if isBreak c then
        skipToToken fuel { lexer with
          cursor := lexer.cursor.passBreak.2
          keyAllowed := lexer.keyAllowed || !lexer.inFlow }
      else lexer

/-- Characters that start no plain scalar. -/
def indicators : List Char := "-?:,[]\x7b\x7d#&*!|>'\"%@\x60".toList

def startsPlain (lexer : Lexer) (c : Char) (rest : List Char) : Bool :=
  !(isBlank c || isBreak c || indicators.contains c) ||
    (c == '-' && !rest.head?.any isBlank) ||
    (!lexer.inFlow && (c == '?' || c == ':') && !endsToken rest)

/-- Reads one token; the cursor is at its first character. -/
def readToken (lexer : Lexer) (c : Char) (rest : List Char) : Option Lexer :=
  if lexer.cursor.column == 0 && c == '%' then lexer.directive
  else if lexer.cursor.atDocumentMark then
    lexer.documentMark (if c == '-' then .documentStart else .documentEnd)
  else
    match c with
    | '[' => lexer.openFlow .flowListStart
    | '\x7b' => lexer.openFlow .flowTableStart
    | ']' => lexer.closeFlow .flowListEnd
    | '\x7d' => lexer.closeFlow .flowTableEnd
    | ',' => lexer.flowEntry
    | '*' => lexer.reference .alias
    | '&' => lexer.reference .anchor
    | '!' => lexer.tag
    | '\'' => lexer.quoted false
    | '"' => lexer.quoted true
    | _ =>
      if c == '-' && endsToken rest then lexer.blockEntry
      else if c == '?' && (lexer.inFlow || endsToken rest) then lexer.keyMark
      else if c == ':' && (lexer.inFlow || endsToken rest) then lexer.valueMark
      else if c == '|' && !lexer.inFlow then lexer.block true
      else if c == '>' && !lexer.inFlow then lexer.block false
      else if lexer.startsPlain c rest then lexer.plain
      else none

def run : Nat → Lexer → Option Lexer
  | 0, _ => none
  | fuel + 1, lexer => do
    let lexer := lexer.skipToToken (lexer.cursor.chars.length + 1)
    let lexer ← lexer.dropStaleKeys
    let lexer := lexer.closeBlocks lexer.column
    match lexer.cursor.chars with
    | [] => (lexer.closeBlocks (-1)).dropKey
    | c :: rest => run fuel (← lexer.readToken c rest)

end Lexer

/-- Characters that a document may hold as they are. -/
def isPermitted (c : Char) : Bool :=
  c == '\t' || c == '\n' || c == '\r' || (' ' ≤ c && c ≤ '~') || c == '\u0085' ||
    ('\u00a0' ≤ c && c != '\ufeff' && c != '\ufffe' && c != '\uffff')

/-- The tokens of a text; a byte order mark in front of it is no part of it. -/
def tokenize (text : String) : Option (List Token) := do
  let chars := match text.toList with
    | '\ufeff' :: rest => rest
    | chars => chars
  if !chars.all isPermitted then none
  let lexer ← Lexer.run (chars.length + 1) { cursor := { chars := chars, column := 0 } }
  return lexer.tokens.toList

end AspectLoom.Yaml
