/-!
YAML scalars: plain, quoted and block text. Each reader takes the text behind the opening mark and
gives the value and what is left. A line break inside a scalar folds to a blank unless the
style keeps it.
-/
namespace AspectLoom.Yaml

/-- What is left of a text, and the column it starts in. -/
structure Cursor where
  chars : List Char
  column : Nat
  line : Nat := 0
deriving Inhabited

def isBreak (c : Char) : Bool :=
  c == '\r' || c == '\n' || c == '\u0085' || c == '\u2028' || c == '\u2029'

def isBlank (c : Char) : Bool := c == ' ' || c == '\t'

/-- Whether a text starts with a blank or a break, or is empty. -/
def endsToken : List Char → Bool
  | [] => true
  | c :: _ => isBlank c || isBreak c

namespace Cursor

def skip (cursor : Cursor) (count : Nat) : Cursor :=
  { cursor with chars := cursor.chars.drop count, column := cursor.column + count }

/-- Passes a line break; what it stands for in a value comes with it. -/
def passBreak (cursor : Cursor) : List Char × Cursor :=
  let next := fun rest => ({ chars := rest, column := 0, line := cursor.line + 1 } : Cursor)
  match cursor.chars with
  | '\r' :: '\n' :: rest => (['\n'], next rest)
  | '\u2028' :: rest => (['\u2028'], next rest)
  | '\u2029' :: rest => (['\u2029'], next rest)
  | _ :: rest => (['\n'], next rest)
  | [] => ([], cursor)

def atBreak (cursor : Cursor) : Bool := cursor.chars.head?.any isBreak

def atBlank (cursor : Cursor) : Bool := cursor.chars.head?.any isBlank

/-- At a mark that starts or ends a document. -/
def atDocumentMark (cursor : Cursor) : Bool :=
  cursor.column == 0 &&
    match cursor.chars with
    | '-' :: '-' :: '-' :: rest | '.' :: '.' :: '.' :: rest => endsToken rest
    | _ => false

def skipBlanks : Nat → Cursor → Cursor
  | 0, cursor => cursor
  | fuel + 1, cursor => if cursor.atBlank then skipBlanks fuel (cursor.skip 1) else cursor

end Cursor

/-- How line breaks between two stretches of a folded scalar are written in its value. -/
def foldBreaks (first : List Char) (others : List Char) : List Char :=
  if first = ['\n'] then (if others.isEmpty then [' '] else others) else first ++ others

/-- Blanks and breaks inside a plain or quoted scalar. -/
structure Gap where
  blanks : List Char := []
  firstBreak : List Char := []
  otherBreaks : List Char := []
  broken : Bool := false

def Gap.value (gap : Gap) : List Char :=
  if gap.broken then foldBreaks gap.firstBreak gap.otherBreaks else gap.blanks

/-- Reads blanks and breaks. A tab before a given column, after a break, is refused. -/
def readGap (tabLimit : Nat) : Nat → Gap → Cursor → Option (Gap × Cursor)
  | 0, gap, cursor => some (gap, cursor)
  | fuel + 1, gap, cursor =>
    match cursor.chars with
    | [] => some (gap, cursor)
    | c :: _ =>
      if isBlank c then
        if gap.broken && cursor.column < tabLimit && c == '\t' then none
        else
          let gap := if gap.broken then gap else { gap with blanks := gap.blanks ++ [c] }
          readGap tabLimit fuel gap (cursor.skip 1)
      else if isBreak c then
        let (value, next) := cursor.passBreak
        let gap := if gap.broken then { gap with otherBreaks := gap.otherBreaks ++ value }
          else { gap with firstBreak := value, broken := true }
        readGap tabLimit fuel gap next
      else some (gap, cursor)

/-! Plain scalars -/

def isFlowMark (c : Char) : Bool :=
  c == ',' || c == '[' || c == ']' || c == '\x7b' || c == '\x7d'

/-- The stretch of a plain scalar up to a blank, a break or a mark that ends it. -/
def plainStretch (inFlow : Bool) : Nat → List Char → Cursor → Option (List Char × Cursor)
  | 0, value, cursor => some (value.reverse, cursor)
  | fuel + 1, value, cursor =>
    match cursor.chars with
    | [] => some (value.reverse, cursor)
    | c :: rest =>
      if isBlank c || isBreak c then some (value.reverse, cursor)
      else if inFlow && c == ':' && rest.head?.any (fun next => isFlowMark next || next == '?')
      then none
      else if (c == ':' && endsToken rest) || (inFlow && isFlowMark c) then
        some (value.reverse, cursor)
      else plainStretch inFlow fuel (c :: value) (cursor.skip 1)

structure PlainScalar where
  value : List Char
  /-- The scalar ended behind a line break. -/
  broken : Bool
  rest : Cursor

/-- A plain scalar goes on over line breaks as long as it is indented. -/
def readPlain (inFlow : Bool) (indent : Nat) : Nat → List Char → Gap → Cursor → Option PlainScalar
  | 0, value, gap, cursor => some ⟨value, gap.broken, cursor⟩
  | fuel + 1, value, gap, cursor => do
    let done : PlainScalar := ⟨value, gap.broken, cursor⟩
    if cursor.atDocumentMark || cursor.chars.head? == some '#' then return done
    let (stretch, next) ← plainStretch inFlow (cursor.chars.length + 1) [] cursor
    let (value, gap) :=
      if stretch.isEmpty then (value, gap) else (value ++ gap.value ++ stretch, {})
    if !(next.atBlank || next.atBreak) then return ⟨value, gap.broken, next⟩
    let (gap, next) ← readGap indent (next.chars.length + 1) gap next
    if !inFlow && next.column < indent then return ⟨value, gap.broken, next⟩
    readPlain inFlow indent fuel value gap next

/-! Quoted scalars -/

def hexValue? (c : Char) : Option Nat :=
  if '0' ≤ c ∧ c ≤ '9' then some (c.toNat - 48)
  else if 'a' ≤ c ∧ c ≤ 'f' then some (c.toNat - 87)
  else if 'A' ≤ c ∧ c ≤ 'F' then some (c.toNat - 55)
  else none

/-- The character that a given number of hexadecimal digits stands for. -/
def hexChar? (count : Nat) (chars : List Char) : Option Char := do
  let digits := chars.take count
  if digits.length < count then none
  let code ← digits.foldlM (fun code c => (hexValue? c).map (16 * code + ·)) 0
  if code.isValidChar then some (Char.ofNat code) else none

/-- What an escape letter stands for, and how many digits follow it. -/
def escapeLetter? : Char → Option (Char ⊕ Nat)
  | '0' => some (.inl '\x00')
  | 'a' => some (.inl '\x07')
  | 'b' => some (.inl '\x08')
  | 't' | '\t' => some (.inl '\t')
  | 'n' => some (.inl '\n')
  | 'v' => some (.inl '\x0b')
  | 'f' => some (.inl '\x0c')
  | 'r' => some (.inl '\r')
  | 'e' => some (.inl '\x1b')
  | ' ' => some (.inl ' ')
  | '"' => some (.inl '"')
  | '/' => some (.inl '/')
  | '\\' => some (.inl '\\')
  | 'N' => some (.inl '\u0085')
  | '_' => some (.inl '\u00a0')
  | 'L' => some (.inl '\u2028')
  | 'P' => some (.inl '\u2029')
  | 'x' => some (.inr 2)
  | 'u' => some (.inr 4)
  | 'U' => some (.inr 8)
  | _ => none

structure QuotedStretch where
  value : List Char
  /-- The stretch ended in an escaped line break, which leaves nothing in the value. -/
  joined : Bool
  rest : Cursor

/-- The stretch of a quoted scalar up to a blank, a break or the closing quote. -/
def quotedStretch (double : Bool) : Nat → List Char → Cursor → Option QuotedStretch
  | 0, value, cursor => some ⟨value.reverse, false, cursor⟩
  | fuel + 1, value, cursor =>
    match cursor.chars with
    | [] => some ⟨value.reverse, false, cursor⟩
    | c :: rest =>
      if isBlank c || isBreak c then some ⟨value.reverse, false, cursor⟩
      else if !double && c == '\'' then
        match rest with
        | '\'' :: _ => quotedStretch double fuel ('\'' :: value) (cursor.skip 2)
        | _ => some ⟨value.reverse, false, cursor⟩
      else if double && c == '"' then some ⟨value.reverse, false, cursor⟩
      else if double && c == '\\' then
        match rest with
        | [] => none
        | letter :: digits =>
          if isBreak letter then
            let (_, next) := (cursor.skip 1).passBreak
            some ⟨value.reverse, true, next⟩
          else
            match escapeLetter? letter with
            | some (.inl char) => quotedStretch double fuel (char :: value) (cursor.skip 2)
            | some (.inr count) =>
              (hexChar? count digits).bind fun char =>
                quotedStretch double fuel (char :: value) (cursor.skip (2 + count))
            | none => none
      else quotedStretch double fuel (c :: value) (cursor.skip 1)

/-- The value of a quoted scalar, read behind its opening quote. -/
def readQuoted (double : Bool) : Nat → List Char → Cursor → Option (List Char × Cursor)
  | 0, _, _ => none
  | fuel + 1, value, cursor => do
    if cursor.atDocumentMark || cursor.chars.isEmpty then none
    let stretch ← quotedStretch double (cursor.chars.length + 1) [] cursor
    let value := value ++ stretch.value
    let next := stretch.rest
    if next.chars.head? == some (if double then '"' else '\'') then return (value, next.skip 1)
    let start : Gap := if stretch.joined then { broken := true } else {}
    let (gap, next) ← readGap 0 (next.chars.length + 1) start next
    readQuoted double fuel (value ++ gap.value) next

/-! Block scalars -/

inductive Chomp where
  | strip
  | clip
  | keep
deriving DecidableEq

structure BlockHeader where
  chomp : Chomp := .clip
  indent : Option Nat := none

/-- Chomping and indentation marks, in either order. -/
def readBlockHeader (cursor : Cursor) : Option (BlockHeader × Cursor) :=
  let chompMark? : List Char → Option Chomp := fun chars =>
    match chars.head? with
    | some '+' => some .keep
    | some '-' => some .strip
    | _ => none
  let digit? : List Char → Option Nat := fun chars =>
    chars.head?.bind fun c => if '0' ≤ c ∧ c ≤ '9' then some (c.toNat - 48) else none
  let header : BlockHeader × Cursor :=
    match chompMark? cursor.chars with
    | some chomp =>
      match digit? (cursor.skip 1).chars with
      | some indent => (⟨chomp, some indent⟩, cursor.skip 2)
      | none => (⟨chomp, none⟩, cursor.skip 1)
    | none =>
      match digit? cursor.chars with
      | some indent =>
        match chompMark? (cursor.skip 1).chars with
        | some chomp => (⟨chomp, some indent⟩, cursor.skip 2)
        | none => (⟨.clip, some indent⟩, cursor.skip 1)
      | none => ({}, cursor)
  if header.1.indent = some 0 then none else some header

/-- Skips blanks and a comment up to the end of the line. -/
def skipLineEnd (cursor : Cursor) : Cursor :=
  let cursor := cursor.skipBlanks cursor.chars.length
  match cursor.chars with
  | '#' :: _ => cursor.skip (cursor.chars.takeWhile fun c => !isBreak c).length
  | _ => cursor

structure BlockBreaks where
  value : List Char
  deepest : Nat
  rest : Cursor

/-- Indentation and empty lines before a line of a block scalar. Without a known indentation the
deepest one seen is taken. -/
def readBlockBreaks (indent : Option Nat) : Nat → List Char → Nat → Cursor → Option BlockBreaks
  | 0, value, deepest, cursor => some ⟨value, deepest, cursor⟩
  | fuel + 1, value, deepest, cursor =>
    let inside := indent.all fun indent => cursor.column < indent
    match cursor.chars with
    | [] => some ⟨value, max deepest cursor.column, cursor⟩
    | c :: _ =>
      if inside && c == ' ' then readBlockBreaks indent fuel value deepest (cursor.skip 1)
      else if inside && c == '\t' then none
      else
        let deepest := max deepest cursor.column
        if isBreak c then
          let (text, next) := cursor.passBreak
          readBlockBreaks indent fuel (value ++ text) deepest next
        else some ⟨value, deepest, cursor⟩

/-- The lines of a block scalar: the value so far, the break that ended the last line, the empty
lines behind it, and whether the last line started with a blank. -/
structure BlockLines where
  value : List Char := []
  lastBreak : List Char := []
  emptyLines : List Char := []
  afterBlank : Bool := false

def BlockLines.join (literal : Bool) (lines : BlockLines) (beforeBlank : Bool) : List Char :=
  if !literal && lines.lastBreak == ['\n'] && !lines.afterBlank && !beforeBlank then
    if lines.emptyLines.isEmpty then [' '] else lines.emptyLines
  else lines.lastBreak ++ lines.emptyLines

def readBlockLines (literal : Bool) (indent : Nat) : Nat → BlockLines → Cursor →
    Option (BlockLines × Cursor)
  | 0, lines, cursor => some (lines, cursor)
  | fuel + 1, lines, cursor => do
    if cursor.column != indent || cursor.chars.isEmpty then return (lines, cursor)
    let line := cursor.chars.takeWhile fun c => !isBreak c
    let value := lines.value ++ lines.join literal cursor.atBlank ++ line
    let (lastBreak, next) := (cursor.skip line.length).passBreak
    let breaks ← readBlockBreaks (some indent) (next.chars.length + 1) [] 0 next
    readBlockLines literal indent fuel
      { value := value, lastBreak := lastBreak, emptyLines := breaks.value,
        afterBlank := cursor.atBlank }
      breaks.rest

/-- A block scalar, read behind its mark, inside a block of some indentation. -/
def readBlock (literal : Bool) (outer : Int) (cursor : Cursor) : Option (List Char × Cursor) := do
  let (header, cursor) ← readBlockHeader cursor
  let cursor := skipLineEnd cursor
  if !(cursor.chars.isEmpty || cursor.atBreak) then none
  let (_, cursor) := cursor.passBreak
  let known := header.indent.map fun depth => if 0 ≤ outer then outer.toNat + depth else depth
  let fuel := cursor.chars.length + 1
  let breaks ← readBlockBreaks known fuel [] 0 cursor
  let indent := known.getD (max breaks.deepest (max (outer + 1).toNat 1))
  let (lines, rest) ← readBlockLines literal indent fuel { emptyLines := breaks.value }
    breaks.rest
  let ending := match header.chomp with
    | .strip => []
    | .clip => lines.lastBreak
    | .keep => lines.lastBreak ++ lines.emptyLines
  return (lines.value ++ ending, rest)

end AspectLoom.Yaml
