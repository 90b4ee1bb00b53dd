import AspectLoom.Regex.Expr
import AspectLoom.Regex.CharClass
/-!
Reading a pattern. Groups are kept on a stack while their items are read from left to right; the
flags that a pattern sets hold to the end of the group that they stand in.
-/
namespace AspectLoom.Regex

open Unicode (Runs)

inductive PatternError where
  | unclosedGroup
  | unopenedGroup
  | unclosedClass
  | badClassItem
  | badClassRange
  | nothingToRepeat
  | badCount
  | badEscape
  | unknownEscape
  | backReference
  | lookAround
  | badGroupName
  | repeatedGroupName
  | badFlags
  | unknownProperty
  /-- A set of bytes that are no characters. -/
  | notText
  | tooDeep
  | tooBig
deriving DecidableEq, Repr

structure Flags where
  ignoreCase : Bool := false
  multiLine : Bool := false
  dotAll : Bool := false
  unicode : Bool := true
  wideLines : Bool := false
  /-- Blanks and comments in the pattern stand for nothing. -/
  extended : Bool := false
deriving DecidableEq, Repr

/-- What is left of a pattern. -/
abbrev Input := List Char

def skipBlanks : Bool → Input → Input
  | _, [] => []
  | true, c :: rest => skipBlanks (c != '\n') rest
  | false, c :: rest =>
    if Unicode.isBlank c then skipBlanks false rest
    else if c = '#' then skipBlanks true rest
    else c :: rest

namespace Flags

/-- Skips what stands for nothing. -/
def skip (flags : Flags) (chars : Input) : Input :=
  if flags.extended then skipBlanks false chars else chars

/-- A set closed under case where case is ignored. -/
def fold (flags : Flags) (set : Runs) : Runs :=
  if flags.ignoreCase then closeUnderCase flags.unicode set else set

/-- Out of Unicode mode a set may hold no byte that is no character by itself. -/
def checked (flags : Flags) (set : Runs) : Except PatternError Runs :=
  if !flags.unicode && set.any fun run => 0x7F < run.2 then .error .notText else .ok set

def negate (flags : Flags) (negated : Bool) (set : Runs) : Runs :=
  if negated then set.complement (lastCode flags.unicode) else set

def set (flags : Flags) (on : Bool) : Char → Except PatternError Flags
  | 'i' => .ok { flags with ignoreCase := on }
  | 'm' => .ok { flags with multiLine := on }
  | 's' => .ok { flags with dotAll := on }
  | 'U' => .ok flags
  | 'u' => .ok { flags with unicode := on }
  | 'R' => .ok { flags with wideLines := on }
  | 'x' => .ok { flags with extended := on }
  | _ => .error .badFlags

/-- Sets flags from their letters; those after a `-` are switched off. -/
def apply (flags : Flags) : Bool → Input → Except PatternError Flags
  | _, [] => .ok flags
  | _, '-' :: rest => flags.apply false rest
  | on, letter :: rest => do (← flags.set on letter).apply on rest

end Flags

/-! Escapes -/

/-- A literal character; a byte escape has exactly two hexadecimal digits. -/
structure Literal where
  char : Char
  byte : Bool

inductive Escape where
  | literal (literal : Literal)
  | look (assertion : Look)
  | set (set : Runs)

def hexValue? (c : Char) : Option Nat :=
  if '0' ≤ c ∧ c ≤ '9' then some (c.toNat - 48)
  else if 'a' ≤ c ∧ c ≤ 'f' then some (c.toNat - 87)
  else if 'A' ≤ c ∧ c ≤ 'F' then some (c.toNat - 55)
  else none

def charOfCode? (code : Nat) : Option Char :=
  if code.isValidChar then some (Char.ofNat code) else none

/-- A given number of hexadecimal digits. -/
def readHexDigits (flags : Flags) : Nat → Nat → Input → Except PatternError (Nat × Input)
  | 0, value, chars => .ok (value, chars)
  | _ + 1, _, [] => .error .badEscape
  | count + 1, value, c :: rest =>
    match hexValue? c with
    | some digit => readHexDigits flags count (16 * value + digit) (flags.skip rest)
    | none => .error .badEscape

/-- Hexadecimal digits up to a closing brace; the fuel bounds their number. -/
def readHexBraces (flags : Flags) : Nat → Option Nat → Input → Except PatternError (Nat × Input)
  | 0, _, _ => .error .badEscape
  | _ + 1, _, [] => .error .badEscape
  | fuel + 1, value, c :: rest =>
    if c = '\x7d' then
      match value with
      | some value => .ok (value, flags.skip rest)
      | none => .error .badEscape
    else
      match hexValue? c with
      | some digit => readHexBraces flags fuel (some (16 * value.getD 0 + digit)) (flags.skip rest)
      | none => .error .badEscape

def literalOfCode (code : Nat) (byte : Bool) : Except PatternError Escape :=
  match charOfCode? code with
  | some char => .ok (.literal ⟨char, byte⟩)
  | none => .error .badEscape

def readHex (flags : Flags) (digits : Nat) (chars : Input) :
    Except PatternError (Escape × Input) := do
  match flags.skip chars with
  | [] => throw .badEscape
  | c :: rest =>
    if c = '\x7b' then
      let (code, rest) ← readHexBraces flags (rest.length + 1) none (flags.skip rest)
      return (← literalOfCode code false, rest)
    else
      let (code, rest) ← readHexDigits flags digits 0 (c :: rest)
      return (← literalOfCode code (digits == 2), rest)

/-- The name between the braces of a property escape, blanks and comments left out. -/
def readPropertyName (flags : Flags) : Nat → Input → Input → Except PatternError (Input × Input)
  | 0, _, _ => .error .badEscape
  | _ + 1, _, [] => .error .badEscape
  | fuel + 1, name, c :: rest =>
    if c = '\x7d' then .ok (name.reverse, rest)
    else readPropertyName flags fuel (c :: name) (flags.skip rest)

/-- Splits at the first place where a separator stands. -/
def splitFirst? (separator : Input) : Input → Option (Input × Input)
  | [] => none
  | c :: rest =>
    match separator.isPrefixOf? (c :: rest) with
    | some value => some ([], value)
    | none => (splitFirst? separator rest).map fun (name, value) => (c :: name, value)

def propertySet? (name : Input) : Option Runs :=
  let valued := splitFirst? ['!', '='] name <|> splitFirst? [':'] name <|> splitFirst? ['='] name
  match valued with
  | some (property, value) => valuedSet? (String.ofList property) (String.ofList value)
  | none => namedSet? (String.ofList name)

def readProperty (flags : Flags) (negated : Bool) (chars : Input) :
    Except PatternError (Escape × Input) := do
  let (name, rest) ← match flags.skip chars with
    | [] => throw .badEscape
    | c :: rest =>
      if c = '\x7b' then readPropertyName flags (rest.length + 1) [] (flags.skip rest)
      else if c = '\\' then throw .badEscape
      else pure ([c], rest)
  if !flags.unicode then throw .notText
  match propertySet? name with
  | some set => return (.set (flags.negate negated (flags.fold set)), rest)
  | none => throw .unknownProperty

def shortClass (flags : Flags) (kind : ShortClass) (negated : Bool) :
    Except PatternError Escape := do
  let set ← flags.checked (flags.negate negated (kind.members flags.unicode))
  return .set set

def isBoundaryLetter (c : Char) : Bool := Unicode.isAsciiLetter c || c == '-'

def readBoundaryName (flags : Flags) : Nat → Input → Input → Input × Input
  | 0, name, chars => (name.reverse, chars)
  | _ + 1, name, [] => (name.reverse, [])
  | fuel + 1, name, c :: rest =>
    if isBoundaryLetter c then readBoundaryName flags fuel (c :: name) (flags.skip rest)
    else (name.reverse, c :: rest)

/-- What follows `\b`: a boundary's name in braces, or nothing that belongs to it. -/
def readBoundary (flags : Flags) (chars : Input) : Except PatternError (Look × Input) := do
  let ascii := !flags.unicode
  match chars with
  | '\x7b' :: rest =>
    match flags.skip rest with
    | [] => throw .badEscape
    | c :: inside =>
      if !isBoundaryLetter c then return (.wordBoundary ascii, chars)
      let (name, rest) := readBoundaryName flags (inside.length + 1) [] (c :: inside)
      let look ← match String.ofList name with
        | "start" => pure (Look.wordStart ascii)
        | "end" => pure (Look.wordEnd ascii)
        | "start-half" => pure (Look.wordStartHalf ascii)
        | "end-half" => pure (Look.wordEndHalf ascii)
        | _ => throw .badEscape
      match rest with
      | '\x7d' :: rest => return (look, rest)
      | _ => throw .badEscape
  | _ => return (.wordBoundary ascii, chars)

/-- What stands behind a backslash. -/
def readEscape (flags : Flags) : Input → Except PatternError (Escape × Input)
  | [] => .error .badEscape
  | c :: rest => do
    let ascii := !flags.unicode
    let literal := fun (char : Char) => (Escape.literal ⟨char, false⟩, rest)
    if Unicode.isAsciiDigit c then throw .backReference
    match c with
    | 'x' => readHex flags 2 rest
    | 'u' => readHex flags 4 rest
    | 'U' => readHex flags 8 rest
    | 'p' => readProperty flags false rest
    | 'P' => readProperty flags true rest
    | 'd' => return (← shortClass flags .digit false, rest)
    | 'D' => return (← shortClass flags .digit true, rest)
    | 's' => return (← shortClass flags .blank false, rest)
    | 'S' => return (← shortClass flags .blank true, rest)
    | 'w' => return (← shortClass flags .word false, rest)
    | 'W' => return (← shortClass flags .word true, rest)
    | 'a' => return literal '\x07'
    | 'f' => return literal '\x0c'
    | 't' => return literal '\t'
    | 'n' => return literal '\n'
    | 'r' => return literal '\r'
    | 'v' => return literal '\x0b'
    | 'A' => return (.look .textStart, rest)
    | 'z' => return (.look .textEnd, rest)
    | 'b' =>
      let (look, rest) ← readBoundary flags rest
      return (.look look, rest)
    | 'B' => return (.look (.notWordBoundary ascii), rest)
    | '<' => return (.look (.wordStart ascii), rest)
    | '>' => return (.look (.wordEnd ascii), rest)
    | _ =>
      if Unicode.isAsciiLetter c || !Unicode.isAscii c then throw .unknownEscape
      return literal c

/-! Bracketed classes -/

inductive SetOp where
  | intersection
  | difference
  | symmetricDifference

def SetOp.apply (last : Nat) : SetOp → Runs → Runs → Runs
  | intersection, left, right => left.intersect right
  | difference, left, right => left.intersect (right.complement last)
  | symmetricDifference, left, right =>
    (left.union right).intersect ((left.intersect right).complement last)

/-- What has been read of a bracketed class: the members since the last operator, and what stands
before that operator. -/
structure ClassLevel where
  negated : Bool
  members : Runs := #[]
  count : Nat := 0
  depth : Nat := 0
  pending : Option (SetOp × Runs × Nat) := none

namespace ClassLevel

def add (level : ClassLevel) (set : Runs) (depth : Nat) : ClassLevel :=
  { level with
    members := level.members.union set
    count := level.count + 1
    depth := max level.depth depth }

/-- The set read so far and how deep its parts nest. -/
def value (flags : Flags) (level : ClassLevel) : Runs × Nat :=
  let depth := if 2 ≤ level.count then level.depth + 1 else level.depth
  match level.pending with
  | none => (level.members, depth)
  | some (op, left, leftDepth) =>
    (op.apply (lastCode flags.unicode) (flags.fold left) (flags.fold level.members),
      max leftDepth depth + 1)

def operator (flags : Flags) (op : SetOp) (level : ClassLevel) : ClassLevel :=
  let (set, depth) := level.value flags
  { negated := level.negated, pending := some (op, set, depth) }

def close (flags : Flags) (level : ClassLevel) : Except PatternError (Runs × Nat) := do
  let (set, depth) := level.value flags
  return (← flags.checked (flags.negate level.negated (flags.fold set)), depth + 1)

end ClassLevel

def literalDashes (flags : Flags) : Nat → ClassLevel → Input → ClassLevel × Input
  | 0, level, chars => (level, chars)
  | fuel + 1, level, chars =>
    match chars with
    | '-' :: rest => literalDashes flags fuel (level.add (Runs.single '-') 0) (flags.skip rest)
    | _ => (level, chars)

/-- What follows an opening bracket: a `^`, dashes, and a first `]`, all of them literal. -/
def openClass (flags : Flags) (chars : Input) : Except PatternError (ClassLevel × Input) := do
  let chars := flags.skip chars
  let (negated, chars) := match chars with
    | '^' :: rest => (true, flags.skip rest)
    | _ => (false, chars)
  let (level, chars) := literalDashes flags chars.length { negated := negated } chars
  let (level, chars) := match chars with
    | ']' :: rest =>
      if level.count = 0 then (level.add (Runs.single ']') 0, flags.skip rest) else (level, chars)
    | _ => (level, chars)
  if chars.isEmpty then throw .unclosedClass
  return (level, chars)

/-- A bracketed name such as `:alpha:]`; anything else is no name but a class of its own. -/
def readBracketName? (chars : Input) : Option ((Bool × Runs) × Input) :=
  match chars with
  | ':' :: rest =>
    let (negated, rest) := match rest with
      | '^' :: rest => (true, rest)
      | _ => (false, rest)
    match rest.dropWhile (· ≠ ':') with
    | ':' :: ']' :: after =>
      (bracketName? (String.ofList (rest.takeWhile (· ≠ ':')))).map fun set =>
        ((negated, set), after)
    | _ => none
  | _ => none

def readClassItem (flags : Flags) : Input → Except PatternError (Escape × Input)
  | [] => .error .unclosedClass
  | '\\' :: rest => readEscape flags rest
  | c :: rest => .ok (.literal ⟨c, false⟩, rest)

/-- The code of a literal in a class. -/
def classCode (flags : Flags) (literal : Literal) : Except PatternError Nat :=
  if flags.unicode || Unicode.isAscii literal.char then .ok literal.char.toNat
  else .error .notText

/-- A member of a class or a range of members. -/
def readClassMember (flags : Flags) (chars : Input) : Except PatternError (Runs × Input) := do
  let (first, rest) ← readClassItem flags chars
  let rest := flags.skip rest
  if rest.isEmpty then throw .unclosedClass
  let range := match rest with
    | '-' :: after =>
      match flags.skip after with
      | ']' :: _ | '-' :: _ => none
      | after => some after
    | _ => none
  match range with
  | none =>
    match first with
    | .literal literal =>
      let code ← classCode flags literal
      return (#[(code, code)], rest)
    | .set set => return (set, rest)
    | .look _ => throw .badClassItem
  | some after =>
    if after.isEmpty then throw .unclosedClass
    let (second, rest) ← readClassItem flags after
    match first, second with
    | .literal first, .literal second =>
      if second.char < first.char then throw .badClassRange
      return (#[(← classCode flags first, ← classCode flags second)], rest)
    | _, _ => throw .badClassRange

/-- Reads a bracketed class after its opening bracket; `outer` holds the classes around it. -/
def readClass (flags : Flags) : Nat → ClassLevel → List ClassLevel → Input →
    Except PatternError ((Runs × Nat) × Input)
  | 0, _, _, _ => .error .unclosedClass
  | fuel + 1, level, outer, chars => do
    match flags.skip chars with
    | [] => throw .unclosedClass
    | '[' :: rest =>
      match readBracketName? rest with
      | some ((negated, set), rest) =>
        let set ← flags.checked (flags.negate negated (flags.fold set))
        readClass flags fuel (level.add set 0) outer rest
      | none =>
        let (inner, rest) ← openClass flags rest
        readClass flags fuel inner (level :: outer) rest
    | ']' :: rest =>
      let (set, depth) ← level.close flags
      match outer with
      | [] => return ((set, depth), rest)
      | parent :: outer => readClass flags fuel (parent.add set depth) outer rest
    | '&' :: '&' :: rest => readClass flags fuel (level.operator flags .intersection) outer rest
    | '-' :: '-' :: rest => readClass flags fuel (level.operator flags .difference) outer rest
    | '~' :: '~' :: rest =>
      readClass flags fuel (level.operator flags .symmetricDifference) outer rest
    | chars =>
      let (set, rest) ← readClassMember flags chars
      readClass flags fuel (level.add set 0) outer rest

/-! Items and groups -/

/-- A part of a pattern, how deep its own parts nest, and about how large its automaton is. -/
structure Item where
  expr : Expr
  depth : Nat := 0
  weight : Nat := 32
  /-- A flag setting stands for nothing that could be repeated. -/
  repeatable : Bool := true

def concat : List Item → Item
  | [] => { expr := .empty }
  | [item] => item
  | item :: rest =>
    { expr := rest.foldl (fun expr next => Expr.seq expr next.expr) item.expr
      depth := rest.foldl (fun depth next => max depth next.depth) item.depth + 1
      weight := rest.foldl (fun weight next => weight + next.weight) item.weight }

def alternation : List Item → Item
  | [] => { expr := .empty }
  | [item] => item
  | item :: rest =>
    { expr := rest.foldl (fun expr next => Expr.alt expr next.expr) item.expr
      depth := rest.foldl (fun depth next => max depth next.depth) item.depth + 1
      weight := rest.foldl (fun weight next => weight + next.weight + 4) (item.weight + 68) }

/-- What has been read of a group, its latest branch and item first. -/
structure Level where
  branches : List Item := []
  items : List Item := []

def Level.branch (level : Level) : Item := concat level.items.reverse

def Level.value (level : Level) : Item :=
  alternation (level.branches.reverse ++ [level.branch])

structure OpenGroup where
  outer : Level
  /-- The flags that hold again after the group. -/
  flags : Flags
  captures : Bool

structure State where
  level : Level := {}
  groups : List OpenGroup := []
  flags : Flags := {}
  names : List String := []

def State.push (state : State) (item : Item) : State :=
  { state with level := { state.level with items := item :: state.level.items } }

/-- About how large the automaton of a set is; a character that is not ASCII takes several bytes. -/
def setWeight (set : Runs) : Nat :=
  set.foldl (fun weight run => weight + (if run.2 < 0x80 then 8 else 62)) 32

def setItem (set : Runs) : Item := { expr := .oneOf set, weight := setWeight set }

def literalItem (flags : Flags) (literal : Literal) : Except PatternError Item := do
  if !flags.unicode && literal.byte && !Unicode.isAscii literal.char then throw .notText
  return setItem (flags.fold (Runs.single literal.char))

def dotItem (flags : Flags) : Except PatternError Item := do
  if !flags.unicode then throw .notText
  let excluded : List (Nat × Nat) :=
    if flags.dotAll then [] else if flags.wideLines then [(10, 10), (13, 13)] else [(10, 10)]
  return setItem ((Runs.ofRanges excluded).complement 0x10FFFF)

def lineStart (flags : Flags) : Look :=
  if flags.multiLine then (if flags.wideLines then .lineStartWide else .lineStart) else .textStart

def lineEnd (flags : Flags) : Look :=
  if flags.multiLine then (if flags.wideLines then .lineEndWide else .lineEnd) else .textEnd

def lookItem (look : Look) : Item := { expr := .look look }

def escapeItem (flags : Flags) : Escape → Except PatternError Item
  | .literal literal => literalItem flags literal
  | .look look => .ok (lookItem look)
  | .set set => .ok (setItem set)

def copiesWeight (weight low : Nat) : Option Nat → Nat
  | none => max low 1 * weight + 40
  | some high => high * weight + (high - low) * 40 + 32

def repeatLast (state : State) (low : Nat) (high : Option Nat) : Except PatternError State :=
  match state.level.items with
  | [] => .error .nothingToRepeat
  | item :: items =>
    if !item.repeatable then .error .nothingToRepeat
    else
      let repeated : Item :=
        { expr := .copies item.expr low high
          depth := item.depth + 1
          weight := copiesWeight item.weight low high }
      .ok { state with level := { state.level with items := repeated :: items } }

def dropLazyMark (chars : Input) : Input :=
  match chars with
  | '?' :: rest => rest
  | _ => chars

def decimalDigits (flags : Flags) : Nat → Input → Input → Input × Input
  | 0, digits, chars => (digits.reverse, chars)
  | _ + 1, digits, [] => (digits.reverse, [])
  | fuel + 1, digits, c :: rest =>
    if Unicode.isAsciiDigit c then decimalDigits flags fuel (c :: digits) (flags.skip rest)
    else (digits.reverse, c :: rest)

/-- A count, blanks around it allowed; nothing stands for no count. -/
def readCount (flags : Flags) (chars : Input) : Except PatternError (Option Nat × Input) := do
  let chars := chars.dropWhile Unicode.isBlank
  let (digits, rest) := decimalDigits flags chars.length [] chars
  let rest := flags.skip (rest.dropWhile Unicode.isBlank)
  match (String.ofList digits).toNat? with
  | none => return (none, rest)
  | some count => if count < 1 <<< 32 then return (some count, rest) else throw .badCount

/-- What follows the brace of a counted repetition: least and greatest number of copies. -/
def readCounts (flags : Flags) (chars : Input) :
    Except PatternError ((Nat × Option Nat) × Input) := do
  let (low?, rest) ← readCount flags (flags.skip chars)
  let ((low, high), rest) ← match low?, rest with
    | some low, ',' :: rest =>
      match flags.skip rest with
      | '\x7d' :: rest => pure ((low, none), '\x7d' :: rest)
      | rest =>
        match ← readCount flags rest with
        | (some high, rest) => pure ((low, some high), rest)
        | (none, _) => throw .badCount
    | some low, rest => pure ((low, some low), rest)
    | none, _ => throw .badCount
  match rest with
  | '\x7d' :: rest =>
    if high.any (· < low) then throw .badCount
    return ((low, high), dropLazyMark (flags.skip rest))
  | _ => throw .badCount

def isNameChar (first : Bool) (c : Char) : Bool :=
  c == '_' || (if first then Unicode.isAlphabetic c
    else c == '.' || c == '[' || c == ']' || Unicode.isAlphanumeric c)

def readGroupName (chars : Input) : Except PatternError (String × Input) := do
  let name := chars.takeWhile (· ≠ '>')
  match chars.dropWhile (· ≠ '>') with
  | [] => throw .badGroupName
  | _ :: rest =>
    match name with
    | [] => throw .badGroupName
    | first :: others =>
      if isNameChar true first && others.all (isNameChar false) then
        return (String.ofList name, rest)
      else throw .badGroupName

def State.openGroup (state : State) (flags : Flags) (captures : Bool) : State :=
  { state with
    level := {}
    groups := ⟨state.level, state.flags, captures⟩ :: state.groups
    flags := flags }

/-- Flag letters up to `:` or `)`: no letter twice, one `-` at most and something behind it. -/
def readFlags (flags : Flags) (chars : Input) : Except PatternError ((Flags × Bool) × Input) := do
  let letters := chars.takeWhile fun c => c != ':' && c != ')'
  let changed ← flags.apply true letters
  if !letters.Nodup || letters.getLast? == some '-' then throw .badFlags
  return ((changed, letters.isEmpty), chars.drop letters.length)

/-- What follows an opening parenthesis. -/
def readGroupStart (state : State) (chars : Input) : Except PatternError (State × Input) := do
  let named := fun rest => do
    let (name, rest) ← readGroupName rest
    if state.names.contains name then throw PatternError.repeatedGroupName
    return ({ state.openGroup state.flags true with names := name :: state.names }, rest)
  match state.flags.skip chars with
  | '?' :: '=' :: _ | '?' :: '!' :: _ | '?' :: '<' :: '=' :: _ | '?' :: '<' :: '!' :: _ =>
    throw .lookAround
  | '?' :: 'P' :: '<' :: rest | '?' :: '<' :: rest => named rest
  | '?' :: rest =>
    let ((flags, noFlags), rest) ← readFlags state.flags rest
    match rest with
    | ')' :: rest =>
      if noFlags then throw .nothingToRepeat
      let state := { state with flags := flags }
      return (state.push { expr := .empty, repeatable := false }, rest)
    | ':' :: rest => return (state.openGroup flags false, rest)
    | _ => throw .unclosedGroup
  | chars => return (state.openGroup state.flags true, chars)

def State.closeGroup (state : State) : Except PatternError State :=
  match state.groups with
  | [] => .error .unopenedGroup
  | ⟨outer, flags, captures⟩ :: groups =>
    let value := state.level.value
    let group : Item :=
      { expr := value.expr
        depth := value.depth + 1
        weight := if captures then value.weight + 64 else value.weight }
    .ok ({ state with level := outer, groups := groups, flags := flags }.push group)

def State.nextBranch (state : State) : State :=
  { state with level := { branches := state.level.branch :: state.level.branches } }

/-- Reads one item, operator or parenthesis; the input is not empty and starts with no blank. -/
def step (state : State) (c : Char) (rest : Input) : Except PatternError (State × Input) := do
  let flags := state.flags
  match c with
  | '(' => readGroupStart state rest
  | ')' => return (← state.closeGroup, rest)
  | '|' => return (state.nextBranch, rest)
  | '[' =>
    let (level, rest) ← openClass flags rest
    let ((set, depth), rest) ← readClass flags (rest.length + 1) level [] rest
    return (state.push { setItem set with depth := depth }, rest)
  | '?' => return (← repeatLast state 0 (some 1), dropLazyMark rest)
  | '*' => return (← repeatLast state 0 none, dropLazyMark rest)
  | '+' => return (← repeatLast state 1 none, dropLazyMark rest)
  | '\x7b' =>
    let ((low, high), rest) ← readCounts flags rest
    return (← repeatLast state low high, rest)
  | '\\' =>
    let (escape, rest) ← readEscape flags rest
    return (state.push (← escapeItem flags escape), rest)
  | '.' => return (state.push (← dotItem flags), rest)
  | '^' => return (state.push (lookItem (lineStart flags)), rest)
  | '$' => return (state.push (lookItem (lineEnd flags)), rest)
  | _ => return (state.push (← literalItem flags ⟨c, false⟩), rest)

/-- Every step reads a character at least, so the length of the input is fuel enough. -/
def run : Nat → State → Input → Except PatternError State
  | 0, state, _ => .ok state
  | fuel + 1, state, chars =>
    match state.flags.skip chars with
    | [] => .ok state
    | c :: rest => do
      let (state, rest) ← step state c rest
      run fuel state rest

def depthLimit : Nat := 250

def weightLimit : Nat := 10 * (1 <<< 20)

/-- The expression that a pattern stands for. -/
def parse (pattern : String) : Except PatternError Expr := do
  let chars := pattern.toList
  let state ← run (chars.length + 1) {} chars
  if !state.groups.isEmpty then throw .unclosedGroup
  let value := state.level.value
  if depthLimit < value.depth then throw .tooDeep
  if weightLimit < value.weight then throw .tooBig
  return value.expr

end AspectLoom.Regex
