import AspectLoom.Unicode.Class
/-!
Regular expressions over characters and where they match. A match is followed as a set of places
in the text at once, so no text makes matching take more than a number of steps that the
expression and the text bound.
-/
namespace AspectLoom.Regex

open Unicode (Runs)

/-- An assertion about the place between two characters. -/
inductive Look where
  | textStart
  | textEnd
  | lineStart
  | lineEnd
  /-- As `lineStart`, where a line ends in a carriage return, a line feed or both. -/
  | lineStartWide
  | lineEndWide
  | wordBoundary (ascii : Bool)
  | notWordBoundary (ascii : Bool)
  | wordStart (ascii : Bool)
  | wordEnd (ascii : Bool)
  | wordStartHalf (ascii : Bool)
  | wordEndHalf (ascii : Bool)
deriving DecidableEq, Repr

inductive Expr where
  | empty
  /-- One character of a set. -/
  | oneOf (set : Runs)
  | look (assertion : Look)
  | seq (first second : Expr)
  | alt (first second : Expr)
  /-- At least `low` copies, at most `high` of them if there is a `high`. -/
  | copies (body : Expr) (low : Nat) (high : Option Nat)
deriving Repr, Inhabited

def isAsciiWord (c : Char) : Bool := Unicode.isAscii c && Unicode.isWord c

def wordAt (ascii : Bool) : Option Char → Bool
  | some c => if ascii then isAsciiWord c else Unicode.isWord c
  | none => false

/-- Whether an assertion holds between the characters before and after a place. -/
def Look.holds (before after : Option Char) : Look → Bool
  | .textStart => before.isNone
  | .textEnd => after.isNone
  | .lineStart => before.isNone || before == some '\n'
  | .lineEnd => after.isNone || after == some '\n'
  | .lineStartWide =>
    before.isNone || before == some '\n' || (before == some '\r' && after != some '\n')
  | .lineEndWide =>
    after.isNone || after == some '\r' || (after == some '\n' && before != some '\r')
  | .wordBoundary ascii => wordAt ascii before != wordAt ascii after
  | .notWordBoundary ascii => wordAt ascii before == wordAt ascii after
  | .wordStart ascii => !wordAt ascii before && wordAt ascii after
  | .wordEnd ascii => wordAt ascii before && !wordAt ascii after
  | .wordStartHalf ascii => !wordAt ascii before
  | .wordEndHalf ascii => !wordAt ascii after

/-- A set of places in a text: bit `i` stands for the place before character `i`. -/
abbrev Places := Nat

/-- The places with a property, out of the places `0` to `count - 1`. -/
def placesWhere (property : Nat → Bool) : Nat → Places
  | 0 => 0
  | count + 1 =>
    placesWhere property count ||| (if property count then 1 <<< count else 0)

def charBefore? (text : Array Char) (place : Nat) : Option Char :=
  if place = 0 then none else text[place - 1]?

def setPlaces (text : Array Char) (set : Runs) : Places :=
  placesWhere (fun place => (text[place]?).any fun c => set.contains c.toNat) text.size

def lookPlaces (text : Array Char) (assertion : Look) : Places :=
  placesWhere (fun place => assertion.holds (charBefore? text place) text[place]?) (text.size + 1)

/-- Applies a step up to a number of times, keeping every place reached on the way. -/
def upTo (step : Places → Places) : Nat → Places → Places
  | 0, reached => reached
  | rounds + 1, reached =>
    let next := reached ||| step reached
    if next = reached then reached else upTo step rounds next

def exactly (step : Places → Places) : Nat → Places → Places
  | 0, reached => reached
  | rounds + 1, reached => if reached = 0 then 0 else exactly step rounds (step reached)

/-- The places where a match that starts at one of some places can end. -/
def Expr.ends (text : Array Char) : Expr → Places → Places
  | .empty, starts => starts
  | .oneOf set, starts => (starts &&& setPlaces text set) <<< 1
  | .look assertion, starts => starts &&& lookPlaces text assertion
  | .seq first second, starts => second.ends text (first.ends text starts)
  | .alt first second, starts => first.ends text starts ||| second.ends text starts
  | .copies body low high, starts =>
    -- More copies than there are places reach nothing new.
    let further := (high.map (· - low)).getD (text.size + 1)
    upTo (body.ends text) further (exactly (body.ends text) low starts)

/-- Whether some part of the text matches. -/
def Expr.isMatch (expr : Expr) (text : String) : Bool :=
  let chars := text.toList.toArray
  expr.ends chars (placesWhere (fun _ => true) (chars.size + 1)) != 0

/-- Whether the text as a whole matches. -/
def Expr.matchesAll (expr : Expr) (text : String) : Bool :=
  let chars := text.toList.toArray
  (expr.ends chars 1).testBit chars.size

end AspectLoom.Regex
