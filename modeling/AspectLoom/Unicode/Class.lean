import AspectLoom.Unicode.Runs
import AspectLoom.Unicode.Category
import AspectLoom.Unicode.Property
/-!
Character classes. In each the ASCII part is spelled out and the rest comes from the tables of
categories and properties.
-/
namespace AspectLoom.Unicode

def lookup (table : List (List String × List String)) (name : String) : Option Runs :=
  (table.find? fun row => row.1.contains name).map fun row => Runs.ofGaps row.2

def categoryRuns (names : List String) : Runs :=
  Runs.ofRanges (names.flatMap fun name => ((lookup categories name).getD #[]).toList)

def propertyRuns (name : String) : Runs := (lookup properties name).getD #[]

def alphabeticRuns : Runs := propertyRuns "alphabetic"
def numericRuns : Runs := categoryRuns ["nd", "nl", "no"]
def decimalRuns : Runs := categoryRuns ["nd"]
def blankRuns : Runs := propertyRuns "whitespace"
def identifierStartRuns : Runs := propertyRuns "xidstart"
def identifierRuns : Runs := propertyRuns "xidcontinue"
def combiningRuns : Runs := propertyRuns "graphemeextend"
def hiddenRuns : Runs := categoryRuns ["cc", "cf", "cn", "co", "zs", "zl", "zp"]

def wordRuns : Runs :=
  Runs.ofRanges (alphabeticRuns.toList
    ++ (categoryRuns ["mc", "me", "mn", "nd", "pc"]).toList
    ++ (propertyRuns "joincontrol").toList)

def isAsciiLetter (c : Char) : Bool := ('a' ≤ c && c ≤ 'z') || ('A' ≤ c && c ≤ 'Z')

def isAsciiDigit (c : Char) : Bool := '0' ≤ c && c ≤ '9'

def isAscii (c : Char) : Bool := c.toNat < 128

/-- A letter or another character that takes the place of one. -/
def isAlphabetic (c : Char) : Bool :=
  if isAscii c then isAsciiLetter c else alphabeticRuns.contains c.toNat

/-- A decimal digit, a numeral letter or another number. -/
def isNumeric (c : Char) : Bool :=
  if isAscii c then isAsciiDigit c else numericRuns.contains c.toNat

def isAlphanumeric (c : Char) : Bool := isAlphabetic c || isNumeric c

def isBlank (c : Char) : Bool :=
  if isAscii c then c == ' ' || ('\t' ≤ c && c ≤ '\r') else blankRuns.contains c.toNat

/-- A letter, mark, decimal digit, connecting punctuation or joiner. -/
def isWord (c : Char) : Bool :=
  if isAscii c then isAsciiLetter c || isAsciiDigit c || c == '_' else wordRuns.contains c.toNat

/-- Can begin an identifier. -/
def isIdentifierStart (c : Char) : Bool :=
  if isAscii c then isAsciiLetter c || c == '_' else identifierStartRuns.contains c.toNat

/-- Can go on in an identifier. -/
def isIdentifierPart (c : Char) : Bool :=
  if isAscii c then isAsciiLetter c || isAsciiDigit c || c == '_'
  else identifierRuns.contains c.toNat

/-- Shown together with the character before it. -/
def isCombining (c : Char) : Bool := !isAscii c && combiningRuns.contains c.toNat

/-- Has a shape of its own; of the blanks only the space has. -/
def isPrintable (c : Char) : Bool :=
  if isAscii c then ' ' ≤ c && c ≤ '~' else !hiddenRuns.contains c.toNat

end AspectLoom.Unicode
