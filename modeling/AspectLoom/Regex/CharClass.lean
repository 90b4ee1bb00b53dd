import AspectLoom.Unicode.Folding
import AspectLoom.Unicode.Class
import AspectLoom.Unicode.Script
/-!
The named character classes of a pattern: digits, blanks and word characters, the bracketed names,
and the categories, scripts and properties of Unicode.
-/
namespace AspectLoom.Regex

open Unicode (Runs)

def lastCode (unicode : Bool) : Nat := if unicode then 0x10FFFF else 0xFF

inductive ShortClass where
  | digit
  | blank
  | word
deriving DecidableEq, Repr

def asciiLetters : List (Nat × Nat) := [(0x41, 0x5A), (0x61, 0x7A)]

def asciiDigits : List (Nat × Nat) := [(0x30, 0x39)]

def asciiBlanks : List (Nat × Nat) := [(0x09, 0x0D), (0x20, 0x20)]

def ShortClass.members (unicode : Bool) : ShortClass → Runs
  | digit => if unicode then Unicode.decimalRuns else Runs.ofRanges asciiDigits
  | blank => if unicode then Unicode.blankRuns else Runs.ofRanges asciiBlanks
  | word =>
    if unicode then Unicode.wordRuns
    else Runs.ofRanges (asciiLetters ++ asciiDigits ++ [(0x5F, 0x5F)])

/-- The class that a name between `[:` and `:]` stands for. -/
def bracketName? (name : String) : Option Runs :=
  (ranges name).map Runs.ofRanges
where
  ranges : String → Option (List (Nat × Nat))
    | "alnum" => some (asciiLetters ++ asciiDigits)
    | "alpha" => some asciiLetters
    | "ascii" => some [(0x00, 0x7F)]
    | "blank" => some [(0x09, 0x09), (0x20, 0x20)]
    | "cntrl" => some [(0x00, 0x1F), (0x7F, 0x7F)]
    | "digit" => some asciiDigits
    | "graph" => some [(0x21, 0x7E)]
    | "lower" => some [(0x61, 0x7A)]
    | "print" => some [(0x20, 0x7E)]
    | "punct" => some [(0x21, 0x2F), (0x3A, 0x40), (0x5B, 0x60), (0x7B, 0x7E)]
    | "space" => some asciiBlanks
    | "upper" => some [(0x41, 0x5A)]
    | "word" => some (asciiLetters ++ asciiDigits ++ [(0x5F, 0x5F)])
    | "xdigit" => some (asciiDigits ++ [(0x41, 0x46), (0x61, 0x66)])
    | _ => none

/-- Adds the other case of every ASCII letter. -/
def closeUnderAsciiCase (runs : Runs) : Runs :=
  let lower := (runs.intersect (Runs.ofRanges [(0x61, 0x7A)])).map fun run =>
    (run.1 - 32, run.2 - 32)
  let upper := (runs.intersect (Runs.ofRanges [(0x41, 0x5A)])).map fun run =>
    (run.1 + 32, run.2 + 32)
  Runs.ofRanges (runs.toList ++ lower.toList ++ upper.toList)

def closeUnderCase (unicode : Bool) (runs : Runs) : Runs :=
  if unicode then Unicode.closeUnderCase runs else closeUnderAsciiCase runs

/-- Names compare without case, blanks, `_`, `-`, and without `is` in front. -/
def normalizedName (name : String) : String :=
  let lower := name.toList.map Char.toLower
  let bare := (['i', 's'].isPrefixOf? lower).getD lower
  let kept := bare.filter fun c => Unicode.isAscii c && c != ' ' && c != '_' && c != '-'
  if kept = ['c'] ∧ bare.length < lower.length then "isc" else String.ofList kept

def category? (name : String) : Option Runs :=
  match name with
  | "any" => some (Runs.ofRanges [(0, 0x10FFFF)])
  | "ascii" => some (Runs.ofRanges [(0, 0x7F)])
  | "assigned" => some ((Unicode.categoryRuns ["cn"]).complement 0x10FFFF)
  | _ =>
    match Unicode.categoryGroups.find? fun row => row.1.contains name with
    | some (_, members) => some (Unicode.categoryRuns members)
    | none => Unicode.lookup Unicode.categories name

def script? (name : String) : Option Runs := Unicode.lookup Unicode.scripts name

def scriptExtension? (name : String) : Option Runs :=
  (Unicode.lookup Unicode.scriptExtensions name) <|> script? name

/-- The set that a single name stands for: a property, a category or a script. -/
def namedSet? (name : String) : Option Runs :=
  let name := normalizedName name
  Unicode.lookup Unicode.properties name <|> category? name <|> script? name

/-- The set of a property's value. -/
def valuedSet? (property value : String) : Option Runs :=
  let value := normalizedName value
  match normalizedName property with
  | "gc" | "generalcategory" | "category" => category? value
  | "sc" | "script" => script? value
  | "scx" | "scriptextensions" => scriptExtension? value
  | _ => none

end AspectLoom.Regex
