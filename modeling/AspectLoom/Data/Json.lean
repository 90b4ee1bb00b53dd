import AspectLoom.Data.Value
/-!
JSON texts as data. Everything that the grammar does not allow is refused: trailing commas,
control characters in texts, halves of surrogate pairs, and anything behind the value.
-/
namespace AspectLoom.JsonText

def isBlank (c : Char) : Bool := c == ' ' || c == '\t' || c == '\n' || c == '\r'

def skip (chars : List Char) : List Char := chars.dropWhile isBlank

def hexValue? (c : Char) : Option Nat :=
  if '0' ≤ c ∧ c ≤ '9' then some (c.toNat - 48)
  else if 'a' ≤ c ∧ c ≤ 'f' then some (c.toNat - 87)
  else if 'A' ≤ c ∧ c ≤ 'F' then some (c.toNat - 55)
  else none

/-- A 16-bit unit written as four digits. -/
def unit? : List Char → Option (Nat × List Char)
  | a :: b :: c :: d :: rest => do
    return (4096 * (← hexValue? a) + 256 * (← hexValue? b) + 16 * (← hexValue? c)
      + (← hexValue? d), rest)
  | _ => none

/-- The character of an escape with four digits; a high surrogate takes a low one with it. -/
def escapedUnit? (chars : List Char) : Option (Char × List Char) := do
  let (high, rest) ← unit? chars
  if high.isValidChar then return (Char.ofNat high, rest)
  if 0xDC00 ≤ high then none
  match rest with
  | '\\' :: 'u' :: rest =>
    let (low, rest) ← unit? rest
    if low < 0xDC00 || 0xDFFF < low then none
    return (Char.ofNat (0x10000 + 0x400 * (high - 0xD800) + (low - 0xDC00)), rest)
  | _ => none

def escape? : List Char → Option (Char × List Char)
  | '"' :: rest => some ('"', rest)
  | '\\' :: rest => some ('\\', rest)
  | '/' :: rest => some ('/', rest)
  | 'b' :: rest => some ('\x08', rest)
  | 'f' :: rest => some ('\x0c', rest)
  | 'n' :: rest => some ('\n', rest)
  | 'r' :: rest => some ('\r', rest)
  | 't' :: rest => some ('\t', rest)
  | 'u' :: rest => escapedUnit? rest
  | _ => none

/-- The text up to its closing quote. -/
def readText : Nat → List Char → List Char → Option (String × List Char)
  | 0, _, _ => none
  | _ + 1, _, [] => none
  | fuel + 1, value, c :: rest =>
    if c = '"' then some (String.ofList value.reverse, rest)
    else if c = '\\' then
      (escape? rest).bind fun (char, rest) => readText fuel (char :: value) rest
    else if c < ' ' then none
    else readText fuel (c :: value) rest

def isNumberChar (c : Char) : Bool :=
  ('0' ≤ c && c ≤ '9') || c == '-' || c == '+' || c == '.' || c == 'e' || c == 'E'

inductive Goal where
  | value
  | items (items : List Data)
  | entries (entries : List (String × Data))

/-- Reads a value, or the rest of a list or table behind its opening bracket or a comma. -/
def read : Nat → Goal → List Char → Option (Data × List Char)
  | 0, _, _ => none
  | fuel + 1, goal, chars =>
    match goal with
    | .value =>
      match skip chars with
      | '"' :: rest => do
        let (text, rest) ← readText (rest.length + 1) [] rest
        return (.text text, rest)
      | '[' :: rest =>
        match skip rest with
        | ']' :: rest => some (.list [], rest)
        | rest => read fuel (.items []) rest
      | '\x7b' :: rest =>
        match skip rest with
        | '\x7d' :: rest => some (.table [], rest)
        | rest => read fuel (.entries []) rest
      | 'n' :: 'u' :: 'l' :: 'l' :: rest => some (.null, rest)
      | 't' :: 'r' :: 'u' :: 'e' :: rest => some (.other, rest)
      | 'f' :: 'a' :: 'l' :: 's' :: 'e' :: rest => some (.other, rest)
      | rest =>
        if rest.head?.any isNumberChar then some (.other, rest.dropWhile isNumberChar) else none
    | .items items => do
      let (item, rest) ← read fuel .value chars
      match skip rest with
      | ',' :: rest => read fuel (.items (item :: items)) rest
      | ']' :: rest => return (.list (item :: items).reverse, rest)
      | _ => none
    | .entries entries =>
      match skip chars with
      | '"' :: rest => do
        let (key, rest) ← readText (rest.length + 1) [] rest
        match skip rest with
        | ':' :: rest =>
          let (value, rest) ← read fuel .value rest
          match skip rest with
          | ',' :: rest => read fuel (.entries ((key, value) :: entries)) rest
          | '\x7d' :: rest => return (.table ((key, value) :: entries).reverse, rest)
          | _ => none
        | _ => none
      | _ => none

/-- The data of a text that holds one value and blanks. -/
def parse (text : String) : Option Data := do
  let chars := text.toList
  let (data, rest) ← read (chars.length + 1) .value chars
  if (skip rest).isEmpty then return data else none

end AspectLoom.JsonText
