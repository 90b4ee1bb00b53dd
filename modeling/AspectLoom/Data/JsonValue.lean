/-!
Values that are written as JSON, on several lines and indented by two blanks a level.
-/
namespace AspectLoom

inductive JsonValue where
  | number (value : Nat)
  | text (value : String)
  | list (items : List JsonValue)
  | table (entries : List (String × JsonValue))
deriving Inhabited

namespace JsonValue

def hexDigit (value : Nat) : Char :=
  if value < 10 then Char.ofNat (48 + value) else Char.ofNat (87 + value)

/-- A control character that has no short escape. -/
def controlEscape (c : Char) : List Char :=
  ['\\', 'u', '0', '0', hexDigit (c.toNat / 16), hexDigit (c.toNat % 16)]

def escape (c : Char) : List Char :=
  if c = '"' ∨ c = '\\' then ['\\', c]
  else if c = '\n' then ['\\', 'n']
  else if c = '\r' then ['\\', 'r']
  else if c = '\t' then ['\\', 't']
  else if c = '\x08' then ['\\', 'b']
  else if c = '\x0c' then ['\\', 'f']
  else if c.toNat < 32 then controlEscape c
  else [c]

def quoted (text : String) : String :=
  "\"" ++ String.ofList (text.toList.flatMap escape) ++ "\""

/-- Items on lines of their own between two marks. -/
def enclosed (indent : String) (opening closing : String) (items : List String) : String :=
  if items.isEmpty then opening ++ closing
  else
    let inner := "\n" ++ indent ++ "  "
    opening ++ inner ++ ("," ++ inner).intercalate items ++ "\n" ++ indent ++ closing

mutual

def render (indent : String) : JsonValue → String
  | number value => toString value
  | text value => quoted value
  | list items => enclosed indent "[" "]" (renderItems (indent ++ "  ") items)
  | table entries => enclosed indent "\x7b" "\x7d" (renderEntries (indent ++ "  ") entries)

def renderItems (indent : String) : List JsonValue → List String
  | [] => []
  | item :: rest => render indent item :: renderItems indent rest

def renderEntries (indent : String) : List (String × JsonValue) → List String
  | [] => []
  | (key, value) :: rest =>
    (quoted key ++ ": " ++ render indent value) :: renderEntries indent rest

end

def pretty (value : JsonValue) : String := value.render ""

end JsonValue
end AspectLoom
