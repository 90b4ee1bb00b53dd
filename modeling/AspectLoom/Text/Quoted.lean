import AspectLoom.Unicode.Class
/-!
Quoted text for messages. Control characters, combining characters and characters without a shape
are written as escapes, and the quote itself and the backslash behind a backslash.
-/
namespace AspectLoom.Text.Quoted

def hexDigits (code : Nat) : List Char := Nat.toDigits 16 code

def codeEscape (c : Char) : List Char := "\\u\x7b".toList ++ hexDigits c.toNat ++ ['\x7d']

/-- How one character is written between quotes of a given kind. -/
def encodeChar (quote c : Char) : List Char :=
  if c = quote ∨ c = '\\' then ['\\', c]
  else if c = '\x00' then ['\\', '0']
  else if c = '\t' then ['\\', 't']
  else if c = '\r' then ['\\', 'r']
  else if c = '\n' then ['\\', 'n']
  else if Unicode.isCombining c || !Unicode.isPrintable c then codeEscape c
  else [c]

def encode (quote : Char) (chars : List Char) : List Char :=
  quote :: chars.flatMap (encodeChar quote) ++ [quote]

end Quoted

/-- The text between double quotes. -/
def quoted (text : String) : String := String.ofList (Quoted.encode '"' text.toList)

/-- The character between single quotes. -/
def quotedChar (c : Char) : String := String.ofList (Quoted.encode '\'' [c])

end AspectLoom.Text
