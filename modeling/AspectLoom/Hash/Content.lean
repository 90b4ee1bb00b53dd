import AspectLoom.Hash.Blake3
import AspectLoom.Hash.Hex
import AspectLoom.Text.Quoted
import AspectLoom.Program.Symbols
/-!
Content hashes: 32 bytes that identify data, written as hexadecimal digits. A reference site is
hashed from the path of its unit, its span and the full name it refers to.
-/
namespace AspectLoom

structure ContentHash where
  bytes : List UInt8
  length_eq : bytes.length = 32

inductive HashError where
  | invalidLength (actual : Nat)
  | badHex (cause : Hex.DecodeError)
deriving DecidableEq, Repr

namespace HashError

def hexMessage : Hex.DecodeError → String
  | .oddLength => "Odd number of digits"
  | .invalidDigit byte position =>
    "Invalid character " ++ Text.quotedChar (Char.ofNat byte.toNat) ++ " at position "
      ++ toString position

def message : HashError → String
  | invalidLength actual => "invalid hash length: expected 32, got " ++ toString actual
  | badHex cause => "hex decode error: " ++ hexMessage cause

end HashError

namespace ContentHash

def ofBytes (bytes : List UInt8) : Except HashError ContentHash :=
  if length_eq : bytes.length = 32 then .ok ⟨bytes, length_eq⟩
  else .error (.invalidLength bytes.length)

theorem length_digest (pending : Blake3.Pending) : pending.digest.length = 32 := by
  simp [Blake3.Pending.digest, Blake3.wordBytes, List.length_flatMap, List.map_const']

def compute (bytes : List UInt8) : ContentHash := ⟨Blake3.hash bytes, length_digest _⟩

def text (hash : ContentHash) : String := Hex.encode hash.bytes

/-- The first sixteen digits. -/
def short (hash : ContentHash) : String := Hex.encode (hash.bytes.take 8)

def parse (text : String) : Except HashError ContentHash :=
  match Hex.decode text with
  | .error cause => .error (.badHex cause)
  | .ok bytes => ofBytes bytes

/-- Eight bytes, the least significant first. -/
def offsetBytes (offset : Nat) : List UInt8 :=
  (List.range 8).map fun index => UInt8.ofNat (offset >>> (8 * index))

/-- The bytes that stand for a reference site. -/
def siteBytes (path : Path) (span : Span) (fullName : String) : List UInt8 :=
  path.text.toUTF8.toList ++ 0 :: offsetBytes span.start ++ offsetBytes span.stop ++
    0 :: fullName.toUTF8.toList

def ofSite (path : Path) (span : Span) (fullName : String) : ContentHash :=
  compute (siteBytes path span fullName)

end ContentHash
end AspectLoom
