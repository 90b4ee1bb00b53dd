import AspectLoom.Text.Span
/-!
Canonical Go types. A type is its text, with every named type qualified by the full import path of
its package, so two mentions of one type have the same text in every file.
-/
namespace AspectLoom

structure GoType where
  text : String
deriving DecidableEq, Repr, Inhabited

namespace GoType

instance : ToString GoType := ⟨GoType.text⟩

/-- The types that every package can name without a qualifier. -/
def predeclared : List String :=
  ["any", "bool", "byte", "comparable", "complex64", "complex128", "error", "float32", "float64",
   "int", "int8", "int16", "int32", "int64", "rune", "string", "uint", "uint8", "uint16", "uint32",
   "uint64", "uintptr"]

def named (packagePath name : String) : GoType := ⟨packagePath ++ "." ++ name⟩

def pointee? (type : GoType) : Option GoType := (Text.stripStart? "*" type.text).map GoType.mk

def isPointer (type : GoType) : Bool := type.pointee?.isSome

def pointerTo (type : GoType) : GoType := ⟨"*" ++ type.text⟩

def sliceElem? (type : GoType) : Option GoType := (Text.stripStart? "[]" type.text).map GoType.mk

def sliceOf (type : GoType) : GoType := ⟨"[]" ++ type.text⟩

/-- Characters that occur only in types that are not a plain name. -/
def compositeMarks : List Char := ['[', ']', '\x7b', '\x7d', '(', ')', '*', ' ']

/-- Package path and name of a named type or of a pointer to one. -/
def namedParts? (type : GoType) : Option (String × String) :=
  let base := (type.pointee?.getD type).text
  if base.toList.any compositeMarks.contains then none
  else
    match Text.splitLast? '.' base with
    | some (path, name) => if path = "" ∨ name = "" then none else some (path, name)
    | none => none

end GoType
end AspectLoom
