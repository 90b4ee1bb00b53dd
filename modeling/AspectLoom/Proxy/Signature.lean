import AspectLoom.Program.Declaration
import AspectLoom.Proxy.ImportScope
import AspectLoom.Proxy.Statement
/-!
Signatures of generated functions: the types of a declaration as a unit writes them, and the names
of the parameters and results, which depend on their places only.
-/
namespace AspectLoom

structure SpelledSignature where
  receiver : Option String
  params : List String
  /-- Whether the last parameter takes any number of values; its type is that of one of them. -/
  variadic : Bool
  results : List String
deriving DecidableEq, Repr, Inhabited

namespace SpelledSignature

/-- The signature of a declaration. Receiver, parameters and results are spelled in this order. -/
def ofDeclaration (scope : ImportScope) (decl : Declaration) (receiver : Option GoType) :
    SpelledSignature × ImportScope :=
  let (receiver, scope) := scope.spellAll receiver.toList
  let (params, scope) := scope.spellAll (decl.params.map Param.type)
  let (results, scope) := scope.spellAll (decl.results.map Param.type)
  (⟨receiver.head?, params, decl.variadic && !decl.params.isEmpty, results⟩, scope)

/-- The first names that a stem gives. -/
def numbered (stem : String) (count : Nat) : List String :=
  (List.range count).map fun position => stem ++ toString position

def receiverName : String := "_ag_recv"

def paramNames (signature : SpelledSignature) : List String :=
  numbered "_ag_p" signature.params.length

def argumentNames (signature : SpelledSignature) : List String :=
  numbered "_ag_arg" signature.params.length

def resultNames (signature : SpelledSignature) : List String :=
  numbered "_ag_res" signature.results.length

def markLast (mark : String) : List String → List String
  | [] => []
  | [last] => [mark ++ last]
  | first :: rest => first :: markLast mark rest

/-- The parameter types as they stand in a parameter list. -/
def paramTypes (signature : SpelledSignature) : List String :=
  if signature.variadic then markLast "..." signature.params else signature.params

/-- The types that the parameters have inside the function. -/
def slotTypes (signature : SpelledSignature) : List String :=
  if signature.variadic then markLast "[]" signature.params else signature.params

def declared (names types : List String) : List String :=
  names.zipWith (fun name type => name ++ " " ++ type) types

/-- The parameters without the receiver. -/
def paramTexts (signature : SpelledSignature) : List String :=
  declared signature.paramNames signature.paramTypes

def receiverTexts (signature : SpelledSignature) : List String :=
  declared [receiverName] signature.receiver.toList

/-- The results with the blank before them. -/
def resultText (signature : SpelledSignature) : String :=
  match signature.results with
  | [] => ""
  | [result] => " " ++ result
  | results => " (" ++ commaSeparated results ++ ")"

end SpelledSignature
end AspectLoom
