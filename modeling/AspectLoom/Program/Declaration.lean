import AspectLoom.Program.GoType
/-!
Functions and methods as a pointcut sees them: a full name and a signature of canonical types.
-/
namespace AspectLoom

/-- One parameter or result. Of a variadic parameter the type is that of one element. -/
structure Param where
  name : Option String
  type : GoType
deriving DecidableEq, Repr, Inhabited

structure Signature where
  params : List Param := []
  results : List Param := []
  variadic : Bool := false
deriving DecidableEq, Repr, Inhabited

structure Declaration where
  packagePath : String
  name : String
  /-- The receiver's type; a function has none. -/
  receiver : Option GoType
  signature : Signature
deriving DecidableEq, Repr, Inhabited

namespace Declaration

def params (decl : Declaration) : List Param := decl.signature.params

def results (decl : Declaration) : List Param := decl.signature.results

def variadic (decl : Declaration) : Bool := decl.signature.variadic

/-- `path.Name` for a function, `(type).Name` for a method. -/
def fullName (decl : Declaration) : String :=
  match decl.receiver with
  | some type => "(" ++ type.text ++ ")." ++ decl.name
  | none => decl.packagePath ++ "." ++ decl.name

end Declaration
end AspectLoom
