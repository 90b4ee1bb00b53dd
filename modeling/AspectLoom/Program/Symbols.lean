import AspectLoom.Assoc
import AspectLoom.Path
import AspectLoom.Program.Declaration
/-!
Reference sites and the symbol table. Declarations are numbered in the order in which their full
names first appear, and the table keeps the number of every full name beside them; uses are kept in
the order in which they were recorded.
-/
namespace AspectLoom

/-- A unit's place in the list of units. -/
abbrev UnitId := Nat

/-- A declaration's number in a symbol table. -/
abbrev DeclId := Nat

structure Location where
  file : Path
  line : Nat
  column : Nat
deriving Repr, Inhabited

def Location.text (location : Location) : String :=
  location.file.text ++ ":" ++ toString location.line ++ ":" ++ toString location.column

/-- The form of a reference in the source. -/
inductive Shape where
  /-- A bare name. -/
  | ident (name : String)
  /-- A name behind the local name of an import. -/
  | qualified (qualifier name : String)
  /-- A method behind an expression of known type. -/
  | selector (operand : Span) (name : String) (operandType : GoType)
  /-- A form that cannot be woven. -/
  | unsupported (kind : String)
deriving DecidableEq, Repr, Inhabited

/-- A reference site is identified by its unit and span, never by its text. -/
structure SiteKey where
  unit : UnitId
  span : Span
deriving DecidableEq, Repr, Inhabited

structure Site extends SiteKey where
  line : Nat
  column : Nat
  shape : Shape
deriving DecidableEq, Repr, Inhabited

inductive Binding where
  | function (id : DeclId)
  /-- A variable, constant or other object that is no function. -/
  | other
deriving DecidableEq, Repr, Inhabited

structure Use where
  site : Site
  binding : Binding
deriving DecidableEq, Repr, Inhabited

/-- Whether full names have the numbers of the declarations that bear them. No other name has a
number. -/
def IsNumbering (numbers : List (String × DeclId)) (declarations : Array Declaration) : Prop :=
  ∀ fullName id, Assoc.find? fullName numbers = some id ↔
    (declarations[id]?).map Declaration.fullName = some fullName

theorem isNumbering_nil : IsNumbering [] #[] := by
  intro fullName id
  simp [Assoc.find?]

theorem IsNumbering.push {numbers : List (String × DeclId)} {declarations : Array Declaration}
    {decl : Declaration} (numbering : IsNumbering numbers declarations)
    (new : Assoc.find? decl.fullName numbers = none) :
    IsNumbering (Assoc.insert decl.fullName declarations.size numbers) (declarations.push decl) := by
  intro fullName id
  rw [Assoc.find?_insert, Array.getElem?_push]
  by_cases last : id = declarations.size
  · subst last
    have unused : Assoc.find? fullName numbers ≠ some declarations.size := by
      rw [Ne, numbering]
      simp
    by_cases same : decl.fullName = fullName <;> simp [same, unused]
  · rw [if_neg last, ← numbering]
    by_cases same : decl.fullName = fullName
    · subst same
      simp [new, Ne.symm last]
    · rw [if_neg same]

structure SymbolTable where
  declarations : Array Declaration := #[]
  numbers : List (String × DeclId) := []
  uses : Array Use := #[]
  numbering : IsNumbering numbers declarations := by exact isNumbering_nil

namespace SymbolTable

instance : Inhabited SymbolTable := ⟨{}⟩

def empty : SymbolTable := {}

def find? (table : SymbolTable) (fullName : String) : Option DeclId :=
  Assoc.find? fullName table.numbers

def get? (table : SymbolTable) (id : DeclId) : Option Declaration := table.declarations[id]?

/-- The number of a declaration; a full name seen before keeps its number and declaration. -/
def add (table : SymbolTable) (decl : Declaration) : DeclId × SymbolTable :=
  match new : table.find? decl.fullName with
  | some id => (id, table)
  | none =>
    (table.declarations.size,
      { table with
        declarations := table.declarations.push decl
        numbers := Assoc.insert decl.fullName table.declarations.size table.numbers
        numbering := table.numbering.push new })

/-- The table of declarations that are added in order. -/
def ofDeclarations (declarations : List Declaration) : SymbolTable :=
  declarations.foldl (fun table decl => (table.add decl).2) empty

def record (table : SymbolTable) (use : Use) : SymbolTable :=
  { table with uses := table.uses.push use }

end SymbolTable
end AspectLoom
