/-!
The statements that generated functions are made of, and how they are written.
-/
namespace AspectLoom

def commaSeparated (items : List String) : String := ", ".intercalate items

/-- A call of a function by its text. -/
structure Call where
  function : String
  arguments : List String
  /-- Whether the last argument is a slice that stands for all that follow. -/
  isSpread : Bool := false
deriving DecidableEq, Repr, Inhabited

def Call.text (call : Call) : String :=
  call.function ++ "(" ++ commaSeparated call.arguments ++ (if call.isSpread then "..." else "")
    ++ ")"

inductive Statement where
  /-- Takes a value out of a list of boxed values. -/
  | unbox (name list : String) (position : Nat) (type : String)
  /-- Names the results of a call. -/
  | define (names : List String) (call : Call)
  | run (call : Call)
  | give (names : List String)
  /-- Returns values as a list of boxed values. -/
  | giveBoxed (names : List String)
  | giveCall (call : Call)
deriving DecidableEq, Repr, Inhabited

namespace Statement

/-- A list of boxed values. -/
def boxed (names : List String) : String :=
  "[]interface\x7b\x7d\x7b" ++ commaSeparated names ++ "\x7d"

def text : Statement → String
  | unbox name list position type =>
    name ++ ", _ := " ++ list ++ "[" ++ toString position ++ "].(" ++ type ++ ")"
  | define names call => commaSeparated names ++ " := " ++ call.text
  | run call => call.text
  | give names => "return " ++ commaSeparated names
  | giveBoxed names => "return " ++ boxed names
  | giveCall call => "return " ++ call.text

/-- Statements on lines of their own. -/
def block (indent : String) (statements : List Statement) : String :=
  "".intercalate (statements.map fun statement => indent ++ statement.text ++ "\n")

end Statement
end AspectLoom
