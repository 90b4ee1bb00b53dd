import AspectLoom.Regex.Pattern
import AspectLoom.Diagnostic
/-!
Pointcuts: patterns that select full names as a whole. A pattern that is no regular expression, by
itself or between the anchors, makes a pointcut that selects nothing.
-/
namespace AspectLoom

structure Pointcut where
  /-- The place in the specification. -/
  index : Nat
  advice : String
  pattern : String
  /-- The anchored pattern, if it can be read. -/
  expr : Option Regex.Expr
deriving Inhabited

namespace Pointcut

def anchored (pattern : String) : String := "^(?:" ++ pattern ++ ")$"

-- The bare pattern is read first: anchors could turn an unbalanced pattern into another one.
def read (pattern : String) : Except Regex.PatternError Regex.Expr := do
  let _ ← Regex.parse pattern
  Regex.parse (anchored pattern)

def compile (index : Nat) (advice pattern : String) : Pointcut × Option Diagnostic :=
  match read pattern with
  | .ok expr => (⟨index, advice, pattern, some expr⟩, none)
  | .error _ => (⟨index, advice, pattern, none⟩, some (.invalidPattern advice pattern))

def isValid (pointcut : Pointcut) : Bool := pointcut.expr.isSome

def selects (pointcut : Pointcut) (fullName : String) : Bool :=
  pointcut.expr.any fun expr => expr.isMatch fullName

end Pointcut
end AspectLoom
