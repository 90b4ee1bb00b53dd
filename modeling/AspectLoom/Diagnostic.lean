import AspectLoom.Program.Symbols
/-!
Findings that do not stop a weave.
-/
namespace AspectLoom

inductive Diagnostic where
  /-- The pattern is no regular expression; its pointcut matches nothing. -/
  | invalidPattern (advice pattern : String)
  /-- Several pointcuts match one reference; the last one governs it. -/
  | conflict (location : Location) (fullName overridden winner : String)
  /-- Two advice types share a pattern. -/
  | duplicatePattern (pattern first second : String)
deriving Inhabited

namespace Diagnostic

def text : Diagnostic → String
  | invalidPattern advice pattern =>
    "pointcut of " ++ advice ++ " is not a valid regular expression (" ++ pattern ++ ")"
  | conflict location fullName overridden winner =>
    location.text ++ ": " ++ fullName ++ " matched by both " ++ overridden ++ " and " ++ winner
      ++ "; " ++ winner ++ " wins"
  | duplicatePattern pattern first second =>
    first ++ " and " ++ second ++ " share the pointcut " ++ pattern

end Diagnostic
end AspectLoom
