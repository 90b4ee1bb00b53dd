import AspectLoom.Proofs.Actions
import AspectLoom.Proofs.NestedSites
import AspectLoom.Proofs.TextPlaces
import AspectLoom.Weave.WovenUnit
/-!
What weaving does to the text of a unit. A source text is cut at its join points, inside operands
too, and the cut text is read twice: as it was and as it is woven. Both readings share all that
lies outside of the outermost join points.
-/
namespace AspectLoom

/-- A text cut at its join points, from left to right. -/
inductive WovenText where
  | plain (text : String)
  /-- A reference without a receiver, with what stands before and behind it. -/
  | function (before : String) (point : JoinPoint) (names : SyntheticNames) (text : String)
      (rest : WovenText)
  /-- A reference behind an operand, which is cut in turn. -/
  | method (before : String) (point : JoinPoint) (names : SyntheticNames)
      (operandType receiver : GoType) (front : String) (operand : WovenText) (back : String)
      (rest : WovenText)

namespace WovenText

/-- The text before weaving. -/
def original : WovenText → String
  | plain text => text
  | function before _ _ text rest => before ++ text ++ rest.original
  | method before _ _ _ _ front operand back rest =>
    before ++ (front ++ operand.original ++ back) ++ rest.original

/-- The text with a call of its generator in place of every reference. -/
def woven : WovenText → String
  | plain text => text
  | function before _ names _ rest => before ++ ("(" ++ names.generator ++ "(" ++ "))") ++ rest.woven
  | method before _ names operandType receiver _ operand _ rest =>
    before ++
      ("(" ++ names.generator ++
        "(" ++ UnitWeaver.adaptReceiver operand.woven operandType receiver ++ "))") ++ rest.woven

/-- The references with their names, those in an operand before the one that they are in. -/
def calls : WovenText → List (JoinPoint × SyntheticNames)
  | plain _ => []
  | function _ point names _ rest => (point, names) :: rest.calls
  | method _ point names _ _ _ operand _ rest => operand.calls ++ (point, names) :: rest.calls

/-- Whether the references lie where their join points are when the text begins at an offset. -/
def Lies (symbols : SymbolTable) : Nat → WovenText → Prop
  | _, plain _ => True
  | start, function before point _ text rest =>
    let opens := start + before.utf8ByteSize
    let closes := opens + text.utf8ByteSize
    point.site.span = ⟨opens, closes⟩ ∧
      (∃ decl, symbols.get? point.decl = some decl ∧ decl.receiver = none) ∧
      rest.Lies symbols closes
  | start, method before point _ operandType receiver front operand back rest =>
    let opens := start + before.utf8ByteSize
    let inner := opens + front.utf8ByteSize
    let innerEnd := inner + operand.original.utf8ByteSize
    let closes := innerEnd + back.utf8ByteSize
    point.site.span = ⟨opens, closes⟩ ∧
      (∃ name, point.site.shape = .selector ⟨inner, innerEnd⟩ name operandType) ∧
      (∃ decl, symbols.get? point.decl = some decl ∧ decl.receiver = some receiver) ∧
      operand.Lies symbols inner ∧ rest.Lies symbols closes

/-- What stands before the first reference. -/
def head : WovenText → String
  | plain text => text
  | function before .. => before
  | method before .. => before

theorem head_shared (cut : WovenText) :
    ∃ rest wovenRest, cut.original = cut.head ++ rest ∧ cut.woven = cut.head ++ wovenRest := by
  cases cut with
  | plain text => exact ⟨"", "", by simp [original, head], by simp [woven, head]⟩
  | function before point names text rest =>
      exact ⟨text ++ rest.original, _ ++ rest.woven, String.append_assoc .., String.append_assoc ..⟩
  | method before point names operandType receiver front operand back rest =>
      exact ⟨_ ++ rest.original, _ ++ rest.woven, String.append_assoc .., String.append_assoc ..⟩

/-- All references lie between the two ends of the text. -/
theorem calls_inside {symbols : SymbolTable} {start : Nat} {cut : WovenText}
    (lies : cut.Lies symbols start) :
    ∀ call ∈ cut.calls, start + cut.head.utf8ByteSize ≤ call.1.site.span.start ∧
      call.1.site.span.stop ≤ start + cut.original.utf8ByteSize := by
  induction cut generalizing start with
  | plain text => simp [calls]
  | function before point names text rest ih =>
      obtain ⟨span, _, restLies⟩ := lies
      intro call member
      simp only [original, head, String.utf8ByteSize_append]
      rcases List.mem_cons.mp member with rfl | later
      · simp only [span]
        omega
      · have inside := ih restLies call later
        omega
  | method before point names operandType receiver front operand back rest operandIh restIh =>
      obtain ⟨span, _, _, operandLies, restLies⟩ := lies
      intro call member
      simp only [original, head, String.utf8ByteSize_append]
      rcases List.mem_append.mp member with within | here
      · have inside := operandIh operandLies call within
        omega
      · rcases List.mem_cons.mp here with rfl | later
        · simp only [span]
          omega
        · have inside := restIh restLies call later
          omega

/-- Of two references the earlier one is in the operand of the later one or ends before it. -/
theorem calls_ordered {symbols : SymbolTable} {start : Nat} {cut : WovenText}
    (lies : cut.Lies symbols start) :
    (cut.calls.map Prod.fst).Pairwise fun earlier later =>
      earlier.site.InOperand later.site ∨
        earlier.site.span.stop ≤ later.site.span.start := by
  rw [List.pairwise_map]
  induction cut generalizing start with
  | plain text => exact List.Pairwise.nil
  | function before point names text rest ih =>
      obtain ⟨span, _, restLies⟩ := lies
      refine List.pairwise_cons.mpr ⟨?_, ih restLies⟩
      intro call later
      have inside := calls_inside restLies call later
      right
      simp only [span]
      omega
  | method before point names operandType receiver front operand back rest operandIh restIh =>
      obtain ⟨span, ⟨name, shape⟩, _, operandLies, restLies⟩ := lies
      refine List.pairwise_append.mpr
        ⟨operandIh operandLies, List.pairwise_cons.mpr ⟨?_, restIh restLies⟩, ?_⟩
      · intro call later
        have inside := calls_inside restLies call later
        right
        simp only [span]
        omega
      · intro call within other here
        have inside := calls_inside operandLies call within
        rcases List.mem_cons.mp here with rfl | later
        · refine .inl ⟨_, name, operandType, shape, (Span.contains_iff ..).mpr ?_⟩
          dsimp only
          omega
        · have beyond := calls_inside restLies other later
          right
          omega

end WovenText
end AspectLoom
