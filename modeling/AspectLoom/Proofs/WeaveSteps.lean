import AspectLoom.Weave.WovenUnit
/-!
The steps of weaving. Weaving the text of a unit is made of calls of generators and of refusals, each
at one of the join points, so what holds of these and of runs in sequence holds of the whole.
-/
namespace AspectLoom.UnitWeaver

/-- What is wrong with a join point that is refused: its declaration is unknown, its form cannot be
woven, or the form does not go with the declaration. -/
inductive Refuses (weaver : UnitWeaver) (point : JoinPoint) : WeaveFault → Prop where
  | unknown (none : weaver.package.symbols.get? point.decl = none) :
      Refuses weaver point (.unknownDeclaration point.decl)
  | unsupported {decl : Declaration} {kind : String}
      (known : weaver.package.symbols.get? point.decl = some decl)
      (shape : point.site.shape = .unsupported kind) :
      Refuses weaver point (.unsupported kind decl.fullName)
  | behindReceiver {decl : Declaration} {operand : Span} {name : String} {type : GoType}
      (known : weaver.package.symbols.get? point.decl = some decl)
      (shape : point.site.shape = .selector operand name type) (isFunction : decl.receiver = none) :
      Refuses weaver point (.functionBehindReceiver decl.fullName)
  | withoutReceiver {decl : Declaration} {receiver : GoType}
      (known : weaver.package.symbols.get? point.decl = some decl)
      (bare : ∀ operand name type, point.site.shape ≠ .selector operand name type)
      (supported : ∀ kind, point.site.shape ≠ .unsupported kind)
      (isMethod : decl.receiver = some receiver) :
      Refuses weaver point (.methodWithoutReceiver decl.fullName)

/-- A property of runs that the steps of weaving some join points have and that goes over to runs in
sequence. -/
structure HoldsOfSteps (weaver : UnitWeaver) (points : List JoinPoint)
    (holds : ∀ {α : Type}, UnitM α → Prop) : Prop where
  pure : ∀ {α : Type} (value : α), holds (pure value : UnitM α)
  bind : ∀ {α β : Type} {action : UnitM α} {next : α → UnitM β}, holds action →
    (∀ value, holds (next value)) → holds (action >>= next)
  call : ∀ point ∈ points, ∀ decl callee receiver,
    holds (weaver.call point decl callee receiver)
  refuse : ∀ point ∈ points, ∀ fault, weaver.Refuses point fault →
    holds (throw (weaver.errorAt point fault) : UnitM String)

section
variable {weaver : UnitWeaver} {points : List JoinPoint} {holds : ∀ {α : Type}, UnitM α → Prop}

mutual

theorem weaveText_holds (steps : weaver.HoldsOfSteps points holds) (start stop : Nat)
    (inner : List JoinPoint) (among : inner ⊆ points) :
    holds (weaver.weaveText start stop inner) := by
  match inner with
  | [] =>
      rw [weaveText]
      exact steps.pure _
  | point :: rest =>
      rw [weaveText]
      have restAmong : rest ⊆ points := List.Subset.trans (List.subset_cons_self point rest) among
      have nested : nestedIn point rest ⊆ points :=
        List.Subset.trans (List.takeWhile_sublist _).subset restAmong
      have behind : after point rest ⊆ points :=
        List.Subset.trans (List.dropWhile_sublist _).subset restAmong
      exact steps.bind (weavePoint_holds steps (nestedIn point rest) (among List.mem_cons_self) nested)
        fun _ => steps.bind (weaveText_holds steps _ _ (after point rest) behind) fun _ => steps.pure _
termination_by 2 * inner.length
decreasing_by
  · have shorter := length_nestedIn_lt point point rest
    omega
  · have shorter := length_after_lt point point rest
    omega

theorem weavePoint_holds (steps : weaver.HoldsOfSteps points holds) {point : JoinPoint}
    (nested : List JoinPoint) (member : point ∈ points) (among : nested ⊆ points) :
    holds (weaver.weavePoint point nested) := by
  rw [weavePoint]
  split
  · rename_i none
    exact steps.refuse point member _ (.unknown none)
  · rename_i decl known
    split
    · exact steps.call point member _ _ _
    · exact steps.call point member _ _ _
    · rename_i operand _ _ _ _ _
      have kept : within operand nested ⊆ points :=
        List.Subset.trans List.filter_sublist.subset among
      exact steps.bind (weaveText_holds steps _ _ (within operand nested) kept) fun _ =>
        steps.call point member _ _ _
    · rename_i shape
      exact steps.refuse point member _ (.unsupported known shape)
    · rename_i shape isFunction
      exact steps.refuse point member _ (.behindReceiver known shape isFunction)
    · rename_i isMethod bare supported
      exact steps.refuse point member _ (.withoutReceiver known bare supported isMethod)
termination_by 2 * nested.length + 1
decreasing_by exact Nat.lt_succ_of_le (Nat.mul_le_mul_left 2 (length_within_le _ nested))

end

/-- Weaving a unit reads and takes from its memory besides. -/
theorem run_holds (steps : weaver.HoldsOfSteps points holds)
    (reads : holds (get : UnitM UnitMemory)) (takes : holds takePairs) :
    holds (weaver.run points) := by
  have among : JoinPoints.inOrder points ⊆ points :=
    fun _ member => (sortBy_perm points).mem_iff.mp member
  exact steps.bind (weaveText_holds steps _ _ _ among) fun _ =>
    steps.bind reads fun _ => steps.bind takes fun _ => steps.pure _

end
end AspectLoom.UnitWeaver
