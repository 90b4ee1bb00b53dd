import AspectLoom.Proofs.Replacements
import AspectLoom.Proofs.WeaveSteps
import AspectLoom.Proofs.WrittenQualifiers
/-!
What a run that weaves text does to the session and to the scope, whether or not it succeeds. Both
are kept when a join point cannot be woven, so each is spoken of by a relation between the memories
before and after.
-/
namespace AspectLoom.UnitWeaver

open Actions

variable {weaver : UnitWeaver}

section

variable {related : UnitMemory → UnitMemory → Prop} [Std.Refl related]
  [IsTrans UnitMemory related]

/-- What every call of a generator does, a run over a text does. -/
theorem weaveText_moves
    (calls : ∀ point decl callee receiver, Moves related (weaver.call point decl callee receiver))
    (start stop : Nat) (points : List JoinPoint) :
    Moves related (weaver.weaveText start stop points) := by
  have steps : weaver.HoldsOfSteps points (Moves related) :=
    ⟨moves_pure, moves_bind, fun point _ => calls point, fun _ _ _ _ => moves_throw _⟩
  exact weaveText_holds steps start stop points (List.Subset.refl points)

end

/-! Calls of generators -/

/-- A call that replaces a join point comes with a pair, and then the signature of the declaration
has been spelled; or the names were refused, and the call leaves all but the naming state. -/
theorem call_leaves (weaver : UnitWeaver) (point : JoinPoint) (decl : Declaration)
    (callee : Callee) (receiver : String) (memory : UnitMemory) :
    let after := leaves (weaver.call point decl callee receiver) memory
    (after.scope = memory.scope ∧ Grown memory.session after.session []) ∨
      after.scope = (SpelledSignature.ofDeclaration memory.scope decl decl.receiver).2 ∧
        ∃ pair, Grown memory.session after.session [pair] := by
  intro after
  rcases ran : runFrom (weaver.call point decl callee receiver) memory with ⟨cause | text, last⟩
  · have same : after = last := congrArg Prod.snd ran
    rw [same]
    unfold call at ran
    rw [runFrom_bind, runFrom_nextNames] at ran
    split at ran
    · cases ran
    · rename_i refused
      split at refused
      · cases refused
      · rename_i next
        cases refused
        cases ran
        -- a content name that is taken is refused before anything is generated
        refine .inl ⟨rfl, (List.append_nil _).symm, NameSession.next_taken next, ?_, .nil, ?_⟩
        · exact List.forall_mem_nil _
        · exact List.forall_mem_nil _
  · have same : after = last := congrArg Prod.snd ran
    rw [same]
    obtain ⟨_, _, _, grown⟩ := call_ok ran
    refine .inr ⟨?_, _, grown⟩
    unfold call at ran
    obtain ⟨names, named, issued, ran⟩ := runFrom_bind_ok ran
    rw [runFrom_nextNames] at issued
    split at issued
    · cases issued
      cases ran
      rfl
    · cases issued

/-! Runs over a text -/

/-- A run over a text keeps the pairs that the session holds and adds one for each name issued. -/
theorem weaveText_grown (weaver : UnitWeaver) (start stop : Nat) (points : List JoinPoint)
    (memory : UnitMemory) :
    ∃ pairs, Grown memory.session (leaves (weaver.weaveText start stop points) memory).session
      pairs := by
  let related (before after : UnitMemory) := ∃ pairs, Grown before.session after.session pairs
  have : Std.Refl related := ⟨fun memory => ⟨[], grown_refl memory.session⟩⟩
  have : IsTrans UnitMemory related :=
    ⟨fun _ _ _ ⟨first, begins⟩ ⟨second, goesOn⟩ => ⟨first ++ second, grown_trans begins goesOn⟩⟩
  have calls : ∀ point decl callee receiver,
      Moves related (weaver.call point decl callee receiver) := by
    intro point decl callee receiver memory
    rcases weaver.call_leaves point decl callee receiver memory with ⟨_, grown⟩ | ⟨_, pair, grown⟩
    · exact ⟨[], grown⟩
    · exact ⟨[pair], grown⟩
  exact weaveText_moves calls start stop points memory

/-- What naming a package preserves, a run over a text preserves. -/
theorem weaveText_preserves {Holds : ImportScope → Prop}
    (named : ∀ scope path, Holds scope → Holds (scope.qualifier path).2) (weaver : UnitWeaver)
    (start stop : Nat) (points : List JoinPoint) {memory : UnitMemory}
    (holds : Holds memory.scope) :
    Holds (leaves (weaver.weaveText start stop points) memory).scope := by
  let related (before after : UnitMemory) := Holds before.scope → Holds after.scope
  have : Std.Refl related := ⟨fun _ => id⟩
  have : IsTrans UnitMemory related := ⟨fun _ _ _ first second => second ∘ first⟩
  have calls : ∀ point decl callee receiver,
      Moves related (weaver.call point decl callee receiver) := by
    intro point decl callee receiver memory held
    rcases weaver.call_leaves point decl callee receiver memory with ⟨same, _⟩ | ⟨spelled, _⟩
    · rwa [same]
    · rw [spelled]
      exact SpelledSignature.ofDeclaration_preserves named held decl decl.receiver
  exact weaveText_moves calls start stop points memory holds

end AspectLoom.UnitWeaver
