import AspectLoom.Proofs.Actions
import AspectLoom.Weave.WovenUnit
import Mathlib.Data.List.Basic
import Std.Data.String.ToNat
/-!
Names that a session issues. A name is never issued twice, and counted names are never taken.
-/
namespace AspectLoom.NameSession

variable {session after : NameSession} {path : Path} {span : Span} {fullName : String}

theorem advance_issued (session : NameSession) : session.advance.issued = session.issued := by
  unfold advance
  split <;> rfl

theorem advance_scheme (session : NameSession) : session.advance.scheme = session.scheme := by
  unfold advance
  split <;> rfl

/-- Names that are issued are built from a proxy name that was not issued before. -/
theorem next_ok {names : SyntheticNames}
    (issued : session.next path span fullName = (.ok names, after)) :
    names = .ofProxy names.proxy ∧ names.proxy ∉ session.issued ∧
      after.issued = names.proxy :: session.issued := by
  unfold next at issued
  simp only [advance_issued] at issued
  split at issued
  · cases issued
  · rename_i free
    simp only [List.contains_eq_mem, decide_eq_true_eq] at free
    simp only [Prod.mk.injEq, Except.ok.injEq] at issued
    obtain ⟨rfl, rfl⟩ := issued
    exact ⟨rfl, free, by simp [SyntheticNames.ofProxy]⟩

/-- A name that is taken is not issued again, and no other is. -/
theorem next_taken {taken : String}
    (refused : session.next path span fullName = (.error taken, after)) :
    after.issued = session.issued := by
  unfold next at refused
  dsimp only at refused
  split at refused
  · cases refused
    exact advance_issued session
  · cases refused

/-- All names come from numbers below the counter, if names are counted. -/
def Counted (session : NameSession) : Prop :=
  session.scheme = .sequential →
    ∀ name ∈ session.issued, ∃ number < session.counter, name = "_ag_proxy_" ++ toString number

theorem counted_start (scheme : NamingScheme) : Counted { scheme := scheme } :=
  fun _ => List.forall_mem_nil _

theorem next_scheme {outcome : Except String SyntheticNames}
    (issued : session.next path span fullName = (outcome, after)) :
    after.scheme = session.scheme := by
  unfold next at issued
  dsimp only at issued
  split at issued
  · cases issued
    exact advance_scheme session
  · cases issued
    exact advance_scheme session

theorem proxyName_counted (sequential : session.scheme = .sequential) :
    session.proxyName path span fullName = "_ag_proxy_" ++ toString session.counter := by
  unfold proxyName
  rw [sequential]

theorem advance_counter (sequential : session.scheme = .sequential) :
    session.advance.counter = session.counter + 1 := by
  unfold advance
  rw [sequential]

theorem next_counted {outcome : Except String SyntheticNames} (counted : session.Counted)
    (issued : session.next path span fullName = (outcome, after)) : after.Counted := by
  intro sequential
  rw [next_scheme issued] at sequential
  have later : ∀ name ∈ session.issued,
      ∃ number < session.counter + 1, name = "_ag_proxy_" ++ toString number := by
    intro name member
    obtain ⟨number, below, same⟩ := counted sequential name member
    exact ⟨number, Nat.lt_succ_of_lt below, same⟩
  unfold next at issued
  dsimp only at issued
  split at issued
  · cases issued
    rw [advance_counter sequential, advance_issued]
    exact later
  · cases issued
    rw [advance_counter sequential, advance_issued]
    refine List.forall_mem_cons.mpr ⟨?_, later⟩
    exact ⟨session.counter, Nat.lt_succ_self _, proxyName_counted sequential⟩

/-- A counted name is free. -/
theorem next_free {outcome : Except String SyntheticNames} (counted : session.Counted)
    (sequential : session.scheme = .sequential)
    (issued : session.next path span fullName = (outcome, after)) : ∃ names, outcome = .ok names := by
  unfold next at issued
  dsimp only at issued
  split at issued
  · rename_i taken
    exfalso
    rw [advance_issued, proxyName_counted sequential, List.contains_iff_mem] at taken
    obtain ⟨number, below, same⟩ := counted sequential _ taken
    have equal := Nat.repr_injective ((String.append_right_inj _).mp same)
    omega
  · cases issued
    exact ⟨_, rfl⟩

end AspectLoom.NameSession

namespace AspectLoom.UnitWeaver

open Actions

theorem runFrom_nextNames (weaver : UnitWeaver) (point : JoinPoint) (fullName : String)
    (memory : UnitMemory) :
    runFrom (weaver.nextNames point fullName) memory =
      match memory.session.names.next weaver.unit.relativePath point.site.span fullName with
      | (.ok names, issued) =>
        (.ok names, { memory with session := { memory.session with names := issued } })
      | (.error taken, issued) =>
        (.error (weaver.errorAt point (.nameTaken taken)),
          { memory with session := { memory.session with names := issued } }) := by
  unfold nextNames
  rw [runFrom_bind, runFrom_get]
  dsimp only
  rcases memory.session.names.next weaver.unit.relativePath point.site.span fullName with
    ⟨taken | names, issued⟩
  · rfl
  · rfl

end AspectLoom.UnitWeaver
