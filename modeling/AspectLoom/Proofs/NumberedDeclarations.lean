import AspectLoom.Program.Symbols
import Mathlib.Data.List.Basic
import Mathlib.Data.Set.Function
import Mathlib.Order.Interval.Set.Defs
/-!
The numbers of declarations. A table that calls have built from the empty one numbers the full names
that were added from zero on without a gap; calls that follow change neither the number of a name nor
the declaration that has it.
-/
namespace AspectLoom

namespace SymbolTable

variable {table : SymbolTable} {decl : Declaration} {fullName : String} {id : DeclId}

/-! Numbers -/

/-- A full name has the number of the declaration that bears it. -/
theorem find?_eq_some_iff : table.find? fullName = some id ↔
    ∃ stored, table.get? id = some stored ∧ stored.fullName = fullName :=
  (table.numbering fullName id).trans Option.map_eq_some_iff

theorem find?_lt (known : table.find? fullName = some id) : id < table.declarations.size := by
  obtain ⟨stored, held, _⟩ := find?_eq_some_iff.mp known
  exact (Array.getElem?_eq_some_iff.mp held).1

/-- Every number below the number of declarations is that of a full name. -/
theorem exists_find? (below : id < table.declarations.size) :
    ∃ fullName, table.find? fullName = some id :=
  ⟨_, find?_eq_some_iff.mpr ⟨_, Array.getElem?_eq_getElem below, rfl⟩⟩

theorem find?_inj {left right : String} (known : table.find? left = some id)
    (again : table.find? right = some id) : left = right := by
  obtain ⟨stored, held, rfl⟩ := find?_eq_some_iff.mp known
  obtain ⟨other, otherHeld, rfl⟩ := find?_eq_some_iff.mp again
  cases held.symm.trans otherHeld
  rfl

theorem add_known (known : table.find? decl.fullName = some id) : table.add decl = (id, table) := by
  unfold add
  split
  · rename_i other found
    cases found.symm.trans known
    rfl
  · rename_i new
    cases new.symm.trans known

theorem add_uses (table : SymbolTable) (decl : Declaration) : (table.add decl).2.uses = table.uses := by
  unfold add
  split <;> rfl

/-- Adding a declaration gives the number of one with its full name. -/
theorem add_names (table : SymbolTable) (decl : Declaration) :
    ∃ stored, (table.add decl).2.get? (table.add decl).1 = some stored ∧
      stored.fullName = decl.fullName := by
  unfold add
  split
  · rename_i id known
    exact find?_eq_some_iff.mp known
  · exact ⟨decl, by simp [get?], rfl⟩

theorem add_only {known : Declaration} (held : (table.add decl).2.get? id = some known) :
    table.get? id = some known ∨ known = decl := by
  unfold add at held
  split at held
  · exact .inl held
  · simp only [get?, Array.getElem?_push] at held
    split at held
    · cases held
      exact .inr rfl
    · exact .inl held

/-! Tables that grow -/

/-- Of two tables the second one has all of the first one at the same places. -/
structure Extends (before after : SymbolTable) : Prop where
  declarations : before.declarations.toList <+: after.declarations.toList
  uses : before.uses.toList <+: after.uses.toList

namespace Extends

variable {before middle after : SymbolTable}

theorem refl (table : SymbolTable) : table.Extends table :=
  ⟨List.prefix_refl _, List.prefix_refl _⟩

theorem trans (first : before.Extends middle) (second : middle.Extends after) :
    before.Extends after :=
  ⟨first.declarations.trans second.declarations, first.uses.trans second.uses⟩

theorem get? {stored : Declaration} (grows : before.Extends after)
    (held : before.get? id = some stored) : after.get? id = some stored := by
  unfold SymbolTable.get? at held ⊢
  rw [← Array.getElem?_toList] at held ⊢
  obtain ⟨inside, rfl⟩ := List.getElem?_eq_some_iff.mp held
  exact List.prefix_iff_getElem?.mp grows.declarations id inside

theorem find? (grows : before.Extends after) (known : before.find? fullName = some id) :
    after.find? fullName = some id := by
  obtain ⟨stored, held, same⟩ := find?_eq_some_iff.mp known
  exact find?_eq_some_iff.mpr ⟨stored, grows.get? held, same⟩

end Extends

theorem extends_add (table : SymbolTable) (decl : Declaration) : table.Extends (table.add decl).2 := by
  unfold add
  split
  · exact .refl table
  · refine ⟨?_, List.prefix_refl _⟩
    rw [Array.toList_push]
    exact List.prefix_append _ _

theorem extends_record (table : SymbolTable) (use : Use) : table.Extends (table.record use) := by
  refine ⟨List.prefix_refl _, ?_⟩
  unfold record
  rw [Array.toList_push]
  exact List.prefix_append _ _

theorem add_kept (decl : Declaration) {known : Declaration}
    (held : table.get? id = some known) : (table.add decl).2.get? id = some known :=
  (table.extends_add decl).get? held

end SymbolTable

/-! Calls and their answers -/

/-- A call that changes a symbol table. -/
inductive SymbolCall where
  | add (decl : Declaration)
  | record (use : Use)
deriving DecidableEq

namespace SymbolCall

open SymbolTable (find?_eq_some_iff)

/-- What a call answers, which is the number of the declaration that it adds, and the table that it
leaves. -/
def answer (table : SymbolTable) : SymbolCall → Option DeclId × SymbolTable
  | add decl => (some (table.add decl).1, (table.add decl).2)
  | record use => (none, table.record use)

/-- The answers to calls one after the other, and the table behind them. -/
def answerAll (table : SymbolTable) : List SymbolCall → List (Option DeclId) × SymbolTable
  | [] => ([], table)
  | call :: rest =>
    let (first, middle) := call.answer table
    let (others, last) := answerAll middle rest
    (first :: others, last)

variable {table : SymbolTable} {call : SymbolCall} {calls : List SymbolCall} {decl : Declaration}
  {fullName : String} {id : DeclId}

theorem answerAll_cons (table : SymbolTable) (call : SymbolCall) (rest : List SymbolCall) :
    answerAll table (call :: rest) =
      ((call.answer table).1 :: (answerAll (call.answer table).2 rest).1,
        (answerAll (call.answer table).2 rest).2) := rfl

theorem answer_extends (table : SymbolTable) (call : SymbolCall) :
    table.Extends (call.answer table).2 := by
  cases call with
  | add decl => exact table.extends_add decl
  | record use => exact table.extends_record use

theorem answerAll_extends (table : SymbolTable) (calls : List SymbolCall) :
    table.Extends (answerAll table calls).2 := by
  induction calls generalizing table with
  | nil => exact .refl table
  | cons call rest ih => exact (answer_extends table call).trans (ih _)

/-- After a call the names with numbers are those from before and the one that it adds. -/
theorem answer_named (table : SymbolTable) (call : SymbolCall) (fullName : String) :
    (∃ id, (call.answer table).2.find? fullName = some id) ↔
      (∃ id, table.find? fullName = some id) ∨ ∃ decl, call = .add decl ∧ decl.fullName = fullName := by
  cases call with
  | record use => simp [answer, SymbolTable.record, SymbolTable.find?]
  | add decl =>
      constructor
      · rintro ⟨id, known⟩
        obtain ⟨stored, held, same⟩ := find?_eq_some_iff.mp known
        rcases SymbolTable.add_only held with before | rfl
        · exact .inl ⟨id, find?_eq_some_iff.mpr ⟨stored, before, same⟩⟩
        · exact .inr ⟨stored, rfl, same⟩
      · rintro (⟨id, known⟩ | ⟨decl, ⟨⟩, rfl⟩)
        · exact ⟨id, (answer_extends table _).find? known⟩
        · exact ⟨_, find?_eq_some_iff.mpr (table.add_names decl)⟩

theorem answerAll_named (table : SymbolTable) (calls : List SymbolCall) (fullName : String) :
    (∃ id, (answerAll table calls).2.find? fullName = some id) ↔
      (∃ id, table.find? fullName = some id) ∨
        ∃ decl, .add decl ∈ calls ∧ decl.fullName = fullName := by
  induction calls generalizing table with
  | nil => simp [answerAll]
  | cons call rest ih =>
      rw [answerAll_cons, ih, answer_named, or_assoc]
      simp only [List.mem_cons, or_and_right, exists_or, eq_comm]

/-- The number that a declaration was given is the one that its full name has ever after. -/
theorem answerAll_finds (given : (.add decl, some id) ∈ calls.zip (answerAll table calls).1) :
    (answerAll table calls).2.find? decl.fullName = some id := by
  induction calls generalizing table with
  | nil => cases given
  | cons call rest ih =>
      rw [answerAll_cons, List.zip_cons_cons] at given
      rw [answerAll_cons]
      rcases List.mem_cons.mp given with here | later
      · cases here
        exact (answerAll_extends _ rest).find? (find?_eq_some_iff.mpr (table.add_names decl))
      · exact ih later

/-- Every declaration that is added is given a number, and nothing else is. -/
theorem answerAll_gives (table : SymbolTable) (calls : List SymbolCall) :
    (∀ decl, .add decl ∈ calls → ∃ id, (.add decl, some id) ∈ calls.zip (answerAll table calls).1) ∧
      ∀ id, some id ∈ (answerAll table calls).1 →
        ∃ decl, (.add decl, some id) ∈ calls.zip (answerAll table calls).1 := by
  induction calls generalizing table with
  | nil => simp [answerAll]
  | cons call rest ih =>
      obtain ⟨adds, gives⟩ := ih (call.answer table).2
      rw [answerAll_cons, List.zip_cons_cons]
      refine ⟨fun decl member => ?_, fun id member => ?_⟩
      · rcases List.mem_cons.mp member with rfl | later
        · exact ⟨_, List.mem_cons_self⟩
        · obtain ⟨id, given⟩ := adds decl later
          exact ⟨id, List.mem_cons_of_mem _ given⟩
      · rcases List.mem_cons.mp member with here | later
        · cases call with
          | record use => cases here
          | add decl =>
              rw [here]
              exact ⟨decl, List.mem_cons_self⟩
        · obtain ⟨decl, given⟩ := gives id later
          exact ⟨decl, List.mem_cons_of_mem _ given⟩

/-! Tables that begin empty -/

theorem named_iff (calls : List SymbolCall) (fullName : String) :
    (∃ id, (answerAll .empty calls).2.find? fullName = some id) ↔
      ∃ decl, .add decl ∈ calls ∧ decl.fullName = fullName := by
  refine (answerAll_named .empty calls fullName).trans (or_iff_right ?_)
  rintro ⟨id, known⟩
  cases known

/-- The numbers that are given are those below the number of declarations. -/
theorem mem_answers_iff (calls : List SymbolCall) (id : DeclId) :
    some id ∈ (answerAll .empty calls).1 ↔ id < (answerAll .empty calls).2.declarations.size := by
  obtain ⟨adds, gives⟩ := answerAll_gives .empty calls
  constructor
  · intro given
    obtain ⟨decl, answered⟩ := gives id given
    exact SymbolTable.find?_lt (answerAll_finds answered)
  · intro below
    obtain ⟨fullName, known⟩ := SymbolTable.exists_find? below
    obtain ⟨decl, member, rfl⟩ := (named_iff calls fullName).mp ⟨id, known⟩
    obtain ⟨other, answered⟩ := adds decl member
    cases (answerAll_finds answered).symm.trans known
    exact (List.of_mem_zip answered).2

theorem find?_bijOn (calls : List SymbolCall) :
    let table := (answerAll .empty calls).2
    Set.BijOn table.find? {fullName | ∃ decl, .add decl ∈ calls ∧ decl.fullName = fullName}
      (some '' Set.Iio table.declarations.size) := by
  intro table
  refine ⟨?_, ?_, ?_⟩
  · intro fullName added
    obtain ⟨id, known⟩ := (named_iff calls fullName).mpr added
    exact ⟨id, SymbolTable.find?_lt known, known.symm⟩
  · intro left leftAdded right _ same
    obtain ⟨id, known⟩ := (named_iff calls left).mpr leftAdded
    exact SymbolTable.find?_inj known (same.symm.trans known)
  · rintro _ ⟨id, below, rfl⟩
    obtain ⟨fullName, known⟩ := SymbolTable.exists_find? below
    exact ⟨fullName, (named_iff calls fullName).mp ⟨id, known⟩, known⟩

/-- The numbers that calls on an empty table give are those below the number of declarations. Each
full name that was added has one of its own, that of the declaration which bears it, and keeps it:
adding the name again changes nothing, no later call puts another declaration under a number, and
what a use was bound to by a number that was given can be looked up ever after. -/
theorem answerAll_numbers (calls : List SymbolCall) :
    let answers := (answerAll .empty calls).1
    let table := (answerAll .empty calls).2
    (∀ id, some id ∈ answers ↔ id < table.declarations.size) ∧
    (∀ decl id, (.add decl, some id) ∈ calls.zip answers → table.find? decl.fullName = some id) ∧
    (∀ fullName id, table.find? fullName = some id ↔
      ∃ stored, table.get? id = some stored ∧ stored.fullName = fullName) ∧
    Set.BijOn table.find? {fullName | ∃ decl, .add decl ∈ calls ∧ decl.fullName = fullName}
      (some '' Set.Iio table.declarations.size) ∧
    (∀ fullName, (∀ decl, .add decl ∈ calls → decl.fullName ≠ fullName) →
      table.find? fullName = none) ∧
    (∀ decl id, table.find? decl.fullName = some id → table.add decl = (id, table)) ∧
    ∀ more,
      let later := (answerAll table more).2
      (∀ id stored, table.get? id = some stored → later.get? id = some stored) ∧
      ∀ use ∈ table.uses.toList, ∀ decl id, use.binding = .function id →
        (.add decl, some id) ∈ calls.zip answers →
        use ∈ later.uses.toList ∧ ∃ stored, table.get? id = some stored ∧
          later.get? id = some stored ∧ stored.fullName = decl.fullName := by
  intro answers table
  refine ⟨mem_answers_iff calls, fun _ _ => answerAll_finds, fun _ _ => find?_eq_some_iff,
    find?_bijOn calls, ?_, fun _ _ => SymbolTable.add_known, ?_⟩
  · intro fullName absent
    by_contra present
    obtain ⟨id, known⟩ := Option.ne_none_iff_exists'.mp present
    obtain ⟨decl, member, same⟩ := (named_iff calls fullName).mp ⟨id, known⟩
    exact absent decl member same
  · intro more later
    have grows : table.Extends later := answerAll_extends table more
    refine ⟨fun _ _ => grows.get?, ?_⟩
    intro use recorded decl id _ answered
    obtain ⟨stored, held, same⟩ := find?_eq_some_iff.mp (answerAll_finds answered)
    exact ⟨grows.uses.subset recorded, stored, held, grows.get? held, same⟩

def runDeclaration : Declaration := ⟨"app", "run", none, {}⟩

def runUse : Use := ⟨⟨⟨0, ⟨40, 43⟩⟩, 4, 2, .ident "run"⟩, .function 0⟩

/-- A function is added twice, the second time with a parameter, and used in between. -/
def runCalls : List SymbolCall :=
  [.add runDeclaration, .record runUse,
    .add { runDeclaration with signature := ⟨[⟨none, ⟨"int"⟩⟩], [], false⟩ },
    .add ⟨"app", "stop", none, {}⟩]

theorem answerAll_numbers_run :
    let table := (answerAll .empty runCalls).2
    (answerAll .empty runCalls).1 = [some 0, none, some 0, some 1] ∧
      table.find? "app.run" = some 0 ∧ table.get? 0 = some runDeclaration ∧
      table.find? "app.start" = none ∧ table.add runDeclaration = (0, table) ∧
      ∀ more, ∃ stored, (answerAll table more).2.get? 0 = some stored ∧
        stored.fullName = "app.run" := by
  intro table
  obtain ⟨_, finds, _, _, absent, again, stays⟩ := answerAll_numbers runCalls
  have answered : (SymbolCall.add runDeclaration, some 0) ∈
      runCalls.zip (answerAll .empty runCalls).1 := by decide +kernel
  have known : table.find? runDeclaration.fullName = some 0 := finds _ _ answered
  have recorded : runUse ∈ table.uses.toList := by decide +kernel
  refine ⟨by decide +kernel, known, by decide +kernel, absent "app.start" ?_, again _ _ known, ?_⟩
  · intro decl member
    simp only [runCalls, List.mem_cons, SymbolCall.add.injEq, reduceCtorEq, List.not_mem_nil,
      or_false, false_or] at member
    rcases member with rfl | rfl | rfl <;> decide
  · intro more
    obtain ⟨_, stored, _, held, same⟩ := (stays more).2 runUse recorded _ _ rfl answered
    exact ⟨stored, held, same⟩

end SymbolCall
end AspectLoom
