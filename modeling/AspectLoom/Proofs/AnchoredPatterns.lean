import AspectLoom.Proofs.ClosedPatterns
import AspectLoom.Proofs.ExpressionMatches
import AspectLoom.Pointcut
/-!
Which pointcuts a pattern makes. Between the anchors a pattern is read as it is by itself, inside
of one group, unless a comment that it ends in takes the end of that group.
-/
namespace AspectLoom.Regex

/-! Groups around a pattern -/

/-- A state inside of more groups. -/
def State.under (state : State) (base : List OpenGroup) : State :=
  { state with groups := state.groups ++ base }

@[simp] theorem State.under_flags (state : State) (base : List OpenGroup) :
    (state.under base).flags = state.flags := rfl

@[simp] theorem State.under_level (state : State) (base : List OpenGroup) :
    (state.under base).level = state.level := rfl

@[simp] theorem State.under_names (state : State) (base : List OpenGroup) :
    (state.under base).names = state.names := rfl

/-- A result where it is read inside of more groups. -/
def Enclosed (base : List OpenGroup) (result enclosed : Except PatternError (State × Input)) :
    Prop :=
  ∀ after left, result = .ok (after, left) → enclosed = .ok (after.under base, left)

section
variable {α : Type} {base : List OpenGroup}

theorem enclosed_error {error : PatternError} {enclosed : Except PatternError (State × Input)} :
    Enclosed base (.error error) enclosed := by
  intro after left ok
  cases ok

theorem enclosed_ok (state : State) (left : Input) :
    Enclosed base (.ok (state, left)) (.ok (state.under base, left)) := by
  rintro _ _ ⟨⟩
  rfl

theorem enclosed_bind {result : Except PatternError α}
    {next after : α → Except PatternError (State × Input)}
    (onward : ∀ value, Enclosed base (next value) (after value)) :
    Enclosed base (result >>= next) (result >>= after) := by
  cases result with
  | error error => exact enclosed_error
  | ok value => exact onward value

theorem namedGroup_enclosed (state : State) (chars : Input) :
    Enclosed base (namedGroup state chars) (namedGroup (state.under base) chars) := by
  refine enclosed_bind fun read => ?_
  obtain ⟨name, rest⟩ := read
  dsimp only
  by_cases taken : state.names.contains name = true
  · rw [if_pos taken]
    exact enclosed_error
  · rw [if_neg taken, if_neg (show ¬ (state.under base).names.contains name = true from taken)]
    exact enclosed_ok _ _

theorem flaggedGroup_enclosed (state : State) (chars : Input) :
    Enclosed base (flaggedGroup state chars) (flaggedGroup (state.under base) chars) := by
  refine enclosed_bind fun read => ?_
  obtain ⟨⟨flags, noFlags⟩, rest⟩ := read
  dsimp only
  split
  · split
    · exact enclosed_error
    · exact enclosed_ok _ _
  · exact enclosed_ok _ _
  · exact enclosed_error

theorem readGroupStart_enclosed (state : State) (chars : Input) :
    Enclosed base (readGroupStart state chars) (readGroupStart (state.under base) chars) := by
  rw [readGroupStart_eq, readGroupStart_eq]
  dsimp only [State.under]
  split
  all_goals first
    | exact enclosed_error
    | exact namedGroup_enclosed state _
    | exact flaggedGroup_enclosed state _
    | exact enclosed_ok _ _

theorem closeGroup_enclosed (state : State) (left : Input) :
    Enclosed base (do return (← state.closeGroup, left))
      (do return (← (state.under base).closeGroup, left)) := by
  unfold State.closeGroup State.under
  cases state.groups with
  | nil => exact enclosed_error
  | cons group groups => exact enclosed_ok _ _

theorem repeatLast_enclosed (state : State) (low : Nat) (high : Option Nat) (left : Input) :
    Enclosed base (do return (← repeatLast state low high, left))
      (do return (← repeatLast (state.under base) low high, left)) := by
  unfold repeatLast
  dsimp only [State.under]
  split
  · exact enclosed_error
  · split
    · exact enclosed_error
    · exact enclosed_ok _ _

/-- What a step does depends on no group around the innermost ones. -/
theorem step_enclosed (state : State) (c : Char) (rest : Input) :
    Enclosed base (step state c rest) (step (state.under base) c rest) := by
  unfold step
  dsimp only
  split
  all_goals first
    | exact readGroupStart_enclosed state rest
    | exact closeGroup_enclosed state rest
    | exact repeatLast_enclosed state _ _ _
    | exact enclosed_ok _ _
    | exact enclosed_bind fun _ => enclosed_ok _ _
    | exact enclosed_bind fun _ => enclosed_bind fun _ => enclosed_ok _ _
    | exact enclosed_bind fun _ => repeatLast_enclosed state _ _ _

end

/-! Readings -/

/-- Reading on from a state comes to a later one, with the last characters left. -/
inductive Reads : State → Input → State → Input → Prop where
  | done (state : State) (chars : Input) : Reads state chars state chars
  | next {state between final : State} {chars rest left last : Input} {c : Char}
      (skips : state.flags.skip chars = c :: rest) (steps : step state c rest = .ok (between, left))
      (reads : Reads between left final last) : Reads state chars final last

section
variable {state between final : State} {chars rest left last : Input} {c : Char} {fuel : Nat}

theorem Reads.trans (first : Reads state chars between left)
    (second : Reads between left final last) : Reads state chars final last := by
  induction first with
  | done state chars => exact second
  | next skips steps _ ih => exact .next skips steps (ih second)

theorem skip_length (flags : Flags) (chars : Input) : (flags.skip chars).length ≤ chars.length :=
  (skip_follows flags (follows_append chars)).length_le

theorem step_length (steps : step state c rest = .ok (between, left)) :
    left.length ≤ rest.length := by
  obtain ⟨_, _, follows⟩ := step_carried state c (follows_append rest) between left steps
  exact follows.length_le

theorem next_shorter (skips : state.flags.skip chars = c :: rest)
    (steps : step state c rest = .ok (between, left)) : left.length < chars.length := by
  have shorter := skip_length state.flags chars
  rw [skips] at shorter
  exact Nat.lt_of_le_of_lt (step_length steps) shorter

theorem run_next (skips : state.flags.skip chars = c :: rest) :
    run (fuel + 1) state chars = (do
      let (between, left) ← step state c rest
      run fuel between left) := by
  rw [run, skips]

/-- A run that ends has read everything. -/
theorem reads_of_run (enough : chars.length < fuel) (ok : run fuel state chars = .ok final) :
    ∃ last, Reads state chars final last ∧ final.flags.skip last = [] := by
  induction fuel generalizing state chars with
  | zero => omega
  | succ fuel ih =>
      cases skips : state.flags.skip chars with
      | nil =>
          rw [run, skips] at ok
          cases ok
          exact ⟨chars, .done _ _, skips⟩
      | cons c rest =>
          rw [run_next skips] at ok
          cases steps : step state c rest with
          | error error =>
              rw [steps] at ok
              cases ok
          | ok read =>
              obtain ⟨between, left⟩ := read
              rw [steps] at ok
              have shorter := next_shorter skips steps
              obtain ⟨last, reads, ends⟩ := ih (by omega) ok
              exact ⟨last, .next skips steps reads, ends⟩

/-- A run goes where a reading leads. -/
theorem run_of_reads (reads : Reads state chars final last) (enough : chars.length < fuel) :
    ∃ more, last.length < more ∧ run fuel state chars = run more final last := by
  induction reads generalizing fuel with
  | done => exact ⟨fuel, enough, rfl⟩
  | next skips steps _ ih =>
      obtain ⟨fuel, rfl⟩ := Nat.exists_eq_succ_of_ne_zero (Nat.ne_of_gt (Nat.zero_lt_of_lt enough))
      have shorter := next_shorter skips steps
      obtain ⟨more, left, runs⟩ := ih (Nat.lt_of_lt_of_le shorter (Nat.le_of_lt_succ enough))
      refine ⟨more, left, ?_⟩
      rw [run_next skips, steps]
      exact runs

theorem run_ended (reads : Reads state chars final last) (ends : final.flags.skip last = [])
    (enough : chars.length < fuel) : run fuel state chars = .ok final := by
  obtain ⟨more, left, runs⟩ := run_of_reads reads enough
  obtain ⟨more, rfl⟩ := Nat.exists_eq_succ_of_ne_zero (by omega : more ≠ 0)
  rw [runs, run, ends]

/-- A reading goes the same way where more stands behind. -/
theorem reads_carried {bound : Nat} {longer : Input} (reads : Reads state chars final last)
    (follows : Follows bound chars longer) :
    ∃ further, Reads state longer final further ∧ Follows bound last further := by
  induction reads generalizing bound longer with
  | done state chars => exact ⟨longer, .done state longer, follows⟩
  | @next state between final chars rest left last c skips steps _ ih =>
      have skipped := skip_follows state.flags follows
      rw [skips] at skipped
      generalize onward : state.flags.skip longer = behind at skipped
      cases skipped with
      | cons c follows =>
          obtain ⟨left, stepsOn, follows⟩ := step_carried _ c follows _ _ steps
          obtain ⟨further, readsOn, follows⟩ := ih follows
          exact ⟨further, .next onward stepsOn readsOn, follows.mono (Nat.le_succ _)⟩

theorem reads_enclosed (base : List OpenGroup) (reads : Reads state chars final last) :
    Reads (state.under base) chars (final.under base) last := by
  induction reads with
  | done state chars => exact .done _ chars
  | next skips steps _ ih => exact .next skips (step_enclosed _ _ _ _ _ steps) ih

end

/-! Whole patterns -/

/-- The item that was read, if no group was left open. -/
def State.whole (state : State) : Except PatternError Item :=
  if !state.groups.isEmpty then .error .unclosedGroup else .ok state.level.value

/-- The item that a pattern is, before it is compared with the limits. -/
def wholeItem (pattern : String) : Except PatternError Item :=
  run (pattern.toList.length + 1) {} pattern.toList >>= State.whole

def Item.withinLimits (item : Item) : Except PatternError Expr :=
  if depthLimit < item.depth then .error .tooDeep
  else if weightLimit < item.weight then .error .tooBig
  else .ok item.expr

theorem parse_eq (pattern : String) : parse pattern = wholeItem pattern >>= Item.withinLimits := by
  unfold parse wholeItem State.whole
  dsimp only
  cases run (pattern.toList.length + 1) {} pattern.toList with
  | error error => rfl
  | ok state =>
      obtain ⟨level, groups, flags, names⟩ := state
      cases groups <;> rfl

theorem withinLimits_ok_iff {item : Item} {expr : Expr} : item.withinLimits = .ok expr ↔
    item.depth ≤ depthLimit ∧ item.weight ≤ weightLimit ∧ item.expr = expr := by
  unfold Item.withinLimits
  split
  · simp only [reduceCtorEq, false_iff, not_and]
    omega
  · split
    · simp only [reduceCtorEq, false_iff, not_and]
      omega
    · simp only [Except.ok.injEq]
      exact ⟨fun same => ⟨by omega, by omega, same⟩, fun same => same.2.2⟩

theorem State.whole_ok_iff {state : State} {item : Item} : state.whole = .ok item ↔
    state.groups = [] ∧ state.level.value = item := by
  unfold State.whole
  cases state.groups <;> simp

/-- A reading up to the end of a pattern decides what the pattern is. -/
theorem wholeItem_of_reads {pattern : String} {final : State} {last : Input}
    (reads : Reads {} pattern.toList final last) (ends : final.flags.skip last = []) :
    wholeItem pattern = final.whole := by
  unfold wholeItem
  rw [run_ended reads ends (Nat.lt_succ_self _)]
  rfl

theorem reads_of_whole {pattern : String} {item : Item} (ok : wholeItem pattern = .ok item) :
    ∃ final last, Reads {} pattern.toList final last ∧ final.flags.skip last = [] ∧
      final.groups = [] ∧ final.level.value = item := by
  unfold wholeItem at ok
  cases runs : run (pattern.toList.length + 1) {} pattern.toList with
  | error error =>
      rw [runs] at ok
      cases ok
  | ok final =>
      rw [runs] at ok
      obtain ⟨last, reads, ends⟩ := reads_of_run (Nat.lt_succ_self _) runs
      exact ⟨final, last, reads, ends, State.whole_ok_iff.mp ok⟩

/-- The group that the anchors put around a pattern. -/
def anchorGroup : OpenGroup := ⟨{ items := [lookItem .textStart] }, {}, false⟩

theorem reads_opened (chars : Input) :
    Reads {} ('^' :: '(' :: '?' :: ':' :: chars) (State.under {} [anchorGroup]) chars :=
  .next rfl rfl (.next rfl rfl (.done _ _))

/-- The item of a pattern between the anchors. -/
def Item.anchored (item : Item) : Item where
  expr := .seq (.seq (.look .textStart) item.expr) (.look .textEnd)
  depth := item.depth + 2
  weight := item.weight + 64

/-- Behind a pattern that is not swallowed its group is closed, and the text has to end. -/
theorem reads_closed {final : State} {last : Input} (whole : final.groups = [])
    (rest : final.flags.skip last = closing) :
    ∃ after, Reads (final.under [anchorGroup]) last after [] ∧
      after.flags.skip [] = [] ∧ after.whole = .ok final.level.value.anchored := by
  obtain ⟨level, groups, flags, names⟩ := final
  subst whole
  refine ⟨_, .next (show _ = ')' :: ['$'] from rest) rfl
    (.next (show _ = '$' :: [] from rfl) rfl (.done _ _)), rfl, State.whole_ok_iff.mpr ⟨rfl, ?_⟩⟩
  change concat [lookItem .textStart,
    { expr := level.value.expr, depth := level.value.depth + 1, weight := level.value.weight },
    lookItem .textEnd] = level.value.anchored
  simp only [concat, lookItem, List.foldl, Item.anchored, Item.mk.injEq, and_true, true_and]
  omega

/-- What is put behind a pattern is a part of the pattern, or of a comment that the pattern
ends in. -/
theorem reads_appended {final : State} {chars last : Input} (reads : Reads {} chars final last)
    (ends : final.flags.skip last = []) :
    ∃ further, (∀ base, Reads (State.under {} base) (chars ++ closing) (final.under base) further) ∧
      (final.flags.skip further = closing ∨ final.flags.skip further = []) := by
  obtain ⟨further, readsOn, follows⟩ := reads_carried reads (follows_append chars)
  refine ⟨further, fun base => reads_enclosed base readsOn, ?_⟩
  have behind := skip_follows final.flags follows
  rw [ends] at behind
  generalize final.flags.skip further = left, chars.length = bound at behind
  cases behind with
  | taken => exact .inr rfl
  | reached => exact .inl rfl

theorem run_appended_fails {final : State} {chars last : Input} {fuel : Nat}
    (reads : Reads {} chars final last) (whole : final.groups = [])
    (rest : final.flags.skip last = closing) (enough : chars.length < fuel) :
    run fuel {} chars = .error .unopenedGroup := by
  obtain ⟨more, left, runs⟩ := run_of_reads reads enough
  obtain ⟨more, rfl⟩ := Nat.exists_eq_succ_of_ne_zero (by omega : more ≠ 0)
  obtain ⟨level, groups, flags, names⟩ := final
  subst whole
  rw [runs, run, rest]
  rfl

/-- Between the anchors a pattern is the same item, unless the end of it takes the closing
parenthesis, which it then does without the anchors as well. -/
theorem wholeItem_anchored {pattern : String} {item : Item} (ok : wholeItem pattern = .ok item) :
    (wholeItem (Pointcut.anchored pattern) = .ok item.anchored ∧
      wholeItem (pattern ++ ")$") = .error .unopenedGroup) ∨
    (wholeItem (Pointcut.anchored pattern) = .error .unclosedGroup ∧
      wholeItem (pattern ++ ")$") = .ok item) := by
  obtain ⟨final, last, reads, ends, whole, rfl⟩ := reads_of_whole ok
  obtain ⟨further, appended, rest⟩ := reads_appended reads ends
  have plainChars : (pattern ++ ")$").toList = pattern.toList ++ closing := String.toList_append
  have chars : (Pointcut.anchored pattern).toList =
      '^' :: '(' :: '?' :: ':' :: (pattern.toList ++ closing) := by
    simp [Pointcut.anchored, String.toList_append, closing]
  have opened := (reads_opened (pattern.toList ++ closing)).trans (appended [anchorGroup])
  have plain := appended []
  have same : final.under [] = final := by
    simp [State.under]
  rw [same] at plain
  rcases rest with rest | rest
  · left
    obtain ⟨after, closed, finished, value⟩ := reads_closed whole rest
    refine ⟨?_, ?_⟩
    · rw [← value]
      refine wholeItem_of_reads ?_ finished
      rw [chars]
      exact opened.trans closed
    · unfold wholeItem
      rw [plainChars, run_appended_fails plain whole rest (Nat.lt_succ_self _)]
      rfl
  · right
    refine ⟨?_, ?_⟩
    · rw [← chars] at opened
      rw [wholeItem_of_reads opened rest]
      simp [State.whole, State.under]
    · rw [← plainChars] at plain
      rw [wholeItem_of_reads plain rest]
      exact State.whole_ok_iff.mpr ⟨whole, rfl⟩

/-- A pattern that can stand between the anchors: a parenthesis behind it closes something, and
the limits have room for the anchors. -/
def Anchorable (pattern : String) : Prop :=
  parse (pattern ++ ")$") ≠ parse pattern ∧
    ∀ item, wholeItem pattern = .ok item →
      item.depth + 2 ≤ depthLimit ∧ item.weight + 64 ≤ weightLimit

theorem wholeItem_of_parse {pattern : String} {expr : Expr} (ok : parse pattern = .ok expr) :
    ∃ item, wholeItem pattern = .ok item ∧ item.withinLimits = .ok expr := by
  rw [parse_eq] at ok
  cases read : wholeItem pattern with
  | error error =>
      rw [read] at ok
      cases ok
  | ok item =>
      rw [read] at ok
      exact ⟨item, rfl, ok⟩

theorem parse_anchored_iff {pattern : String} {expr whole : Expr}
    (ok : parse pattern = .ok expr) : parse (Pointcut.anchored pattern) = .ok whole ↔
      Anchorable pattern ∧ .seq (.seq (.look .textStart) expr) (.look .textEnd) = whole := by
  obtain ⟨item, read, limits⟩ := wholeItem_of_parse ok
  have inside := withinLimits_ok_iff.mp limits
  rcases wholeItem_anchored read with ⟨anchored, behind⟩ | ⟨anchored, behind⟩
  · have closes : parse (pattern ++ ")$") ≠ parse pattern := by
      rw [parse_eq, behind, ok]
      exact nofun
    rw [parse_eq, anchored]
    change item.anchored.withinLimits = .ok whole ↔ _
    rw [withinLimits_ok_iff]
    constructor
    · rintro ⟨depth, weight, same⟩
      refine ⟨⟨closes, ?_⟩, inside.2.2 ▸ same⟩
      rintro other readOther
      cases read.symm.trans readOther
      exact ⟨depth, weight⟩
    · rintro ⟨⟨_, room⟩, same⟩
      obtain ⟨depth, weight⟩ := room item read
      refine ⟨depth, weight, ?_⟩
      rw [Item.anchored, inside.2.2]
      exact same
  · have swallowed : parse (pattern ++ ")$") = parse pattern := by
      rw [parse_eq, behind, parse_eq, read]
    rw [parse_eq, anchored]
    exact ⟨nofun, fun possible => absurd swallowed possible.1.1⟩

end AspectLoom.Regex

namespace AspectLoom.Pointcut

open Regex (Anchorable)

/-- A pattern that is a regular expression and can stand between the anchors selects the names that
it matches from end to end. Any other selects nothing and is reported once. -/
theorem compile_selects (index : Nat) (advice pattern : String) :
    (∀ expr, Regex.parse pattern = .ok expr → Anchorable pattern →
      (compile index advice pattern).1.isValid = true ∧
      (compile index advice pattern).2 = none ∧
      ∀ fullName, (compile index advice pattern).1.selects fullName = true ↔
        expr.MatchesText fullName) ∧
    ((∀ expr, Regex.parse pattern = .ok expr → ¬ Anchorable pattern) →
      (compile index advice pattern).1.isValid = false ∧
      (compile index advice pattern).2 = some (.invalidPattern advice pattern) ∧
      ∀ fullName, (compile index advice pattern).1.selects fullName = false) := by
  constructor
  · intro expr ok anchorable
    have whole := (Regex.parse_anchored_iff ok).mpr ⟨anchorable, rfl⟩
    have reads : read pattern = .ok (.seq (.seq (.look .textStart) expr) (.look .textEnd)) := by
      rw [read, ok]
      exact whole
    rw [compile, reads]
    exact ⟨rfl, rfl, fun fullName => expr.isMatch_anchored_iff fullName⟩
  · intro never
    obtain ⟨error, fails⟩ : ∃ error, read pattern = .error error := by
      cases ok : Regex.parse pattern with
      | error error => exact ⟨error, by rw [read, ok]; rfl⟩
      | ok expr =>
          cases whole : Regex.parse (anchored pattern) with
          | error error => exact ⟨error, by rw [read, ok]; exact whole⟩
          | ok whole' =>
              exact absurd ((Regex.parse_anchored_iff ok).mp whole).1 (never expr ok)
    rw [compile, fails]
    exact ⟨rfl, rfl, fun _ => rfl⟩

/-- A comment that a pattern ends in takes the end of the group around it. -/
theorem compile_comment :
    (∃ expr, Regex.parse "(?x)a # c" = .ok expr ∧ expr.MatchesText "a") ∧
      (compile 0 "A" "(?x)a # c").1.isValid = false ∧
      (compile 0 "A" "(?x)a # c").1.selects "a" = false := by
  have matched : ((Regex.parse "(?x)a # c").toOption.any (·.matchesAll "a")) = true := by
    decide +kernel
  refine ⟨?_, by decide +kernel, by decide +kernel⟩
  cases ok : Regex.parse "(?x)a # c" with
  | error error =>
      rw [ok] at matched
      cases matched
  | ok expr =>
      rw [ok] at matched
      exact ⟨expr, rfl, (expr.matchesAll_iff "a").mp matched⟩

end AspectLoom.Pointcut
