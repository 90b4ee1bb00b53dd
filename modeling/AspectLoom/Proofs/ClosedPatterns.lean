import AspectLoom.Regex.Pattern
/-!
How a pattern is read when a closing parenthesis and an end anchor are put behind it. What reads a
part of the pattern reads the same there and leaves the same, up to what was put behind, which may
be gone: then it became a part of the comment that the pattern ends in.
-/
namespace AspectLoom.Regex

open Unicode (Runs)

/-- What is put behind a pattern. -/
def closing : Input := [')', '$']

/-- What is left of a pattern, and what is left of it with `closing` behind it. The bound is on the
characters of the first. -/
inductive Follows : Nat → Input → Input → Prop where
  /-- A comment took what was put behind. -/
  | taken {bound : Nat} : Follows bound [] []
  | reached {bound : Nat} : Follows bound [] closing
  | cons {bound : Nat} {rest longer : Input} (c : Char) (follows : Follows bound rest longer) :
      Follows (bound + 1) (c :: rest) (c :: longer)

theorem follows_append (chars : Input) : Follows chars.length chars (chars ++ closing) := by
  induction chars with
  | nil => exact .reached
  | cons c rest ih => exact .cons c ih

section
variable {α β : Type} {bound more : Nat} {chars rest longer : Input} {flags : Flags}

theorem Follows.mono (follows : Follows bound chars longer) (le : bound ≤ more) :
    Follows more chars longer := by
  induction follows generalizing more with
  | taken => exact .taken
  | reached => exact .reached
  | @cons bound _ _ c _ ih =>
      obtain ⟨more, rfl⟩ := Nat.exists_eq_succ_of_ne_zero (by omega : more ≠ 0)
      exact .cons c (ih (by omega))

theorem Follows.length_le (follows : Follows bound chars longer) : chars.length ≤ bound := by
  induction follows with
  | taken => exact Nat.zero_le _
  | reached => exact Nat.zero_le _
  | cons c _ ih => exact Nat.succ_le_succ ih

theorem Follows.length_le_length (follows : Follows bound chars longer) :
    chars.length ≤ longer.length := by
  induction follows with
  | taken => exact Nat.le_refl _
  | reached => exact Nat.zero_le _
  | cons c _ ih => exact Nat.succ_le_succ ih

theorem Follows.tight (follows : Follows bound chars longer) :
    Follows chars.length chars longer := by
  induction follows with
  | taken => exact .taken
  | reached => exact .reached
  | cons c _ ih => exact .cons c ih

/-- The second of two results is the first with more behind what is left. -/
def Carried (bound : Nat) (narrow wide : Except PatternError (α × Input)) : Prop :=
  ∀ value rest, narrow = .ok (value, rest) →
    ∃ longer, wide = .ok (value, longer) ∧ Follows bound rest longer

variable {narrow wide : Except PatternError (α × Input)} {error : PatternError}

theorem Carried.mono (carried : Carried bound narrow wide) (le : bound ≤ more) :
    Carried more narrow wide := by
  intro value rest ok
  obtain ⟨longer, wideOk, follows⟩ := carried value rest ok
  exact ⟨longer, wideOk, follows.mono le⟩

theorem carried_error : Carried (α := α) bound (.error error) wide := by
  intro value rest ok
  cases ok

theorem carried_ok {value : α} (follows : Follows bound rest longer) :
    Carried bound (.ok (value, rest)) (.ok (value, longer)) := by
  rintro _ _ ⟨⟩
  exact ⟨longer, rfl, follows⟩

theorem Carried.bind {next after : α × Input → Except PatternError (β × Input)}
    (carried : Carried bound narrow wide)
    (onward : ∀ value rest longer, Follows bound rest longer →
      Carried more (next (value, rest)) (after (value, longer))) :
    Carried more (narrow >>= next) (wide >>= after) := by
  cases narrow with
  | error error => exact carried_error
  | ok result =>
      obtain ⟨value, rest⟩ := result
      obtain ⟨longer, rfl, follows⟩ := carried value rest rfl
      exact onward value rest longer follows

/-- A value that does not come from the pattern is the same on both sides. -/
theorem carried_value {result : Except PatternError β}
    {next after : β → Except PatternError (α × Input)}
    (onward : ∀ value, Carried bound (next value) (after value)) :
    Carried bound (result >>= next) (result >>= after) := by
  cases result with
  | error error => exact carried_error
  | ok value => exact onward value

/-- Where a closing brace has to stand next. -/
theorem carried_brace {next after : Input → Except PatternError (α × Input)}
    (onward : ∀ rest longer, Follows bound rest longer → Carried bound (next rest) (after longer)) :
    Follows bound rest longer → Carried bound
      (match rest with
        | '\x7d' :: rest => next rest
        | _ => throw error)
      (match longer with
        | '\x7d' :: rest => after rest
        | _ => throw error) := by
  intro follows
  cases follows with
  | taken => exact carried_error
  | reached => exact carried_error
  | cons c follows =>
      by_cases brace : c = '\x7d'
      · subst brace
        exact onward _ _ (follows.mono (Nat.le_succ _))
      · split
        · rename_i same
          exact absurd (List.cons.inj same).1 brace
        · exact carried_error

/-- Where something has to be left. -/
theorem carried_unless_empty {none noneOn : Except PatternError (α × Input)}
    (follows : Follows bound rest longer) (fails : none = .error error)
    (carried : Carried more narrow wide) :
    Carried more (if rest.isEmpty then none else narrow)
      (if longer.isEmpty then noneOn else wide) := by
  cases follows with
  | taken => exact fails ▸ carried_error
  | reached => exact fails ▸ carried_error
  | cons c _ => exact carried

/-! Blanks and comments -/

theorem skipBlanks_follows (follows : Follows bound chars longer) (comment : Bool) :
    Follows bound (skipBlanks comment chars) (skipBlanks comment longer) := by
  induction follows generalizing comment with
  | taken =>
      cases comment <;> exact .taken
  | reached =>
      cases comment
      · have stays : skipBlanks false closing = closing := by decide
        rw [stays]
        exact .reached
      · have gone : skipBlanks true closing = [] := by decide
        rw [gone]
        exact .taken
  | @cons bound rest longer c follows ih =>
      cases comment
      · simp only [skipBlanks]
        split
        · exact (ih false).mono (Nat.le_succ _)
        · split
          · exact (ih true).mono (Nat.le_succ _)
          · exact .cons c follows
      · exact (ih _).mono (Nat.le_succ _)

theorem skip_follows (flags : Flags) (follows : Follows bound chars longer) :
    Follows bound (flags.skip chars) (flags.skip longer) := by
  unfold Flags.skip
  split
  · exact skipBlanks_follows follows false
  · exact follows

/-- A loop that reads characters, with what may be skipped behind each, up to one it stops at. -/
theorem carried_loop (flags : Flags) {loop : Nat → β → Input → α × Input} (result : β → α)
    (atEnd : ∀ fuel read, loop fuel read [] = (result read, []))
    (atClosing : ∀ fuel read, loop fuel read closing = (result read, closing))
    (atChar : ∀ read c,
      (∃ next, ∀ fuel rest, loop (fuel + 1) read (c :: rest) = loop fuel next (flags.skip rest)) ∨
        ∀ fuel rest, loop (fuel + 1) read (c :: rest) = (result read, c :: rest))
    {fuel more : Nat} (enough : bound ≤ fuel) (enoughMore : bound ≤ more) (read : β)
    (follows : Follows bound chars longer) :
    Carried bound (.ok (loop fuel read chars)) (.ok (loop more read longer)) := by
  induction bound generalizing fuel more read chars longer with
  | zero =>
      cases follows with
      | taken =>
          rw [atEnd, atEnd]
          exact carried_ok .taken
      | reached =>
          rw [atEnd, atClosing]
          exact carried_ok .reached
  | succ bound ih =>
      cases follows with
      | taken =>
          rw [atEnd, atEnd]
          exact carried_ok .taken
      | reached =>
          rw [atEnd, atClosing]
          exact carried_ok .reached
      | cons c follows =>
          obtain ⟨fuel, rfl⟩ := Nat.exists_eq_succ_of_ne_zero (by omega : fuel ≠ 0)
          obtain ⟨more, rfl⟩ := Nat.exists_eq_succ_of_ne_zero (by omega : more ≠ 0)
          rcases atChar read c with ⟨next, reads⟩ | stops
          · rw [Nat.succ_eq_add_one, reads, Nat.succ_eq_add_one, reads]
            exact (ih (by omega) (by omega) next (skip_follows flags follows)).mono (Nat.le_succ _)
          · rw [Nat.succ_eq_add_one, stops, Nat.succ_eq_add_one, stops]
            exact carried_ok (.cons c follows)

theorem dropBlanks_follows (follows : Follows bound chars longer) :
    Follows bound (chars.dropWhile Unicode.isBlank) (longer.dropWhile Unicode.isBlank) := by
  induction follows with
  | taken => exact .taken
  | reached => exact .reached
  | cons c follows ih =>
      simp only [List.dropWhile_cons]
      split
      · exact ih.mono (Nat.le_succ _)
      · exact .cons c follows

theorem dropLazyMark_follows (follows : Follows bound chars longer) :
    Follows bound (dropLazyMark chars) (dropLazyMark longer) := by
  cases follows with
  | taken => exact .taken
  | reached => exact .reached
  | cons c follows =>
      unfold dropLazyMark
      split
      · rename_i same
        cases same
        exact follows.mono (Nat.le_succ _)
      · rename_i other
        split
        · rename_i same
          cases same
          exact (other _ rfl).elim
        · exact .cons c follows

/-! Escapes -/

theorem readHexDigits_carried (flags : Flags) (count value : Nat)
    (follows : Follows bound chars longer) :
    Carried bound (readHexDigits flags count value chars)
      (readHexDigits flags count value longer) := by
  induction count generalizing value bound chars longer with
  | zero => exact carried_ok follows
  | succ count ih =>
      cases follows with
      | taken => exact carried_error
      | reached => exact carried_error
      | cons c follows =>
          simp only [readHexDigits]
          split
          · exact (ih _ (skip_follows flags follows)).mono (Nat.le_succ _)
          · exact carried_error

theorem readHexBraces_carried (flags : Flags) {fuel more : Nat} (le : fuel ≤ more)
    (value : Option Nat) (follows : Follows bound chars longer) :
    Carried bound (readHexBraces flags fuel value chars)
      (readHexBraces flags more value longer) := by
  induction fuel generalizing more value bound chars longer with
  | zero => exact carried_error
  | succ fuel ih =>
      obtain ⟨more, rfl⟩ := Nat.exists_eq_succ_of_ne_zero (by omega : more ≠ 0)
      cases follows with
      | taken => exact carried_error
      | reached => exact carried_error
      | cons c follows =>
          have onward := (skip_follows flags follows).mono (Nat.le_succ _)
          simp only [readHexBraces]
          split
          · cases value with
            | none => exact carried_error
            | some value => exact carried_ok onward
          · split
            · exact ih (Nat.le_of_succ_le_succ le) _ onward
            · exact carried_error

theorem readHex_carried (flags : Flags) (digits : Nat) (follows : Follows bound chars longer) :
    Carried bound (readHex flags digits chars) (readHex flags digits longer) := by
  unfold readHex
  replace follows := skip_follows flags follows
  generalize flags.skip chars = chars, flags.skip longer = longer at follows ⊢
  cases follows with
  | taken => exact carried_error
  | reached => exact carried_error
  | @cons bound rest longer c follows =>
      dsimp only
      split
      · refine (readHexBraces_carried flags (Nat.succ_le_succ follows.length_le_length) none
          (skip_follows flags follows)).bind fun code rest longer onward => ?_
        exact carried_value fun escape => carried_ok (onward.mono (Nat.le_succ _))
      · refine (readHexDigits_carried flags digits 0 (.cons c follows)).bind
          fun code rest longer onward => ?_
        exact carried_value fun escape => carried_ok onward

theorem readPropertyName_carried (flags : Flags) {fuel more : Nat} (le : fuel ≤ more)
    (name : Input) (follows : Follows bound chars longer) :
    Carried bound (readPropertyName flags fuel name chars)
      (readPropertyName flags more name longer) := by
  induction fuel generalizing more name bound chars longer with
  | zero => exact carried_error
  | succ fuel ih =>
      obtain ⟨more, rfl⟩ := Nat.exists_eq_succ_of_ne_zero (by omega : more ≠ 0)
      cases follows with
      | taken => exact carried_error
      | reached => exact carried_error
      | cons c follows =>
          simp only [readPropertyName]
          split
          · exact carried_ok (follows.mono (Nat.le_succ _))
          · exact (ih (Nat.le_of_succ_le_succ le) _ (skip_follows flags follows)).mono
              (Nat.le_succ _)

theorem readProperty_carried (flags : Flags) (negated : Bool)
    (follows : Follows bound chars longer) :
    Carried bound (readProperty flags negated chars) (readProperty flags negated longer) := by
  unfold readProperty
  replace follows := skip_follows flags follows
  generalize flags.skip chars = chars, flags.skip longer = longer at follows ⊢
  cases follows with
  | taken => exact carried_error
  | reached => exact carried_error
  | @cons bound rest longer c follows =>
      dsimp only
      split
      · refine (readPropertyName_carried flags (Nat.succ_le_succ follows.length_le_length) []
          (skip_follows flags follows)).bind fun name rest longer onward => ?_
        dsimp only
        split
        · exact carried_error
        · cases propertySet? name with
          | none => exact carried_error
          | some set => exact carried_ok (onward.mono (Nat.le_succ _))
      · split
        · exact carried_error
        · refine (carried_ok follows).bind fun name rest longer onward => ?_
          dsimp only
          split
          · exact carried_error
          · cases propertySet? name with
            | none => exact carried_error
            | some set => exact carried_ok (onward.mono (Nat.le_succ _))

theorem readBoundaryName_carried (flags : Flags) {fuel more : Nat} (enough : bound ≤ fuel)
    (enoughMore : bound ≤ more) (name : Input) (follows : Follows bound chars longer) :
    Carried bound (.ok (readBoundaryName flags fuel name chars))
      (.ok (readBoundaryName flags more name longer)) := by
  refine carried_loop flags List.reverse ?_ ?_ ?_ enough enoughMore name
    follows
  · intro fuel name
    cases fuel <;> rfl
  · intro fuel name
    cases fuel <;> rfl
  · intro name c
    cases letter : isBoundaryLetter c
    · refine .inr fun fuel rest => ?_
      simp only [readBoundaryName, letter, Bool.false_eq_true, if_false]
    · refine .inl ⟨c :: name, fun fuel rest => ?_⟩
      simp only [readBoundaryName, letter, if_true]

theorem readBoundary_carried (flags : Flags) (follows : Follows bound chars longer) :
    Carried bound (readBoundary flags chars) (readBoundary flags longer) := by
  have whole := follows
  cases follows with
  | taken => exact carried_ok .taken
  | reached => exact carried_ok .reached
  | @cons bound rest longer c follows =>
      by_cases brace : c = '\x7b'
      · subst brace
        simp only [readBoundary]
        replace follows := skip_follows flags follows
        generalize flags.skip rest = inside, flags.skip longer = insideOn at follows ⊢
        cases follows with
        | taken => exact carried_error
        | reached => exact carried_error
        | @cons bound rest longer c follows =>
            dsimp only
            split
            · exact carried_ok whole
            · have named := (readBoundaryName_carried flags (Nat.le_refl _)
                (Nat.succ_le_succ follows.length_le_length) [] (Follows.cons c follows.tight)).mono
                (Nat.succ_le_succ follows.length_le)
              generalize readBoundaryName flags (rest.length + 1) [] (c :: rest) = narrow,
                readBoundaryName flags (longer.length + 1) [] (c :: longer) = wide at named ⊢
              obtain ⟨name, rest⟩ := narrow
              obtain ⟨longer, same, onward⟩ := named name rest rfl
              cases same
              replace onward := onward.mono (Nat.le_succ _)
              dsimp only
              split
              all_goals first
                | exact carried_error
                | exact carried_value fun look =>
                    carried_brace (fun _ _ onward => carried_ok onward) onward
      · unfold readBoundary
        split
        · rename_i same
          exact absurd (List.cons.inj same).1 brace
        · split
          · rename_i same
            exact absurd (List.cons.inj same).1 brace
          · exact carried_ok whole

theorem readEscape_carried (flags : Flags) (follows : Follows bound chars longer) :
    Carried bound (readEscape flags chars) (readEscape flags longer) := by
  cases follows with
  | taken => exact carried_error
  | reached => exact carried_error
  | @cons bound rest longer c follows =>
      replace follows := follows.mono (Nat.le_succ bound)
      unfold readEscape
      dsimp only
      split
      · exact carried_error
      · split
        all_goals first
          | exact carried_ok follows
          | exact carried_value fun escape => carried_ok follows
          | exact readHex_carried flags _ follows
          | exact readProperty_carried flags _ follows
          | exact (readBoundary_carried flags follows).bind fun _ _ _ => carried_ok
          | skip
        split
        · exact carried_error
        · exact carried_ok follows

/-! Bracketed classes -/

theorem literalDashes_carried (flags : Flags) {fuel more : Nat} (enough : bound ≤ fuel)
    (enoughMore : bound ≤ more) (level : ClassLevel) (follows : Follows bound chars longer) :
    Carried bound (.ok (literalDashes flags fuel level chars))
      (.ok (literalDashes flags more level longer)) := by
  refine carried_loop flags id ?_ ?_ ?_ enough enoughMore level follows
  · intro fuel level
    cases fuel <;> rfl
  · intro fuel level
    cases fuel <;> rfl
  · intro level c
    by_cases dash : c = '-'
    · subst dash
      exact .inl ⟨_, fun fuel rest => rfl⟩
    · refine .inr fun fuel rest => ?_
      simp only [literalDashes, List.cons.injEq, dash, false_and, imp_self, implies_true, id]

/-- The `^` that a class may begin with. -/
def readCaret (flags : Flags) (chars : Input) : Bool × Input :=
  match chars with
  | '^' :: rest => (true, flags.skip rest)
  | _ => (false, chars)

/-- A `]` that nothing stands before. -/
def readFirstBracket (flags : Flags) (level : ClassLevel) (chars : Input) : ClassLevel × Input :=
  match chars with
  | ']' :: rest =>
    if level.count = 0 then (level.add (Runs.single ']') 0, flags.skip rest) else (level, chars)
  | _ => (level, chars)

theorem openClass_eq (flags : Flags) (chars : Input) : openClass flags chars = (do
    let caret ← Except.ok (readCaret flags (flags.skip chars))
    let dashes ←
      Except.ok (literalDashes flags caret.2.length { negated := caret.1 } caret.2)
    let bracket ← Except.ok (readFirstBracket flags dashes.1 dashes.2)
    if bracket.2.isEmpty then Except.error .unclosedClass else pure bracket) := rfl

theorem readCaret_carried (flags : Flags) (follows : Follows bound chars longer) :
    Carried bound (.ok (readCaret flags chars)) (.ok (readCaret flags longer)) := by
  cases follows with
  | taken => exact carried_ok .taken
  | reached => exact carried_ok .reached
  | cons c follows =>
      by_cases caret : c = '^'
      · subst caret
        exact carried_ok ((skip_follows flags follows).mono (Nat.le_succ _))
      · simp only [readCaret, List.cons.injEq, caret, false_and, imp_self, implies_true]
        exact carried_ok (.cons c follows)

theorem readFirstBracket_carried (flags : Flags) (level : ClassLevel)
    (follows : Follows bound chars longer) :
    Carried bound (.ok (readFirstBracket flags level chars))
      (.ok (readFirstBracket flags level longer)) := by
  cases follows with
  | taken => exact carried_ok .taken
  | reached => exact carried_ok .reached
  | cons c follows =>
      by_cases bracket : c = ']'
      · subst bracket
        simp only [readFirstBracket]
        split
        · exact carried_ok ((skip_follows flags follows).mono (Nat.le_succ _))
        · exact carried_ok (.cons _ follows)
      · simp only [readFirstBracket, List.cons.injEq, bracket, false_and, imp_self, implies_true]
        exact carried_ok (.cons c follows)

theorem openClass_carried (flags : Flags) (follows : Follows bound chars longer) :
    Carried bound (openClass flags chars) (openClass flags longer) := by
  rw [openClass_eq, openClass_eq]
  refine (readCaret_carried flags (skip_follows flags follows)).bind
    fun negated rest longer follows => ?_
  have dashes := literalDashes_carried flags (Nat.le_refl _) follows.length_le_length
    { negated := negated } follows.tight
  refine dashes.bind fun level inside longer onward => ?_
  refine (readFirstBracket_carried flags level (onward.mono follows.length_le)).bind
    fun level rest longer onward => ?_
  exact carried_unless_empty onward rfl (carried_ok onward)

/-- What `readBracketName?` reads behind the colon and a `^`. -/
def bracketNameAfter? (negated : Bool) (chars : Input) : Option ((Bool × Runs) × Input) :=
  match chars.dropWhile (· ≠ ':') with
  | ':' :: ']' :: after =>
    (bracketName? (String.ofList (chars.takeWhile (· ≠ ':')))).map fun set =>
      ((negated, set), after)
  | _ => none

theorem readBracketName?_colon (chars : Input) : readBracketName? (':' :: chars) =
    bracketNameAfter? (readCaret {} chars).1 (readCaret {} chars).2 := rfl

theorem until_follows {stop : Char} (outside : stop ∉ closing)
    (follows : Follows bound chars longer) :
    (chars.dropWhile (· ≠ stop) = [] ∧ longer.dropWhile (· ≠ stop) = []) ∨
      chars.takeWhile (· ≠ stop) = longer.takeWhile (· ≠ stop) ∧
        ∃ rest further, chars.dropWhile (· ≠ stop) = stop :: rest ∧
          longer.dropWhile (· ≠ stop) = stop :: further ∧ Follows bound rest further := by
  induction follows with
  | taken => exact .inl ⟨rfl, rfl⟩
  | reached =>
      simp only [closing, List.mem_cons, List.not_mem_nil, or_false, not_or] at outside
      simp [closing, Ne.symm outside.1, Ne.symm outside.2]
  | @cons bound rest longer c follows ih =>
      by_cases here : c = stop
      · subst here
        simp only [List.dropWhile_cons, List.takeWhile_cons, ne_eq, not_true_eq_false,
          decide_false, Bool.false_eq_true, if_false]
        exact .inr ⟨trivial, rest, longer, rfl, rfl, follows.mono (Nat.le_succ _)⟩
      · simp only [List.dropWhile_cons, List.takeWhile_cons, here, ne_eq, not_false_eq_true,
          decide_true, if_true] at ih ⊢
        rcases ih with gone | ⟨same, further, furtherOn, left, leftOn, onward⟩
        · exact .inl gone
        · exact .inr ⟨congrArg (c :: ·) same, further, furtherOn, left, leftOn,
            onward.mono (Nat.le_succ _)⟩

theorem bracketNameAfter?_follows (negated : Bool) (follows : Follows bound chars longer) :
    (bracketNameAfter? negated chars = none ∧ bracketNameAfter? negated longer = none) ∨
      ∃ named rest further, bracketNameAfter? negated chars = some (named, rest) ∧
        bracketNameAfter? negated longer = some (named, further) ∧ Follows bound rest further := by
  unfold bracketNameAfter?
  have outside : ':' ∉ closing := by decide
  rcases until_follows outside follows with
    ⟨none, noneOn⟩ | ⟨same, rest, further, left, leftOn, onward⟩
  · rw [none, noneOn]
    exact .inl ⟨rfl, rfl⟩
  · rw [left, leftOn, same]
    cases onward with
    | taken => exact .inl ⟨rfl, rfl⟩
    | reached => exact .inl ⟨rfl, rfl⟩
    | cons c onward =>
        by_cases bracket : c = ']'
        · subst bracket
          simp only
          cases bracketName? (String.ofList (longer.takeWhile (· ≠ ':'))) with
          | none => exact .inl ⟨rfl, rfl⟩
          | some set => exact .inr ⟨_, _, _, rfl, rfl, onward.mono (Nat.le_succ _)⟩
        · simp [bracket]

theorem readBracketName?_follows (follows : Follows bound chars longer) :
    (readBracketName? chars = none ∧ readBracketName? longer = none) ∨
      ∃ named rest further, readBracketName? chars = some (named, rest) ∧
        readBracketName? longer = some (named, further) ∧ Follows bound rest further := by
  cases follows with
  | taken => exact .inl ⟨rfl, rfl⟩
  | reached => exact .inl ⟨rfl, rfl⟩
  | @cons bound rest longer c follows =>
      by_cases colon : c = ':'
      · subst colon
        rw [readBracketName?_colon, readBracketName?_colon]
        obtain ⟨further, same, onward⟩ := readCaret_carried {} follows _ _ rfl
        rw [Except.ok.inj same]
        exact bracketNameAfter?_follows _ (onward.mono (Nat.le_succ _))
      · simp [readBracketName?, colon]

theorem readClassItem_carried (flags : Flags) (follows : Follows bound chars longer) :
    Carried bound (readClassItem flags chars) (readClassItem flags longer) := by
  cases follows with
  | taken => exact carried_error
  | reached => exact carried_error
  | cons c follows =>
      have weaker := follows.mono (Nat.le_succ _)
      by_cases backslash : c = '\\'
      · subst backslash
        exact readEscape_carried flags weaker
      · unfold readClassItem
        split
        · rename_i none
          cases none
        · rename_i same
          exact absurd (List.cons.inj same).1 backslash
        · rename_i same
          cases same
          exact carried_ok weaker

/-- What stands behind a dash that makes a range. -/
def rangeEnd? (flags : Flags) (chars : Input) : Option Input :=
  match chars with
  | '-' :: after =>
    match flags.skip after with
    | ']' :: _ | '-' :: _ => none
    | after => some after
  | _ => none

theorem readClassMember_eq (flags : Flags) (chars : Input) : readClassMember flags chars = (do
    let (first, rest) ← readClassItem flags chars
    let rest := flags.skip rest
    if rest.isEmpty then throw .unclosedClass
    match rangeEnd? flags rest with
    | none =>
      match first with
      | .literal literal =>
        let code ← classCode flags literal
        return (#[(code, code)], rest)
      | .set set => return (set, rest)
      | .look _ => throw .badClassItem
    | some after =>
      if after.isEmpty then throw .unclosedClass
      let (second, rest) ← readClassItem flags after
      match first, second with
      | .literal first, .literal second =>
        if second.char < first.char then throw .badClassRange
        return (#[(← classCode flags first, ← classCode flags second)], rest)
      | _, _ => throw .badClassRange) := rfl

theorem rangeEnd?_follows (flags : Flags) (follows : Follows bound chars longer) :
    (rangeEnd? flags chars = none ∧ rangeEnd? flags longer = none) ∨
      ∃ after afterOn, rangeEnd? flags chars = some after ∧ rangeEnd? flags longer = some afterOn ∧
        Follows bound after afterOn := by
  cases follows with
  | taken => exact .inl ⟨rfl, rfl⟩
  | reached => exact .inl ⟨rfl, rfl⟩
  | @cons bound rest longer c follows =>
      by_cases dash : c = '-'
      · subst dash
        simp only [rangeEnd?]
        replace follows := (skip_follows flags follows).mono (Nat.le_succ _)
        generalize flags.skip rest = rest, flags.skip longer = longer at follows ⊢
        cases follows with
        | taken => exact .inr ⟨[], [], rfl, rfl, .taken⟩
        | reached => exact .inr ⟨[], closing, rfl, rfl, .reached⟩
        | cons c follows =>
            by_cases none : c = ']' ∨ c = '-'
            · rcases none with rfl | rfl <;> exact .inl ⟨rfl, rfl⟩
            · obtain ⟨noBracket, noDash⟩ := not_or.mp none
              refine .inr ⟨_, _, ?_, ?_, .cons c follows⟩
              all_goals simp [noBracket, noDash]
      · simp only [rangeEnd?, List.cons.injEq, dash, false_and, imp_self, implies_true]
        exact .inl ⟨trivial, trivial⟩

theorem readClassMember_carried (flags : Flags) (follows : Follows bound chars longer) :
    Carried bound (readClassMember flags chars) (readClassMember flags longer) := by
  rw [readClassMember_eq, readClassMember_eq]
  refine (readClassItem_carried flags follows).bind fun first rest longer onward => ?_
  replace onward := skip_follows flags onward
  dsimp only
  generalize flags.skip rest = rest, flags.skip longer = longer at onward ⊢
  refine carried_unless_empty onward rfl ?_
  rcases rangeEnd?_follows flags onward with
    ⟨single, singleOn⟩ | ⟨after, afterOn, range, rangeOn, follows⟩
  · rw [single, singleOn]
    cases first with
    | literal literal => exact carried_value fun code => carried_ok onward
    | set set => exact carried_ok onward
    | look assertion => exact carried_error
  · rw [range, rangeOn]
    refine carried_unless_empty follows rfl ?_
    refine (readClassItem_carried flags follows).bind fun second rest longer onward => ?_
    cases first <;> cases second
    case literal.literal first second =>
      dsimp only
      split
      · exact carried_error
      · exact carried_value fun first => carried_value fun second => carried_ok onward
    all_goals exact carried_error

theorem readClass_carried (flags : Flags) {fuel more : Nat} (le : fuel ≤ more)
    (level : ClassLevel) (outer : List ClassLevel) (follows : Follows bound chars longer) :
    Carried bound (readClass flags fuel level outer chars)
      (readClass flags more level outer longer) := by
  induction fuel generalizing more level outer bound chars longer with
  | zero => exact carried_error
  | succ fuel ih =>
      obtain ⟨more, rfl⟩ := Nat.exists_eq_succ_of_ne_zero (by omega : more ≠ 0)
      replace le := Nat.le_of_succ_le_succ le
      unfold readClass
      replace follows := skip_follows flags follows
      generalize flags.skip chars = chars, flags.skip longer = longer at follows ⊢
      cases follows with
      | taken => exact carried_error
      | reached => exact carried_error
      | @cons bound rest longer c follows =>
          have member : Carried (bound + 1)
              (readClassMember flags (c :: rest) >>= fun read =>
                readClass flags fuel (level.add read.1 0) outer read.2)
              (readClassMember flags (c :: longer) >>= fun read =>
                readClass flags more (level.add read.1 0) outer read.2) :=
            (readClassMember_carried flags (.cons c follows)).bind
              fun set rest longer onward => ih le (level.add set 0) outer onward
          have weaker := follows.mono (Nat.le_succ _)
          by_cases opening : c = '['
          · subst opening
            simp only
            rcases readBracketName?_follows weaker with
              ⟨none, noneOn⟩ | ⟨⟨negated, set⟩, rest, further, some, someOn, onward⟩
            · rw [none, noneOn]
              exact (openClass_carried flags weaker).bind
                fun inner rest longer onward => ih le inner (level :: outer) onward
            · rw [some, someOn]
              exact carried_value fun set => ih le _ outer onward
          by_cases shut : c = ']'
          · subst shut
            refine carried_value fun closed => ?_
            cases outer with
            | nil => exact carried_ok weaker
            | cons parent outer => exact ih le _ outer weaker
          by_cases operator : c = '&' ∨ c = '-' ∨ c = '~'
          · cases follows with
            | taken => rcases operator with rfl | rfl | rfl <;> exact member
            | reached => rcases operator with rfl | rfl | rfl <;> exact member
            | cons second follows =>
                by_cases twice : second = c
                · subst twice
                  have behind := follows.mono (Nat.le_add_right _ 2)
                  rcases operator with rfl | rfl | rfl <;> exact ih le _ outer behind
                · rcases operator with rfl | rfl | rfl
                  all_goals
                    simp only [List.cons.injEq, twice, Char.reduceEq, false_and, and_false,
                      imp_self, implies_true]
                    exact member
          · simp only [not_or] at operator
            simp only [List.cons.injEq, opening, shut, operator, false_and, imp_self, implies_true]
            exact member

/-! Counts -/

theorem decimalDigits_carried (flags : Flags) {fuel more : Nat} (enough : bound ≤ fuel)
    (enoughMore : bound ≤ more) (digits : Input) (follows : Follows bound chars longer) :
    Carried bound (.ok (decimalDigits flags fuel digits chars))
      (.ok (decimalDigits flags more digits longer)) := by
  refine carried_loop flags List.reverse ?_ ?_ ?_ enough enoughMore digits
    follows
  · intro fuel digits
    cases fuel <;> rfl
  · intro fuel digits
    cases fuel <;> rfl
  · intro digits c
    cases digit : Unicode.isAsciiDigit c
    · refine .inr fun fuel rest => ?_
      simp only [decimalDigits, digit, Bool.false_eq_true, if_false]
    · refine .inl ⟨c :: digits, fun fuel rest => ?_⟩
      simp only [decimalDigits, digit, if_true]

theorem readCount_carried (flags : Flags) (follows : Follows bound chars longer) :
    Carried bound (readCount flags chars) (readCount flags longer) := by
  unfold readCount
  replace follows := dropBlanks_follows follows
  generalize chars.dropWhile Unicode.isBlank = chars,
    longer.dropWhile Unicode.isBlank = longer at follows ⊢
  have read := (decimalDigits_carried flags (Nat.le_refl _) follows.length_le_length []
    follows.tight).mono follows.length_le
  dsimp only
  generalize decimalDigits flags chars.length [] chars = narrow,
    decimalDigits flags longer.length [] longer = wide at read ⊢
  obtain ⟨digits, rest⟩ := narrow
  obtain ⟨further, same, onward⟩ := read _ _ rfl
  cases same
  replace onward := skip_follows flags (dropBlanks_follows onward)
  cases (String.ofList digits).toNat? with
  | none => exact carried_ok onward
  | some count =>
      dsimp only
      split
      · exact carried_ok onward
      · exact carried_error

/-- The end of a counted repetition, behind its counts. -/
def closeCounts (flags : Flags) (counts : Nat × Option Nat) (chars : Input) :
    Except PatternError ((Nat × Option Nat) × Input) :=
  match chars with
  | '\x7d' :: rest =>
    if counts.2.any (· < counts.1) then throw .badCount
    else return (counts, dropLazyMark (flags.skip rest))
  | _ => throw .badCount

theorem closeCounts_carried (flags : Flags) (counts : Nat × Option Nat)
    (follows : Follows bound chars longer) :
    Carried bound (closeCounts flags counts chars) (closeCounts flags counts longer) := by
  refine carried_brace (fun rest longer onward => ?_) follows
  split
  · exact carried_error
  · exact carried_ok (dropLazyMark_follows (skip_follows flags onward))

/-- The greatest count and what ends a repetition. -/
def readMost (flags : Flags) (low : Nat) (chars : Input) :
    Except PatternError ((Nat × Option Nat) × Input) := do
  match ← readCount flags chars with
  | (some high, rest) => closeCounts flags (low, some high) rest
  | (none, _) => throw .badCount

theorem readMost_carried (flags : Flags) (low : Nat) (follows : Follows bound chars longer) :
    Carried bound (readMost flags low chars) (readMost flags low longer) := by
  refine (readCount_carried flags follows).bind fun high? rest longer onward => ?_
  cases high? with
  | none => exact carried_error
  | some high => exact closeCounts_carried flags (low, some high) onward

theorem readCounts_carried (flags : Flags) (follows : Follows bound chars longer) :
    Carried bound (readCounts flags chars) (readCounts flags longer) := by
  unfold readCounts
  refine (readCount_carried flags (skip_follows flags follows)).bind
    fun low? rest longer onward => ?_
  cases low? with
  | none => exact carried_error
  | some low =>
      have only := closeCounts_carried flags (low, some low) onward
      clear follows
      cases onward with
      | taken => exact only
      | reached => exact only
      | @cons bound rest longer c follows =>
          by_cases comma : c = ','
          · subst comma
            replace follows := (skip_follows flags follows).mono (Nat.le_succ _)
            simp only
            generalize flags.skip rest = rest, flags.skip longer = longer at follows ⊢
            have two := readMost_carried flags low follows
            cases follows with
            | taken => exact two
            | reached => exact two
            | cons c follows =>
                by_cases brace : c = '\x7d'
                · subst brace
                  exact closeCounts_carried flags (low, none) (.cons '\x7d' follows)
                · simp only [List.cons.injEq, brace, false_and, imp_self, implies_true]
                  exact two
          · simp only [List.cons.injEq, comma, false_and, imp_self, implies_true]
            exact only

/-! Groups -/

theorem readGroupName_carried (follows : Follows bound chars longer) :
    Carried bound (readGroupName chars) (readGroupName longer) := by
  unfold readGroupName
  have outside : '>' ∉ closing := by decide
  rcases until_follows outside follows with
    ⟨none, noneOn⟩ | ⟨same, rest, further, left, leftOn, onward⟩
  · rw [none]
    exact carried_error
  · rw [left, leftOn, same]
    dsimp only
    split
    · exact carried_error
    · split
      · exact carried_ok onward
      · exact carried_error

theorem flagLetters_follows (follows : Follows bound chars longer) :
    chars.takeWhile (fun c => c != ':' && c != ')') =
        longer.takeWhile (fun c => c != ':' && c != ')') ∧
      Follows bound (chars.drop (chars.takeWhile fun c => c != ':' && c != ')').length)
        (longer.drop (longer.takeWhile fun c => c != ':' && c != ')').length) := by
  induction follows with
  | taken => exact ⟨rfl, .taken⟩
  | reached => exact ⟨rfl, .reached⟩
  | cons c follows ih =>
      simp only [List.takeWhile_cons]
      split
      · exact ⟨congrArg (c :: ·) ih.1, ih.2.mono (Nat.le_succ _)⟩
      · exact ⟨rfl, .cons c follows⟩

theorem readFlags_carried (flags : Flags) (follows : Follows bound chars longer) :
    Carried bound (readFlags flags chars) (readFlags flags longer) := by
  obtain ⟨same, onward⟩ := flagLetters_follows follows
  unfold readFlags
  rw [same] at onward ⊢
  refine carried_value fun changed => ?_
  dsimp only
  split
  · exact carried_error
  · exact carried_ok onward

/-- A group behind `<`, with its name. -/
def namedGroup (state : State) (chars : Input) : Except PatternError (State × Input) := do
  let (name, rest) ← readGroupName chars
  if state.names.contains name then throw .repeatedGroupName
  return ({ state.openGroup state.flags true with names := name :: state.names }, rest)

/-- A group behind flags, or flags for what is left of the group around them. -/
def flaggedGroup (state : State) (chars : Input) : Except PatternError (State × Input) := do
  let ((flags, noFlags), rest) ← readFlags state.flags chars
  match rest with
  | ')' :: rest =>
    if noFlags then throw .nothingToRepeat
    return (({ state with flags := flags } : State).push { expr := .empty, repeatable := false },
      rest)
  | ':' :: rest => return (state.openGroup flags false, rest)
  | _ => throw .unclosedGroup

theorem readGroupStart_eq (state : State) (chars : Input) : readGroupStart state chars =
    match state.flags.skip chars with
    | '?' :: '=' :: _ | '?' :: '!' :: _ | '?' :: '<' :: '=' :: _ | '?' :: '<' :: '!' :: _ =>
      .error .lookAround
    | '?' :: 'P' :: '<' :: rest | '?' :: '<' :: rest => namedGroup state rest
    | '?' :: rest => flaggedGroup state rest
    | chars => .ok (state.openGroup state.flags true, chars) := rfl

theorem namedGroup_carried (state : State) (follows : Follows bound chars longer) :
    Carried bound (namedGroup state chars) (namedGroup state longer) := by
  refine (readGroupName_carried follows).bind fun name rest longer onward => ?_
  dsimp only
  split
  · exact carried_error
  · exact carried_ok onward

theorem flaggedGroup_carried (state : State) (follows : Follows bound chars longer) :
    Carried bound (flaggedGroup state chars) (flaggedGroup state longer) := by
  refine (readFlags_carried state.flags follows).bind fun changed rest longer onward => ?_
  obtain ⟨flags, noFlags⟩ := changed
  clear follows
  cases onward with
  | taken => exact carried_error
  | reached => exact carried_error
  | cons c follows =>
      replace follows := follows.mono (Nat.le_succ _)
      by_cases shut : c = ')'
      · subst shut
        cases noFlags
        · exact carried_ok follows
        · exact carried_error
      by_cases colon : c = ':'
      · subst colon
        exact carried_ok follows
      · simp only [List.cons.injEq, shut, colon, false_and, imp_self, implies_true]
        exact carried_error

theorem readGroupStart_carried (state : State) (follows : Follows bound chars longer) :
    Carried bound (readGroupStart state chars) (readGroupStart state longer) := by
  rw [readGroupStart_eq, readGroupStart_eq]
  replace follows := skip_follows state.flags follows
  generalize state.flags.skip chars = chars, state.flags.skip longer = longer at follows ⊢
  cases follows with
  | taken => exact carried_ok .taken
  | reached => exact carried_ok .reached
  | cons c follows =>
      by_cases mark : c = '?'
      case neg =>
        simp only [List.cons.injEq, mark, false_and, imp_self, implies_true]
        exact carried_ok (.cons c follows)
      subst mark
      have flagged := (flaggedGroup_carried state follows).mono (Nat.le_succ _)
      cases follows with
      | taken => exact flagged
      | reached => exact flagged
      | cons second follows =>
          by_cases look : second = '=' ∨ second = '!'
          · rcases look with rfl | rfl <;> exact carried_error
          by_cases letter : second = 'P'
          · subst letter
            cases follows with
            | taken => exact flagged
            | reached => exact flagged
            | cons third follows =>
                by_cases angle : third = '<'
                · subst angle
                  exact (namedGroup_carried state follows).mono (by omega)
                · simp only [List.cons.injEq, angle, Char.reduceEq, false_and, and_false, imp_self,
                    implies_true]
                  exact flagged
          by_cases angle : second = '<'
          · subst angle
            have named := (namedGroup_carried state follows).mono (Nat.le_add_right _ 2)
            cases follows with
            | taken => exact named
            | reached => exact named
            | cons third follows =>
                by_cases behind : third = '=' ∨ third = '!'
                · rcases behind with rfl | rfl <;> exact carried_error
                · simp only [not_or] at behind
                  simp only [List.cons.injEq, behind, false_and, imp_self,
                    implies_true]
                  exact named
          · simp only [not_or] at look
            simp only [List.cons.injEq, look, letter, angle, false_and, imp_self,
              implies_true]
            exact flagged

theorem step_carried (state : State) (c : Char) (follows : Follows bound rest longer) :
    Carried bound (step state c rest) (step state c longer) := by
  unfold step
  dsimp only
  split
  case h_1 => exact readGroupStart_carried state follows
  case h_4 =>
    refine (openClass_carried state.flags follows).bind fun level inside longer onward => ?_
    exact ((readClass_carried state.flags (Nat.succ_le_succ onward.length_le_length) level []
      onward).bind fun members rest longer onward => carried_ok onward)
  case h_8 =>
    exact (readCounts_carried state.flags follows).bind fun counts rest longer onward =>
      carried_value fun repeated => carried_ok onward
  case h_9 =>
    exact (readEscape_carried state.flags follows).bind fun escape rest longer onward =>
      carried_value fun item => carried_ok onward
  all_goals first
    | exact carried_ok follows
    | exact carried_value fun _ => carried_ok follows
    | exact carried_value fun _ => carried_ok (dropLazyMark_follows follows)

end

end AspectLoom.Regex
