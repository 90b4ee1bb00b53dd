import AspectLoom.Regex.Expr
import Mathlib.Data.Nat.Bitwise
/-!
What it means that an expression matches a stretch of a text. The places that matching keeps as one
number are the ends of the stretches that begin at some places, so a text is found to match exactly
when a stretch of it does.
-/
namespace AspectLoom.Regex

open Unicode (Runs)

/-- A number of steps one after the other. -/
def Chain (step : Nat → Nat → Prop) : Nat → Nat → Nat → Prop
  | 0, start, stop => start = stop
  | count + 1, start, stop => ∃ middle, step start middle ∧ Chain step count middle stop

/-- An expression matches the stretch of a text between two places. -/
def Expr.Matches (text : Array Char) : Expr → Nat → Nat → Prop
  | .empty, start, stop => start = stop
  | .oneOf set, start, stop =>
    stop = start + 1 ∧ ∃ c, text[start]? = some c ∧ set.contains c.toNat = true
  | .look assertion, start, stop =>
    start = stop ∧ assertion.holds (charBefore? text start) text[start]? = true
  | .seq first second, start, stop =>
    ∃ middle, first.Matches text start middle ∧ second.Matches text middle stop
  | .alt first second, start, stop => first.Matches text start stop ∨ second.Matches text start stop
  | .copies body low high, start, stop =>
    ∃ further, (∀ most, high = some most → further ≤ most - low) ∧
      Chain (body.Matches text) (low + further) start stop

/-! Sets of places -/

theorem testBit_placesWhere (property : Nat → Bool) (count place : Nat) :
    (placesWhere property count).testBit place = (decide (place < count) && property place) := by
  induction count with
  | zero => simp [placesWhere]
  | succ count ih =>
      rw [placesWhere, Nat.testBit_or, ih]
      by_cases same : place = count
      · subst same
        cases property place <;> simp [Nat.one_shiftLeft]
      · have different : (if property count then 1 <<< count else 0).testBit place = false := by
          split
          · rw [Nat.one_shiftLeft, Nat.testBit_two_pow]
            exact decide_eq_false (Ne.symm same)
          · exact Nat.zero_testBit place
        rw [different, Bool.or_false]
        congr 1
        exact decide_eq_decide.mpr (by omega)

/-- A set has no places but those in a text. -/
def Within (text : Array Char) (places : Places) : Prop :=
  ∀ place, places.testBit place = true → place ≤ text.size

/-! Chains -/

section
variable {related : Nat → Nat → Prop} {start middle stop count more : Nat}

theorem chain_append (first : Chain related count start middle)
    (second : Chain related more middle stop) : Chain related (count + more) start stop := by
  induction count generalizing start with
  | zero =>
      cases first
      rwa [Nat.zero_add]
  | succ count ih =>
      obtain ⟨next, step, rest⟩ := first
      rw [Nat.succ_add]
      exact ⟨next, step, ih rest⟩

theorem chain_split (chain : Chain related (count + more) start stop) :
    ∃ middle, Chain related count start middle ∧ Chain related more middle stop := by
  induction count generalizing start with
  | zero => exact ⟨start, rfl, by rwa [Nat.zero_add] at chain⟩
  | succ count ih =>
      rw [Nat.succ_add] at chain
      obtain ⟨next, step, rest⟩ := chain
      obtain ⟨middle, first, second⟩ := ih rest
      exact ⟨middle, ⟨next, step, first⟩, second⟩

theorem chain_mono (onward : ∀ start stop, related start stop → start ≤ stop)
    (chain : Chain related count start stop) : start ≤ stop := by
  induction count generalizing start with
  | zero => exact Nat.le_of_eq chain
  | succ count ih =>
      obtain ⟨next, step, rest⟩ := chain
      exact Nat.le_trans (onward _ _ step) (ih rest)

theorem chain_inside {bound : Nat}
    (inside : ∀ start stop, start ≤ bound → related start stop → stop ≤ bound)
    (chain : Chain related count start stop) (within : start ≤ bound) : stop ≤ bound := by
  induction count generalizing start with
  | zero => exact chain ▸ within
  | succ count ih =>
      obtain ⟨next, step, rest⟩ := chain
      exact ih rest (inside _ _ within step)

theorem exists_chain_succ_iff {rounds : Nat} :
    (∃ count ≤ rounds + 1, Chain related count start stop) ↔
      ∃ middle, (start = middle ∨ related start middle) ∧
        ∃ count ≤ rounds, Chain related count middle stop := by
  constructor
  · rintro ⟨count, bound, chain⟩
    cases count with
    | zero => exact ⟨start, .inl rfl, 0, Nat.zero_le _, chain⟩
    | succ count =>
        obtain ⟨middle, first, rest⟩ := chain
        exact ⟨middle, .inr first, count, Nat.le_of_succ_le_succ bound, rest⟩
  · rintro ⟨middle, rfl | first, count, bound, chain⟩
    · exact ⟨count, Nat.le_succ_of_le bound, chain⟩
    · exact ⟨count + 1, Nat.succ_le_succ bound, middle, first, chain⟩

/-- Steps that stay where they are can be left out. -/
theorem chain_shorten (onward : ∀ start stop, related start stop → start ≤ stop)
    (chain : Chain related count start stop) :
    ∃ fewer ≤ stop - start, Chain related fewer start stop := by
  induction count generalizing start with
  | zero =>
      cases chain
      exact ⟨0, Nat.zero_le _, rfl⟩
  | succ count ih =>
      obtain ⟨next, step, rest⟩ := chain
      obtain ⟨fewer, bound, shorter⟩ := ih rest
      have forward := onward _ _ step
      have ahead := chain_mono onward shorter
      by_cases stays : start = next
      · subst stays
        exact ⟨fewer, bound, shorter⟩
      · exact ⟨fewer + 1, by omega, next, step, shorter⟩

end

/-! Steps over sets of places -/

/-- A step over sets of places takes each place to those that are related to it. -/
def Tracks (text : Array Char) (step : Places → Places) (related : Nat → Nat → Prop) : Prop :=
  ∀ starts, Within text starts → ∀ stop,
    (step starts).testBit stop = true ↔ ∃ start, starts.testBit start = true ∧ related start stop

section
variable {text : Array Char} {step next : Places → Places} {related further : Nat → Nat → Prop}

theorem tracks_stay : Tracks text id Eq := by
  intro starts _ stop
  simp

theorem Tracks.either (tracks : Tracks text step related) (others : Tracks text next further) :
    Tracks text (fun starts => step starts ||| next starts)
      fun start stop => related start stop ∨ further start stop := by
  intro starts within stop
  rw [Nat.testBit_or, Bool.or_eq_true, tracks starts within, others starts within, ← exists_or]
  simp only [and_or_left]

variable (tracks : Tracks text step related)
  (inside : ∀ start stop, start ≤ text.size → related start stop → stop ≤ text.size)

section
include tracks inside

theorem Tracks.within {starts : Places} (within : Within text starts) : Within text (step starts) := by
  intro stop reached
  obtain ⟨start, member, steps⟩ := (tracks starts within stop).mp reached
  exact inside start stop (within start member) steps

theorem Tracks.andThen (others : Tracks text next further) :
    Tracks text (fun starts => next (step starts))
      fun start stop => ∃ middle, related start middle ∧ further middle stop := by
  intro starts within stop
  rw [others _ (tracks.within inside within)]
  constructor
  · rintro ⟨middle, reached, right⟩
    obtain ⟨start, member, left⟩ := (tracks starts within middle).mp reached
    exact ⟨start, member, middle, left, right⟩
  · rintro ⟨start, member, middle, left, right⟩
    exact ⟨middle, (tracks starts within middle).mpr ⟨start, member, left⟩, right⟩

theorem exactly_tracks (rounds : Nat) : Tracks text (exactly step rounds) (Chain related rounds) := by
  induction rounds with
  | zero => exact tracks_stay
  | succ rounds ih =>
      intro starts within stop
      rw [exactly]
      split
      · rename_i none
        simp [none]
      · exact tracks.andThen inside ih starts within stop

end

include tracks in
/-- From a set that a step does not leave no chain leads out of it. -/
theorem chain_closed {reached : Places} (within : Within text reached)
    (closed : reached ||| step reached = reached) {count start stop : Nat}
    (member : reached.testBit start = true) (chain : Chain related count start stop) :
    reached.testBit stop = true := by
  induction count generalizing start with
  | zero => exact chain ▸ member
  | succ count ih =>
      obtain ⟨middle, first, rest⟩ := chain
      refine ih ?_ rest
      rw [← closed, Nat.testBit_or, Bool.or_eq_true]
      exact .inr ((tracks reached within middle).mpr ⟨start, member, first⟩)

include tracks inside in
theorem upTo_tracks (rounds : Nat) :
    Tracks text (upTo step rounds) fun start stop =>
      ∃ count ≤ rounds, Chain related count start stop := by
  induction rounds with
  | zero =>
      intro starts within stop
      simp [upTo, Chain]
  | succ rounds ih =>
      intro starts within stop
      rw [upTo]
      dsimp only
      split
      · rename_i closed
        constructor
        · intro member
          exact ⟨stop, member, 0, Nat.zero_le _, rfl⟩
        · rintro ⟨start, member, count, _, chain⟩
          exact chain_closed tracks within closed member chain
      · -- one round goes on from where it stays or steps
        have insideEither : ∀ start stop, start ≤ text.size →
            (start = stop ∨ related start stop) → stop ≤ text.size := by
          rintro start stop bound (rfl | steps)
          · exact bound
          · exact inside start stop bound steps
        simp only [exists_chain_succ_iff]
        exact (tracks_stay.either tracks).andThen insideEither ih starts within stop

end

/-! Expressions -/

/-- A match goes onward and stays in the text. -/
theorem Expr.matches_onward {text : Array Char} (expr : Expr) :
    ∀ start stop, expr.Matches text start stop →
      start ≤ stop ∧ (start ≤ text.size → stop ≤ text.size) := by
  induction expr with
  | empty =>
      rintro start stop rfl
      exact ⟨Nat.le_refl _, id⟩
  | oneOf set =>
      rintro start stop ⟨rfl, c, held, _⟩
      exact ⟨Nat.le_succ _, fun _ => (Array.getElem?_eq_some_iff.mp held).1⟩
  | look assertion =>
      rintro start stop ⟨rfl, _⟩
      exact ⟨Nat.le_refl _, id⟩
  | seq first second firstIh secondIh =>
      rintro start stop ⟨middle, left, right⟩
      obtain ⟨leftOnward, leftInside⟩ := firstIh _ _ left
      obtain ⟨rightOnward, rightInside⟩ := secondIh _ _ right
      exact ⟨Nat.le_trans leftOnward rightOnward, fun inside => rightInside (leftInside inside)⟩
  | alt first second firstIh secondIh =>
      rintro start stop (left | right)
      · exact firstIh _ _ left
      · exact secondIh _ _ right
  | copies body low high ih =>
      rintro start stop ⟨further, _, chain⟩
      exact ⟨chain_mono (fun start stop matched => (ih start stop matched).1) chain,
        chain_inside (fun start stop bound matched => (ih start stop matched).2 bound) chain⟩

theorem Expr.matches_inside {text : Array Char} (expr : Expr) (start stop : Nat)
    (bound : start ≤ text.size) (matched : expr.Matches text start stop) : stop ≤ text.size :=
  (expr.matches_onward start stop matched).2 bound

/-- Copies are the ones that must be and then some, of which no more are needed than a text has
places. -/
theorem Expr.copies_matches_iff {text : Array Char} {body : Expr} {low : Nat} {high : Option Nat}
    {start stop : Nat} (inside : start ≤ text.size) :
    (Expr.copies body low high).Matches text start stop ↔
      ∃ middle, Chain (body.Matches text) low start middle ∧
        ∃ count ≤ (high.map (· - low)).getD (text.size + 1),
          Chain (body.Matches text) count middle stop := by
  constructor
  · rintro ⟨further, bound, chain⟩
    obtain ⟨middle, first, rest⟩ := chain_split chain
    refine ⟨middle, first, ?_⟩
    cases high with
    | some most => exact ⟨further, bound most rfl, rest⟩
    | none =>
        obtain ⟨fewer, short, shorter⟩ :=
          chain_shorten (fun start stop matched => (body.matches_onward start stop matched).1) rest
        have last : stop ≤ text.size := chain_inside body.matches_inside chain inside
        exact ⟨fewer, show fewer ≤ text.size + 1 by omega, shorter⟩
  · rintro ⟨middle, first, count, bound, rest⟩
    refine ⟨count, ?_, chain_append first rest⟩
    rintro most rfl
    exact bound

/-- The places that are kept are the ends of matches. The induction is over the expression: each way to
put expressions together puts the steps together that track them. -/
theorem Expr.ends_tracks (text : Array Char) (expr : Expr) :
    Tracks text (expr.ends text) (expr.Matches text) := by
  induction expr with
  | empty => exact tracks_stay
  | oneOf set =>
      intro starts within stop
      rw [Expr.ends, Nat.testBit_shiftLeft, Bool.and_eq_true, decide_eq_true_eq, Nat.testBit_and,
        Bool.and_eq_true, setPlaces, testBit_placesWhere, Bool.and_eq_true, Option.any_eq_true]
      constructor
      · rintro ⟨later, member, _, c, held, contained⟩
        exact ⟨stop - 1, member, by omega, c, held, contained⟩
      · rintro ⟨start, member, rfl, c, held, contained⟩
        rw [Nat.add_sub_cancel]
        have inside := (Array.getElem?_eq_some_iff.mp held).1
        exact ⟨by omega, member, decide_eq_true inside, c, held, contained⟩
  | look assertion =>
      intro starts within stop
      rw [Expr.ends, Nat.testBit_and, Bool.and_eq_true, lookPlaces, testBit_placesWhere,
        Bool.and_eq_true, decide_eq_true_eq]
      constructor
      · rintro ⟨member, _, holds⟩
        exact ⟨stop, member, rfl, holds⟩
      · rintro ⟨start, member, rfl, holds⟩
        exact ⟨member, Nat.lt_succ_of_le (within start member), holds⟩
  | seq first second firstIh secondIh => exact firstIh.andThen first.matches_inside secondIh
  | alt first second firstIh secondIh => exact firstIh.either secondIh
  | copies body low high ih =>
      intro starts within stop
      have least := exactly_tracks ih body.matches_inside low
      have leastInside : ∀ start stop, start ≤ text.size →
          Chain (body.Matches text) low start stop → stop ≤ text.size :=
        fun _ _ bound chain => chain_inside body.matches_inside chain bound
      rw [Expr.ends, least.andThen leastInside (upTo_tracks ih body.matches_inside _) starts within]
      exact exists_congr fun start => and_congr_right fun member =>
        (copies_matches_iff (within start member)).symm

/-- A text as a list of places is matched from its start to its end. -/
def Expr.MatchesText (expr : Expr) (text : String) : Prop :=
  expr.Matches text.toList.toArray 0 text.toList.toArray.size

theorem Expr.isMatch_iff (expr : Expr) (text : String) : expr.isMatch text = true ↔
    ∃ start stop, start ≤ text.toList.toArray.size ∧
      expr.Matches text.toList.toArray start stop := by
  have within : Within text.toList.toArray
      (placesWhere (fun _ => true) (text.toList.toArray.size + 1)) := by
    intro place member
    rw [testBit_placesWhere, Bool.and_eq_true, decide_eq_true_eq] at member
    omega
  unfold Expr.isMatch
  rw [bne_iff_ne]
  constructor
  · intro some
    obtain ⟨stop, reached⟩ := Nat.exists_testBit_of_ne_zero some
    obtain ⟨start, member, matched⟩ := (expr.ends_tracks _ _ within stop).mp reached
    exact ⟨start, stop, within start member, matched⟩
  · rintro ⟨start, stop, bound, matched⟩ none
    have member :
        (placesWhere (fun _ => true) (text.toList.toArray.size + 1)).testBit start = true := by
      rw [testBit_placesWhere, Bool.and_true, decide_eq_true_eq]
      omega
    have reached := (expr.ends_tracks _ _ within stop).mpr ⟨start, member, matched⟩
    rw [none, Nat.zero_testBit] at reached
    cases reached

theorem Expr.matchesAll_iff (expr : Expr) (text : String) :
    expr.matchesAll text = true ↔ expr.MatchesText text := by
  have within : Within text.toList.toArray 1 := by
    intro place member
    rw [Nat.testBit_one_eq_true_iff_self_eq_zero] at member
    omega
  unfold Expr.matchesAll Expr.MatchesText
  rw [expr.ends_tracks _ _ within]
  constructor
  · rintro ⟨start, member, matched⟩
    rw [Nat.testBit_one_eq_true_iff_self_eq_zero] at member
    exact member ▸ matched
  · intro matched
    exact ⟨0, rfl, matched⟩

/-- Between the two ends of a text an expression is found exactly if it matches all of it. -/
theorem Expr.isMatch_anchored_iff (expr : Expr) (text : String) :
    (Expr.seq (.seq (.look .textStart) expr) (.look .textEnd)).isMatch text = true ↔
      expr.MatchesText text := by
  rw [Expr.isMatch_iff]
  constructor
  · rintro ⟨start, stop, bound, last, ⟨first, ⟨rfl, atStart⟩, matched⟩, rfl, atEnd⟩
    rw [Look.holds, charBefore?, Option.isNone_iff_eq_none] at atStart
    rw [Look.holds, Option.isNone_iff_eq_none, Array.getElem?_eq_none_iff] at atEnd
    have inside := expr.matches_inside start last bound matched
    have beginning : start = 0 := by
      by_contra later
      rw [if_neg later, Array.getElem?_eq_none_iff] at atStart
      omega
    subst beginning
    rwa [Expr.MatchesText, Nat.le_antisymm atEnd inside]
  · intro matched
    refine ⟨0, _, Nat.zero_le _, _, ⟨0, ⟨rfl, rfl⟩, matched⟩, rfl, ?_⟩
    rw [Look.holds, Array.getElem?_eq_none (Nat.le_refl _)]
    rfl

end AspectLoom.Regex
