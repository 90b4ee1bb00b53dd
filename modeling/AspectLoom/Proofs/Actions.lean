import Mathlib.Data.List.Basic
/-!
Runs of actions that can fail and that change a state. The state that a run leaves is kept on
failure too, so a rule about states speaks of every run and a rule about results only of those that
succeed.
-/
namespace AspectLoom.Actions

variable {ε σ α β : Type}

/-- An action that can fail; what it did to the state before that stays. -/
abbrev Action (ε σ α : Type) := ExceptT ε (StateM σ) α

def runFrom (action : Action ε σ α) (state : σ) : Except ε α × σ := action.run.run state

/-- The state that a run leaves, whether it succeeds or not. -/
def leaves (action : Action ε σ α) (state : σ) : σ := (runFrom action state).2

theorem runFrom_pure (value : α) (state : σ) :
    runFrom (pure value : Action ε σ α) state = (.ok value, state) := rfl

theorem runFrom_throw (cause : ε) (state : σ) :
    runFrom (throw cause : Action ε σ α) state = (.error cause, state) := rfl

theorem runFrom_get (state : σ) : runFrom (get : Action ε σ σ) state = (.ok state, state) := rfl

theorem runFrom_modify (change : σ → σ) (state : σ) :
    runFrom (modify change : Action ε σ PUnit) state = (.ok ⟨⟩, change state) := rfl

theorem runFrom_lift (outcome : Except ε α) (state : σ) :
    runFrom (liftM outcome : Action ε σ α) state = (outcome, state) := rfl

theorem runFrom_bind (action : Action ε σ α) (next : α → Action ε σ β) (state : σ) :
    runFrom (action >>= next) state =
      match runFrom action state with
      | (.ok value, middle) => runFrom (next value) middle
      | (.error cause, middle) => (.error cause, middle) := by
  rcases first : runFrom action state with ⟨result, middle⟩
  change (ExceptT.bindCont next (runFrom action state).1).run (runFrom action state).2 = _
  rw [first]
  cases result with
  | ok value => rfl
  | error cause => rfl

theorem runFrom_bind_of_ok {action : Action ε σ α} {state middle : σ} {value : α}
    (ran : runFrom action state = (.ok value, middle)) (next : α → Action ε σ β) :
    runFrom (action >>= next) state = runFrom (next value) middle := by
  rw [runFrom_bind, ran]

/-- Two runs that begin alike and go on alike from where that leads. -/
theorem runFrom_bind_congr {action other : Action ε σ α} {next further : α → Action ε σ β} {state : σ}
    (same : runFrom action state = runFrom other state)
    (goesOn : ∀ value middle, runFrom other state = (.ok value, middle) →
      runFrom (next value) middle = runFrom (further value) middle) :
    runFrom (action >>= next) state = runFrom (other >>= further) state := by
  rw [runFrom_bind, runFrom_bind, same]
  split
  · exact goesOn _ _ ‹_›
  · rfl

theorem bind_ok {outcome : Except ε α} {next : α → Except ε β} {result : β}
    (ran : outcome >>= next = .ok result) : ∃ value, outcome = .ok value ∧ next value = .ok result := by
  cases outcome with
  | error cause => cases ran
  | ok value => exact ⟨value, rfl, ran⟩

theorem bind_of_ok {outcome : Except ε α} {value : α} (ran : outcome = .ok value)
    (next : α → Except ε β) : outcome >>= next = next value := by
  rw [ran]
  rfl

theorem ok_of_toOption {outcome : Except ε α} {value : α} (found : outcome.toOption = some value) :
    outcome = .ok value := by
  cases outcome with
  | error cause => cases found
  | ok other => exact congrArg _ (Option.some.inj found)

theorem runFrom_of_toOption {action : Action ε σ α} {state after : σ} {value : α}
    (result : (runFrom action state).1.toOption = some value)
    (left : leaves action state = after) : runFrom action state = (.ok value, after) :=
  Prod.ext (ok_of_toOption result) left

/-- A run that gives something to see has succeeded. -/
theorem runFrom_of_view {action : Action ε σ α} {state : σ} {view : α → β} {seen : β}
    (result : (runFrom action state).1.toOption.map view = some seen) :
    ∃ value, runFrom action state = (.ok value, leaves action state) ∧ view value = seen := by
  obtain ⟨value, found, same⟩ := Option.map_eq_some_iff.mp result
  exact ⟨value, runFrom_of_toOption found rfl, same⟩

/-- A sequence that succeeds has a first part that succeeds and a second one that goes on. -/
theorem runFrom_bind_ok {action : Action ε σ α} {next : α → Action ε σ β} {state after : σ}
    {result : β} (ran : runFrom (action >>= next) state = (.ok result, after)) :
    ∃ value middle, runFrom action state = (.ok value, middle) ∧
      runFrom (next value) middle = (.ok result, after) := by
  rw [runFrom_bind] at ran
  cases first : runFrom action state with
  | mk outcome middle =>
      rw [first] at ran
      cases outcome with
      | ok value => exact ⟨value, middle, rfl, ran⟩
      | error cause => cases ran

theorem mapM_length {action : α → Action ε σ β} {items : List α} {results : List β}
    {state after : σ} (ran : runFrom (items.mapM action) state = (.ok results, after)) :
    results.length = items.length := by
  induction items generalizing results state with
  | nil =>
      cases ran
      rfl
  | cons item rest ih =>
      rw [List.mapM_cons] at ran
      obtain ⟨value, first, _, ran⟩ := runFrom_bind_ok ran
      obtain ⟨values, second, restRan, ran⟩ := runFrom_bind_ok ran
      cases ran
      rw [List.length_cons, List.length_cons, ih restRan]

/-- A run over items that succeeds comes to each of them. -/
theorem forM_split_ok {action : α → Action ε σ PUnit} {front back : List α} {item : α}
    {state last : σ}
    (ran : runFrom ((front ++ item :: back).forM action) state = (.ok ⟨⟩, last)) :
    ∃ there next, runFrom (front.forM action) state = (.ok ⟨⟩, there) ∧
      runFrom (action item) there = (.ok ⟨⟩, next) ∧
      runFrom (back.forM action) next = (.ok ⟨⟩, last) := by
  induction front generalizing state with
  | nil =>
      obtain ⟨_, next, here, behind⟩ := runFrom_bind_ok ran
      exact ⟨state, next, rfl, here, behind⟩
  | cons first rest ih =>
      obtain ⟨_, middle, begins, ran⟩ := runFrom_bind_ok ran
      obtain ⟨there, next, before, here, behind⟩ := ih ran
      exact ⟨there, next, (runFrom_bind_of_ok begins _).trans before, here, behind⟩

theorem forM_flatMap {action : β → Action ε σ PUnit} (parts : α → List β) (items : List α) :
    (items.flatMap parts).forM action = items.forM fun item => (parts item).forM action := by
  induction items with
  | nil => rfl
  | cons item rest ih =>
      have joined : (parts item ++ rest.flatMap parts).forM action =
          (parts item).forM action >>= fun _ => (rest.flatMap parts).forM action :=
        List.forM_append
      rw [List.flatMap_cons, joined, ih]
      rfl

/-! Relations between the states before and after -/

/-- Every run that succeeds goes from a state to a related one. -/
def Steps (related : σ → σ → Prop) (action : Action ε σ α) : Prop :=
  ∀ state value after, runFrom action state = (.ok value, after) → related state after

section
variable {related : σ → σ → Prop}

theorem steps_modify {change : σ → σ} (changes : ∀ state, related state (change state)) :
    Steps related (modify change : Action ε σ PUnit) := by
  intro state value after ran
  cases ran
  exact changes state

theorem steps_bind [IsTrans σ related] {action : Action ε σ α} {next : α → Action ε σ β}
    (first : Steps related action)
    (second : ∀ value, Steps related (next value)) : Steps related (action >>= next) := by
  intro state result after ran
  obtain ⟨value, middle, firstRan, ran⟩ := runFrom_bind_ok ran
  exact IsTrans.trans _ _ _ (first _ _ _ firstRan) (second value _ _ _ ran)

variable [Std.Refl related]

theorem steps_pure (value : α) : Steps related (pure value : Action ε σ α) := by
  intro state given after ran
  cases ran
  exact Std.Refl.refl state

theorem steps_get : Steps related (get : Action ε σ σ) := by
  intro state given after ran
  cases ran
  exact Std.Refl.refl state

/-- An outcome that is known beforehand leaves the state as it is. -/
theorem steps_lift (outcome : Except ε α) :
    Steps related (liftM outcome : Action ε σ α) := by
  intro state given after ran
  rw [runFrom_lift] at ran
  cases ran
  exact Std.Refl.refl state

variable [IsTrans σ related]

theorem steps_mapM {action : α → Action ε σ β} (each : ∀ item, Steps related (action item))
    (items : List α) : Steps related (items.mapM action) := by
  induction items with
  | nil => exact steps_pure []
  | cons item rest ih =>
      rw [List.mapM_cons]
      exact steps_bind (each item) fun value => steps_bind ih fun values => steps_pure _

/-- What each item of a run gives is related to it, whatever the runs behind it do. -/
theorem mapM_gives {action : α → Action ε σ β} (gives : α → β → Prop) {items : List α}
    {results : List β} {state last : σ} (each : ∀ item, Steps related (action item))
    (ends : ∀ item ∈ items, ∀ state value after, runFrom (action item) state = (.ok value, after) →
      related after last → gives item value)
    (ran : runFrom (items.mapM action) state = (.ok results, last)) :
    ∀ entry ∈ items.zip results, gives entry.1 entry.2 := by
  induction items generalizing state results with
  | nil => exact List.forall_mem_nil _
  | cons item rest ih =>
      rw [List.mapM_cons] at ran
      obtain ⟨value, middle, first, ran⟩ := runFrom_bind_ok ran
      obtain ⟨values, after, later, ran⟩ := runFrom_bind_ok ran
      cases ran
      have goesOn := steps_mapM each rest _ _ _ later
      exact List.forall_mem_cons.mpr ⟨ends item List.mem_cons_self _ _ _ first goesOn,
        ih (fun other member => ends other (List.mem_cons_of_mem _ member)) later⟩

theorem steps_foldlM {action : β → α → Action ε σ β}
    (each : ∀ value item, Steps related (action value item)) (items : List α) (value : β) :
    Steps related (items.foldlM action value) := by
  induction items generalizing value with
  | nil => exact steps_pure value
  | cons item rest ih =>
      rw [List.foldlM_cons]
      exact steps_bind (each value item) ih

theorem steps_forM {action : α → Action ε σ PUnit} (each : ∀ item, Steps related (action item))
    (items : List α) : Steps related (items.forM action) := by
  induction items with
  | nil => exact steps_pure _
  | cons item rest ih => exact steps_bind (each item) fun _ => ih

end

/-- Every run, however it ends, goes from a state to a related one. -/
def Moves (related : σ → σ → Prop) (action : Action ε σ α) : Prop :=
  ∀ state, related state (leaves action state)

section
variable {related : σ → σ → Prop}

theorem moves_bind [IsTrans σ related] {action : Action ε σ α} {next : α → Action ε σ β}
    (first : Moves related action) (second : ∀ value, Moves related (next value)) :
    Moves related (action >>= next) := by
  intro state
  have begins := first state
  unfold leaves at begins ⊢
  rw [runFrom_bind]
  split
  · rename_i value middle ran
    rw [ran] at begins
    exact IsTrans.trans _ _ _ begins (second value middle)
  · rename_i cause middle ran
    rwa [ran] at begins

variable [Std.Refl related]

theorem moves_pure (value : α) : Moves related (pure value : Action ε σ α) :=
  fun state => Std.Refl.refl state

theorem moves_throw (cause : ε) : Moves related (throw cause : Action ε σ α) :=
  fun state => Std.Refl.refl state

end

/-! How runs end -/

/-- What holds of a run's result and state where it succeeds, and of its state where it fails. -/
structure Ends (success : α → σ → Prop) (failure : σ → Prop) (action : Action ε σ α) (state : σ) :
    Prop where
  of_ok : ∀ {value after}, runFrom action state = (.ok value, after) → success value after
  of_error : ∀ {cause after}, runFrom action state = (.error cause, after) → failure after

section
variable {success : α → σ → Prop} {failure : σ → Prop} {action : Action ε σ α} {state : σ}
  {value : α}

theorem ends_of_ran {result : Except ε α} {after : σ} (ran : runFrom action state = (result, after))
    (good : ∀ value, result = .ok value → success value after)
    (bad : ∀ cause, result = .error cause → failure after) : Ends success failure action state := by
  constructor
  · intro value last same
    cases ran.symm.trans same
    exact good value rfl
  · intro cause last same
    cases ran.symm.trans same
    exact bad cause rfl

theorem ends_of_ok {after : σ} (ran : runFrom action state = (.ok value, after))
    (holds : success value after) : Ends success failure action state := by
  refine ends_of_ran ran (fun other same => ?_) fun cause same => ?_
  · cases same
    exact holds
  · cases same

theorem Ends.imp {others : α → σ → Prop} {worse : σ → Prop}
    (ends : Ends success failure action state)
    (good : ∀ value after, success value after → others value after)
    (bad : ∀ after, failure after → worse after) : Ends others worse action state :=
  ⟨fun ran => good _ _ (ends.of_ok ran), fun ran => bad _ (ends.of_error ran)⟩

theorem Moves.ends {related : σ → σ → Prop} {action : Action ε σ α}
    (moves : Moves related action) (state : σ) :
    Ends (fun _ after => related state after) (fun after => related state after) action state := by
  have left := moves state
  unfold leaves at left
  exact ends_of_ran rfl (fun _ _ => left) fun _ _ => left

/-- Whether or not a run succeeds, its state is as said. -/
theorem Ends.leaves {holds : σ → Prop} (ends : Ends success failure action state)
    (good : ∀ value after, success value after → holds after)
    (bad : ∀ after, failure after → holds after) : holds (leaves action state) := by
  rw [Actions.leaves]
  cases ran : runFrom action state with
  | mk result after =>
      cases result with
      | ok value => exact good value after (ends.of_ok ran)
      | error cause => exact bad after (ends.of_error ran)

theorem ends_pure (holds : success value state) :
    Ends success failure (pure value : Action ε σ α) state :=
  ends_of_ran (runFrom_pure value state) (fun _ same => Except.ok.inj same ▸ holds)
    fun _ same => nomatch same

theorem ends_throw {cause : ε} (holds : failure state) :
    Ends success failure (throw cause : Action ε σ α) state :=
  ends_of_ran (runFrom_throw cause state) (fun _ same => nomatch same) fun _ _ => holds

theorem ends_bind_of_ok {next : α → Action ε σ β} {success : β → σ → Prop} {middle : σ}
    (ran : runFrom action state = (.ok value, middle))
    (ends : Ends success failure (next value) middle) :
    Ends success failure (action >>= next) state :=
  ⟨fun same => ends.of_ok ((runFrom_bind_of_ok ran next).symm.trans same),
    fun same => ends.of_error ((runFrom_bind_of_ok ran next).symm.trans same)⟩

theorem ends_bind {next : α → Action ε σ β} {success : β → σ → Prop}
    (ends : Ends (fun value after => Ends success failure (next value) after) failure action state) :
    Ends success failure (action >>= next) state := by
  cases ran : runFrom action state with
  | mk result after =>
      have all := runFrom_bind action next state
      rw [ran] at all
      cases result with
      | ok value =>
          have later := ends.of_ok ran
          exact ⟨fun same => later.of_ok (all.symm.trans same),
            fun same => later.of_error (all.symm.trans same)⟩
      | error cause =>
          exact ends_of_ran all (fun _ same => nomatch same) fun _ _ => ends.of_error ran

end

/-! Lists that runs give -/

/-- What a run that succeeds gives rise to; one that fails gives rise to nothing. -/
def onSuccess (ran : Except ε α × σ) (items : α → σ → List β) : List β :=
  match ran with
  | (.ok value, after) => items value after
  | (.error _, _) => []

theorem onSuccess_ok (value : α) (after : σ) (items : α → σ → List β) :
    onSuccess ((.ok value, after) : Except ε α × σ) items = items value after := rfl

theorem onSuccess_holds {holds : List β → Prop} {ran : Except ε α × σ} {items : α → σ → List β}
    (nothing : holds [])
    (given : ∀ value after, ran = (.ok value, after) → holds (items value after)) :
    holds (onSuccess ran items) := by
  obtain ⟨result, after⟩ := ran
  cases result with
  | ok value => exact given value after rfl
  | error cause => exact nothing

end AspectLoom.Actions
