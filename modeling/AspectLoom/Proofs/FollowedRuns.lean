import AspectLoom.Proofs.Actions
/-!
Two actions of which one does what the other does. A run is compared only where it ends in a state that is
clear, so what has to be clear can be told by what the run has come across.
-/
namespace AspectLoom.Actions

variable {ε σ α β : Type}

/-- Every run of the first action that succeeds is one of the second too, when it leaves a clear state.
Such a run began in a clear state, and it keeps an invariant. -/
def Follows (invariant clear : σ → Prop) (first second : Action ε σ α) : Prop :=
  ∀ state value after, invariant state → runFrom first state = (.ok value, after) →
    invariant after ∧ (clear after → clear state ∧ runFrom second state = (.ok value, after))

variable {invariant clear : σ → Prop}

theorem follows_pure (value : α) :
    Follows invariant clear (pure value : Action ε σ α) (pure value) := by
  intro state given after held ran
  cases ran
  exact ⟨held, fun isClear => ⟨isClear, rfl⟩⟩

theorem follows_get : Follows invariant clear (get : Action ε σ σ) get := by
  intro state given after held ran
  cases ran
  exact ⟨held, fun isClear => ⟨isClear, rfl⟩⟩

theorem follows_modify {change : σ → σ} (kept : ∀ state, invariant state → invariant (change state))
    (back : ∀ state, clear (change state) → clear state) :
    Follows invariant clear (modify change : Action ε σ PUnit) (modify change) := by
  intro state given after held ran
  cases ran
  exact ⟨kept _ held, fun isClear => ⟨back _ isClear, rfl⟩⟩

theorem follows_lift (outcome : Except ε α) :
    Follows invariant clear (liftM outcome : Action ε σ α) (liftM outcome) := by
  intro state given after held ran
  rw [runFrom_lift] at ran ⊢
  cases ran
  exact ⟨held, fun isClear => ⟨isClear, rfl⟩⟩

theorem follows_bind {first second : Action ε σ α} {next later : α → Action ε σ β}
    (begins : Follows invariant clear first second)
    (goesOn : ∀ value, Follows invariant clear (next value) (later value)) :
    Follows invariant clear (first >>= next) (second >>= later) := by
  intro state result after held ran
  obtain ⟨value, middle, firstRan, ran⟩ := runFrom_bind_ok ran
  obtain ⟨heldMiddle, begun⟩ := begins _ _ _ held firstRan
  obtain ⟨heldAfter, ended⟩ := goesOn value _ _ _ heldMiddle ran
  refine ⟨heldAfter, fun isClear => ?_⟩
  obtain ⟨clearMiddle, secondRan⟩ := ended isClear
  obtain ⟨clearState, firstAgain⟩ := begun clearMiddle
  exact ⟨clearState, (runFrom_bind_of_ok firstAgain later).trans secondRan⟩

theorem follows_mapM {first second : α → Action ε σ β} {items : List α}
    (each : ∀ item ∈ items, Follows invariant clear (first item) (second item)) :
    Follows invariant clear (items.mapM first) (items.mapM second) := by
  induction items with
  | nil => exact follows_pure []
  | cons item rest ih =>
      obtain ⟨here, others⟩ := List.forall_mem_cons.mp each
      rw [List.mapM_cons, List.mapM_cons]
      exact follows_bind here fun value => follows_bind (ih others) fun values => follows_pure _

theorem follows_foldlM {first second : β → α → Action ε σ β} {items : List α}
    (each : ∀ value, ∀ item ∈ items, Follows invariant clear (first value item) (second value item))
    (value : β) : Follows invariant clear (items.foldlM first value) (items.foldlM second value) := by
  induction items generalizing value with
  | nil => exact follows_pure value
  | cons item rest ih =>
      rw [List.foldlM_cons, List.foldlM_cons]
      exact follows_bind (each value item List.mem_cons_self)
        (ih fun value other member => each value other (List.mem_cons_of_mem _ member))

theorem follows_forM {first second : α → Action ε σ PUnit} {items : List α}
    (each : ∀ item ∈ items, Follows invariant clear (first item) (second item)) :
    Follows invariant clear (items.forM first) (items.forM second) := by
  induction items with
  | nil => exact follows_pure _
  | cons item rest ih =>
      obtain ⟨here, others⟩ := List.forall_mem_cons.mp each
      exact follows_bind here fun _ => ih others

end AspectLoom.Actions
