/-! Computations that may fail, with or without a state that survives the
failure: what a sequence of two gives, and what is known once it succeeded. -/
namespace Shapefile

theorem ok_bind {ε α β : Type} (value : α) (next : α → Except ε β) :
    (.ok value >>= next) = next value := rfl

/-- The first step of a computation that succeeds, and the rest of it. -/
theorem bind_eq_ok {ε α β : Type} {first : Except ε α} {next : α → Except ε β} {result : β}
    (hBoth : (first >>= next) = .ok result) :
    ∃ value, first = .ok value ∧ next value = .ok result := by
  cases first with
  | error e => cases hBoth
  | ok value => exact ⟨value, rfl, hBoth⟩

/-- The result behind one that was changed, if that is there. -/
theorem map_eq_ok {ε α β : Type} {result : Except ε α} {change : α → β} {changed : β}
    (hOk : result.map change = .ok changed) :
    ∃ value, result = .ok value ∧ change value = changed := by
  cases result with
  | error e => cases hOk
  | ok value =>
      cases hOk
      exact ⟨value, rfl, rfl⟩

theorem mapError_ok {ε ε' α : Type} {result : Except ε α} {change : ε → ε'} {value : α}
    (hOk : result.mapError change = .ok value) : result = .ok value := by
  cases result with
  | error e => cases hOk
  | ok other =>
      cases hOk
      rfl

theorem mapError_error {ε ε' α : Type} {result : Except ε α} {change : ε → ε'} {e : ε'}
    (hError : result.mapError change = .error e) : ∃ cause, e = change cause := by
  cases result with
  | error cause =>
      cases hError
      exact ⟨cause, rfl⟩
  | ok value => cases hError

/-- What a computation gives for each item of a list on which it succeeds. -/
theorem mapM_eq_ok {ε α β : Type} {items : List α} {f : α → Except ε β} {results : List β}
    (hAll : items.mapM f = .ok results) :
    results.length = items.length ∧
      ∀ (i : Nat) item, items[i]? = some item → ∃ result, f item = .ok result ∧
        results[i]? = some result := by
  induction items generalizing results with
  | nil =>
      cases hAll
      exact ⟨rfl, nofun⟩
  | cons first items ih =>
      rw [List.mapM_cons] at hAll
      obtain ⟨result, hFirst, hRest⟩ := bind_eq_ok hAll
      obtain ⟨others, hOthers, hSame⟩ := bind_eq_ok hRest
      cases hSame
      obtain ⟨hLength, hEach⟩ := ih hOthers
      refine ⟨congrArg (· + 1) hLength, fun i item hItem => ?_⟩
      cases i with
      | zero =>
          cases hItem
          exact ⟨result, hFirst, rfl⟩
      | succ i => exact hEach i item hItem

/-- A computation for each item depends on nothing but the items. -/
theorem mapM_congr {ε α β : Type} {items : List α} {f g : α → Except ε β}
    (hSame : ∀ item ∈ items, f item = g item) : items.mapM f = items.mapM g := by
  induction items with
  | nil => rfl
  | cons first items ih =>
      rw [List.mapM_cons, List.mapM_cons, hSame first List.mem_cons_self,
        ih fun item hItem => hSame item (List.mem_cons_of_mem first hItem)]

/-- A computation that succeeds for each item of a list. -/
theorem mapM_eq_map {ε α β : Type} {items : List α} {f : α → Except ε β} {g : α → β}
    (hSame : ∀ item ∈ items, f item = .ok (g item)) : items.mapM f = .ok (items.map g) := by
  rw [mapM_congr hSame]
  exact List.mapM_pure

/-- A loop of steps that succeed for each item of a list. -/
theorem foldlM_eq_foldl {ε σ α : Type} {items : List α} {step : σ → α → Except ε σ}
    {plain : σ → α → σ} (hSame : ∀ item ∈ items, ∀ state, step state item = .ok (plain state item))
    (state : σ) : items.foldlM step state = .ok (items.foldl plain state) := by
  induction items generalizing state with
  | nil => rfl
  | cons first items ih =>
      rw [List.foldlM_cons, hSame first List.mem_cons_self, ok_bind, List.foldl_cons]
      exact ih (fun item hItem => hSame item (List.mem_cons_of_mem first hItem)) _

section Running

variable {ε σ α β : Type}

/-- What an operation gives from a state, and the state it leaves. -/
def runOn (program : ExceptT ε (StateM σ) α) (state : σ) :
    Except ε α × σ :=
  program.run.run state

theorem runOn_bind (program : ExceptT ε (StateM σ) α)
    (next : α → ExceptT ε (StateM σ) β) (state : σ) :
    runOn (program >>= next) state =
      match runOn program state with
      | (.ok value, state) => runOn (next value) state
      | (.error e, state) => (.error e, state) := by
  simp only [runOn, ExceptT.run_bind, StateT.run_bind]
  rcases StateT.run program.run state with ⟨_ | _, _⟩
  · rfl
  · rfl

@[simp] theorem runOn_pure (value : α) (state : σ) :
    runOn (pure value : ExceptT ε (StateM σ) α) state = (.ok value, state) := rfl

@[simp] theorem runOn_throw (e : ε) (state : σ) :
    runOn (throw e : ExceptT ε (StateM σ) α) state = (.error e, state) := rfl

@[simp] theorem runOn_get (state : σ) :
    runOn (get : ExceptT ε (StateM σ) σ) state = (.ok state, state) := rfl

@[simp] theorem runOn_set (state next : σ) :
    runOn (set next : ExceptT ε (StateM σ) PUnit) state = (.ok ⟨⟩, next) := rfl

@[simp] theorem runOn_modify (change : σ → σ) (state : σ) :
    runOn (modify change : ExceptT ε (StateM σ) PUnit) state =
      (.ok ⟨⟩, change state) := rfl

@[simp] theorem runOn_modifyGet (change : σ → α × σ) (state : σ) :
    runOn (modifyGet change : ExceptT ε (StateM σ) α) state =
      (.ok (change state).1, (change state).2) := rfl

@[simp] theorem runOn_lift (result : Except ε α) (state : σ) :
    runOn (liftM result : ExceptT ε (StateM σ) α) state = (result, state) := by
  cases result with
  | error e => rfl
  | ok value => rfl

/-- The first step of an operation that succeeds, and the rest of it. -/
theorem runOn_bind_ok {program : ExceptT ε (StateM σ) α}
    {next : α → ExceptT ε (StateM σ) β} {state last : σ} {result : β}
    (hBoth : runOn (program >>= next) state = (.ok result, last)) :
    ∃ value middle, runOn program state = (.ok value, middle) ∧
      runOn (next value) middle = (.ok result, last) := by
  rw [runOn_bind] at hBoth
  rcases hFirst : runOn program state with ⟨e | value, middle⟩
  · rw [hFirst] at hBoth
    cases hBoth
  · rw [hFirst] at hBoth
    exact ⟨value, middle, rfl, hBoth⟩

/-- An operation that fails does so in its first step or in the rest of it. -/
theorem runOn_bind_error {program : ExceptT ε (StateM σ) α}
    {next : α → ExceptT ε (StateM σ) β} {state last : σ} {e : ε}
    (hBoth : runOn (program >>= next) state = (.error e, last)) :
    runOn program state = (.error e, last) ∨
      ∃ value middle, runOn program state = (.ok value, middle) ∧
        runOn (next value) middle = (.error e, last) := by
  rw [runOn_bind] at hBoth
  rcases hFirst : runOn program state with ⟨other | value, middle⟩
  · rw [hFirst] at hBoth
    cases hBoth
    exact Or.inl rfl
  · rw [hFirst] at hBoth
    exact Or.inr ⟨value, middle, rfl, hBoth⟩

end Running

end Shapefile
