import Mathlib.Data.List.Forall2
import Mathlib.Tactic.Common

/-!
# Results of fallible computations

Inversion rules for the monadic steps of `Except` computations: a computation succeeds exactly
when each of its steps does.
-/

namespace Results

variable {ε α β : Type}

theorem bind_eq_ok {result : Except ε α} {next : α → Except ε β} {value : β} :
    result >>= next = .ok value ↔ ∃ middle, result = .ok middle ∧ next middle = .ok value := by
  cases result with
  | error reason => simp [bind, Except.bind]
  | ok middle => simp [bind, Except.bind]

theorem map_eq_ok {result : Except ε α} {image : α → β} {value : β} :
    result.map image = .ok value ↔ ∃ middle, result = .ok middle ∧ image middle = value := by
  cases result with
  | error reason => simp [Except.map]
  | ok middle => simp [Except.map]

theorem mapError_eq_ok {ε' : Type} {result : Except ε α} {convert : ε → ε'} {value : α} :
    result.mapError convert = .ok value ↔ result = .ok value := by
  cases result with
  | error reason => simp [Except.mapError]
  | ok middle => simp [Except.mapError]

theorem exists_of_isOk {result : Except ε α} (accepted : result.isOk = true) :
    ∃ value, result = .ok value := by
  cases result with
  | error reason => cases accepted
  | ok value => exact ⟨value, rfl⟩

/-- Succeed under a condition, and fail with an error otherwise. -/
def ensure (condition : Prop) [Decidable condition] (error : ε) : Except ε Unit :=
  if condition then .ok () else .error error

@[simp] theorem ensure_eq_ok {condition : Prop} [Decidable condition] {error : ε} {value : Unit} :
    ensure condition error = .ok value ↔ condition := by
  unfold ensure
  split_ifs with holds
  · simp [holds]
  · simp [holds]

/-- A check over a list succeeds when it succeeds on every element. -/
theorem forM_eq_ok {items : List α} {check : α → Except ε PUnit} :
    items.forM check = .ok () ↔ ∀ item ∈ items, check item = .ok () := by
  induction items with
  | nil => simp [pure, Except.pure]
  | cons item items ih =>
      rw [List.forM_eq_forM] at ih ⊢
      rw [List.forM_cons, bind_eq_ok, List.forall_mem_cons, ih]
      exact ⟨fun ⟨_, first, rest⟩ => ⟨first, rest⟩, fun ⟨first, rest⟩ => ⟨(), first, rest⟩⟩

theorem mapM_eq_ok {items : List α} {image : α → Except ε β} {results : List β} :
    items.mapM image = .ok results ↔
      List.Forall₂ (fun item result => image item = .ok result) items results := by
  induction items generalizing results with
  | nil => simp [pure, Except.pure, eq_comm]
  | cons item items ih =>
      rw [List.mapM_cons, bind_eq_ok, List.forall₂_cons_left_iff]
      constructor
      · rintro ⟨first, own, rest⟩
        obtain ⟨others, mapped, same⟩ := bind_eq_ok.mp rest
        cases same
        exact ⟨first, others, own, ih.mp mapped, rfl⟩
      · rintro ⟨first, others, own, mapped, rfl⟩
        exact ⟨first, own, bind_eq_ok.mpr ⟨others, ih.mpr mapped, rfl⟩⟩

/-- What is mapped successfully has a result for every element. -/
theorem mapM_isOk_iff {items : List α} {image : α → Except ε β} :
    (∃ results, items.mapM image = .ok results) ↔
      ∀ item ∈ items, ∃ result, image item = .ok result := by
  induction items with
  | nil => simp [pure, Except.pure]
  | cons item items ih =>
      rw [List.forall_mem_cons, ← ih]
      constructor
      · rintro ⟨results, mapped⟩
        rw [List.mapM_cons] at mapped
        obtain ⟨first, own, rest⟩ := bind_eq_ok.mp mapped
        obtain ⟨others, later, _⟩ := bind_eq_ok.mp rest
        exact ⟨⟨first, own⟩, others, later⟩
      · rintro ⟨⟨first, own⟩, others, later⟩
        refine ⟨first :: others, ?_⟩
        rw [List.mapM_cons]
        exact bind_eq_ok.mpr ⟨first, own, bind_eq_ok.mpr ⟨others, later, rfl⟩⟩

/-- What every step of a loop over a list preserves, the loop preserves. -/
theorem foldlM_preserves_mem {σ : Type} (property : σ → Prop) {step : σ → α → Except ε σ}
    {items : List α}
    (preserves : ∀ state item next, item ∈ items → property state → step state item = .ok next →
      property next)
    {start result : σ} (holds : property start) (done : items.foldlM step start = .ok result) :
    property result := by
  induction items generalizing start with
  | nil =>
      cases done
      exact holds
  | cons item items ih =>
      rw [List.foldlM_cons, bind_eq_ok] at done
      obtain ⟨middle, first, rest⟩ := done
      refine ih ?_ (preserves start item middle List.mem_cons_self holds first) rest
      intro state later next member
      exact preserves state later next (List.mem_cons_of_mem _ member)

/-- What every step of a loop preserves, the loop preserves. -/
theorem foldlM_preserves {σ : Type} (property : σ → Prop) {step : σ → α → Except ε σ}
    (preserves : ∀ state item next, property state → step state item = .ok next → property next)
    {items : List α} {start result : σ} (holds : property start)
    (done : items.foldlM step start = .ok result) : property result :=
  foldlM_preserves_mem property (fun state item next _ => preserves state item next) holds done

/-- What every possible step keeps holds after every possible run. -/
theorem foldlM_some_preserves {σ : Type} (property : σ → Prop) {step : σ → α → Option σ}
    (preserves : ∀ state item next, property state → step state item = some next → property next)
    {items : List α} {start result : σ} (holds : property start)
    (ran : items.foldlM step start = some result) : property result := by
  induction items generalizing start with
  | nil =>
      cases ran
      exact holds
  | cons item items ih =>
      rw [List.foldlM_cons, Option.bind_eq_bind, Option.bind_eq_some_iff] at ran
      obtain ⟨middle, stepped, rest⟩ := ran
      exact ih (preserves start item middle holds stepped) rest

/-- What a step of a loop establishes for its item, and later steps keep, holds of every item. -/
theorem foldlM_establishes {σ : Type} (property : σ → Prop) (established : α → σ → Prop)
    {step : σ → α → Except ε σ}
    (establishes : ∀ state item next, property state → step state item = .ok next →
      property next ∧ established item next ∧
        ∀ other, established other state → established other next)
    {items : List α} {start result : σ} (holds : property start)
    (done : items.foldlM step start = .ok result) : ∀ item ∈ items, established item result := by
  have kept (later : List α) (other : α) (state : σ) (state_holds : property state)
      (before : established other state) (rest : later.foldlM step state = .ok result) :
      established other result := by
    have both := foldlM_preserves (fun state => property state ∧ established other state)
      (fun state item next both stepped =>
        have next_holds := establishes state item next both.1 stepped
        ⟨next_holds.1, next_holds.2.2 other both.2⟩)
      ⟨state_holds, before⟩ rest
    exact both.2
  induction items generalizing start with
  | nil => simp
  | cons item items ih =>
      rw [List.foldlM_cons, bind_eq_ok] at done
      obtain ⟨middle, first, rest⟩ := done
      obtain ⟨middle_holds, own, _⟩ := establishes start item middle holds first
      rw [List.forall_mem_cons]
      exact ⟨kept items item middle middle_holds own rest, ih middle_holds rest⟩

/-! ## The first failure of a loop -/

/-- Position and error of the first failing step. -/
def firstFailure {σ : Type} (step : σ → α → Except ε σ) : σ → List α → Option (Nat × ε)
  | _, [] => none
  | state, item :: items =>
      match step state item with
      | .error error => some (0, error)
      | .ok next => (firstFailure step next items).map fun failure => (failure.1 + 1, failure.2)

/-- Loops whose steps fail alike have the same first failure. -/
theorem firstFailure_congr {σ τ : Type} {step : σ → α → Except ε σ} {other : τ → α → Except ε τ}
    (related : σ → τ → Prop)
    (agree : ∀ state other_state item, related state other_state →
      (∃ error, step state item = .error error ∧ other other_state item = .error error) ∨
      ∃ next other_next, step state item = .ok next ∧ other other_state item = .ok other_next ∧
        related next other_next)
    {state : σ} {other_state : τ} (start : related state other_state) (items : List α) :
    firstFailure step state items = firstFailure other other_state items := by
  induction items generalizing state other_state with
  | nil => rfl
  | cons item items ih =>
      rcases agree state other_state item start with
        ⟨error, failed, other_failed⟩ | ⟨next, other_next, stepped, other_stepped, again⟩
      · simp only [firstFailure, failed, other_failed]
      · simp only [firstFailure, stepped, other_stepped, ih again]

/-- The first failure is the step that fails after the items before it have gone well. -/
theorem firstFailure_eq_some {σ : Type} {step : σ → α → Except ε σ} {start : σ} {items : List α}
    {index : Nat} {error : ε} :
    firstFailure step start items = some (index, error) ↔
      ∃ item state, items[index]? = some item ∧
        (items.take index).foldlM step start = .ok state ∧ step state item = .error error := by
  induction items generalizing start index with
  | nil => simp [firstFailure]
  | cons first items ih =>
      cases stepped : step start first with
      | error reason =>
          simp only [firstFailure, stepped, Option.some.injEq, Prod.mk.injEq]
          constructor
          · rintro ⟨rfl, rfl⟩
            exact ⟨first, start, rfl, rfl, stepped⟩
          · rintro ⟨item, state, listed, before, failed⟩
            cases index with
            | zero =>
                cases listed
                cases before
                rw [stepped] at failed
                cases failed
                exact ⟨rfl, rfl⟩
            | succ index =>
                rw [List.take_succ_cons, List.foldlM_cons, stepped] at before
                cases before
      | ok next =>
          simp only [firstFailure, stepped, Option.map_eq_some_iff, Prod.mk.injEq, Prod.exists]
          constructor
          · rintro ⟨later, reason, found, rfl, rfl⟩
            obtain ⟨item, state, listed, before, failed⟩ := ih.mp found
            refine ⟨item, state, listed, ?_, failed⟩
            rw [List.take_succ_cons, List.foldlM_cons, stepped]
            exact before
          · rintro ⟨item, state, listed, before, failed⟩
            cases index with
            | zero =>
                cases listed
                cases before
                rw [stepped] at failed
                cases failed
            | succ index =>
                rw [List.take_succ_cons, List.foldlM_cons, stepped] at before
                exact ⟨index, error, ih.mpr ⟨item, state, listed, before, failed⟩, rfl, rfl⟩

/-- One more step of a loop. -/
theorem foldlM_take_succ {σ : Type} {step : σ → α → Except ε σ} {start final : σ} {items : List α}
    {index : Nat} {item : α} (listed : items[index]? = some item) :
    (items.take (index + 1)).foldlM step start = .ok final ↔
      ∃ state, (items.take index).foldlM step start = .ok state ∧ step state item = .ok final := by
  rw [List.take_add_one, listed, Option.toList_some, List.foldlM_append, bind_eq_ok]
  simp

end Results
