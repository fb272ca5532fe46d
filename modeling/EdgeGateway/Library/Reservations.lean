import EdgeGateway.Library.Results
import Mathlib.Data.List.Basic

/-!
# Reserving keys

A loop reserves one key after the other and fails on a key that is taken.  It succeeds exactly on
lists of distinct keys that nobody has taken before.
-/

namespace Reservations

variable {ε State Key : Type}

/-- A step takes its key, and it succeeds exactly when the key is free. -/
structure Reserves (taken : State → Key → Prop) (step : State → Key → Except ε State) : Prop where
  free : ∀ state key next, step state key = .ok next → ¬ taken state key
  succeeds : ∀ state key, ¬ taken state key → ∃ next, step state key = .ok next
  takes : ∀ state key next, step state key = .ok next →
    ∀ other, taken next other ↔ other = key ∨ taken state other

variable {taken : State → Key → Prop} {step : State → Key → Except ε State}

/-- What a successful loop has taken. -/
theorem Reserves.taken_foldlM (reserves : Reserves taken step) {keys : List Key}
    {start result : State} (reserved : keys.foldlM step start = .ok result) (other : Key) :
    taken result other ↔ other ∈ keys ∨ taken start other := by
  induction keys generalizing start with
  | nil =>
      cases reserved
      simp
  | cons key keys ih =>
      rw [List.foldlM_cons, Results.bind_eq_ok] at reserved
      obtain ⟨middle, first, rest⟩ := reserved
      rw [ih rest, reserves.takes start key middle first, List.mem_cons]
      tauto

theorem Reserves.foldlM_isOk_iff (reserves : Reserves taken step) (keys : List Key)
    (start : State) :
    (∃ result, keys.foldlM step start = .ok result) ↔
      keys.Nodup ∧ ∀ key ∈ keys, ¬ taken start key := by
  induction keys generalizing start with
  | nil => simp [pure, Except.pure]
  | cons key keys ih =>
      rw [List.nodup_cons, List.forall_mem_cons]
      constructor
      · rintro ⟨result, reserved⟩
        rw [List.foldlM_cons, Results.bind_eq_ok] at reserved
        obtain ⟨middle, first, rest⟩ := reserved
        obtain ⟨distinct, free⟩ := (ih middle).mp ⟨result, rest⟩
        have takes := reserves.takes start key middle first
        refine ⟨⟨fun again => free key again ((takes key).mpr (.inl rfl)), distinct⟩,
          reserves.free start key middle first, ?_⟩
        exact fun other member before => free other member ((takes other).mpr (.inr before))
      · rintro ⟨⟨once, distinct⟩, free, free_rest⟩
        obtain ⟨middle, first⟩ := reserves.succeeds start key free
        have free_middle : ∀ other ∈ keys, ¬ taken middle other := by
          intro other member before
          rcases (reserves.takes start key middle first other).mp before with rfl | before
          · exact once member
          · exact free_rest other member before
        obtain ⟨result, rest⟩ := (ih middle).mpr ⟨distinct, free_middle⟩
        refine ⟨result, ?_⟩
        rw [List.foldlM_cons, Results.bind_eq_ok]
        exact ⟨middle, first, rest⟩

end Reservations
