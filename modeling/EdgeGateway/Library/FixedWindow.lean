import Mathlib.Tactic.Common

/-!
# Counters over fixed windows

A counter counts hits in a window of fixed length; the first hit behind the window starts a new
one.  Within a span shorter than the window at most one restart happens, so twice the limit less
one hits bring the counter to its limit, wherever the span begins.
-/

namespace FixedWindow

/-- Hits since the start of the current window. -/
structure Counter where
  since : Nat
  count : Nat

/-- One more hit; behind the window it starts a new one. -/
def Counter.hit (period : Nat) (counter : Counter) (now : Nat) : Counter :=
  if period ≤ now - counter.since then ⟨now, 1⟩ else ⟨counter.since, counter.count + 1⟩

/-- A counter below its limit after some hits, the first of which was not before an instant: it
has counted all of them, or those since its only restart. -/
structure Below (limit first hits : Nat) (counter : Counter) : Prop where
  below : counter.count < limit
  counted : hits ≤ counter.count ∨ (first ≤ counter.since ∧ hits < limit + counter.count)

variable {limit period first hits now : Nat} {counter : Counter}

/-- Whatever the counter was, the first hit counts. -/
theorem below_first (later : first ≤ now) (below : (counter.hit period now).count < limit) :
    Below limit first 1 (counter.hit period now) := by
  refine ⟨below, ?_⟩
  unfold Counter.hit at below ⊢
  split_ifs at below ⊢ with expired
  · exact .inr ⟨later, Nat.lt_add_right 1 below⟩
  · exact .inl (Nat.le_add_left 1 _)

/-- A hit within the span of the first one restarts the counter at most once. -/
theorem Below.hit (before : Below limit first hits counter) (later : first ≤ now)
    (within : now < first + period) (below : (counter.hit period now).count < limit) :
    Below limit first (hits + 1) (counter.hit period now) := by
  refine ⟨below, ?_⟩
  obtain ⟨under, counted⟩ := before
  unfold Counter.hit at below ⊢
  split_ifs at below ⊢ with expired
  · right
    refine ⟨later, ?_⟩
    dsimp only
    rcases counted with all | ⟨restarted, _⟩
    · omega
    · omega
  · dsimp only
    rcases counted with all | ⟨restarted, few⟩
    · exact .inl (Nat.succ_le_succ all)
    · exact .inr ⟨restarted, by omega⟩

/-- Fewer than twice the limit less one hits leave a counter below its limit. -/
theorem Below.hits_lt (below : Below limit first hits counter) : hits + 1 < 2 * limit := by
  obtain ⟨under, counted⟩ := below
  omega

end FixedWindow
