import Mathlib.Algebra.Order.BigOperators.Group.List
import Mathlib.Algebra.Order.Ring.Nat
import Mathlib.Data.List.Nodup
import Mathlib.Data.List.Perm.Basic
import Mathlib.Data.Set.Card
import Mathlib.Logic.Function.Basic

/-!
# Shared ownership

Values that counted pointers keep alive, and permits of semaphores that go back with what owns
them.  A value is made of permits and of pointers to other values; it goes with the last pointer to
it, and what it is made of goes with it.  All other handles are held at places: the tasks, the
messages and the bodies of a program.
-/

namespace SharedOwnership

/-- What can be held: a permit of a semaphore, or a pointer to a shared value. -/
inductive Handle (Semaphore Value : Type)
  | permit (semaphore : Semaphore)
  | pointer (value : Value)
deriving DecidableEq

/-- What the shared values are made of.  A value points to values of a lesser depth only. -/
structure Layout (Semaphore Value : Type) where
  contents : Value → List (Handle Semaphore Value)
  depth : Value → Nat
  descends : ∀ {value inner}, .pointer inner ∈ contents value → depth inner < depth value

/-- The free permits, the values that are alive and the number of pointers to each. -/
structure Heap (Semaphore Value : Type) where
  available : Semaphore → Nat
  alive : List Value
  strong : Value → Nat

variable {Semaphore Value Place : Type} {layout : Layout Semaphore Value}

/-- Nothing has been handed out. -/
def Heap.initial (capacity : Semaphore → Nat) : Heap Semaphore Value :=
  ⟨capacity, [], fun _ => 0⟩

/-- The handle stays within a depth. -/
def Layout.Within (layout : Layout Semaphore Value) (limit : Nat) :
    Handle Semaphore Value → Prop
  | .permit _ => True
  | .pointer value => layout.depth value < limit

/-- One handle leads to another one, through what values are made of. -/
inductive Layout.Leads (layout : Layout Semaphore Value) :
    Handle Semaphore Value → Handle Semaphore Value → Prop
  | refl (handle) : Leads layout handle handle
  | inside {value inner target} : inner ∈ layout.contents value → Leads layout inner target →
      Leads layout (.pointer value) target

/-- What leads to a value leads to what the value is made of. -/
theorem Layout.Leads.snoc {source inner : Handle Semaphore Value} {value : Value}
    (leads : layout.Leads source (.pointer value)) (made : inner ∈ layout.contents value) :
    layout.Leads source inner := by
  generalize same : Handle.pointer value = target at leads
  induction leads with
  | refl =>
      subst same
      exact .inside made (.refl _)
  | inside first _ ih => exact .inside first (ih same)

namespace Heap

variable [DecidableEq Semaphore] [DecidableEq Value]

/-- Give a permit back. -/
def release (heap : Heap Semaphore Value) (semaphore : Semaphore) : Heap Semaphore Value :=
  { heap with
    available := Function.update heap.available semaphore (heap.available semaphore + 1) }

/-- Take a permit, if there is one. -/
def tryAcquire (heap : Heap Semaphore Value) (semaphore : Semaphore) :
    Option (Heap Semaphore Value) :=
  if heap.available semaphore = 0 then none
  else some { heap with
    available := Function.update heap.available semaphore (heap.available semaphore - 1) }

/-- Make a value, with one pointer to it. -/
def allocate (heap : Heap Semaphore Value) (value : Value) : Heap Semaphore Value :=
  { heap with
    alive := value :: heap.alive
    strong := Function.update heap.strong value 1 }

/-- Copy a pointer. -/
def share (heap : Heap Semaphore Value) (value : Value) : Heap Semaphore Value :=
  { heap with strong := Function.update heap.strong value (heap.strong value + 1) }

/-- The last pointer to a value goes. -/
def free (heap : Heap Semaphore Value) (value : Value) : Heap Semaphore Value :=
  { heap with
    alive := heap.alive.erase value
    strong := Function.update heap.strong value 0 }

/-- Drop a handle, and with the last pointer to a value all that the value is made of. -/
def drop (layout : Layout Semaphore Value) :
    Nat → Heap Semaphore Value → Handle Semaphore Value → Heap Semaphore Value
  | _, heap, .permit semaphore => heap.release semaphore
  | 0, heap, .pointer _ => heap
  | limit + 1, heap, .pointer value =>
      if heap.strong value = 1 then
        (layout.contents value).foldl (drop layout limit) (heap.free value)
      else { heap with strong := Function.update heap.strong value (heap.strong value - 1) }

/-- All handles: those that are held, and those inside the values that are alive. -/
def owned (layout : Layout Semaphore Value) (heap : Heap Semaphore Value)
    (held : List (Handle Semaphore Value)) : List (Handle Semaphore Value) :=
  held ++ heap.alive.flatMap layout.contents

/-- No permit and no pointer is lost or counted twice. -/
structure Exact (layout : Layout Semaphore Value) (capacity : Semaphore → Nat)
    (heap : Heap Semaphore Value) (held : List (Handle Semaphore Value)) : Prop where
  permits : ∀ semaphore,
    heap.available semaphore + (heap.owned layout held).count (.permit semaphore) =
      capacity semaphore
  pointers : ∀ value, heap.strong value = (heap.owned layout held).count (.pointer value)
  alive : ∀ value, value ∈ heap.alive ↔ heap.strong value ≠ 0
  nodup : heap.alive.Nodup

section Exactness

variable {heap next : Heap Semaphore Value} {held others : List (Handle Semaphore Value)}
  {handle : Handle Semaphore Value} {capacity : Semaphore → Nat} {semaphore : Semaphore}
  {value : Value}

theorem count_owned :
    (heap.owned layout held).count handle =
      held.count handle + (heap.alive.flatMap layout.contents).count handle := by
  rw [owned, List.count_append]

theorem exact_initial (capacity : Semaphore → Nat) :
    Exact layout capacity (initial capacity) [] where
  permits _ := rfl
  pointers _ := rfl
  alive _ := by simp [initial]
  nodup := List.nodup_nil

/-- Only what is held counts, not the order. -/
theorem Exact.perm (exact : Exact layout capacity heap held) (same : held.Perm others) :
    Exact layout capacity heap others where
  permits semaphore := by
    rw [← exact.permits semaphore, count_owned, count_owned, same.count_eq]
  pointers value := by
    rw [exact.pointers value, count_owned, count_owned, same.count_eq]
  alive := exact.alive
  nodup := exact.nodup

theorem Exact.alive_of_held (exact : Exact layout capacity heap held)
    (held_pointer : .pointer value ∈ held) : value ∈ heap.alive := by
  rw [exact.alive, exact.pointers, count_owned]
  have some_pointer := List.count_pos_iff.mpr held_pointer
  omega

theorem Exact.tryAcquire (exact : Exact layout capacity heap held)
    (acquired : heap.tryAcquire semaphore = some next) :
    Exact layout capacity next (.permit semaphore :: held) := by
  unfold Heap.tryAcquire at acquired
  split_ifs at acquired with none_left
  cases acquired
  refine ⟨fun other => ?_, fun value => ?_, exact.alive, exact.nodup⟩
  · have before := exact.permits other
    rw [count_owned] at before ⊢
    by_cases same : other = semaphore
    · subst same
      simp only [Function.update_self, List.count_cons_self]
      omega
    · simp only [Function.update_of_ne same]
      rw [List.count_cons_of_ne (by simpa using Ne.symm same)]
      exact before
  · have before := exact.pointers value
    rw [count_owned] at before ⊢
    rw [List.count_cons_of_ne (by simp)]
    exact before

theorem Exact.release (exact : Exact layout capacity heap (.permit semaphore :: held)) :
    Exact layout capacity (heap.release semaphore) held := by
  refine ⟨fun other => ?_, fun value => ?_, exact.alive, exact.nodup⟩
  · have before := exact.permits other
    rw [count_owned] at before ⊢
    by_cases same : other = semaphore
    · subst same
      rw [List.count_cons_self] at before
      simp only [Heap.release, Function.update_self]
      omega
    · rw [List.count_cons_of_ne (by simpa using Ne.symm same)] at before
      simp only [Heap.release, Function.update_of_ne same]
      exact before
  · have before := exact.pointers value
    rw [count_owned, List.count_cons_of_ne (by simp)] at before
    rw [count_owned]
    exact before

/-- A new value owns what it is made of. -/
theorem Exact.allocate (exact : Exact layout capacity heap (layout.contents value ++ held))
    (fresh : heap.strong value = 0) :
    Exact layout capacity (heap.allocate value) (.pointer value :: held) := by
  have moved (handle : Handle Semaphore Value) :
      ((heap.allocate value).owned layout (.pointer value :: held)).count handle =
        (heap.owned layout (layout.contents value ++ held)).count handle +
          if .pointer value = handle then 1 else 0 := by
    simp only [owned, Heap.allocate, List.flatMap_cons, List.count_append, List.count_cons,
      beq_iff_eq]
    omega
  refine ⟨fun semaphore => ?_, fun other => ?_, fun other => ?_, ?_⟩
  · rw [moved, if_neg (by simp), Nat.add_zero]
    exact exact.permits semaphore
  · rw [moved, ← exact.pointers]
    by_cases same : other = value
    · subst same
      simp [Heap.allocate, fresh]
    · simp [Heap.allocate, same, Ne.symm same]
  · by_cases same : other = value
    · subst same
      simp [Heap.allocate]
    · simp [Heap.allocate, same, exact.alive]
  · refine List.nodup_cons.mpr ⟨?_, exact.nodup⟩
    rw [exact.alive, fresh]
    exact absurd rfl

theorem Exact.share (exact : Exact layout capacity heap held)
    (shared : .pointer value ∈ held) :
    Exact layout capacity (heap.share value) (.pointer value :: held) := by
  have moved (handle : Handle Semaphore Value) :
      ((heap.share value).owned layout (.pointer value :: held)).count handle =
        (heap.owned layout held).count handle + if .pointer value = handle then 1 else 0 := by
    simp only [owned, Heap.share, List.count_append, List.count_cons, beq_iff_eq]
    omega
  have alive := (exact.alive value).mp (exact.alive_of_held shared)
  refine ⟨fun semaphore => ?_, fun other => ?_, fun other => ?_, exact.nodup⟩
  · rw [moved, if_neg (by simp), Nat.add_zero]
    exact exact.permits semaphore
  · rw [moved, ← exact.pointers]
    by_cases same : other = value
    · subst same
      simp [Heap.share]
    · simp [Heap.share, same, Ne.symm same]
  · by_cases same : other = value
    · subst same
      simp [Heap.share, exact.alive, alive]
    · simp [Heap.share, same, exact.alive]

/-- With the last pointer to a value, what it is made of is left over. -/
theorem Exact.free (exact : Exact layout capacity heap (.pointer value :: held))
    (last : heap.strong value = 1) :
    Exact layout capacity (heap.free value) (layout.contents value ++ held) := by
  have present : value ∈ heap.alive := exact.alive_of_held List.mem_cons_self
  have parted := (List.perm_cons_erase present).flatMap_right layout.contents
  have moved (handle : Handle Semaphore Value) :
      ((heap.free value).owned layout (layout.contents value ++ held)).count handle +
          (if .pointer value = handle then 1 else 0) =
        (heap.owned layout (.pointer value :: held)).count handle := by
    simp only [owned, Heap.free, List.count_append, List.count_cons, parted.count_eq,
      List.flatMap_cons, beq_iff_eq]
    omega
  refine ⟨fun semaphore => ?_, fun other => ?_, fun other => ?_, exact.nodup.erase value⟩
  · have before := exact.permits semaphore
    rw [← moved, if_neg (by simp), Nat.add_zero] at before
    exact before
  · have before := exact.pointers other
    rw [← moved] at before
    by_cases same : other = value
    · subst same
      rw [if_pos rfl, last] at before
      simp only [Heap.free, Function.update_self] at before ⊢
      omega
    · rw [if_neg (by simpa using Ne.symm same)] at before
      simpa [Heap.free, same] using before
  · by_cases same : other = value
    · subst same
      simp [Heap.free, exact.nodup.not_mem_erase]
    · simp [Heap.free, same, List.mem_erase_of_ne same, exact.alive]

/-- One pointer of several goes. -/
theorem Exact.unshare (exact : Exact layout capacity heap (.pointer value :: held))
    (more : heap.strong value ≠ 1) :
    Exact layout capacity
      { heap with strong := Function.update heap.strong value (heap.strong value - 1) } held := by
  have present := (exact.alive value).mp (exact.alive_of_held List.mem_cons_self)
  refine ⟨fun semaphore => ?_, fun other => ?_, fun other => ?_, exact.nodup⟩
  · have before := exact.permits semaphore
    rw [count_owned, List.count_cons_of_ne (by simp)] at before
    rw [count_owned]
    exact before
  · have before := exact.pointers other
    rw [count_owned] at before ⊢
    by_cases same : other = value
    · subst same
      rw [List.count_cons_self] at before
      simp only [Function.update_self]
      omega
    · rw [List.count_cons_of_ne (by simpa using Ne.symm same)] at before
      simp only [Function.update_of_ne same]
      exact before
  · by_cases same : other = value
    · subst same
      simp only [Function.update_self, exact.alive]
      omega
    · simp only [Function.update_of_ne same, exact.alive]

/-- If each handle can be dropped, so can all, one after the other. -/
theorem Exact.drops {handles : List (Handle Semaphore Value)}
    {step : Heap Semaphore Value → Handle Semaphore Value → Heap Semaphore Value}
    (exact : Exact layout capacity heap (handles ++ held))
    (drops : ∀ handle ∈ handles, ∀ {heap held}, Exact layout capacity heap (handle :: held) →
      Exact layout capacity (step heap handle) held) :
    Exact layout capacity (handles.foldl step heap) held := by
  induction handles generalizing heap with
  | nil => exact exact
  | cons first handles ih =>
      exact ih (drops first List.mem_cons_self exact) fun handle later =>
        drops handle (List.mem_cons_of_mem first later)

/-- A dropped handle takes with it all that it alone kept alive, and nothing else. -/
theorem Exact.drop {limit : Nat} (exact : Exact layout capacity heap (handle :: held))
    (within : layout.Within limit handle) :
    Exact layout capacity (heap.drop layout limit handle) held := by
  induction limit generalizing heap handle held with
  | zero =>
      cases handle with
      | permit semaphore => exact exact.release
      | pointer value => exact absurd within (Nat.not_lt_zero _)
  | succ limit ih =>
      cases handle with
      | permit semaphore => exact exact.release
      | pointer value =>
          rw [Heap.drop]
          split_ifs with last
          · -- What a value is made of is dropped one by one, each within the smaller depth.
            refine (exact.free last).drops fun inner made {_ _} exact => ih exact ?_
            cases inner with
            | permit semaphore => trivial
            | pointer inner =>
                exact Nat.lt_of_lt_of_le (layout.descends made) (Nat.le_of_lt_succ within)
          · exact exact.unshare last

/-- What leads from a handle that exists exists. -/
theorem Exact.owned_of_leads {source target : Handle Semaphore Value}
    (exact : Exact layout capacity heap held) (leads : layout.Leads source target)
    (present : source ∈ heap.owned layout held) : target ∈ heap.owned layout held := by
  induction leads with
  | refl => exact present
  | @inside value inner target made _ ih =>
      apply ih
      have alive : value ∈ heap.alive := by
        rw [exact.alive, exact.pointers]
        exact (List.count_pos_iff.mpr present).ne'
      exact List.mem_append_right _ (List.mem_flatMap.mpr ⟨value, alive, made⟩)

/-- The values that are alive are those to which a handle that is held leads. -/
theorem Exact.alive_iff (exact : Exact layout capacity heap held) :
    value ∈ heap.alive ↔ ∃ handle ∈ held, layout.Leads handle (.pointer value) := by
  constructor
  · -- What points to a value is deeper, and no value is deeper than the deepest one.
    obtain ⟨deepest, bounded⟩ : ∃ deepest, ∀ other ∈ heap.alive, layout.depth other ≤ deepest :=
      ⟨(heap.alive.map layout.depth).sum, fun other member =>
        List.single_le_sum (fun _ _ => Nat.zero_le _) _ (List.mem_map_of_mem member)⟩
    refine (measure fun other => deepest - layout.depth other).wf.induction
      (C := fun value => value ∈ heap.alive →
        ∃ handle ∈ held, layout.Leads handle (.pointer value)) value ?_
    intro value ih alive
    have counted := (exact.alive value).mp alive
    rw [exact.pointers, ← Nat.pos_iff_ne_zero, List.count_pos_iff] at counted
    rcases List.mem_append.mp counted with own | inside
    · exact ⟨_, own, .refl _⟩
    · obtain ⟨owner, present, made⟩ := List.mem_flatMap.mp inside
      have deeper := layout.descends made
      have bound := bounded owner present
      have nearer : deepest - layout.depth owner < deepest - layout.depth value := by omega
      obtain ⟨handle, member, leads⟩ := ih owner nearer present
      exact ⟨handle, member, leads.snoc made⟩
  · rintro ⟨handle, member, leads⟩
    have present := exact.owned_of_leads leads (List.mem_append_left _ member)
    rw [exact.alive, exact.pointers]
    exact (List.count_pos_iff.mpr present).ne'

end Exactness

end Heap

/-! ## Places -/

/-- A depth that the handle stays within. -/
def Layout.reach (layout : Layout Semaphore Value) : Handle Semaphore Value → Nat
  | .permit _ => 0
  | .pointer value => layout.depth value + 1

theorem Layout.within_reach (layout : Layout Semaphore Value) (handle : Handle Semaphore Value) :
    layout.Within (layout.reach handle) handle := by
  cases handle with
  | permit semaphore => trivial
  | pointer value => exact Nat.lt_succ_self _

/-- A heap, and the handles that the places of a program hold. -/
structure Store (Place Semaphore Value : Type) where
  heap : Heap Semaphore Value
  held : List (Place × Handle Semaphore Value)

namespace Store

variable [DecidableEq Semaphore] [DecidableEq Value] [DecidableEq Place]

/-- Nothing is held. -/
def initial (capacity : Semaphore → Nat) : Store Place Semaphore Value :=
  ⟨.initial capacity, []⟩

/-- What a place holds. -/
def handles (store : Store Place Semaphore Value) (place : Place) :
    List (Handle Semaphore Value) :=
  (store.held.filter fun entry => entry.1 = place).map Prod.snd

/-- What all places but one hold. -/
def elsewhere (store : Store Place Semaphore Value) (place : Place) :
    List (Place × Handle Semaphore Value) :=
  store.held.filter fun entry => !decide (entry.1 = place)

/-- Take a permit to a place, if there is one. -/
def tryAcquire (store : Store Place Semaphore Value) (place : Place) (semaphore : Semaphore) :
    Option (Store Place Semaphore Value) :=
  (store.heap.tryAcquire semaphore).map fun heap =>
    ⟨heap, (place, .permit semaphore) :: store.held⟩

/-- Make a value of what a place holds. -/
def wrap (store : Store Place Semaphore Value) (place : Place) (value : Value) :
    Store Place Semaphore Value :=
  ⟨store.heap.allocate value, (place, .pointer value) :: store.elsewhere place⟩

/-- Copy a pointer to a place. -/
def share (store : Store Place Semaphore Value) (place : Place) (value : Value) :
    Store Place Semaphore Value :=
  ⟨store.heap.share value, (place, .pointer value) :: store.held⟩

/-- Move what a place holds to another place. -/
def move (store : Store Place Semaphore Value) (source target : Place) :
    Store Place Semaphore Value where
  heap := store.heap
  held := (store.handles source).map (fun handle => (target, handle)) ++ store.elsewhere source

/-- Move one handle to another place. -/
def transfer (store : Store Place Semaphore Value) (source target : Place)
    (handle : Handle Semaphore Value) : Store Place Semaphore Value :=
  ⟨store.heap, (target, handle) :: store.held.erase (source, handle)⟩

/-- A place drops a handle. -/
def drop (layout : Layout Semaphore Value) (store : Store Place Semaphore Value) (place : Place)
    (handle : Handle Semaphore Value) : Store Place Semaphore Value :=
  ⟨store.heap.drop layout (layout.reach handle) handle, store.held.erase (place, handle)⟩

/-- A place drops some of its handles, one after the other. -/
def discard (layout : Layout Semaphore Value) (store : Store Place Semaphore Value)
    (place : Place) (handles : List (Handle Semaphore Value)) : Store Place Semaphore Value :=
  handles.foldl (fun store handle => store.drop layout place handle) store

/-- A place goes, and drops what it holds. -/
def close (layout : Layout Semaphore Value) (store : Store Place Semaphore Value)
    (place : Place) : Store Place Semaphore Value where
  heap := (store.handles place).foldl
    (fun heap handle => heap.drop layout (layout.reach handle) handle) store.heap
  held := store.elsewhere place

/-- No permit and no pointer is lost or counted twice. -/
def Exact (layout : Layout Semaphore Value) (capacity : Semaphore → Nat)
    (store : Store Place Semaphore Value) : Prop :=
  store.heap.Exact layout capacity (store.held.map Prod.snd)

section Exactness

variable {store next : Store Place Semaphore Value} {capacity : Semaphore → Nat}
  {place source : Place} {handle : Handle Semaphore Value} {semaphore : Semaphore}
  {value : Value}

omit [DecidableEq Semaphore] [DecidableEq Value] in
theorem mem_handles : handle ∈ store.handles place ↔ (place, handle) ∈ store.held := by
  simp [handles]

omit [DecidableEq Semaphore] [DecidableEq Value] in
/-- What a place holds, apart from the rest. -/
theorem perm_handles (store : Store Place Semaphore Value) (place : Place) :
    (store.held.map Prod.snd).Perm
      (store.handles place ++ (store.elsewhere place).map Prod.snd) := by
  rw [handles, elsewhere, ← List.map_append]
  exact (List.filter_append_perm _ store.held).symm.map Prod.snd

omit [DecidableEq Place] in
theorem exact_initial (capacity : Semaphore → Nat) :
    (initial capacity : Store Place Semaphore Value).Exact layout capacity :=
  Heap.exact_initial capacity

omit [DecidableEq Value] [DecidableEq Place] in
/-- A permit makes no difference to the values. -/
theorem strong_tryAcquire (acquired : store.tryAcquire place semaphore = some next) :
    next.heap.strong = store.heap.strong := by
  obtain ⟨heap, taken, rfl⟩ := Option.map_eq_some_iff.mp acquired
  unfold Heap.tryAcquire at taken
  split_ifs at taken
  cases taken
  rfl

omit [DecidableEq Value] [DecidableEq Place] in
/-- A permit is refused when none is left. -/
theorem tryAcquire_eq_none :
    store.tryAcquire place semaphore = none ↔ store.heap.available semaphore = 0 := by
  simp [Store.tryAcquire, Heap.tryAcquire]

omit [DecidableEq Value] [DecidableEq Place] in
theorem available_ne_zero (acquired : store.tryAcquire place semaphore = some next) :
    store.heap.available semaphore ≠ 0 := by
  intro none_left
  rw [tryAcquire_eq_none.mpr none_left] at acquired
  cases acquired

omit [DecidableEq Value] [DecidableEq Place] in
/-- A permit makes no difference to other semaphores. -/
theorem available_tryAcquire (acquired : store.tryAcquire place semaphore = some next)
    {other : Semaphore} (different : other ≠ semaphore) :
    next.heap.available other = store.heap.available other := by
  obtain ⟨heap, taken, rfl⟩ := Option.map_eq_some_iff.mp acquired
  unfold Heap.tryAcquire at taken
  split_ifs at taken
  cases taken
  exact Function.update_of_ne different _ _

omit [DecidableEq Place] in
theorem Exact.tryAcquire (exact : store.Exact layout capacity)
    (acquired : store.tryAcquire place semaphore = some next) : next.Exact layout capacity := by
  obtain ⟨heap, taken, rfl⟩ := Option.map_eq_some_iff.mp acquired
  exact Heap.Exact.tryAcquire exact taken

theorem Exact.wrap (exact : store.Exact layout capacity) (fresh : store.heap.strong value = 0)
    (made : (store.handles place).Perm (layout.contents value)) :
    (store.wrap place value).Exact layout capacity :=
  Heap.Exact.allocate
    (Heap.Exact.perm exact ((perm_handles store place).trans (made.append_right _))) fresh

theorem Exact.share (exact : store.Exact layout capacity) (source : Place)
    (holds : .pointer value ∈ store.handles source) :
    (store.share place value).Exact layout capacity :=
  Heap.Exact.share exact (List.mem_map_of_mem (mem_handles.mp holds))

theorem Exact.move (exact : store.Exact layout capacity) (source target : Place) :
    (store.move source target).Exact layout capacity := by
  refine Heap.Exact.perm exact ((perm_handles store source).trans (List.Perm.of_eq ?_))
  simp [Store.move, Function.comp_def]

theorem Exact.transfer {target : Place} (exact : store.Exact layout capacity)
    (holds : handle ∈ store.handles source) :
    (store.transfer source target handle).Exact layout capacity :=
  Heap.Exact.perm exact ((List.perm_cons_erase (mem_handles.mp holds)).map Prod.snd)

theorem Exact.drop (exact : store.Exact layout capacity)
    (holds : handle ∈ store.handles place) :
    (store.drop layout place handle).Exact layout capacity :=
  Heap.Exact.drop
    (Heap.Exact.perm exact ((List.perm_cons_erase (mem_handles.mp holds)).map Prod.snd))
    (layout.within_reach handle)

/-- A place that goes takes all with it that it alone kept alive. -/
theorem Exact.close (exact : store.Exact layout capacity) (place : Place) :
    (store.close layout place).Exact layout capacity :=
  (Heap.Exact.perm exact (perm_handles store place)).drops fun handle _ {_ _} exact =>
    exact.drop (layout.within_reach handle)

/-- The values that are alive are those to which a handle of some place leads. -/
theorem Exact.alive_iff (exact : store.Exact layout capacity) :
    value ∈ store.heap.alive ↔
      ∃ place, ∃ handle ∈ store.handles place, layout.Leads handle (.pointer value) := by
  rw [Heap.Exact.alive_iff exact]
  constructor
  · rintro ⟨handle, member, leads⟩
    obtain ⟨⟨place, _⟩, holds, rfl⟩ := List.mem_map.mp member
    exact ⟨place, _, mem_handles.mpr holds, leads⟩
  · rintro ⟨place, handle, holds, leads⟩
    exact ⟨handle, List.mem_map_of_mem (mem_handles.mp holds), leads⟩

/-- A value to which no place leads can be made. -/
theorem Exact.fresh (exact : store.Exact layout capacity)
    (unreached : ∀ place, ∀ handle ∈ store.handles place,
      ¬layout.Leads handle (.pointer value)) : store.heap.strong value = 0 := by
  by_contra counted
  obtain ⟨place, handle, holds, leads⟩ :=
    exact.alive_iff.mp ((Heap.Exact.alive exact value).mpr counted)
  exact unreached place handle holds leads

omit [DecidableEq Semaphore] [DecidableEq Value] [DecidableEq Place] in
/-- The length of a list without repetitions counts its members. -/
theorem length_eq_ncard {Member : Type} [DecidableEq Member] {members : List Member}
    {property : Member → Prop} (nodup : members.Nodup)
    (mem : ∀ member, member ∈ members ↔ property member) :
    members.length = {member | property member}.ncard := by
  have same : {member | property member} = ↑members.toFinset := by
    ext member
    simp [mem]
  rw [same, Set.ncard_coe_finset, List.toFinset_card_of_nodup nodup]

/-- A handle that no place holds twice is held once for each place that holds it. -/
theorem count_held (single : ∀ place, (store.handles place).count handle ≤ 1) :
    (store.held.map Prod.snd).count handle =
      {place | handle ∈ store.handles place}.ncard := by
  let places := (store.held.filter fun entry => entry.2 = handle).map Prod.fst
  have counted (place : Place) : places.count place = (store.handles place).count handle := by
    simp only [places, handles, List.count_eq_countP, List.countP_map, List.countP_filter]
    refine List.countP_congr fun entry _ => ?_
    simp only [Bool.and_eq_true, beq_iff_eq, decide_eq_true_eq, Function.comp_apply]
    exact and_comm
  have nodup : places.Nodup :=
    List.nodup_iff_count_le_one.mpr fun place => (counted place).trans_le (single place)
  rw [← length_eq_ncard nodup fun place => by simp [places, mem_handles]]
  rw [List.count_eq_countP, List.countP_map, List.countP_eq_length_filter, List.length_map]
  congr 2

/-- The permits that are out are those that places hold, and one for each value that owns one and
to which some place leads. -/
theorem Exact.account (exact : store.Exact layout capacity)
    (single : ∀ place, (store.handles place).count (.permit semaphore) ≤ 1)
    (one : ∀ value, (layout.contents value).count (.permit semaphore) ≤ 1) :
    store.heap.available semaphore +
        ({place | .permit semaphore ∈ store.handles place}.ncard +
          {value | .permit semaphore ∈ layout.contents value ∧ ∃ place,
            ∃ handle ∈ store.handles place, layout.Leads handle (.pointer value)}.ncard) =
      capacity semaphore := by
  have inside :
      (store.heap.alive.flatMap layout.contents).count (.permit semaphore) =
        (store.heap.alive.filter fun value =>
          .permit semaphore ∈ layout.contents value).length := by
    induction store.heap.alive with
    | nil => rfl
    | cons value alive ih =>
        rw [List.flatMap_cons, List.count_append, ih, List.filter_cons]
        have few := one value
        split_ifs with made
        · have some_permit := List.count_pos_iff.mpr (of_decide_eq_true made)
          rw [List.length_cons]
          omega
        · rw [List.count_eq_zero.mpr fun member => made (decide_eq_true member), Nat.zero_add]
  have before := Heap.Exact.permits exact semaphore
  rw [Heap.count_owned, count_held single, inside,
    length_eq_ncard ((Heap.Exact.nodup exact).filter _) fun value => by
      rw [List.mem_filter, exact.alive_iff, decide_eq_true_eq, and_comm]] at before
  exact before

end Exactness

/-! ## What is held -/

section Held

omit [DecidableEq Semaphore] [DecidableEq Value]

variable (store : Store Place Semaphore Value) {place other source target : Place}
  {handle : Handle Semaphore Value} {value : Value}

theorem elsewhere_handles (place other : Place) :
    ((store.elsewhere place).filter fun entry => entry.1 = other).map Prod.snd =
      if other = place then [] else store.handles other := by
  split_ifs with same
  · subst same
    simp [elsewhere, List.filter_filter]
  · rw [elsewhere, handles, List.filter_filter]
    congr 2
    funext entry
    by_cases here : entry.1 = other
    · simp [here, same]
    · simp [here]

@[simp] theorem handles_initial (capacity : Semaphore → Nat) (place : Place) :
    (initial capacity : Store Place Semaphore Value).handles place = [] :=
  rfl

theorem handles_cons (heap : Heap Semaphore Value)
    (held : List (Place × Handle Semaphore Value)) :
    (⟨heap, (place, handle) :: held⟩ : Store Place Semaphore Value).handles other =
      if other = place then handle :: handles ⟨heap, held⟩ other
      else handles ⟨heap, held⟩ other := by
  by_cases same : place = other
  · simp [handles, same]
  · simp [handles, same, Ne.symm same]

theorem handles_tryAcquire {semaphore : Semaphore} [DecidableEq Semaphore]
    {next : Store Place Semaphore Value}
    (acquired : store.tryAcquire place semaphore = some next) (other : Place) :
    next.handles other =
      if other = place then .permit semaphore :: store.handles other
      else store.handles other := by
  obtain ⟨heap, _, rfl⟩ := Option.map_eq_some_iff.mp acquired
  exact handles_cons heap store.held

@[simp] theorem handles_wrap [DecidableEq Value] :
    (store.wrap place value).handles other =
      if other = place then [.pointer value] else store.handles other := by
  rw [wrap, handles_cons]
  have rest := store.elsewhere_handles place other
  split_ifs at rest ⊢ with same
  · exact congrArg _ rest
  · exact rest

@[simp] theorem handles_share [DecidableEq Value] :
    (store.share place value).handles other =
      if other = place then .pointer value :: store.handles other else store.handles other :=
  handles_cons _ store.held

/-- What moves is in another place, and in its own no more. -/
@[simp] theorem handles_move (apart : source ≠ target) :
    (store.move source target).handles other =
      if other = target then store.handles source ++ store.handles target
      else if other = source then [] else store.handles other := by
  have rest := store.elsewhere_handles source other
  rw [handles, move, List.filter_append, List.map_append, rest]
  by_cases there : other = target
  · subst there
    simp [List.filter_map, Function.comp_def, Ne.symm apart]
  · simp [there, Ne.symm there]

/-- A handle that goes is missing at its place alone. -/
theorem handles_erase [DecidableEq Semaphore] [DecidableEq Value] (heap : Heap Semaphore Value)
    (held : List (Place × Handle Semaphore Value)) :
    (⟨heap, held.erase (place, handle)⟩ : Store Place Semaphore Value).handles other =
      if other = place then (handles ⟨heap, held⟩ other).erase handle
      else handles ⟨heap, held⟩ other := by
  simp only [handles]
  induction held with
  | nil => simp
  | cons entry held ih =>
      obtain ⟨holder, own⟩ := entry
      by_cases same : (holder, own) = (place, handle)
      · cases same
        by_cases here : other = place
        · simp [here]
        · simp [here, Ne.symm here]
      · rw [List.erase_cons_tail (by simpa using same)]
        by_cases here : holder = other
        · subst here
          by_cases there : holder = place
          · subst there
            have different : own ≠ handle := fun equal => same (by rw [equal])
            simpa [different] using ih
          · simpa [there] using ih
        · simpa [here] using ih

@[simp] theorem handles_drop [DecidableEq Semaphore] [DecidableEq Value] :
    (store.drop layout place handle).handles other =
      if other = place then (store.handles other).erase handle else store.handles other :=
  handles_erase _ store.held

/-- Other places hold what they held when one drops its handles. -/
theorem handles_discard [DecidableEq Semaphore] [DecidableEq Value]
    (dropped : List (Handle Semaphore Value)) (apart : other ≠ place) :
    (store.discard layout place dropped).handles other = store.handles other := by
  induction dropped generalizing store with
  | nil => rfl
  | cons handle dropped ih =>
      rw [discard, List.foldl_cons, ← discard, ih, handles_drop, if_neg apart]

/-- A handle moves alone. -/
theorem handles_transfer [DecidableEq Semaphore] [DecidableEq Value] (apart : source ≠ target) :
    (store.transfer source target handle).handles other =
      if other = target then handle :: store.handles target
      else if other = source then (store.handles source).erase handle
      else store.handles other := by
  rw [transfer, handles_cons, handles_erase]
  by_cases there : other = target
  · subst there
    simp [Ne.symm apart]
  · by_cases here : other = source
    · subst here
      simp [there]
    · simp [there, here]

@[simp] theorem handles_close [DecidableEq Semaphore] [DecidableEq Value] :
    (store.close layout place).handles other =
      if other = place then [] else store.handles other :=
  store.elsewhere_handles place other

/-- Handles that a place holds can be dropped one after the other, and the rest stays. -/
theorem Exact.discard [DecidableEq Semaphore] [DecidableEq Value]
    {capacity : Semaphore → Nat} {dropped rest : List (Handle Semaphore Value)}
    {store : Store Place Semaphore Value} (exact : store.Exact layout capacity)
    (holds : (store.handles place).Perm (dropped ++ rest)) :
    (store.discard layout place dropped).Exact layout capacity ∧
      ((store.discard layout place dropped).handles place).Perm rest := by
  induction dropped generalizing store with
  | nil => exact ⟨exact, holds⟩
  | cons handle dropped ih =>
      refine ih (exact.drop (holds.mem_iff.mpr List.mem_cons_self)) ?_
      rw [handles_drop, if_pos rfl]
      simpa using holds.erase handle

end Held

/-! ## What all that is held has in common -/

/-- All handles that are held have a property. -/
def Only (store : Store Place Semaphore Value) (property : Handle Semaphore Value → Prop) : Prop :=
  ∀ entry ∈ store.held, property entry.2

section Only

variable {store next : Store Place Semaphore Value} {property : Handle Semaphore Value → Prop}
  {place source target : Place} {handle : Handle Semaphore Value} {semaphore : Semaphore}
  {value : Value}

omit [DecidableEq Semaphore] [DecidableEq Value] [DecidableEq Place] in
theorem only_initial (capacity : Semaphore → Nat) :
    (initial capacity : Store Place Semaphore Value).Only property := by
  intro entry member
  cases member

omit [DecidableEq Semaphore] [DecidableEq Value] in
theorem Only.of_mem (only : store.Only property) (held : handle ∈ store.handles place) :
    property handle :=
  only (place, handle) (mem_handles.mp held)

omit [DecidableEq Semaphore] [DecidableEq Value] [DecidableEq Place] in
theorem Only.mono {weaker : Handle Semaphore Value → Prop} (only : store.Only property)
    (weakens : ∀ handle, property handle → weaker handle) : store.Only weaker :=
  fun entry member => weakens entry.2 (only entry member)

omit [DecidableEq Value] [DecidableEq Place] in
theorem Only.tryAcquire (only : store.Only property)
    (acquired : store.tryAcquire place semaphore = some next)
    (permit : property (.permit semaphore)) : next.Only property := by
  obtain ⟨heap, _, rfl⟩ := Option.map_eq_some_iff.mp acquired
  exact List.forall_mem_cons.mpr ⟨permit, only⟩

omit [DecidableEq Semaphore] in
theorem Only.wrap (only : store.Only property) (pointer : property (.pointer value)) :
    (store.wrap place value).Only property :=
  List.forall_mem_cons.mpr
    ⟨pointer, fun entry member => only entry (List.mem_of_mem_filter member)⟩

omit [DecidableEq Semaphore] in
theorem Only.share (only : store.Only property)
    (holds : .pointer value ∈ store.handles source) : (store.share place value).Only property :=
  List.forall_mem_cons.mpr ⟨only.of_mem holds, only⟩

omit [DecidableEq Semaphore] [DecidableEq Value] in
theorem Only.move (only : store.Only property) (source target : Place) :
    (store.move source target).Only property := by
  refine List.forall_mem_append.mpr ⟨fun entry member => ?_, fun entry member =>
    only entry (List.mem_of_mem_filter member)⟩
  obtain ⟨handle, held, rfl⟩ := List.mem_map.mp member
  exact only.of_mem held

theorem Only.transfer (only : store.Only property) (holds : handle ∈ store.handles source) :
    (store.transfer source target handle).Only property :=
  List.forall_mem_cons.mpr
    ⟨only.of_mem holds, fun entry member => only entry (List.mem_of_mem_erase member)⟩

theorem Only.drop (only : store.Only property) : (store.drop layout place handle).Only property :=
  fun entry member => only entry (List.mem_of_mem_erase member)

theorem Only.discard (only : store.Only property) (dropped : List (Handle Semaphore Value)) :
    (store.discard layout place dropped).Only property := by
  induction dropped generalizing store with
  | nil => exact only
  | cons handle dropped ih => exact ih only.drop

theorem Only.close (only : store.Only property) (place : Place) :
    (store.close layout place).Only property :=
  fun entry member => only entry (List.mem_of_mem_filter member)

end Only

end Store

end SharedOwnership
