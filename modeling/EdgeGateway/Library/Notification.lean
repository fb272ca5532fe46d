import Mathlib.Data.List.Nodup
import Mathlib.Data.List.Perm.Basic

/-!
# Notification

Waiters register and sleep, and each notification wakes the one that registered first.  A
notification that finds nobody is stored, one at most.  A waiter that leaves with a notification
that it has not seen passes it on.

Whoever looks for items after it has registered, and sleeps only if there are none, is not left
asleep: as long as one waiter sleeps, there are as many notifications and waiters that are about to
look as there are items.
-/

namespace Notification

/-- The waiters of a notification: those that it has not reached, the earliest first, and those that
have not seen it yet. -/
structure Notify (Waiter : Type) where
  stored : Bool
  waiting : List Waiter
  notified : List Waiter

namespace Notify

variable {Waiter : Type}

/-- Nobody waits. -/
def new : Notify Waiter := ⟨false, [], []⟩

/-- A notification reaches the earliest waiter, or is stored. -/
def notifyOne (notify : Notify Waiter) : Notify Waiter :=
  match notify.waiting with
  | [] => { notify with stored := true }
  | waiter :: waiting => { notify with waiting, notified := waiter :: notify.notified }

/-- Register; with the stored notification a waiter need not wait. -/
def enable (notify : Notify Waiter) (waiter : Waiter) : Notify Waiter :=
  if notify.stored then { notify with stored := false }
  else { notify with waiting := notify.waiting ++ [waiter] }

variable [DecidableEq Waiter]

/-- A waiter sees its notification. -/
def consume (notify : Notify Waiter) (waiter : Waiter) : Notify Waiter :=
  { notify with notified := notify.notified.erase waiter }

/-- A waiter leaves, and passes on the notification that it has not seen. -/
def forget (notify : Notify Waiter) (waiter : Waiter) : Notify Waiter :=
  if waiter ∈ notify.notified then (notify.consume waiter).notifyOne
  else { notify with waiting := notify.waiting.erase waiter }

/-! ## Who is registered -/

section Registered

/-- The waiters that are registered, reached or not. -/
def registered (notify : Notify Waiter) : List Waiter :=
  notify.waiting ++ notify.notified

variable {notify : Notify Waiter} {waiter other : Waiter}

omit [DecidableEq Waiter] in
theorem registered_notifyOne : notify.notifyOne.registered.Perm notify.registered := by
  unfold notifyOne
  split
  case h_1 none_waits => simp [registered, none_waits]
  case h_2 first waiting waits =>
    simp only [registered, waits]
    exact List.perm_middle

omit [DecidableEq Waiter] in
theorem mem_registered_enable (member : other ∈ (notify.enable waiter).registered) :
    other = waiter ∨ other ∈ notify.registered := by
  unfold enable at member
  split_ifs at member
  · exact .inr member
  · simp only [registered, List.mem_append, List.mem_singleton] at member ⊢
    tauto

omit [DecidableEq Waiter] in
theorem nodup_enable (nodup : notify.registered.Nodup) (fresh : waiter ∉ notify.registered) :
    (notify.enable waiter).registered.Nodup := by
  unfold enable
  split_ifs
  · exact nodup
  · have moved : (notify.waiting ++ [waiter] ++ notify.notified).Perm
        (waiter :: notify.registered) := by
      rw [List.append_assoc]
      exact List.perm_middle
    exact moved.nodup_iff.mpr (List.nodup_cons.mpr ⟨fresh, nodup⟩)

/-- A notification that has been seen is registered no more. -/
theorem registered_consume (reached : waiter ∉ notify.waiting) :
    (notify.consume waiter).registered = notify.registered.erase waiter := by
  rw [registered, registered, List.erase_append_right _ reached]
  rfl

/-- Who leaves is registered no more, and everybody else still is. -/
theorem registered_forget (nodup : notify.registered.Nodup) :
    (notify.forget waiter).registered.Perm (notify.registered.erase waiter) := by
  unfold forget
  split_ifs with reached
  · have unreached : waiter ∉ notify.waiting := fun member =>
      (List.nodup_append.mp nodup).2.2 waiter member waiter reached rfl
    rw [← registered_consume unreached]
    exact registered_notifyOne
  · simp only [registered]
    by_cases waits : waiter ∈ notify.waiting
    · rw [List.erase_append_left _ waits]
    · rw [List.erase_append_right _ waits, List.erase_of_not_mem waits,
        List.erase_of_not_mem reached]

theorem nodup_forget (nodup : notify.registered.Nodup) :
    (notify.forget waiter).registered.Nodup :=
  (registered_forget nodup).nodup_iff.mpr (nodup.erase waiter)

theorem mem_registered_forget (nodup : notify.registered.Nodup) :
    other ∈ (notify.forget waiter).registered ↔ other ≠ waiter ∧ other ∈ notify.registered := by
  rw [(registered_forget nodup).mem_iff, nodup.mem_erase_iff]

end Registered

/-! ## Nobody is left asleep -/

/-- If somebody sleeps, there are as many notifications and others about to look as items. -/
def Heard (notify : Notify Waiter) (asleep : Waiter → Prop) (items lookers : Nat) : Prop :=
  (∃ waiter ∈ notify.waiting, asleep waiter) → items ≤ notify.notified.length + lookers

variable {notify : Notify Waiter} {asleep sleeps : Waiter → Prop} {waiter : Waiter}
  {items fewer lookers more : Nat}

omit [DecidableEq Waiter] in
theorem heard_new : (new : Notify Waiter).Heard asleep items lookers := by
  rintro ⟨waiter, waits, _⟩
  cases waits

omit [DecidableEq Waiter] in
/-- Without items nobody need be awake. -/
theorem heard_of_none : notify.Heard asleep 0 lookers :=
  fun _ => Nat.zero_le _

omit [DecidableEq Waiter] in
theorem Heard.mono (heard : notify.Heard asleep items lookers)
    (sleepers : ∀ waiter ∈ notify.waiting, sleeps waiter → asleep waiter)
    (less : fewer + lookers ≤ items + more) : notify.Heard sleeps fewer more := by
  rintro ⟨waiter, waits, sleeping⟩
  have enough := heard ⟨waiter, waits, sleepers waiter waits sleeping⟩
  omega

omit [DecidableEq Waiter] in
/-- A waiter that has just registered does not sleep yet. -/
theorem Heard.enable (heard : notify.Heard asleep items lookers) (awake : ¬asleep waiter) :
    (notify.enable waiter).Heard asleep items lookers := by
  unfold Notify.enable
  split_ifs
  · exact heard
  · rintro ⟨other, waits, sleeping⟩
    rcases List.mem_append.mp waits with before | own
    · exact heard ⟨other, before, sleeping⟩
    · obtain rfl := List.mem_singleton.mp own
      exact absurd sleeping awake

omit [DecidableEq Waiter] in
/-- With a notification there may be one more item. -/
theorem Heard.notifyOne (heard : notify.Heard asleep items (lookers + 1)) :
    notify.notifyOne.Heard asleep items lookers := by
  unfold Notify.notifyOne
  split
  case h_1 none_waits =>
    rintro ⟨waiter, waits, _⟩
    simp only [none_waits] at waits
    cases waits
  case h_2 first waiting waits =>
    rintro ⟨waiter, still, sleeping⟩
    have enough := heard ⟨waiter, by rw [waits]; exact List.mem_cons_of_mem first still, sleeping⟩
    simp only [List.length_cons]
    omega

/-- Who has seen its notification is about to look. -/
theorem Heard.consume (heard : notify.Heard asleep items lookers) :
    (notify.consume waiter).Heard asleep items (lookers + 1) := by
  intro sleeping
  have enough := heard sleeping
  have length := List.length_erase (a := waiter) (l := notify.notified)
  simp only [Notify.consume]
  split_ifs at length
  · omega
  · omega

/-- Who leaves takes no notification along. -/
theorem Heard.forget (heard : notify.Heard asleep items lookers) :
    (notify.forget waiter).Heard asleep items lookers := by
  unfold Notify.forget
  split_ifs
  · exact heard.consume.notifyOne
  · rintro ⟨other, waits, sleeping⟩
    exact heard ⟨other, List.mem_of_mem_erase waits, sleeping⟩

end Notify

end Notification
