import Mathlib.Data.List.Basic

/-!
# Channels between two tasks

A channel hands items from a sender to a receiver.  The sender reserves room before it sends, and
either end can find the channel not ready.  A lawful channel delivers what was sent, in order, and
reports its end only when nothing is left in it.
-/

/-- What a poll finds. -/
inductive Poll (Value : Type)
  | pending
  | ready (value : Value)
deriving DecidableEq

/-- The error of an operation on a closed channel. -/
structure ChannelClosed
deriving DecidableEq

/-- The operations of a channel. -/
structure Channel (Item : Type) where
  State : Type
  initial : State
  /-- Reserve room for one item. -/
  pollReserve : State → Poll (Except ChannelClosed Unit) × State
  /-- Send an item into the reserved room. -/
  sendItem : State → Item → Except ChannelClosed Unit × State
  /-- Close the channel from the end of its sender. -/
  close : State → State
  /-- Receive the next item, or `none` at the end. -/
  pollRecv : State → Poll (Option Item) × State
  isClosed : State → Bool
  isEmpty : State → Bool

namespace Channel

variable {Item : Type}

/-- What the result of a receive has taken out of the channel. -/
def received : Poll (Option Item) → List Item
  | .ready (some item) => [item]
  | _ => []

/-- What the result of a send has put into the channel. -/
def accepted (item : Item) : Except ChannelClosed Unit → List Item
  | .ok () => [item]
  | .error _ => []

/-- The channel holds a queue: only accepted items enter it, at its end, and only received ones
leave it, from its front. -/
structure Lawful (channel : Channel Item) (contents : channel.State → List Item) : Prop where
  contents_initial : contents channel.initial = []
  contents_pollReserve : ∀ state, contents (channel.pollReserve state).2 = contents state
  contents_sendItem : ∀ state item, contents (channel.sendItem state item).2 =
    contents state ++ accepted item (channel.sendItem state item).1
  contents_close : ∀ state, contents (channel.close state) = contents state
  contents_pollRecv : ∀ state, contents state =
    received (channel.pollRecv state).1 ++ contents (channel.pollRecv state).2
  /-- The end is reported only by a closed channel with nothing left in it. -/
  finished : ∀ state, (channel.pollRecv state).1 = .ready none →
    contents state = [] ∧ channel.isClosed (channel.pollRecv state).2 = true
  empty : ∀ state, channel.isEmpty state = true → contents state = []
  /-- A closed channel stays closed and accepts nothing. -/
  closed_pollReserve : ∀ state, channel.isClosed state = true →
    channel.isClosed (channel.pollReserve state).2 = true
  closed_sendItem : ∀ state item, channel.isClosed state = true →
    accepted item (channel.sendItem state item).1 = [] ∧
      channel.isClosed (channel.sendItem state item).2 = true
  closed_close : ∀ state, channel.isClosed state = true →
    channel.isClosed (channel.close state) = true
  closed_pollRecv : ∀ state, channel.isClosed state = true →
    channel.isClosed (channel.pollRecv state).2 = true

/-! ## A bounded queue -/

/-- A queue with the sender's permit. -/
structure Bounded (Item : Type) where
  queue : List Item
  permit : Bool
  sender : Bool
deriving DecidableEq

/-- The sender is gone and holds no permit. -/
def Bounded.isClosed (state : Bounded Item) : Bool :=
  !state.sender && !state.permit

/-- A channel with room for a number of items, a permit counting as one. -/
def bounded (capacity : Nat) : Channel Item where
  State := Bounded Item
  initial := ⟨[], false, true⟩
  pollReserve state :=
    if state.permit then (.ready (.ok ()), state)
    else if !state.sender then (.ready (.error {}), state)
    else if state.queue.length < capacity then (.ready (.ok ()), { state with permit := true })
    else (.pending, state)
  sendItem state item :=
    if state.permit then (.ok (), { state with queue := state.queue ++ [item], permit := false })
    else (.error {}, state)
  close state := { state with sender := false }
  pollRecv state :=
    match state.queue with
    | item :: rest => (.ready (some item), { state with queue := rest })
    | [] => (if state.isClosed then .ready none else .pending, state)
  isClosed := Bounded.isClosed
  isEmpty state := state.queue.isEmpty

theorem Bounded.isClosed_iff {state : Bounded Item} :
    state.isClosed = true ↔ state.sender = false ∧ state.permit = false := by
  simp [Bounded.isClosed]

theorem bounded_lawful (capacity : Nat) :
    (bounded capacity : Channel Item).Lawful Bounded.queue where
  contents_initial := rfl
  contents_pollReserve state := by
    simp only [bounded]
    split_ifs
    all_goals rfl
  contents_sendItem state item := by
    simp only [bounded]
    split_ifs
    · rfl
    · simp [accepted]
  contents_close state := rfl
  contents_pollRecv state := by
    rcases state with ⟨_ | ⟨item, rest⟩, permit, sender⟩
    · simp only [bounded]
      split_ifs
      all_goals rfl
    · rfl
  finished state ended := by
    rcases state with ⟨_ | ⟨item, rest⟩, permit, sender⟩
    · refine ⟨rfl, ?_⟩
      simp only [bounded] at ended
      split_ifs at ended with closed
      exact closed
    · simp [bounded] at ended
  empty state empty := List.isEmpty_iff.mp empty
  closed_pollReserve state closed := by
    obtain ⟨gone, unpermitted⟩ := Bounded.isClosed_iff.mp closed
    simpa [bounded, gone, unpermitted] using closed
  closed_sendItem state item closed := by
    obtain ⟨_, unpermitted⟩ := Bounded.isClosed_iff.mp closed
    simpa [bounded, unpermitted, accepted] using closed
  closed_close state closed := by
    obtain ⟨_, unpermitted⟩ := Bounded.isClosed_iff.mp closed
    have gone : ({ state with sender := false } : Bounded Item).isClosed = true :=
      Bounded.isClosed_iff.mpr ⟨rfl, unpermitted⟩
    exact gone
  closed_pollRecv state closed := by
    rcases state with ⟨_ | ⟨item, rest⟩, permit, sender⟩
    all_goals exact closed

end Channel
