import EdgeGateway.Websocket.BoundedMessages

/-!
# The arithmetic of reassembly

The same validator and collector once more, with the capacities of their buffers, in a build that
stops where a subtraction falls below zero or a slice leaves its bytes.  It never stops, whatever
the frames are and however much room the allocator grants, so the unchecked build computes what it
says.
-/

namespace EdgeGateway.Websocket

open Machine

/-! ## A build that stops -/

/-- The bytes before a position. -/
def sliceTo (data : List UInt8) (stop : Nat) : Option (List UInt8) :=
  if stop ≤ data.length then some (data.take stop) else none

/-- The bytes from a position on. -/
def sliceFrom (data : List UInt8) (start : Nat) : Option (List UInt8) :=
  if start ≤ data.length then some (data.drop start) else none

namespace MessageSequence

/-- `validateRemaining`, stopping at a slice out of range. -/
def checkedRemaining (sequence : MessageSequence) (data : List UInt8) (finalFragment : Bool) :
    Option (Except WebSocketError MessageSequence) :=
  match Utf8.fromUtf8 data with
  | .ok () => some (.ok sequence)
  | .error error =>
      if error.errorLen.isNone && !finalFragment then do
        let unfinished ← sliceFrom data error.validUpTo
        return .ok { sequence with utf8Tail := sequence.utf8Tail ++ unfinished }
      else
        some (.error .invalidUtf8)

/-- `validateUtf8`, stopping at a subtraction below zero or a slice out of range. -/
def checkedUtf8 (sequence : MessageSequence) (data : List UInt8) (finalFragment : Bool) :
    Option (Except WebSocketError MessageSequence) :=
  match sequence.utf8Tail with
  | [] => sequence.checkedRemaining data finalFragment
  | first :: _ => do
      let width := if first < 0xE0 then 2 else if first < 0xF0 then 3 else 4
      let missing ← checkedSub width sequence.utf8Tail.length
      let take := min missing data.length
      let front ← sliceTo data take
      let data ← sliceFrom data take
      let tail := sequence.utf8Tail ++ front
      match Utf8.fromUtf8 tail with
      | .ok () => checkedRemaining { sequence with utf8Tail := [] } data finalFragment
      | .error error =>
          if error.errorLen.isNone && !finalFragment then
            return .ok { sequence with utf8Tail := tail }
          else
            return .error .invalidUtf8

/-- `account` with the checked text. -/
def checkedAccount (sequence : MessageSequence) (frame : Frame) :
    Option (Except WebSocketError MessageSequence) :=
  match checkedAdd sequence.bytes frame.payload.length with
  | none => some (.error .frameTooLarge)
  | some bytes =>
      if sequence.maximum < bytes then
        some (.error .frameTooLarge)
      else do
        let sequence := { sequence with bytes }
        let checked ←
          if sequence.opcode = some .text then
            sequence.checkedUtf8 frame.payload frame.fin
          else
            some (.ok sequence)
        return checked.map fun sequence =>
          if frame.fin then { sequence with opcode := none, bytes := 0 } else sequence

/-- `validate` with the checked text. -/
def checkedValidate (sequence : MessageSequence) (frame : Frame) :
    Option (Except WebSocketError MessageSequence) :=
  match frame.opcode with
  | .text | .binary =>
      if sequence.opcode.isSome then
        some (.error .invalidFragment)
      else
        checkedAccount
          { sequence with opcode := some frame.opcode, bytes := 0, utf8Tail := [] } frame
  | .continuation =>
      if sequence.opcode.isNone then
        some (.error .invalidContinuationFrame)
      else
        sequence.checkedAccount frame
  | .close | .ping | .pong =>
      some (if frame.payload.length ≤ 125 then .ok sequence else .error .frameTooLarge)

end MessageSequence

/-! ## Buffers -/

/-- Bytes and the room that has been allocated for them. -/
structure Buffer where
  bytes : List UInt8
  capacity : Nat
  fits : bytes.length ≤ capacity

namespace Buffer

/-- A buffer made from a payload, with any surplus of room. -/
def ofPayload (payload : List UInt8) (surplus : Nat) : Buffer where
  bytes := payload
  capacity := payload.length + surplus
  fits := Nat.le_add_right _ _

/-- Make room for more bytes; the allocator may grant a surplus. -/
def reserveExact (buffer : Buffer) (additional surplus : Nat) : Buffer where
  bytes := buffer.bytes
  capacity := max buffer.capacity (buffer.bytes.length + additional + surplus)
  fits := Nat.le_trans buffer.fits (Nat.le_max_left _ _)

/-- Append bytes, growing only where the room does not do. -/
def extendFromSlice (buffer : Buffer) (payload : List UInt8) : Buffer where
  bytes := buffer.bytes ++ payload
  capacity := max buffer.capacity (buffer.bytes ++ payload).length
  fits := Nat.le_max_right _ _

/-- The capacity that a collector asks for, when the bytes are to have a length. -/
def wanted (buffer : Buffer) (maximum : Word) (length : Nat) : Nat :=
  min (max length (saturatingMul buffer.capacity 2)) maximum

end Buffer

/-- The validator and the buffer of the message that is being collected. -/
structure BufferedMessages where
  sequence : MessageSequence
  fragments : Option (OpCode × Buffer)

namespace BufferedMessages

def new (maximum : Word) : BufferedMessages where
  sequence := .new maximum
  fragments := none

/-- The messages without their capacities. -/
def erase (messages : BufferedMessages) : BoundedMessages where
  sequence := messages.sequence
  fragments := messages.fragments.map fun fragment => (fragment.1, fragment.2.bytes)

/-- Make room for a length, stopping at a subtraction below zero. -/
def makeRoom (maximum : Word) (buffer : Buffer) (length surplus : Nat) : Option Buffer :=
  if buffer.capacity < length then do
    let additional ← checkedSub (buffer.wanted maximum length) buffer.bytes.length
    return buffer.reserveExact additional surplus
  else
    some buffer

/-- `collect` with the capacities, stopping where `validate` does or where making room does. -/
def checkedCollect (messages : BufferedMessages) (frame : Frame) (surplus : Nat) :
    Option (Except WebSocketError (BufferedMessages × Option Frame)) := do
  match ← messages.sequence.checkedValidate frame with
  | .error error => return .error error
  | .ok sequence =>
      match frame.opcode with
      | .text | .binary =>
          if frame.fin then return .ok (⟨sequence, messages.fragments⟩, some frame)
          else return .ok (⟨sequence, some (frame.opcode, .ofPayload frame.payload surplus)⟩, none)
      | .continuation =>
          match messages.fragments with
          | none => return .error .invalidContinuationFrame
          | some (opcode, buffer) =>
              match checkedAdd buffer.bytes.length frame.payload.length with
              | none => return .error .frameTooLarge
              | some length =>
                  if sequence.maximum < length then return .error .frameTooLarge
                  else
                    let buffer ← makeRoom sequence.maximum buffer length surplus
                    let buffer := buffer.extendFromSlice frame.payload
                    if frame.fin then
                      return .ok (⟨sequence, none⟩, some ⟨true, opcode, buffer.bytes⟩)
                    else return .ok (⟨sequence, some (opcode, buffer)⟩, none)
      | .close | .ping | .pong => return .ok (⟨sequence, messages.fragments⟩, some frame)

/-- The messages after frames, each with the surplus that the allocator grants at it, up to the
first error. -/
def checkedAll : BufferedMessages → List (Frame × Nat) →
    Option (Except WebSocketError BufferedMessages)
  | messages, [] => some (.ok messages)
  | messages, (frame, surplus) :: frames => do
      match ← messages.checkedCollect frame surplus with
      | .error error => return .error error
      | .ok (messages, _) => messages.checkedAll frames

end BufferedMessages

/-! ## The text -/

namespace MessageSequence

open Utf8 (Leftover announcedWidth)

variable {sequence : MessageSequence}

theorem checkedRemaining_eq (sequence : MessageSequence) (data : List UInt8)
    (finalFragment : Bool) :
    sequence.checkedRemaining data finalFragment =
      some (sequence.validateRemaining data finalFragment) := by
  have scanned := Utf8.scanned_fromUtf8 data
  rw [checkedRemaining, validateRemaining]
  generalize Utf8.run .boundary data = final at scanned
  generalize Utf8.fromUtf8 data = report at scanned
  cases scanned with
  | valid => rfl
  | invalid => rfl
  | @truncated state cut partialTail =>
      cases finalFragment with
      | true => rfl
      | false =>
          -- What is unfinished is not empty, so it starts inside the data.
          obtain ⟨first, rest, split, _⟩ := partialTail.width
          have inside : cut ≤ data.length := by
            by_contra outside
            rw [List.drop_eq_nil_of_le (Nat.le_of_not_le outside)] at split
            cases split
          simp [sliceFrom, inside]

theorem checkedUtf8_eq (data : List UInt8) (finalFragment : Bool) {state : Utf8.State}
    (leftover : Leftover sequence.utf8Tail state) :
    sequence.checkedUtf8 data finalFragment = some (sequence.validateUtf8 data finalFragment) := by
  rcases leftover with ⟨empty, rfl⟩ | unfinished
  · rw [checkedUtf8, validateUtf8, empty]
    exact sequence.checkedRemaining_eq data finalFragment
  · obtain ⟨first, rest, split, short⟩ := unfinished.length_lt
    have width : (if first < 0xE0 then 2 else if first < 0xF0 then 3 else 4) =
        announcedWidth first := rfl
    have below : announcedWidth first < wordSize :=
      Nat.lt_of_le_of_lt (announcedWidth_le first) (by decide)
    have missing : checkedSub (announcedWidth first) sequence.utf8Tail.length =
        some (announcedWidth first - sequence.utf8Tail.length) := if_pos (Nat.le_of_lt short)
    have inside (take : Nat) : min take data.length ≤ data.length := Nat.min_le_right _ _
    rw [checkedUtf8, validateUtf8, split]
    simp only [← split, width, completeTail, wrappingSub_of_le (Nat.le_of_lt short) below, missing,
      sliceTo, sliceFrom, inside, if_true, Option.bind_eq_bind, Option.bind_some,
      checkedRemaining_eq]
    generalize Utf8.fromUtf8 (sequence.utf8Tail ++ _) = report
    cases report with
    | ok => rfl
    | error error =>
        by_cases kept : (error.errorLen.isNone && !finalFragment) = true
        · simp only [kept, if_true]
          rfl
        · simp only [kept]
          rfl

/-- What frames leave of the validator: an unfinished code point at most, and no more bytes than
the maximum. -/
structure Sound (sequence : MessageSequence) (maximum : Word) : Prop where
  maximum_eq : sequence.maximum = maximum
  leftover : ∃ state, Leftover sequence.utf8Tail state
  bounded : sequence.bytes ≤ maximum

variable {maximum : Word} {next : MessageSequence}

theorem sound_new (maximum : Word) : (new maximum).Sound maximum :=
  ⟨rfl, ⟨.boundary, Or.inl ⟨rfl, rfl⟩⟩, Nat.zero_le _⟩

/-- Accepted text changes nothing but the unfinished code point. -/
theorem Sound.validateUtf8 {data : List UInt8} {finalFragment : Bool}
    (sound : sequence.Sound maximum)
    (accepted : sequence.validateUtf8 data finalFragment = .ok next) : next.Sound maximum := by
  obtain ⟨maximum_eq, ⟨state, leftover⟩, bounded⟩ := sound
  have outcome := sequence.validateUtf8_outcome data finalFragment leftover
  rw [accepted] at outcome
  generalize Utf8.run state data = final at outcome
  cases outcome with
  | accepted leftover _ => exact ⟨maximum_eq, ⟨_, leftover⟩, bounded⟩

/-- A frame that has been counted and checked leaves the message open, or closes it. -/
theorem Sound.finish (sound : sequence.Sound maximum) (fin : Bool) :
    (if fin then { sequence with opcode := none, bytes := 0 } else sequence).Sound maximum := by
  cases fin with
  | true => exact ⟨sound.maximum_eq, sound.leftover, Nat.zero_le _⟩
  | false => exact sound

/-- Accounting for a frame does not stop, and what it leaves is sound. -/
theorem Sound.account (sound : sequence.Sound maximum) (frame : Frame) :
    sequence.checkedAccount frame = some (sequence.account frame) ∧
      ∀ next, sequence.account frame = .ok next → next.Sound maximum := by
  rw [checkedAccount, MessageSequence.account]
  cases added : checkedAdd sequence.bytes frame.payload.length with
  | none => exact ⟨rfl, fun _ accepted => by cases accepted⟩
  | some bytes =>
      by_cases large : (sequence.maximum : Nat) < bytes
      · simp only [large, if_true]
        exact ⟨trivial, fun _ accepted => by cases accepted⟩
      · simp only [large, if_false]
        have counted : Sound { sequence with bytes } maximum :=
          ⟨sound.maximum_eq, sound.leftover, sound.maximum_eq ▸ Nat.le_of_not_lt large⟩
        obtain ⟨state, leftover⟩ := counted.leftover
        by_cases text : sequence.opcode = some .text
        · rw [if_pos text, if_pos text, checkedUtf8_eq frame.payload frame.fin leftover]
          refine ⟨rfl, ?_⟩
          intro next accepted
          obtain ⟨checked, validated, rfl⟩ := Results.map_eq_ok.mp accepted
          exact (counted.validateUtf8 validated).finish frame.fin
        · rw [if_neg text, if_neg text]
          refine ⟨rfl, ?_⟩
          intro next accepted
          cases accepted
          exact counted.finish frame.fin

/-- Validating a frame does not stop, and what it leaves is sound. -/
theorem Sound.validate (sound : sequence.Sound maximum) (frame : Frame) :
    sequence.checkedValidate frame = some (sequence.validate frame) ∧
      ∀ next, sequence.validate frame = .ok next → next.Sound maximum := by
  have opening (opcode : OpCode) :
      Sound { sequence with opcode := some opcode, bytes := 0, utf8Tail := [] } maximum :=
    ⟨sound.maximum_eq, ⟨.boundary, Or.inl ⟨rfl, rfl⟩⟩, Nat.zero_le _⟩
  have guarded {condition : Bool} {error : WebSocketError} {start : MessageSequence}
      (soundStart : start.Sound maximum) :
      (if condition then some (.error error) else start.checkedAccount frame) =
          some (if condition then .error error else start.account frame) ∧
        ∀ next, (if condition then .error error else start.account frame) = .ok next →
          next.Sound maximum := by
    cases condition with
    | true => exact ⟨rfl, fun _ accepted => by cases accepted⟩
    | false => exact soundStart.account frame
  have passing (next : MessageSequence)
      (accepted : (if frame.payload.length ≤ 125 then .ok sequence else .error .frameTooLarge :
        Except WebSocketError MessageSequence) = .ok next) : next.Sound maximum := by
    split at accepted
    · cases accepted
      exact sound
    · cases accepted
  rw [checkedValidate, MessageSequence.validate]
  cases frame.opcode with
  | text => exact guarded (opening .text)
  | binary => exact guarded (opening .binary)
  | continuation => exact guarded sound
  | close => exact ⟨rfl, passing⟩
  | ping => exact ⟨rfl, passing⟩
  | pong => exact ⟨rfl, passing⟩

end MessageSequence

/-! ## The buffer -/

namespace Buffer

variable {buffer : Buffer} {maximum : Word} {length : Nat}

/-- The capacity that is asked for holds the new length, and the maximum holds that capacity. -/
theorem wanted_range (buffer : Buffer) (bounded : length ≤ maximum) :
    length ≤ buffer.wanted maximum length ∧ buffer.wanted maximum length ≤ maximum := by
  unfold wanted
  exact ⟨Nat.le_min.mpr ⟨Nat.le_max_left _ _, bounded⟩, Nat.min_le_right _ _⟩

end Buffer

namespace BufferedMessages

variable {maximum : Word} {messages next : BufferedMessages}

/-- Making room does not stop, keeps the bytes, and leaves room for the length. -/
theorem makeRoom_spec (buffer : Buffer) {length : Nat} (surplus : Nat)
    (grows : buffer.bytes.length ≤ length) (bounded : length ≤ maximum) :
    ∃ room, makeRoom maximum buffer length surplus = some room ∧ room.bytes = buffer.bytes ∧
      length ≤ room.capacity := by
  obtain ⟨enough, _⟩ := buffer.wanted_range bounded
  by_cases full : buffer.capacity < length
  · have asked : checkedSub (buffer.wanted maximum length) buffer.bytes.length =
        some (buffer.wanted maximum length - buffer.bytes.length) :=
      if_pos (Nat.le_trans grows enough)
    refine ⟨buffer.reserveExact (buffer.wanted maximum length - buffer.bytes.length) surplus, ?_,
      rfl, ?_⟩
    · rw [makeRoom, if_pos full, asked]
      rfl
    · have granted : length ≤ buffer.bytes.length +
          (buffer.wanted maximum length - buffer.bytes.length) + surplus := by omega
      exact Nat.le_trans granted (Nat.le_max_right _ _)
  · exact ⟨buffer, by rw [makeRoom, if_neg full], rfl, Nat.le_of_not_lt full⟩

/-- What frames leave of the messages: a sound validator, and the collected message of the
frames. -/
structure Sound (messages : BufferedMessages) (maximum : Word) : Prop where
  sequence : messages.sequence.Sound maximum
  follows : ∃ history, messages.erase.Follows maximum history

theorem sound_new (maximum : Word) : (new maximum).Sound maximum :=
  ⟨MessageSequence.sound_new maximum, [], BoundedMessages.follows_new maximum⟩

/-- The collected bytes stay within the maximum. -/
theorem Sound.bounded {opcode : OpCode} {buffer : Buffer} (sound : messages.Sound maximum)
    (collecting : messages.fragments = some (opcode, buffer)) : buffer.bytes.length ≤ maximum := by
  obtain ⟨history, follows⟩ := sound.follows
  have opened := follows.buffer
  rw [erase, collecting] at opened
  exact follows.bounded opcode buffer.bytes opened.symm

/-- Collecting a frame does not stop, and comes to what it does without the capacities. -/
theorem Sound.checkedCollect (sound : messages.Sound maximum) (frame : Frame) (surplus : Nat) :
    ∃ outcome, messages.checkedCollect frame surplus = some outcome ∧
      outcome.map (fun done => (done.1.erase, done.2)) = messages.erase.collect frame := by
  obtain ⟨checked, _⟩ := sound.sequence.validate frame
  have same : messages.erase.sequence = messages.sequence := rfl
  rw [BufferedMessages.checkedCollect, BoundedMessages.collect, checked, same]
  generalize messages.sequence.validate frame = validated
  cases validated with
  | error error => exact ⟨_, rfl, rfl⟩
  | ok sequence =>
      obtain ⟨fin, opcode, payload⟩ := frame
      have started (kind : OpCode) : ∃ outcome,
          (if fin then some (.ok (⟨sequence, messages.fragments⟩, some ⟨fin, kind, payload⟩))
            else some (.ok (⟨sequence, some (kind, .ofPayload payload surplus)⟩, none)) :
            Option (Except WebSocketError (BufferedMessages × Option Frame))) = some outcome ∧
          outcome.map (fun done => (done.1.erase, done.2)) =
            if fin then .ok (⟨sequence, messages.erase.fragments⟩, some ⟨fin, kind, payload⟩)
            else .ok (⟨sequence, some (kind, payload)⟩, none) := by
        cases fin with
        | true => exact ⟨_, rfl, rfl⟩
        | false => exact ⟨_, rfl, rfl⟩
      cases opcode with
      | text => exact started .text
      | binary => exact started .binary
      | close => exact ⟨_, rfl, rfl⟩
      | ping => exact ⟨_, rfl, rfl⟩
      | pong => exact ⟨_, rfl, rfl⟩
      | continuation =>
          cases collecting : messages.fragments with
          | none =>
              simp only [erase, collecting, Option.map_none]
              exact ⟨_, rfl, rfl⟩
          | some fragment =>
              obtain ⟨opcode, buffer⟩ := fragment
              simp only [erase, collecting, Option.map_some, Option.bind_eq_bind, Option.bind_some]
              cases added : checkedAdd buffer.bytes.length payload.length with
              | none => exact ⟨_, rfl, rfl⟩
              | some length =>
                  by_cases large : (sequence.maximum : Nat) < length
                  · simp only [large, if_true]
                    exact ⟨_, rfl, rfl⟩
                  · obtain ⟨total, _⟩ := checkedAdd_eq_some.mp added
                    obtain ⟨room, made, same, _⟩ :=
                      makeRoom_spec buffer surplus (by omega) (Nat.le_of_not_lt large)
                    simp only [large, if_false, made, Option.bind_some]
                    cases fin with
                    | true => exact ⟨_, rfl, by rw [← same]; rfl⟩
                    | false => exact ⟨_, rfl, by rw [← same]; rfl⟩

/-- What a collected frame leaves is sound. -/
theorem Sound.after {frame : Frame} {surplus : Nat} {emitted : Option Frame}
    (sound : messages.Sound maximum)
    (done : messages.checkedCollect frame surplus = some (.ok (next, emitted))) :
    next.Sound maximum := by
  obtain ⟨outcome, came, erased⟩ := sound.checkedCollect frame surplus
  obtain rfl := Option.some.inj (came.symm.trans done)
  obtain ⟨_, kept⟩ := sound.sequence.validate frame
  obtain ⟨history, follows⟩ := sound.follows
  cases follows.collected frame with
  | rejected _ failed =>
      rw [failed] at erased
      cases erased
  | accepted _ validated collected after =>
      rw [collected] at erased
      have left_open : next.erase = _ := congrArg Prod.fst (Except.ok.inj erased)
      have validator : next.sequence = _ := congrArg BoundedMessages.sequence left_open
      refine ⟨?_, history ++ [frame], ?_⟩
      · rw [validator]
        exact kept _ validated
      · rw [left_open]
        exact after

/-- Frames do not stop the collector, come to what they do without the capacities, and leave
sound messages. -/
theorem Sound.checkedAll (sound : messages.Sound maximum) (frames : List (Frame × Nat)) :
    ∃ outcome, messages.checkedAll frames = some outcome ∧
      outcome.map erase = (messages.erase.collectAll (frames.map Prod.fst)).map Prod.fst ∧
      ∀ next, outcome = .ok next → next.Sound maximum := by
  induction frames generalizing messages with
  | nil => exact ⟨_, rfl, rfl, fun next done => Except.ok.inj done ▸ sound⟩
  | cons pair frames ih =>
      obtain ⟨frame, surplus⟩ := pair
      obtain ⟨outcome, came, erased⟩ := sound.checkedCollect frame surplus
      rw [BufferedMessages.checkedAll, came, List.map_cons, BoundedMessages.collectAll, ← erased]
      cases outcome with
      | error error => exact ⟨.error error, rfl, rfl, fun _ done => by cases done⟩
      | ok done =>
          obtain ⟨next, emitted⟩ := done
          obtain ⟨outcome, ran, rest, kept⟩ := ih (sound.after came)
          refine ⟨outcome, ran, ?_, kept⟩
          rw [rest]
          simp only [Except.map, bind, Except.bind]
          cases next.erase.collectAll (frames.map Prod.fst) with
          | error error => rfl
          | ok collected => rfl

end BufferedMessages

/-! ## No arithmetic of reassembly fails -/

/-- What the unchecked arithmetic on messages relies on. -/
structure ArithmeticSafe (messages : BufferedMessages) (maximum : Word) : Prop where
  /-- The unfinished code point has at most three bytes, -/
  tail_short : messages.sequence.utf8Tail.length ≤ 3
  /-- fewer than its first byte announces, -/
  tail_width : ∀ first rest, messages.sequence.utf8Tail = first :: rest →
    messages.sequence.utf8Tail.length < if first < 0xE0 then 2 else if first < 0xF0 then 3 else 4
  /-- and they are the beginning of one encoded scalar value. -/
  tail_begins : messages.sequence.utf8Tail = [] ∨ ∃ character missing, missing ≠ [] ∧
    String.utf8EncodeChar character = messages.sequence.utf8Tail ++ missing
  /-- Where the buffer has to grow for an accepted length, the capacity that is asked for covers
  the length and the buffer, and the maximum covers the capacity; then the bytes fit. -/
  room : ∀ opcode buffer, messages.fragments = some (opcode, buffer) →
    ∀ length, buffer.bytes.length ≤ length → length ≤ maximum →
      length ≤ buffer.wanted maximum length ∧
      buffer.bytes.length ≤ buffer.wanted maximum length ∧
      buffer.wanted maximum length ≤ maximum ∧
      ∀ surplus, ∃ room, BufferedMessages.makeRoom maximum buffer length surplus = some room ∧
        length ≤ room.capacity
  /-- With a maximum and a payload below half of the words, no sum of lengths leaves the words. -/
  sums : maximum < wordSize / 2 → ∀ count < wordSize / 2,
    checkedAdd 0 count ≠ none ∧ checkedAdd messages.sequence.bytes count ≠ none ∧
      ∀ opcode buffer, messages.fragments = some (opcode, buffer) →
        checkedAdd buffer.bytes.length count ≠ none

theorem BufferedMessages.Sound.arithmeticSafe {messages : BufferedMessages} {maximum : Word}
    (sound : messages.Sound maximum) : ArithmeticSafe messages maximum := by
  obtain ⟨state, leftover⟩ := sound.sequence.leftover
  have fits {bytes count : Nat} (bounded : bytes ≤ maximum) (half : maximum < wordSize / 2)
      (small : count < wordSize / 2) : checkedAdd bytes count ≠ none := by
    rw [Ne, checkedAdd_eq_none]
    omega
  have short (first : UInt8) (rest : List UInt8)
      (split : messages.sequence.utf8Tail = first :: rest) :
      messages.sequence.utf8Tail.length < Utf8.announcedWidth first := by
    rcases leftover with ⟨empty, _⟩ | unfinished
    · rw [empty] at split
      cases split
    · obtain ⟨lead, inner, same, width⟩ := unfinished.length_lt
      obtain ⟨rfl, _⟩ := List.cons.inj (split.symm.trans same)
      exact width
  constructor
  case tail_short =>
    cases split : messages.sequence.utf8Tail with
    | nil => exact Nat.zero_le 3
    | cons first rest =>
        have width := short first rest split
        have four := MessageSequence.announcedWidth_le first
        rw [split] at width
        omega
  case tail_width => exact short
  case tail_begins =>
    rcases leftover with ⟨empty, _⟩ | unfinished
    · exact Or.inl empty
    · exact Or.inr unfinished.begins_encoding
  case room =>
    intro opcode buffer _ length grows bounded
    obtain ⟨enough, within⟩ := buffer.wanted_range bounded
    refine ⟨enough, Nat.le_trans grows enough, within, ?_⟩
    intro surplus
    obtain ⟨room, made, _, holds⟩ := BufferedMessages.makeRoom_spec buffer surplus grows bounded
    exact ⟨room, made, holds⟩
  case sums =>
    intro half count small
    refine ⟨fits (Nat.zero_le _) half small, fits sound.sequence.bounded half small, ?_⟩
    intro opcode buffer collecting
    exact fits (sound.bounded collecting) half small

/-- Reassembly arithmetic never wraps and never slices out of bounds: whatever the maximum, the
frames and the room that the allocator grants, the build that stops at either does not stop, comes
to what the collector does, and leaves messages on which the next frame is safe as well. -/
theorem reassembly_arithmetic_safe (maximum : Word) (frames : List (Frame × Nat)) :
    ∃ outcome, (BufferedMessages.new maximum).checkedAll frames = some outcome ∧
      outcome.map BufferedMessages.erase =
        ((BoundedMessages.new maximum).collectAll (frames.map Prod.fst)).map Prod.fst ∧
      ∀ messages, outcome = .ok messages → ArithmeticSafe messages maximum := by
  obtain ⟨outcome, ran, same, kept⟩ := (BufferedMessages.sound_new maximum).checkedAll frames
  exact ⟨outcome, ran, same, fun messages done => (kept messages done).arithmeticSafe⟩

end EdgeGateway.Websocket
