import EdgeGateway.Library.MachineInteger
import EdgeGateway.Library.Utf8

/-!
# Streaming validation of WebSocket messages

`MessageSequence` bounds the messages of one direction and orders their fragments while it keeps
nothing of a text message but an unfinished code point.  The reference is the whole message: the
open message is recomputed from the frames so far, and a frame is admissible when ordering, size
and encoding hold of that message.  The validator accepts exactly the admissible frames.
-/

namespace EdgeGateway.Websocket

open Machine

/-- Frame kinds of the wire protocol. -/
inductive OpCode
  | continuation
  | text
  | binary
  | close
  | ping
  | pong
  deriving DecidableEq, Repr

/-- One frame as the frame parser delivers it, unmasked. -/
structure Frame where
  fin : Bool
  opcode : OpCode
  payload : List UInt8
  deriving DecidableEq, Repr

/-- Protocol errors the validator reports. -/
inductive WebSocketError
  | invalidFragment
  | invalidContinuationFrame
  | frameTooLarge
  | invalidUtf8
  deriving DecidableEq, Repr

/-- Ordering and size state of one direction. -/
structure MessageSequence where
  /-- Largest accepted message, a machine word. -/
  maximum : Word
  /-- Kind of the message that is open. -/
  opcode : Option OpCode
  /-- Payload bytes of the open message so far. -/
  bytes : Nat
  /-- Unfinished code point at the end of the open text message. -/
  utf8Tail : List UInt8
  deriving DecidableEq

namespace MessageSequence

/-- A sequence that has seen no frame. -/
def new (maximum : Word) : MessageSequence where
  maximum := maximum
  opcode := none
  bytes := 0
  utf8Tail := []

/-- Validate the bytes after the leftover code point and remember a new leftover. -/
def validateRemaining (sequence : MessageSequence) (data : List UInt8) (finalFragment : Bool) :
    Except WebSocketError MessageSequence :=
  match Utf8.fromUtf8 data with
  | .ok () => .ok sequence
  | .error error =>
      if error.errorLen.isNone && !finalFragment then
        .ok { sequence with utf8Tail := sequence.utf8Tail ++ data.drop error.validUpTo }
      else
        .error .invalidUtf8

/-- Complete the leftover code point of `width` bytes before validating the remaining data. -/
def completeTail (sequence : MessageSequence) (width : Nat) (data : List UInt8)
    (finalFragment : Bool) : Except WebSocketError MessageSequence :=
  let take := min (wrappingSub width sequence.utf8Tail.length) data.length
  let tail := sequence.utf8Tail ++ data.take take
  match Utf8.fromUtf8 tail with
  | .ok () => { sequence with utf8Tail := [] }.validateRemaining (data.drop take) finalFragment
  | .error error =>
      if error.errorLen.isNone && !finalFragment then
        .ok { sequence with utf8Tail := tail }
      else
        .error .invalidUtf8

/-- Validate one fragment of a text message. -/
def validateUtf8 (sequence : MessageSequence) (data : List UInt8) (finalFragment : Bool) :
    Except WebSocketError MessageSequence :=
  match sequence.utf8Tail with
  | [] => sequence.validateRemaining data finalFragment
  | first :: _ =>
      let width := if first < 0xE0 then 2 else if first < 0xF0 then 3 else 4
      sequence.completeTail width data finalFragment

/-- Account for the payload of a data frame whose order has been checked. -/
def account (sequence : MessageSequence) (frame : Frame) :
    Except WebSocketError MessageSequence :=
  match checkedAdd sequence.bytes frame.payload.length with
  | none => .error .frameTooLarge
  | some bytes =>
      if sequence.maximum < bytes then
        .error .frameTooLarge
      else
        let sequence := { sequence with bytes }
        let checked :=
          if sequence.opcode = some .text then
            sequence.validateUtf8 frame.payload frame.fin
          else
            .ok sequence
        checked.map fun sequence =>
          if frame.fin then { sequence with opcode := none, bytes := 0 } else sequence

/-- Validate one frame against the open message. -/
def validate (sequence : MessageSequence) (frame : Frame) :
    Except WebSocketError MessageSequence :=
  match frame.opcode with
  | .text | .binary =>
      if sequence.opcode.isSome then
        .error .invalidFragment
      else
        { sequence with opcode := some frame.opcode, bytes := 0, utf8Tail := [] }.account frame
  | .continuation =>
      if sequence.opcode.isNone then
        .error .invalidContinuationFrame
      else
        sequence.account frame
  | .close | .ping | .pong =>
      if frame.payload.length ≤ 125 then .ok sequence else .error .frameTooLarge

/-- Position of the first frame that `validate` rejects. -/
def firstRejected : MessageSequence → List Frame → Option Nat
  | _, [] => none
  | sequence, frame :: frames =>
      match sequence.validate frame with
      | .error _ => some 0
      | .ok next => (next.firstRejected frames).map (· + 1)

end MessageSequence

/-! ## The reference: whole messages -/

/-- The open message after one more frame: its kind and its payload so far. -/
def absorb (message : Option (OpCode × List UInt8)) (frame : Frame) :
    Option (OpCode × List UInt8) :=
  match frame.opcode, message with
  | .text, _ | .binary, _ => if frame.fin then none else some (frame.opcode, frame.payload)
  | .continuation, some (opcode, payload) =>
      if frame.fin then none else some (opcode, payload ++ frame.payload)
  | .continuation, none => none
  | .close, _ | .ping, _ | .pong, _ => message

/-- The message that a history of frames leaves open. -/
def openMessage (history : List Frame) : Option (OpCode × List UInt8) :=
  history.foldl absorb none

/-- Size and encoding of a message whose payload so far is `payload`. -/
def MessageAdmissible (maximum : Word) (opcode : OpCode) (payload : List UInt8) (fin : Bool) :
    Prop :=
  payload.length ≤ maximum ∧
    (opcode = .text → if fin then Utf8.Valid payload else Utf8.Extends payload)

/-- A frame that may follow a history of admissible frames. -/
def Admissible (maximum : Word) (history : List Frame) (frame : Frame) : Prop :=
  match frame.opcode with
  | .text | .binary =>
      openMessage history = none ∧
        MessageAdmissible maximum frame.opcode frame.payload frame.fin
  | .continuation =>
      ∃ opcode payload, openMessage history = some (opcode, payload) ∧
        MessageAdmissible maximum opcode (payload ++ frame.payload) frame.fin
  | .close | .ping | .pong => frame.payload.length ≤ 125

/-! ## The unfinished code point -/

namespace MessageSequence

open Utf8 (Leftover Partial announcedWidth Scanned)

/-- Outcome of validating one more fragment when the recognizer ends in `final`. -/
inductive FragmentOutcome (sequence : MessageSequence) (finalFragment : Bool) :
    Option Utf8.State → Except WebSocketError MessageSequence → Prop
  | accepted {state : Utf8.State} {tail : List UInt8} (leftover : Leftover tail state)
      (complete : finalFragment = true → state = .boundary) :
      FragmentOutcome sequence finalFragment (some state)
        (.ok { sequence with utf8Tail := tail })
  | invalid : FragmentOutcome sequence finalFragment none (.error .invalidUtf8)
  | unfinished {state : Utf8.State} (inner : state ≠ .boundary) (last : finalFragment = true) :
      FragmentOutcome sequence finalFragment (some state) (.error .invalidUtf8)

theorem validateRemaining_outcome (sequence : MessageSequence) (data : List UInt8)
    (finalFragment : Bool) (tail_empty : sequence.utf8Tail = []) :
    FragmentOutcome sequence finalFragment (Utf8.run .boundary data)
      (sequence.validateRemaining data finalFragment) := by
  have scanned := Utf8.scanned_fromUtf8 data
  rw [validateRemaining, tail_empty]
  generalize Utf8.run .boundary data = final at scanned
  generalize Utf8.fromUtf8 data = report at scanned
  cases scanned with
  | valid =>
      rw [show sequence = { sequence with utf8Tail := [] } by rw [← tail_empty]]
      exact .accepted (Or.inl ⟨rfl, rfl⟩) fun _ => rfl
  | invalid => exact .invalid
  | truncated partialTail =>
      cases finalFragment with
      | true => exact .unfinished partialTail.inner rfl
      | false => exact .accepted (Or.inr partialTail) (by simp)

/-- Clearing the leftover first does not change what a fragment may lead to. -/
theorem FragmentOutcome.of_cleared {sequence : MessageSequence} {finalFragment : Bool}
    {final : Option Utf8.State} {result : Except WebSocketError MessageSequence}
    (outcome : FragmentOutcome { sequence with utf8Tail := [] } finalFragment final result) :
    FragmentOutcome sequence finalFragment final result := by
  cases outcome with
  | accepted leftover complete => exact .accepted leftover complete
  | invalid => exact .invalid
  | unfinished inner last => exact .unfinished inner last

theorem completeTail_outcome (sequence : MessageSequence) (width : Nat) (data : List UInt8)
    (finalFragment : Bool) {state : Utf8.State} (unfinished : Partial sequence.utf8Tail state)
    (width_eq : state.owed + sequence.utf8Tail.length = width) (width_le : width ≤ 4) :
    FragmentOutcome sequence finalFragment (Utf8.run state data)
      (sequence.completeTail width data finalFragment) := by
  have exact_difference : wrappingSub width sequence.utf8Tail.length = state.owed := by
    rw [wrappingSub_of_le (by omega) (by unfold wordSize; omega)]
    omega
  rw [completeTail, exact_difference]
  generalize take_eq : min state.owed data.length = take
  have fits : (data.take take).length ≤ state.owed := by
    rw [List.length_take]
    omega
  have scanned := Utf8.scanned_fromUtf8 (sequence.utf8Tail ++ data.take take)
  rw [Utf8.run_append, unfinished.ran, Option.bind_some] at scanned
  have split_run : Utf8.run state data =
      (Utf8.run state (data.take take)).bind fun middle =>
        Utf8.run middle (data.drop take) := by
    rw [← Utf8.run_append, List.take_append_drop]
  rw [split_run]
  generalize ran : Utf8.run state (data.take take) = middle at scanned
  generalize Utf8.fromUtf8 (sequence.utf8Tail ++ data.take take) = report at scanned
  cases scanned with
  | invalid => exact .invalid
  | valid =>
      exact (validateRemaining_outcome { sequence with utf8Tail := [] } (data.drop take)
        finalFragment rfl).of_cleared
  | @truncated next cut truncatedTail =>
      -- A code point that is still open has swallowed the whole fragment.
      have paid := Utf8.owed_run fits ran
      have open_owed : 0 < next.owed :=
        Nat.pos_of_ne_zero fun zero => truncatedTail.inner (Utf8.State.owed_eq_zero.mp zero)
      have consumed : data.length ≤ take := by
        rw [List.length_take] at paid
        omega
      rw [List.drop_eq_nil_of_le consumed]
      cases finalFragment with
      | true => exact .unfinished truncatedTail.inner rfl
      | false =>
          exact .accepted (Or.inr (unfinished.extend ran fits truncatedTail.inner)) (by simp)

theorem announcedWidth_le (first : UInt8) : announcedWidth first ≤ 4 := by
  rw [announcedWidth]
  split_ifs <;> omega

/-- One fragment moves the recognizer by its own bytes, whatever the earlier fragments were. -/
theorem validateUtf8_outcome (sequence : MessageSequence) (data : List UInt8)
    (finalFragment : Bool) {state : Utf8.State} (leftover : Leftover sequence.utf8Tail state) :
    FragmentOutcome sequence finalFragment (Utf8.run state data)
      (sequence.validateUtf8 data finalFragment) := by
  rcases leftover with ⟨tail_empty, rfl⟩ | unfinished
  · have remaining := sequence.validateRemaining_outcome data finalFragment tail_empty
    rw [validateUtf8, tail_empty]
    exact remaining
  · obtain ⟨first, rest, split, width⟩ := unfinished.width
    have completed := sequence.completeTail_outcome (announcedWidth first) data finalFragment
      unfinished width (announcedWidth_le first)
    rw [validateUtf8, split]
    exact completed

end MessageSequence

/-! ## The validator tracks the open message -/

namespace MessageSequence

open Utf8 (Leftover)

/-- The validator's fields in terms of the message that the history leaves open. -/
def Tracks (sequence : MessageSequence) (maximum : Word) :
    Option (OpCode × List UInt8) → Prop
  | none => sequence.maximum = maximum ∧ sequence.opcode = none
  | some (opcode, payload) =>
      sequence.maximum = maximum ∧ sequence.opcode = some opcode ∧
        sequence.bytes = payload.length ∧
          (opcode = .text → ∃ state, Utf8.run .boundary payload = some state ∧
            Leftover sequence.utf8Tail state)

/-- The message after a fragment, or none when the fragment is its last. -/
def continued (opcode : OpCode) (payload : List UInt8) (fin : Bool) :
    Option (OpCode × List UInt8) :=
  if fin then none else some (opcode, payload)

/-- An admissible input is accepted into a good state and any other one is rejected. -/
def Judged (admissible : Prop) (good : MessageSequence → Prop)
    (result : Except WebSocketError MessageSequence) : Prop :=
  (admissible ∧ ∃ next, result = .ok next ∧ good next) ∨
    (¬admissible ∧ ∃ error, result = .error error)

theorem Judged.map {admissible : Prop} {good closed : MessageSequence → Prop}
    {result : Except WebSocketError MessageSequence} (judged : Judged admissible good result)
    (close : MessageSequence → MessageSequence) (closes : ∀ next, good next → closed (close next)) :
    Judged admissible closed (result.map close) := by
  rcases judged with ⟨holds, next, rfl, nextGood⟩ | ⟨fails, error, rfl⟩
  · exact Or.inl ⟨holds, close next, rfl, closes next nextGood⟩
  · exact Or.inr ⟨fails, error, rfl⟩

/-- Closing or continuing the message once its payload has been checked. -/
theorem tracks_finish {sequence : MessageSequence} {maximum : Word} {opcode : OpCode}
    {payload : List UInt8} {fin : Bool}
    (tracks : sequence.Tracks maximum (some (opcode, payload))) :
    (if fin then { sequence with opcode := none, bytes := 0 } else sequence).Tracks maximum
      (continued opcode payload fin) := by
  cases fin with
  | true => exact ⟨tracks.1, rfl⟩
  | false => exact tracks

/-- The text check decides the encoding clause of an admissible message. -/
theorem judged_text {sequence : MessageSequence} {maximum : Word} {payload data : List UInt8}
    {fin : Bool} (max_eq : sequence.maximum = maximum) (opcode_eq : sequence.opcode = some .text)
    (bytes_eq : sequence.bytes = (payload ++ data).length) {state : Utf8.State}
    (ran : Utf8.run .boundary payload = some state) (leftover : Leftover sequence.utf8Tail state) :
    Judged (if fin then Utf8.Valid (payload ++ data) else Utf8.Extends (payload ++ data))
      (fun next => next.Tracks maximum (some (.text, payload ++ data)))
      (sequence.validateUtf8 data fin) := by
  have outcome := sequence.validateUtf8_outcome data fin leftover
  have whole : Utf8.run .boundary (payload ++ data) = Utf8.run state data := by
    rw [Utf8.run_append, ran, Option.bind_some]
  rw [← whole] at outcome
  rw [← Utf8.run_eq_boundary_iff, ← Utf8.run_isSome_iff]
  generalize final_eq : Utf8.run .boundary (payload ++ data) = final at outcome
  generalize sequence.validateUtf8 data fin = result at outcome
  cases outcome with
  | invalid => exact Or.inr ⟨by simp, _, rfl⟩
  | @unfinished state inner last => exact Or.inr ⟨by simp [last, inner], _, rfl⟩
  | @accepted state tail leftover complete =>
      refine Or.inl ⟨?_, _, rfl, max_eq, opcode_eq, bytes_eq, fun _ => ⟨state, final_eq, leftover⟩⟩
      cases fin with
      | true => simpa using complete rfl
      | false => simp

/-- Accounting for a fragment accepts it exactly when the message stays admissible. -/
theorem judged_account {sequence : MessageSequence} {maximum : Word} {opcode : OpCode}
    {payload : List UInt8} (frame : Frame)
    (tracks : sequence.Tracks maximum (some (opcode, payload))) :
    Judged (MessageAdmissible maximum opcode (payload ++ frame.payload) frame.fin)
      (fun next => next.Tracks maximum (continued opcode (payload ++ frame.payload) frame.fin))
      (sequence.account frame) := by
  obtain ⟨max_eq, opcode_eq, bytes_eq, text⟩ := tracks
  rw [account, MessageAdmissible]
  cases added : checkedAdd sequence.bytes frame.payload.length with
  | none =>
      have overflow := checkedAdd_eq_none.mp added
      refine Or.inr ⟨fun admissible => ?_, _, rfl⟩
      have bounded := admissible.1
      rw [List.length_append] at bounded
      have := maximum.isLt
      omega
  | some bytes =>
      obtain ⟨rfl, fits⟩ := checkedAdd_eq_some.mp added
      have total : sequence.bytes + frame.payload.length =
          (payload ++ frame.payload).length := by
        rw [bytes_eq, List.length_append]
      by_cases large : (maximum : Nat) < (payload ++ frame.payload).length
      · refine Or.inr ⟨fun admissible => absurd admissible.1 (by omega), .frameTooLarge, ?_⟩
        simp only [max_eq, total, large, if_true]
      have bounded : (payload ++ frame.payload).length ≤ maximum := by omega
      simp only [max_eq, total, large, if_false, bounded, true_and]
      by_cases is_text : opcode = .text
      · obtain ⟨state, ran, leftover⟩ := text is_text
        subst is_text
        simp only [opcode_eq, if_true, forall_const]
        let counted : MessageSequence :=
          { sequence with
            maximum := maximum, opcode := some .text
            bytes := (payload ++ frame.payload).length }
        have judged := @judged_text counted maximum payload frame.payload frame.fin rfl rfl rfl
          state ran leftover
        exact judged.map _ fun next tracks => tracks_finish tracks
      · have other : sequence.opcode ≠ some .text := by simpa [opcode_eq] using is_text
        simp only [other, if_false, is_text, false_implies]
        refine Or.inl ⟨trivial, _, rfl, tracks_finish ?_⟩
        exact ⟨rfl, opcode_eq, rfl, fun text => absurd text is_text⟩

/-- One frame: the verdict is the reference's, and the state tracks the longer history. -/
theorem judged_validate {sequence : MessageSequence} {maximum : Word} {history : List Frame}
    (frame : Frame) (tracks : sequence.Tracks maximum (openMessage history)) :
    Judged (Admissible maximum history frame)
      (fun next => next.Tracks maximum (openMessage (history ++ [frame])))
      (sequence.validate frame) := by
  have longer : openMessage (history ++ [frame]) = absorb (openMessage history) frame := by
    simp [openMessage]
  rw [longer, Admissible, validate]
  generalize openMessage history = message at tracks
  obtain ⟨fin, opcode, data⟩ := frame
  have opening (kind : OpCode) :
      Judged (message = none ∧ MessageAdmissible maximum kind data fin)
        (fun next => next.Tracks maximum (continued kind data fin))
        (if sequence.opcode.isSome then
          .error .invalidFragment
        else
          { sequence with opcode := some kind, bytes := 0, utf8Tail := [] }.account
            ⟨fin, kind, data⟩) := by
    cases message with
    | some message =>
        simp only [tracks.2.1, Option.isSome_some, if_true]
        exact Or.inr ⟨by simp, _, rfl⟩
    | none =>
        simp only [tracks.2, Option.isSome_none, Bool.false_eq_true, if_false, true_and]
        let opened : MessageSequence :=
          { sequence with opcode := some kind, bytes := 0, utf8Tail := [] }
        exact @judged_account opened maximum kind [] ⟨fin, kind, data⟩
          ⟨tracks.1, rfl, rfl, fun _ => ⟨.boundary, rfl, Or.inl ⟨rfl, rfl⟩⟩⟩
  have control :
      Judged (data.length ≤ 125) (fun next => next.Tracks maximum message)
        (if data.length ≤ 125 then .ok sequence else .error .frameTooLarge) := by
    split_ifs with small
    · exact Or.inl ⟨small, _, rfl, tracks⟩
    · exact Or.inr ⟨small, _, rfl⟩
  cases opcode with
  | text => exact opening .text
  | binary => exact opening .binary
  | close => exact control
  | ping => exact control
  | pong => exact control
  | continuation =>
      cases message with
      | none =>
          simp only [tracks.2, Option.isNone_none, if_true]
          exact Or.inr ⟨by simp, _, rfl⟩
      | some message =>
          obtain ⟨kind, payload⟩ := message
          simp only [tracks.2.1, Option.isNone_some, Bool.false_eq_true, if_false]
          have judged := judged_account ⟨fin, .continuation, data⟩ tracks
          simpa [absorb, continued] using judged

/-- The first rejected frame of a longer run is the first inadmissible one. -/
theorem firstRejected_spec {sequence : MessageSequence} {maximum : Word} {history : List Frame}
    (frames : List Frame) (tracks : sequence.Tracks maximum (openMessage history)) :
    match sequence.firstRejected frames with
    | none => ∀ position (inside : position < frames.length),
        Admissible maximum (history ++ frames.take position) frames[position]
    | some first => ∃ inside : first < frames.length,
        ¬Admissible maximum (history ++ frames.take first) frames[first] ∧
          ∀ position (earlier : position < first),
            Admissible maximum (history ++ frames.take position) frames[position] := by
  induction frames generalizing sequence history with
  | nil => simp [firstRejected]
  | cons frame frames ih =>
      rw [firstRejected]
      rcases judged_validate frame tracks with
        ⟨admissible, next, accepted, nextTracks⟩ | ⟨inadmissible, error, rejected⟩
      · have rest := ih nextTracks
        simp only [accepted]
        cases found : next.firstRejected frames with
        | none =>
            simp only [found] at rest
            rintro (_ | position) inside
            · simpa using admissible
            · simpa using rest position (by simpa using inside)
        | some first =>
            simp only [found] at rest
            obtain ⟨inside, fails, earlier⟩ := rest
            refine ⟨by simpa using inside, by simpa using fails, ?_⟩
            rintro (_ | position) before
            · simpa using admissible
            · simpa using earlier position (by simpa using before)
      · simp only [rejected]
        exact ⟨by simp, by simpa using inadmissible, by simp⟩

end MessageSequence

/-- Streaming validation is whole-message validation: over every finite frame sequence the
validator accepts every frame exactly when each is admissible after the frames before it, and the
first frame it rejects is the first inadmissible one. -/
theorem validate_refines_whole_messages (maximum : Word) (frames : List Frame) :
    ((MessageSequence.new maximum).firstRejected frames = none ↔
      ∀ position (inside : position < frames.length),
        Admissible maximum (frames.take position) frames[position]) ∧
    ∀ first, (MessageSequence.new maximum).firstRejected frames = some first ↔
      ∃ inside : first < frames.length,
        ¬Admissible maximum (frames.take first) frames[first] ∧
          ∀ position (earlier : position < first),
            Admissible maximum (frames.take position) frames[position] := by
  have spec := MessageSequence.firstRejected_spec frames
    (show (MessageSequence.new maximum).Tracks maximum (openMessage []) from ⟨rfl, rfl⟩)
  simp only [List.nil_append] at spec
  generalize (MessageSequence.new maximum).firstRejected frames = found at spec
  cases found with
  | none =>
      refine ⟨⟨fun _ => spec, fun _ => rfl⟩, fun first => ⟨by simp, ?_⟩⟩
      rintro ⟨inside, fails, _⟩
      exact absurd (spec first inside) fails
  | some rejected =>
      obtain ⟨inside, fails, earlier⟩ := spec
      refine ⟨⟨by simp, fun all => absurd (all rejected inside) fails⟩, fun first => ⟨?_, ?_⟩⟩
      · intro same
        obtain rfl := Option.some.inj same
        exact ⟨inside, fails, earlier⟩
      · rintro ⟨firstInside, firstFails, firstEarlier⟩
        rcases Nat.lt_trichotomy rejected first with before | same | after
        · exact absurd (firstEarlier rejected before) fails
        · rw [same]
        · exact absurd (earlier first after) firstFails

end EdgeGateway.Websocket
