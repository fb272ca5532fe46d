import EdgeGateway.Library.Results
import EdgeGateway.Websocket.MessageSequence
import Mathlib.Data.List.Induction
import Mathlib.Data.List.ReduceOption

/-!
# Reassembly of WebSocket messages

`BoundedMessages` collects the fragments of a message behind the validator and emits the message
when its last fragment has come; control frames pass through in between.  The bridge to a plain
connection validates alone and forwards the payloads as they come.
-/

namespace EdgeGateway.Websocket

open Machine Results

/-! ## Collecting -/

/-- The validator and the message that is being collected; the capacity of its buffer carries no
meaning. -/
structure BoundedMessages where
  sequence : MessageSequence
  fragments : Option (OpCode × List UInt8)

namespace BoundedMessages

/-- Messages before the first frame. -/
def new (maximum : Word) : BoundedMessages where
  sequence := .new maximum
  fragments := none

/-- Take up one frame, and emit what it completes. -/
def collect (messages : BoundedMessages) (frame : Frame) :
    Except WebSocketError (BoundedMessages × Option Frame) :=
  match messages.sequence.validate frame with
  | .error error => .error error
  | .ok sequence =>
      match frame.opcode with
      | .text | .binary =>
          if frame.fin then .ok (⟨sequence, messages.fragments⟩, some frame)
          else .ok (⟨sequence, some (frame.opcode, frame.payload)⟩, none)
      | .continuation =>
          match messages.fragments with
          | none => .error .invalidContinuationFrame
          | some (opcode, buffer) =>
              match checkedAdd buffer.length frame.payload.length with
              | none => .error .frameTooLarge
              | some length =>
                  if sequence.maximum < length then .error .frameTooLarge
                  else if frame.fin then
                    .ok (⟨sequence, none⟩, some ⟨true, opcode, buffer ++ frame.payload⟩)
                  else .ok (⟨sequence, some (opcode, buffer ++ frame.payload)⟩, none)
      | .close | .ping | .pong => .ok (⟨sequence, messages.fragments⟩, some frame)

/-- Take up several frames; what each of them completes is emitted at its position. -/
def collectAll : BoundedMessages → List Frame →
    Except WebSocketError (BoundedMessages × List (Option Frame))
  | messages, [] => .ok (messages, [])
  | messages, frame :: frames => do
      let (messages, emitted) ← messages.collect frame
      let (messages, rest) ← messages.collectAll frames
      return (messages, emitted :: rest)

/-- The messages after one frame, whatever it emits. -/
def advance (messages : BoundedMessages) (frame : Frame) :
    Except WebSocketError BoundedMessages :=
  (messages.collect frame).map Prod.fst

end BoundedMessages

/-! ## The messages of a history -/

/-- The frame starts a message. -/
def Frame.opens (frame : Frame) : Bool :=
  frame.opcode == .text || frame.opcode == .binary

/-- The frame carries a part of a message. -/
def Frame.isData (frame : Frame) : Bool :=
  frame.opens || frame.opcode == .continuation

/-- The parts of the latest message after one more frame. -/
def extendMessage (parts : List Frame) (frame : Frame) : List Frame :=
  if frame.opens then [frame] else if frame.isData then parts ++ [frame] else parts

/-- The parts of the latest message of a history: the last frame that starts one, and the
continuations after it. -/
def latestMessage (history : List Frame) : List Frame :=
  history.foldl extendMessage []

/-- The payloads of frames, one after the other. -/
def payloads (frames : List Frame) : List UInt8 :=
  frames.flatMap Frame.payload

/-- A message in parts: the first one tells its kind, and the last one alone is final. -/
structure IsMessage (first : Frame) (rest : List Frame) (last : Frame) : Prop where
  starts : first.opens = true
  continues : ∀ frame ∈ rest, frame.opcode = .continuation
  unfinished : ∀ frame ∈ (first :: rest).dropLast, frame.fin = false
  final : (first :: rest).getLast? = some last ∧ last.fin = true

/-- What a frame after a history is to emit: a control frame itself, and the last part of a
message the whole message. -/
def reassembled (history : List Frame) (frame : Frame) : Option Frame :=
  if !frame.isData then some frame
  else if frame.fin then
    match latestMessage (history ++ [frame]) with
    | [] => none
    | first :: rest => some ⟨true, first.opcode, payloads (first :: rest)⟩
  else none

@[simp] theorem openMessage_append (history : List Frame) (frame : Frame) :
    openMessage (history ++ [frame]) = absorb (openMessage history) frame := by
  simp [openMessage]

@[simp] theorem latestMessage_append (history : List Frame) (frame : Frame) :
    latestMessage (history ++ [frame]) = extendMessage (latestMessage history) frame := by
  simp [latestMessage]

/-- The parts of the message that a history leaves open. -/
structure OpenParts (history : List Frame) (opcode : OpCode) (payload : List UInt8)
    (first : Frame) (rest : List Frame) : Prop where
  parts : latestMessage history = first :: rest
  kind : first.opcode = opcode
  whole : payloads (first :: rest) = payload
  starts : first.opens = true
  continues : ∀ frame ∈ rest, frame.opcode = .continuation
  unfinished : ∀ frame ∈ first :: rest, frame.fin = false

/-- The open message of a history is made of its latest parts. -/
theorem openParts_of_openMessage {history : List Frame} {opcode : OpCode} {payload : List UInt8}
    (message : openMessage history = some (opcode, payload)) :
    ∃ first rest, OpenParts history opcode payload first rest := by
  induction history using List.reverseRecOn generalizing opcode payload with
  | nil => cases message
  | append_singleton history frame ih =>
      rw [openMessage_append] at message
      obtain ⟨fin, kind, data⟩ := frame
      have opening (opens : Frame.opens ⟨fin, kind, data⟩ = true)
          (kept : (if fin then none else some (kind, data)) = some (opcode, payload)) :
          ∃ first rest, OpenParts (history ++ [⟨fin, kind, data⟩]) opcode payload first rest := by
        cases fin with
        | true => cases kept
        | false =>
            cases kept
            refine ⟨⟨false, opcode, payload⟩, [], ?_, rfl, by simp [payloads], opens, by simp,
              by simp⟩
            rw [latestMessage_append, extendMessage, if_pos opens]
      have passing (control : Frame.isData ⟨fin, kind, data⟩ = false)
          (kept : openMessage history = some (opcode, payload)) :
          ∃ first rest, OpenParts (history ++ [⟨fin, kind, data⟩]) opcode payload first rest := by
        obtain ⟨first, rest, parts, own, whole, starts, continues, unfinished⟩ := ih kept
        refine ⟨first, rest, ?_, own, whole, starts, continues, unfinished⟩
        have silent : Frame.opens ⟨fin, kind, data⟩ = false := (Bool.or_eq_false_iff.mp control).1
        rw [latestMessage_append, extendMessage, silent, control, parts]
        rfl
      cases kind with
      | text => exact opening rfl message
      | binary => exact opening rfl message
      | close => exact passing rfl message
      | ping => exact passing rfl message
      | pong => exact passing rfl message
      | continuation =>
          cases before : openMessage history with
          | none =>
              rw [before] at message
              cases message
          | some found =>
              obtain ⟨kind, collected⟩ := found
              obtain ⟨first, rest, parts, own, whole, starts, continues, unfinished⟩ := ih before
              rw [before] at message
              cases fin with
              | true => cases message
              | false =>
                  cases message
                  refine ⟨first, rest ++ [⟨false, .continuation, data⟩], ?_, own, ?_, starts, ?_,
                    ?_⟩
                  · rw [latestMessage_append, parts]
                    rfl
                  · rw [← whole]
                    simp [payloads]
                  · simpa [or_imp, forall_and] using continues
                  · simpa [or_imp, forall_and, and_assoc] using unfinished

/-! ## What one frame does -/

/-- What a frame emits after a history that leaves a message open. -/
def emission (message : Option (OpCode × List UInt8)) (frame : Frame) : Option Frame :=
  match frame.opcode, message with
  | .text, _ | .binary, _ => if frame.fin then some frame else none
  | .continuation, some (opcode, payload) =>
      if frame.fin then some ⟨true, opcode, payload ++ frame.payload⟩ else none
  | .continuation, none => none
  | .close, _ | .ping, _ | .pong, _ => some frame

namespace BoundedMessages

/-- The collected message and the validator are those of the history. -/
structure Follows (messages : BoundedMessages) (maximum : Word) (history : List Frame) : Prop where
  tracks : messages.sequence.Tracks maximum (openMessage history)
  buffer : messages.fragments = openMessage history
  bounded : ∀ opcode payload, openMessage history = some (opcode, payload) →
    payload.length ≤ maximum

theorem follows_new (maximum : Word) : (new maximum).Follows maximum [] := by
  refine ⟨⟨rfl, rfl⟩, rfl, ?_⟩
  intro opcode payload message
  cases message

/-- An admissible frame leaves a message within the maximum open, if any. -/
theorem bounded_openMessage {maximum : Word} {history : List Frame} {frame : Frame}
    (admissible : Admissible maximum history frame)
    (bounded : ∀ opcode payload, openMessage history = some (opcode, payload) →
      payload.length ≤ maximum) {opcode : OpCode} {payload : List UInt8}
    (message : openMessage (history ++ [frame]) = some (opcode, payload)) :
    payload.length ≤ maximum := by
  rw [openMessage_append] at message
  obtain ⟨fin, kind, data⟩ := frame
  have started (fits : data.length ≤ maximum)
      (kept : (if fin then none else some (kind, data)) = some (opcode, payload)) :
      payload.length ≤ maximum := by
    cases fin with
    | true => cases kept
    | false =>
        cases kept
        exact fits
  cases kind with
  | text => exact started admissible.2.1 message
  | binary => exact started admissible.2.1 message
  | close => exact bounded opcode payload message
  | ping => exact bounded opcode payload message
  | pong => exact bounded opcode payload message
  | continuation =>
      obtain ⟨kind, collected, opened, fits, _⟩ := admissible
      rw [opened] at message
      cases fin with
      | true => cases message
      | false =>
          cases message
          exact fits

/-- What collecting one frame comes to: the validator alone decides, and its verdict goes with the
message that the frame leaves open. -/
inductive Collected (messages : BoundedMessages) (maximum : Word) (history : List Frame)
    (frame : Frame) : Prop
  | accepted {sequence : MessageSequence} (admissible : Admissible maximum history frame)
      (validated : messages.sequence.validate frame = .ok sequence)
      (collected : messages.collect frame =
        .ok (⟨sequence, openMessage (history ++ [frame])⟩, emission (openMessage history) frame))
      (follows : Follows ⟨sequence, openMessage (history ++ [frame])⟩ maximum (history ++ [frame]))
  | rejected {error : WebSocketError} (validated : messages.sequence.validate frame = .error error)
      (collected : messages.collect frame = .error error)

theorem Tracks.maximum_eq {sequence : MessageSequence} {maximum : Word}
    {message : Option (OpCode × List UInt8)} (tracks : sequence.Tracks maximum message) :
    sequence.maximum = maximum := by
  cases message with
  | none => exact tracks.1
  | some message => exact tracks.1

theorem Follows.collected {messages : BoundedMessages} {maximum : Word} {history : List Frame}
    (follows : messages.Follows maximum history) (frame : Frame) :
    Collected messages maximum history frame := by
  rcases MessageSequence.judged_validate frame follows.tracks with
    ⟨admissible, sequence, validated, tracks⟩ | ⟨_, error, validated⟩
  · refine .accepted admissible validated ?_
      ⟨tracks, rfl, fun _ _ => bounded_openMessage admissible follows.bounded⟩
    rw [collect, validated, openMessage_append]
    obtain ⟨fin, opcode, data⟩ := frame
    have buffer := follows.buffer
    cases opcode with
    | text =>
        have closed : openMessage history = none := admissible.1
        cases fin with
        | true => simp [absorb, emission, buffer, closed]
        | false => simp [absorb, emission]
    | binary =>
        have closed : openMessage history = none := admissible.1
        cases fin with
        | true => simp [absorb, emission, buffer, closed]
        | false => simp [absorb, emission]
    | close => simp [absorb, emission, buffer]
    | ping => simp [absorb, emission, buffer]
    | pong => simp [absorb, emission, buffer]
    | continuation =>
        obtain ⟨opcode, payload, opened, bounded, _⟩ := admissible
        -- The validator has bounded the whole message, so the buffer cannot outgrow it.
        rw [List.length_append] at bounded
        have fits : checkedAdd payload.length data.length = some (payload.length + data.length) :=
          checkedAdd_eq_some.mpr ⟨rfl, Nat.lt_of_le_of_lt bounded maximum.isLt⟩
        have small : ¬(sequence.maximum : Nat) < payload.length + data.length := by
          rw [Tracks.maximum_eq tracks]
          exact Nat.not_lt.mpr bounded
        cases fin with
        | true => simp [absorb, emission, buffer, opened, fits, small]
        | false => simp [absorb, emission, buffer, opened, fits, small]
  · refine .rejected validated ?_
    rw [collect, validated]

/-! ## Runs -/

/-- What a run of accepted frames leaves, and what it emits at every position. -/
structure Ran (messages : BoundedMessages) (maximum : Word) (history frames : List Frame)
    (collected : BoundedMessages) (emitted : List (Option Frame)) : Prop where
  follows : collected.Follows maximum (history ++ frames)
  length : emitted.length = frames.length
  admissible : ∀ position (inside : position < frames.length),
    Admissible maximum (history ++ frames.take position) frames[position]
  emits : ∀ position (inside : position < frames.length),
    emitted[position]? =
      some (emission (openMessage (history ++ frames.take position)) frames[position])

theorem Follows.ran {messages collected : BoundedMessages} {maximum : Word}
    {history frames : List Frame} {emitted : List (Option Frame)}
    (follows : messages.Follows maximum history)
    (done : messages.collectAll frames = .ok (collected, emitted)) :
    Ran messages maximum history frames collected emitted := by
  induction frames generalizing messages history emitted with
  | nil =>
      cases done
      rw [← List.append_nil history] at follows
      refine ⟨follows, rfl, ?_, ?_⟩
      · intro position inside
        cases inside
      · intro position inside
        cases inside
  | cons frame frames ih =>
      simp only [collectAll, bind_eq_ok, Prod.exists] at done
      obtain ⟨middle, first, stepped, final, rest, remaining, same⟩ := done
      cases same
      cases follows.collected frame with
      | rejected _ failed =>
          rw [failed] at stepped
          cases stepped
      | accepted admissible _ collected_eq next =>
          rw [collected_eq] at stepped
          cases stepped
          obtain ⟨left_open, same_length, admitted, emits⟩ := ih next remaining
          rw [List.append_assoc, List.singleton_append] at left_open
          refine ⟨left_open, congrArg (· + 1) same_length, ?_, ?_⟩
          · rintro (_ | position) inside
            · simpa using admissible
            · have later := admitted position (Nat.lt_of_succ_lt_succ inside)
              rw [List.append_assoc, List.singleton_append] at later
              exact later
          · rintro (_ | position) inside
            · simp
            · have later := emits position (Nat.lt_of_succ_lt_succ inside)
              rw [List.append_assoc, List.singleton_append] at later
              exact later

/-- The beginning of accepted frames is accepted, and emits the beginning of what they emit. -/
theorem collectAll_take {messages collected : BoundedMessages} {frames : List Frame}
    {emitted : List (Option Frame)} (done : messages.collectAll frames = .ok (collected, emitted))
    (count : Nat) :
    ∃ before, messages.collectAll (frames.take count) = .ok (before, emitted.take count) := by
  induction frames generalizing messages emitted count with
  | nil =>
      cases done
      exact ⟨collected, by rw [List.take_nil, List.take_nil]; rfl⟩
  | cons frame frames ih =>
      simp only [collectAll, bind_eq_ok, Prod.exists] at done
      obtain ⟨middle, first, stepped, final, rest, remaining, same⟩ := done
      cases same
      cases count with
      | zero => exact ⟨messages, rfl⟩
      | succ count =>
          obtain ⟨before, reached⟩ := ih remaining count
          refine ⟨before, ?_⟩
          rw [List.take_succ_cons, List.take_succ_cons, collectAll, stepped]
          simp only [bind, Except.bind, reached]
          rfl

/-- Frames are accepted one after the other exactly when they are collected as a whole. -/
theorem foldlM_advance_eq_ok {messages collected : BoundedMessages} {frames : List Frame} :
    frames.foldlM advance messages = .ok collected ↔
      ∃ emitted, messages.collectAll frames = .ok (collected, emitted) := by
  induction frames generalizing messages with
  | nil =>
      simp only [collectAll, List.foldlM_nil]
      constructor
      · intro same
        cases same
        exact ⟨[], rfl⟩
      · rintro ⟨emitted, same⟩
        cases same
        rfl
  | cons frame frames ih =>
      simp only [List.foldlM_cons, collectAll, bind_eq_ok, Prod.exists, advance, map_eq_ok]
      constructor
      · rintro ⟨_, ⟨taken, first, stepped, rfl⟩, rest⟩
        obtain ⟨emitted, collected⟩ := ih.mp rest
        exact ⟨first :: emitted, taken, first, stepped, _, emitted, collected, rfl⟩
      · rintro ⟨emitted, middle, first, stepped, last, later, collected, same⟩
        cases same
        exact ⟨middle, ⟨middle, first, stepped, rfl⟩, ih.mpr ⟨later, collected⟩⟩

/-- A frame is either refused or taken up, and the messages follow the longer history. -/
theorem Follows.advance_cases {messages : BoundedMessages} {maximum : Word} {history : List Frame}
    (follows : messages.Follows maximum history) (frame : Frame) :
    (∃ error, messages.sequence.validate frame = .error error ∧
      messages.advance frame = .error error) ∨
    ∃ next, messages.sequence.validate frame = .ok next.sequence ∧
      messages.advance frame = .ok next ∧ next.Follows maximum (history ++ [frame]) := by
  cases follows.collected frame with
  | rejected validated collected =>
      exact .inl ⟨_, validated, by rw [advance, collected]; rfl⟩
  | accepted _ validated collected next =>
      exact .inr ⟨_, validated, by rw [advance, collected]; rfl, next⟩

theorem Follows.advanced {messages collected : BoundedMessages} {maximum : Word}
    {history frames : List Frame} (follows : messages.Follows maximum history)
    (done : frames.foldlM advance messages = .ok collected) :
    collected.Follows maximum (history ++ frames) := by
  obtain ⟨emitted, done⟩ := foldlM_advance_eq_ok.mp done
  exact (follows.ran done).follows


end BoundedMessages

/-! ## Emitted messages are whole -/

/-- The parts of the message that an admissible final frame completes. -/
theorem isMessage_of_final {maximum : Word} {history : List Frame} {frame : Frame}
    (admissible : Admissible maximum history frame) (data : frame.isData = true)
    (final : frame.fin = true) :
    ∃ first rest, latestMessage (history ++ [frame]) = first :: rest ∧
      IsMessage first rest frame ∧ (payloads (first :: rest)).length ≤ maximum ∧
      emission (openMessage history) frame =
        some ⟨true, first.opcode, payloads (first :: rest)⟩ := by
  obtain ⟨fin, kind, bytes⟩ := frame
  subst final
  have single (opens : Frame.opens ⟨true, kind, bytes⟩ = true) (fits : bytes.length ≤ maximum)
      (emits : emission (openMessage history) ⟨true, kind, bytes⟩ = some ⟨true, kind, bytes⟩) :
      ∃ first rest, latestMessage (history ++ [⟨true, kind, bytes⟩]) = first :: rest ∧
        IsMessage first rest ⟨true, kind, bytes⟩ ∧ (payloads (first :: rest)).length ≤ maximum ∧
        emission (openMessage history) ⟨true, kind, bytes⟩ =
          some ⟨true, first.opcode, payloads (first :: rest)⟩ := by
    refine ⟨⟨true, kind, bytes⟩, [], ?_, ⟨opens, by simp, by simp, rfl, rfl⟩, ?_, ?_⟩
    · rw [latestMessage_append, extendMessage, if_pos opens]
    · simpa [payloads] using fits
    · simpa [payloads] using emits
  cases kind with
  | text => exact single rfl admissible.2.1 rfl
  | binary => exact single rfl admissible.2.1 rfl
  | close => cases data
  | ping => cases data
  | pong => cases data
  | continuation =>
      obtain ⟨opcode, payload, opened, fits, _⟩ := admissible
      obtain ⟨first, rest, parts, own, whole, starts, continues, unfinished⟩ :=
        openParts_of_openMessage opened
      refine ⟨first, rest ++ [⟨true, .continuation, bytes⟩], ?_, ⟨starts, ?_, ?_, ?_, rfl⟩, ?_, ?_⟩
      · rw [latestMessage_append, parts]
        rfl
      · simpa [or_imp, forall_and] using continues
      · rw [← List.cons_append, List.dropLast_concat]
        exact unfinished
      · rw [← List.cons_append, List.getLast?_concat]
      · rw [← whole] at fits
        simpa [payloads] using fits
      · rw [opened, ← whole, own]
        simp [emission, payloads]

theorem emission_eq_reassembled {maximum : Word} {history : List Frame} {frame : Frame}
    (admissible : Admissible maximum history frame) :
    emission (openMessage history) frame = reassembled history frame := by
  cases data : frame.isData with
  | false =>
      rw [reassembled, data]
      obtain ⟨fin, kind, bytes⟩ := frame
      cases kind with
      | text => cases data
      | binary => cases data
      | continuation => cases data
      | close => rfl
      | ping => rfl
      | pong => rfl
  | true =>
      cases final : frame.fin with
      | true =>
          obtain ⟨first, rest, parts, _, _, emits⟩ := isMessage_of_final admissible data final
          simp only [reassembled, data, final, parts, emits, Bool.not_true, Bool.false_eq_true,
            if_false, if_true]
      | false =>
          simp only [reassembled, data, final, Bool.not_true, Bool.false_eq_true, if_false]
          obtain ⟨fin, kind, bytes⟩ := frame
          cases final
          cases kind with
          | text => rfl
          | binary => rfl
          | close => cases data
          | ping => cases data
          | pong => cases data
          | continuation =>
              obtain ⟨opcode, payload, opened, _⟩ := admissible
              rw [opened]
              rfl

/-! ## No byte is lost -/

/-- The payload of the message that is still being collected. -/
def openPayload (message : Option (OpCode × List UInt8)) : List UInt8 :=
  (message.map Prod.snd).getD []

/-- The payloads of the data messages among emitted frames. -/
def emittedPayloads (emitted : List (Option Frame)) : List UInt8 :=
  payloads (emitted.reduceOption.filter Frame.isData)

theorem emittedPayloads_cons (first : Option Frame) (rest : List (Option Frame)) :
    emittedPayloads (first :: rest) = emittedPayloads [first] ++ emittedPayloads rest := by
  cases first with
  | none => rfl
  | some frame =>
      by_cases data : frame.isData = true
      · simp [emittedPayloads, payloads, List.reduceOption_cons_of_some, data]
      · simp [emittedPayloads, payloads, List.reduceOption_cons_of_some, data]

theorem dataPayloads_cons (frame : Frame) (frames : List Frame) :
    payloads ((frame :: frames).filter Frame.isData) =
      payloads ([frame].filter Frame.isData) ++ payloads (frames.filter Frame.isData) := by
  rw [← List.singleton_append, List.filter_append, payloads, List.flatMap_append]
  rfl

/-- One frame moves bytes from the open message into the emitted ones, and adds its own. -/
theorem emission_conserves {maximum : Word} {history : List Frame} {frame : Frame}
    (admissible : Admissible maximum history frame) :
    emittedPayloads [emission (openMessage history) frame] ++
        openPayload (openMessage (history ++ [frame])) =
      openPayload (openMessage history) ++ payloads ([frame].filter Frame.isData) := by
  rw [openMessage_append]
  obtain ⟨fin, kind, bytes⟩ := frame
  cases kind with
  | text =>
      have closed : openMessage history = none := admissible.1
      cases fin with
      | true => simp [emission, absorb, closed, emittedPayloads, openPayload, payloads,
          Frame.isData, Frame.opens, List.reduceOption]
      | false => simp [emission, absorb, closed, emittedPayloads, openPayload, payloads,
          Frame.isData, Frame.opens, List.reduceOption]
  | binary =>
      have closed : openMessage history = none := admissible.1
      cases fin with
      | true => simp [emission, absorb, closed, emittedPayloads, openPayload, payloads,
          Frame.isData, Frame.opens, List.reduceOption]
      | false => simp [emission, absorb, closed, emittedPayloads, openPayload, payloads,
          Frame.isData, Frame.opens, List.reduceOption]
  | close => simp [emission, absorb, emittedPayloads, payloads, Frame.isData, Frame.opens,
      List.reduceOption]
  | ping => simp [emission, absorb, emittedPayloads, payloads, Frame.isData, Frame.opens,
      List.reduceOption]
  | pong => simp [emission, absorb, emittedPayloads, payloads, Frame.isData, Frame.opens,
      List.reduceOption]
  | continuation =>
      obtain ⟨opcode, payload, opened, _⟩ := admissible
      obtain ⟨first, _, _, rfl, _, starts, _⟩ := openParts_of_openMessage opened
      have data : Frame.isData ⟨true, first.opcode, payload ++ bytes⟩ = true := by
        simp only [Frame.isData, Frame.opens] at starts ⊢
        rw [starts, Bool.true_or]
      cases fin with
      | true =>
          have joined : emittedPayloads [some ⟨true, first.opcode, payload ++ bytes⟩] =
              payload ++ bytes := by
            rw [emittedPayloads, List.reduceOption_cons_of_some, List.reduceOption_nil,
              List.filter_cons_of_pos data]
            simp [payloads]
          simp [emission, absorb, opened, joined, openPayload, payloads, Frame.isData, Frame.opens]
      | false => simp [emission, absorb, opened, emittedPayloads, openPayload, payloads,
          List.reduceOption, Frame.isData, Frame.opens]

theorem BoundedMessages.Follows.conserves {messages collected : BoundedMessages} {maximum : Word}
    {history frames : List Frame} {emitted : List (Option Frame)}
    (follows : messages.Follows maximum history)
    (done : messages.collectAll frames = .ok (collected, emitted)) :
    emittedPayloads emitted ++ openPayload collected.fragments =
      openPayload messages.fragments ++ payloads (frames.filter Frame.isData) := by
  induction frames generalizing messages history emitted with
  | nil =>
      cases done
      simp [emittedPayloads, payloads, List.reduceOption]
  | cons frame frames ih =>
      simp only [collectAll, bind_eq_ok, Prod.exists] at done
      obtain ⟨middle, first, stepped, final, rest, remaining, same⟩ := done
      cases same
      cases follows.collected frame with
      | rejected _ failed =>
          rw [failed] at stepped
          cases stepped
      | accepted admissible _ collected_eq next =>
          rw [collected_eq] at stepped
          cases stepped
          calc emittedPayloads (emission (openMessage history) frame :: rest) ++
                openPayload collected.fragments
              = emittedPayloads [emission (openMessage history) frame] ++
                  (emittedPayloads rest ++ openPayload collected.fragments) := by
                rw [emittedPayloads_cons, List.append_assoc]
            _ = emittedPayloads [emission (openMessage history) frame] ++
                  (openPayload (openMessage (history ++ [frame])) ++
                    payloads (frames.filter Frame.isData)) := by
                rw [ih next remaining]
            _ = openPayload (openMessage history) ++ payloads ([frame].filter Frame.isData) ++
                  payloads (frames.filter Frame.isData) := by
                rw [← List.append_assoc, emission_conserves admissible]
            _ = openPayload messages.fragments ++
                  payloads ((frame :: frames).filter Frame.isData) := by
                rw [follows.buffer, dataPayloads_cons frame frames, List.append_assoc]

/-- Reassembly is exact: a control frame passes through at its own position, the final part of a
message emits that message as a whole, and any other part emits nothing.  No payload byte is lost,
and neither a message nor the buffer outgrows the maximum. -/
theorem reassembly_exact {maximum : Word} {frames : List Frame} {collected : BoundedMessages}
    {emitted : List (Option Frame)}
    (accepted : (BoundedMessages.new maximum).collectAll frames = .ok (collected, emitted)) :
    emitted.length = frames.length ∧
      (∀ position (inside : position < frames.length),
        emitted[position]? = some (reassembled (frames.take position) frames[position])) ∧
      (∀ position (inside : position < frames.length), frames[position].isData = true →
        frames[position].fin = true →
        ∃ first rest, latestMessage (frames.take position ++ [frames[position]]) = first :: rest ∧
          IsMessage first rest frames[position] ∧ (payloads (first :: rest)).length ≤ maximum) ∧
      (∀ count, ∃ before, (BoundedMessages.new maximum).collectAll (frames.take count) =
          .ok (before, emitted.take count) ∧
        ∀ opcode buffer, before.fragments = some (opcode, buffer) → buffer.length ≤ maximum) ∧
      emittedPayloads emitted ++ openPayload collected.fragments =
        payloads (frames.filter Frame.isData) := by
  have start := BoundedMessages.follows_new maximum
  have ran := start.ran accepted
  refine ⟨ran.length, ?_, ?_, ?_, ?_⟩
  · intro position inside
    have emits := ran.emits position inside
    rw [emission_eq_reassembled (ran.admissible position inside)] at emits
    exact emits
  · intro position inside data final
    obtain ⟨first, rest, parts, message, fits, _⟩ :=
      isMessage_of_final (ran.admissible position inside) data final
    exact ⟨first, rest, parts, message, fits⟩
  · intro count
    obtain ⟨before, reached⟩ := BoundedMessages.collectAll_take accepted count
    have follows := (start.ran reached).follows
    refine ⟨before, reached, ?_⟩
    intro opcode buffer collecting
    exact follows.bounded opcode buffer (follows.buffer.symm.trans collecting)
  · exact start.conserves accepted

/-- Two parts of a text with a ping in between. -/
theorem reassembly_exact_interleaved :
    ∃ collected, (BoundedMessages.new ⟨8, by decide⟩).collectAll
        [⟨false, .text, [0x68]⟩, ⟨true, .ping, [1]⟩, ⟨true, .continuation, [0x69]⟩] =
          .ok (collected, [none, some ⟨true, .ping, [1]⟩, some ⟨true, .text, [0x68, 0x69]⟩]) ∧
      emittedPayloads [none, some ⟨true, .ping, [1]⟩, some ⟨true, .text, [0x68, 0x69]⟩] ++
        openPayload collected.fragments = [0x68, 0x69] := by
  have accepted : (BoundedMessages.new ⟨8, by decide⟩).collectAll
      [⟨false, .text, [0x68]⟩, ⟨true, .ping, [1]⟩, ⟨true, .continuation, [0x69]⟩] =
        .ok (⟨.new ⟨8, by decide⟩, none⟩,
          [none, some ⟨true, .ping, [1]⟩, some ⟨true, .text, [0x68, 0x69]⟩]) := by
    rfl
  exact ⟨_, accepted, (reassembly_exact accepted).2.2.2.2⟩

/-! ## The bridge to a plain connection -/

/-- The validator of a bridge and the bytes that it has forwarded. -/
structure TcpBridge where
  messages : MessageSequence
  forwarded : List UInt8

/-- A bridge before the first frame. -/
def TcpBridge.new (maximum : Word) : TcpBridge := ⟨.new maximum, []⟩

/-- Why a bridge stops reading frames. -/
inductive PumpEnd
  | error (error : WebSocketError)
  | peerClosed
deriving DecidableEq, Repr

/-- Validate one frame, and forward its payload unless it is a control frame. -/
def TcpBridge.pump (bridge : TcpBridge) (frame : Frame) : Except PumpEnd TcpBridge :=
  match bridge.messages.validate frame with
  | .error error => .error (.error error)
  | .ok messages =>
      match frame.opcode with
      | .text | .binary | .continuation => .ok ⟨messages, bridge.forwarded ++ frame.payload⟩
      | .close => .error .peerClosed
      | .ping | .pong => .ok ⟨messages, bridge.forwarded⟩

/-- What a bridge does with a frame that its validator accepts. -/
theorem TcpBridge.pump_of_validate {bridge : TcpBridge} {sequence : MessageSequence} {frame : Frame}
    (validated : bridge.messages.validate frame = .ok sequence) :
    bridge.pump frame = if frame.opcode = .close then .error .peerClosed
      else .ok ⟨sequence, bridge.forwarded ++ payloads ([frame].filter Frame.isData)⟩ := by
  obtain ⟨fin, kind, bytes⟩ := frame
  rw [pump, validated]
  cases kind <;> simp [payloads, Frame.isData, Frame.opens]

/-- A bridge reads the frames that the collector takes up, as long as none of them closes, and
forwards the payloads of their data. -/
theorem TcpBridge.read_iff {bridge result : TcpBridge} {messages : BoundedMessages}
    {maximum : Word} {history frames : List Frame} (follows : messages.Follows maximum history)
    (same : bridge.messages = messages.sequence) :
    frames.foldlM TcpBridge.pump bridge = .ok result ↔
      (∀ frame ∈ frames, frame.opcode ≠ .close) ∧
        ∃ collected, frames.foldlM BoundedMessages.advance messages = .ok collected ∧
          result = ⟨collected.sequence,
            bridge.forwarded ++ payloads (frames.filter Frame.isData)⟩ := by
  induction frames generalizing bridge messages history with
  | nil =>
      obtain ⟨validator, forwarded⟩ := bridge
      cases same
      constructor
      · intro read
        cases read
        exact ⟨by simp, messages, rfl, by simp [payloads]⟩
      · rintro ⟨_, _, advanced, rfl⟩
        cases advanced
        simp [payloads]
        rfl
  | cons frame frames ih =>
      rw [List.foldlM_cons, List.foldlM_cons, List.forall_mem_cons, bind_eq_ok]
      simp only [bind_eq_ok]
      rcases follows.advance_cases frame with
        ⟨error, validated, failed⟩ | ⟨next, validated, advanced, later⟩
      · rw [← same] at validated
        have refused : bridge.pump frame = .error (.error error) := by rw [pump, validated]
        simp [refused, failed]
      · rw [← same] at validated
        rw [pump_of_validate validated]
        split_ifs with closes
        · simp [closes]
        · have again := @ih ⟨next.sequence,
            bridge.forwarded ++ payloads ([frame].filter Frame.isData)⟩ next _ later rfl
          simp only [advanced, Except.ok.injEq, exists_eq_left', again, closes, ne_eq,
            not_false_eq_true, true_and, List.append_assoc, ← dataPayloads_cons]

/-- Why a bridge stops at a frame: the collector refuses the frame, or it takes up a frame that
closes. -/
def StopsAt (maximum : Word) (frames : List Frame) (index : Nat) : PumpEnd → Prop
  | .error error =>
      firstFailure BoundedMessages.advance (.new maximum) frames = some (index, error)
  | .peerClosed =>
      (frames[index]?.map Frame.opcode = some .close) ∧
        ∃ outcome, (BoundedMessages.new maximum).collectAll (frames.take (index + 1)) = .ok outcome

/-- A bridge stops at the first frame that the collector refuses or that closes. -/
theorem TcpBridge.stops_iff {maximum : Word} {frames : List Frame} {index : Nat}
    {reason : PumpEnd} :
    firstFailure TcpBridge.pump (.new maximum) frames = some (index, reason) ↔
      (∀ frame ∈ frames.take index, frame.opcode ≠ .close) ∧
        StopsAt maximum frames index reason := by
  have start := BoundedMessages.follows_new maximum
  have read {bridge : TcpBridge} := @TcpBridge.read_iff (.new maximum) bridge _ _ _
    (frames.take index) start rfl
  rw [firstFailure_eq_some]
  constructor
  · rintro ⟨frame, bridge, listed, before, stopped⟩
    obtain ⟨unclosed, messages, advanced, rfl⟩ := read.mp before
    refine ⟨unclosed, ?_⟩
    rcases (start.advanced advanced).advance_cases frame with
      ⟨error, validated, failed⟩ | ⟨next, validated, taken, _⟩
    · rw [TcpBridge.pump, validated] at stopped
      cases stopped
      exact firstFailure_eq_some.mpr ⟨frame, messages, listed, advanced, failed⟩
    · rw [TcpBridge.pump_of_validate validated] at stopped
      split_ifs at stopped with closes
      cases stopped
      refine ⟨by rw [listed, Option.map_some, closes], ?_⟩
      obtain ⟨emitted, collected⟩ := BoundedMessages.foldlM_advance_eq_ok.mp
        ((foldlM_take_succ listed).mpr ⟨messages, advanced, taken⟩)
      exact ⟨_, collected⟩
  · rintro ⟨unclosed, stops⟩
    cases reason with
    | error error =>
        obtain ⟨frame, messages, listed, advanced, failed⟩ := firstFailure_eq_some.mp stops
        refine ⟨frame, _, listed, read.mpr ⟨unclosed, messages, advanced, rfl⟩, ?_⟩
        rcases (start.advanced advanced).advance_cases frame with
          ⟨own, validated, refused⟩ | ⟨next, _, taken, _⟩
        · rw [failed] at refused
          cases refused
          rw [TcpBridge.pump, validated]
        · rw [failed] at taken
          cases taken
    | peerClosed =>
        obtain ⟨closes, ⟨collected, emitted⟩, done⟩ := stops
        obtain ⟨frame, listed, closing⟩ := Option.map_eq_some_iff.mp closes
        obtain ⟨messages, advanced, last⟩ :=
          (foldlM_take_succ listed).mp (BoundedMessages.foldlM_advance_eq_ok.mpr ⟨_, done⟩)
        refine ⟨frame, _, listed, read.mpr ⟨unclosed, messages, advanced, rfl⟩, ?_⟩
        rcases (start.advanced advanced).advance_cases frame with
          ⟨_, _, refused⟩ | ⟨next, validated, _, _⟩
        · rw [last] at refused
          cases refused
        · rw [TcpBridge.pump_of_validate validated, if_pos closing]

/-- The relay that collects messages and the bridge that only validates them agree: they fail at
the same frame with the same error, and the payloads that come in are those of the emitted messages
and of the message that is still being collected.  A bridge reads exactly the frames without a
close frame that the collector takes up, forwards these bytes, and stops at the first frame that
the collector refuses or that closes. -/
theorem relay_agrees_with_bridge (maximum : Word) (frames : List Frame) :
    firstFailure BoundedMessages.advance (.new maximum) frames =
        firstFailure MessageSequence.validate (.new maximum) frames ∧
      (∀ collected emitted,
        (BoundedMessages.new maximum).collectAll frames = .ok (collected, emitted) →
        payloads (frames.filter Frame.isData) =
          emittedPayloads emitted ++ openPayload collected.fragments) ∧
      (∀ bridge, frames.foldlM TcpBridge.pump (.new maximum) = .ok bridge ↔
        (∀ frame ∈ frames, frame.opcode ≠ .close) ∧ ∃ collected emitted,
          (BoundedMessages.new maximum).collectAll frames = .ok (collected, emitted) ∧
          bridge = ⟨collected.sequence,
            emittedPayloads emitted ++ openPayload collected.fragments⟩) ∧
      ∀ index reason, firstFailure TcpBridge.pump (.new maximum) frames = some (index, reason) ↔
        (∀ frame ∈ frames.take index, frame.opcode ≠ .close) ∧
          StopsAt maximum frames index reason := by
  have start := BoundedMessages.follows_new maximum
  refine ⟨?_, ?_, ?_, fun index reason => TcpBridge.stops_iff⟩
  · refine firstFailure_congr
      (fun messages sequence => messages.sequence = sequence ∧
        ∃ history, messages.Follows maximum history) ?_ ⟨rfl, [], start⟩ frames
    rintro messages _ frame ⟨rfl, history, follows⟩
    rcases follows.advance_cases frame with
      ⟨error, validated, failed⟩ | ⟨next, validated, taken, later⟩
    · exact .inl ⟨error, failed, validated⟩
    · exact .inr ⟨next, next.sequence, taken, validated, rfl, _, later⟩
  · intro collected emitted accepted
    exact (start.conserves accepted).symm
  · intro bridge
    rw [@TcpBridge.read_iff (.new maximum) bridge _ _ _ frames start rfl]
    refine and_congr_right fun _ => exists_congr fun collected => ?_
    rw [BoundedMessages.foldlM_advance_eq_ok]
    constructor
    · rintro ⟨⟨emitted, accepted⟩, rfl⟩
      exact ⟨emitted, accepted, by rw [start.conserves accepted]; rfl⟩
    · rintro ⟨emitted, accepted, rfl⟩
      exact ⟨⟨emitted, accepted⟩, by rw [start.conserves accepted]; rfl⟩

/-- A text in two parts with a ping in between, and then a close frame. -/
def conversation : List Frame :=
  [⟨false, .text, [0x68]⟩, ⟨true, .ping, [1]⟩, ⟨true, .continuation, [0x69]⟩, ⟨true, .close, []⟩]

/-- A bridge forwards the text and stops at the close frame; with less room it stops at the second
part, as the collector does. -/
theorem relay_agrees_with_bridge_conversation :
    (conversation.take 3).foldlM TcpBridge.pump (.new ⟨8, by decide⟩) =
        .ok ⟨.new ⟨8, by decide⟩, [0x68, 0x69]⟩ ∧
      firstFailure TcpBridge.pump (.new ⟨8, by decide⟩) conversation = some (3, .peerClosed) ∧
      firstFailure TcpBridge.pump (.new ⟨1, by decide⟩) conversation =
        some (2, .error .frameTooLarge) := by
  refine ⟨?_, ?_, ?_⟩
  · exact ((relay_agrees_with_bridge _ _).2.2.1 _).mpr ⟨by decide, _, _, rfl, rfl⟩
  · exact ((relay_agrees_with_bridge _ _).2.2.2 _ _).mpr ⟨by decide, rfl, _, rfl⟩
  · exact ((relay_agrees_with_bridge _ _).2.2.2 _ _).mpr ⟨by decide, rfl⟩

end EdgeGateway.Websocket
