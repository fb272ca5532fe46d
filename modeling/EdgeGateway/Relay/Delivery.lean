import EdgeGateway.Library.Supervision
import EdgeGateway.Relay.Pump

/-!
# What a relay delivers

The code of a pump alone determines what it writes: the messages and close frames that its peer has
sent, reassembled and in order, and the replies that the frame parser asks for.  So this holds of
every run of the relay, and the reason for which a relay ends says what each peer has received.
-/

namespace EdgeGateway.Relay

open Machine (Word)
open SupervisedTasks
open SupervisedTasks.Program (LocalProof add)
open Websocket

/-! ## What a pump has read -/

/-- The frame that a read returns. -/
def frameOf : Option (Except SocketError Frame) → List Frame
  | some (.ok frame) => [frame]
  | _ => []

/-- The frames that a pump has read. -/
def framesRead (reads : List SocketRead) : List Frame :=
  reads.flatMap fun read => frameOf read.result

/-- The replies that a pump owes its peer. -/
def repliesOwed (reads : List SocketRead) : List Frame :=
  reads.flatMap fun read => read.reply.toList

/-- Frames that a pump forwards. -/
def isRelayed (frame : Frame) : Bool :=
  frame.opens || frame.opcode == .close

/-- The emitted frames that a pump forwards. -/
def relayed (emitted : List (Option Frame)) : List Frame :=
  emitted.reduceOption.filter isRelayed

theorem relayed_append (emitted later : List (Option Frame)) :
    relayed (emitted ++ later) = relayed emitted ++ relayed later := by
  rw [relayed, List.reduceOption_append, List.filter_append]
  rfl

theorem relayed_some (frame : Frame) :
    relayed [some frame] = if isRelayed frame then [frame] else [] := by
  by_cases passes : isRelayed frame = true
  · simp [relayed, List.reduceOption, passes]
  · simp [relayed, List.reduceOption, passes]

theorem collectAll_snoc {messages collected next : BoundedMessages} {frames : List Frame}
    {emitted : List (Option Frame)} {frame : Frame} {message : Option Frame}
    (done : messages.collectAll frames = .ok (collected, emitted))
    (last : collected.collect frame = .ok (next, message)) :
    messages.collectAll (frames ++ [frame]) = .ok (next, emitted ++ [message]) := by
  induction frames generalizing messages emitted with
  | nil =>
      cases done
      simp [BoundedMessages.collectAll, last, bind, Except.bind, pure, Except.pure]
  | cons first frames ih =>
      simp only [BoundedMessages.collectAll, Results.bind_eq_ok, Prod.exists] at done
      obtain ⟨middle, own, stepped, final, rest, remaining, same⟩ := done
      cases same
      have later := ih remaining
      simp only [List.cons_append, BoundedMessages.collectAll, stepped, later, bind, Except.bind]
      rfl

/-- A close frame that comes out has just come in. -/
theorem close_of_collect {maximum : Word} {history : List Frame} {messages next : BoundedMessages}
    {frame message : Frame} (follows : messages.Follows maximum history)
    (collected : messages.collect frame = .ok (next, some message))
    (close : message.opcode = .close) : message = frame := by
  cases follows.collected frame with
  | rejected _ failed =>
      rw [failed] at collected
      cases collected
  | accepted admissible _ own _ =>
      rw [own] at collected
      have emits : emission (openMessage history) frame = some message :=
        (Prod.mk.inj (Except.ok.inj collected)).2
      obtain ⟨fin, opcode, payload⟩ := frame
      cases opcode with
      | text | binary =>
          cases fin with
          | true =>
              cases emits
              rfl
          | false => cases emits
      | close | ping | pong =>
          cases emits
          rfl
      | continuation =>
          obtain ⟨opcode, collected, opened, _⟩ := admissible
          obtain ⟨first, rest, parts⟩ := openParts_of_openMessage opened
          rw [opened] at emits
          cases fin with
          | false => cases emits
          | true =>
              cases emits
              have kind : first.opcode = .close := parts.kind.trans close
              have starts := parts.starts
              rw [Frame.opens, kind] at starts
              exact absurd starts (by decide)

/-! ## The books of a pump -/

/-- What has come of the frames and replies of a pump: those that have been taken up, those that
wait for a reply before them, and those that have not been written whole. -/
structure Books where
  seen : List Frame
  waiting : List Frame
  collected : BoundedMessages
  emitted : List (Option Frame)
  unsent : List Frame
  unsaid : List Frame

/-- The books balance. -/
structure Balanced (maximum : Word) (pump : Pump) (reads : List SocketRead)
    (items : Peer → List Frame) (books : Books) : Prop where
  read : framesRead reads = books.seen ++ books.waiting
  collects : (BoundedMessages.new maximum).collectAll books.seen =
    .ok (books.collected, books.emitted)
  sent : relayed books.emitted = items pump.direction.target ++ books.unsent
  said : repliesOwed reads = items pump.direction.own ++ books.unsaid

/-- The last frame is a close frame, and has been forwarded. -/
def ClosedBy (books : Books) (frame : Frame) : Prop :=
  frame.opcode = .close ∧ books.seen.getLast? = some frame ∧
    (relayed books.emitted).getLast? = some frame

/-- What the step of a pump says about its books and the item that it has cut off. -/
def Standing (pump : Pump) (books : Books) (cut : Option (Peer × Frame)) : Prop :=
  match pump.step with
  | .reading =>
      pump.messages = books.collected ∧ books.waiting = [] ∧ books.unsent = [] ∧
        books.unsaid = [] ∧ cut = none
  | .replying reply result =>
      pump.messages = books.collected ∧ books.waiting = frameOf result ∧ books.unsent = [] ∧
        books.unsaid = [reply] ∧ cut = none
  | .forwarding frame =>
      pump.messages = books.collected ∧ books.waiting = [] ∧ books.unsent = [frame] ∧
        books.unsaid = [] ∧ cut = none ∧
        (frame.opcode = .close → books.seen.getLast? = some frame)
  | .ended .peerClosed =>
      books.waiting = [] ∧ books.unsent = [] ∧ books.unsaid = [] ∧ cut = none ∧
        ∃ frame, ClosedBy books frame
  | .ended _ =>
      books.waiting.length ≤ 1 ∧ books.unsent.length ≤ 1 ∧ books.unsaid.length ≤ 1 ∧
        (cut = none ∨ (∃ frame, cut = some (pump.direction.target, frame) ∧
            books.unsent = [frame]) ∨
          ∃ frame, cut = some (pump.direction.own, frame) ∧ books.unsaid = [frame])

/-- A pump delivers what it has read, in order. -/
def Delivers (maximum : Word) (pump : Pump) (reads : List SocketRead) (items : Peer → List Frame)
    (cut : Option (Peer × Frame)) : Prop :=
  ∃ books, Balanced maximum pump reads items books ∧ Standing pump books cut

theorem own_ne_target (direction : Direction) : direction.own ≠ direction.target := by
  cases direction <;> decide

theorem length_frameOf (result : Option (Except SocketError Frame)) :
    (frameOf result).length ≤ 1 := by
  unfold frameOf
  split <;> simp

variable {maximum : Word} {pump : Pump} {reads : List SocketRead} {items : Peer → List Frame}

theorem direction_readError (pump : Pump) (error : SocketError) :
    (pump.readError error).direction = pump.direction := by
  unfold Pump.readError Pump.recordClientWebsocketError
  split <;> rfl

theorem direction_dispatch (pump : Pump) (frame : Frame) :
    (pump.dispatch frame).direction = pump.direction := by
  unfold Pump.dispatch
  split <;> rfl

theorem direction_resume (pump : Pump) (result : Option (Except SocketError Frame)) :
    (pump.resume result).direction = pump.direction := by
  unfold Pump.resume
  split
  · rfl
  · exact direction_readError pump _
  · split
    · exact direction_readError pump _
    · rfl
    · exact direction_dispatch _ _

theorem direction_receive (pump : Pump) (read : SocketRead) :
    (pump.receive read).direction = pump.direction := by
  unfold Pump.receive
  split
  · rfl
  · exact direction_resume pump _

theorem direction_written (pump : Pump) : pump.written.direction = pump.direction := by
  unfold Pump.written
  split
  · exact direction_resume pump _
  · split <;> rfl
  all_goals rfl

theorem direction_failed (pump : Pump) (error : SocketError) :
    (pump.failed error).direction = pump.direction := by
  unfold Pump.failed
  split
  · exact direction_readError pump _
  all_goals rfl

theorem direction_cancelled (pump : Pump) (point : CancelPoint) :
    (pump.cancelled point).direction = pump.direction := by
  unfold Pump.cancelled
  split
  · exact direction_readError pump _
  all_goals rfl

theorem step_readError (pump : Pump) (error : SocketError) :
    (pump.readError error).step = .ended (.error error) := rfl

/-- A read that fails leaves the books as they are. -/
theorem Balanced.readError {books : Books} (balanced : Balanced maximum pump reads items books)
    {cut : Option (Peer × Frame)} (waiting : books.waiting.length ≤ 1)
    (unsent : books.unsent = [])
    (unsaid : (books.unsaid = [] ∧ cut = none) ∨
      ∃ reply, books.unsaid = [reply] ∧ (cut = none ∨ cut = some (pump.direction.own, reply)))
    (error : SocketError) : Delivers maximum (pump.readError error) reads items cut := by
  obtain ⟨read, collects, sent, said⟩ := balanced
  rw [← direction_readError pump error] at sent said unsaid
  refine ⟨books, ⟨read, collects, sent, said⟩, ?_⟩
  rw [Standing, step_readError]
  refine ⟨waiting, by simp [unsent], ?_, ?_⟩
  · rcases unsaid with ⟨said, _⟩ | ⟨reply, said, _⟩ <;> simp [said]
  · rcases unsaid with ⟨_, uncut⟩ | ⟨reply, said, uncut | cut⟩
    · exact .inl uncut
    · exact .inl uncut
    · exact .inr (.inr ⟨reply, cut, said⟩)

/-- A frame that is not forwarded, or has been, leaves the pump reading. -/
theorem relayed_dispatch (frame : Frame) :
    (isRelayed frame = true ∧ ∀ pump : Pump, pump.dispatch frame =
      { pump with step := .forwarding frame }) ∨
      (isRelayed frame = false ∧ ∀ pump : Pump, pump.dispatch frame =
        { pump with step := .reading }) := by
  obtain ⟨fin, opcode, payload⟩ := frame
  cases opcode with
  | text | binary | close => exact .inl ⟨rfl, fun _ => rfl⟩
  | continuation | ping | pong => exact .inr ⟨rfl, fun _ => rfl⟩

/-- What the frame parser has returned is taken up. -/
theorem Balanced.resume {books : Books} (balanced : Balanced maximum pump reads items books)
    (result : Option (Except SocketError Frame)) (messages : pump.messages = books.collected)
    (waiting : books.waiting = frameOf result) (unsent : books.unsent = [])
    (unsaid : books.unsaid = []) : Delivers maximum (pump.resume result) reads items none := by
  obtain ⟨read, collects, sent, said⟩ := balanced
  have follows := (BoundedMessages.follows_new maximum).ran collects |>.follows
  cases result with
  | none => exact ⟨books, ⟨read, collects, sent, said⟩, messages, waiting, unsent, unsaid, rfl⟩
  | some result =>
      cases result with
      | error error =>
          exact Balanced.readError ⟨read, collects, sent, said⟩ (by simp [waiting, frameOf]) unsent
            (.inl ⟨unsaid, rfl⟩) error
      | ok frame =>
          rw [Pump.resume, messages]
          split
          case h_1 error failed =>
            exact Balanced.readError ⟨read, collects, sent, said⟩ (by simp [waiting, frameOf])
              unsent (.inl ⟨unsaid, rfl⟩) (.validation error)
          case h_2 next accepted =>
            have collects := collectAll_snoc collects accepted
            refine ⟨⟨books.seen ++ [frame], [], next, books.emitted ++ [none], [], []⟩, ?_, ?_⟩
            · refine ⟨?_, collects, ?_, ?_⟩
              · rw [read, waiting]
                simp [frameOf]
              · rw [relayed_append, sent, unsent]
                simp [relayed]
              · rw [said, unsaid]
            · exact ⟨rfl, rfl, rfl, rfl, rfl⟩
          case h_3 next message accepted =>
            have closes : message.opcode = .close → message = frame :=
              close_of_collect follows accepted
            have collects := collectAll_snoc collects accepted
            have read : framesRead reads = books.seen ++ [frame] ++ [] := by
              rw [read, waiting]
              simp [frameOf]
            rcases relayed_dispatch message with ⟨passes, forwards⟩ | ⟨stays, skips⟩
            · rw [forwards]
              refine ⟨⟨books.seen ++ [frame], [], next, books.emitted ++ [some message],
                [message], []⟩, ⟨read, collects, ?_, ?_⟩, rfl, rfl, rfl, rfl, rfl, ?_⟩
              · rw [relayed_append, relayed_some, if_pos passes, sent, unsent, List.append_nil]
              · rw [said, unsaid]
              · intro close
                simp [closes close]
            · rw [skips]
              refine ⟨⟨books.seen ++ [frame], [], next, books.emitted ++ [some message], [], []⟩,
                ⟨read, collects, ?_, ?_⟩, rfl, rfl, rfl, rfl, rfl⟩
              · rw [relayed_append, relayed_some, stays, sent, unsent]
                simp
              · rw [said, unsaid]

/-- One more item has been written whole. -/
theorem add_self (items : Peer → List Frame) (peer : Peer) (frame : Frame) :
    add items peer frame peer = items peer ++ [frame] :=
  Function.update_self ..

theorem add_other (items : Peer → List Frame) {peer other : Peer} (different : other ≠ peer)
    (frame : Frame) : add items peer frame other = items other :=
  Function.update_of_ne different ..

/-- A reply that has been written whole is accounted for. -/
theorem Balanced.reply {books : Books} (balanced : Balanced maximum pump reads items books)
    {reply : Frame} (unsaid : books.unsaid = [reply]) :
    Balanced maximum pump reads (add items pump.direction.own reply)
      { books with unsaid := [] } where
  read := balanced.read
  collects := balanced.collects
  sent := by
    rw [add_other items (own_ne_target _).symm]
    exact balanced.sent
  said := by
    rw [add_self, balanced.said, unsaid, List.append_nil]

/-- A frame that has been forwarded whole is accounted for. -/
theorem Balanced.forward {books : Books} (balanced : Balanced maximum pump reads items books)
    {frame : Frame} (unsent : books.unsent = [frame]) :
    Balanced maximum pump reads (add items pump.direction.target frame)
      { books with unsent := [] } where
  read := balanced.read
  collects := balanced.collects
  sent := by
    rw [add_self, balanced.sent, unsent, List.append_nil]
  said := by
    rw [add_other items (own_ne_target _)]
    exact balanced.said

/-- A pump that is stopped leaves at most what it was about to write. -/
theorem Balanced.stop {books : Books} (balanced : Balanced maximum pump reads items books)
    {result : PumpEnd} {cut : Option (Peer × Frame)} (early : result ≠ .peerClosed)
    (waiting : books.waiting.length ≤ 1)
    (left : (books.unsent = [] ∧ books.unsaid = [] ∧ cut = none) ∨
      (books.unsaid = [] ∧ ∃ frame, books.unsent = [frame] ∧
        (cut = none ∨ cut = some (pump.direction.target, frame))) ∨
      (books.unsent = [] ∧ ∃ reply, books.unsaid = [reply] ∧
        (cut = none ∨ cut = some (pump.direction.own, reply)))) :
    Delivers maximum { pump with step := .ended result } reads items cut := by
  refine ⟨books, ⟨balanced.read, balanced.collects, balanced.sent, balanced.said⟩, ?_⟩
  have held : books.waiting.length ≤ 1 ∧ books.unsent.length ≤ 1 ∧ books.unsaid.length ≤ 1 ∧
      (cut = none ∨ (∃ frame, cut = some (pump.direction.target, frame) ∧
          books.unsent = [frame]) ∨
        ∃ frame, cut = some (pump.direction.own, frame) ∧ books.unsaid = [frame]) := by
    refine ⟨waiting, ?_⟩
    rcases left with ⟨unsent, unsaid, uncut⟩ | ⟨unsaid, frame, unsent, uncut | cut⟩ |
      ⟨unsent, reply, unsaid, uncut | cut⟩
    · exact ⟨by simp [unsent], by simp [unsaid], .inl uncut⟩
    · exact ⟨by simp [unsent], by simp [unsaid], .inl uncut⟩
    · exact ⟨by simp [unsent], by simp [unsaid], .inr (.inl ⟨frame, cut, unsent⟩)⟩
    · exact ⟨by simp [unsent], by simp [unsaid], .inl uncut⟩
    · exact ⟨by simp [unsent], by simp [unsaid], .inr (.inr ⟨reply, cut, unsaid⟩)⟩
  cases result with
  | peerClosed => exact absurd rfl early
  | cancelled => exact held
  | error error => exact held

theorem step_of_read (asked : pump.request = .read) : pump.step = .reading := by
  unfold Pump.request at asked
  split at asked
  case h_1 reading => exact reading
  all_goals cases asked

/-- A pump writes a reply to its own peer, or a frame to the other one. -/
theorem step_of_write {peer : Peer} {frame : Frame} (asked : pump.request = .write peer frame) :
    (peer = pump.direction.own ∧ ∃ result, pump.step = .replying frame result) ∨
      (peer = pump.direction.target ∧ pump.step = .forwarding frame) := by
  unfold Pump.request at asked
  split at asked
  case h_2 reply result replying =>
    cases asked
    exact .inl ⟨rfl, result, replying⟩
  case h_3 forwarding =>
    cases asked
    exact .inr ⟨rfl, forwarding⟩
  all_goals cases asked

theorem repliesOwed_snoc (reads : List SocketRead) (read : SocketRead) :
    repliesOwed (reads ++ [read]) = repliesOwed reads ++ read.reply.toList := by
  simp [repliesOwed]

theorem framesRead_snoc (reads : List SocketRead) (read : SocketRead) :
    framesRead (reads ++ [read]) = framesRead reads ++ frameOf read.result := by
  simp [framesRead]

/-- A read is taken into books with nothing open. -/
theorem Balanced.take {books : Books} (balanced : Balanced maximum pump reads items books)
    (waiting : books.waiting = []) (unsaid : books.unsaid = []) (read : SocketRead) :
    Balanced maximum pump (reads ++ [read]) items
      { books with waiting := frameOf read.result, unsaid := read.reply.toList } where
  read := by rw [framesRead_snoc, balanced.read, waiting, List.append_nil]
  collects := balanced.collects
  sent := balanced.sent
  said := by rw [repliesOwed_snoc, balanced.said, unsaid, List.append_nil]

theorem Delivers.receive (good : Delivers maximum pump reads items none)
    (reading : pump.step = .reading) (read : SocketRead) :
    Delivers maximum (pump.receive read) (reads ++ [read]) items none := by
  obtain ⟨books, balanced, standing⟩ := good
  rw [Standing, reading] at standing
  obtain ⟨messages, waiting, unsent, unsaid, _⟩ := standing
  have taken := balanced.take waiting unsaid read
  unfold Pump.receive
  cases owed : read.reply with
  | none => exact taken.resume read.result messages rfl unsent (by simp [owed])
  | some reply =>
      refine ⟨_, ⟨taken.read, taken.collects, taken.sent, taken.said⟩, messages, rfl, unsent, ?_,
        rfl⟩
      simp [owed]

theorem Delivers.replied {reply : Frame} {result : Option (Except SocketError Frame)}
    (good : Delivers maximum pump reads items none)
    (replying : pump.step = .replying reply result) :
    Delivers maximum pump.written reads (add items pump.direction.own reply) none := by
  obtain ⟨books, balanced, standing⟩ := good
  rw [Standing, replying] at standing
  obtain ⟨messages, waiting, unsent, unsaid, _⟩ := standing
  rw [Pump.written, replying]
  exact (balanced.reply unsaid).resume result messages waiting unsent rfl

theorem Delivers.forwarded {frame : Frame} (good : Delivers maximum pump reads items none)
    (forwarding : pump.step = .forwarding frame) :
    Delivers maximum pump.written reads (add items pump.direction.target frame) none := by
  obtain ⟨books, balanced, standing⟩ := good
  rw [Standing, forwarding] at standing
  obtain ⟨messages, waiting, unsent, unsaid, _, close⟩ := standing
  obtain ⟨read, collects, sent, said⟩ := balanced.forward unsent
  rw [Pump.written, forwarding]
  simp only
  split_ifs with closing
  · refine ⟨_, ⟨read, collects, sent, said⟩, waiting, rfl, unsaid, rfl, frame, closing,
      close closing, ?_⟩
    rw [balanced.sent, unsent]
    simp
  · exact ⟨_, ⟨read, collects, sent, said⟩, messages, waiting, rfl, unsaid, rfl⟩

/-- A reply that fails, or is cancelled, fails the read. -/
theorem Delivers.unsaid {reply : Frame} {result : Option (Except SocketError Frame)}
    (good : Delivers maximum pump reads items none) (replying : pump.step = .replying reply result)
    (error : SocketError) :
    Delivers maximum (pump.readError error) reads items none ∧
      Delivers maximum (pump.readError error) reads items (some (pump.direction.own, reply)) ∧
      Delivers maximum (pump.readError error) reads (add items pump.direction.own reply) none := by
  obtain ⟨books, balanced, standing⟩ := good
  rw [Standing, replying] at standing
  obtain ⟨_, waiting, unsent, unsaid, _⟩ := standing
  have short : books.waiting.length ≤ 1 := waiting ▸ length_frameOf result
  exact ⟨balanced.readError short unsent (.inr ⟨reply, unsaid, .inl rfl⟩) error,
    balanced.readError short unsent (.inr ⟨reply, unsaid, .inr rfl⟩) error,
    (balanced.reply unsaid).readError short unsent (.inl ⟨rfl, rfl⟩) error⟩

/-- A pump that is stopped while it replies. -/
theorem Delivers.stopReply {reply : Frame} {result : Option (Except SocketError Frame)}
    (good : Delivers maximum pump reads items none) (replying : pump.step = .replying reply result)
    {ended : PumpEnd} (early : ended ≠ .peerClosed) :
    Delivers maximum { pump with step := .ended ended } reads items none ∧
      Delivers maximum { pump with step := .ended ended } reads items
        (some (pump.direction.own, reply)) ∧
      Delivers maximum { pump with step := .ended ended } reads
        (add items pump.direction.own reply) none := by
  obtain ⟨books, balanced, standing⟩ := good
  rw [Standing, replying] at standing
  obtain ⟨_, waiting, unsent, unsaid, _⟩ := standing
  have short : books.waiting.length ≤ 1 := waiting ▸ length_frameOf result
  exact ⟨balanced.stop early short (.inr (.inr ⟨unsent, reply, unsaid, .inl rfl⟩)),
    balanced.stop early short (.inr (.inr ⟨unsent, reply, unsaid, .inr rfl⟩)),
    (balanced.reply unsaid).stop early short (.inl ⟨unsent, rfl, rfl⟩)⟩

/-- A pump that is stopped while it forwards. -/
theorem Delivers.stopForward {frame : Frame} (good : Delivers maximum pump reads items none)
    (forwarding : pump.step = .forwarding frame) {ended : PumpEnd} (early : ended ≠ .peerClosed) :
    Delivers maximum { pump with step := .ended ended } reads items none ∧
      Delivers maximum { pump with step := .ended ended } reads items
        (some (pump.direction.target, frame)) ∧
      Delivers maximum { pump with step := .ended ended } reads
        (add items pump.direction.target frame) none := by
  obtain ⟨books, balanced, standing⟩ := good
  rw [Standing, forwarding] at standing
  obtain ⟨_, waiting, unsent, unsaid, _, _⟩ := standing
  have short : books.waiting.length ≤ 1 := by simp [waiting]
  exact ⟨balanced.stop early short (.inr (.inl ⟨unsaid, frame, unsent, .inl rfl⟩)),
    balanced.stop early short (.inr (.inl ⟨unsaid, frame, unsent, .inr rfl⟩)),
    (balanced.forward unsent).stop early short (.inl ⟨rfl, unsaid, rfl⟩)⟩

/-- A pump with its direction delivers what it has read. -/
def DeliversAs (maximum : Word) (direction : Direction) (pump : Pump) (reads : List SocketRead)
    (items : Peer → List Frame) (cut : Option (Peer × Frame)) : Prop :=
  pump.direction = direction ∧ Delivers maximum pump reads items cut

/-- Whatever comes next, the books of a pump balance. -/
theorem delivers (maximum : Word) : LocalProof (program maximum) (DeliversAs maximum) where
  start direction :=
    ⟨rfl, ⟨[], [], .new maximum, [], [], []⟩, ⟨rfl, rfl, rfl, rfl⟩, rfl, rfl, rfl, rfl, rfl⟩
  received good asked read :=
    ⟨(direction_receive _ read).trans good.1, good.2.receive (step_of_read asked) read⟩
  written {direction pump reads items side item} good asked := by
    refine ⟨(direction_written pump).trans good.1, ?_⟩
    rcases step_of_write asked with ⟨rfl, result, replying⟩ | ⟨rfl, forwarding⟩
    · exact good.2.replied replying
    · exact good.2.forwarded forwarding
  failed {direction pump reads items side item} good asked error := by
    have same := (direction_failed pump error).trans good.1
    suffices both : Delivers maximum (pump.failed error) reads items (some (side, item)) ∧
        Delivers maximum (pump.failed error) reads (add items side item) none from
      ⟨⟨same, both.1⟩, ⟨same, both.2⟩⟩
    rcases step_of_write asked with ⟨rfl, result, replying⟩ | ⟨rfl, forwarding⟩
    · simp only [Pump.failed, replying]
      exact (good.2.unsaid replying .sendError).2
    · simp only [Pump.failed, forwarding]
      exact (good.2.stopForward forwarding (by simp)).2
  cancelledReading {direction pump reads items} good asked point := by
    refine ⟨(direction_cancelled pump point).trans good.1, ?_⟩
    have reading := step_of_read asked
    obtain ⟨_, books, balanced, standing⟩ := good
    rw [Standing, reading] at standing
    obtain ⟨_, waiting, unsent, unsaid, _⟩ := standing
    simp only [program, Pump.cancelled, reading]
    exact balanced.stop (by simp) (by simp [waiting]) (.inl ⟨unsent, unsaid, rfl⟩)
  cancelledWriting {direction pump reads items side item} good asked point := by
    have same := (direction_cancelled pump point).trans good.1
    suffices all : Delivers maximum (pump.cancelled point) reads items none ∧
        Delivers maximum (pump.cancelled point) reads items (some (side, item)) ∧
        Delivers maximum (pump.cancelled point) reads (add items side item) none from
      ⟨⟨same, all.1⟩, ⟨same, all.2.1⟩, ⟨same, all.2.2⟩⟩
    rcases step_of_write asked with ⟨rfl, result, replying⟩ | ⟨rfl, forwarding⟩
    · cases point with
      | pump =>
          simp only [Pump.cancelled, replying]
          exact good.2.stopReply replying (by simp)
      | reply =>
          simp only [Pump.cancelled, replying]
          exact good.2.unsaid replying .sendError
    · simp only [Pump.cancelled, forwarding]
      exact good.2.stopForward forwarding (by simp)

/-! ## No byte is lost -/

/-- What is emitted is a control frame, or a message under the kind of its first frame. -/
theorem opcode_of_emission {history : List Frame} {frame message : Frame}
    (emits : emission (openMessage history) frame = some message) :
    message.opcode ≠ .continuation := by
  obtain ⟨fin, opcode, payload⟩ := frame
  cases opcode with
  | text | binary =>
      cases fin with
      | true =>
          cases emits
          simp
      | false => cases emits
  | close | ping | pong =>
      cases emits
      simp
  | continuation =>
      cases opened : openMessage history with
      | none =>
          rw [opened] at emits
          cases emits
      | some message =>
          obtain ⟨opcode, collected⟩ := message
          obtain ⟨first, rest, parts⟩ := openParts_of_openMessage opened
          rw [opened] at emits
          cases fin with
          | false => cases emits
          | true =>
              cases emits
              intro same
              have kind : first.opcode = .continuation := parts.kind.trans same
              have starts := parts.starts
              rw [Frame.opens, kind] at starts
              exact absurd starts (by decide)

/-- The messages among the forwarded frames are all that is emitted. -/
theorem filter_relayed {seen : List Frame} {collected : BoundedMessages}
    {emitted : List (Option Frame)}
    (collects : (BoundedMessages.new maximum).collectAll seen = .ok (collected, emitted)) :
    (relayed emitted).filter Frame.isData = emitted.reduceOption.filter Frame.isData := by
  have ran := (BoundedMessages.follows_new maximum).ran collects
  rw [relayed, List.filter_filter]
  refine List.filter_congr ?_
  intro frame member
  obtain ⟨position, found⟩ := List.mem_iff_getElem?.mp (List.reduceOption_mem_iff.mp member)
  have inside : position < seen.length := by
    rw [← ran.length]
    exact (List.getElem?_eq_some_iff.mp found).1
  have emits : some (emission (openMessage ([] ++ seen.take position)) seen[position]) =
      some (some frame) := (ran.emits position inside).symm.trans found
  have kind := opcode_of_emission (Option.some.inj emits)
  cases opcode : frame.opcode with
  | continuation => exact absurd opcode kind
  | _ => simp [isRelayed, Frame.isData, Frame.opens, opcode]

/-! ## Every run -/

variable {events : List (Event Direction Peer SocketRead Frame SocketError CancelPoint)}
  {relay : System Direction Peer Pump Frame PumpEnd}

/-- One direction of a relay is in order: what has been written whole is what has been read, as the
validator reassembles it, and what is missing is at most one frame and one reply.  What has been cut
off is just that. -/
structure InOrder (maximum : Word)
    (events : List (Event Direction Peer SocketRead Frame SocketError CancelPoint))
    (relay : System Direction Peer Pump Frame PumpEnd) (direction : Direction) (books : Books) :
    Prop where
  read : framesRead (inputs direction events) = books.seen ++ books.waiting
  collects : (BoundedMessages.new maximum).collectAll books.seen =
    .ok (books.collected, books.emitted)
  sent : relayed books.emitted = relay.whole direction direction.target ++ books.unsent
  said : repliesOwed (inputs direction events) =
    relay.whole direction direction.own ++ books.unsaid
  short : books.waiting.length ≤ 1 ∧ books.unsent.length ≤ 1 ∧ books.unsaid.length ≤ 1
  conserves : payloads ((relay.whole direction direction.target).filter Frame.isData) ++
      payloads (books.unsent.filter Frame.isData) ++ openPayload books.collected.fragments =
    payloads (books.seen.filter Frame.isData)
  cut : ∃ lost, relay.chunksOf (some direction) =
      Program.chunksFor direction (relay.whole direction) lost ∧
    (lost.isSome = true → (relay.worker direction).status.isActive = false) ∧
    (lost = none ∨ (∃ frame, lost = some (direction.target, frame) ∧ books.unsent = [frame]) ∨
      ∃ reply, lost = some (direction.own, reply) ∧ books.unsaid = [reply])

theorem Standing.short {books : Books} {cut : Option (Peer × Frame)}
    (standing : Standing pump books cut) :
    books.waiting.length ≤ 1 ∧ books.unsent.length ≤ 1 ∧ books.unsaid.length ≤ 1 ∧
      (cut = none ∨ (∃ frame, cut = some (pump.direction.target, frame) ∧
          books.unsent = [frame]) ∨
        ∃ frame, cut = some (pump.direction.own, frame) ∧ books.unsaid = [frame]) := by
  unfold Standing at standing
  split at standing
  case h_1 =>
    obtain ⟨_, waiting, unsent, unsaid, uncut⟩ := standing
    exact ⟨by simp [waiting], by simp [unsent], by simp [unsaid], .inl uncut⟩
  case h_2 reply result _ =>
    obtain ⟨_, waiting, unsent, unsaid, uncut⟩ := standing
    exact ⟨waiting ▸ length_frameOf result, by simp [unsent], by simp [unsaid], .inl uncut⟩
  case h_3 =>
    obtain ⟨_, waiting, unsent, unsaid, uncut, _⟩ := standing
    exact ⟨by simp [waiting], by simp [unsent], by simp [unsaid], .inl uncut⟩
  case h_4 =>
    obtain ⟨waiting, unsent, unsaid, uncut, _⟩ := standing
    exact ⟨by simp [waiting], by simp [unsent], by simp [unsaid], .inl uncut⟩
  case h_5 => exact standing

/-- Books that balance with what has been written whole are in order. -/
theorem Balanced.inOrder {direction : Direction} {books : Books} {lost : Option (Peer × Frame)}
    (balanced : Balanced maximum (relay.worker direction).state (inputs direction events) items
      books)
    (same : (relay.worker direction).state.direction = direction)
    (whole : relay.whole direction = items)
    (short : books.waiting.length ≤ 1 ∧ books.unsent.length ≤ 1 ∧ books.unsaid.length ≤ 1)
    (chunks : relay.chunksOf (some direction) =
      Program.chunksFor direction (relay.whole direction) lost)
    (ended : lost.isSome = true → (relay.worker direction).status.isActive = false)
    (cut : lost = none ∨ (∃ frame, lost = some (direction.target, frame) ∧
        books.unsent = [frame]) ∨
      ∃ reply, lost = some (direction.own, reply) ∧ books.unsaid = [reply]) :
    InOrder maximum events relay direction books := by
  obtain ⟨read, collects, sent, said⟩ := balanced
  rw [same, ← whole] at sent said
  refine ⟨read, collects, sent, said, short, ?_, lost, chunks, ended, cut⟩
  have conserved := (reassembly_exact collects).2.2.2.2
  rw [emittedPayloads, ← filter_relayed collects, sent, List.filter_append] at conserved
  simpa [payloads] using conserved

/-- In every run of a relay, both directions are in order: no message is lost, made up, changed or
reordered, whatever the other pump, the supervisor and the sockets do. -/
theorem relay_delivers_in_order (maximum : Word)
    (ran : (program maximum).run events = some relay) (direction : Direction) :
    ∃ books, InOrder maximum events relay direction books := by
  obtain ⟨items, cut, lost, ⟨same, books, balanced, standing⟩, chunks, ended, accounted⟩ :=
    (delivers maximum).contents ran direction
  obtain ⟨waiting, unsent, unsaid, cutting⟩ := standing.short
  rw [same] at cutting
  rcases accounted with ⟨whole, rfl⟩ | ⟨_, side, item, asked, left⟩
  · exact ⟨books, balanced.inOrder same whole ⟨waiting, unsent, unsaid⟩ chunks ended cutting⟩
  · rcases step_of_write asked with ⟨rfl, result, replying⟩ | ⟨rfl, forwarding⟩
    · rw [Standing, replying] at standing
      obtain ⟨_, _, _, owed, _⟩ := standing
      rcases left with ⟨whole, rfl⟩ | ⟨whole, rfl⟩
      · exact ⟨_, (balanced.reply owed).inOrder same whole ⟨waiting, unsent, Nat.zero_le 1⟩ chunks
          ended (.inl rfl)⟩
      · exact ⟨books, balanced.inOrder same whole ⟨waiting, unsent, unsaid⟩ chunks ended
          (.inr (.inr ⟨item, by rw [same], owed⟩))⟩
    · rw [Standing, forwarding] at standing
      obtain ⟨_, _, pending, _⟩ := standing
      rcases left with ⟨whole, rfl⟩ | ⟨whole, rfl⟩
      · exact ⟨_, (balanced.forward pending).inOrder same whole ⟨waiting, Nat.zero_le 1, unsaid⟩
          chunks ended (.inl rfl)⟩
      · exact ⟨books, balanced.inOrder same whole ⟨waiting, unsent, unsaid⟩ chunks ended
          (.inr (.inl ⟨item, by rw [same], pending⟩))⟩

/-- A ping between the two parts of a message. -/
def pingBetween : List (Event Direction Peer SocketRead Frame SocketError CancelPoint) :=
  [.receive .clientToBackend ⟨none, some (.ok ⟨false, .binary, [1]⟩)⟩,
    .receive .clientToBackend ⟨some ⟨true, .pong, [7]⟩, none⟩, .lock .clientToBackend,
    .put .clientToBackend, .flush .clientToBackend,
    .receive .clientToBackend ⟨none, some (.ok ⟨true, .continuation, [2]⟩)⟩,
    .lock .clientToBackend, .put .clientToBackend, .flush .clientToBackend]

/-- The ping is answered, and the message goes out whole. -/
theorem relay_delivers_in_order_ping :
    ∃ relay, (program ⟨8, by decide⟩).run pingBetween = some relay ∧
      relay.whole .clientToBackend .backend = [⟨true, .binary, [1, 2]⟩] ∧
      ∃ books, InOrder ⟨8, by decide⟩ pingBetween relay .clientToBackend books :=
  ⟨_, rfl, rfl, relay_delivers_in_order ⟨8, by decide⟩ rfl .clientToBackend⟩

end EdgeGateway.Relay
