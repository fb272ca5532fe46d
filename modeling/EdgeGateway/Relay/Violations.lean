import EdgeGateway.Relay.Delivery

/-!
# Whom a relay blames

A relay records a violation only against a client that has broken the protocol: what the frame
parser or the validator finds wrong in what the client sends.  Failing writes, cancellations and
whatever a backend sends never count against anybody.
-/

namespace EdgeGateway.Relay

open IpBlocking (ViolationRule)
open Machine (Word)
open SupervisedTasks
open SupervisedTasks.Program (LocalProof add)
open Websocket

/-- What has been read breaks the protocol: the frame parser has reported it at last, or the last
frame may not follow those before it. -/
inductive Breaks (maximum : Word) (reads : List SocketRead) : SocketError → Prop
  | parser {before : List SocketRead} {read : SocketRead} {error : SocketError}
      (last : reads = before ++ [read]) (reported : read.result = some (.error error)) :
      Breaks maximum reads error
  | validator {seen : List Frame} {frame : Frame} {error : WebSocketError}
      (last : framesRead reads = seen ++ [frame])
      (accepted : ∃ outcome, (BoundedMessages.new maximum).collectAll seen = .ok outcome)
      (inadmissible : ¬Admissible maximum seen frame) :
      Breaks maximum reads (.validation error)

/-- A pump has recorded nothing, or the violation of its client that has ended it. -/
def Blames (maximum : Word) (pump : Pump) (reads : List SocketRead) : Prop :=
  pump.violations = [] ∨ ∃ error, pump.direction = .clientToBackend ∧
    pump.violations = (violationRule error).toList ∧ pump.step = .ended (.error error) ∧
    Breaks maximum reads error

variable {maximum : Word} {pump : Pump} {reads : List SocketRead} {items : Peer → List Frame}
  {cut : Option (Peer × Frame)}

theorem Blames.clean (blames : Blames maximum pump reads)
    (running : ∀ result, pump.step ≠ .ended result) : pump.violations = [] := by
  rcases blames with clean | ⟨error, _, _, ended, _⟩
  · exact clean
  · exact absurd ended (running _)

/-- A read error is recorded for a client, and for nobody else. -/
theorem blames_readError (clean : pump.violations = []) {error : SocketError}
    (breaks : violationRule error ≠ none → Breaks maximum reads error) :
    Blames maximum (pump.readError error) reads := by
  cases rule : violationRule error with
  | none =>
      refine .inl ?_
      unfold Pump.readError Pump.recordClientWebsocketError
      split
      · simp [clean, rule]
      · exact clean
  | some violation =>
      cases own : pump.direction with
      | backendToClient => exact .inl (by simp [Pump.readError, Pump.recordClientWebsocketError,
          own, clean])
      | clientToBackend =>
          refine .inr ⟨error, (direction_readError pump error).trans own, ?_, rfl,
            breaks (by simp [rule])⟩
          simp [Pump.readError, Pump.recordClientWebsocketError, own, clean]

/-- A frame that the collector refuses may not follow those before it. -/
theorem inadmissible_of_refused {seen : List Frame} {collected : BoundedMessages}
    {emitted : List (Option Frame)} {frame : Frame} {error : WebSocketError}
    (collects : (BoundedMessages.new maximum).collectAll seen = .ok (collected, emitted))
    (refused : collected.collect frame = .error error) : ¬Admissible maximum seen frame := by
  have follows := ((BoundedMessages.follows_new maximum).ran collects).follows
  rw [List.nil_append] at follows
  rcases MessageSequence.judged_validate frame follows.tracks with
    ⟨_, sequence, validated, _⟩ | ⟨inadmissible, _⟩
  · cases follows.collected frame with
    | accepted _ _ accepted _ =>
        rw [accepted] at refused
        cases refused
    | rejected failed _ =>
        rw [validated] at failed
        cases failed
  · exact inadmissible

theorem blames_dispatch (clean : pump.violations = []) (frame : Frame) :
    Blames maximum (pump.dispatch frame) reads := by
  refine .inl ?_
  unfold Pump.dispatch
  split <;> exact clean

/-- What the frame parser has returned is taken up. -/
theorem blames_resume {books : Books} (clean : pump.violations = [])
    (balanced : Balanced maximum pump reads items books)
    (messages : pump.messages = books.collected) {result : Option (Except SocketError Frame)}
    (waiting : books.waiting = frameOf result)
    (last : ∃ before read, reads = before ++ [read] ∧ read.result = result) :
    Blames maximum (pump.resume result) reads := by
  cases result with
  | none => exact .inl clean
  | some result =>
      cases result with
      | error error =>
          obtain ⟨before, read, ends, reported⟩ := last
          exact blames_readError clean fun _ => .parser ends reported
      | ok frame =>
          rw [Pump.resume, messages]
          split
          case h_1 error refused =>
            refine blames_readError clean fun _ => .validator ?_ ⟨_, balanced.collects⟩
              (inadmissible_of_refused balanced.collects refused)
            rw [balanced.read, waiting]
            rfl
          case h_2 => exact .inl clean
          case h_3 =>
            refine blames_dispatch ?_ _
            exact clean

/-- A pump that replies has its last read before it. -/
def Replies (pump : Pump) (reads : List SocketRead) : Prop :=
  ∀ reply result, pump.step = .replying reply result →
    ∃ before read, reads = before ++ [read] ∧ read.result = result

theorem step_resume (pump : Pump) (result : Option (Except SocketError Frame)) (reply : Frame)
    (rest : Option (Except SocketError Frame)) :
    (pump.resume result).step ≠ .replying reply rest := by
  unfold Pump.resume
  split
  · simp
  · simp [step_readError]
  · split
    · simp [step_readError]
    · simp
    · unfold Pump.dispatch
      split <;> simp

theorem replies_of_ended {result : PumpEnd} (ended : pump.step = .ended result) :
    Replies pump reads := by
  intro reply rest replying
  rw [ended] at replying
  cases replying

/-- A pump delivers, and blames nobody but a client that has broken the protocol. -/
def Accuses (maximum : Word) (direction : Direction) (pump : Pump) (reads : List SocketRead)
    (items : Peer → List Frame) (cut : Option (Peer × Frame)) : Prop :=
  DeliversAs maximum direction pump reads items cut ∧ Blames maximum pump reads ∧
    Replies pump reads

/-- Sending fails without anybody to blame. -/
theorem blames_sendError (clean : pump.violations = []) :
    Blames maximum (pump.readError .sendError) reads :=
  blames_readError clean fun rule => absurd rfl rule

theorem accuses (maximum : Word) : LocalProof (program maximum) (Accuses maximum) where
  start direction := by
    refine ⟨(delivers maximum).start direction, .inl rfl, ?_⟩
    intro own result replying
    cases replying
  received {direction pump reads items} good asked read := by
    obtain ⟨delivering, blames, _⟩ := good
    have reading := step_of_read asked
    have clean := blames.clean (by simp [reading])
    refine ⟨(delivers maximum).received delivering asked read, ?_⟩
    obtain ⟨_, books, balanced, standing⟩ := delivering
    rw [Standing, reading] at standing
    obtain ⟨messages, waiting, _, unsaid, _⟩ := standing
    simp only [program, Pump.receive]
    split
    case h_1 reply owed =>
      refine ⟨.inl clean, ?_⟩
      intro own result replying
      cases replying
      exact ⟨reads, read, rfl, rfl⟩
    case h_2 =>
      refine ⟨blames_resume clean (balanced.take waiting unsaid read) messages rfl
        ⟨reads, read, rfl, rfl⟩, ?_⟩
      intro own result replying
      exact absurd replying (step_resume pump _ own result)
  written {direction pump reads items side item} good asked := by
    obtain ⟨delivering, blames, replies⟩ := good
    refine ⟨(delivers maximum).written delivering asked, ?_⟩
    obtain ⟨_, books, balanced, standing⟩ := delivering
    rcases step_of_write asked with ⟨rfl, result, replying⟩ | ⟨rfl, forwarding⟩
    · have clean := blames.clean (by simp [replying])
      rw [Standing, replying] at standing
      obtain ⟨messages, waiting, _⟩ := standing
      simp only [program, Pump.written, replying]
      refine ⟨blames_resume clean balanced messages waiting (replies item result replying), ?_⟩
      intro own rest again
      exact absurd again (step_resume pump _ own rest)
    · have clean := blames.clean (by simp [forwarding])
      simp only [program, Pump.written, forwarding]
      split
      · exact ⟨.inl clean, replies_of_ended rfl⟩
      · refine ⟨.inl clean, ?_⟩
        intro own result replying
        cases replying
  failed {direction pump reads items side item} good asked error := by
    obtain ⟨delivering, blames, replies⟩ := good
    have both := (delivers maximum).failed delivering asked error
    suffices rest : Blames maximum (pump.failed error) reads ∧ Replies (pump.failed error) reads
      from ⟨⟨both.1, rest⟩, ⟨both.2, rest⟩⟩
    rcases step_of_write asked with ⟨rfl, result, replying⟩ | ⟨rfl, forwarding⟩
    · have clean := blames.clean (by simp [replying])
      simp only [Pump.failed, replying]
      exact ⟨blames_sendError clean, replies_of_ended rfl⟩
    · have clean := blames.clean (by simp [forwarding])
      simp only [Pump.failed, forwarding]
      exact ⟨.inl clean, replies_of_ended rfl⟩
  cancelledReading {direction pump reads items} good asked point := by
    obtain ⟨delivering, blames, _⟩ := good
    have reading := step_of_read asked
    have clean := blames.clean (by simp [reading])
    refine ⟨(delivers maximum).cancelledReading delivering asked point, ?_⟩
    simp only [program, Pump.cancelled, reading]
    exact ⟨.inl clean, replies_of_ended rfl⟩
  cancelledWriting {direction pump reads items side item} good asked point := by
    obtain ⟨delivering, blames, replies⟩ := good
    have all := (delivers maximum).cancelledWriting delivering asked point
    suffices rest : Blames maximum (pump.cancelled point) reads ∧
        Replies (pump.cancelled point) reads from
      ⟨⟨all.1, rest⟩, ⟨all.2.1, rest⟩, ⟨all.2.2, rest⟩⟩
    rcases step_of_write asked with ⟨rfl, result, replying⟩ | ⟨rfl, forwarding⟩
    · have clean := blames.clean (by simp [replying])
      cases point with
      | pump =>
          simp only [Pump.cancelled, replying]
          exact ⟨.inl clean, replies_of_ended rfl⟩
      | reply =>
          simp only [Pump.cancelled, replying]
          exact ⟨blames_sendError clean, replies_of_ended rfl⟩
    · have clean := blames.clean (by simp [forwarding])
      simp only [Pump.cancelled, forwarding]
      exact ⟨.inl clean, replies_of_ended rfl⟩

/-- In every run of a relay, nothing is recorded for the backend's frames, and for the client's at
most one violation: of an error that the frame parser or the validator has found in what the client
has sent, and that has ended its pump. -/
theorem relay_blames_client (maximum : Word)
    {events : List (Event Direction Peer SocketRead Frame SocketError CancelPoint)}
    {relay : System Direction Peer Pump Frame PumpEnd}
    (ran : (program maximum).run events = some relay) :
    (relay.worker .backendToClient).state.violations = [] ∧
      ((relay.worker .clientToBackend).state.violations = [] ∨
        ∃ error rule, (relay.worker .clientToBackend).state.violations = [rule] ∧
          violationRule error = some rule ∧
          Breaks maximum (inputs .clientToBackend events) error ∧
          (relay.worker .clientToBackend).state.step = .ended (.error error)) := by
  have recorded (direction : Direction) :
      (relay.worker direction).state.direction = direction ∧
        Blames maximum (relay.worker direction).state (inputs direction events) := by
    obtain ⟨_, items, cut, ⟨delivering, blames, _⟩, _⟩ := (accuses maximum).holds ran direction
    exact ⟨delivering.1, blames⟩
  constructor
  · obtain ⟨same, clean | ⟨_, client, _⟩⟩ := recorded .backendToClient
    · exact clean
    · exact nomatch same.symm.trans client
  · obtain ⟨_, clean | ⟨error, _, violations, ended, breaks⟩⟩ := recorded .clientToBackend
    · exact .inl clean
    · cases rule : violationRule error with
      | none => exact .inl (by simp [violations, rule])
      | some violation =>
          exact .inr ⟨error, violation, by simp [violations, rule], rule, breaks, ended⟩

/-- A client continues a message that it has not begun. -/
def continuesNothing : List (Event Direction Peer SocketRead Frame SocketError CancelPoint) :=
  [.receive .clientToBackend ⟨none, some (.ok ⟨true, .continuation, []⟩)⟩]

/-- The client is blamed, and the backend is not. -/
theorem relay_blames_client_continuation :
    ∃ relay, (program ⟨8, by decide⟩).run continuesNothing = some relay ∧
      (relay.worker .clientToBackend).state.violations = [.invalidWebsocket] ∧
      (relay.worker .backendToClient).state.violations = [] :=
  ⟨_, rfl, rfl, (relay_blames_client ⟨8, by decide⟩
    (show (program ⟨8, by decide⟩).run continuesNothing = some _ from rfl)).1⟩

end EdgeGateway.Relay
