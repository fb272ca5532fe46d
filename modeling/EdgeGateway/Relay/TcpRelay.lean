import EdgeGateway.Relay.Ending

/-!
# Relays to a plain connection

A relay can also join a WebSocket client with a backend that speaks plain bytes.  The pump from the
client validates frames and writes their payloads, without the boundaries of messages; the pump
from the backend makes one binary message of whatever it reads.  Only the client has a writer behind
a lock, and only the client gets a close frame in the end.
-/

namespace EdgeGateway.Relay.Tcp

open IpBlocking (ViolationRule)
open Machine (Word)
open SupervisedTasks
open SupervisedTasks.Program (LocalProof add)
open Websocket

/-! ## The pumps -/

/-- What is written: frames to the client, and bytes to the backend. -/
inductive Output
  | frame (frame : Frame)
  | bytes (bytes : List UInt8)
deriving DecidableEq

/-- What a pump reads: the one from the client what the frame parser comes to, the one from the
backend some bytes, none at their end. -/
inductive Input
  | websocket (read : SocketRead)
  | stream (read : Except SocketError (List UInt8))

/-- Where a pump is in its loop. -/
inductive Step
  | reading
  | replying (reply : Frame) (result : Option (Except SocketError Frame))
  | writing (bytes : List UInt8)
  | forwarding (frame : Frame)
  | ended (result : PumpEnd)

/-- The pump from the client, or the one from the backend, which uses less. -/
structure Pump where
  direction : Direction
  messages : MessageSequence
  step : Step
  violations : List ViolationRule
  /-- The backend has been told that no more bytes will come. -/
  backendShutdown : Bool

namespace Pump

def new (maximum : Word) (direction : Direction) : Pump where
  direction := direction
  messages := .new maximum
  step := .reading
  violations := []
  backendShutdown := false

variable (pump : Pump)

/-- The pump returns.  The write half of the backend's stream belongs to the pump from the client:
it is dropped with it, and that shuts the stream down. -/
def finish (result : PumpEnd) : Pump :=
  { pump with
    step := .ended result
    backendShutdown := pump.backendShutdown || pump.direction == .clientToBackend }

@[simp] theorem step_finish (result : PumpEnd) : (pump.finish result).step = .ended result := rfl

/-- A read from the client has failed. -/
def readError (error : SocketError) : Pump :=
  { pump with violations := pump.violations ++ (violationRule error).toList }.finish (.error error)

/-- Payloads are written as bytes; a close frame shuts the backend's stream down. -/
def dispatch (frame : Frame) : Pump :=
  match frame.opcode with
  | .text | .binary | .continuation => { pump with step := .writing frame.payload }
  | .close => { pump with backendShutdown := true }.finish .peerClosed
  | .ping | .pong => { pump with step := .reading }

/-- Go on with what the frame parser has returned. -/
def resume : Option (Except SocketError Frame) → Pump
  | none => { pump with step := .reading }
  | some (.error error) => pump.readError error
  | some (.ok frame) =>
      match pump.messages.validate frame with
      | .error error => pump.readError (.validation error)
      | .ok messages => { pump with messages }.dispatch frame

/-- Take what has been read; a pump never sees the input of the other one. -/
def receive (input : Input) : Pump :=
  match pump.direction, input with
  | .clientToBackend, .websocket read =>
      match read.reply with
      | some reply => { pump with step := .replying reply read.result }
      | none => pump.resume read.result
  | .backendToClient, .stream (.ok []) => pump.finish .peerClosed
  | .backendToClient, .stream (.ok bytes) =>
      { pump with step := .forwarding ⟨true, .binary, bytes⟩ }
  | .backendToClient, .stream (.error error) => pump.finish (.error error)
  | .clientToBackend, .stream _ | .backendToClient, .websocket _ => pump

/-- The write is done. -/
def written : Pump :=
  match pump.step with
  | .replying _ result => pump.resume result
  | .writing _ | .forwarding _ => { pump with step := .reading }
  | .reading | .ended _ => pump

/-- The write has failed; a reply fails the read that it belongs to. -/
def failed (error : SocketError) : Pump :=
  match pump.step with
  | .replying _ _ => pump.readError .sendError
  | .reading | .writing _ | .forwarding _ | .ended _ => pump.finish (.error error)

/-- The pump has seen the cancellation; a frame that is cancelled counts as a closed connection. -/
def cancelled (point : CancelPoint) : Pump :=
  match pump.step, point with
  | .replying _ _, .reply => pump.readError .sendError
  | .forwarding _, _ => pump.finish (.error .connectionClosed)
  | _, _ => pump.finish .cancelled

/-- What the pump waits for. -/
def request : Request Peer Output PumpEnd :=
  match pump.step with
  | .reading => .read
  | .replying reply _ => .write .downstream (.frame reply)
  | .writing bytes => .write .backend (.bytes bytes)
  | .forwarding frame => .write .downstream (.frame frame)
  | .ended result => .finish result

end Pump

/-- The two pumps of a relay to a plain connection; the client gets a close frame in any case. -/
def program (maximum : Word) :
    Program Direction Peer Pump Input Output SocketError CancelPoint PumpEnd where
  tasks := [.clientToBackend, .backendToClient]
  start := .new maximum
  request := Pump.request
  received := Pump.receive
  written := Pump.written
  failed := Pump.failed
  cancelled := Pump.cancelled
  guarded peer := peer == .downstream
  farewells verdict :=
    let parts := closeParts (closeReason verdict)
    [(.downstream, .frame (closeFrame parts.1 parts.2))]
  mem_tasks := Direction.mem_all
  failed_finishes {pump side item} asked error := by
    obtain ⟨direction, messages, step, violations, down⟩ := pump
    cases step with
    | replying reply result | writing bytes | forwarding frame => rfl
    | reading | ended result => cases asked
  cancelled_finishes {pump} running point := by
    obtain ⟨direction, messages, step, violations, down⟩ := pump
    cases step with
    | replying reply result => cases point <;> rfl
    | reading | writing bytes | forwarding frame => rfl
    | ended result => cases running

/-! ## From the client -/

/-- What the frame parser has come to. -/
def websocketReads (inputs : List Input) : List SocketRead :=
  inputs.filterMap fun input =>
    match input with
    | .websocket read => some read
    | .stream _ => none

/-- The payloads of the data frames, as they are written. -/
def payloadOutputs (frames : List Frame) : List Output :=
  (frames.filter Frame.isData).map fun frame => .bytes frame.payload

/-- What has come of the frames and replies of the pump from the client. -/
structure ClientBooks where
  seen : List Frame
  waiting : List Frame
  sequence : MessageSequence
  unsent : List (List UInt8)
  unsaid : List Frame

/-- The client's books balance. -/
structure ClientBalanced (maximum : Word) (inputs : List Input) (items : Peer → List Output)
    (books : ClientBooks) : Prop where
  read : framesRead (websocketReads inputs) = books.seen ++ books.waiting
  validated : books.seen.foldlM MessageSequence.validate (.new maximum) = .ok books.sequence
  sent : payloadOutputs books.seen = items .backend ++ books.unsent.map Output.bytes
  said : (repliesOwed (websocketReads inputs)).map Output.frame =
    items .downstream ++ books.unsaid.map Output.frame

/-- What the step of the pump says about its books. -/
def ClientStanding (pump : Pump) (books : ClientBooks) (cut : Option (Peer × Output)) : Prop :=
  match pump.step with
  | .reading =>
      pump.messages = books.sequence ∧ books.waiting = [] ∧ books.unsent = [] ∧
        books.unsaid = [] ∧ cut = none ∧ pump.backendShutdown = false
  | .replying reply result =>
      pump.messages = books.sequence ∧ books.waiting = frameOf result ∧ books.unsent = [] ∧
        books.unsaid = [reply] ∧ cut = none ∧ pump.backendShutdown = false
  | .writing bytes =>
      pump.messages = books.sequence ∧ books.waiting = [] ∧ books.unsent = [bytes] ∧
        books.unsaid = [] ∧ cut = none ∧ pump.backendShutdown = false
  | .forwarding _ => False
  | .ended .peerClosed =>
      books.waiting = [] ∧ books.unsent = [] ∧ books.unsaid = [] ∧ cut = none ∧
        pump.backendShutdown = true ∧
        ∃ frame, frame.opcode = .close ∧ books.seen.getLast? = some frame
  | .ended _ =>
      books.waiting.length ≤ 1 ∧ books.unsent.length ≤ 1 ∧ books.unsaid.length ≤ 1 ∧
        (cut = none ∨ (∃ bytes, cut = some (.backend, .bytes bytes) ∧ books.unsent = [bytes]) ∨
          ∃ reply, cut = some (.downstream, .frame reply) ∧ books.unsaid = [reply]) ∧
        pump.backendShutdown = true

/-- The pump from the client delivers the payloads of what it has read, in order. -/
def ClientDelivers (maximum : Word) (pump : Pump) (inputs : List Input)
    (items : Peer → List Output) (cut : Option (Peer × Output)) : Prop :=
  ∃ books, ClientBalanced maximum inputs items books ∧ ClientStanding pump books cut

section Client

variable {maximum : Word} {pump : Pump} {inputs : List Input} {items : Peer → List Output}
  {books : ClientBooks} {cut : Option (Peer × Output)}

/-- However the pump from the client returns, the backend's stream is shut down with it. -/
theorem finish_shuts (client : pump.direction = .clientToBackend) (result : PumpEnd) :
    (pump.finish result).backendShutdown = true := by
  simp [Pump.finish, client]

/-- A pump that ends early leaves at most what it was about to write. -/
theorem ClientBalanced.stop (balanced : ClientBalanced maximum inputs items books)
    (client : pump.direction = .clientToBackend) {result : PumpEnd} (early : result ≠ .peerClosed)
    (waiting : books.waiting.length ≤ 1)
    (left : (books.unsent = [] ∧ books.unsaid = [] ∧ cut = none) ∨
      (books.unsaid = [] ∧ ∃ bytes, books.unsent = [bytes] ∧
        (cut = none ∨ cut = some (.backend, .bytes bytes))) ∨
      (books.unsent = [] ∧ ∃ reply, books.unsaid = [reply] ∧
        (cut = none ∨ cut = some (.downstream, .frame reply)))) :
    ClientDelivers maximum (pump.finish result) inputs items cut := by
  refine ⟨books, balanced, ?_⟩
  have down := finish_shuts client result
  have held : books.waiting.length ≤ 1 ∧ books.unsent.length ≤ 1 ∧ books.unsaid.length ≤ 1 ∧
      (cut = none ∨ (∃ bytes, cut = some (.backend, .bytes bytes) ∧ books.unsent = [bytes]) ∨
        ∃ reply, cut = some (.downstream, .frame reply) ∧ books.unsaid = [reply]) ∧
      (pump.finish result).backendShutdown = true := by
    refine ⟨waiting, ?_⟩
    rcases left with ⟨unsent, unsaid, uncut⟩ | ⟨unsaid, bytes, unsent, uncut | cut⟩ |
      ⟨unsent, reply, unsaid, uncut | cut⟩
    · exact ⟨by simp [unsent], by simp [unsaid], .inl uncut, down⟩
    · exact ⟨by simp [unsent], by simp [unsaid], .inl uncut, down⟩
    · exact ⟨by simp [unsent], by simp [unsaid], .inr (.inl ⟨bytes, cut, unsent⟩), down⟩
    · exact ⟨by simp [unsent], by simp [unsaid], .inl uncut, down⟩
    · exact ⟨by simp [unsent], by simp [unsaid], .inr (.inr ⟨reply, cut, unsaid⟩), down⟩
  cases result with
  | peerClosed => exact absurd rfl early
  | cancelled | error _ => exact held

/-- A reply that has been written whole is accounted for. -/
theorem ClientBalanced.reply (balanced : ClientBalanced maximum inputs items books)
    {reply : Frame} (unsaid : books.unsaid = [reply]) :
    ClientBalanced maximum inputs (add items .downstream (.frame reply))
      { books with unsaid := [] } where
  read := balanced.read
  validated := balanced.validated
  sent := balanced.sent
  said := by
    rw [balanced.said, unsaid]
    simp [add]

/-- A payload that has been written whole is accounted for. -/
theorem ClientBalanced.payload (balanced : ClientBalanced maximum inputs items books)
    {bytes : List UInt8} (unsent : books.unsent = [bytes]) :
    ClientBalanced maximum inputs (add items .backend (.bytes bytes))
      { books with unsent := [] } where
  read := balanced.read
  validated := balanced.validated
  sent := by
    rw [balanced.sent, unsent]
    simp [add]
  said := balanced.said

/-- One more frame has been validated. -/
theorem foldlM_validate_snoc {seen : List Frame} {sequence next : MessageSequence} {frame : Frame}
    (validated : seen.foldlM MessageSequence.validate (.new maximum) = .ok sequence)
    (accepted : sequence.validate frame = .ok next) :
    (seen ++ [frame]).foldlM MessageSequence.validate (.new maximum) = .ok next := by
  rw [List.foldlM_append, validated]
  simp [accepted, bind, Except.bind, pure, Except.pure]

theorem payloadOutputs_snoc (seen : List Frame) (frame : Frame) :
    payloadOutputs (seen ++ [frame]) = payloadOutputs seen ++ payloadOutputs [frame] := by
  simp [payloadOutputs]

/-- What the frame parser has returned is taken up. -/
theorem ClientBalanced.resume (balanced : ClientBalanced maximum inputs items books)
    (result : Option (Except SocketError Frame)) (messages : pump.messages = books.sequence)
    (waiting : books.waiting = frameOf result) (unsent : books.unsent = [])
    (unsaid : books.unsaid = []) (client : pump.direction = .clientToBackend)
    (running : pump.backendShutdown = false) :
    ClientDelivers maximum (pump.resume result) inputs items none := by
  cases result with
  | none => exact ⟨books, balanced, messages, waiting, unsent, unsaid, rfl, running⟩
  | some result =>
      cases result with
      | error error =>
          have early : PumpEnd.error error ≠ .peerClosed := by simp
          exact balanced.stop client early (by simp [waiting, frameOf])
            (.inl ⟨unsent, unsaid, rfl⟩)
      | ok frame =>
          rw [Pump.resume, messages]
          split
          case h_1 error refused =>
            have early : PumpEnd.error (.validation error) ≠ .peerClosed := by simp
            exact balanced.stop client early (by simp [waiting, frameOf])
              (.inl ⟨unsent, unsaid, rfl⟩)
          case h_2 next accepted =>
            have validated := foldlM_validate_snoc balanced.validated accepted
            have read : framesRead (websocketReads inputs) = books.seen ++ [frame] ++ [] := by
              rw [balanced.read, waiting]
              simp [frameOf]
            have sent : payloadOutputs (books.seen ++ [frame]) =
                items .backend ++ payloadOutputs [frame] := by
              rw [payloadOutputs_snoc, balanced.sent, unsent]
              simp
            have said : (repliesOwed (websocketReads inputs)).map Output.frame =
                items .downstream ++ [].map Output.frame := by
              rw [balanced.said, unsaid]
            obtain ⟨fin, opcode, payload⟩ := frame
            cases opcode with
            | text | binary | continuation =>
                exact ⟨⟨_, [], next, [payload], []⟩, ⟨read, validated, sent, said⟩, rfl, rfl, rfl,
                  rfl, rfl, running⟩
            | ping | pong =>
                exact ⟨⟨_, [], next, [], []⟩, ⟨read, validated, sent, said⟩, rfl, rfl, rfl, rfl,
                  rfl, running⟩
            | close =>
                exact ⟨⟨_, [], next, [], []⟩, ⟨read, validated, sent, said⟩, rfl, rfl, rfl, rfl,
                  rfl, ⟨fin, .close, payload⟩, rfl, by simp⟩

theorem step_of_read (asked : pump.request = .read) : pump.step = .reading := by
  unfold Pump.request at asked
  split at asked
  case h_1 reading => exact reading
  all_goals cases asked

/-- A pump writes a reply or a frame to the client, or bytes to the backend. -/
theorem step_of_write {peer : Peer} {output : Output} (asked : pump.request = .write peer output) :
    (∃ reply result, peer = .downstream ∧ output = .frame reply ∧
        pump.step = .replying reply result) ∨
      (∃ bytes, peer = .backend ∧ output = .bytes bytes ∧ pump.step = .writing bytes) ∨
      ∃ frame, peer = .downstream ∧ output = .frame frame ∧ pump.step = .forwarding frame := by
  unfold Pump.request at asked
  split at asked
  case h_2 reply result replying =>
    cases asked
    exact .inl ⟨reply, result, rfl, rfl, replying⟩
  case h_3 bytes writing =>
    cases asked
    exact .inr (.inl ⟨bytes, rfl, rfl, writing⟩)
  case h_4 frame forwarding =>
    cases asked
    exact .inr (.inr ⟨frame, rfl, rfl, forwarding⟩)
  all_goals cases asked

theorem ClientDelivers.receive (good : ClientDelivers maximum pump inputs items none)
    (client : pump.direction = .clientToBackend) (reading : pump.step = .reading) (input : Input) :
    ClientDelivers maximum (pump.receive input) (inputs ++ [input]) items none := by
  obtain ⟨books, balanced, standing⟩ := good
  have standing' := standing
  rw [ClientStanding, reading] at standing
  obtain ⟨messages, waiting, unsent, unsaid, _, running⟩ := standing
  cases input with
  | stream result =>
      have same : websocketReads (inputs ++ [.stream result]) = websocketReads inputs := by
        simp [websocketReads]
      have untouched : pump.receive (.stream result) = pump := by simp [Pump.receive, client]
      rw [untouched]
      exact ⟨books, ⟨same ▸ balanced.read, balanced.validated, balanced.sent, same ▸ balanced.said⟩,
        standing'⟩
  | websocket read =>
      have more : websocketReads (inputs ++ [.websocket read]) =
          websocketReads inputs ++ [read] := by
        simp [websocketReads]
      have taken : ClientBalanced maximum (inputs ++ [.websocket read]) items
          { books with waiting := frameOf read.result, unsaid := read.reply.toList } := by
        refine ⟨?_, balanced.validated, balanced.sent, ?_⟩
        · rw [more, framesRead_snoc, balanced.read, waiting, List.append_nil]
        · rw [more, repliesOwed_snoc, List.map_append, balanced.said, unsaid]
          simp
      simp only [Pump.receive, client]
      cases owed : read.reply with
      | none => exact taken.resume read.result messages rfl unsent (by simp [owed]) client running
      | some reply => exact ⟨_, taken, messages, rfl, unsent, by simp [owed], rfl, running⟩

theorem ClientDelivers.written {peer : Peer} {output : Output}
    (good : ClientDelivers maximum pump inputs items none)
    (client : pump.direction = .clientToBackend) (asked : pump.request = .write peer output) :
    ClientDelivers maximum pump.written inputs (add items peer output) none := by
  obtain ⟨books, balanced, standing⟩ := good
  rcases step_of_write asked with ⟨reply, result, rfl, rfl, replying⟩ |
    ⟨bytes, rfl, rfl, writing⟩ | ⟨frame, rfl, rfl, forwarding⟩
  · rw [ClientStanding, replying] at standing
    obtain ⟨messages, waiting, unsent, unsaid, _, running⟩ := standing
    rw [Pump.written, replying]
    exact (balanced.reply unsaid).resume result messages waiting unsent rfl client running
  · rw [ClientStanding, writing] at standing
    obtain ⟨messages, waiting, unsent, unsaid, _, running⟩ := standing
    rw [Pump.written, writing]
    exact ⟨_, balanced.payload unsent, messages, waiting, rfl, unsaid, rfl, running⟩
  · rw [ClientStanding, forwarding] at standing
    exact standing.elim

/-- The pump from the client returns in the middle of a write. -/
theorem ClientDelivers.interrupted {peer : Peer} {output : Output} {next : Pump}
    (good : ClientDelivers maximum pump inputs items none)
    (asked : pump.request = .write peer output) (client : next.direction = .clientToBackend)
    {result : PumpEnd} (early : result ≠ .peerClosed) :
    ClientDelivers maximum (next.finish result) inputs items none ∧
      ClientDelivers maximum (next.finish result) inputs items (some (peer, output)) ∧
      ClientDelivers maximum (next.finish result) inputs (add items peer output) none := by
  obtain ⟨books, balanced, standing⟩ := good
  rcases step_of_write asked with ⟨reply, rest, rfl, rfl, replying⟩ |
    ⟨bytes, rfl, rfl, writing⟩ | ⟨frame, rfl, rfl, forwarding⟩
  · rw [ClientStanding, replying] at standing
    obtain ⟨_, waiting, unsent, unsaid, _, _⟩ := standing
    have short : books.waiting.length ≤ 1 := waiting ▸ length_frameOf rest
    exact ⟨balanced.stop client early short (.inr (.inr ⟨unsent, reply, unsaid, .inl rfl⟩)),
      balanced.stop client early short (.inr (.inr ⟨unsent, reply, unsaid, .inr rfl⟩)),
      (balanced.reply unsaid).stop client early short (.inl ⟨unsent, rfl, rfl⟩)⟩
  · rw [ClientStanding, writing] at standing
    obtain ⟨_, waiting, unsent, unsaid, _, _⟩ := standing
    have short : books.waiting.length ≤ 1 := by simp [waiting]
    exact ⟨balanced.stop client early short (.inr (.inl ⟨unsaid, bytes, unsent, .inl rfl⟩)),
      balanced.stop client early short (.inr (.inl ⟨unsaid, bytes, unsent, .inr rfl⟩)),
      (balanced.payload unsent).stop client early short (.inl ⟨rfl, unsaid, rfl⟩)⟩
  · rw [ClientStanding, forwarding] at standing
    exact standing.elim

end Client

/-! ## From the backend -/

/-- The frames that the pump from the backend makes of what it reads. -/
def streamFrames (inputs : List Input) : List Frame :=
  inputs.flatMap fun input =>
    match input with
    | .stream (.ok (first :: rest)) => [⟨true, .binary, first :: rest⟩]
    | _ => []

/-- The pump from the backend delivers what it has read, and nothing else. -/
def BackendDelivers (pump : Pump) (inputs : List Input) (items : Peer → List Output)
    (cut : Option (Peer × Output)) : Prop :=
  ∃ unsent : List Frame,
    (streamFrames inputs).map Output.frame = items .downstream ++ unsent.map Output.frame ∧
      items .backend = [] ∧
      match pump.step with
      | .reading => unsent = [] ∧ cut = none
      | .forwarding frame => unsent = [frame] ∧ cut = none
      | .ended .peerClosed => unsent = [] ∧ cut = none
      | .ended _ => unsent.length ≤ 1 ∧
          (cut = none ∨ ∃ frame, cut = some (.downstream, .frame frame) ∧ unsent = [frame])
      | .replying _ _ | .writing _ => False

section Backend

variable {pump : Pump} {inputs : List Input} {items : Peer → List Output}

theorem streamFrames_snoc (inputs : List Input) (input : Input) :
    streamFrames (inputs ++ [input]) = streamFrames inputs ++ streamFrames [input] := by
  simp [streamFrames]

theorem BackendDelivers.receive (good : BackendDelivers pump inputs items none)
    (backend : pump.direction = .backendToClient) (reading : pump.step = .reading)
    (input : Input) : BackendDelivers (pump.receive input) (inputs ++ [input]) items none := by
  obtain ⟨unsent, sent, nothing, standing⟩ := good
  rw [reading] at standing
  obtain ⟨rfl, _⟩ := standing
  rw [List.map_nil, List.append_nil] at sent
  cases input with
  | websocket read =>
      refine ⟨[], ?_, nothing, ?_⟩
      · rw [streamFrames_snoc, List.map_append, sent]
        simp [streamFrames]
      · simp [Pump.receive, backend, reading]
  | stream result =>
      cases result with
      | error error =>
          refine ⟨[], ?_, nothing, ?_⟩
          · rw [streamFrames_snoc, List.map_append, sent]
            simp [streamFrames]
          · simp [Pump.receive, backend]
      | ok bytes =>
          cases bytes with
          | nil =>
              refine ⟨[], ?_, nothing, ?_⟩
              · rw [streamFrames_snoc, List.map_append, sent]
                simp [streamFrames]
              · simp [Pump.receive, backend]
          | cons first rest =>
              refine ⟨[⟨true, .binary, first :: rest⟩], ?_, nothing, ?_⟩
              · rw [streamFrames_snoc, List.map_append, sent]
                simp [streamFrames]
              · simp [Pump.receive, backend]

theorem BackendDelivers.forwarding {peer : Peer} {output : Output} {cut : Option (Peer × Output)}
    (good : BackendDelivers pump inputs items cut) (asked : pump.request = .write peer output) :
    ∃ frame, peer = .downstream ∧ output = .frame frame ∧ pump.step = .forwarding frame ∧
      (streamFrames inputs).map Output.frame = items .downstream ++ [.frame frame] ∧
      items .backend = [] := by
  obtain ⟨unsent, sent, nothing, standing⟩ := good
  rcases step_of_write asked with ⟨reply, rest, rfl, rfl, replying⟩ |
    ⟨bytes, rfl, rfl, writing⟩ | ⟨frame, rfl, rfl, forwarding⟩
  · rw [replying] at standing
    exact standing.elim
  · rw [writing] at standing
    exact standing.elim
  · rw [forwarding] at standing
    obtain ⟨rfl, _⟩ := standing
    exact ⟨frame, rfl, rfl, forwarding, sent, nothing⟩

/-- The pump from the backend returns in the middle of a write. -/
theorem BackendDelivers.interrupted {peer : Peer} {output : Output}
    (good : BackendDelivers pump inputs items none) (next : Pump)
    (asked : pump.request = .write peer output)
    {result : PumpEnd} (early : result ≠ .peerClosed) :
    BackendDelivers (next.finish result) inputs items none ∧
      BackendDelivers (next.finish result) inputs items (some (peer, output)) ∧
      BackendDelivers (next.finish result) inputs (add items peer output) none := by
  obtain ⟨frame, rfl, rfl, _, sent, nothing⟩ := good.forwarding asked
  have whole : (streamFrames inputs).map Output.frame =
      add items .downstream (.frame frame) .downstream ++ ([] : List Frame).map Output.frame := by
    simpa [add] using sent
  have other : add items .downstream (.frame frame) .backend = [] := by simpa [add] using nothing
  cases result with
  | peerClosed => exact absurd rfl early
  | cancelled | error _ =>
      refine ⟨⟨[frame], sent, nothing, ?_⟩, ⟨[frame], sent, nothing, ?_⟩, ⟨[], whole, other, ?_⟩⟩
      · simp
      · simp
      · simp

end Backend

/-! ## Every run -/

section Directions

variable (pump : Pump)

theorem direction_resume (result : Option (Except SocketError Frame)) :
    (pump.resume result).direction = pump.direction := by
  unfold Pump.resume
  split
  · rfl
  · rfl
  · split
    · rfl
    · unfold Pump.dispatch
      split <;> rfl

theorem direction_receive (input : Input) : (pump.receive input).direction = pump.direction := by
  unfold Pump.receive
  split
  · split
    · rfl
    · exact direction_resume pump _
  all_goals rfl

theorem direction_written : pump.written.direction = pump.direction := by
  unfold Pump.written
  split
  · exact direction_resume pump _
  all_goals rfl

variable {pump}

/-- A pump whose write fails returns with an error. -/
theorem failed_finishes {peer : Peer} {output : Output} (asked : pump.request = .write peer output)
    (error : SocketError) : ∃ last result, pump.failed error = Pump.finish last result ∧
      last.direction = pump.direction ∧ result ≠ .peerClosed := by
  rcases step_of_write asked with ⟨_, _, _, _, doing⟩ | ⟨_, _, _, doing⟩ | ⟨_, _, _, doing⟩
  all_goals
    simp only [Pump.failed, doing]
    exact ⟨_, _, rfl, rfl, by simp⟩

/-- A pump that sees the cancellation returns. -/
theorem cancelled_finishes (pump : Pump) (point : CancelPoint) :
    ∃ last result, pump.cancelled point = Pump.finish last result ∧
      last.direction = pump.direction ∧ result ≠ .peerClosed := by
  unfold Pump.cancelled
  split
  all_goals exact ⟨_, _, rfl, rfl, by simp⟩

end Directions

/-- What is right for a pump in its direction. -/
def Delivers (maximum : Word) (direction : Direction) (pump : Pump) (inputs : List Input)
    (items : Peer → List Output) (cut : Option (Peer × Output)) : Prop :=
  pump.direction = direction ∧
    match direction with
    | .clientToBackend => ClientDelivers maximum pump inputs items cut
    | .backendToClient => BackendDelivers pump inputs items cut

theorem delivers (maximum : Word) : LocalProof (program maximum) (Delivers maximum) where
  start direction := by
    refine ⟨rfl, ?_⟩
    cases direction with
    | clientToBackend =>
        exact ⟨⟨[], [], .new maximum, [], []⟩, ⟨rfl, rfl, rfl, rfl⟩, rfl, rfl, rfl, rfl, rfl, rfl⟩
    | backendToClient => exact ⟨[], rfl, rfl, rfl, rfl⟩
  received {direction pump read items} good asked input := by
    obtain ⟨own, good⟩ := good
    refine ⟨(direction_receive pump input).trans own, ?_⟩
    cases direction with
    | clientToBackend => exact good.receive own (step_of_read asked) input
    | backendToClient => exact good.receive own (step_of_read asked) input
  written {direction pump read items peer output} good asked := by
    obtain ⟨own, good⟩ := good
    refine ⟨(direction_written pump).trans own, ?_⟩
    cases direction with
    | clientToBackend => exact good.written own asked
    | backendToClient =>
        obtain ⟨frame, rfl, rfl, forwarding, sent, nothing⟩ := good.forwarding asked
        refine ⟨[], by simpa [add] using sent, by simpa [add] using nothing, ?_⟩
        simp [program, Pump.written, forwarding]
  failed {direction pump read items peer output} good asked error := by
    obtain ⟨own, good⟩ := good
    obtain ⟨last, result, finished, same, early⟩ := failed_finishes asked error
    rw [show (program maximum).failed pump error = last.finish result from finished]
    cases direction with
    | clientToBackend =>
        have all := good.interrupted asked (same.trans own) early
        exact ⟨⟨same.trans own, all.2.1⟩, ⟨same.trans own, all.2.2⟩⟩
    | backendToClient =>
        have all := good.interrupted last asked early
        exact ⟨⟨same.trans own, all.2.1⟩, ⟨same.trans own, all.2.2⟩⟩
  cancelledReading {direction pump read items} good asked point := by
    obtain ⟨own, good⟩ := good
    have reading := step_of_read asked
    have finished : (program maximum).cancelled pump point = pump.finish .cancelled := by
      simp only [program, Pump.cancelled, reading]
    rw [finished]
    refine ⟨own, ?_⟩
    cases direction with
    | clientToBackend =>
        obtain ⟨books, balanced, standing⟩ := good
        rw [ClientStanding, reading] at standing
        obtain ⟨_, waiting, unsent, unsaid, _, _⟩ := standing
        exact balanced.stop own (by simp) (by simp [waiting]) (.inl ⟨unsent, unsaid, rfl⟩)
    | backendToClient =>
        obtain ⟨unsent, sent, nothing, standing⟩ := good
        rw [reading] at standing
        refine ⟨unsent, sent, nothing, ?_⟩
        simp [standing.1]
  cancelledWriting {direction pump read items peer output} good asked point := by
    obtain ⟨own, good⟩ := good
    obtain ⟨last, result, finished, same, early⟩ := cancelled_finishes pump point
    rw [show (program maximum).cancelled pump point = last.finish result from finished]
    cases direction with
    | clientToBackend =>
        have all := good.interrupted asked (same.trans own) early
        exact ⟨⟨same.trans own, all.1⟩, ⟨same.trans own, all.2.1⟩, ⟨same.trans own, all.2.2⟩⟩
    | backendToClient =>
        have all := good.interrupted last asked early
        exact ⟨⟨same.trans own, all.1⟩, ⟨same.trans own, all.2.1⟩, ⟨same.trans own, all.2.2⟩⟩

variable {maximum : Word}
  {events : List (Event Direction Peer Input Output SocketError CancelPoint)}
  {relay : System Direction Peer Pump Output PumpEnd}

/-- The backend's stream has been shut down: by the pump from the client, or when it has crashed. -/
def backendShutdown (relay : System Direction Peer Pump Output PumpEnd) : Bool :=
  (relay.worker .clientToBackend).state.backendShutdown ||
    (relay.worker .clientToBackend).status == .crashed

/-- The client's direction of a run: the payloads of what has been read are in the backend's stream,
in order and up to one.  The stream is shut down when the pump is over, for whatever reason, and
stays as it is; after a close frame it holds every payload. -/
structure ClientInOrder (maximum : Word)
    (events : List (Event Direction Peer Input Output SocketError CancelPoint))
    (relay : System Direction Peer Pump Output PumpEnd) (books : ClientBooks) : Prop where
  balanced : ClientBalanced maximum (inputs .clientToBackend events)
    (relay.whole .clientToBackend) books
  short : books.waiting.length ≤ 1 ∧ books.unsent.length ≤ 1 ∧ books.unsaid.length ≤ 1
  cut : ∃ lost, relay.chunksOf (some .clientToBackend) =
      Program.chunksFor .clientToBackend (relay.whole .clientToBackend) lost ∧
    (lost = none ∨ (∃ bytes, lost = some (.backend, .bytes bytes) ∧ books.unsent = [bytes]) ∨
      ∃ reply, lost = some (.downstream, .frame reply) ∧ books.unsaid = [reply])
  shutdown : backendShutdown relay = true ↔
    (relay.worker .clientToBackend).status.isActive = false
  closed : (relay.worker .clientToBackend).status = .returned .peerClosed →
    books.waiting = [] ∧ books.unsent = [] ∧ books.unsaid = [] ∧
      ∃ frame, frame.opcode = .close ∧ books.seen.getLast? = some frame
  alone : ∀ chunk ∈ (relay.sink .backend).chunks, chunk.writer = some .clientToBackend
  final : backendShutdown relay = true → ∀ more later,
    (program maximum).run (events ++ more) = some later →
    (later.sink .backend).chunks = (relay.sink .backend).chunks

section Standing

variable {pump : Pump} {books : ClientBooks} {cut : Option (Peer × Output)}

theorem ClientStanding.short (standing : ClientStanding pump books cut) :
    books.waiting.length ≤ 1 ∧ books.unsent.length ≤ 1 ∧ books.unsaid.length ≤ 1 ∧
      (cut = none ∨ (∃ bytes, cut = some (.backend, .bytes bytes) ∧ books.unsent = [bytes]) ∨
        ∃ reply, cut = some (.downstream, .frame reply) ∧ books.unsaid = [reply]) := by
  unfold ClientStanding at standing
  split at standing
  case h_1 | h_3 =>
    obtain ⟨_, waiting, unsent, unsaid, uncut, _⟩ := standing
    exact ⟨by simp [waiting], by simp [unsent], by simp [unsaid], .inl uncut⟩
  case h_2 reply result _ =>
    obtain ⟨_, waiting, unsent, unsaid, uncut, _⟩ := standing
    exact ⟨waiting ▸ length_frameOf result, by simp [unsent], by simp [unsaid], .inl uncut⟩
  case h_4 => exact standing.elim
  case h_5 =>
    obtain ⟨waiting, unsent, unsaid, uncut, _⟩ := standing
    exact ⟨by simp [waiting], by simp [unsent], by simp [unsaid], .inl uncut⟩
  case h_6 =>
    obtain ⟨waiting, unsent, unsaid, cut, _⟩ := standing
    exact ⟨waiting, unsent, unsaid, cut⟩

/-- The stream is open as long as the pump runs, and no longer. -/
theorem ClientStanding.shutdown_iff (standing : ClientStanding pump books cut) :
    pump.backendShutdown = true ↔ pump.request.isFinish = true := by
  unfold ClientStanding at standing
  split at standing
  case h_1 doing | h_2 doing | h_3 doing =>
    obtain ⟨_, _, _, _, _, running⟩ := standing
    simp [Pump.request, doing, running, Request.isFinish]
  case h_4 => exact standing.elim
  case h_5 doing | h_6 doing =>
    obtain ⟨_, _, _, _, down⟩ := standing
    simp [Pump.request, doing, down, Request.isFinish]

theorem ClientStanding.closed (standing : ClientStanding pump books cut)
    (closed : pump.step = .ended .peerClosed) :
    books.waiting = [] ∧ books.unsent = [] ∧ books.unsaid = [] ∧
      ∃ frame, frame.opcode = .close ∧ books.seen.getLast? = some frame := by
  rw [ClientStanding, closed] at standing
  obtain ⟨waiting, unsent, unsaid, _, _, close⟩ := standing
  exact ⟨waiting, unsent, unsaid, close⟩

theorem step_of_finish {result : PumpEnd} (asked : pump.request = .finish result) :
    pump.step = .ended result := by
  unfold Pump.request at asked
  split at asked
  case h_5 ended =>
    cases asked
    exact ended
  all_goals cases asked

end Standing

/-- The backend's direction of a run: what has been read is in the client's frames, in order and up
to one, and one binary message for each read. -/
structure BackendInOrder
    (events : List (Event Direction Peer Input Output SocketError CancelPoint))
    (relay : System Direction Peer Pump Output PumpEnd) (unsent : List Frame) : Prop where
  sent : (streamFrames (inputs .backendToClient events)).map Output.frame =
    relay.whole .backendToClient .downstream ++ unsent.map Output.frame
  short : unsent.length ≤ 1
  nothing : relay.chunksOf (some .backendToClient) .backend = []

/-- In every run of a relay to a plain connection, the client gets what the backend has sent, in
order, and the backend gets nothing from its own pump. -/
theorem tcp_relay_backend_in_order (maximum : Word)
    (ran : (program maximum).run events = some relay) :
    ∃ unsent, BackendInOrder events relay unsent := by
  obtain ⟨items, cut, lost, ⟨_, good⟩, chunks, _, accounted⟩ :=
    (delivers maximum).contents ran .backendToClient
  rcases accounted with ⟨whole, rfl⟩ | ⟨_, side, item, asked, left⟩
  · obtain ⟨unsent, sent, nothing, standing⟩ := good
    have bounds : unsent.length ≤ 1 ∧
        (lost = none ∨ ∃ frame, lost = some (.downstream, .frame frame) ∧ unsent = [frame]) := by
      split at standing
      case h_1 | h_3 =>
        obtain ⟨rfl, uncut⟩ := standing
        exact ⟨Nat.zero_le 1, .inl uncut⟩
      case h_2 =>
        obtain ⟨rfl, uncut⟩ := standing
        exact ⟨Nat.le_refl 1, .inl uncut⟩
      case h_4 => exact standing
      all_goals exact standing.elim
    refine ⟨unsent, whole ▸ sent, bounds.1, ?_⟩
    rw [chunks, whole]
    rcases bounds.2 with rfl | ⟨frame, rfl, _⟩
    · simp [Program.chunksFor, Program.wholes, nothing]
    · simp [Program.chunksFor, Program.wholes, Program.add, nothing]
  · obtain ⟨frame, rfl, rfl, _, sent, nothing⟩ := good.forwarding asked
    rcases left with ⟨whole, rfl⟩ | ⟨whole, rfl⟩
    · refine ⟨[], by simpa [whole, add] using sent, Nat.zero_le 1, ?_⟩
      rw [chunks, whole]
      simp [Program.chunksFor, Program.wholes, Program.add, nothing]
    · refine ⟨[frame], by simpa [whole] using sent, Nat.le_refl 1, ?_⟩
      rw [chunks, whole]
      simp [Program.chunksFor, Program.wholes, Program.add, nothing]

/-- The supervisor writes nothing to the backend. -/
theorem farewells_backend (ran : (program maximum).run events = some relay) :
    relay.chunksOf none .backend = [] := by
  have farewelled := Program.farewelled_of_run ran
  cases phase : relay.phase with
  | running | draining _ => exact farewelled.silent (by simp [phase]) .backend
  | leaving verdict remaining =>
      rw [List.eq_nil_iff_forall_not_mem]
      intro chunk member
      have bounded := farewelled.bounded phase .backend chunk.item
      have present := List.count_pos_iff.mpr (List.mem_map_of_mem (f := Chunk.item) member)
      have none_left : ((program maximum).farewells verdict).count (.backend, chunk.item) = 0 := by
        simp [program]
      omega

/-- The pump from the client alone writes to the backend. -/
theorem backend_alone (ran : (program maximum).run events = some relay) :
    ∀ chunk ∈ (relay.sink .backend).chunks, chunk.writer = some .clientToBackend := by
  obtain ⟨_, backend⟩ := tcp_relay_backend_in_order maximum ran
  intro chunk member
  have kept (writer : Option Direction) (own : chunk.writer = writer) :
      chunk ∈ relay.chunksOf writer .backend :=
    List.mem_filter.mpr ⟨member, by simpa using own⟩
  cases own : chunk.writer with
  | none => exact absurd (kept none own) (by simp [farewells_backend ran])
  | some direction =>
      cases direction with
      | clientToBackend => rfl
      | backendToClient =>
          exact absurd (kept (some .backendToClient) own) (by simp [backend.nothing])

theorem backend_chunks (ran : (program maximum).run events = some relay) :
    (relay.sink .backend).chunks = relay.chunksOf (some .clientToBackend) .backend := by
  refine (List.filter_eq_self.mpr ?_).symm
  intro chunk member
  simpa using backend_alone ran chunk member

/-- The stream is shut down when the pump from the client is over, and not before. -/
theorem shutdown_iff (ran : (program maximum).run events = some relay) :
    backendShutdown relay = true ↔
      (relay.worker .clientToBackend).status.isActive = false := by
  obtain ⟨follows, _, _, ⟨_, _, _, standing⟩, _⟩ := (delivers maximum).holds ran .clientToBackend
  rw [follows.ended_iff, backendShutdown, Bool.or_eq_true, beq_iff_eq, standing.shutdown_iff]
  exact or_comm

/-- Nothing is written to the backend once its stream has been shut down. -/
theorem shutdown_final (ran : (program maximum).run events = some relay)
    (down : backendShutdown relay = true)
    {more : List (Event Direction Peer Input Output SocketError CancelPoint)}
    {later : System Direction Peer Pump Output PumpEnd}
    (goes : (program maximum).run (events ++ more) = some later) :
    (later.sink .backend).chunks = (relay.sink .backend).chunks := by
  have same := Program.chunksOf_foldlM_of_ended ((shutdown_iff ran).mp down)
    (Program.run_append ran ▸ goes)
  rw [backend_chunks goes, backend_chunks ran, same]

/-- Books that balance and leave little behind are in order: the rest holds in every run. -/
theorem ClientInOrder.of_balanced (ran : (program maximum).run events = some relay)
    {books : ClientBooks}
    (balanced : ClientBalanced maximum (inputs .clientToBackend events)
      (relay.whole .clientToBackend) books)
    (short : books.waiting.length ≤ 1 ∧ books.unsent.length ≤ 1 ∧ books.unsaid.length ≤ 1)
    (cut : ∃ lost, relay.chunksOf (some .clientToBackend) =
        Program.chunksFor .clientToBackend (relay.whole .clientToBackend) lost ∧
      (lost = none ∨ (∃ bytes, lost = some (.backend, .bytes bytes) ∧ books.unsent = [bytes]) ∨
        ∃ reply, lost = some (.downstream, .frame reply) ∧ books.unsaid = [reply]))
    (closed : (relay.worker .clientToBackend).status = .returned .peerClosed →
      books.waiting = [] ∧ books.unsent = [] ∧ books.unsaid = [] ∧
        ∃ frame, frame.opcode = .close ∧ books.seen.getLast? = some frame) :
    ClientInOrder maximum events relay books where
  balanced := balanced
  short := short
  cut := cut
  shutdown := shutdown_iff ran
  closed := closed
  alone := backend_alone ran
  final down _ _ goes := shutdown_final ran down goes

/-- In every run of a relay to a plain connection, the backend's stream is made of the payloads
that the client has sent, in order, without a byte of anybody else. -/
theorem tcp_relay_client_in_order (maximum : Word)
    (ran : (program maximum).run events = some relay) :
    ∃ books, ClientInOrder maximum events relay books := by
  have follows := ((delivers maximum).holds ran .clientToBackend).1
  obtain ⟨items, cut, lost, ⟨_, books, balanced, standing⟩, chunks, _, accounted⟩ :=
    (delivers maximum).contents ran .clientToBackend
  obtain ⟨waiting, unsent, unsaid, cutting⟩ := standing.short
  rcases accounted with ⟨whole, rfl⟩ | ⟨_, side, item, asked, left⟩
  · refine ⟨books, .of_balanced ran (whole ▸ balanced) ⟨waiting, unsent, unsaid⟩
      ⟨lost, chunks, cutting⟩ fun returned => ?_⟩
    exact standing.closed (step_of_finish (follows.asked_finish returned))
  · -- A pump that is about to leave a write has not returned.
    have running (returned : (relay.worker .clientToBackend).status = .returned .peerClosed) :
        False := by
      rw [follows.asked_finish returned] at asked
      cases asked
    rcases step_of_write asked with ⟨reply, result, rfl, rfl, replying⟩ |
      ⟨bytes, rfl, rfl, writing⟩ | ⟨frame, rfl, rfl, forwarding⟩
    · rw [ClientStanding, replying] at standing
      obtain ⟨_, _, _, owed, _, _⟩ := standing
      rcases left with ⟨whole, rfl⟩ | ⟨whole, rfl⟩
      · exact ⟨{ books with unsaid := [] }, .of_balanced ran (whole ▸ balanced.reply owed)
          ⟨waiting, unsent, Nat.zero_le 1⟩ ⟨none, chunks, .inl rfl⟩
          fun returned => (running returned).elim⟩
      · exact ⟨books, .of_balanced ran (whole ▸ balanced) ⟨waiting, unsent, unsaid⟩
          ⟨_, chunks, .inr (.inr ⟨reply, rfl, owed⟩)⟩ fun returned => (running returned).elim⟩
    · rw [ClientStanding, writing] at standing
      obtain ⟨_, _, pending, _, _, _⟩ := standing
      rcases left with ⟨whole, rfl⟩ | ⟨whole, rfl⟩
      · exact ⟨{ books with unsent := [] }, .of_balanced ran (whole ▸ balanced.payload pending)
          ⟨waiting, Nat.zero_le 1, unsaid⟩ ⟨none, chunks, .inl rfl⟩
          fun returned => (running returned).elim⟩
      · exact ⟨books, .of_balanced ran (whole ▸ balanced) ⟨waiting, unsent, unsaid⟩
          ⟨_, chunks, .inr (.inl ⟨bytes, rfl, pending⟩)⟩ fun returned => (running returned).elim⟩
    · rw [ClientStanding, forwarding] at standing
      exact standing.elim

/-- In every run of a relay to a plain connection, both directions are in order. -/
theorem tcp_relay_in_order (maximum : Word) (ran : (program maximum).run events = some relay) :
    (∃ books, ClientInOrder maximum events relay books) ∧
      ∃ unsent, BackendInOrder events relay unsent :=
  ⟨tcp_relay_client_in_order maximum ran, tcp_relay_backend_in_order maximum ran⟩

/-- A message in two parts, an answer, and a close frame. -/
def conversation : List (Event Direction Peer Input Output SocketError CancelPoint) :=
  [.receive .clientToBackend (.websocket ⟨none, some (.ok ⟨false, .binary, [1, 2]⟩)⟩),
    .put .clientToBackend, .receive .backendToClient (.stream (.ok [9])), .lock .backendToClient,
    .receive .clientToBackend (.websocket ⟨none, some (.ok ⟨true, .continuation, [3]⟩)⟩),
    .put .backendToClient, .put .clientToBackend, .flush .backendToClient,
    .receive .clientToBackend (.websocket ⟨none, some (.ok ⟨true, .close, []⟩)⟩)]

/-- The parts come out one after the other before the stream is shut down, and the answer as a
message of its own. -/
theorem tcp_relay_in_order_conversation :
    ∃ relay, (program ⟨8, by decide⟩).run conversation = some relay ∧
      relay.whole .clientToBackend .backend = [.bytes [1, 2], .bytes [3]] ∧
      relay.whole .backendToClient .downstream = [.frame ⟨true, .binary, [9]⟩] ∧
      backendShutdown relay = true ∧
      (∃ books, ClientInOrder ⟨8, by decide⟩ conversation relay books) ∧
      ∃ unsent, BackendInOrder conversation relay unsent :=
  ⟨_, rfl, rfl, rfl, rfl, tcp_relay_in_order ⟨8, by decide⟩ rfl⟩

end EdgeGateway.Relay.Tcp
