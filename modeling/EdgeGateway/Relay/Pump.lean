import EdgeGateway.IpBlocking.State
import EdgeGateway.Library.SupervisedTasks
import EdgeGateway.Websocket.BoundedMessages

/-!
# The pumps of a relay

A relay of two WebSocket connections runs one pump for each direction.  A pump reads frames from
its own peer, replies to it where the frame parser asks for that, and forwards whole messages to
the other peer.  The relay ends with the first pump that ends, or when the gateway shuts down.
-/

namespace EdgeGateway.Relay

open IpBlocking (ViolationRule)
open Machine (Word)
open SupervisedTasks (Program Request Verdict)
open Websocket (BoundedMessages Frame WebSocketError)

/-- The pumps, by where their frames come from and go to. -/
inductive Direction
  | clientToBackend
  | backendToClient
deriving DecidableEq, Repr

/-- A relay has one pump in each direction. -/
theorem Direction.mem_all (direction : Direction) :
    direction ∈ [.clientToBackend, .backendToClient] := by
  cases direction <;> simp

/-- The peers of a relay, each behind a writer of its own. -/
inductive Peer
  | downstream
  | backend
deriving DecidableEq, Repr

/-- The peer that a pump reads from, and replies to. -/
def Direction.own : Direction → Peer
  | clientToBackend => .downstream
  | backendToClient => .backend

/-- The peer that a pump forwards to. -/
def Direction.target : Direction → Peer
  | clientToBackend => .backend
  | backendToClient => .downstream

/-- Errors of reading and writing frames: those that the gateway's own validator shares with the
frame parser, and the others. -/
inductive SocketError
  | validation (error : WebSocketError)
  | pingFrameTooLarge
  | invalidCloseFrame
  | invalidCloseCode
  | reservedBitsNotZero
  | controlFrameFragmented
  | invalidValue
  | connectionClosed
  | sendError
  | other
deriving DecidableEq, Repr

/-- What the frame parser comes to: a control frame that it wants to send first, and a frame or an
error unless it goes on reading. -/
structure SocketRead where
  reply : Option Frame
  result : Option (Except SocketError Frame)

/-- How a pump ends. -/
inductive PumpEnd
  | peerClosed
  | cancelled
  | error (error : SocketError)
deriving DecidableEq, Repr

/-- Where a pump is in its loop. -/
inductive PumpStep
  | reading
  | replying (reply : Frame) (result : Option (Except SocketError Frame))
  | forwarding (frame : Frame)
  | ended (result : PumpEnd)

/-- Which of two nested waits sees a cancellation first. -/
inductive CancelPoint
  | pump
  | reply
deriving DecidableEq, Repr

/-- The violation that an error of a client counts as. -/
def violationRule : SocketError → Option ViolationRule
  | .validation .frameTooLarge | .pingFrameTooLarge => some .sizeViolation
  | .validation .invalidFragment | .validation .invalidUtf8
  | .validation .invalidContinuationFrame | .invalidCloseFrame | .invalidCloseCode
  | .reservedBitsNotZero | .controlFrameFragmented | .invalidValue => some .invalidWebsocket
  | .connectionClosed | .sendError | .other => none

/-- A pump with the violations that it has recorded. -/
structure Pump where
  direction : Direction
  messages : BoundedMessages
  step : PumpStep
  violations : List ViolationRule

namespace Pump

def new (maximum : Word) (direction : Direction) : Pump where
  direction := direction
  messages := .new maximum
  step := .reading
  violations := []

variable (pump : Pump)

/-- Only the pump that reads from a client knows whom to blame. -/
def recordClientWebsocketError (error : SocketError) : Pump :=
  match pump.direction with
  | .clientToBackend =>
      { pump with violations := pump.violations ++ (violationRule error).toList }
  | .backendToClient => pump

/-- A read has failed. -/
def readError (error : SocketError) : Pump :=
  { pump.recordClientWebsocketError error with step := .ended (.error error) }

/-- Messages and close frames are forwarded; other control frames have been answered already. -/
def dispatch (frame : Frame) : Pump :=
  match frame.opcode with
  | .text | .binary | .close => { pump with step := .forwarding frame }
  | .continuation | .ping | .pong => { pump with step := .reading }

/-- Go on with what the frame parser has returned. -/
def resume : Option (Except SocketError Frame) → Pump
  | none => { pump with step := .reading }
  | some (.error error) => pump.readError error
  | some (.ok frame) =>
      match pump.messages.collect frame with
      | .error error => pump.readError (.validation error)
      | .ok (messages, none) => { pump with messages, step := .reading }
      | .ok (messages, some message) => { pump with messages }.dispatch message

/-- Take what the frame parser comes to. -/
def receive (read : SocketRead) : Pump :=
  match read.reply with
  | some reply => { pump with step := .replying reply read.result }
  | none => pump.resume read.result

/-- The frame has been written and flushed. -/
def written : Pump :=
  match pump.step with
  | .replying _ result => pump.resume result
  | .forwarding frame =>
      if frame.opcode = .close then { pump with step := .ended .peerClosed }
      else { pump with step := .reading }
  | .reading | .ended _ => pump

/-- The write has failed; a reply fails the read that it belongs to. -/
def failed (error : SocketError) : Pump :=
  match pump.step with
  | .replying _ _ => pump.readError .sendError
  | .reading | .forwarding _ | .ended _ => { pump with step := .ended (.error error) }

/-- The pump has seen the cancellation; a write that is cancelled counts as a closed connection. -/
def cancelled (point : CancelPoint) : Pump :=
  match pump.step, point with
  | .replying _ _, .reply => pump.readError .sendError
  | .forwarding _, _ => { pump with step := .ended (.error .connectionClosed) }
  | _, _ => { pump with step := .ended .cancelled }

/-- What the pump waits for. -/
def request : Request Peer Frame PumpEnd :=
  match pump.step with
  | .reading => .read
  | .replying reply _ => .write pump.direction.own reply
  | .forwarding frame => .write pump.direction.target frame
  | .ended result => .finish result

end Pump

/-- Why a relay ends. -/
inductive CloseReason
  | clientClosed
  | backendClosed
  | gatewayShutdown
  | relayError
  | internalError
deriving DecidableEq, Repr

/-- The reason that the end of a pump stands for. -/
def closeReasonOf (direction : Direction) : PumpEnd → CloseReason
  | .peerClosed =>
      match direction with
      | .clientToBackend => .clientClosed
      | .backendToClient => .backendClosed
  | .error _ => .relayError
  | .cancelled => .internalError

def closeReason : Verdict Direction PumpEnd → CloseReason
  | .interrupted => .gatewayShutdown
  | .first direction result => closeReasonOf direction result
  | .crashed _ => .internalError

/-- A close frame with a status code and a reason. -/
def closeFrame (code : Nat) (reason : String) : Frame where
  fin := true
  opcode := .close
  payload := [UInt8.ofNat (code / 256), UInt8.ofNat (code % 256)] ++ reason.toUTF8.data.toList

/-- Code and text of the close frame for a reason. -/
def closeParts : CloseReason → Nat × String
  | .gatewayShutdown => (1001, "gateway shutdown")
  | .relayError | .internalError => (1011, "gateway relay error")
  | .clientClosed | .backendClosed => (1000, "")

/-- The close frames that the relay writes itself: none when a peer has closed. -/
def closePair (reason : CloseReason) : List (Peer × Frame) :=
  match reason with
  | .gatewayShutdown | .relayError | .internalError =>
      let frame := closeFrame (closeParts reason).1 (closeParts reason).2
      [(.downstream, frame), (.backend, frame)]
  | .clientClosed | .backendClosed => []

/-- The two pumps of a relay, with a limit on messages. -/
def program (maximum : Word) :
    Program Direction Peer Pump SocketRead Frame SocketError CancelPoint PumpEnd where
  tasks := [.clientToBackend, .backendToClient]
  start := .new maximum
  request := Pump.request
  received := Pump.receive
  written := Pump.written
  failed := Pump.failed
  cancelled := Pump.cancelled
  guarded _ := true
  farewells verdict := closePair (closeReason verdict)
  mem_tasks := Direction.mem_all
  failed_finishes {pump side item} asked error := by
    obtain ⟨direction, messages, step, violations⟩ := pump
    cases step with
    | replying reply result => rfl
    | forwarding frame => rfl
    | reading => cases asked
    | ended result => cases asked
  cancelled_finishes {pump} running point := by
    obtain ⟨direction, messages, step, violations⟩ := pump
    cases step with
    | reading => rfl
    | replying reply result =>
        cases point with
        | pump => rfl
        | reply => rfl
    | forwarding frame => rfl
    | ended result => cases running

end EdgeGateway.Relay
