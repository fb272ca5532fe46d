import EdgeGateway.Relay.Delivery

/-!
# How a relay ends

The reason for which a relay ends rests on what has happened: a close frame that has been read and
forwarded, a shutdown, an error or a crash.  The relay writes close frames of its own only after
its pumps have gone, and no peer can keep it from ending.
-/

namespace EdgeGateway.Relay

open Machine (Word)
open SupervisedTasks
open SupervisedTasks.Program (Calm Continues Farewelled LocalProof Supervised)
open Websocket

variable {events : List (Event Direction Peer SocketRead Frame SocketError CancelPoint)}
  {relay : System Direction Peer Pump Frame PumpEnd} {maximum : Word}

/-! ## Pumps that nobody cancels -/

/-- The pump has not been cancelled. -/
def Uncancelled (pump : Pump) : Prop :=
  pump.step ≠ .ended .cancelled

theorem uncancelled_dispatch (pump : Pump) (frame : Frame) : Uncancelled (pump.dispatch frame) := by
  unfold Pump.dispatch Uncancelled
  split <;> simp

theorem uncancelled_resume (pump : Pump) (result : Option (Except SocketError Frame)) :
    Uncancelled (pump.resume result) := by
  unfold Pump.resume
  split
  · simp [Uncancelled]
  · simp [Uncancelled, step_readError]
  · split
    · simp [Uncancelled, step_readError]
    · simp [Uncancelled]
    · exact uncancelled_dispatch _ _

/-- A pump never comes to the end of a cancelled one by itself. -/
theorem calm_uncancelled (maximum : Word) : Calm (program maximum) Uncancelled where
  start direction := by simp [program, Pump.new, Uncancelled]
  received {pump} _ _ read := by
    simp only [program, Pump.receive]
    split
    · simp [Uncancelled]
    · exact uncancelled_resume pump _
  written {pump side item} calm asked := by
    simp only [program, Pump.written]
    rcases step_of_write asked with ⟨_, result, replying⟩ | ⟨_, forwarding⟩
    · rw [replying]
      exact uncancelled_resume pump result
    · rw [forwarding]
      simp only
      split <;> simp [Uncancelled]
  failed {pump side item} calm asked error := by
    simp only [program, Pump.failed]
    rcases step_of_write asked with ⟨_, result, replying⟩ | ⟨_, forwarding⟩
    · rw [replying]
      simp [Uncancelled, step_readError]
    · rw [forwarding]
      simp [Uncancelled]

/-! ## Reasons -/

/-- Everything that a pump has read is written whole to the other peer, up to the close frame that
it has read last. -/
def PeerClosed (maximum : Word)
    (events : List (Event Direction Peer SocketRead Frame SocketError CancelPoint))
    (relay : System Direction Peer Pump Frame PumpEnd) (direction : Direction) : Prop :=
  ∃ books frame, InOrder maximum events relay direction books ∧ books.waiting = [] ∧
    books.unsent = [] ∧ books.unsaid = [] ∧ ClosedBy books frame

/-- What a reason says about the run. -/
def EndsFor (maximum : Word)
    (events : List (Event Direction Peer SocketRead Frame SocketError CancelPoint))
    (relay : System Direction Peer Pump Frame PumpEnd) : CloseReason → Prop
  | .clientClosed => PeerClosed maximum events relay .clientToBackend
  | .backendClosed => PeerClosed maximum events relay .backendToClient
  | .gatewayShutdown => .interrupt ∈ events
  | .relayError =>
      ∃ direction error, (relay.worker direction).status = .returned (.error error)
  | .internalError => ∃ direction, (relay.worker direction).status = .crashed

/-- A pump that says that its peer has closed has delivered everything. -/
theorem peerClosed_of_returned (ran : (program maximum).run events = some relay)
    {direction : Direction}
    (returned : (relay.worker direction).status = .returned .peerClosed) :
    PeerClosed maximum events relay direction := by
  have follows := ((delivers maximum).holds ran direction).1
  have asked : (relay.worker direction).state.request = .finish .peerClosed :=
    follows.asked_finish returned
  obtain ⟨items, cut, lost, ⟨same, books, balanced, standing⟩, chunks, ended, accounted⟩ :=
    (delivers maximum).contents ran direction
  have closed : (relay.worker direction).state.step = .ended .peerClosed := by
    unfold Pump.request at asked
    split at asked
    case h_4 result step =>
      cases asked
      exact step
    all_goals cases asked
  obtain ⟨waiting, unsent, unsaid, cutting⟩ := standing.short
  rw [same] at cutting
  rw [Standing, closed] at standing
  obtain ⟨nothing_waits, nothing_unsent, nothing_unsaid, _, frame, close⟩ := standing
  rcases accounted with ⟨whole, rfl⟩ | ⟨_, side, item, writes, _⟩
  · exact ⟨books, frame, balanced.inOrder same whole ⟨waiting, unsent, unsaid⟩ chunks ended cutting,
      nothing_waits, nothing_unsent, nothing_unsaid, close⟩
  · cases asked.symm.trans writes

/-- The reason for which a relay ends is what has happened. -/
theorem relay_close_reason (ran : (program maximum).run events = some relay)
    {verdict : Verdict Direction PumpEnd} (decided : relay.phase.verdict = some verdict) :
    EndsFor maximum events relay (closeReason verdict) := by
  have justified := ((calm_uncancelled maximum).supervised ran).verdict decided
  cases verdict with
  | interrupted => exact justified
  | crashed direction => exact ⟨direction, justified.2⟩
  | first direction result =>
      obtain ⟨_, returned, uncancelled⟩ := justified
      cases result with
      | peerClosed =>
          have closed := peerClosed_of_returned ran returned
          cases direction with
          | clientToBackend => exact closed
          | backendToClient => exact closed
      | error error => exact ⟨direction, error, returned⟩
      | cancelled =>
          have follows := ((delivers maximum).holds ran direction).1
          have asked : (relay.worker direction).state.request = .finish .cancelled :=
            follows.asked_finish returned
          refine absurd ?_ uncancelled
          unfold Pump.request at asked
          split at asked
          case h_4 result step =>
            cases asked
            exact step
          all_goals cases asked

/-- A client closes, and its close frame is answered and forwarded. -/
def clientCloses : List (Event Direction Peer SocketRead Frame SocketError CancelPoint) :=
  [.receive .clientToBackend
      ⟨some ⟨true, .close, [3, 232]⟩, some (.ok ⟨true, .close, [3, 232]⟩)⟩,
    .lock .clientToBackend, .put .clientToBackend, .flush .clientToBackend,
    .lock .clientToBackend, .put .clientToBackend, .flush .clientToBackend,
    .join .clientToBackend]

/-- The relay ends because the client has closed. -/
theorem relay_close_reason_client :
    ∃ relay, (program ⟨8, by decide⟩).run clientCloses = some relay ∧
      relay.phase.verdict = some (.first .clientToBackend .peerClosed) ∧
      EndsFor ⟨8, by decide⟩ clientCloses relay
        (closeReason (.first .clientToBackend .peerClosed)) :=
  ⟨_, rfl, rfl, relay_close_reason rfl rfl⟩

/-! ## The wire of one peer -/

/-- What reaches a peer is in order: one pump at a time writes to it, a pump that waits waits for a
write of the other one, and the relay's own close frame comes at the very end, once, after both
pumps have gone, and not for a peer that has closed. -/
structure Disciplined (relay : System Direction Peer Pump Frame PumpEnd) (peer : Peer) :
    Prop where
  exclusive : ∀ direction other, relay.Inside direction peer → relay.Inside other peer →
    direction = other
  waits : ∀ direction frame, (relay.worker direction).status = .writing peer frame .locking →
    (relay.sink peer).holder = none ∨ ∃ other, other ≠ direction ∧ relay.Inside other peer
  last : (relay.sink peer).chunks =
    (relay.sink peer).chunks.filter (fun chunk => chunk.writer.isSome) ++ relay.chunksOf none peer
  own : relay.chunksOf none peer ≠ [] → ∃ verdict,
    relay.phase.verdict = some verdict ∧ (∀ direction, (relay.worker direction).joined = true) ∧
      closeReason verdict ≠ .clientClosed ∧ closeReason verdict ≠ .backendClosed ∧
      (relay.chunksOf none peer).map Chunk.item =
        [closeFrame (closeParts (closeReason verdict)).1 (closeParts (closeReason verdict)).2]

/-- A relay writes at most one close frame of its own to each peer. -/
theorem count_closePair (reason : CloseReason) (peer : Peer) (frame : Frame) :
    (closePair reason).count (peer, frame) ≤
      [closeFrame (closeParts reason).1 (closeParts reason).2].count frame := by
  cases reason with
  | clientClosed | backendClosed => exact Nat.zero_le _
  | gatewayShutdown | relayError | internalError =>
      cases peer with
      | downstream => simp [closePair, List.count_cons]
      | backend => simp [closePair, List.count_cons]

/-- Entries that a list with one entry bounds. -/
theorem eq_singleton_of_count_le {frames : List Frame} {only : Frame}
    (bounded : ∀ frame, frames.count frame ≤ [only].count frame) (some_left : frames ≠ []) :
    frames = [only] := by
  have sub : frames.Subperm [only] := List.subperm_ext_iff.mpr fun frame _ => bounded frame
  have short := sub.length_le
  obtain ⟨first, rest, rfl⟩ := List.exists_cons_of_ne_nil some_left
  have nothing : rest = [] := by
    rw [List.length_cons, List.length_singleton] at short
    exact List.length_eq_zero_iff.mp (by omega)
  subst nothing
  have member := sub.subset List.mem_cons_self
  rw [List.mem_singleton.mp member]

/-- In every run of a relay, what reaches a peer is in order. -/
theorem relay_wire_discipline (maximum : Word) (ran : (program maximum).run events = some relay)
    (peer : Peer) : Disciplined relay peer := by
  have exclusive := Program.exclusive_of_run ran
  have farewelled := Program.farewelled_of_run ran
  have supervised := (calm_uncancelled maximum).supervised ran
  have holder (direction : Direction) :
      (relay.sink peer).holder = some direction ↔ relay.Inside direction peer :=
    exclusive.holder rfl direction
  refine ⟨?_, ?_, ?_, ?_⟩
  · intro direction other inside also
    rw [← holder] at inside also
    exact Option.some.inj (inside.symm.trans also)
  · intro direction frame waiting
    cases held : (relay.sink peer).holder with
    | none => exact .inl rfl
    | some other =>
        have inside := (holder other).mp held
        refine .inr ⟨other, ?_, inside⟩
        rintro rfl
        obtain ⟨item, progress, doing, entered⟩ := inside
        rw [waiting] at doing
        cases doing
        exact entered rfl
  · cases phase : relay.phase with
    | leaving verdict remaining => exact farewelled.last phase peer
    | running | draining _ =>
        have silent := farewelled.silent (by simp [phase]) peer
        rw [Program.filter_isSome_of_silent silent, silent, List.append_nil]
  · intro written
    cases phase : relay.phase with
    | running | draining _ => exact absurd (farewelled.silent (by simp [phase]) peer) written
    | leaving verdict remaining =>
        have bounded (frame : Frame) : ((relay.chunksOf none peer).map Chunk.item).count frame ≤
            (closePair (closeReason verdict)).count (peer, frame) :=
          Nat.le_trans (Nat.le_add_right _ _) (farewelled.bounded phase peer frame)
        have some_left : (relay.chunksOf none peer).map Chunk.item ≠ [] := by simpa using written
        have only := eq_singleton_of_count_le
          (fun frame => Nat.le_trans (bounded frame) (count_closePair _ peer frame)) some_left
        have closes := bounded (closeFrame (closeParts (closeReason verdict)).1
          (closeParts (closeReason verdict)).2)
        rw [only, List.count_singleton_self] at closes
        refine ⟨verdict, rfl, supervised.gone phase, ?_, ?_, only⟩
        · intro client
          rw [client] at closes
          exact absurd closes (Nat.not_succ_le_zero 0)
        · intro backend
          rw [backend] at closes
          exact absurd closes (Nat.not_succ_le_zero 0)

/-- A shutdown while a message of the backend is being written. -/
def shutsDown : List (Event Direction Peer SocketRead Frame SocketError CancelPoint) :=
  [.receive .backendToClient ⟨none, some (.ok ⟨true, .binary, [1, 2]⟩)⟩, .lock .backendToClient,
    .interrupt, .cancel .backendToClient .pump, .cancel .clientToBackend .pump,
    .join .backendToClient, .join .clientToBackend, .drain,
    .farewell .downstream (closeFrame 1001 "gateway shutdown") (some true)]

/-- The client gets a part of the message, and then the close frame of the relay. -/
theorem relay_wire_discipline_shutdown :
    ∃ relay, (program ⟨8, by decide⟩).run shutsDown = some relay ∧
      (relay.sink .downstream).chunks =
        [⟨some .backendToClient, ⟨true, .binary, [1, 2]⟩, false⟩,
          ⟨none, closeFrame 1001 "gateway shutdown", true⟩] ∧
      Disciplined relay .downstream :=
  ⟨_, rfl, rfl, relay_wire_discipline ⟨8, by decide⟩
    (show (program ⟨8, by decide⟩).run shutsDown = some _ from rfl) .downstream⟩

/-- A relay that has a reason to end can do so in at most seven steps of its own, whatever the peers
do: a socket that takes nothing does not keep it. -/
theorem relay_can_end (ran : (program maximum).run events = some relay)
    {verdict : Verdict Direction PumpEnd} (decided : relay.phase.verdict = some verdict) :
    ∃ more final, Continues (program maximum) events 7 more final ∧
      final.phase = .leaving verdict [] := by
  obtain ⟨more, final, continues, ended⟩ := Program.run_ends ran decided .pump
  refine ⟨more, final, continues.mono ?_, ended⟩
  have few : (closePair (closeReason verdict)).length ≤ 2 := by
    cases closeReason verdict <;> simp [closePair]
  simp only [program, List.length_cons, List.length_nil]
  omega

/-- A relay that has been told to stop while both pumps wait. -/
theorem relay_can_end_at_once :
    ∃ relay, (program ⟨8, by decide⟩).run [.interrupt] = some relay ∧
      ∃ more final, Continues (program ⟨8, by decide⟩) [.interrupt] 7 more final ∧
        final.phase = .leaving .interrupted [] :=
  ⟨_, rfl, relay_can_end rfl rfl⟩

end EdgeGateway.Relay
