import EdgeGateway.Library.AtomicPrograms
import Mathlib.Data.Multiset.AddSub

/-!
# Connection gauges and sampled rejections

Tasks count their connections and their rejections in shared words, one atomic operation at a
time, and others may come in between.  Under every interleaving each gauge is exact once no
begin is between its two steps, and the rejections that are worth a log line are the powers of
two.
-/

namespace EdgeGateway.Observability

open Machine AtomicPrograms

/-! ## Counters -/

inductive ConnectionKind
  | transport
  | webSocket
  deriving DecidableEq, Repr

inductive AdmissionRejection
  | originPeer
  | connectionCapacity
  | handshakeCapacity
  | requestCapacity
  | clientIdentity
  | authority
  | headers
  deriving DecidableEq, Repr

/-- The words that the calls of this file touch. -/
inductive Counter
  | nextTransportConnectionId
  | nextWebsocketConnectionId
  | originPeerRejectionsTotal
  | connectionCapacityRejectionsTotal
  | handshakeCapacityRejectionsTotal
  | requestCapacityRejectionsTotal
  | clientIdentityRejectionsTotal
  | authorityRejectionsTotal
  | httpHeaderRejectionsTotal
  | activeTransportConnections
  | peakTransportConnections
  | transportConnectionsTotal
  | activeWebsocketConnections
  | peakWebsocketConnections
  | websocketConnectionsTotal
  deriving DecidableEq, Repr

/-- The connection ids start at one, everything else at zero. -/
def Counter.start : Memory Counter
  | .nextTransportConnectionId => 1
  | .nextWebsocketConnectionId => 1
  | _ => 0

/-- The counter of a reason. -/
def AdmissionRejection.counter : AdmissionRejection → Counter
  | originPeer => .originPeerRejectionsTotal
  | connectionCapacity => .connectionCapacityRejectionsTotal
  | handshakeCapacity => .handshakeCapacityRejectionsTotal
  | requestCapacity => .requestCapacityRejectionsTotal
  | clientIdentity => .clientIdentityRejectionsTotal
  | authority => .authorityRejectionsTotal
  | headers => .httpHeaderRejectionsTotal

namespace ConnectionKind

/-- The counter of the connections of a kind that are alive. -/
def active : ConnectionKind → Counter
  | transport => .activeTransportConnections
  | webSocket => .activeWebsocketConnections

/-- The counter of the most connections of a kind that have been alive. -/
def peak : ConnectionKind → Counter
  | transport => .peakTransportConnections
  | webSocket => .peakWebsocketConnections

/-- The counter of all connections of a kind. -/
def total : ConnectionKind → Counter
  | transport => .transportConnectionsTotal
  | webSocket => .websocketConnectionsTotal

end ConnectionKind

/-- What a counter is for; no two of them are for the same. -/
inductive Role
  | identifier
  | rejections (reason : AdmissionRejection)
  | active (kind : ConnectionKind)
  | peak (kind : ConnectionKind)
  | total (kind : ConnectionKind)
  deriving DecidableEq, Repr

def Counter.role : Counter → Role
  | nextTransportConnectionId => .identifier
  | nextWebsocketConnectionId => .identifier
  | originPeerRejectionsTotal => .rejections .originPeer
  | connectionCapacityRejectionsTotal => .rejections .connectionCapacity
  | handshakeCapacityRejectionsTotal => .rejections .handshakeCapacity
  | requestCapacityRejectionsTotal => .rejections .requestCapacity
  | clientIdentityRejectionsTotal => .rejections .clientIdentity
  | authorityRejectionsTotal => .rejections .authority
  | httpHeaderRejectionsTotal => .rejections .headers
  | activeTransportConnections => .active .transport
  | peakTransportConnections => .peak .transport
  | transportConnectionsTotal => .total .transport
  | activeWebsocketConnections => .active .webSocket
  | peakWebsocketConnections => .peak .webSocket
  | websocketConnectionsTotal => .total .webSocket

@[simp] theorem role_counter (reason : AdmissionRejection) :
    reason.counter.role = .rejections reason := by
  cases reason <;> rfl

@[simp] theorem role_active (kind : ConnectionKind) : kind.active.role = .active kind := by
  cases kind <;> rfl

@[simp] theorem role_peak (kind : ConnectionKind) : kind.peak.role = .peak kind := by
  cases kind <;> rfl

@[simp] theorem role_total (kind : ConnectionKind) : kind.total.role = .total kind := by
  cases kind <;> rfl

theorem ne_of_role {first second : Counter} (differ : first.role ≠ second.role) : first ≠ second :=
  mt (congrArg Counter.role) differ

/-! ## Calls -/

/-- What a connection holds until it is dropped. -/
structure ActiveConnection where
  kind : ConnectionKind
  deriving DecidableEq, Repr

/-- Count a rejection; the first, second, fourth, eighth and so on of a reason is to be logged. -/
def recordAdmissionRejection (reason : AdmissionRejection) : Program Counter Bool := do
  let previous ← .operate (.fetchAdd reason.counter 1)
  return (saturatingAdd previous 1).isPowerOfTwo

def incrementActive (active peak : Counter) : Program Counter Unit := do
  let current := saturatingAdd (← .operate (.fetchAdd active 1)) 1
  let _ ← .operate (.fetchMax peak current)

def beginTransportConnection : Program Counter (Nat × ActiveConnection) := do
  let id ← .operate (.fetchAdd .nextTransportConnectionId 1)
  let _ ← .operate (.fetchAdd .transportConnectionsTotal 1)
  incrementActive .activeTransportConnections .peakTransportConnections
  return (id, ⟨.transport⟩)

def nextWebsocketConnectionId : Program Counter Nat :=
  .operate (.fetchAdd .nextWebsocketConnectionId 1)

def beginWebsocketConnection : Program Counter ActiveConnection := do
  let _ ← .operate (.fetchAdd .websocketConnectionsTotal 1)
  incrementActive .activeWebsocketConnections .peakWebsocketConnections
  return ⟨.webSocket⟩

def ActiveConnection.drop (connection : ActiveConnection) : Program Counter Unit := do
  let _ ← .operate (.fetchSub connection.kind.active 1)

/-- What a call returns. -/
inductive Outcome
  | transport (id : Nat) (connection : ActiveConnection)
  | webSocket (connection : ActiveConnection)
  | identifier (id : Nat)
  | rejection (reason : AdmissionRejection) (log : Bool)
  | dropped (kind : ConnectionKind)
  deriving DecidableEq, Repr

namespace Outcome

/-- The kind of the connection that a call hands out. -/
def kind? : Outcome → Option ConnectionKind
  | transport _ connection => some connection.kind
  | webSocket connection => some connection.kind
  | _ => none

/-- The answer about a rejection of a reason. -/
def answer? (reason : AdmissionRejection) : Outcome → Option Bool
  | rejection other log => if other = reason then some log else none
  | _ => none

end Outcome

/-- The calls of tasks. -/
inductive Call
  | beginTransportConnection
  | nextWebsocketConnectionId
  | beginWebsocketConnection
  | recordAdmissionRejection (reason : AdmissionRejection)
  | drop (kind : ConnectionKind)

/-- The kind of the connection that a call begins. -/
def Call.begins? : Call → Option ConnectionKind
  | beginTransportConnection => some .transport
  | beginWebsocketConnection => some .webSocket
  | _ => none

def Call.program : Call → Program Counter Outcome
  | beginTransportConnection => do
      let (id, connection) ← Observability.beginTransportConnection
      return .transport id connection
  | nextWebsocketConnectionId => return .identifier (← Observability.nextWebsocketConnectionId)
  | beginWebsocketConnection => return .webSocket (← Observability.beginWebsocketConnection)
  | recordAdmissionRejection reason =>
      return .rejection reason (← Observability.recordAdmissionRejection reason)
  | drop kind => do
      ActiveConnection.drop ⟨kind⟩
      return .dropped kind

/-! ## Runs -/

/-- The connections of a kind that have been handed out. -/
def handedOut (kind : ConnectionKind) (returned : List Outcome) : Nat :=
  returned.countP fun outcome => outcome.kind? = some kind

/-- The drops of a kind that have returned. -/
def dropped (kind : ConnectionKind) (returned : List Outcome) : Nat :=
  returned.count (.dropped kind)

/-- The shared words with the calls on them, and the drops that have been called. -/
structure Runtime where
  system : System Counter Outcome
  dropping : ConnectionKind → Nat

/-- A call, or the next operation of the running call at a position. -/
inductive Event
  | call (call : Call)
  | advance (position : Nat)

/-- The event is a call that begins a connection of a kind. -/
def Event.begins (kind : ConnectionKind) : Event → Bool
  | .call made => made.begins? = some kind
  | .advance _ => false

namespace Runtime

def initial : Runtime where
  system := .initial Counter.start
  dropping := fun _ => 0

/-- A connection is dropped once, after it has been handed out; other calls are always possible. -/
def called (runtime : Runtime) : Call → Runtime
  | .drop kind =>
      if runtime.dropping kind < handedOut kind runtime.system.returned then
        { system := runtime.system.call (Call.drop kind).program
          dropping := fun other =>
            if other = kind then runtime.dropping other + 1 else runtime.dropping other }
      else
        runtime
  | call => { runtime with system := runtime.system.call call.program }

def handle (runtime : Runtime) : Event → Runtime
  | .call call => runtime.called call
  | .advance position => { runtime with system := runtime.system.advance position }

/-- The runtime after a run. -/
def run (events : List Event) : Runtime :=
  events.foldl handle initial

theorem run_append (events : List Event) (event : Event) :
    run (events ++ [event]) = (run events).handle event := by
  rw [run, run, List.foldl_append, List.foldl_cons, List.foldl_nil]

end Runtime

/-! ## Observations -/

/-- The begins of a kind that have counted their connection. -/
def begun (kind : ConnectionKind) (log : List (Operation Counter)) : Nat :=
  log.count (.fetchAdd kind.active 1)

/-- The answers to the calls about a reason. -/
def answers (reason : AdmissionRejection) (returned : List Outcome) : List Bool :=
  returned.filterMap (Outcome.answer? reason)

/-- The value that a begin between its two steps is about to compare with the peak. -/
def raised? (kind : ConnectionKind) : Program Counter Outcome → Option Nat
  | .atomic (.fetchMax cell value) _ => if cell = kind.peak then some value else none
  | _ => none

/-- The begins of a kind that are between their two steps. -/
def between (kind : ConnectionKind) (running : List (Program Counter Outcome)) : Nat :=
  running.countP fun program => (raised? kind program).isSome

/-- The drop has not counted its connection yet. -/
def leaves (kind : ConnectionKind) : Program Counter Outcome → Bool
  | .atomic (.fetchSub cell _) _ => cell = kind.active
  | _ => false

/-- The begin that the operation belongs to has a connection of the kind to hand out. -/
def begins (kind : ConnectionKind) : Program Counter Outcome → Bool
  | .atomic (.fetchAdd cell _) _ =>
      cell.role = .total kind || cell.role = .active kind ||
        (decide (cell = .nextTransportConnectionId) && decide (kind = .transport))
  | .atomic (.fetchMax cell _) _ => cell.role = .peak kind
  | _ => false

/-! ## Stages of a call -/

/-- A begin between its two steps. -/
def raising (kind : ConnectionKind) (value : Nat) (outcome : Outcome) : Program Counter Outcome :=
  .atomic (.fetchMax kind.peak value) fun _ => .done outcome

/-- A begin that is about to count its connection. -/
def entering (kind : ConnectionKind) (outcome : Outcome) : Program Counter Outcome :=
  .atomic (.fetchAdd kind.active 1) fun found => raising kind (saturatingAdd found 1) outcome

/-- What is left of a call that runs. -/
inductive Stage : Program Counter Outcome → Prop
  | numbering : Stage (.atomic (.fetchAdd .nextTransportConnectionId 1) fun id =>
      .atomic (.fetchAdd .transportConnectionsTotal 1) fun _ =>
        entering .transport (.transport id ⟨.transport⟩))
  | counting (kind : ConnectionKind) (outcome : Outcome) (handed : outcome.kind? = some kind) :
      Stage (.atomic (.fetchAdd kind.total 1) fun _ => entering kind outcome)
  | entering (kind : ConnectionKind) (outcome : Outcome) (handed : outcome.kind? = some kind) :
      Stage (entering kind outcome)
  | raising (kind : ConnectionKind) (value : Nat) (outcome : Outcome)
      (handed : outcome.kind? = some kind) : Stage (raising kind value outcome)
  | identifying : Stage (.atomic (.fetchAdd .nextWebsocketConnectionId 1) fun id =>
      .done (.identifier id))
  | rejecting (reason : AdmissionRejection) :
      Stage (.atomic (.fetchAdd reason.counter 1) fun found =>
        .done (.rejection reason (saturatingAdd found 1).isPowerOfTwo))
  | leaving (kind : ConnectionKind) :
      Stage (.atomic (.fetchSub kind.active 1) fun _ => .done (.dropped kind))

theorem stage_program (call : Call) : Stage call.program := by
  cases call with
  | beginTransportConnection => exact .numbering
  | nextWebsocketConnectionId => exact .identifying
  | beginWebsocketConnection => exact .counting .webSocket (.webSocket ⟨.webSocket⟩) rfl
  | recordAdmissionRejection reason => exact .rejecting reason
  | drop kind => exact .leaving kind

theorem Stage.atomic {program : Program Counter Outcome} (stage : Stage program) :
    ∃ operation next, program = .atomic operation next := by
  cases stage with
  | numbering => exact ⟨_, _, rfl⟩
  | counting => exact ⟨_, _, rfl⟩
  | entering => exact ⟨_, _, rfl⟩
  | raising => exact ⟨_, _, rfl⟩
  | identifying => exact ⟨_, _, rfl⟩
  | rejecting => exact ⟨_, _, rfl⟩
  | leaving => exact ⟨_, _, rfl⟩

/-- What follows an operation is the next stage, or has returned. -/
theorem Stage.next {operation : Operation Counter} {next : Nat → Program Counter Outcome}
    (stage : Stage (.atomic operation next)) (found : Nat) :
    ∀ program ∈ (next found).unfinished, Stage program := by
  intro program member
  cases stage with
  | numbering =>
      obtain rfl := List.mem_singleton.mp member
      exact .counting .transport _ rfl
  | counting kind outcome handed =>
      obtain rfl := List.mem_singleton.mp member
      exact .entering kind outcome handed
  | entering kind outcome handed =>
      obtain rfl := List.mem_singleton.mp member
      exact .raising kind _ outcome handed
  | raising => cases member
  | identifying => cases member
  | rejecting => cases member
  | leaving => cases member

namespace Runtime

variable {runtime : Runtime}

/-- Every running call is at one of the stages. -/
def Staged (runtime : Runtime) : Prop :=
  ∀ program ∈ runtime.system.running, Stage program

theorem Staged.call (staged : runtime.Staged) (call : Call) :
    ∀ program ∈ (runtime.system.call call.program).running, Stage program := by
  intro program member
  obtain ⟨operation, next, started⟩ := (stage_program call).atomic
  rcases List.mem_append.mp member with fresh | earlier
  · rw [started] at fresh
    rw [List.mem_singleton.mp fresh, ← started]
    exact stage_program call
  · exact staged program earlier

/-- The next stage follows wherever a call is let go on. -/
theorem Staged.handle (staged : runtime.Staged) (event : Event) :
    (runtime.handle event).Staged := by
  cases event with
  | call call =>
      cases call with
      | drop kind =>
          rw [Runtime.handle, called]
          split_ifs with owned
          · exact staged.call (.drop kind)
          · exact staged
      | beginTransportConnection => exact staged.call .beginTransportConnection
      | nextWebsocketConnectionId => exact staged.call .nextWebsocketConnectionId
      | beginWebsocketConnection => exact staged.call .beginWebsocketConnection
      | recordAdmissionRejection reason => exact staged.call (.recordAdmissionRejection reason)
  | advance position =>
      intro program member
      have advanced := runtime.system.advanced position
      rw [Runtime.handle] at member
      generalize runtime.system.advance position = after at advanced member
      cases advanced with
      | idle => exact staged program member
      | stepped operation next others split =>
          rcases List.mem_append.mp member with rest | other
          · have stage := staged _ (split.mem_iff.mp List.mem_cons_self)
            exact stage.next _ program rest
          · exact staged program (split.mem_iff.mp (List.mem_cons_of_mem _ other))

end Runtime

/-! ## The gauge of a kind by itself -/

/-- What a kind of connections comes to, with the begins between their two steps. -/
@[ext]
structure Gauge where
  begun : Nat
  dropped : Nat
  handedOut : Nat
  dropping : Nat
  leaving : Nat
  active : Nat
  peak : Nat
  pending : Multiset Nat

namespace Gauge

/-- All that may happen to a gauge. -/
inductive Step : Gauge → Gauge → Prop
  | idle (gauge : Gauge) : Step gauge gauge
  | enter (gauge : Gauge) : Step gauge
      { gauge with
        begun := gauge.begun + 1
        active := wrappingAdd gauge.active 1
        pending := saturatingAdd gauge.active 1 ::ₘ gauge.pending }
  | raise (gauge : Gauge) (value : Nat) (rest : Multiset Nat)
      (split : gauge.pending = value ::ₘ rest) : Step gauge
      { gauge with
        handedOut := gauge.handedOut + 1
        peak := max gauge.peak value
        pending := rest }
  | drop (gauge : Gauge) (owned : gauge.dropping < gauge.handedOut) : Step gauge
      { gauge with
        dropping := gauge.dropping + 1
        leaving := gauge.leaving + 1 }
  | leave (gauge : Gauge) (rest : Nat) (split : gauge.leaving = rest + 1) : Step gauge
      { gauge with
        dropped := gauge.dropped + 1
        leaving := rest
        active := wrappingSub gauge.active 1 }

/-- What a gauge keeps, when its word has been at `highest` at most.  The peak may lag behind, but
then a begin that is between its two steps carries the value. -/
structure Sound (gauge : Gauge) (highest : Nat) : Prop where
  begun_eq : gauge.begun = gauge.handedOut + gauge.pending.card
  dropped_eq : gauge.dropped + gauge.leaving = gauge.dropping
  owned : gauge.dropping ≤ gauge.handedOut
  active_eq : gauge.active = (gauge.begun - gauge.dropped) % wordSize
  bounded : gauge.begun < wordSize → gauge.active ≤ highest ∧ gauge.peak ≤ highest ∧
    ∀ value ∈ gauge.pending, value ≤ highest
  attained : gauge.begun < wordSize → gauge.peak = highest ∨ highest ∈ gauge.pending

variable {gauge next : Gauge} {highest : Nat}

theorem sound_zero : Sound ⟨0, 0, 0, 0, 0, 0, 0, 0⟩ 0 := by
  refine ⟨rfl, rfl, Nat.le_refl 0, rfl, fun _ => ⟨Nat.le_refl 0, Nat.le_refl 0, ?_⟩, ?_⟩
  · intro value member
    exact absurd member (Multiset.notMem_zero value)
  · exact fun _ => Or.inl rfl

theorem Sound.dropped_le (sound : gauge.Sound highest) : gauge.dropped ≤ gauge.begun := by
  obtain ⟨begun_eq, dropped_eq, owned, _, _, _⟩ := sound
  omega

/-- Without an overflow the word is the exact difference. -/
theorem Sound.active_add_dropped (sound : gauge.Sound highest) (few : gauge.begun < wordSize) :
    gauge.active + gauge.dropped = gauge.begun := by
  have le := sound.dropped_le
  rw [sound.active_eq, Nat.mod_eq_of_lt (by omega)]
  omega

/-- A drop that has not counted its connection yet finds the connection in the word. -/
theorem Sound.active_pos (sound : gauge.Sound highest) (few : gauge.begun < wordSize)
    (leaving : 0 < gauge.leaving) : 0 < gauge.active := by
  have sum := sound.active_add_dropped few
  obtain ⟨begun_eq, dropped_eq, owned, _, _, _⟩ := sound
  omega

/-- As long as the word does not rise, its highest value and what is known of it stay. -/
theorem Sound.settled (sound : gauge.Sound highest) {active : Nat} (few : gauge.begun < wordSize)
    (lower : active ≤ gauge.active) :
    max highest active = highest ∧ active ≤ highest ∧ gauge.peak ≤ highest ∧
      (∀ value ∈ gauge.pending, value ≤ highest) ∧
        (gauge.peak = highest ∨ highest ∈ gauge.pending) := by
  obtain ⟨active_le, peak_le, pending_le⟩ := sound.bounded few
  have within : active ≤ highest := Nat.le_trans lower active_le
  exact ⟨Nat.max_eq_left within, within, peak_le, pending_le, sound.attained few⟩

/-- Nothing but a begin takes the word above where it has been, and then carries the new value. -/
theorem Sound.enter (sound : gauge.Sound highest) :
    Sound { gauge with
        begun := gauge.begun + 1
        active := wrappingAdd gauge.active 1
        pending := saturatingAdd gauge.active 1 ::ₘ gauge.pending }
      (max highest (wrappingAdd gauge.active 1)) := by
  have sum := sound.active_add_dropped
  have le := sound.dropped_le
  obtain ⟨begun_eq, dropped_eq, owned, active_eq, bounded, attained⟩ := sound
  have exact_word (few : gauge.begun + 1 < wordSize) :
      saturatingAdd gauge.active 1 = gauge.active + 1 ∧
        wrappingAdd gauge.active 1 = gauge.active + 1 := by
    have difference := sum (Nat.lt_of_succ_lt few)
    exact ⟨Nat.min_eq_left (by omega), Nat.mod_eq_of_lt (by omega)⟩
  refine ⟨?_, dropped_eq, owned, ?_, ?_, ?_⟩
  · rw [Multiset.card_cons, begun_eq, Nat.add_assoc]
  · rw [active_eq, wrappingAdd_mod, Nat.sub_add_comm le]
  · intro few
    obtain ⟨saturated, wrapped⟩ := exact_word few
    obtain ⟨_, peak_le, pending_le⟩ := bounded (Nat.lt_of_succ_lt few)
    refine ⟨Nat.le_max_right _ _, Nat.le_trans peak_le (Nat.le_max_left _ _), ?_⟩
    intro value member
    rw [Multiset.mem_cons, saturated, ← wrapped] at member
    rcases member with rfl | earlier
    · exact Nat.le_max_right _ _
    · exact Nat.le_trans (pending_le value earlier) (Nat.le_max_left _ _)
  · intro few
    obtain ⟨saturated, wrapped⟩ := exact_word few
    rw [saturated, ← wrapped]
    rcases Nat.le_total highest (wrappingAdd gauge.active 1) with above | below
    · rw [Nat.max_eq_right above]
      exact Or.inr (Multiset.mem_cons_self _ _)
    · rw [Nat.max_eq_left below]
      exact (attained (Nat.lt_of_succ_lt few)).imp_right Multiset.mem_cons_of_mem

/-- A begin that carried the highest value leaves it to the peak. -/
theorem Sound.raise (sound : gauge.Sound highest) {value : Nat} {rest : Multiset Nat}
    (split : gauge.pending = value ::ₘ rest) :
    Sound { gauge with
        handedOut := gauge.handedOut + 1
        peak := max gauge.peak value
        pending := rest }
      (max highest gauge.active) := by
  have settled (few : gauge.begun < wordSize) := sound.settled few (Nat.le_refl _)
  obtain ⟨begun_eq, dropped_eq, owned, active_eq, _, _⟩ := sound
  rw [split, Multiset.card_cons] at begun_eq
  rw [split] at settled
  refine ⟨?_, dropped_eq, Nat.le_succ_of_le owned, active_eq, ?_, ?_⟩
  · change gauge.begun = gauge.handedOut + 1 + rest.card
    omega
  · intro few
    obtain ⟨same, active_le, peak_le, pending_le, _⟩ := settled few
    rw [same]
    exact ⟨active_le, Nat.max_le.mpr ⟨peak_le, pending_le value (Multiset.mem_cons_self _ _)⟩,
      fun other member => pending_le other (Multiset.mem_cons_of_mem member)⟩
  · intro few
    obtain ⟨same, _, peak_le, pending_le, attained⟩ := settled few
    rw [same]
    rcases attained with reached | carried
    · rw [reached]
      exact Or.inl (Nat.max_eq_left (pending_le value (Multiset.mem_cons_self _ _)))
    rcases Multiset.mem_cons.mp carried with rfl | other
    · exact Or.inl (Nat.max_eq_right peak_le)
    · exact Or.inr other

/-- A drop takes its connection from the word, which holds one. -/
theorem Sound.leave (sound : gauge.Sound highest) {rest : Nat} (split : gauge.leaving = rest + 1) :
    Sound { gauge with
        dropped := gauge.dropped + 1
        leaving := rest
        active := wrappingSub gauge.active 1 }
      (max highest (wrappingSub gauge.active 1)) := by
  have lower (few : gauge.begun < wordSize) : wrappingSub gauge.active 1 ≤ gauge.active := by
    have word := sound.active_add_dropped few
    have positive := sound.active_pos few (by omega)
    rw [wrappingSub_of_le positive (by omega)]
    exact Nat.sub_le _ _
  have settled (few : gauge.begun < wordSize) := sound.settled few (lower few)
  obtain ⟨begun_eq, dropped_eq, owned, active_eq, _, _⟩ := sound
  refine ⟨begun_eq, ?_, owned, ?_, ?_, ?_⟩
  · change gauge.dropped + 1 + rest = gauge.dropping
    omega
  · rw [active_eq, wrappingSub_mod (by omega) (by decide), Nat.sub_sub]
  · intro few
    obtain ⟨same, active_le, peak_le, pending_le, _⟩ := settled few
    rw [same]
    exact ⟨active_le, peak_le, pending_le⟩
  · intro few
    obtain ⟨same, _, _, _, attained⟩ := settled few
    rw [same]
    exact attained

/-- A step that leaves the words and what begins carry keeps the rest as it is. -/
theorem Sound.idle (sound : gauge.Sound highest) : gauge.Sound (max highest gauge.active) := by
  have settled (few : gauge.begun < wordSize) := sound.settled few (Nat.le_refl _)
  refine { sound with bounded := ?_, attained := ?_ }
  · intro few
    obtain ⟨same, active_le, peak_le, pending_le, _⟩ := settled few
    rw [same]
    exact ⟨active_le, peak_le, pending_le⟩
  · intro few
    obtain ⟨same, _, _, _, attained⟩ := settled few
    rw [same]
    exact attained

theorem Sound.step (sound : gauge.Sound highest) (step : Step gauge next) :
    next.Sound (max highest next.active) := by
  cases step with
  | idle => exact sound.idle
  | enter => exact sound.enter
  | raise value rest split => exact sound.raise split
  | drop more =>
      have same : gauge.dropped + (gauge.leaving + 1) = gauge.dropping + 1 :=
        congrArg Nat.succ sound.dropped_eq
      exact { sound.idle with dropped_eq := same, owned := more }
  | leave rest split => exact sound.leave split

end Gauge

/-! ## The tally of a reason by itself -/

/-- What a reason comes to: the value of its counter and the answers so far. -/
@[ext]
structure Tally where
  counted : Nat
  answers : List Bool

namespace Tally

/-- The tally after one more call. -/
def count (tally : Tally) : Tally where
  counted := wrappingAdd tally.counted 1
  answers := tally.answers ++ [decide (saturatingAdd tally.counted 1).isPowerOfTwo]

/-- The counter holds the number of answers, and each answer was given at its place. -/
structure Sound (tally : Tally) : Prop where
  counted_eq : tally.counted = tally.answers.length % wordSize
  answers_eq : tally.answers = (List.range tally.answers.length).map fun earlier =>
    decide (saturatingAdd (earlier % wordSize) 1).isPowerOfTwo

variable {tally : Tally}

theorem Sound.count (sound : tally.Sound) : tally.count.Sound := by
  obtain ⟨counted_eq, answers_eq⟩ := sound
  have longer : tally.count.answers.length = tally.answers.length + 1 := List.length_append
  constructor
  · rw [longer, ← wrappingAdd_mod, ← counted_eq]
    rfl
  · rw [longer, List.range_succ, List.map_append, ← answers_eq, List.map_singleton, ← counted_eq]
    rfl

/-- Of the first answers, those at the powers of two are positive. -/
theorem Sound.count_true (sound : tally.Sound) (some_answer : 0 < tally.answers.length)
    (few : tally.answers.length < wordSize) :
    tally.answers.count true = tally.answers.length.log2 + 1 := by
  have exact_answer : ∀ earlier ∈ List.range tally.answers.length,
      ((decide (saturatingAdd (earlier % wordSize) 1).isPowerOfTwo == true) = true ↔
        decide (earlier + 1).isPowerOfTwo = true) := by
    intro earlier member
    have inside := List.mem_range.mp member
    have exact_sum : saturatingAdd (earlier % wordSize) 1 = earlier + 1 := by
      rw [Nat.mod_eq_of_lt (by omega)]
      exact Nat.min_eq_left (by omega)
    rw [exact_sum, beq_true]
  calc
    tally.answers.count true
      = (List.range tally.answers.length).countP fun earlier =>
          decide (saturatingAdd (earlier % wordSize) 1).isPowerOfTwo == true := by
        conv_lhs => rw [sound.answers_eq, List.count, List.countP_map]
        rfl
    _ = (List.range tally.answers.length).countP fun earlier => (earlier + 1).isPowerOfTwo :=
        List.countP_congr exact_answer
    _ = tally.answers.length.log2 + 1 := countP_isPowerOfTwo some_answer

end Tally

/-! ## The gauges of a run -/

namespace Runtime

variable {runtime : Runtime} {kind : ConnectionKind}

/-- The gauge of a kind. -/
def gauge (runtime : Runtime) (kind : ConnectionKind) : Gauge where
  begun := begun kind runtime.system.log
  dropped := Observability.dropped kind runtime.system.returned
  handedOut := Observability.handedOut kind runtime.system.returned
  dropping := runtime.dropping kind
  leaving := runtime.system.running.countP (leaves kind)
  active := runtime.system.memory kind.active
  peak := runtime.system.memory kind.peak
  pending := runtime.system.running.filterMap (raised? kind)

/-- The program is no begin between its two steps and no drop, as far as the kind goes. -/
def Calm (kind : ConnectionKind) (program : Program Counter Outcome) : Prop :=
  raised? kind program = none ∧ leaves kind program = false

theorem filterMap_calm {programs : List (Program Counter Outcome)}
    (calm : ∀ program ∈ programs, Calm kind program) :
    programs.filterMap (raised? kind) = [] ∧ programs.countP (leaves kind) = 0 := by
  constructor
  · exact List.filterMap_eq_nil_iff.mpr fun program member => (calm program member).1
  · rw [List.countP_eq_zero]
    intro program member
    rw [(calm program member).2]
    exact Bool.false_ne_true

section Performed

variable {operation : Operation Counter} {next : Nat → Program Counter Outcome}
  {others : List (Program Counter Outcome)} {rest : Program Counter Outcome}

/-- The runtime after an operation. -/
def performed (runtime : Runtime) (operation : Operation Counter) (rest : Program Counter Outcome)
    (others : List (Program Counter Outcome)) : Runtime :=
  { runtime with system := runtime.system.performed operation rest others }

/-- What an operation adds to the gauge, and what its program still holds of it. -/
theorem gauge_performed (runtime : Runtime) (kind : ConnectionKind)
    (operation : Operation Counter) (rest : Program Counter Outcome)
    (others : List (Program Counter Outcome)) :
    (runtime.performed operation rest others).gauge kind =
      { begun := (runtime.gauge kind).begun + begun kind [operation]
        dropped := (runtime.gauge kind).dropped + Observability.dropped kind rest.results
        handedOut := (runtime.gauge kind).handedOut + Observability.handedOut kind rest.results
        dropping := (runtime.gauge kind).dropping
        leaving := rest.unfinished.countP (leaves kind) + others.countP (leaves kind)
        active := perform runtime.system.memory operation kind.active
        peak := perform runtime.system.memory operation kind.peak
        pending := (rest.unfinished.filterMap (raised? kind) ++
          others.filterMap (raised? kind) : List Nat) } := by
  ext1
  case begun => exact List.count_append
  case dropped => exact List.count_append
  case handedOut => exact List.countP_append
  case dropping => rfl
  case leaving => exact List.countP_append
  case active => rfl
  case peak => rfl
  case pending => exact congrArg Multiset.ofList List.filterMap_append

/-- The gauge before the operation, by the program that performs it. -/
theorem gauge_split (kind : ConnectionKind)
    (split : (Program.atomic operation next :: others).Perm runtime.system.running) :
    (runtime.gauge kind).leaving =
        [Program.atomic operation next].countP (leaves kind) + others.countP (leaves kind) ∧
      (runtime.gauge kind).pending =
        ([Program.atomic operation next].filterMap (raised? kind) ++
          others.filterMap (raised? kind) : List Nat) := by
  rw [← List.countP_append, ← List.filterMap_append, List.singleton_append]
  exact ⟨(split.countP_eq _).symm, Multiset.coe_eq_coe.mpr (split.filterMap _).symm⟩

/-- An operation on a word that is not the kind's leaves the gauge as it is. -/
theorem gauge_quiet (split : (Program.atomic operation next :: others).Perm runtime.system.running)
    (not_active : operation.cell.role ≠ .active kind) (not_peak : operation.cell.role ≠ .peak kind)
    (calm : Calm kind rest)
    (silent : ∀ outcome ∈ rest.results, outcome.kind? ≠ some kind ∧ outcome ≠ .dropped kind) :
    (runtime.performed operation rest others).gauge kind = runtime.gauge kind := by
  have active_ne : operation.cell ≠ kind.active :=
    fun same => not_active (by rw [same, role_active])
  have peak_ne : operation.cell ≠ kind.peak :=
    fun same => not_peak (by rw [same, role_peak])
  have quiet : ∀ program ∈ [Program.atomic operation next], Calm kind program := by
    intro program member
    rw [List.mem_singleton.mp member]
    cases operation with
    | fetchAdd cell amount => exact ⟨rfl, rfl⟩
    | fetchSub cell amount => exact ⟨rfl, decide_eq_false active_ne⟩
    | fetchMax cell value => exact ⟨if_neg peak_ne, rfl⟩
  have uncounted {other : Operation Counter} (same : other.cell = kind.active) :
      [operation].count other = 0 := by
    rw [List.count_eq_zero, List.mem_singleton]
    rintro rfl
    exact active_ne same
  obtain ⟨leaving, pending⟩ := gauge_split kind split
  obtain ⟨program_pending, program_leaving⟩ := filterMap_calm quiet
  have after : ∀ program ∈ rest.unfinished, Calm kind program := by
    intro program member
    cases rest with
    | done outcome => cases member
    | atomic following remaining => exact List.mem_singleton.mp member ▸ calm
  obtain ⟨rest_pending, rest_leaving⟩ := filterMap_calm after
  have handed : Observability.handedOut kind rest.results = 0 := by
    rw [Observability.handedOut, List.countP_eq_zero]
    intro outcome member
    exact mt of_decide_eq_true (silent outcome member).1
  have undropped : Observability.dropped kind rest.results = 0 :=
    List.count_eq_zero.mpr fun member => (silent _ member).2 rfl
  rw [gauge_performed]
  ext1
  case begun => exact congrArg (_ + ·) (uncounted rfl)
  case dropped => exact congrArg (_ + ·) undropped
  case handedOut => exact congrArg (_ + ·) handed
  case dropping => rfl
  case leaving => rw [leaving, program_leaving, rest_leaving]
  case active => exact perform_other _ _ active_ne
  case peak => exact perform_other _ _ peak_ne
  case pending => rw [pending, program_pending, rest_pending]

/-- A begin counts its connection, and holds the value that it has left in the word. -/
theorem gauge_enter (outcome : Outcome)
    (split : (Program.atomic (.fetchAdd kind.active 1) next :: others).Perm
      runtime.system.running) :
    Gauge.Step (runtime.gauge kind)
      ((runtime.performed (.fetchAdd kind.active 1)
        (raising kind (saturatingAdd (runtime.system.memory kind.active) 1) outcome)
        others).gauge kind) := by
  obtain ⟨leaving, pending⟩ := gauge_split kind split
  have peak_ne : kind.active ≠ kind.peak := ne_of_role (by simp)
  refine (congrArg (Gauge.Step _) ?_).mp (Gauge.Step.enter (runtime.gauge kind))
  rw [gauge_performed]
  ext1
  case begun => simp [begun]
  case dropped => rfl
  case handedOut => rfl
  case dropping => rfl
  case leaving => rw [leaving]; rfl
  case active => exact (perform_same runtime.system.memory (.fetchAdd kind.active 1)).symm
  case peak => exact (perform_other runtime.system.memory (.fetchAdd kind.active 1) peak_ne).symm
  case pending =>
    have before : (runtime.gauge kind).pending = others.filterMap (raised? kind) := pending
    rw [before]
    simp [Program.unfinished, raising, raised?, gauge]

/-- A begin raises the peak to the value that it holds, and hands its connection out. -/
theorem gauge_raise {value : Nat} {outcome : Outcome} (handed : outcome.kind? = some kind)
    (split : (raising kind value outcome :: others).Perm runtime.system.running) :
    Gauge.Step (runtime.gauge kind)
      ((runtime.performed (.fetchMax kind.peak value) (.done outcome) others).gauge kind) := by
  obtain ⟨leaving, pending⟩ := gauge_split kind split
  have active_ne : kind.peak ≠ kind.active := ne_of_role (by simp)
  have kept : Outcome.dropped kind ∉ (Program.done outcome : Program Counter Outcome).results := by
    intro member
    rw [← List.mem_singleton.mp member] at handed
    cases handed
  refine (congrArg (Gauge.Step _) ?_).mp (Gauge.Step.raise (runtime.gauge kind) value
    (others.filterMap (raised? kind)) ?_)
  · rw [gauge_performed]
    ext1
    case begun => simp [begun]
    case dropped => simp [dropped, List.count_eq_zero.mpr kept]
    case handedOut => simp [Observability.handedOut, Program.results, handed]
    case dropping => rfl
    case leaving => rw [leaving]; rfl
    case active =>
      exact (perform_other runtime.system.memory (.fetchMax kind.peak value) active_ne).symm
    case peak => exact (perform_same runtime.system.memory (.fetchMax kind.peak value)).symm
    case pending => rfl
  · rw [pending]
    simp [raised?]

/-- A drop counts its connection. -/
theorem gauge_leave
    (split : (Program.atomic (.fetchSub kind.active 1) next :: others).Perm
      runtime.system.running) :
    Gauge.Step (runtime.gauge kind)
      ((runtime.performed (.fetchSub kind.active 1) (.done (.dropped kind)) others).gauge
        kind) := by
  obtain ⟨leaving, pending⟩ := gauge_split kind split
  have peak_ne : kind.active ≠ kind.peak := ne_of_role (by simp)
  refine (congrArg (Gauge.Step _) ?_).mp (Gauge.Step.leave (runtime.gauge kind)
    (others.countP (leaves kind)) ?_)
  · rw [gauge_performed]
    ext1
    case begun => simp [begun]
    case dropped => exact (congrArg (_ + ·) List.count_singleton_self).symm
    case handedOut => rfl
    case dropping => rfl
    case leaving => simp [Program.unfinished]
    case active => exact (perform_same runtime.system.memory (.fetchSub kind.active 1)).symm
    case peak => exact (perform_other runtime.system.memory (.fetchSub kind.active 1) peak_ne).symm
    case pending => rw [pending]; rfl
  · rw [leaving]
    simp [leaves, Nat.add_comm]

end Performed

/-- An operation is a step of every gauge. -/
theorem gauge_step {operation : Operation Counter} {next : Nat → Program Counter Outcome}
    {others : List (Program Counter Outcome)} (stage : Stage (.atomic operation next))
    (split : (Program.atomic operation next :: others).Perm runtime.system.running) :
    Gauge.Step (runtime.gauge kind)
      ((runtime.performed operation (next (runtime.system.memory operation.cell)) others).gauge
        kind) := by
  have quiet {rest : Program Counter Outcome} (not_active : operation.cell.role ≠ .active kind)
      (not_peak : operation.cell.role ≠ .peak kind) (calm : Calm kind rest)
      (silent : ∀ outcome ∈ rest.results, outcome.kind? ≠ some kind ∧ outcome ≠ .dropped kind) :
      Gauge.Step (runtime.gauge kind) ((runtime.performed operation rest others).gauge kind) := by
    rw [gauge_quiet split not_active not_peak calm silent]
    exact .idle _
  cases stage with
  | numbering => exact quiet nofun nofun ⟨rfl, rfl⟩ nofun
  | counting other outcome handed =>
      exact quiet (by simp [Operation.cell]) (by simp [Operation.cell]) ⟨rfl, rfl⟩ nofun
  | entering other outcome handed =>
      by_cases same : other = kind
      · subst same
        exact gauge_enter outcome split
      · have distinct : other.peak ≠ kind.peak := ne_of_role (by simpa using same)
        exact quiet (by simpa [Operation.cell] using same) (by simp [Operation.cell])
          ⟨if_neg distinct, rfl⟩ nofun
  | raising other value outcome handed =>
      by_cases same : other = kind
      · subst same
        exact gauge_raise handed split
      · refine quiet (by simp [Operation.cell]) (by simpa [Operation.cell] using same) ⟨rfl, rfl⟩ ?_
        intro handedOut member
        rw [List.mem_singleton.mp member, handed]
        refine ⟨fun equal => same (Option.some.inj equal), ?_⟩
        rintro rfl
        cases handed
  | identifying =>
      exact quiet nofun nofun ⟨rfl, rfl⟩ (by simp [Program.results, Outcome.kind?])
  | rejecting reason =>
      exact quiet (by simp [Operation.cell]) (by simp [Operation.cell]) ⟨rfl, rfl⟩
        (by simp [Program.results, Outcome.kind?])
  | leaving other =>
      by_cases same : other = kind
      · subst same
        exact gauge_leave split
      · exact quiet (by simpa [Operation.cell] using same) (by simp [Operation.cell]) ⟨rfl, rfl⟩
          (by simp [Program.results, Outcome.kind?, same])

/-- A call that neither holds a value for the peak nor drops leaves the gauge as it is. -/
theorem gauge_call (runtime : Runtime) {operation : Operation Counter}
    {next : Nat → Program Counter Outcome} (calm : Calm kind (.atomic operation next)) :
    gauge { runtime with system := runtime.system.call (.atomic operation next) } kind =
      runtime.gauge kind := by
  ext1
  case begun => rfl
  case dropped => exact congrArg (Observability.dropped kind) (List.append_nil _)
  case handedOut => exact congrArg (Observability.handedOut kind) (List.append_nil _)
  case dropping => rfl
  case leaving => exact List.countP_cons_of_neg (by rw [calm.2]; exact Bool.false_ne_true)
  case active => rfl
  case peak => rfl
  case pending => exact congrArg Multiset.ofList (List.filterMap_cons_none calm.1)

/-- A call is a step of every gauge. -/
theorem gauge_called (runtime : Runtime) (kind : ConnectionKind) (call : Call) :
    Gauge.Step (runtime.gauge kind) ((runtime.called call).gauge kind) := by
  have idle {after : Gauge} (same : after = runtime.gauge kind) :
      Gauge.Step (runtime.gauge kind) after := by
    rw [same]
    exact .idle _
  cases call with
  | beginTransportConnection => exact idle (runtime.gauge_call ⟨rfl, rfl⟩)
  | nextWebsocketConnectionId => exact idle (runtime.gauge_call ⟨rfl, rfl⟩)
  | beginWebsocketConnection => exact idle (runtime.gauge_call ⟨rfl, rfl⟩)
  | recordAdmissionRejection reason => exact idle (runtime.gauge_call ⟨rfl, rfl⟩)
  | drop other =>
      rw [called]
      split_ifs with owned
      · by_cases same : other = kind
        · subst same
          have leaving : leaves other (Call.drop other).program = true :=
            decide_eq_true (show other.active = other.active from rfl)
          refine (congrArg (Gauge.Step _) ?_).mp (Gauge.Step.drop (runtime.gauge other) owned)
          ext1
          case begun => rfl
          case dropped => exact congrArg (Observability.dropped other) (List.append_nil _).symm
          case handedOut => exact congrArg (Observability.handedOut other) (List.append_nil _).symm
          case dropping => exact (if_pos rfl).symm
          case leaving => exact (List.countP_cons_of_pos leaving).symm
          case active => rfl
          case peak => rfl
          case pending => rfl
        · have distinct : other.active ≠ kind.active := ne_of_role (by simpa using same)
          have calm : Calm kind (Call.drop other).program := ⟨rfl, decide_eq_false distinct⟩
          refine idle (Eq.trans ?_ (runtime.gauge_call calm))
          ext1
          case dropping => exact if_neg (Ne.symm same)
          all_goals rfl
      · exact .idle _

/-- Every event is a step of every gauge. -/
theorem gauge_handle (staged : runtime.Staged) (kind : ConnectionKind) (event : Event) :
    Gauge.Step (runtime.gauge kind) ((runtime.handle event).gauge kind) := by
  cases event with
  | call call => exact runtime.gauge_called kind call
  | advance position =>
      have advanced := runtime.system.advanced position
      rw [handle]
      generalize runtime.system.advance position = after at advanced
      cases advanced with
      | idle => exact .idle _
      | stepped operation next others split =>
          have stage := staged _ (split.mem_iff.mp List.mem_cons_self)
          exact gauge_step stage split

/-! ### Tallies -/

/-- The tally of a reason. -/
def tally (runtime : Runtime) (reason : AdmissionRejection) : Tally where
  counted := runtime.system.memory reason.counter
  answers := answers reason runtime.system.returned

variable {reason : AdmissionRejection}

/-- An operation leaves the tally as it is, or is the next call about the reason. -/
theorem tally_step {operation : Operation Counter} {next : Nat → Program Counter Outcome}
    (runtime : Runtime) (reason : AdmissionRejection) (others : List (Program Counter Outcome))
    (stage : Stage (.atomic operation next)) :
    let after := runtime.performed operation (next (runtime.system.memory operation.cell)) others
    after.tally reason = runtime.tally reason ∨
      after.tally reason = (runtime.tally reason).count := by
  have quiet {rest : Program Counter Outcome} (elsewhere : operation.cell.role ≠ .rejections reason)
      (silent : answers reason rest.results = []) :
      (runtime.performed operation rest others).tally reason = runtime.tally reason := by
    ext1
    case counted => exact perform_other _ _ (ne_of_role (by rwa [role_counter]))
    case answers =>
      refine List.filterMap_append.trans ?_
      rw [show rest.results.filterMap (Outcome.answer? reason) = [] from silent, List.append_nil]
      rfl
  cases stage with
  | numbering => exact Or.inl (quiet nofun rfl)
  | counting other outcome handed => exact Or.inl (quiet (by simp [Operation.cell]) rfl)
  | entering other outcome handed => exact Or.inl (quiet (by simp [Operation.cell]) rfl)
  | raising other value outcome handed =>
      refine Or.inl (quiet (by simp [Operation.cell]) ?_)
      cases outcome with
      | transport => rfl
      | webSocket => rfl
      | identifier => cases handed
      | rejection => cases handed
      | dropped => cases handed
  | identifying => exact Or.inl (quiet nofun rfl)
  | leaving other => exact Or.inl (quiet (by simp [Operation.cell]) rfl)
  | rejecting other =>
      by_cases same : other = reason
      · subst same
        refine Or.inr ?_
        ext1
        case counted => exact perform_same runtime.system.memory (.fetchAdd other.counter 1)
        case answers =>
          refine List.filterMap_append.trans (congrArg (_ ++ ·) ?_)
          exact List.filterMap_cons_some (if_pos rfl)
      · exact Or.inl (quiet (by simpa [Operation.cell] using same)
          (by simp [answers, Program.results, Outcome.answer?, same]))

/-- A call by itself answers nothing. -/
theorem tally_called (runtime : Runtime) (reason : AdmissionRejection) (call : Call) :
    (runtime.called call).tally reason = runtime.tally reason := by
  have silent {after : Runtime} (memory : after.system.memory = runtime.system.memory)
      (returned : after.system.returned = runtime.system.returned ++ []) :
      after.tally reason = runtime.tally reason := by
    rw [List.append_nil] at returned
    rw [tally, memory, returned]
    rfl
  cases call with
  | beginTransportConnection => exact silent rfl rfl
  | nextWebsocketConnectionId => exact silent rfl rfl
  | beginWebsocketConnection => exact silent rfl rfl
  | recordAdmissionRejection other => exact silent rfl rfl
  | drop kind =>
      rw [called]
      split_ifs with owned
      · exact silent rfl rfl
      · rfl

/-- Every event keeps a tally sound. -/
theorem tally_handle (staged : runtime.Staged) (sound : (runtime.tally reason).Sound)
    (event : Event) : ((runtime.handle event).tally reason).Sound := by
  cases event with
  | call call =>
      rw [handle, tally_called]
      exact sound
  | advance position =>
      have advanced := runtime.system.advanced position
      rw [handle]
      generalize runtime.system.advance position = after at advanced
      cases advanced with
      | idle => exact sound
      | stepped operation next others split =>
          have stage := staged _ (split.mem_iff.mp List.mem_cons_self)
          rcases tally_step runtime reason others stage with same | counted
          · exact same ▸ sound
          · exact counted ▸ sound.count

/-! ### Begins -/

/-- A begin stays a begin until it hands its connection out. -/
theorem begins_next {operation : Operation Counter} {next : Nat → Program Counter Outcome}
    (stage : Stage (.atomic operation next)) (kind : ConnectionKind) (found : Nat) :
    (next found).unfinished.countP (begins kind) +
        Observability.handedOut kind (next found).results =
      [Program.atomic operation next].countP (begins kind) := by
  cases stage with
  | numbering => cases kind <;> rfl
  | counting other outcome handed => cases other <;> cases kind <;> rfl
  | entering other outcome handed => cases other <;> cases kind <;> rfl
  | raising other value outcome handed =>
      simp [Program.unfinished, Program.results, Observability.handedOut, handed, begins]
  | identifying => cases kind <;> rfl
  | rejecting reason => cases reason <;> cases kind <;> rfl
  | leaving other => rfl

/-- A call that begins a connection is a running begin of its kind. -/
theorem begins_program (call : Call) (kind : ConnectionKind) :
    call.program.unfinished.countP (begins kind) +
        Observability.handedOut kind call.program.results =
      if call.begins? = some kind then 1 else 0 := by
  cases call with
  | beginTransportConnection => cases kind <;> rfl
  | nextWebsocketConnectionId => rfl
  | beginWebsocketConnection => cases kind <;> rfl
  | recordAdmissionRejection reason => cases reason <;> cases kind <;> rfl
  | drop other => rfl

/-- The begins that are running or have handed their connection out. -/
def started (runtime : Runtime) (kind : ConnectionKind) : Nat :=
  Observability.handedOut kind runtime.system.returned + runtime.system.running.countP (begins kind)

theorem started_call (runtime : Runtime) (call : Call) (kind : ConnectionKind) :
    (runtime.called call).started kind =
      runtime.started kind + if call.begins? = some kind then 1 else 0 := by
  have calling {after : Runtime} (same : after.system = runtime.system.call call.program) :
      after.started kind = runtime.started kind + if call.begins? = some kind then 1 else 0 := by
    rw [started, same, ← begins_program call kind]
    simp only [System.call, Observability.handedOut, List.countP_append, started]
    omega
  cases call with
  | drop other =>
      by_cases owned :
          runtime.dropping other < Observability.handedOut other runtime.system.returned
      · rw [called, if_pos owned]
        exact calling rfl
      · rw [called, if_neg owned]
        rfl
  | beginTransportConnection => exact calling rfl
  | nextWebsocketConnectionId => exact calling rfl
  | beginWebsocketConnection => exact calling rfl
  | recordAdmissionRejection reason => exact calling rfl

/-- Only a call to begin starts a begin, and none is lost. -/
theorem started_handle (staged : runtime.Staged) (kind : ConnectionKind) (event : Event) :
    (runtime.handle event).started kind =
      runtime.started kind + if event.begins kind = true then 1 else 0 := by
  cases event with
  | call call =>
      rw [handle, started_call]
      simp only [Event.begins, decide_eq_true_eq]
  | advance position =>
      have advanced := runtime.system.advanced position
      rw [handle]
      generalize runtime.system.advance position = after at advanced
      cases advanced with
      | idle => rfl
      | stepped operation next others split =>
          have stage := staged _ (split.mem_iff.mp List.mem_cons_self)
          have kept := begins_next stage kind (runtime.system.memory operation.cell)
          have before := split.countP_eq (begins kind)
          rw [← List.singleton_append, List.countP_append] at before
          simp only [started, System.performed, Observability.handedOut, List.countP_append,
            Event.begins, Bool.false_eq_true, if_false] at kept before ⊢
          omega

/-! ### Every run -/

/-- What a run keeps. -/
structure Sound (events : List Event) : Prop where
  staged : (run events).Staged
  started : ∀ kind, (run events).started kind = events.countP (Event.begins kind)
  gauge : ∀ kind, ∃ highest,
    IsHighest run (fun runtime => runtime.system.memory kind.active) events highest ∧
      ((run events).gauge kind).Sound highest
  tally : ∀ reason, ((run events).tally reason).Sound

theorem sound_run (events : List Event) : Sound events := by
  induction events using List.reverseRecOn with
  | nil =>
      refine ⟨nofun, fun _ => rfl, ?_, ?_⟩
      · intro kind
        refine ⟨_, isHighest_nil _ _, ?_⟩
        cases kind with
        | transport => exact Gauge.sound_zero
        | webSocket => exact Gauge.sound_zero
      · intro reason
        cases reason <;> exact ⟨rfl, rfl⟩
  | append_singleton events event ih =>
      obtain ⟨staged, starts, gauges, tallies⟩ := ih
      have after := run_append events event
      refine ⟨?_, ?_, ?_, ?_⟩
      · rw [after]
        exact staged.handle event
      · intro kind
        rw [after, started_handle staged, starts, List.countP_append, List.countP_singleton]
      · intro kind
        obtain ⟨highest, attained, sound⟩ := gauges kind
        refine ⟨_, attained.append event, ?_⟩
        rw [after]
        exact sound.step (gauge_handle staged kind event)
      · intro reason
        rw [after]
        exact tally_handle staged (tallies reason) event

end Runtime

/-! ## The gauges and the log -/

/-- Connection gauges and sampled rejections are exact under every interleaving.  Every call that
begins a connection has handed it out or is running, and so has every call that drops one returned
or is running.  As long as fewer begins have counted their connection than there are words, the
active counter is their number less the number of drops that have returned, no drop finds it at
zero, and while no begin is between its two steps the peak counter is the largest value that the
active counter has ever had.  Of the calls about one reason, whatever calls about others there are,
those that answer that a line be logged are one more than the logarithm of their number. -/
theorem counters_exact (events : List Event) :
    let runtime := Runtime.run events
    let system := runtime.system
    (∀ kind,
      events.countP (Event.begins kind) =
          handedOut kind system.returned + system.running.countP (begins kind) ∧
      runtime.dropping kind =
          dropped kind system.returned + system.running.countP (leaves kind) ∧
      runtime.dropping kind ≤ handedOut kind system.returned ∧
      begun kind system.log = handedOut kind system.returned + between kind system.running ∧
      (handedOut kind system.returned + between kind system.running < wordSize →
        system.memory kind.active + dropped kind system.returned =
          handedOut kind system.returned + between kind system.running ∧
        (∀ next, .atomic (.fetchSub kind.active 1) next ∈ system.running →
          0 < system.memory kind.active) ∧
        (between kind system.running = 0 →
          IsHighest Runtime.run (fun runtime => runtime.system.memory kind.active) events
            (system.memory kind.peak)))) ∧
    ∀ reason, 0 < (answers reason system.returned).length →
      (answers reason system.returned).length < wordSize →
      (answers reason system.returned).count true =
        (answers reason system.returned).length.log2 + 1 := by
  obtain ⟨staged, starts, gauges, tallies⟩ := Runtime.sound_run events
  refine ⟨?_, fun reason some_answer few => (tallies reason).count_true some_answer few⟩
  intro kind
  obtain ⟨highest, attained, sound⟩ := gauges kind
  have counted : begun kind (Runtime.run events).system.log =
      handedOut kind (Runtime.run events).system.returned +
        between kind (Runtime.run events).system.running := by
    rw [between, ← List.length_filterMap_eq_countP]
    exact sound.begun_eq
  refine ⟨(starts kind).symm, sound.dropped_eq.symm, sound.owned, counted, fun few => ?_⟩
  rw [← counted] at few ⊢
  refine ⟨sound.active_add_dropped few, ?_, ?_⟩
  · intro next running
    refine sound.active_pos few (List.countP_pos_iff.mpr ⟨_, running, ?_⟩)
    exact decide_eq_true rfl
  · intro settled
    have carried : highest ∉ ((Runtime.run events).gauge kind).pending := by
      intro member
      obtain ⟨program, running, raised⟩ := List.mem_filterMap.mp (Multiset.mem_coe.mp member)
      refine List.countP_eq_zero.mp settled program running ?_
      rw [raised]
      rfl
    have same : (Runtime.run events).system.memory kind.peak = highest :=
      (sound.attained few).resolve_right carried
    rw [same]
    exact attained

/-- Two transport connections, the first of which is dropped before the second one has told the peak
of itself, and three rejections for their headers. -/
def twoConnections : List Event :=
  .call .beginTransportConnection :: List.replicate 4 (.advance 0) ++
    .call .beginTransportConnection :: List.replicate 3 (.advance 0) ++
    [.call (.drop .transport), .advance 0, .advance 0] ++
    (List.replicate 3 [.call (.recordAdmissionRejection .headers), .advance 0]).flatten

theorem counters_exact_two :
    handedOut .transport (Runtime.run twoConnections).system.returned = 2 ∧
      dropped .transport (Runtime.run twoConnections).system.returned = 1 ∧
      (Runtime.run twoConnections).system.memory .activeTransportConnections = 1 ∧
      IsHighest Runtime.run (fun runtime => runtime.system.memory .activeTransportConnections)
        twoConnections 2 ∧
      (answers .headers (Runtime.run twoConnections).system.returned).count true = 2 := by
  obtain ⟨gauges, logs⟩ := counters_exact twoConnections
  obtain ⟨_, _, _, _, exact_gauge⟩ := gauges .transport
  obtain ⟨sum, _, highest⟩ := exact_gauge (by decide)
  have handed : handedOut .transport (Runtime.run twoConnections).system.returned = 2 := by decide
  have gone : dropped .transport (Runtime.run twoConnections).system.returned = 1 := by decide
  have settled : between .transport (Runtime.run twoConnections).system.running = 0 := by decide
  rw [handed, gone, settled] at sum
  refine ⟨handed, gone, Nat.succ.inj sum, highest settled, logs .headers ?_ ?_⟩
  · decide
  · decide

end EdgeGateway.Observability
