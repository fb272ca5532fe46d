import EdgeGateway.HttpProxy.Pool
import EdgeGateway.Library.Table

/-!
# Reuse of HTTP/1 connections

Many exchanges share the idle connections of one pool.  Each exchange has one connection at a time
and two bodies, which are polled and dropped in any order.  A connection goes back to the idle ones
when both bodies have ended well, the upload first, and is dropped otherwise.
-/

namespace EdgeGateway.HttpProxy.Http1

open Http

/-! ## Runs -/

/-- Exchanges in the order in which they began. -/
abbrev ExchangeId := Nat

/-- Where an exchange stands. -/
inductive Stage
  /-- The request is on its way, and may have its connection already. -/
  | sending (connection : Option ConnectionId)
  /-- The response is on its way. -/
  | streaming (body : PooledResponseBody)
  /-- The connection has become a tunnel. -/
  | upgraded (connection : ConnectionId)
  | finished

/-- The connection that an exchange holds. -/
def Stage.connection : Stage → Option ConnectionId
  | .sending connection => connection
  | .streaming body => body.http1
  | .upgraded connection => some connection
  | .finished => none

/-- A request with its two bodies. -/
structure Exchange where
  lease : ExchangeLease
  upload : UploadBody
  stage : Stage

/-- A pool with the exchanges under way. -/
structure System where
  pool : PoolState
  exchanges : Table ExchangeId Exchange
  begun : Nat

/-- A pool that no exchange uses yet. -/
def System.new (config : PoolConfig) (now : Nat) : System :=
  { pool := .new config now, exchanges := ∅, begun := 0 }

/-- The system after an exchange has gone on. -/
def System.update (system : System) (pool : PoolState) (id : ExchangeId) (exchange : Exchange) :
    System :=
  { system with pool, exchanges := system.exchanges.insert id exchange }

/-- The connection that has become idle between two states of a pool. -/
def returned (before after : PoolState) : Option ConnectionId :=
  if before.idleHttp1.length < after.idleHttp1.length then
    after.idleHttp1.head?.map Prod.snd
  else
    none

/-- What one step of a run shows. -/
inductive Observation
  | begin (id : ExchangeId) (uploadComplete : Bool)
  | acquire (id : ExchangeId) (connection : ConnectionId)
  | pollUpload (id : ExchangeId) (poll : StreamPoll) (yielded : BodyPoll)
  | pollResponse (id : ExchangeId) (poll : StreamPoll) (yielded : BodyPoll)
      (returned : Option ConnectionId)
  | dropResponse (id : ExchangeId) (ended : Bool) (returned : Option ConnectionId)
  /-- An exchange goes on without one of its bodies. -/
  | advance (id : ExchangeId)
  /-- The pool changes by itself. -/
  | pool

/-- One step of a run. -/
inductive Step (config : PoolConfig) : System → Observation → System → Prop
  | begin {system : System} {now : Nat} {uploadComplete : Bool} {lease : ExchangeLease}
      {pool : PoolState}
      (accepted : system.pool.beginExchange now uploadComplete = .ok (lease, pool))
      (upload : UploadBody) :
      Step config system (.begin system.begun uploadComplete)
        { pool
          exchanges := system.exchanges.insert system.begun ⟨lease, upload, .sending none⟩
          begun := system.begun + 1 }
  /-- The request takes an idle connection. -/
  | take {system : System} {id : ExchangeId} {exchange : Exchange}
      (found : system.exchanges.lookup id = some exchange)
      (waiting : exchange.stage = .sending none) {now : Nat} {connection : ConnectionId}
      {pool : PoolState}
      (taken : system.pool.takeIdleHttp1 config now = (some connection, pool)) :
      Step config system (.acquire id connection)
        (system.update pool id { exchange with stage := .sending (some connection) })
  /-- The request finds no idle connection. -/
  | miss {system : System} {id : ExchangeId} {exchange : Exchange}
      (found : system.exchanges.lookup id = some exchange)
      (waiting : exchange.stage = .sending none) {now : Nat} {pool : PoolState}
      (missed : system.pool.takeIdleHttp1 config now = (none, pool)) :
      Step config system (.advance id) (system.update pool id exchange)
  /-- The request has opened a connection. -/
  | connect {system : System} {id : ExchangeId} {exchange : Exchange}
      (found : system.exchanges.lookup id = some exchange)
      (waiting : exchange.stage = .sending none) :
      Step config system (.acquire id system.pool.connect.1)
        (system.update system.pool.connect.2 id
          { exchange with stage := .sending (some system.pool.connect.1) })
  /-- The request fails before its response, and most failures cancel the exchange. -/
  | abandon {system : System} {id : ExchangeId} {exchange : Exchange}
      (found : system.exchanges.lookup id = some exchange) {connection : Option ConnectionId}
      (sending : exchange.stage = .sending connection) (cancels : Bool) :
      Step config system (.advance id)
        (system.update (connection.elim system.pool system.pool.dropConnection) id
          { exchange with
            lease := if cancels then exchange.lease.cancel else exchange.lease
            stage := .finished })
  /-- The upstream switches protocols. -/
  | upgrade {system : System} {id : ExchangeId} {exchange : Exchange}
      (found : system.exchanges.lookup id = some exchange) {connection : ConnectionId}
      (sending : exchange.stage = .sending (some connection)) :
      Step config system (.advance id)
        (system.update system.pool id { exchange with stage := .upgraded connection })
  /-- The tunnel ends. -/
  | endTunnel {system : System} {id : ExchangeId} {exchange : Exchange}
      (found : system.exchanges.lookup id = some exchange) {connection : ConnectionId}
      (upgraded : exchange.stage = .upgraded connection) :
      Step config system (.advance id)
        (system.update (system.pool.dropConnection connection) id
          { exchange with stage := .finished })
  /-- The head of the response arrives. -/
  | respond {system : System} {id : ExchangeId} {exchange : Exchange}
      (found : system.exchanges.lookup id = some exchange) {connection : ConnectionId}
      (sending : exchange.stage = .sending (some connection))
      (declaredTrailers : Option (List HeaderName)) :
      Step config system (.advance id)
        (system.update system.pool id
          { exchange with stage := .streaming { http1 := some connection, declaredTrailers } })
  | pollUpload {system : System} {id : ExchangeId} {exchange : Exchange}
      (found : system.exchanges.lookup id = some exchange) (poll : StreamPoll) :
      Step config system
        (.pollUpload id poll (exchange.upload.pollFrame system.pool exchange.lease poll).2)
        (system.update system.pool id
          { exchange with lease := (exchange.upload.pollFrame system.pool exchange.lease poll).1 })
  | pollResponse {system : System} {id : ExchangeId} {exchange : Exchange}
      (found : system.exchanges.lookup id = some exchange) {body next : PooledResponseBody}
      (streaming : exchange.stage = .streaming body) {now : Nat} {poll : StreamPoll}
      {pool : PoolState} {lease : ExchangeLease} {yielded : BodyPoll}
      (polled : body.pollFrame config now system.pool exchange.lease poll =
        (pool, lease, next, yielded)) :
      Step config system (.pollResponse id poll yielded (returned system.pool pool))
        (system.update pool id { exchange with lease, stage := .streaming next })
  | dropResponse {system : System} {id : ExchangeId} {exchange : Exchange}
      (found : system.exchanges.lookup id = some exchange) {body : PooledResponseBody}
      (streaming : exchange.stage = .streaming body) {now : Nat} {ended : Bool}
      {pool : PoolState} {lease : ExchangeLease}
      (dropped : body.drop config now system.pool exchange.lease ended = (pool, lease)) :
      Step config system (.dropResponse id ended (returned system.pool pool))
        (system.update pool id { exchange with lease, stage := .finished })
  /-- Nothing of an exchange is left, and its permit is given back. -/
  | release {system : System} {id : ExchangeId} {exchange : Exchange}
      (found : system.exchanges.lookup id = some exchange)
      (finished : exchange.stage = .finished) :
      Step config system (.advance id)
        { system with
          pool := system.pool.releaseActive
          exchanges := system.exchanges.erase id }
  /-- The sender of a connection finds it closed. -/
  | close {system : System} (connection : ConnectionId) :
      Step config system .pool
        { system with pool.closed := connection :: system.pool.closed }
  | reap {system : System} (now : Nat) :
      Step config system .pool { system with pool := system.pool.reapHttp1 config now }
  | shutdown {system : System} :
      Step config system .pool { system with pool.shutdown := true }

/-- The systems that runs reach, with what the runs have shown. -/
inductive Reaches (config : PoolConfig) : List Observation → System → Prop
  | start (now : Nat) : Reaches config [] (.new config now)
  | step {history : List Observation} {system next : System} {observation : Observation}
      (reached : Reaches config history system) (step : Step config system observation next) :
      Reaches config (history ++ [observation]) next

/-! ## What a run has shown -/

namespace Observation

/-- The exchange that goes on. -/
def exchange : Observation → Option ExchangeId
  | .begin id _ | .acquire id _ | .pollUpload id _ _ | .pollResponse id _ _ _
  | .dropResponse id _ _ | .advance id => some id
  | .pool => none

variable (id : ExchangeId) (observation : Observation)

/-- The upload of an exchange is polled. -/
def PollsUpload : Prop := ∃ poll yielded, observation = .pollUpload id poll yielded

/-- The response of an exchange is polled. -/
def PollsResponse : Prop :=
  ∃ poll yielded connection, observation = .pollResponse id poll yielded connection

/-- The upload yields an error: of the stream, a rejected trailer, its cancellation or the
expiry of its timer. -/
def FailsUpload : Prop :=
  ∃ poll yielded, observation = .pollUpload id poll yielded ∧ yielded.Fails

/-- The response yields an error: of the stream, a rejected trailer or the expiry of its timer. -/
def FailsResponse : Prop :=
  ∃ poll yielded connection,
    observation = .pollResponse id poll yielded connection ∧ yielded.Fails

/-- The upload reaches its end, at the latest. -/
def EndsUpload : Prop :=
  observation = .begin id true ∨
    ∃ poll yielded, observation = .pollUpload id poll yielded ∧ yielded.Ends poll

/-- The response reaches its end, or is dropped when it has reached it. -/
def EndsResponse : Prop :=
  (∃ poll yielded connection,
      observation = .pollResponse id poll yielded connection ∧ yielded.Ends poll) ∨
    ∃ connection, observation = .dropResponse id true connection

/-- The response of an exchange is dropped. -/
def DropsResponse : Prop := ∃ ended connection, observation = .dropResponse id ended connection

/-- An exchange puts its connection among the idle ones. -/
def Returns (connection : ConnectionId) : Prop :=
  (∃ poll yielded, observation = .pollResponse id poll yielded (some connection)) ∨
    ∃ ended, observation = .dropResponse id ended (some connection)

end Observation

/-- No body is polled again after it has yielded an error. -/
def Disciplined (history : List Observation) : Prop :=
  history.Pairwise fun earlier later => ∀ id,
    (earlier.FailsUpload id → ¬ later.PollsUpload id) ∧
      (earlier.FailsResponse id → ¬ later.PollsResponse id)

/-- The upload of an exchange has reached its end, without an error before that. -/
def UploadEnded (history : List Observation) (id : ExchangeId) : Prop :=
  ∃ before observation after, history = before ++ observation :: after ∧
    observation.EndsUpload id ∧ ∀ earlier ∈ before, ¬ earlier.FailsUpload id

/-- An exchange holds a connection. -/
def System.Holds (system : System) (id : ExchangeId) (connection : ConnectionId) : Prop :=
  ∃ exchange, system.exchanges.lookup id = some exchange ∧
    exchange.stage.connection = some connection

variable {config : PoolConfig} {system next : System} {history : List Observation}
  {observation : Observation} {id : ExchangeId} {connection : ConnectionId}

namespace Observation

theorem exchange_of_failsUpload (fails : observation.FailsUpload id) :
    observation.exchange = some id := by
  obtain ⟨_, _, rfl, _⟩ := fails
  rfl

theorem exchange_of_failsResponse (fails : observation.FailsResponse id) :
    observation.exchange = some id := by
  obtain ⟨_, _, _, rfl, _⟩ := fails
  rfl

theorem exchange_of_dropsResponse (drops : observation.DropsResponse id) :
    observation.exchange = some id := by
  obtain ⟨_, _, rfl⟩ := drops
  rfl

theorem exchange_of_returns (returns : observation.Returns id connection) :
    observation.exchange = some id := by
  rcases returns with ⟨_, _, rfl⟩ | ⟨_, rfl⟩
  · rfl
  · rfl

end Observation

theorem UploadEnded.append (ended : UploadEnded history id) (later : List Observation) :
    UploadEnded (history ++ later) id := by
  obtain ⟨before, observation, after, rfl, ends, sound⟩ := ended
  exact ⟨before, observation, after ++ later, by simp, ends, sound⟩

theorem Disciplined.init (disciplined : Disciplined (history ++ [observation])) :
    Disciplined history :=
  (List.pairwise_append.mp disciplined).1

theorem Disciplined.last (disciplined : Disciplined (history ++ [observation])) :
    ∀ earlier ∈ history, ∀ id, (earlier.FailsUpload id → ¬ observation.PollsUpload id) ∧
      (earlier.FailsResponse id → ¬ observation.PollsResponse id) := by
  intro earlier member
  exact (List.pairwise_append.mp disciplined).2.2 earlier member observation
    (List.mem_singleton_self _)

/-! ## What a step changes -/

theorem System.lookup_update (pool : PoolState) (exchange : Exchange) :
    (system.update pool id exchange).exchanges.lookup id = some exchange :=
  AList.lookup_insert _

theorem System.lookup_update_ne {other : ExchangeId} (distinct : other ≠ id) (pool : PoolState)
    (exchange : Exchange) :
    (system.update pool id exchange).exchanges.lookup other = system.exchanges.lookup other :=
  AList.lookup_insert_ne distinct

/-- A step leaves the other exchanges alone. -/
theorem Step.lookup_other (step : Step config system observation next)
    (other : observation.exchange ≠ some id) :
    next.exchanges.lookup id = system.exchanges.lookup id := by
  have distinct {touched : ExchangeId} (same : observation.exchange = some touched) :
      id ≠ touched := by
    rintro rfl
    exact other same
  cases step with
  | begin => exact AList.lookup_insert_ne (distinct rfl)
  | release => exact AList.lookup_erase_ne (distinct rfl)
  | close | reap | shutdown => rfl
  | _ => exact System.lookup_update_ne (distinct rfl) _ _

theorem Step.evolves (step : Step config system observation next) :
    PoolState.Evolves config system.pool next.pool := by
  have same : PoolState.Evolves config system.pool system.pool :=
    PoolState.evolves_of_same config rfl rfl
  cases step with
  | begin accepted upload => exact (system.pool.beginExchange_evolves config _ accepted).1
  | @take _ _ found waiting now connection pool taken =>
      have evolves := system.pool.takeIdleHttp1_evolves config now
      rwa [taken] at evolves
  | @miss _ _ found waiting now pool missed =>
      have evolves := system.pool.takeIdleHttp1_evolves config now
      rwa [missed] at evolves
  | connect => exact PoolState.evolves_of_same config rfl rfl
  | @abandon id exchange found connection sending cancels =>
      cases connection with
      | none => exact same
      | some connection => exact PoolState.Disposes.evolves config (.dropped rfl rfl)
  | upgrade | respond | pollUpload => exact same
  | endTunnel => exact PoolState.Disposes.evolves config (.dropped rfl rfl)
  | @pollResponse id exchange found body next streaming now poll pool lease yielded polled =>
      have progress := body.pollFrame_progress config now system.pool exchange.lease poll
      rw [polled] at progress
      exact progress.evolves
  | @dropResponse id exchange found body streaming now ended pool lease dropped =>
      have progress := body.finishHttp1_progress config now system.pool exchange.lease ended
      cases dropped
      exact progress.evolves
  | release | close | shutdown => exact PoolState.evolves_of_same config rfl rfl
  | reap now => exact system.pool.reapHttp1_evolves config now

theorem returned_of_same {before after : PoolState} (idle : after.idleHttp1 = before.idleHttp1) :
    returned before after = none := by
  rw [returned, idle, if_neg (lt_irrefl _)]

/-- A connection becomes idle when a body gives it up and both bodies have ended well. -/
theorem returned_of_progress {before after : PoolState} {lease : ExchangeLease} {clean : Prop}
    {body later : PooledResponseBody}
    (progress : PooledResponseBody.Progress config before after lease clean body later)
    (kept : returned before after = some connection) :
    body.http1 = some connection ∧ body.healthy = true ∧ lease.uploadComplete = true ∧ clean := by
  cases progress with
  | stays http1 idle cancelled =>
      rw [returned_of_same idle] at kept
      cases kept
  | leaves held left disposes kept_clean =>
      cases disposes with
      | dropped idle cancelled =>
          rw [returned_of_same idle] at kept
          cases kept
      | kept room idle cancelled =>
          rw [returned, idle, if_pos (by simp)] at kept
          cases kept
          refine ⟨held, kept_clean ?_⟩
          rw [idle]
          exact List.cons_ne_self _ _

/-- A body that gives up its connection puts it among the idle ones or drops it. -/
theorem disposed_of_progress {before after : PoolState} {lease : ExchangeLease} {clean : Prop}
    {body later : PooledResponseBody}
    (progress : PooledResponseBody.Progress config before after lease clean body later)
    (held : body.http1 = some connection) :
    later.http1 = some connection ∨ returned before after = some connection ∨
      connection ∈ after.cancelled := by
  cases progress with
  | stays http1 idle cancelled => exact .inl (http1.trans held)
  | leaves again left disposes kept_clean =>
      cases held.symm.trans again
      cases disposes with
      | kept room idle cancelled =>
          rw [returned, idle, if_pos (by simp)]
          exact .inr (.inl rfl)
      | dropped idle cancelled =>
          rw [cancelled]
          exact .inr (.inr List.mem_cons_self)

/-! ## What an exchange remembers -/

/-- The response has yielded no error so far. -/
def Stage.Sound : Stage → Prop
  | .sending _ => True
  | .streaming body => body.healthy = true
  | .upgraded _ | .finished => False

/-- The exchange may still put a connection among the idle ones. -/
def Stage.Open : Stage → Prop
  | .sending _ => True
  | .streaming body => body.http1 ≠ none
  | .upgraded _ | .finished => False

/-- What the state of an exchange says about the run so far. -/
structure Tracks (history : List Observation) (id : ExchangeId) (exchange : Exchange) : Prop where
  upload : exchange.lease.uploadComplete = true → UploadEnded history id
  clean : exchange.stage.Sound → ∀ earlier ∈ history, ¬ earlier.FailsResponse id
  unreturned : exchange.stage.Open →
    ∀ earlier ∈ history, ∀ connection, ¬ earlier.Returns id connection
  undropped : exchange.stage ≠ .finished → ∀ earlier ∈ history, ¬ earlier.DropsResponse id
  acquired : ∀ connection, exchange.stage.connection = some connection →
    .acquire id connection ∈ history

/-- An exchange goes on knowing what it knew, apart from what the last step shows. -/
theorem Tracks.extend {exchange later : Exchange} (tracks : Tracks history id exchange)
    (upload : later.lease.uploadComplete = true →
      exchange.lease.uploadComplete = true ∨ UploadEnded (history ++ [observation]) id)
    (clean : later.stage.Sound → exchange.stage.Sound ∧ ¬ observation.FailsResponse id)
    (unreturned : later.stage.Open →
      exchange.stage.Open ∧ ∀ connection, ¬ observation.Returns id connection)
    (undropped : later.stage ≠ .finished →
      exchange.stage ≠ .finished ∧ ¬ observation.DropsResponse id)
    (acquired : ∀ connection, later.stage.connection = some connection →
      exchange.stage.connection = some connection ∨ observation = .acquire id connection) :
    Tracks (history ++ [observation]) id later := by
  constructor
  · intro complete
    rcases upload complete with before | ended
    · exact (tracks.upload before).append _
    · exact ended
  · intro sound
    rw [List.forall_mem_append, List.forall_mem_singleton]
    exact ⟨tracks.clean (clean sound).1, (clean sound).2⟩
  · intro holds
    rw [List.forall_mem_append, List.forall_mem_singleton]
    exact ⟨tracks.unreturned (unreturned holds).1, (unreturned holds).2⟩
  · intro unfinished
    rw [List.forall_mem_append, List.forall_mem_singleton]
    exact ⟨tracks.undropped (undropped unfinished).1, (undropped unfinished).2⟩
  · intro connection held
    rcases acquired connection held with before | same
    · exact List.mem_append_left _ (tracks.acquired connection before)
    · rw [same]
      exact List.mem_append_right _ (List.mem_singleton_self _)

/-- Steps of other exchanges say nothing about an exchange. -/
theorem Tracks.other {exchange : Exchange} (tracks : Tracks history id exchange)
    (other : observation.exchange ≠ some id) : Tracks (history ++ [observation]) id exchange :=
  tracks.extend .inl
    (fun sound => ⟨sound, fun fails => other (Observation.exchange_of_failsResponse fails)⟩)
    (fun holds => ⟨holds, fun _ returns => other (Observation.exchange_of_returns returns)⟩)
    (fun unfinished =>
      ⟨unfinished, fun drops => other (Observation.exchange_of_dropsResponse drops)⟩)
    fun _ => .inl

/-- A step that shows nothing of the bodies. -/
def Observation.Quiet : Observation → Prop
  | .acquire _ _ | .advance _ => True
  | _ => False

theorem Tracks.quiet {exchange later : Exchange} (tracks : Tracks history id exchange)
    (quiet : observation.Quiet)
    (upload : later.lease.uploadComplete = exchange.lease.uploadComplete)
    (sound : later.stage.Sound → exchange.stage.Sound)
    (holds : later.stage.Open → exchange.stage.Open)
    (unfinished : later.stage ≠ .finished → exchange.stage ≠ .finished)
    (acquired : ∀ connection, later.stage.connection = some connection →
      exchange.stage.connection = some connection ∨ observation = .acquire id connection) :
    Tracks (history ++ [observation]) id later := by
  refine tracks.extend (fun complete => .inl (upload.symm.trans complete))
    (fun later => ⟨sound later, ?_⟩) (fun later => ⟨holds later, ?_⟩)
    (fun later => ⟨unfinished later, ?_⟩) acquired
  · rintro ⟨_, _, _, rfl, _⟩
    exact quiet
  · rintro connection (⟨_, _, rfl⟩ | ⟨_, rfl⟩)
    · exact quiet
    · exact quiet
  · rintro ⟨_, _, rfl⟩
    exact quiet

/-- An exchange that begins knows nothing yet. -/
theorem tracks_begin (fresh : ∀ earlier ∈ history, earlier.exchange ≠ some id)
    (lease : ExchangeLease) (upload : UploadBody) :
    Tracks (history ++ [.begin id lease.uploadComplete]) id ⟨lease, upload, .sending none⟩ := by
  have nothing {shows : Observation → Prop}
      (about : ∀ observation, shows observation → observation.exchange = some id)
      (begin_silent : ¬ shows (.begin id lease.uploadComplete)) :
      ∀ earlier ∈ history ++ [.begin id lease.uploadComplete], ¬ shows earlier := by
    rw [List.forall_mem_append, List.forall_mem_singleton]
    exact ⟨fun earlier member shown => fresh earlier member (about earlier shown), begin_silent⟩
  constructor
  · intro complete
    refine ⟨history, _, [], rfl, .inl (by rw [show lease.uploadComplete = true from complete]), ?_⟩
    exact fun earlier member fails =>
      fresh earlier member (Observation.exchange_of_failsUpload fails)
  · intro _
    exact nothing (fun _ => Observation.exchange_of_failsResponse) fun ⟨_, _, _, same, _⟩ => by
      cases same
  · intro _ earlier member connection
    refine @nothing (fun observation => observation.Returns id connection)
      (fun _ => Observation.exchange_of_returns) ?_ earlier member
    rintro (⟨_, _, same⟩ | ⟨_, same⟩)
    · cases same
    · cases same
  · intro _
    exact nothing (fun _ => Observation.exchange_of_dropsResponse) fun ⟨_, _, same⟩ => by cases same
  · intro connection held
    cases held

/-- Polling an upload completes it at its end, and before any error. -/
theorem Tracks.pollUpload {exchange : Exchange} (tracks : Tracks history id exchange)
    (pool : PoolState) (poll : StreamPoll)
    (sound : ∀ earlier ∈ history, ¬ earlier.FailsUpload id) :
    Tracks (history ++ [.pollUpload id poll (exchange.upload.pollFrame pool exchange.lease poll).2])
      id { exchange with lease := (exchange.upload.pollFrame pool exchange.lease poll).1 } := by
  refine tracks.extend ?_ (fun later => ⟨later, ?_⟩) (fun later => ⟨later, ?_⟩)
    (fun later => ⟨later, ?_⟩) fun _ => .inl
  · intro complete
    cases before : exchange.lease.uploadComplete with
    | true => exact .inl rfl
    | false =>
        have ends := UploadBody.pollFrame_complete before complete
        exact .inr ⟨history, _, [], rfl, .inr ⟨_, _, rfl, ends⟩, sound⟩
  · rintro ⟨_, _, _, same, _⟩
    cases same
  · rintro connection (⟨_, _, same⟩ | ⟨_, same⟩)
    · cases same
    · cases same
  · rintro ⟨_, _, same⟩
    cases same

/-- Polling a response keeps it sound unless it yields an error, and open unless it gives up its
connection. -/
theorem Tracks.pollResponse {exchange : Exchange} (tracks : Tracks history id exchange)
    {body : PooledResponseBody} (streaming : exchange.stage = .streaming body) {now : Nat}
    {before after : PoolState} {poll : StreamPoll} {lease : ExchangeLease}
    {later : PooledResponseBody} {yielded : BodyPoll}
    (polled :
      body.pollFrame config now before exchange.lease poll = (after, lease, later, yielded)) :
    Tracks (history ++ [.pollResponse id poll yielded (returned before after)]) id
      { exchange with lease, stage := .streaming later } := by
  have progress := body.pollFrame_progress config now before exchange.lease poll
  have complete := body.pollFrame_uploadComplete config now before exchange.lease poll
  have sound := @PooledResponseBody.healthy_of_pollFrame config now before exchange.lease body poll
  rw [polled] at progress complete sound
  refine tracks.extend ?_ ?_ ?_ ?_ ?_
  · intro after_complete
    exact .inl (complete.symm.trans after_complete)
  · intro healthy
    rw [streaming]
    refine ⟨(sound healthy).1, ?_⟩
    rintro ⟨_, _, _, same, fails⟩
    cases same
    exact (sound healthy).2 fails
  · intro held
    rw [streaming]
    cases progress with
    | leaves held_before left disposes kept_clean => exact absurd left held
    | stays http1 idle cancelled =>
        refine ⟨fun absent => held (http1.trans absent), ?_⟩
        rw [returned_of_same idle]
        rintro connection (⟨_, _, same⟩ | ⟨_, same⟩)
        · cases same
        · cases same
  · intro _
    rw [streaming]
    refine ⟨Stage.noConfusion, ?_⟩
    rintro ⟨_, _, same⟩
    cases same
  · intro connection held
    rw [streaming]
    cases progress with
    | stays http1 idle cancelled => exact .inl (http1.symm.trans held)
    | leaves held_before left disposes kept_clean => cases left.symm.trans held

/-- An exchange without a response body returns nothing more. -/
theorem Tracks.dropResponse {exchange : Exchange} (tracks : Tracks history id exchange)
    {lease : ExchangeLease} (complete : lease.uploadComplete = exchange.lease.uploadComplete)
    (ended : Bool) (returned : Option ConnectionId) :
    Tracks (history ++ [.dropResponse id ended returned]) id
      { exchange with lease, stage := .finished } :=
  tracks.extend (fun later => .inl (complete.symm.trans later)) False.elim False.elim
    (fun unfinished => absurd rfl unfinished) fun _ held => by cases held

/-- What the states of all exchanges say about a run, after one more step. -/
theorem Step.tracks (step : Step config system observation next)
    (disciplined : Disciplined (history ++ [observation]))
    (fresh : ∀ earlier ∈ history, ∀ id, earlier.exchange = some id → id < system.begun)
    (tracks : ∀ id exchange, system.exchanges.lookup id = some exchange →
      Tracks history id exchange) :
    ∀ id exchange, next.exchanges.lookup id = some exchange →
      Tracks (history ++ [observation]) id exchange := by
  intro id later found_later
  by_cases touched : observation.exchange = some id
  · cases step with
    | @begin now uploadComplete lease pool accepted upload =>
        cases touched
        cases (AList.lookup_insert _).symm.trans found_later
        have same := (system.pool.beginExchange_evolves config _ accepted).2
        subst same
        refine tracks_begin (fun earlier member about => ?_) lease upload
        exact lt_irrefl _ (fresh earlier member _ about)
    | take found waiting | connect found waiting =>
        cases touched
        cases (System.lookup_update _ _).symm.trans found_later
        refine (tracks id _ found).quiet trivial rfl ?_ ?_ ?_ ?_ <;> rw [waiting]
        · exact fun _ => trivial
        · exact fun _ => trivial
        · exact fun _ => Stage.noConfusion
        · intro connection held
          cases held
          exact .inr rfl
    | miss found waiting missed =>
        cases touched
        cases (System.lookup_update _ _).symm.trans found_later
        exact (tracks id _ found).quiet trivial rfl (fun sound => sound) (fun holds => holds)
          (fun unfinished => unfinished) fun _ => .inl
    | @abandon _ exchange found connection sending cancels =>
        cases touched
        cases (System.lookup_update _ _).symm.trans found_later
        refine (tracks id _ found).quiet trivial ?_ False.elim False.elim
          (fun same => absurd rfl same) fun _ held => by cases held
        cases cancels with
        | true => rfl
        | false => rfl
    | upgrade found sending =>
        cases touched
        cases (System.lookup_update _ _).symm.trans found_later
        refine (tracks id _ found).quiet trivial rfl False.elim False.elim ?_ ?_ <;> rw [sending]
        · exact fun _ => Stage.noConfusion
        · exact fun _ => .inl
    | endTunnel found upgraded =>
        cases touched
        cases (System.lookup_update _ _).symm.trans found_later
        exact (tracks id _ found).quiet trivial rfl False.elim False.elim
          (fun same => absurd rfl same) fun _ held => by cases held
    | respond found sending declared =>
        cases touched
        cases (System.lookup_update _ _).symm.trans found_later
        refine (tracks id _ found).quiet trivial rfl ?_ ?_ ?_ ?_ <;> rw [sending]
        · exact fun _ => trivial
        · exact fun _ => trivial
        · exact fun _ => Stage.noConfusion
        · exact fun _ => .inl
    | pollUpload found poll =>
        cases touched
        cases (System.lookup_update _ _).symm.trans found_later
        refine (tracks id _ found).pollUpload system.pool poll fun earlier member fails => ?_
        exact (disciplined.last earlier member id).1 fails ⟨_, _, rfl⟩
    | pollResponse found streaming polled =>
        cases touched
        cases (System.lookup_update _ _).symm.trans found_later
        exact (tracks id _ found).pollResponse streaming polled
    | @dropResponse _ exchange found body streaming now ended pool lease dropped =>
        cases touched
        cases (System.lookup_update _ _).symm.trans found_later
        cases dropped
        have complete : exchange.lease.cancel.uploadComplete = exchange.lease.uploadComplete := rfl
        exact (tracks id _ found).dropResponse complete _ _
    | release found finished =>
        cases touched
        rw [AList.lookup_erase] at found_later
        cases found_later
    | close | reap | shutdown => cases touched
  · rw [step.lookup_other touched] at found_later
    exact (tracks id later found_later).other touched

/-- Only a sound exchange whose upload is complete returns its connection, at the end of its
response. -/
theorem Step.returns (step : Step config system observation next)
    (returns : observation.Returns id connection) :
    ∃ exchange, system.exchanges.lookup id = some exchange ∧ exchange.stage.Sound ∧
      exchange.stage.Open ∧ exchange.stage.connection = some connection ∧
      exchange.lease.uploadComplete = true ∧ observation.EndsResponse id := by
  rcases returns with ⟨poll, yielded, same⟩ | ⟨ended, same⟩
  · cases step with
    | @pollResponse _ exchange found body later streaming now asked pool lease given polled =>
        injection same with same_id same_poll same_yielded kept
        subst same_id same_poll same_yielded
        have progress := body.pollFrame_progress config now system.pool exchange.lease asked
        rw [polled] at progress
        obtain ⟨held, healthy, complete, ends⟩ := returned_of_progress progress kept
        refine ⟨exchange, found, ?_, ?_, ?_, complete, .inl ⟨_, _, _, rfl, ends⟩⟩ <;> rw [streaming]
        · exact healthy
        · exact fun absent => by cases absent.symm.trans held
        · exact held
    | _ => cases same
  · cases step with
    | @dropResponse _ exchange found body streaming now at_drop pool lease dropped =>
        injection same with same_id same_ended kept
        subst same_id same_ended
        have progress := body.finishHttp1_progress config now system.pool exchange.lease at_drop
        cases dropped
        obtain ⟨held, healthy, complete, at_end⟩ := returned_of_progress progress kept
        subst at_end
        refine ⟨exchange, found, ?_, ?_, ?_, complete, .inr ⟨_, rfl⟩⟩ <;> rw [streaming]
        · exact healthy
        · exact fun absent => by cases absent.symm.trans held
        · exact held
    | _ => cases same

/-- An exchange keeps its connection, or puts it among the idle ones, or drops it. -/
theorem Step.keeps (step : Step config system observation next)
    (known : ∀ id, id ∈ system.exchanges → id < system.begun)
    (holds : system.Holds id connection) :
    next.Holds id connection ∨ observation.Returns id connection ∨
      connection ∈ next.pool.cancelled := by
  obtain ⟨exchange, found, held⟩ := holds
  by_cases touched : observation.exchange = some id
  · cases step with
    | begin accepted upload =>
        cases touched
        exact absurd (known _ (Table.mem_iff_lookup.mpr ⟨_, found⟩)) (lt_irrefl _)
    | take again waiting | connect again waiting =>
        cases touched
        cases found.symm.trans again
        rw [waiting] at held
        cases held
    | miss again waiting missed =>
        cases touched
        cases found.symm.trans again
        exact .inl ⟨_, System.lookup_update _ _, held⟩
    | abandon again sending cancels =>
        cases touched
        cases found.symm.trans again
        rw [sending] at held
        cases held
        exact .inr (.inr List.mem_cons_self)
    | upgrade again sending | respond again sending =>
        cases touched
        cases found.symm.trans again
        rw [sending] at held
        exact .inl ⟨_, System.lookup_update _ _, held⟩
    | endTunnel again upgraded =>
        cases touched
        cases found.symm.trans again
        rw [upgraded] at held
        cases held
        exact .inr (.inr List.mem_cons_self)
    | pollUpload again poll =>
        cases touched
        cases found.symm.trans again
        exact .inl ⟨_, System.lookup_update _ _, held⟩
    | @pollResponse _ _ again body later streaming now poll pool lease yielded polled =>
        cases touched
        cases found.symm.trans again
        rw [streaming] at held
        have progress := body.pollFrame_progress config now system.pool exchange.lease poll
        rw [polled] at progress
        rcases disposed_of_progress progress held with stays | kept | dropped
        · exact .inl ⟨_, System.lookup_update _ _, stays⟩
        · rw [kept]
          exact .inr (.inl (.inl ⟨_, _, rfl⟩))
        · exact .inr (.inr dropped)
    | @dropResponse _ _ again body streaming now ended pool lease dropped =>
        cases touched
        cases found.symm.trans again
        rw [streaming] at held
        have progress := body.finishHttp1_progress config now system.pool exchange.lease ended
        cases dropped
        rcases disposed_of_progress progress held with stays | kept | dropped
        · cases stays
        · rw [kept]
          exact .inr (.inl (.inr ⟨_, rfl⟩))
        · exact .inr (.inr dropped)
    | release again finished =>
        cases touched
        cases found.symm.trans again
        rw [finished] at held
        cases held
    | close | reap | shutdown => cases touched
  · exact .inl ⟨exchange, (step.lookup_other touched).trans found, held⟩

/-- A connection that an exchange acquires is its own. -/
theorem Step.acquires (step : Step config system (.acquire id connection) next) :
    next.Holds id connection := by
  cases step with
  | take found waiting taken => exact ⟨_, System.lookup_update _ _, rfl⟩
  | connect found waiting => exact ⟨_, System.lookup_update _ _, rfl⟩

/-- Every exchange that a run mentions has begun. -/
theorem Step.known (step : Step config system observation next)
    (known : ∀ id, id ∈ system.exchanges → id < system.begun) :
    system.begun ≤ next.begun ∧ (∀ id, observation.exchange = some id → id < next.begun) ∧
      ∀ id, id ∈ next.exchanges → id < next.begun := by
  have updated {touched : ExchangeId} {exchange : Exchange}
      (found : system.exchanges.lookup touched = some exchange) (pool : PoolState)
      (later : Exchange) : system.begun ≤ system.begun ∧
        (∀ id, some touched = some id → id < system.begun) ∧
        ∀ id, id ∈ (system.update pool touched later).exchanges → id < system.begun := by
    have touched_known := known touched (Table.mem_iff_lookup.mpr ⟨_, found⟩)
    refine ⟨le_rfl, ?_, ?_⟩
    · intro id same
      cases same
      exact touched_known
    · intro id member
      rcases AList.mem_insert _ |>.mp member with rfl | before
      · exact touched_known
      · exact known id before
  cases step with
  | begin accepted upload =>
      refine ⟨Nat.le_succ _, ?_, ?_⟩
      · intro id same
        cases same
        exact Nat.lt_succ_self _
      · intro id member
        rcases AList.mem_insert _ |>.mp member with rfl | before
        · exact Nat.lt_succ_self _
        · exact Nat.lt_succ_of_lt (known id before)
  | @release id exchange found finished =>
      refine ⟨le_rfl, (updated found system.pool exchange).2.1, ?_⟩
      intro id member
      exact known id (AList.mem_erase.mp member).2
  | close | reap | shutdown =>
      refine ⟨le_rfl, ?_, known⟩
      intro id same
      cases same
  | take found | miss found | connect found | abandon found | upgrade found | endTunnel found
  | respond found | pollUpload found | pollResponse found | dropResponse found =>
      exact updated found _ _

/-! ## Clean reuse -/

theorem Reaches.idle_length_le (reached : Reaches config history system) :
    system.pool.idleHttp1.length ≤ config.maxIdleConnections := by
  induction reached with
  | start now => exact Nat.zero_le _
  | step reached step few => exact step.evolves.idle few

theorem Reaches.known (reached : Reaches config history system) :
    (∀ earlier ∈ history, ∀ id, earlier.exchange = some id → id < system.begun) ∧
      ∀ id, id ∈ system.exchanges → id < system.begun := by
  induction reached with
  | start now =>
      exact ⟨fun _ member => absurd member List.not_mem_nil,
        fun id member => absurd member (AList.notMem_empty id)⟩
  | step reached step ih =>
      obtain ⟨grows, last, known⟩ := step.known ih.2
      refine ⟨?_, known⟩
      rw [List.forall_mem_append, List.forall_mem_singleton]
      exact ⟨fun earlier member id about => (ih.1 earlier member id about).trans_le grows, last⟩

theorem Reaches.tracks (reached : Reaches config history system)
    (disciplined : Disciplined history) :
    ∀ id exchange, system.exchanges.lookup id = some exchange → Tracks history id exchange := by
  induction reached with
  | start now =>
      intro id exchange found
      cases found
  | step reached step ih => exact step.tracks disciplined reached.known.1 (ih disciplined.init)

/-- An exchange returns its own connection, for the first time, at the end of its response, when
its upload has ended before and neither of them has failed. -/
structure ReturnsCleanly (before : List Observation) (observation : Observation) (id : ExchangeId)
    (connection : ConnectionId) : Prop where
  own : .acquire id connection ∈ before
  first : ∀ earlier ∈ before, ∀ connection, ¬ earlier.Returns id connection
  responseEnds : observation.EndsResponse id
  responseSound : ∀ earlier ∈ before ++ [observation], ¬ earlier.FailsResponse id
  uploadEnded : UploadEnded before id

theorem Observation.EndsResponse.not_fails (ends : observation.EndsResponse id) :
    ¬ observation.FailsResponse id := by
  rintro ⟨poll, yielded, kept, rfl, fails⟩
  rcases ends with ⟨_, _, _, same, at_end⟩ | ⟨_, same⟩
  · cases same
    exact at_end.not_fails fails
  · cases same

/-- What a step returns, it returns cleanly. -/
theorem Step.returnsCleanly (step : Step config system observation next)
    (reached : Reaches config history system) (disciplined : Disciplined history)
    (returns : observation.Returns id connection) :
    ReturnsCleanly history observation id connection := by
  obtain ⟨exchange, found, sound, holds, held, complete, ends⟩ := step.returns returns
  have tracks := reached.tracks disciplined id exchange found
  refine ⟨tracks.acquired connection held, tracks.unreturned holds, ends, ?_,
    tracks.upload complete⟩
  rw [List.forall_mem_append, List.forall_mem_singleton]
  exact ⟨tracks.clean sound, ends.not_fails⟩

theorem Reaches.returnsCleanly (reached : Reaches config history system)
    (disciplined : Disciplined history) {before after : List Observation}
    (split : history = before ++ observation :: after)
    (returns : observation.Returns id connection) :
    ReturnsCleanly before observation id connection := by
  induction reached generalizing after with
  | start now => simp at split
  | @step history system next last reached step ih =>
      rcases List.eq_nil_or_concat after with rfl | ⟨front, final, rfl⟩
      · obtain ⟨rfl, same⟩ := List.append_inj' split rfl
        cases same
        exact step.returnsCleanly reached disciplined.init returns
      · rw [List.concat_eq_append, ← List.cons_append, ← List.append_assoc] at split
        obtain ⟨same, _⟩ := List.append_inj' split rfl
        exact ih disciplined.init same

/-- A connection is held by the exchange that acquired it, or has been returned by it, or is
dropped. -/
theorem Reaches.disposed (reached : Reaches config history system)
    (acquired : .acquire id connection ∈ history) :
    system.Holds id connection ∨ (∃ earlier ∈ history, earlier.Returns id connection) ∨
      connection ∈ system.pool.cancelled := by
  induction reached with
  | start now => cases acquired
  | @step history system next last reached step ih =>
      rcases List.mem_append.mp acquired with before | now
      · rcases ih before with holds | ⟨earlier, member, returns⟩ | dropped
        · rcases step.keeps reached.known.2 holds with still | returns | dropped
          · exact .inl still
          · exact .inr (.inl ⟨last, by simp, returns⟩)
          · exact .inr (.inr dropped)
        · exact .inr (.inl ⟨earlier, List.mem_append_left _ member, returns⟩)
        · exact .inr (.inr (step.evolves.cancelled dropped))
      · rw [List.mem_singleton] at now
        subst now
        exact .inl step.acquires

/-- An exchange whose response has been dropped holds no connection. -/
theorem Reaches.not_holds_of_dropped (reached : Reaches config history system)
    (disciplined : Disciplined history) (dropped : ∃ earlier ∈ history, earlier.DropsResponse id) :
    ¬ system.Holds id connection := by
  rintro ⟨exchange, found, held⟩
  obtain ⟨earlier, member, drops⟩ := dropped
  refine (reached.tracks disciplined id exchange found).undropped ?_ earlier member drops
  intro finished
  rw [finished] at held
  cases held

/-- Connections are reused only when they are clean, and never too many of them are kept: an
exchange returns its connection at most once, when its response and, before that, its upload have
ended without an error, and otherwise the connection is dropped with its exchange. -/
theorem http1_reused_only_when_clean (reached : Reaches config history system) :
    system.pool.idleHttp1.length ≤ config.maxIdleConnections ∧
      (Disciplined history →
        (∀ id connection before observation after, history = before ++ observation :: after →
          observation.Returns id connection → ReturnsCleanly before observation id connection) ∧
        (∀ id connection, .acquire id connection ∈ history →
          system.Holds id connection ∨ (∃ earlier ∈ history, earlier.Returns id connection) ∨
            connection ∈ system.pool.cancelled) ∧
        ∀ id connection, (∃ earlier ∈ history, earlier.DropsResponse id) →
          ¬ system.Holds id connection) := by
  refine ⟨reached.idle_length_le, fun disciplined => ⟨?_, ?_, ?_⟩⟩
  · intro id connection before observation after split returns
    exact reached.returnsCleanly disciplined split returns
  · intro id connection acquired
    exact reached.disposed acquired
  · intro id connection dropped
    exact reached.not_holds_of_dropped disciplined dropped

/-- An exchange that uploads and receives one frame. -/
def frameExchange : List Observation :=
  [.begin 0 false, .acquire 0 0, .advance 0,
    .pollUpload 0 (.ready (some (.ok (.data [1]))) true) (.ready (some (.ok (.data [1])))),
    .pollResponse 0 (.ready (some (.ok (.data [2]))) true) (.ready (some (.ok (.data [2]))))
      (some 0)]

theorem frameExchange_disciplined : Disciplined frameExchange := by
  have sound : ∀ earlier ∈ frameExchange, ∀ id,
      ¬ earlier.FailsUpload id ∧ ¬ earlier.FailsResponse id := by
    simp [frameExchange, Observation.FailsUpload, Observation.FailsResponse, BodyPoll.Fails]
  refine List.Pairwise.imp_of_mem (fun earlier_mem _ _ => ?_)
    (List.pairwise_of_forall fun (_ _ : Observation) => trivial)
  intro id
  exact ⟨fun fails => absurd fails (sound _ earlier_mem id).1,
    fun fails => absurd fails (sound _ earlier_mem id).2⟩

theorem frameExchange_reused : ∃ system : System, system.pool.idleHttp1 = [(8, 0)] ∧
    system.pool.idleHttp1.length ≤ defaultPool.maxIdleConnections ∧
    ReturnsCleanly (frameExchange.take 4)
      (.pollResponse 0 (.ready (some (.ok (.data [2]))) true) (.ready (some (.ok (.data [2]))))
        (some 0)) 0 0 := by
  have started : Reaches defaultPool [] (.new defaultPool 5) := .start 5
  have begun := started.step (@Step.begin defaultPool _ 6 false _ _ rfl ⟨none⟩)
  have connected := begun.step (@Step.connect defaultPool _ 0 _ rfl rfl)
  have responded := connected.step (@Step.respond defaultPool _ 0 _ rfl 0 rfl none)
  have uploaded := responded.step
    (@Step.pollUpload defaultPool _ 0 _ rfl (.ready (some (.ok (.data [1]))) true))
  have received := uploaded.step
    (@Step.pollResponse defaultPool _ 0 _ rfl _ _ rfl 8 (.ready (some (.ok (.data [2]))) true)
      _ _ _ rfl)
  have clean := http1_reused_only_when_clean received
  exact ⟨_, rfl, clean.1, (clean.2 frameExchange_disciplined).1 0 0 _ _ [] rfl
    (.inl ⟨_, _, rfl⟩)⟩

end EdgeGateway.HttpProxy.Http1
