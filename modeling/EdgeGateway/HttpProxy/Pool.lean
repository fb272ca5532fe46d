import EdgeGateway.HttpProxy.Trailers
import EdgeGateway.HttpProxy.Upstream

/-!
# Pools of connections to an upstream

A pool counts its active requests, keeps idle HTTP/1 connections for reuse and shares one HTTP/2
connection.  A connection that is dropped instead of being kept has its driver cancelled.
-/

namespace EdgeGateway.HttpProxy

open Http Results

/-- The default bounds. -/
def defaultPool : PoolConfig where
  maxConnections := 128
  maxIdleConnections := 16
  maxActiveRequests := 256
  maxPendingRequests := 64
  idleTimeout := 60
  pendingTimeout := 5
  responseHeaderTimeout := 60
  bodyIdleTimeout := 60

example : ({} : FilePoolConfig).validate = .ok defaultPool := rfl

/-- Connections in the order in which a pool opened them. -/
abbrev ConnectionId := Nat

/-- What changes of an upstream pool; instants are in the unit of its timeouts. -/
structure PoolState where
  /-- Permits of the semaphore of active requests that nobody holds. -/
  availablePermits : Nat
  /-- Idle connections with the instant of their return, the latest one first. -/
  idleHttp1 : List (Nat × ConnectionId) := []
  http2 : Option ConnectionId := none
  lastActivity : Nat := 0
  shutdown : Bool := false
  /-- Connections opened so far. -/
  opened : Nat := 0
  /-- Connections whose sender reports that they are closed. -/
  closed : List ConnectionId := []
  /-- Connections whose driver has been cancelled. -/
  cancelled : List ConnectionId := []
deriving DecidableEq

/-- The part of an exchange that its two bodies share. -/
structure ExchangeLease where
  uploadComplete : Bool
  cancelled : Bool := false
deriving DecidableEq

namespace PoolState

variable (config : PoolConfig) (now : Nat) (pool : PoolState)

/-- A new pool. -/
def new : PoolState := { availablePermits := config.maxActiveRequests, lastActivity := now }

/-- Note that the pool is in use. -/
def recordActivity : PoolState := { pool with lastActivity := now }

/-- Drop a connection, which cancels its driver. -/
def dropConnection (connection : ConnectionId) : PoolState :=
  { pool with cancelled := connection :: pool.cancelled }

/-- Take a permit for an active request. -/
def tryAcquireActive : Except String PoolState := do
  ensure (pool.shutdown = false) "HTTP proxy shutting down"
  ensure (pool.availablePermits ≠ 0) "HTTP upstream capacity reached"
  return { pool with availablePermits := pool.availablePermits - 1 }

/-- Begin an exchange, whose upload may be complete from the start. -/
def beginExchange (uploadComplete : Bool) : Except String (ExchangeLease × PoolState) := do
  let pool ← pool.tryAcquireActive
  return ({ uploadComplete }, pool.recordActivity now)

/-- Give back the permit of a request. -/
def releaseActive : PoolState := { pool with availablePermits := pool.availablePermits + 1 }

/-- Open a connection. -/
def connect : ConnectionId × PoolState := (pool.opened, { pool with opened := pool.opened + 1 })

/-! ## HTTP/1 -/

/-- An idle connection that is neither expired nor closed. -/
def isUsable (idle : Nat × ConnectionId) : Bool :=
  decide (now - idle.1 < config.idleTimeout) && !pool.closed.contains idle.2

/-- Take the latest usable connection and drop the unusable ones above it. -/
def takeIdleHttp1 : Option ConnectionId × PoolState :=
  let stale := pool.idleHttp1.takeWhile fun idle => !pool.isUsable config now idle
  let rest := pool.idleHttp1.dropWhile fun idle => !pool.isUsable config now idle
  (rest.head?.map Prod.snd,
    { pool with idleHttp1 := rest.tail, cancelled := stale.map Prod.snd ++ pool.cancelled })

/-- Keep a connection for reuse, unless it is closed or there are enough. -/
def returnHttp1 (connection : ConnectionId) : PoolState :=
  let pool := pool.recordActivity now
  if pool.shutdown || pool.closed.contains connection then
    pool.dropConnection connection
  else if pool.idleHttp1.length < config.maxIdleConnections then
    { pool with idleHttp1 := (now, connection) :: pool.idleHttp1 }
  else
    pool.dropConnection connection

/-- Drop the idle connections that are expired or closed, and all of them on shutdown. -/
def reapHttp1 : PoolState :=
  let keep := fun idle => !pool.shutdown && pool.isUsable config now idle
  { pool with
    idleHttp1 := pool.idleHttp1.filter keep
    cancelled := (pool.idleHttp1.filter fun idle => !keep idle).map Prod.snd ++ pool.cancelled }

/-! ## HTTP/2 -/

/-- Drop the shared connection, if there is one. -/
def takeHttp2 : PoolState :=
  match pool.http2 with
  | none => pool
  | some connection => { pool with http2 := none }.dropConnection connection

/-- The shared connection, which is dropped when it is closed. -/
def currentHttp2 : Option ConnectionId × PoolState :=
  let pool := if pool.http2.any fun connection => pool.closed.contains connection then
    pool.takeHttp2 else pool
  (pool.http2, pool)

/-- Share a connection, in place of the one before. -/
def storeHttp2 (connection : ConnectionId) : PoolState :=
  { pool.takeHttp2 with http2 := some connection }

/-- Taking the shared connection concerns nothing else. -/
theorem takeHttp2_frame : pool.takeHttp2.availablePermits = pool.availablePermits ∧
    pool.takeHttp2.shutdown = pool.shutdown ∧ pool.takeHttp2.idleHttp1 = pool.idleHttp1 ∧
    pool.takeHttp2.opened = pool.opened ∧ pool.takeHttp2.http2 = none ∧
    pool.takeHttp2.cancelled = pool.http2.toList ++ pool.cancelled := by
  unfold takeHttp2
  cases shared : pool.http2 with
  | none => exact ⟨rfl, rfl, rfl, rfl, shared, rfl⟩
  | some connection => exact ⟨rfl, rfl, rfl, rfl, rfl, rfl⟩

/-- The shared connection is the one that stays, and it stays unless it is closed. -/
theorem currentHttp2_cases : pool.currentHttp2 = (pool.http2, pool) ∨
    pool.currentHttp2 = (none, pool.takeHttp2) := by
  unfold currentHttp2
  dsimp only
  split_ifs with closed
  · obtain ⟨_, _, _, _, gone, _⟩ := pool.takeHttp2_frame
    rw [gone]
    exact .inr rfl
  · exact .inl rfl

/-- The shared connection is one that has been opened and not been dropped. -/
structure SharesLive : Prop where
  cancelled : ∀ connection ∈ pool.cancelled, connection < pool.opened
  shared : ∀ connection, pool.http2 = some connection →
    connection < pool.opened ∧ connection ∉ pool.cancelled

variable {pool}

/-- Other changes of a pool leave its shared connection live. -/
theorem SharesLive.congr {after : PoolState} (live : pool.SharesLive)
    (shared : after.http2 = pool.http2) (opened : after.opened = pool.opened)
    (cancelled : after.cancelled = pool.cancelled) : after.SharesLive := by
  constructor
  · rw [cancelled, opened]
    exact live.cancelled
  · rw [shared, opened, cancelled]
    exact live.shared

theorem SharesLive.takeHttp2 (live : pool.SharesLive) : pool.takeHttp2.SharesLive := by
  obtain ⟨_, _, _, opened, gone, cancelled⟩ := pool.takeHttp2_frame
  constructor
  · rw [cancelled, opened, List.forall_mem_append]
    refine ⟨fun connection member => ?_, live.cancelled⟩
    exact (live.shared connection (Option.mem_toList.mp member)).1
  · intro connection shared
    cases gone.symm.trans shared

theorem SharesLive.currentHttp2 (live : pool.SharesLive) : pool.currentHttp2.2.SharesLive := by
  rcases pool.currentHttp2_cases with same | taken
  · rw [same]
    exact live
  · rw [taken]
    exact live.takeHttp2

theorem SharesLive.storeHttp2 (live : pool.SharesLive) :
    (pool.connect.2.storeHttp2 pool.connect.1).SharesLive := by
  obtain ⟨_, _, _, opened, _, cancelled⟩ := pool.connect.2.takeHttp2_frame
  have old : ∀ connection ∈ pool.connect.2.takeHttp2.cancelled, connection < pool.opened := by
    rw [cancelled, List.forall_mem_append]
    exact ⟨fun connection member => (live.shared connection (Option.mem_toList.mp member)).1,
      live.cancelled⟩
  constructor
  · intro connection member
    calc
      connection < pool.opened := old connection member
      _ < pool.connect.2.takeHttp2.opened := by
        rw [opened]
        exact Nat.lt_succ_self _
  · intro connection shared
    cases shared
    refine ⟨?_, fun member => lt_irrefl _ (old _ member)⟩
    calc
      pool.opened < pool.connect.2.opened := Nat.lt_succ_self _
      _ = pool.connect.2.takeHttp2.opened := opened.symm

variable (pool)

/-! ## What becomes of a connection -/

/-- The pool keeps a connection that it is given back, or drops it. -/
inductive Disposes (config : PoolConfig) (connection : ConnectionId) (before after : PoolState) :
    Prop
  | kept {now : Nat} (room : before.idleHttp1.length < config.maxIdleConnections)
      (idle : after.idleHttp1 = (now, connection) :: before.idleHttp1)
      (cancelled : after.cancelled = before.cancelled)
  | dropped (idle : after.idleHttp1 = before.idleHttp1)
      (cancelled : after.cancelled = connection :: before.cancelled)

theorem returnHttp1_disposes (connection : ConnectionId) :
    Disposes config connection pool (pool.returnHttp1 config now connection) := by
  unfold returnHttp1
  dsimp only
  split_ifs with unusable room
  · exact .dropped rfl rfl
  · exact .kept room rfl rfl
  · exact .dropped rfl rfl

/-- A pool never keeps more idle connections than it may, and never takes back a cancellation. -/
structure Evolves (config : PoolConfig) (before after : PoolState) : Prop where
  idle : before.idleHttp1.length ≤ config.maxIdleConnections →
    after.idleHttp1.length ≤ config.maxIdleConnections
  cancelled : before.cancelled ⊆ after.cancelled

theorem Disposes.evolves {connection : ConnectionId} {before after : PoolState}
    (disposes : Disposes config connection before after) : Evolves config before after := by
  cases disposes with
  | kept room idle cancelled =>
      refine ⟨fun _ => ?_, by rw [cancelled]; exact List.Subset.refl _⟩
      rw [idle]
      exact room
  | dropped idle cancelled =>
      refine ⟨fun few => by rwa [idle], ?_⟩
      rw [cancelled]
      exact List.subset_cons_self _ _

theorem evolves_of_same {before after : PoolState} (idle : after.idleHttp1 = before.idleHttp1)
    (cancelled : after.cancelled = before.cancelled) : Evolves config before after :=
  ⟨fun few => by rwa [idle], by rw [cancelled]; exact List.Subset.refl _⟩

theorem takeIdleHttp1_evolves : Evolves config pool (pool.takeIdleHttp1 config now).2 := by
  constructor
  · intro few
    refine le_trans ?_ few
    calc
      _ ≤ (pool.idleHttp1.dropWhile fun idle => !pool.isUsable config now idle).length := by
        simp [takeIdleHttp1]
      _ ≤ pool.idleHttp1.length := (List.dropWhile_sublist _).length_le
  · exact List.subset_append_right _ _

/-- Without idle connections there is nothing to reap. -/
theorem reapHttp1_of_none (idle : pool.idleHttp1 = []) : pool.reapHttp1 config now = pool := by
  cases pool
  cases idle
  rfl

theorem reapHttp1_evolves : Evolves config pool (pool.reapHttp1 config now) := by
  constructor
  · intro few
    exact (List.length_filter_le _ _).trans few
  · exact List.subset_append_right _ _

theorem beginExchange_evolves {uploadComplete : Bool} {lease : ExchangeLease} {after : PoolState}
    (accepted : pool.beginExchange now uploadComplete = .ok (lease, after)) :
    Evolves config pool after ∧ lease.uploadComplete = uploadComplete := by
  simp only [beginExchange, tryAcquireActive, bind_eq_ok, ensure_eq_ok, exists_const] at accepted
  obtain ⟨_, ⟨_, _, same⟩, result⟩ := accepted
  cases same
  cases result
  exact ⟨evolves_of_same config rfl rfl, rfl⟩

end PoolState

/-! ## Bodies -/

/-- What polling the stream under a body gives: a frame or its end, with what the stream says of
its end afterwards, or nothing yet, while the idle timer may have expired. -/
inductive StreamPoll
  | ready (frame : Option (Except String Frame)) (ended : Bool)
  | pending (expired : Bool)

/-- What polling a body gives. -/
inductive BodyPoll
  | ready (frame : Option (Except String Frame))
  | pending

/-- Sanitize what a stream gives. -/
def sanitizeFrame (declared : Option (List HeaderName)) (frame : Option (Except String Frame)) :
    Option (Except String Frame) :=
  frame.map fun result => result.bind fun frame => sanitizeStreamFrame frame declared

/-- The exchange is cancelled, by itself or with the pool. -/
def ExchangeLease.isCancelled (lease : ExchangeLease) (pool : PoolState) : Bool :=
  lease.cancelled || pool.shutdown

def ExchangeLease.cancel (lease : ExchangeLease) : ExchangeLease := { lease with cancelled := true }

/-- The body of a request on its way to the upstream. -/
structure UploadBody where
  declaredTrailers : Option (List HeaderName)

/-- Poll the body of a request. -/
def UploadBody.pollFrame (body : UploadBody) (pool : PoolState) (lease : ExchangeLease)
    (poll : StreamPoll) : ExchangeLease × BodyPoll :=
  if lease.isCancelled pool then
    (lease, .ready (some (.error "HTTP upload cancelled")))
  else
    match poll with
    | .ready frame ended =>
        let frame := sanitizeFrame body.declaredTrailers frame
        if frame.isNone || (frame.any Except.isOk && ended) then
          ({ lease with uploadComplete := true }, .ready frame)
        else
          (lease, .ready frame)
    | .pending true => (lease.cancel, .ready (some (.error "HTTP upload idle timeout")))
    | .pending false => (lease, .pending)

/-- The body of a response on its way to the client, with the connection it comes from. -/
structure PooledResponseBody where
  http1 : Option ConnectionId
  healthy : Bool := true
  declaredTrailers : Option (List HeaderName)

namespace PooledResponseBody

variable (config : PoolConfig) (now : Nat) (pool : PoolState) (lease : ExchangeLease)
  (body : PooledResponseBody)

/-- Give up the connection: keep it when both bodies are done with it, and drop it otherwise. -/
def finishHttp1 (ended : Bool) : PoolState × PooledResponseBody :=
  let pool :=
    match body.http1 with
    | none => pool
    | some connection =>
        if body.healthy && ended && lease.uploadComplete then
          pool.returnHttp1 config now connection
        else
          pool.dropConnection connection
  (pool.recordActivity now, { body with http1 := none })

/-- A frame that is an error makes the connection unhealthy. -/
def heed (frame : Option (Except String Frame)) : PooledResponseBody :=
  if frame.any fun result => !result.isOk then { body with healthy := false } else body

/-- Poll the body of a response. -/
def pollFrame (poll : StreamPoll) :
    PoolState × ExchangeLease × PooledResponseBody × BodyPoll :=
  match poll with
  | .ready frame ended =>
      let frame := sanitizeFrame body.declaredTrailers frame
      let body := body.heed frame
      let finished :=
        if frame.isNone || ended then body.finishHttp1 config now pool lease ended else (pool, body)
      (finished.1, lease, finished.2, .ready frame)
  | .pending true =>
      (body.http1.elim pool pool.dropConnection, lease.cancel,
        { body with healthy := false, http1 := none },
        .ready (some (.error "HTTP response idle timeout")))
  | .pending false => (pool, lease, body, .pending)

/-- Drop the body of a response. -/
def drop (ended : Bool) : PoolState × ExchangeLease :=
  ((body.finishHttp1 config now pool lease ended).1, lease.cancel)

end PooledResponseBody

/-! ## How bodies end -/

/-- The body has yielded an error. -/
def BodyPoll.Fails (yielded : BodyPoll) : Prop :=
  ∃ reason, yielded = .ready (some (.error reason))

/-- The body has yielded its end, or its last frame. -/
def BodyPoll.Ends (poll : StreamPoll) (yielded : BodyPoll) : Prop :=
  yielded = .ready none ∨
    ∃ given frame, poll = .ready given true ∧ yielded = .ready (some (.ok frame))

variable {config : PoolConfig} {now : Nat} {pool : PoolState} {lease : ExchangeLease}

theorem BodyPoll.Ends.not_fails {poll : StreamPoll} {yielded : BodyPoll}
    (ends : yielded.Ends poll) : ¬ yielded.Fails := by
  rintro ⟨reason, rfl⟩
  rcases ends with same | ⟨_, _, _, same⟩
  · cases same
  · cases same

/-- An upload that becomes complete yields its end or its last frame. -/
theorem UploadBody.pollFrame_complete {body : UploadBody} {poll : StreamPoll}
    (incomplete : lease.uploadComplete = false)
    (complete : (body.pollFrame pool lease poll).1.uploadComplete = true) :
    (body.pollFrame pool lease poll).2.Ends poll := by
  have unchanged {later : ExchangeLease} (same : later.uploadComplete = lease.uploadComplete) :
      later.uploadComplete ≠ true := by
    rw [same, incomplete]
    exact Bool.false_ne_true
  unfold UploadBody.pollFrame at complete ⊢
  split_ifs at complete ⊢ with cancelled
  · exact absurd complete (unchanged rfl)
  · cases poll with
    | pending expired =>
        cases expired with
        | true => exact absurd complete (unchanged rfl)
        | false => exact absurd complete (unchanged rfl)
    | ready frame ended =>
        dsimp only at complete ⊢
        generalize sanitizeFrame body.declaredTrailers frame = sanitized at complete ⊢
        split_ifs at complete ⊢ with finished
        · cases sanitized with
          | none => exact .inl rfl
          | some result =>
              obtain ⟨accepted, rfl⟩ : result.isOk = true ∧ ended = true := by simpa using finished
              obtain ⟨given, rfl⟩ := exists_of_isOk accepted
              exact .inr ⟨frame, given, rfl, rfl⟩
        · exact absurd complete (unchanged rfl)

namespace PooledResponseBody

variable (config now pool lease) {body : PooledResponseBody}

/-- The pool is in use, and apart from that as it was. -/
theorem finishHttp1_none (absent : body.http1 = none) (ended : Bool) :
    body.finishHttp1 config now pool lease ended = (pool.recordActivity now, body) := by
  cases body
  cases absent
  rfl

/-- A connection that is given up is dropped, or kept when both bodies are done with it. -/
theorem finishHttp1_some {connection : ConnectionId} (held : body.http1 = some connection)
    (ended : Bool) :
    (body.finishHttp1 config now pool lease ended).2 = { body with http1 := none } ∧
      PoolState.Disposes config connection pool
        (body.finishHttp1 config now pool lease ended).1 ∧
      ((body.finishHttp1 config now pool lease ended).1.idleHttp1 ≠ pool.idleHttp1 →
        body.healthy = true ∧ ended = true ∧ lease.uploadComplete = true) := by
  unfold finishHttp1
  rw [held]
  dsimp only
  split_ifs with clean
  · simp only [Bool.and_eq_true] at clean
    refine ⟨rfl, ?_, fun _ => ⟨clean.1.1, clean.1.2, clean.2⟩⟩
    cases pool.returnHttp1_disposes config now connection with
    | kept room idle cancelled => exact .kept room idle cancelled
    | dropped idle cancelled => exact .dropped idle cancelled
  · exact ⟨rfl, .dropped rfl rfl, fun changed => absurd rfl changed⟩

/-- What becomes of the connection of a body: it stays, or it is given up, and kept by the pool
only when both bodies have ended without an error. -/
inductive Progress (config : PoolConfig) (before after : PoolState) (lease : ExchangeLease)
    (clean : Prop) : PooledResponseBody → PooledResponseBody → Prop
  | stays {body next : PooledResponseBody} (http1 : next.http1 = body.http1)
      (idle : after.idleHttp1 = before.idleHttp1) (cancelled : after.cancelled = before.cancelled) :
      Progress config before after lease clean body next
  | leaves {body next : PooledResponseBody} {connection : ConnectionId}
      (held : body.http1 = some connection) (left : next.http1 = none)
      (disposes : PoolState.Disposes config connection before after)
      (kept_clean : after.idleHttp1 ≠ before.idleHttp1 →
        body.healthy = true ∧ lease.uploadComplete = true ∧ clean) :
      Progress config before after lease clean body next

theorem Progress.evolves {before after : PoolState} {clean : Prop} {body next : PooledResponseBody}
    {lease : ExchangeLease} (progress : Progress config before after lease clean body next) :
    PoolState.Evolves config before after := by
  cases progress with
  | stays http1 idle cancelled => exact PoolState.evolves_of_same config idle cancelled
  | leaves held left disposes clean => exact disposes.evolves

theorem finishHttp1_progress (ended : Bool) :
    Progress config pool (body.finishHttp1 config now pool lease ended).1 lease (ended = true) body
      (body.finishHttp1 config now pool lease ended).2 := by
  cases held : body.http1 with
  | none =>
      rw [finishHttp1_none config now pool lease held]
      exact .stays rfl rfl rfl
  | some connection =>
      obtain ⟨left, disposes, clean⟩ :=
        finishHttp1_some config now pool lease held ended
      refine .leaves held (by rw [left]) disposes fun changed => ?_
      obtain ⟨healthy, finished, complete⟩ := clean changed
      exact ⟨healthy, complete, finished⟩

theorem healthy_of_heed {frame : Option (Except String Frame)}
    (healthy : (body.heed frame).healthy = true) :
    body.healthy = true ∧ ¬ (BodyPoll.ready frame).Fails := by
  unfold heed at healthy
  split_ifs at healthy with failed
  refine ⟨healthy, ?_⟩
  rintro ⟨reason, yielded⟩
  cases yielded
  exact failed rfl

@[simp] theorem http1_heed (frame : Option (Except String Frame)) :
    (body.heed frame).http1 = body.http1 := by
  unfold heed
  split_ifs with failed
  · rfl
  · rfl

variable {config now pool lease} in
/-- A body that is healthy after a poll has been so before, and has yielded no error. -/
theorem healthy_of_pollFrame {poll : StreamPoll}
    (healthy : (body.pollFrame config now pool lease poll).2.2.1.healthy = true) :
    body.healthy = true ∧ ¬ (body.pollFrame config now pool lease poll).2.2.2.Fails := by
  cases poll with
  | pending expired =>
      cases expired with
      | true => cases healthy
      | false => exact ⟨healthy, fun ⟨_, same⟩ => by cases same⟩
  | ready frame ended =>
      apply healthy_of_heed
      dsimp only [pollFrame] at healthy
      split_ifs at healthy with finished
      · exact healthy
      · exact healthy

theorem pollFrame_progress (poll : StreamPoll) :
    Progress config pool (body.pollFrame config now pool lease poll).1 lease
      ((body.pollFrame config now pool lease poll).2.2.2.Ends poll) body
      (body.pollFrame config now pool lease poll).2.2.1 := by
  cases poll with
  | pending expired =>
      cases expired with
      | true =>
          cases held : body.http1 with
          | none =>
              dsimp only [pollFrame]
              rw [held]
              exact .stays held.symm rfl rfl
          | some connection =>
              dsimp only [pollFrame]
              rw [held]
              exact .leaves held rfl (.dropped rfl rfl) fun changed => absurd rfl changed
      | false => exact .stays rfl rfl rfl
  | ready frame ended =>
      dsimp only [pollFrame]
      generalize sanitizeFrame body.declaredTrailers frame = sanitized
      split_ifs with finished
      · cases @finishHttp1_progress config now pool lease (body.heed sanitized) ended with
        | stays http1 idle cancelled => exact .stays (http1.trans (http1_heed _)) idle cancelled
        | leaves held left disposes clean =>
            refine .leaves ((http1_heed _).symm.trans held) left disposes fun changed => ?_
            obtain ⟨healthy, complete, at_end⟩ := clean changed
            obtain ⟨sound, accepted⟩ := healthy_of_heed healthy
            refine ⟨sound, complete, ?_⟩
            cases sanitized with
            | none => exact .inl rfl
            | some result =>
                cases result with
                | error reason => exact absurd ⟨reason, rfl⟩ accepted
                | ok given => exact .inr ⟨frame, given, by rw [at_end], rfl⟩
      · exact .stays (http1_heed _) rfl rfl

theorem pollFrame_uploadComplete (poll : StreamPoll) :
    (body.pollFrame config now pool lease poll).2.1.uploadComplete = lease.uploadComplete := by
  cases poll with
  | ready frame ended => rfl
  | pending expired =>
      cases expired with
      | true => rfl
      | false => rfl

end PooledResponseBody

end EdgeGateway.HttpProxy
