import EdgeGateway.HttpProxy.Pool
import EdgeGateway.Library.Table

/-!
# Reaping the shared HTTP/2 connection

Requests take a permit, note their activity and then share the connection of the pool, or open it.
Meanwhile one reaper reads the latest activity, counts the permits and drops the connection.  Every
read and every change is a step of its own, so a request may begin between any two steps of the
reaper.
-/

namespace EdgeGateway.HttpProxy.Http2

open Results

/-! ## Runs -/

/-- Requests in the order in which they took their permits. -/
abbrev RequestId := Nat

/-- Where a request stands that holds its permit. -/
inductive Stage
  /-- It has its permit. -/
  | permitted
  /-- It has noted its activity. -/
  | recorded
  /-- It has found no connection and waits for its turn to open one. -/
  | queueing
  /-- It has its turn. -/
  | gated
  /-- It has found no connection again and opens one. -/
  | connecting
  /-- It has the sender of a connection. -/
  | handed (connection : ConnectionId)
deriving DecidableEq

/-- The request has the turn to open a connection. -/
def Stage.holdsGate : Stage → Bool
  | .gated | .connecting => true
  | .permitted | .recorded | .queueing | .handed _ => false

/-- Where the reaper stands. -/
inductive Reaper
  | idle
  /-- It has dropped the idle HTTP/1 connections. -/
  | swept
  /-- It has read the latest activity. -/
  | observed (idleExpired : Bool)
  /-- It has found the pool unused and is about to drop the connection. -/
  | armed
deriving DecidableEq

/-- A pool with the requests that hold its permits. -/
structure System where
  pool : PoolState
  requests : Table RequestId Stage
  begun : Nat
  /-- Nobody has the turn to open a connection. -/
  gate : Bool
  reaper : Reaper
  /-- The latest instant that was read. -/
  clock : Nat

/-- A pool that nobody uses yet. -/
def System.new (config : PoolConfig) (now : Nat) : System where
  pool := .new config now
  requests := ∅
  begun := 0
  gate := true
  reaper := .idle
  clock := now

/-- The system after a request has gone on. -/
def System.update (system : System) (pool : PoolState) (id : RequestId) (stage : Stage) : System :=
  { system with pool, requests := system.requests.insert id stage }

/-- What the reaper decides once it has counted the permits. -/
def reaps (config : PoolConfig) (pool : PoolState) (idleExpired : Bool) : Bool :=
  pool.shutdown ||
    (pool.availablePermits == config.maxActiveRequests &&
      (idleExpired || config.maxIdleConnections == 0))

/-- Who takes a step, and whether it hands a sender to a request. -/
inductive Action
  | request
  | hand (id : RequestId) (connection : ConnectionId)
  | reap
  | close

/-- One step of a run. -/
inductive Step (config : PoolConfig) : System → Action → System → Prop
  | acquire {system : System} {pool : PoolState}
      (accepted : system.pool.tryAcquireActive = .ok pool) :
      Step config system .request
        { system with
          pool
          requests := system.requests.insert system.begun .permitted
          begun := system.begun + 1 }
  | record {system : System} {id : RequestId}
      (permitted : system.requests.lookup id = some .permitted) {now : Nat}
      (later : system.clock ≤ now) :
      Step config system .request
        { system.update (system.pool.recordActivity now) id .recorded with clock := now }
  /-- The request shares the connection. -/
  | share {system : System} {id : RequestId} {stage : Stage}
      (found : system.requests.lookup id = some stage)
      (asking : stage = .recorded ∨ stage = .gated) {connection : ConnectionId} {pool : PoolState}
      (current : system.pool.currentHttp2 = (some connection, pool)) :
      Step config system (.hand id connection)
        { system.update pool id (.handed connection) with gate := system.gate || stage.holdsGate }
  /-- There is no connection, so the request waits for its turn. -/
  | queue {system : System} {id : RequestId}
      (recorded : system.requests.lookup id = some .recorded) {pool : PoolState}
      (missing : system.pool.currentHttp2 = (none, pool)) :
      Step config system .request (system.update pool id .queueing)
  | enter {system : System} {id : RequestId}
      (queueing : system.requests.lookup id = some .queueing) (free : system.gate = true) :
      Step config system .request
        { system.update system.pool id .gated with gate := false }
  /-- There is still no connection, so the request opens one. -/
  | connect {system : System} {id : RequestId}
      (gated : system.requests.lookup id = some .gated) {pool : PoolState}
      (missing : system.pool.currentHttp2 = (none, pool)) :
      Step config system .request (system.update pool id .connecting)
  /-- The request has opened a connection and shares it. -/
  | store {system : System} {id : RequestId}
      (connecting : system.requests.lookup id = some .connecting) :
      Step config system (.hand id system.pool.connect.1)
        { system.update (system.pool.connect.2.storeHttp2 system.pool.connect.1) id
            (.handed system.pool.connect.1) with
          gate := true }
  /-- The request ends and gives its permit back. -/
  | leave {system : System} {id : RequestId} {stage : Stage}
      (found : system.requests.lookup id = some stage) :
      Step config system .request
        { system with
          pool := system.pool.releaseActive
          requests := system.requests.erase id
          gate := system.gate || stage.holdsGate }
  /-- The sender of a connection finds it closed. -/
  | close {system : System} (connection : ConnectionId) :
      Step config system .close
        { system with pool.closed := connection :: system.pool.closed }
  | sweep {system : System} (idle : system.reaper = .idle) {now : Nat}
      (later : system.clock ≤ now) :
      Step config system .reap
        { system with pool := system.pool.reapHttp1 config now, reaper := .swept, clock := now }
  | observe {system : System} (swept : system.reaper = .swept) {now : Nat}
      (later : system.clock ≤ now) :
      Step config system .reap
        { system with
          reaper := .observed (decide (config.idleTimeout ≤ now - system.pool.lastActivity))
          clock := now }
  | check {system : System} {idleExpired : Bool}
      (observed : system.reaper = .observed idleExpired) :
      Step config system .reap
        { system with reaper := if reaps config system.pool idleExpired then .armed else .idle }
  | take {system : System} (armed : system.reaper = .armed) :
      Step config system .reap { system with pool := system.pool.takeHttp2, reaper := .idle }

/-- The systems that runs reach whose steps are all allowed. -/
inductive Reaches (config : PoolConfig) (allowed : System → Action → Prop) : System → Prop
  | start (now : Nat) : Reaches config allowed (.new config now)
  | step {system next : System} {action : Action} (reached : Reaches config allowed system)
      (step : Step config system action next) (permitted : allowed system action) :
      Reaches config allowed next

/-- A run takes any steps. -/
def Any : System → Action → Prop := fun _ _ => True

/-- No request is handed a sender while the reaper is about to drop the connection. -/
def Unarmed (system : System) (action : Action) : Prop :=
  ∀ id connection, action = .hand id connection → system.reaper ≠ .armed

/-- A step cancels no connection whose sender a request has that holds its permit. -/
def Spares (system next : System) : Prop :=
  ∀ id connection, system.requests.lookup id = some (.handed connection) →
    connection ∈ next.pool.cancelled → connection ∈ system.pool.cancelled

variable {config : PoolConfig} {system next : System} {action : Action} {id : RequestId}
  {connection : ConnectionId} {allowed : System → Action → Prop}

/-! ## What every run keeps -/

/-- Permits are never lost, a running pool has no idle HTTP/1 connections, and the connection that
it shares is live. -/
structure Invariant (config : PoolConfig) (system : System) : Prop where
  permits : system.pool.availablePermits + system.requests.size = config.maxActiveRequests
  known : ∀ id ∈ system.requests, id < system.begun
  running : system.pool.shutdown = false
  noIdle : system.pool.idleHttp1 = []
  live : system.pool.SharesLive

/-- A request that goes on keeps its permit. -/
theorem Invariant.update (invariant : Invariant config system) (member : id ∈ system.requests)
    (pool : PoolState) (permits : pool.availablePermits = system.pool.availablePermits)
    (running : pool.shutdown = system.pool.shutdown)
    (idle : pool.idleHttp1 = system.pool.idleHttp1) (live : pool.SharesLive) (stage : Stage) :
    Invariant config (system.update pool id stage) := by
  constructor
  · rw [System.update, permits, Table.size_insert_of_mem stage member]
    exact invariant.permits
  · intro other other_member
    rcases AList.mem_insert _ |>.mp other_member with rfl | before
    · exact invariant.known _ member
    · exact invariant.known other before
  · exact running.trans invariant.running
  · exact idle.trans invariant.noIdle
  · exact live

/-- A request that asks for the connection keeps its permit. -/
theorem Invariant.current (invariant : Invariant config system) (member : id ∈ system.requests)
    {shared : Option ConnectionId} {pool : PoolState}
    (current : system.pool.currentHttp2 = (shared, pool)) (stage : Stage) :
    Invariant config (system.update pool id stage) := by
  have live := invariant.live.currentHttp2
  rcases system.pool.currentHttp2_cases with same | taken
  · cases current.symm.trans same
    exact invariant.update member _ rfl rfl rfl invariant.live stage
  · cases current.symm.trans taken
    obtain ⟨permits, running, idle, _⟩ := system.pool.takeHttp2_frame
    exact invariant.update member _ permits running idle invariant.live.takeHttp2 stage

theorem Step.invariant (step : Step config system action next)
    (invariant : Invariant config system) : Invariant config next := by
  have mem {id : RequestId} {stage : Stage} (found : system.requests.lookup id = some stage) :
      id ∈ system.requests := Table.mem_iff_lookup.mpr ⟨stage, found⟩
  cases step with
  | acquire accepted =>
      simp only [PoolState.tryAcquireActive, bind_eq_ok, ensure_eq_ok, exists_const] at accepted
      obtain ⟨_, some_left, same⟩ := accepted
      cases same
      have fresh : system.begun ∉ system.requests := fun member =>
        lt_irrefl _ (invariant.known _ member)
      refine ⟨?_, ?_, invariant.running, invariant.noIdle, invariant.live.congr rfl rfl rfl⟩
      · rw [Table.size_insert_of_notMem _ fresh, ← invariant.permits]
        dsimp only
        omega
      · intro id member
        rcases AList.mem_insert _ |>.mp member with rfl | before
        · exact Nat.lt_succ_self _
        · exact Nat.lt_succ_of_lt (invariant.known id before)
  | @record id permitted now later =>
      have kept : Invariant config
          (system.update (system.pool.recordActivity now) id .recorded) :=
        invariant.update (mem permitted) (system.pool.recordActivity now) rfl rfl rfl
          (invariant.live.congr rfl rfl rfl) .recorded
      exact ⟨kept.permits, kept.known, kept.running, kept.noIdle, kept.live⟩
  | @share id stage found asking connection pool current =>
      have kept := invariant.current (mem found) current (.handed connection)
      exact ⟨kept.permits, kept.known, kept.running, kept.noIdle, kept.live⟩
  | queue recorded missing => exact invariant.current (mem recorded) missing _
  | enter queueing free =>
      have kept := invariant.update (mem queueing) _ rfl rfl rfl invariant.live .gated
      exact ⟨kept.permits, kept.known, kept.running, kept.noIdle, kept.live⟩
  | connect gated missing => exact invariant.current (mem gated) missing _
  | @store id connecting =>
      obtain ⟨permits, running, idle, _⟩ := system.pool.connect.2.takeHttp2_frame
      have kept : Invariant config
          (system.update (system.pool.connect.2.storeHttp2 system.pool.connect.1) id
            (.handed system.pool.connect.1)) :=
        invariant.update (mem connecting) (system.pool.connect.2.storeHttp2 system.pool.connect.1)
          permits running idle invariant.live.storeHttp2 _
      exact ⟨kept.permits, kept.known, kept.running, kept.noIdle, kept.live⟩
  | leave found =>
      refine ⟨?_, ?_, invariant.running, invariant.noIdle, invariant.live.congr rfl rfl rfl⟩
      · rw [← invariant.permits, ← Table.size_erase_of_mem (mem found)]
        dsimp only [PoolState.releaseActive]
        omega
      · intro id member
        exact invariant.known id (AList.mem_erase.mp member).2
  | close connection =>
      exact ⟨invariant.permits, invariant.known, invariant.running, invariant.noIdle,
        invariant.live.congr rfl rfl rfl⟩
  | sweep idle later =>
      rw [system.pool.reapHttp1_of_none config _ invariant.noIdle]
      exact ⟨invariant.permits, invariant.known, invariant.running, invariant.noIdle,
        invariant.live⟩
  | observe swept later =>
      exact ⟨invariant.permits, invariant.known, invariant.running, invariant.noIdle,
        invariant.live⟩
  | check observed =>
      exact ⟨invariant.permits, invariant.known, invariant.running, invariant.noIdle,
        invariant.live⟩
  | take armed =>
      obtain ⟨permits, running, idle, _⟩ := system.pool.takeHttp2_frame
      exact ⟨permits ▸ invariant.permits, invariant.known, running.trans invariant.running,
        idle.trans invariant.noIdle, invariant.live.takeHttp2⟩

/-- What fewer steps reach, more steps reach. -/
theorem Reaches.mono {more : System → Action → Prop} (reached : Reaches config allowed system)
    (wider : ∀ system action, allowed system action → more system action) :
    Reaches config more system := by
  induction reached with
  | start now => exact .start now
  | step _ step permitted ih => exact ih.step step (wider _ _ permitted)

theorem Reaches.invariant (reached : Reaches config allowed system) : Invariant config system := by
  induction reached with
  | start now =>
      refine ⟨rfl, fun id member => absurd member (AList.notMem_empty id), rfl, rfl, ?_, ?_⟩
      · intro connection member
        cases member
      · intro connection shared
        cases shared
  | step reached step permitted ih => exact step.invariant ih

/-! ## Reaping -/

/-- Some request has the sender of a connection. -/
def Hands (requests : Table RequestId Stage) : Prop :=
  ∃ id connection, requests.lookup id = some (.handed connection)

theorem not_hands_insert {requests : Table RequestId Stage} (before : ¬ Hands requests)
    {stage : Stage} (unhanded : ∀ connection, stage ≠ .handed connection) :
    ¬ Hands (requests.insert id stage) := by
  rintro ⟨other, connection, found⟩
  by_cases same : other = id
  · subst same
    exact unhanded connection (Option.some.inj ((AList.lookup_insert _).symm.trans found))
  · exact before ⟨other, connection, (AList.lookup_insert_ne same).symm.trans found⟩

theorem not_hands_erase {requests : Table RequestId Stage} (before : ¬ Hands requests) :
    ¬ Hands (requests.erase id) := by
  rintro ⟨other, connection, found⟩
  by_cases same : other = id
  · subst same
    cases (AList.lookup_erase _ _).symm.trans found
  · exact before ⟨other, connection, (AList.lookup_erase_ne same).symm.trans found⟩

/-- The reaper finds all permits available when nobody holds one. -/
theorem Invariant.not_hands_of_reaps (invariant : Invariant config system) {idleExpired : Bool}
    (reaping : reaps config system.pool idleExpired = true) : ¬ Hands system.requests := by
  have all_available : system.pool.availablePermits = config.maxActiveRequests := by
    rw [reaps, invariant.running] at reaping
    simp only [Bool.false_or, Bool.and_eq_true, beq_iff_eq] at reaping
    exact reaping.1
  have nobody : system.requests.size = 0 := by
    have permits := invariant.permits
    omega
  rintro ⟨id, connection, found⟩
  rw [Table.lookup_of_size_zero nobody] at found
  cases found

/-- The reaper arms itself when nobody has a sender, and while it is armed nobody is handed one. -/
theorem Step.not_hands (step : Step config system action next)
    (invariant : Invariant config system) (unarmed : Unarmed system action)
    (before : system.reaper = .armed → ¬ Hands system.requests) :
    next.reaper = .armed → ¬ Hands next.requests := by
  intro armed
  cases step with
  | acquire | record | queue | enter | connect =>
      exact not_hands_insert (before armed) fun _ => Stage.noConfusion
  | share | store => exact absurd armed (unarmed _ _ rfl)
  | leave => exact not_hands_erase (before armed)
  | close => exact before armed
  | sweep | observe | take => cases armed
  | check observed =>
      dsimp only at armed
      split_ifs at armed with reaping
      exact invariant.not_hands_of_reaps reaping

theorem Reaches.not_hands (reached : Reaches config Unarmed system) :
    system.reaper = .armed → ¬ Hands system.requests := by
  induction reached with
  | start now => exact Reaper.noConfusion
  | step reached step permitted ih => exact step.not_hands reached.invariant permitted ih

/-- A step of the reaper drops the shared connection when it is armed, and nothing otherwise. -/
theorem Step.reap_cancelled (step : Step config system .reap next)
    (invariant : Invariant config system) :
    next.pool.cancelled = system.pool.cancelled ∨ system.reaper = .armed := by
  cases step with
  | sweep idle later =>
      rw [system.pool.reapHttp1_of_none config _ invariant.noIdle]
      exact .inl rfl
  | observe | check => exact .inl rfl
  | take armed => exact .inr armed

theorem spares_of_unarmed (reached : Reaches config Unarmed system)
    (step : Step config system .reap next) : Spares system next := by
  intro id connection found cancelled
  rcases step.reap_cancelled reached.invariant with same | armed
  · rwa [same] at cancelled
  · exact absurd ⟨id, connection, found⟩ (reached.not_hands armed)

/-- A request that is handed a sender while the reaper is armed loses its connection if the reaper
takes the next step. -/
theorem Step.exists_not_spares (step : Step config system (.hand id connection) next)
    (invariant : Invariant config system) (armed : system.reaper = .armed) :
    ∃ last, Step config next .reap last ∧ ¬ Spares next last := by
  have shared : next.reaper = .armed ∧ next.pool.http2 = some connection ∧
      next.requests.lookup id = some (.handed connection) := by
    cases step with
    | share found asking current =>
        refine ⟨armed, ?_, AList.lookup_insert _⟩
        rcases system.pool.currentHttp2_cases with same | taken
        · obtain ⟨shared, same_pool⟩ := Prod.mk.inj (current.symm.trans same)
          rw [shared]
          exact congrArg PoolState.http2 same_pool
        · cases current.symm.trans taken
    | store connecting => exact ⟨armed, rfl, AList.lookup_insert _⟩
  obtain ⟨still_armed, slot, handed⟩ := shared
  refine ⟨_, .take still_armed, fun spares => ?_⟩
  have live := ((step.invariant invariant).live.shared connection slot).2
  obtain ⟨_, _, _, _, _, cancelled⟩ := next.pool.takeHttp2_frame
  refine live (spares id connection handed ?_)
  rw [cancelled, slot]
  exact List.mem_cons_self

/-- Reaping spares the connections in use as long as no request is handed a sender between the
count of the permits and the drop of the connection, and no longer: a request that is handed one
there loses its connection if the reaper's step is the next one. -/
theorem reap_idle_spares (config : PoolConfig) :
    (∀ system next, Reaches config Unarmed system → Step config system .reap next →
      Spares system next) ∧
    ∀ system next id connection, Reaches config Any system → system.reaper = .armed →
      Step config system (.hand id connection) next →
      ∃ last, Step config next .reap last ∧ ¬ Spares next last :=
  ⟨fun _ _ reached step => spares_of_unarmed reached step,
    fun _ _ _ _ reached armed step => step.exists_not_spares reached.invariant armed⟩

theorem unarmed_request (system : System) : Unarmed system .request :=
  fun _ _ hands => Action.noConfusion hands

theorem unarmed_reap (system : System) : Unarmed system .reap :=
  fun _ _ hands => Action.noConfusion hands

/-- A pool that has been unused for a minute, with its reaper about to drop the connection. -/
def unusedSystem : System where
  pool :=
    { availablePermits := defaultPool.maxActiveRequests, http2 := some 0, lastActivity := 1,
      opened := 1 }
  requests := ∅
  begun := 1
  gate := true
  reaper := .armed
  clock := 61

theorem reaches_unusedSystem : Reaches defaultPool Unarmed unusedSystem := by
  have started : Reaches defaultPool Unarmed (.new defaultPool 0) := .start 0
  -- a request opens the connection and ends
  have first := started.step (@Step.acquire defaultPool _ _ rfl) (unarmed_request _)
  have first := first.step (@Step.record defaultPool _ 0 rfl 1 (by decide)) (unarmed_request _)
  have first := first.step (@Step.queue defaultPool _ 0 rfl _ rfl) (unarmed_request _)
  have first := first.step (@Step.enter defaultPool _ 0 rfl rfl) (unarmed_request _)
  have first := first.step (@Step.connect defaultPool _ 0 rfl _ rfl) (unarmed_request _)
  have first := first.step (@Step.store defaultPool _ 0 rfl)
    fun _ _ _ armed => Reaper.noConfusion armed
  have first := first.step (@Step.leave defaultPool _ 0 _ rfl) (unarmed_request _)
  -- the reaper finds the pool unused
  have reaper := first.step (@Step.sweep defaultPool _ rfl 61 (by decide)) (unarmed_reap _)
  have reaper := reaper.step (@Step.observe defaultPool _ rfl 61 (by decide)) (unarmed_reap _)
  exact reaper.step (@Step.check defaultPool _ true rfl) (unarmed_reap _)

/-- A request that takes its permit after the reaper has counted them, but asks for a connection
only once the unused one has been dropped, is spared. -/
theorem reap_idle_spares_waiting : ∃ system next, Reaches defaultPool Unarmed system ∧
    system.requests.lookup 1 = some .permitted ∧ Step defaultPool system .reap next ∧
    system.pool.cancelled = [] ∧ next.pool.cancelled = [0] ∧ Spares system next := by
  have second := reaches_unusedSystem.step (@Step.acquire defaultPool _ _ rfl) (unarmed_request _)
  exact ⟨_, _, second, rfl, @Step.take defaultPool _ rfl, rfl, rfl,
    (reap_idle_spares defaultPool).1 _ _ second (@Step.take defaultPool _ rfl)⟩

/-- A request that begins after the reaper has counted the permits loses its connection. -/
theorem reap_idle_not_spares : ∃ system next, Reaches defaultPool Any system ∧
    Step defaultPool system .reap next ∧ ¬ Spares system next := by
  have armed : Reaches defaultPool Any unusedSystem :=
    reaches_unusedSystem.mono fun _ _ _ => trivial
  have second := armed.step (@Step.acquire defaultPool _ _ rfl) trivial
  have second := second.step (@Step.record defaultPool _ 1 rfl 61 (by decide)) trivial
  have second := second.step (@Step.share defaultPool _ 1 .recorded rfl (.inl rfl) 0 _ rfl) trivial
  refine ⟨_, _, second, @Step.take defaultPool _ rfl, fun spares => ?_⟩
  have before := spares 1 0 rfl List.mem_cons_self
  exact absurd before List.not_mem_nil

end EdgeGateway.HttpProxy.Http2
