import EdgeGateway.HttpProxy.Pool
import EdgeGateway.Library.Notification
import EdgeGateway.Library.SharedOwnership

/-!
# Connecting to upstreams

Requests look for an idle connection, wait for one that is given back or for a permit, and open
connections of their own.  A connection keeps a permit of its pool and one that all pools share for
as long as its driver, its sender or a request that uses it is left.
-/

namespace EdgeGateway.HttpProxy.Connecting

open Notification SharedOwnership

/-! ## What is held -/

/-- Requests in the order in which they look for connections. -/
abbrev RequestId := Nat

/-- The pools of a proxy: their upstreams, and how many connections they may open together. -/
structure Proxy (Pool : Type) where
  upstream : Pool → UpstreamConfig
  maxConnections : Nat

/-- The semaphores of the pools, and the one that all pools share. -/
inductive Capacity (Pool : Type)
  | connections (pool : Pool)
  | globalConnections
  | pending (pool : Pool)
  | connectGate (pool : Pool)
deriving DecidableEq

/-- The control of a connection, in the order in which its pool made it. -/
abbrev Control (Pool : Type) := Pool × ConnectionId

/-- What a request holds: the permit for a connection and then its control, its place among those
that may wait, its turn to connect, and its HTTP/1 connection. -/
inductive Seat
  | reserved
  | pending
  | gate
  | connection
deriving DecidableEq

/-- Where permits and controls are held: by requests, in the list of idle connections, in the slot
of the shared one, and by the drivers. -/
inductive Place (Pool : Type)
  | request (seat : Seat) (id : RequestId)
  | idle (pool : Pool)
  | shared (pool : Pool)
  | driver (pool : Pool) (connection : ConnectionId)
deriving DecidableEq

variable {Pool : Type}

/-- The permits of each semaphore. -/
def Proxy.limit (proxy : Proxy Pool) : Capacity Pool → Nat
  | .connections pool => (proxy.upstream pool).pool.maxConnections
  | .globalConnections => proxy.maxConnections
  | .pending pool => (proxy.upstream pool).pool.maxPendingRequests
  | .connectGate _ => 1

/-- What a control is made of: the permit of its pool and the one that all pools share. -/
def controls : Layout (Capacity Pool) (Control Pool) where
  contents control := [.permit (.connections control.1), .permit .globalConnections]
  depth _ := 0
  descends {value inner} made := by simp at made

/-- What a request needs a permit for. -/
inductive Goal
  | connectGate
  | connections (protocol : UpstreamProtocol)
  | globalConnections (protocol : UpstreamProtocol)

/-- The semaphore of a goal. -/
def Goal.capacity (pool : Pool) : Goal → Capacity Pool
  | connectGate => .connectGate pool
  | connections _ => .connections pool
  | globalConnections _ => .globalConnections

/-- Where the permit of a goal is held. -/
def Goal.seat : Goal → Seat
  | connectGate => .gate
  | connections _ | globalConnections _ => .reserved

/-- How far a request is with its connection. -/
inductive Stage (Pool : Type)
  | uncalled
  /-- It is about to try for a permit. -/
  | seeking (pool : Pool) (goal : Goal)
  /-- There was no permit. -/
  | declined (pool : Pool) (goal : Goal)
  /-- It waits for a permit. -/
  | queueing (pool : Pool) (goal : Goal)
  /-- It is about to register for the next idle HTTP/1 connection. -/
  | registering (pool : Pool)
  /-- It has registered, and is about to look. -/
  | looking (pool : Pool)
  /-- It waits for an idle connection or for a permit, whichever comes first. -/
  | parked (pool : Pool)
  /-- It has its turn to connect, and is about to look again for the shared connection. -/
  | gated (pool : Pool)
  | dialing (pool : Pool) (protocol : UpstreamProtocol) (connection : ConnectionId)
  /-- It has a connection, and may wait for it to be ready. -/
  | holding (pool : Pool) (protocol : UpstreamProtocol) (connection : ConnectionId)
      (waiting : Bool)
  /-- Its HTTP/1 connection has been upgraded. -/
  | tunnelling (pool : Pool) (connection : ConnectionId)
  | ended

/-- The pools of a proxy with their connections and the requests that use them.  While a
notification is owed, the list of idle connections is locked. -/
structure Upstreams (Pool : Type) where
  store : Store (Place Pool) (Capacity Pool) (Control Pool)
  pools : Pool → PoolState
  idleAvailable : Pool → Notify RequestId
  owed : Pool → Bool
  made : Pool → Nat
  stages : RequestId → Stage Pool

/-! ## Steps -/

/-- The connections that a change of a pool has dropped. -/
def dropped (before after : PoolState) : List ConnectionId :=
  after.cancelled.take (after.cancelled.length - before.cancelled.length)

namespace Upstreams

variable [DecidableEq Pool] (proxy : Proxy Pool) (upstreams : Upstreams Pool) (id : RequestId)

/-- Pools that nobody has used yet. -/
def initial (start : Nat) : Upstreams Pool where
  store := .initial proxy.limit
  pools pool := .new (proxy.upstream pool).pool start
  idleAvailable _ := .new
  owed _ := false
  made _ := 0
  stages _ := .uncalled

/-- A request goes on with other handles, at another stage. -/
def proceed (stage : Stage Pool) (store : Store (Place Pool) (Capacity Pool) (Control Pool)) :
    Upstreams Pool :=
  { upstreams with store, stages := Function.update upstreams.stages id stage }

section Proceed

variable (stage : Stage Pool) (store : Store (Place Pool) (Capacity Pool) (Control Pool))

omit [DecidableEq Pool]

@[simp] theorem store_proceed : (upstreams.proceed id stage store).store = store := rfl

@[simp] theorem pools_proceed :
    (upstreams.proceed id stage store).pools = upstreams.pools := rfl

@[simp] theorem made_proceed : (upstreams.proceed id stage store).made = upstreams.made := rfl

@[simp] theorem idleAvailable_proceed :
    (upstreams.proceed id stage store).idleAvailable = upstreams.idleAvailable := rfl

@[simp] theorem owed_proceed : (upstreams.proceed id stage store).owed = upstreams.owed := rfl

@[simp] theorem stages_proceed : (upstreams.proceed id stage store).stages =
    Function.update upstreams.stages id stage := rfl

end Proceed

/-- A pool changes, and drops the connections that it holds no more. -/
def change (pool : Pool) (place : Place Pool) (state : PoolState) : Upstreams Pool :=
  { upstreams with
    store := upstreams.store.discard controls place
      ((dropped (upstreams.pools pool) state).map fun connection => .pointer (pool, connection))
    pools := Function.update upstreams.pools pool state }

section Change

variable (pool : Pool) (place : Place Pool) (state : PoolState)

@[simp] theorem pools_change : (upstreams.change pool place state).pools =
    Function.update upstreams.pools pool state := rfl

@[simp] theorem made_change : (upstreams.change pool place state).made = upstreams.made := rfl

@[simp] theorem idleAvailable_change :
    (upstreams.change pool place state).idleAvailable = upstreams.idleAvailable := rfl

@[simp] theorem owed_change : (upstreams.change pool place state).owed = upstreams.owed := rfl

@[simp] theorem stages_change :
    (upstreams.change pool place state).stages = upstreams.stages := rfl

end Change

/-- Leave the queue for idle connections. -/
def forget (pool : Pool) : Upstreams Pool :=
  { upstreams with
    idleAvailable := Function.update upstreams.idleAvailable pool
      ((upstreams.idleAvailable pool).forget id) }

/-- Close a seat of a request. -/
def vacate (seat : Seat) : Store (Place Pool) (Capacity Pool) (Control Pool) :=
  upstreams.store.close controls (.request seat id)

/-- Cancel the HTTP/1 connection of a request, or leave the queue for one. -/
def letGo : Upstreams Pool :=
  match upstreams.stages id with
  | .holding pool .http1 connection _ | .tunnelling pool connection =>
      { upstreams with
        pools := Function.update upstreams.pools pool
          ((upstreams.pools pool).dropConnection connection) }
  | .parked pool => upstreams.forget id pool
  | _ => upstreams

/-- All that a request holds is dropped. -/
def leave : Upstreams Pool :=
  (upstreams.letGo id).proceed id .ended
    ((((upstreams.store.close controls (.request .reserved id)).close controls
      (.request .pending id)).close controls (.request .gate id)).close controls
        (.request .connection id))

/-- Take an idle connection, or go on without. -/
def takeIdle (pool : Pool) (now : Nat) (without : Stage Pool) : Upstreams Pool :=
  let taken := (upstreams.pools pool).takeIdleHttp1 (proxy.upstream pool).pool now
  let after := upstreams.change pool (.idle pool) taken.2
  match taken.1 with
  | none => after.proceed id without after.store
  | some connection =>
      after.proceed id (.holding pool .http1 connection false)
        (after.store.transfer (.idle pool) (.request .connection id)
          (.pointer (pool, connection)))

/-- Share the HTTP/2 connection, or go on without. -/
def share (pool : Pool) (without : Stage Pool) : Upstreams Pool :=
  let current := (upstreams.pools pool).currentHttp2
  let after := upstreams.change pool (.shared pool) current.2
  match current.1 with
  | none => after.proceed id without after.store
  | some connection =>
      after.proceed id (.holding pool .http2 connection false)
        ((after.vacate id .gate).share (.request .reserved id) (pool, connection))

/-- Look for a connection that is there already. -/
def acquire (pool : Pool) (now : Nat) : Option (Upstreams Pool) :=
  match upstreams.stages id, (proxy.upstream pool).protocol, upstreams.owed pool with
  | .uncalled, .http1, false =>
      some (upstreams.takeIdle proxy id pool now (.seeking pool (.connections .http1)))
  | .uncalled, .http2, _ => some (upstreams.share id pool (.seeking pool .connectGate))
  | _, _, _ => none

/-- A goal has been reached: the turn to connect, a permit of the pool, or the last permit that a
new connection needs. -/
def reached (pool : Pool) (store : Store (Place Pool) (Capacity Pool) (Control Pool)) :
    Goal → Upstreams Pool
  | .connectGate => upstreams.proceed id (.gated pool) store
  | .connections protocol =>
      upstreams.proceed id (.seeking pool (.globalConnections protocol)) store
  | .globalConnections protocol =>
      let connection := upstreams.made pool
      { upstreams.proceed id (.dialing pool protocol connection)
          (store.wrap (.request .reserved id) (pool, connection)) with
        made := Function.update upstreams.made pool (connection + 1) }

/-- Try for a permit. -/
def attempt : Option (Upstreams Pool) :=
  match upstreams.stages id with
  | .seeking pool goal =>
      match upstreams.store.tryAcquire (.request goal.seat id) (goal.capacity pool) with
      | none => some (upstreams.proceed id (.declined pool goal) upstreams.store)
      | some store => some (upstreams.reached id pool store goal)
  | _ => none

/-- Wait, if there is a place among those that may: for an idle HTTP/1 connection or a permit of
its pool, or for any other permit alone. -/
def enqueue : Option (Upstreams Pool) :=
  match upstreams.stages id with
  | .declined pool goal =>
      match upstreams.store.tryAcquire (.request .pending id) (.pending pool), goal with
      | none, _ => some (upstreams.leave id)
      | some store, .connections .http1 => some (upstreams.proceed id (.registering pool) store)
      | some store, goal => some (upstreams.proceed id (.queueing pool goal) store)
  | _ => none

/-- A permit has become free for a request that waits. -/
def grant : Option (Upstreams Pool) :=
  match upstreams.stages id with
  | .queueing pool goal =>
      (upstreams.store.tryAcquire (.request goal.seat id) (goal.capacity pool)).map fun store =>
        upstreams.reached id pool (store.close controls (.request .pending id)) goal
  | .parked pool =>
      (upstreams.store.tryAcquire (.request .reserved id) (.connections pool)).map fun store =>
        (upstreams.forget id pool).reached id pool (store.close controls (.request .pending id))
          (.connections .http1)
  | _ => none

/-- Register for the next idle connection. -/
def register : Option (Upstreams Pool) :=
  match upstreams.stages id with
  | .registering pool =>
      some { upstreams.proceed id (.looking pool) upstreams.store with
        idleAvailable := Function.update upstreams.idleAvailable pool
          ((upstreams.idleAvailable pool).enable id) }
  | _ => none

/-- Look for an idle connection after having registered, or for the shared one after having got
the turn to connect. -/
def look (now : Nat) : Option (Upstreams Pool) :=
  match upstreams.stages id with
  | .looking pool =>
      if upstreams.owed pool then none
      else
        let after := upstreams.takeIdle proxy id pool now (.parked pool)
        match ((upstreams.pools pool).takeIdleHttp1 (proxy.upstream pool).pool now).1 with
        | none => some after
        | some connection =>
            some ((after.forget id pool).proceed id (.holding pool .http1 connection false)
              (after.vacate id .pending))
  | .gated pool => some (upstreams.share id pool (.seeking pool (.connections .http2)))
  | _ => none

/-- A request that has been notified starts over. -/
def wake : Option (Upstreams Pool) :=
  match upstreams.stages id with
  | .parked pool =>
      if id ∈ (upstreams.idleAvailable pool).waiting then none
      else
        some { upstreams.proceed id (.registering pool) upstreams.store with
          idleAvailable := Function.update upstreams.idleAvailable pool
            ((upstreams.idleAvailable pool).consume id) }
  | _ => none

/-- A connection has been established: it gets its driver, and a new HTTP/2 connection is shared in
place of the one before. -/
def establish : Option (Upstreams Pool) :=
  match upstreams.stages id with
  | .dialing pool .http1 connection =>
      some (upstreams.proceed id (.holding pool .http1 connection false)
        ((upstreams.store.share (.driver pool connection) (pool, connection)).move
          (.request .reserved id) (.request .connection id)))
  | .dialing pool .http2 connection =>
      let driven := { upstreams with
        store := upstreams.store.share (.driver pool connection) (pool, connection) }
      let after := driven.change pool (.shared pool)
        ((upstreams.pools pool).storeHttp2 connection)
      some (after.proceed id (.holding pool .http2 connection false)
        ((after.vacate id .gate).share (.shared pool) (pool, connection)))
  | _ => none

/-- Wait until a connection is ready, if there is a place among those that may. -/
def awaitReady : Option (Upstreams Pool) :=
  match upstreams.stages id with
  | .holding pool protocol connection false =>
      match upstreams.store.tryAcquire (.request .pending id) (.pending pool) with
      | none => some (upstreams.leave id)
      | some store => some (upstreams.proceed id (.holding pool protocol connection true) store)
  | _ => none

/-- A connection is ready, or the response that an HTTP/2 request waits for has come. -/
def ready : Option (Upstreams Pool) :=
  match upstreams.stages id with
  | .holding pool protocol connection true =>
      some (upstreams.proceed id (.holding pool protocol connection false)
        (upstreams.vacate id .pending))
  | _ => none

/-- A request gives its HTTP/1 connection back; the pool keeps it and owes a notification, or drops
it. -/
def giveBack (now : Nat) : Option (Upstreams Pool) :=
  match upstreams.stages id with
  | .holding pool .http1 connection false =>
      let before := upstreams.pools pool
      let after := before.returnHttp1 (proxy.upstream pool).pool now connection
      let given := { upstreams with pools := Function.update upstreams.pools pool after }
      if before.idleHttp1.length < after.idleHttp1.length then
        if upstreams.owed pool then none
        else
          some { given.proceed id .ended
              (upstreams.store.transfer (.request .connection id) (.idle pool)
                (.pointer (pool, connection))) with
            owed := Function.update upstreams.owed pool true }
      else some (given.proceed id .ended (upstreams.vacate id .connection))
  | _ => none

/-- An HTTP/1 connection is upgraded. -/
def upgrade : Option (Upstreams Pool) :=
  match upstreams.stages id with
  | .holding pool .http1 connection false =>
      some (upstreams.proceed id (.tunnelling pool connection) upstreams.store)
  | _ => none

/-- A request ends, fails or is dropped; it cannot be between registering and looking. -/
def abandon : Option (Upstreams Pool) :=
  match upstreams.stages id with
  | .uncalled | .registering _ | .looking _ => none
  | _ => some (upstreams.leave id)

/-- The notification that a pool owes goes out, and its list is unlocked. -/
def notify (pool : Pool) : Option (Upstreams Pool) :=
  if upstreams.owed pool then
    some { upstreams with
      idleAvailable := Function.update upstreams.idleAvailable pool
        (upstreams.idleAvailable pool).notifyOne
      owed := Function.update upstreams.owed pool false }
  else none

end Upstreams

/-- What can happen next. -/
inductive Event (Pool : Type)
  | acquire (id : RequestId) (pool : Pool) (now : Nat)
  | attempt (id : RequestId)
  | enqueue (id : RequestId)
  | grant (id : RequestId)
  | register (id : RequestId)
  | look (id : RequestId) (now : Nat)
  | wake (id : RequestId)
  | establish (id : RequestId)
  | awaitReady (id : RequestId)
  | ready (id : RequestId)
  | giveBack (id : RequestId) (now : Nat)
  | upgrade (id : RequestId)
  | abandon (id : RequestId)
  | notify (pool : Pool)
  | reapHttp1 (pool : Pool) (now : Nat)
  | reapHttp2 (pool : Pool)
  /-- The sender of a connection finds it closed. -/
  | close (pool : Pool) (connection : ConnectionId)
  /-- A driver ends: its connection is closed or upgraded, or it has been cancelled. -/
  | drive (pool : Pool) (connection : ConnectionId)
  | shutdown (pool : Pool)

variable [DecidableEq Pool]

/-- One event, if it is possible. -/
def Proxy.step (proxy : Proxy Pool) (upstreams : Upstreams Pool) :
    Event Pool → Option (Upstreams Pool)
  | .acquire id pool now => upstreams.acquire proxy id pool now
  | .attempt id => upstreams.attempt id
  | .enqueue id => upstreams.enqueue id
  | .grant id => upstreams.grant id
  | .register id => upstreams.register id
  | .look id now => upstreams.look proxy id now
  | .wake id => upstreams.wake id
  | .establish id => upstreams.establish id
  | .awaitReady id => upstreams.awaitReady id
  | .ready id => upstreams.ready id
  | .giveBack id now => upstreams.giveBack proxy id now
  | .upgrade id => upstreams.upgrade id
  | .abandon id => upstreams.abandon id
  | .notify pool => upstreams.notify pool
  | .reapHttp1 pool now =>
      if upstreams.owed pool then none
      else
        some (upstreams.change pool (.idle pool)
          ((upstreams.pools pool).reapHttp1 (proxy.upstream pool).pool now))
  | .reapHttp2 pool =>
      some (upstreams.change pool (.shared pool) (upstreams.pools pool).takeHttp2)
  | .close pool connection =>
      let state := upstreams.pools pool
      some { upstreams with
        pools := Function.update upstreams.pools pool
          { state with closed := connection :: state.closed } }
  | .drive pool connection =>
      some { upstreams with store := upstreams.store.close controls (.driver pool connection) }
  | .shutdown pool =>
      some { upstreams with
        pools := Function.update upstreams.pools pool
          { upstreams.pools pool with shutdown := true } }

/-- The pools of a proxy after the events so far. -/
def Proxy.run (proxy : Proxy Pool) (start : Nat) (events : List (Event Pool)) :
    Option (Upstreams Pool) :=
  events.foldlM proxy.step (.initial proxy start)

end EdgeGateway.HttpProxy.Connecting
