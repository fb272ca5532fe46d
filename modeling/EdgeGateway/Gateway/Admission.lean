import EdgeGateway.Gateway.Listener
import EdgeGateway.Library.SharedOwnership
import EdgeGateway.Observability.Runtime

/-!
# Admission

The listener admits connections, handshakes, requests, streams and exchanges as long as there are
permits for them.  A permit is kept alive by leases: that of a connection by the task that serves it
and by the leases of its requests, that of a request by its handler, its response, its relay and
what has been passed on to an upstream.
-/

namespace EdgeGateway.Gateway

open EdgeGateway.Configuration Http HttpProxy IpBlocking Security SharedOwnership

/-! ## What is shared -/

/-- A request: its connection, and how many requests of that connection came before. -/
structure RequestId where
  connection : Nat
  ordinal : Nat
deriving DecidableEq, Repr

/-- The pools of the proxy: those of routes and those of hosts of the fallback. -/
inductive PoolKey
  | route (id : String)
  | fallback (host : String)
deriving DecidableEq, Repr

/-- The semaphores of the gateway. -/
inductive Capacity
  | transport
  | handshake
  | request
  | streams (backend : SocketAddr)
  | exchanges (pool : PoolKey)
deriving DecidableEq

/-- The shared values: the permit of a connection, and the leases of requests. -/
inductive Shared
  | transport (connection : Nat)
  | requestLease (id : RequestId)
  | streamLease (id : RequestId) (backend : SocketAddr)
  | exchangeLease (id : RequestId) (pool : PoolKey)
deriving DecidableEq

/-- The connection that a value belongs to. -/
def Shared.connection : Shared → Nat
  | transport connection => connection
  | requestLease id | streamLease id _ | exchangeLease id _ => id.connection

/-- The request that a value belongs to. -/
def Shared.request : Shared → Option RequestId
  | transport _ => none
  | requestLease id | streamLease id _ | exchangeLease id _ => some id

/-- What the shared values are made of, in the order of their fields. -/
def leases : Layout Capacity Shared where
  contents
    | .transport _ => [.permit .transport]
    | .requestLease id => [.permit .request, .pointer (.transport id.connection)]
    | .streamLease id backend => [.permit (.streams backend), .pointer (.requestLease id)]
    | .exchangeLease id pool => [.permit (.exchanges pool), .pointer (.requestLease id)]
  depth
    | .transport _ => 0
    | .requestLease _ => 1
    | .streamLease _ _ | .exchangeLease _ _ => 2
  descends {value inner} made := by cases value <;> simp_all

/-! ## Who holds it -/

/-- The parts of a request that go on by themselves: the relay of a WebSocket, the body that is
uploaded and the rest of what was sent to the upstream, the body that is downloaded or the tunnel,
and the body of the response. -/
inductive Part
  | relay
  | upload
  | sent
  | download
  | body
deriving DecidableEq, Repr

/-- The places that hold permits and leases: the loop of the listener, the tasks of connections,
the handlers of requests, the requests with their extensions, the runtimes that handle them, and
the parts that go on by themselves. -/
inductive Place
  | listener
  | connection (id : Nat)
  | handler (id : RequestId)
  | request (id : RequestId)
  | runtime (id : RequestId)
  | part (part : Part) (id : RequestId)
deriving DecidableEq

/-- The connection that a place belongs to. -/
def Place.connection? : Place → Option Nat
  | listener => none
  | connection id => some id
  | handler id | request id | runtime id | part _ id => some id.connection

/-- The request that a place belongs to. -/
def Place.request? : Place → Option RequestId
  | listener | connection _ => none
  | handler id | request id | runtime id | part _ id => some id

/-- How far the handler of a request is. -/
inductive Stage
  | uncalled
  | called
  | checked (handOff : HandOff)
  | awaiting (handOff : HandOff)
  | ended

/-- The permits of a listener with their leases, the connections and requests so far and how far
the handlers of the requests are. -/
structure Admissions where
  store : Store Place Capacity Shared
  accepted : Nat
  requestCounts : Nat → Nat
  stages : RequestId → Stage

/-- What a listener serves: its configuration and the pools of its proxy. -/
structure Served (Connector : Type) where
  config : Config
  http : HttpProxyRuntime Connector

variable {Connector : Type}

/-- The pool under a key. -/
def Served.pool (served : Served Connector) : PoolKey → Option (UpstreamPool Connector)
  | .route id => served.http.routes.lookup id
  | .fallback host => served.http.fallback.lookup host

/-- The permits of each semaphore. -/
def Served.limit (served : Served Connector) : Capacity → Nat
  | .transport => served.config.server.maxConnections
  | .handshake => served.config.server.maxConcurrentTlsHandshakes
  | .request => served.config.server.maxActiveRequests
  | .streams _ => served.config.server.maxGrpcConcurrentStreamsPerBackend
  | .exchanges pool => (served.pool pool).elim 0 fun pool => pool.config.pool.maxActiveRequests

/-! ## Steps -/

namespace Admissions

/-- A listener that has just been started. -/
def initial (served : Served Connector) : Admissions where
  store := .initial served.limit
  accepted := 0
  requestCounts _ := 0
  stages _ := .uncalled

/-- The handler of a request goes on with other handles, at another stage. -/
def proceed (admissions : Admissions) (id : RequestId) (stage : Stage)
    (store : Store Place Capacity Shared) : Admissions :=
  { admissions with store, stages := Function.update admissions.stages id stage }

/-- Accept a connection: it needs a permit of its own and one for its handshake. -/
def accept (admissions : Admissions) :
    Except Observability.AdmissionRejection Nat × Admissions :=
  match admissions.store.tryAcquire .listener .transport with
  | none => (.error .connectionCapacity, admissions)
  | some store =>
      let store := store.wrap .listener (.transport admissions.accepted)
      match store.tryAcquire .listener .handshake with
      | none =>
          (.error .handshakeCapacity, { admissions with store := store.close leases .listener })
      | some store =>
          (.ok admissions.accepted,
            { admissions with
              store := store.move .listener (.connection admissions.accepted)
              accepted := admissions.accepted + 1 })

/-- The handshake of a connection is over; only an established connection goes on. -/
def handshake (admissions : Admissions) (connection : Nat) (established : Bool) :
    Option Admissions :=
  if .permit .handshake ∈ admissions.store.handles (.connection connection) then
    if established then
      some { admissions with
        store := admissions.store.drop leases (.connection connection) (.permit .handshake) }
    else
      some { admissions with store := admissions.store.close leases (.connection connection) }
  else none

/-- A connection that has been established and is served. -/
def Serving (admissions : Admissions) (connection : Nat) : Prop :=
  admissions.store.handles (.connection connection) = [.pointer (.transport connection)]

instance (admissions : Admissions) (connection : Nat) :
    Decidable (admissions.Serving connection) :=
  inferInstanceAs (Decidable (_ = _))

/-- The task of a connection is over. -/
def leave (admissions : Admissions) (connection : Nat) : Option Admissions :=
  if admissions.Serving connection then
    some { admissions with store := admissions.store.close leases (.connection connection) }
  else none

/-- A connection calls its service with the next request. -/
def call (admissions : Admissions) (connection : Nat) : Option Admissions :=
  if admissions.Serving connection then
    let id : RequestId := ⟨connection, admissions.requestCounts connection⟩
    let store := admissions.store.share (.handler id) (.transport connection)
    some { admissions.proceed id .called store with
      requestCounts := Function.update admissions.requestCounts connection (id.ordinal + 1) }
  else none

/-- The checks of a request: it is answered, or it gets a permit and is handed on. -/
def check (admissions : Admissions) (id : RequestId) (handled : Except Answer HandOff) :
    Option Admissions :=
  match admissions.stages id, handled with
  | .called, .error _ =>
      some (admissions.proceed id .ended (admissions.store.close leases (.handler id)))
  | .called, .ok handOff =>
      (admissions.store.tryAcquire (.handler id) .request).map fun store =>
        admissions.proceed id (.checked handOff)
          ((store.wrap (.handler id) (.requestLease id)).share (.request id) (.requestLease id))
  | _, _ => none

/-- A handler answers: what is left of the request and of its runtime is dropped, and the lease
goes on with the body of the response. -/
def respond (store : Store Place Capacity Shared) (id : RequestId) :
    Store Place Capacity Shared :=
  ((store.close leases (.request id)).close leases (.runtime id)).move (.handler id)
    (.part .body id)

/-- Take a permit to a lease of a runtime. -/
def tryLease (store : Store Place Capacity Shared) (id : RequestId) (capacity : Capacity)
    (lease : Shared) : Option (Store Place Capacity Shared) :=
  (store.tryAcquire (.runtime id) capacity).map fun store =>
    (store.share (.runtime id) (.requestLease id)).wrap (.runtime id) lease

/-- A backend takes up a request if the checks before its permit pass; the extensions of the
request are cleared. -/
def takeUpStream (store : Store Place Capacity Shared) (id : RequestId) (backend : SocketAddr)
    (before : Bool) : Except (Store Place Capacity Shared) (Store Place Capacity Shared) :=
  if before then
    match tryLease store id (.streams backend) (.streamLease id backend) with
    | none => .error store
    | some store =>
        .ok ((store.close leases (.request id)).share (.part .upload id)
          (.streamLease id backend))
  else .error store

/-- A pool takes up a request if the checks before and after its permit pass; the request is sent
with its extensions. -/
def takeUpExchange (store : Store Place Capacity Shared) (id : RequestId) (pool : PoolKey)
    (before after : Bool) : Except (Store Place Capacity Shared) (Store Place Capacity Shared) :=
  if before then
    match tryLease store id (.exchanges pool) (.exchangeLease id pool) with
    | none => .error store
    | some store =>
        if after then
          .ok ((store.share (.part .upload id) (.exchangeLease id pool)).move (.request id)
            (.part .sent id))
        else .error store
  else .error store

/-- The runtime of a request takes it up, until it waits for its upstream. -/
def takeUp (store : Store Place Capacity Shared) (id : RequestId) (handOff : HandOff)
    (before after : Bool) : Except (Store Place Capacity Shared) (Store Place Capacity Shared) :=
  match handOff.target with
  | .websocket _ =>
      let store := store.share (.runtime id) (.requestLease id)
      if before then .ok store else .error store
  | .grpc route => takeUpStream store id route.backend.address before
  | .http route => takeUpExchange store id (.route route.id) before after
  | .fallback _ => takeUpExchange store id (.fallback handOff.host) before after

/-- A checked request enters its runtime, or is answered there. -/
def enter (admissions : Admissions) (id : RequestId) (before after : Bool) : Option Admissions :=
  match admissions.stages id with
  | .checked handOff =>
      match takeUp admissions.store id handOff before after with
      | .ok store => some (admissions.proceed id (.awaiting handOff) store)
      | .error store => some (admissions.proceed id .ended (respond store id))
  | _ => none

/-- What comes of the answer of an upstream: a WebSocket gets a relay, a body is downloaded. -/
def passOn (store : Store Place Capacity Shared) (id : RequestId) :
    Target → Store Place Capacity Shared
  | .websocket _ => respond (store.share (.part .relay id) (.requestLease id)) id
  | .grpc _ | .http _ | .fallback _ =>
      (store.move (.runtime id) (.part .download id)).move (.handler id) (.part .body id)

/-- The upstream of a request has answered, or will not. -/
def answer (admissions : Admissions) (id : RequestId) (success : Bool) : Option Admissions :=
  match admissions.stages id with
  | .awaiting handOff =>
      some (admissions.proceed id .ended
        (if success then passOn admissions.store id handOff.target
          else respond admissions.store id))
  | _ => none

/-- The handler of a request is dropped, with all that it has not passed on. -/
def abandon (admissions : Admissions) (id : RequestId) : Option Admissions :=
  match admissions.stages id with
  | .uncalled => none
  | _ =>
      some (admissions.proceed id .ended
        (((admissions.store.close leases (.request id)).close leases (.runtime id)).close leases
          (.handler id)))

/-- A part that goes on by itself ends, or is dropped. -/
def finish (admissions : Admissions) (id : RequestId) (part : Part) : Admissions :=
  { admissions with store := admissions.store.close leases (.part part id) }

end Admissions

/-- What can happen next at a listener. -/
inductive AdmissionEvent
  | accept
  | handshake (connection : Nat) (established : Bool)
  | leave (connection : Nat)
  | call (connection : Nat)
  | check (id : RequestId) (cloudflare : CloudflareNetworks) (blocking : Runtime)
      (peer : SocketAddr) (sni : Option String) (now : Nat) (request : Request)
  | enter (id : RequestId) (before after : Bool)
  | answer (id : RequestId) (success : Bool)
  | abandon (id : RequestId)
  | finish (id : RequestId) (part : Part)

/-- One event, if it is possible. -/
def Served.step (served : Served Connector) (admissions : Admissions) :
    AdmissionEvent → Option Admissions
  | .accept => some admissions.accept.2
  | .handshake connection established => admissions.handshake connection established
  | .leave connection => admissions.leave connection
  | .call connection => admissions.call connection
  | .check id cloudflare blocking peer sni now request =>
      let state : ServiceState Connector :=
        ⟨served.config, served.http, cloudflare, blocking,
          admissions.store.heap.available .request⟩
      admissions.check id (handleRequest state peer sni now request)
  | .enter id before after => admissions.enter id before after
  | .answer id success => admissions.answer id success
  | .abandon id => admissions.abandon id
  | .finish id part => some (admissions.finish id part)

/-- A listener after the events so far. -/
def Served.run (served : Served Connector) (events : List AdmissionEvent) : Option Admissions :=
  events.foldlM served.step (.initial served)

end EdgeGateway.Gateway
