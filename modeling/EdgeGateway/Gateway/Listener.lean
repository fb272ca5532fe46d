import EdgeGateway.Configuration.RouteTables
import EdgeGateway.Grpc.Proxy
import EdgeGateway.HttpProxy.Rewriting
import EdgeGateway.HttpProxy.Runtime

/-!
# The requests of a listener

A request passes the checks of the gateway before it is handed on: its host, its path, the policy
of the route it selects, the blocked clients, the limits of its headers and the capacity.  A check
that it does not pass answers it.
-/

namespace EdgeGateway.Gateway

open EdgeGateway.Configuration Grpc Http HttpProxy IpBlocking Results Routing Security

/-! ## The state -/

/-- What a listener decides by: its configuration, the pools of the proxy, the current snapshot of
the trusted network, the blocked clients and the free places for requests. -/
structure ServiceState (Connector : Type) where
  config : Config
  http : HttpProxyRuntime Connector
  cloudflare : CloudflareNetworks
  blocking : Runtime
  requestCapacity : Nat

/-- Why a request is turned away. -/
inductive AdmissionRejection
  | originPeer
  | requestCapacity
  | clientIdentity
  | authority
  | headers
deriving DecidableEq, Repr

/-- The answer of the gateway itself, with what it counts and what it records of the client. -/
structure Answer where
  response : Response
  rejection : Option AdmissionRejection := none
  violation : Option (ResolvedClientAddress × ViolationRule) := none

/-- A request on its way to what takes it. -/
structure HandOff where
  target : Target
  host : String
  request : Request
  address : ResolvedClientAddress

/-! ## Checks -/

/-- Turn a request away without counting it. -/
def plain (response : Response) : Answer :=
  { response }

/-- Turn a request away for a reason that is counted. -/
def rejected (reason : AdmissionRejection) (response : Response) : Answer :=
  { response, rejection := some reason }

/-- A request for the health of the gateway. -/
def isHealthRequest (request : Request) : Bool :=
  request.method == .get && isHealthPath request.uri.path

variable {Connector : Type}

/-- Only peers of the health networks learn the health of the gateway. -/
def ServiceState.healthAnswer (state : ServiceState Connector) (peer : SocketAddr) : Answer :=
  if state.config.clientAddress.permitsHealthPeer peer then plain (textResponse 200 "ok\n")
  else rejected .originPeer (textResponse 403 "forbidden\n")

/-- The answer to a blocked client. -/
def blockedAnswer (selected : Selected) (request : Request) : Answer :=
  if selected.grpc.isSome && request.version == .http2 then plain blockedGrpcResponse
  else plain (textResponse 403 "forbidden\n")

/-- The headers are within the limits. -/
def headersFit (server : FileServerConfig) (headers : HeaderMap) : Bool :=
  decide (headers.length ≤ server.maxHttpHeaderCount) &&
    decide (headerBytes headers ≤ server.maxHttpHeaderBytes)

/-- The answer to headers beyond the limits; it counts against clients of WebSocket and gRPC. -/
def oversizedAnswer (selected : Selected) (address : ResolvedClientAddress) : Answer where
  response := textResponse 431 "headers too large\n"
  rejection := some .headers
  violation :=
    if selected.websocket.isSome || selected.grpc.isSome then some (address, .sizeViolation)
    else none

/-- The path lies in a namespace whose scans are counted. -/
def isScanNamespace (blocking : IpBlockingConfig) (path : String) : Bool :=
  blocking.file.enabled &&
    blocking.file.scanNamespaces.any fun start =>
      path == start ||
        (stripText start.toList path.toList).any fun rest => rest.head? == some '/'

/-- The answer to a request that no route takes. -/
def notFoundAnswer (blocking : IpBlockingConfig) (path : String)
    (address : ResolvedClientAddress) : Answer where
  response := textResponse 404 "not found\n"
  violation := if isScanNamespace blocking path then some (address, .namespaceScan) else none

/-- A request that a gRPC route takes must be one of its protocol. -/
def checkGrpcRequest (selected : Selected) (request : Request)
    (address : ResolvedClientAddress) : Except Answer Unit :=
  match selected.grpc, rejectInvalidGrpcRequest request with
  | some _, some response => .error { response, violation := some (address, .invalidGrpc) }
  | _, _ => .ok ()

/-- The answer to a request beyond the capacity. -/
def capacityAnswer (config : Config) (host : String) (request : Request) : Answer :=
  if (config.grpcRoutes.resolve host request.uri.path).isSome && request.version == .http2 then
    rejected .requestCapacity (grpcFailureResponse resourceExhausted capacityReachedMessage)
  else
    rejected .requestCapacity (textResponse 503 "gateway capacity reached\n")

/-- Handle a request: answer it, or hand it on. -/
def handleRequest (state : ServiceState Connector) (peer : SocketAddr) (sni : Option String)
    (now : Nat) (request : Request) : Except Answer HandOff := do
  ensure (isHealthRequest request = false) (state.healthAnswer peer)
  let host ← (resolveRequestHost request).mapError fun _ =>
    rejected .authority (textResponse 400 "invalid authority\n")
  ensure (state.config.routing.permitsRequestHost host sni = true)
    (rejected .authority (textResponse 421 "misdirected request\n"))
  (validateHttpPath request.uri.path).mapError fun _ => plain (textResponse 400 "invalid path\n")
  -- The route is selected before the policy of its origin is applied.
  let selected := state.config.select host request.uri.path
  let address ← (resolveClientAddress state.cloudflare peer request.headers
      selected.security).mapError fun _ =>
    rejected .clientIdentity (textResponse 403 "forbidden\n")
  let blocking := state.config.clientAddress.ipBlocking
  ensure (isClientIpBlocked blocking state.blocking address now = false)
    (blockedAnswer selected request)
  ensure (headersFit state.config.server request.headers = true) (oversizedAnswer selected address)
  ensure (selected.isEmpty = false) (notFoundAnswer blocking request.uri.path address)
  checkGrpcRequest selected request address
  ensure (state.requestCapacity ≠ 0) (capacityAnswer state.config host request)
  let request :=
    { request with headers := sanitizeClientAddressHeaders request.headers address }
  match selected.target with
  | some target => return ⟨target, host, request, address⟩
  | none => throw (plain (textResponse 404 "not found\n"))

/-- The checks that a request has passed when it is handed on. -/
theorem handleRequest_eq_ok {state : ServiceState Connector} {peer : SocketAddr}
    {sni : Option String} {now : Nat} {request : Request} {handOff : HandOff}
    (handed : handleRequest state peer sni now request = .ok handOff) :
    resolveRequestHost request = .ok handOff.host ∧
      state.config.routing.permitsRequestHost handOff.host sni = true ∧
      (state.config.select handOff.host request.uri.path).target = some handOff.target ∧
      resolveClientAddress state.cloudflare peer request.headers
        (state.config.select handOff.host request.uri.path).security = .ok handOff.address ∧
      isClientIpBlocked state.config.clientAddress.ipBlocking state.blocking handOff.address now =
        false ∧
      headersFit state.config.server request.headers = true ∧
      validateHttpPath request.uri.path = .ok () := by
  simp only [handleRequest, bind_eq_ok, ensure_eq_ok, mapError_eq_ok, exists_const] at handed
  obtain ⟨_, host, resolved, permitted, _, valid, address, named, unblocked, fit, _, _, _, _,
    handed⟩ := handed
  split at handed
  · rename_i target chosen
    cases handed
    exact ⟨resolved, permitted, chosen, named, unblocked, fit, valid⟩
  · cases handed

/-- A request is handed on as it came, but for the identity of its client. -/
theorem request_of_handleRequest {state : ServiceState Connector} {peer : SocketAddr}
    {sni : Option String} {now : Nat} {request : Request} {handOff : HandOff}
    (handed : handleRequest state peer sni now request = .ok handOff) :
    handOff.request = { request with
      headers := sanitizeClientAddressHeaders request.headers handOff.address } := by
  simp only [handleRequest, bind_eq_ok, ensure_eq_ok, mapError_eq_ok, exists_const] at handed
  obtain ⟨_, _, _, _, _, _, address, _, _, _, _, _, _, _, handed⟩ := handed
  split at handed
  · cases handed
    rfl
  · cases handed

/-! ## What a request has passed -/

/-- The headers of an admitted request are within the configured limits. -/
theorem headers_of_headersFit {server : FileServerConfig}
    (accepted : server.validateCapacities = .ok ()) {headers : HeaderMap}
    (fit : headersFit server headers = true) :
    headers.length ≤ server.maxHttpHeaderCount ∧
      (headers.map headerCost).sum ≤ server.maxHttpHeaderBytes := by
  simp only [headersFit, Bool.and_eq_true, decide_eq_true_eq] at fit
  have small := FileServerConfig.maxHttpHeaderBytes_le accepted
  have total := fit.2
  rw [headerBytes_eq, Machine.wordSize] at total
  refine ⟨fit.1, ?_⟩
  omega

/-- A peer of whom the policy asks it belongs to the trusted network. -/
theorem trusted_of_resolveClientAddress {cloudflare : CloudflareNetworks} {peer : SocketAddr}
    {headers : HeaderMap} {security : RouteSecurity} {address : ResolvedClientAddress}
    (resolved : resolveClientAddress cloudflare peer headers security = .ok address)
    (demanded : security.cloudflareOnly = true) : cloudflare.contains peer.ip = true := by
  unfold resolveClientAddress at resolved
  split_ifs at resolved with trusted
  exact trusted

/-- The pools of a configuration, made in some order of its routes and hosts. -/
structure Started (roots : Roots Connector) (config : Config) (routes : List HttpRoute)
    (hosts : List String) (http : HttpProxyRuntime Connector) : Prop where
  visited_routes : routes.Perm config.httpRoutes.enabledRoutes
  visited_hosts : hosts.Perm ((config.fallback.map FallbackConfig.hosts).getD [])
  made : HttpProxyRuntime.new roots routes config.fallback hosts = .ok http

/-- The target of a request is the HTTP route that resolution finds. -/
theorem resolve_of_target_http {config : Config} {host path : String} {route : HttpRoute}
    (chosen : (config.select host path).target = some (.http route)) :
    config.httpRoutes.resolve host path = some route := by
  unfold Config.select at chosen
  cases websocket : config.routes.resolve host path with
  | some other => simp [Selected.target, websocket] at chosen
  | none =>
      cases grpc : config.grpcRoutes.resolve host path with
      | some other => simp [Selected.target, websocket, grpc] at chosen
      | none =>
          cases http : config.httpRoutes.resolve host path with
          | some found => simpa [Selected.target, websocket, grpc, http] using chosen
          | none => simp [Selected.target, websocket, grpc, http] at chosen

theorem fallback_of_target {config : Config} {host path : String} {fallback : FallbackConfig}
    (chosen : (config.select host path).target = some (.fallback fallback)) :
    config.fallback = some fallback ∧ host ∈ fallback.hosts := by
  unfold Config.select at chosen
  cases websocket : config.routes.resolve host path with
  | some other => simp [Selected.target, websocket] at chosen
  | none =>
      cases grpc : config.grpcRoutes.resolve host path with
      | some other => simp [Selected.target, websocket, grpc] at chosen
      | none =>
          cases http : config.httpRoutes.resolve host path with
          | some found => simp [Selected.target, websocket, grpc, http] at chosen
          | none =>
              simp only [Selected.target, websocket, grpc, http, Option.isNone_none, if_true,
                Bool.and_self, Option.map_eq_some_iff, Option.filter_eq_some_iff] at chosen
              obtain ⟨_, ⟨found, permitted⟩, same⟩ := chosen
              cases same
              exact ⟨found, List.contains_iff_mem.mp permitted⟩

/-- A request is handed on under the policy of the very route that takes it, from a client that is
not blocked, and its exchange starts with the pool that was made for that route or that host of the
fallback. -/
theorem handed_on_under_own_policy {environment : Environment} {file : FileConfig}
    {directory : List Char} {state : ServiceState Connector} {roots : Roots Connector}
    {routes : List HttpRoute} {hosts : List String} {peer : SocketAddr} {sni : Option String}
    {now : Nat} {request : Request} {handOff : HandOff}
    (accepted : file.validate environment directory = .ok state.config)
    (started : Started roots state.config routes hosts state.http)
    (handed : handleRequest state peer sni now request = .ok handOff) :
    resolveRequestHost request = .ok handOff.host ∧
      state.config.routing.permitsRequestHost handOff.host sni = true ∧
      (state.config.select handOff.host request.uri.path).target = some handOff.target ∧
      resolveClientAddress state.cloudflare peer request.headers handOff.target.security =
        .ok handOff.address ∧
      (handOff.target.security.cloudflareOnly = true →
        state.cloudflare.contains peer.ip = true) ∧
      isClientIpBlocked state.config.clientAddress.ipBlocking state.blocking handOff.address now =
        false ∧
      request.headers.length ≤ state.config.server.maxHttpHeaderCount ∧
      (request.headers.map headerCost).sum ≤ state.config.server.maxHttpHeaderBytes ∧
      (∀ route, handOff.target = .http route → ∃ call pool, routes[call]? = some route ∧
        UpstreamPool.new roots call route.upstream route.host = .ok pool ∧
        state.http.routes.lookup route.id = some pool ∧
        ∃ target, state.http.proxyRoute handOff.request route handOff.address =
          .ok ⟨handOff.request, pool, target, handOff.address⟩) ∧
      ∀ fallback, handOff.target = .fallback fallback →
        ∃ index pool, hosts[index]? = some handOff.host ∧
          UpstreamPool.new roots (routes.length + index) fallback.upstream handOff.host =
            .ok pool ∧
          state.http.fallback.lookup handOff.host = some pool ∧
          ∃ target, state.http.proxyFallback handOff.request handOff.host handOff.address =
            .ok ⟨handOff.request, pool, target, handOff.address⟩ := by
  obtain ⟨resolved, permitted, chosen, named, unblocked, fit, valid⟩ := handleRequest_eq_ok handed
  obtain ⟨tables, built, _, _, _, http_same, capacities⟩ := FileConfig.validate_eq_ok accepted
  obtain ⟨count, bytes⟩ := headers_of_headersFit capacities fit
  have own_uri : handOff.request.uri = request.uri := by rw [request_of_handleRequest handed]
  rw [Selected.security_of_target chosen] at named
  refine ⟨resolved, permitted, chosen, named, trusted_of_resolveClientAddress named, unblocked,
    count, bytes, ?_, ?_⟩
  · intro route taken
    rw [taken] at chosen
    have served := resolve_of_target_http chosen
    obtain ⟨key, found⟩ := HttpRouteTable.find_of_resolve served
    obtain ⟨_, _, _, _, _, _, http_built, _⟩ := FileConfig.buildTables_eq_ok built
    have visited : route ∈ routes :=
      started.visited_routes.mem_iff.mpr (HttpRouteTable.mem_enabledRoutes.mpr ⟨key, found⟩)
    obtain ⟨call, own, pool, listed, same_id, created, kept⟩ :=
      HttpProxyRuntime.exists_route_pool started.made visited
    -- The pool's route is in the table, and its id is that of the route that takes the request.
    have enabled : own ∈ state.config.httpRoutes.enabledRoutes :=
      started.visited_routes.mem_iff.mp (List.mem_of_getElem? listed)
    obtain ⟨own_key, own_found⟩ := HttpRouteTable.mem_enabledRoutes.mp enabled
    rw [http_same] at own_found found served
    have same : own = route := HttpRouteTable.eq_of_id http_built own_found found same_id
    subst same
    -- Every path that a route takes can be rewritten.
    obtain ⟨path, rewritten, _⟩ := HttpRouteTable.rewritePath_of_resolve http_built valid served
    rw [← own_uri] at valid rewritten
    exact ⟨call, pool, listed, created, kept, _,
      HttpProxyRuntime.proxyRoute_of_pool kept
        (HttpRoute.rewriteTarget_of_rewritePath valid rewritten)⟩
  · intro fallback taken
    rw [taken] at chosen
    obtain ⟨configured, member⟩ := fallback_of_target chosen
    have made := started.made
    have hosts_visited := started.visited_hosts
    rw [configured] at made hosts_visited
    have visited : handOff.host ∈ hosts := hosts_visited.mem_iff.mpr member
    obtain ⟨index, pool, listed, created, kept⟩ :=
      HttpProxyRuntime.exists_fallback_pool made visited
    rw [← own_uri] at valid
    exact ⟨index, pool, listed, created, kept, _,
      HttpProxyRuntime.proxyFallback_of_pool kept valid⟩

/-- A request for a page of the small configuration. -/
def sampleRequest : Request where
  method := .get
  uri := ⟨none, none, none, none, some ⟨"/index.html", none⟩⟩
  version := .http11
  headers := [(hostName, ⟨Utf8.encode "example.com".toList, by decide⟩)]

/-- The state of the small configuration, with the pools of its routes; it has no secure
upstream. -/
def sampleState (config : Config) (http : HttpProxyRuntime Unit) : ServiceState Unit where
  config
  http
  cloudflare := ⟨[]⟩
  blocking := .load ∅
  requestCapacity := config.server.maxActiveRequests

theorem handed_on_under_own_policy_sample :
    ∃ (config : Config) (http : HttpProxyRuntime Unit) (handOff : HandOff) (route : HttpRoute)
      (pool : UpstreamPool Unit),
      sampleFile.validate sampleEnvironment [] = .ok config ∧
      Started (fun _ _ _ => .ok ()) config config.httpRoutes.enabledRoutes ["www.example.com"]
        http ∧
      handleRequest (sampleState config http) directClient.peer (some "example.com") 0
        sampleRequest = .ok handOff ∧
      handOff.target = .http route ∧
      resolveClientAddress ⟨[]⟩ directClient.peer sampleRequest.headers route.security =
        .ok handOff.address ∧
      http.routes.lookup route.id = some pool ∧
      ∃ target, http.proxyRoute handOff.request route handOff.address =
        .ok ⟨handOff.request, pool, target, handOff.address⟩ := by
  have handled : ∃ handOff, (do
      let config ← (sampleFile.validate sampleEnvironment []).mapError fun _ => ()
      ensure ((config.fallback.map FallbackConfig.hosts).getD [] = ["www.example.com"]) ()
      let http ← (HttpProxyRuntime.new (fun _ _ _ => .ok ()) config.httpRoutes.enabledRoutes
        config.fallback ["www.example.com"]).mapError fun _ => ()
      let handOff ← (handleRequest (sampleState config http) directClient.peer
        (some "example.com") 0 sampleRequest).mapError fun _ => ()
      ensure (handOff.target ∈ config.httpRoutes.enabledRoutes.map Target.http) ()
      return handOff) = Except.ok handOff := exists_of_isOk (by decide +kernel)
  simp only [bind_eq_ok, mapError_eq_ok, ensure_eq_ok, exists_const] at handled
  obtain ⟨handOff, config, accepted, hosts, http, made, result, handed, served, same⟩ := handled
  cases same
  obtain ⟨route, _, taken⟩ := List.mem_map.mp served
  have started : Started (fun _ _ _ => .ok ()) config config.httpRoutes.enabledRoutes
      ["www.example.com"] http := ⟨List.Perm.refl _, hosts ▸ List.Perm.refl _, made⟩
  have accepted_state : sampleFile.validate sampleEnvironment [] =
      .ok (sampleState config http).config := accepted
  obtain ⟨_, _, _, named, _, _, _, _, pools, _⟩ :=
    handed_on_under_own_policy accepted_state started handed
  rw [← taken] at named
  obtain ⟨_, pool, _, _, kept, exchanged⟩ := pools route taken.symm
  exact ⟨config, http, handOff, route, pool, accepted, started, handed, taken.symm, named, kept,
    exchanged⟩

end EdgeGateway.Gateway
