import EdgeGateway.Configuration.Sections
import EdgeGateway.HttpProxy.Routes

/-!
# The pools of the HTTP proxy

Every enabled route has a pool of connections under its id, and every host of the fallback one
under its name.  The tables are iterated in an order of their own, which is a parameter; what the
secure transport makes of its trusted roots is one too, and may differ from call to call.
-/

namespace EdgeGateway.HttpProxy

open EdgeGateway.Configuration Http Results Security

/-! ## Pools -/

/-- What connects to a secure upstream, made from its trusted roots for one of its protocols. -/
abbrev Roots (Connector : Type) :=
  Nat → Option String → UpstreamProtocol → Except String Connector

/-- The pool of one upstream, with the name that the upstream has to prove. -/
structure UpstreamPool (Connector : Type) where
  config : UpstreamConfig
  tlsName : Option String
  connector : Option Connector

variable {Connector : Type}

/-- Make the pool of an upstream for a host. -/
def UpstreamPool.new (roots : Roots Connector) (call : Nat) (config : UpstreamConfig)
    (host : String) : Except String (UpstreamPool Connector) := do
  let tlsName :=
    match config.tlsServerName with
    | .requestHost => host
    | .literal name => name
  if config.tls then
    let connector ← roots call config.caFile config.protocol
    return ⟨config, some tlsName, some connector⟩
  else
    return ⟨config, none, none⟩

/-- What a pool is made for: the key it is kept under, its upstream and its host. -/
structure PoolEntry where
  key : String
  upstream : UpstreamConfig
  host : String

/-- Make the pools of some entries, counting the calls. -/
def buildPools (roots : Roots Connector) (entries : List PoolEntry) (calls : Nat) :
    Except String (Table String (UpstreamPool Connector)) :=
  (entries.zipIdx calls).foldlM
    (fun pools (entry, call) => do
      let pool ← UpstreamPool.new roots call entry.upstream entry.host
      return pools.insert entry.key pool)
    ∅

/-- Every pool was made for an entry with its key. -/
theorem buildPools_origin {roots : Roots Connector} {entries : List PoolEntry} {calls : Nat}
    {pools : Table String (UpstreamPool Connector)}
    (built : buildPools roots entries calls = .ok pools) {key : String}
    {pool : UpstreamPool Connector} (found : pools.lookup key = some pool) :
    ∃ index entry, entries[index]? = some entry ∧ entry.key = key ∧
      UpstreamPool.new roots (calls + index) entry.upstream entry.host = .ok pool := by
  revert key pool
  refine foldlM_preserves_mem
    (fun pools => ∀ {key pool}, pools.lookup key = some pool →
      ∃ index entry, entries[index]? = some entry ∧ entry.key = key ∧
        UpstreamPool.new roots (calls + index) entry.upstream entry.host = .ok pool)
    ?_ ?_ built
  · rintro before ⟨entry, call⟩ next member origin stepped key pool found
    obtain ⟨made, created, stored⟩ := bind_eq_ok.mp stepped
    cases stored
    by_cases same : key = entry.key
    · subst same
      rw [AList.lookup_insert] at found
      cases found
      obtain ⟨later, at_index⟩ := List.mem_zipIdx_iff_le_and_getElem?_sub.mp member
      refine ⟨call - calls, entry, at_index, rfl, ?_⟩
      rw [Nat.add_sub_of_le later]
      exact created
    · rw [AList.lookup_insert_ne same] at found
      exact origin found
  · intro key pool found
    cases found

/-- Every entry has a pool under its key. -/
theorem buildPools_complete {roots : Roots Connector} {entries : List PoolEntry} {calls : Nat}
    {pools : Table String (UpstreamPool Connector)}
    (built : buildPools roots entries calls = .ok pools) {entry : PoolEntry}
    (member : entry ∈ entries) : ∃ pool, pools.lookup entry.key = some pool := by
  obtain ⟨index, listed⟩ := List.getElem?_of_mem member
  have visited : (entry, calls + index) ∈ entries.zipIdx calls :=
    List.mem_zipIdx_iff_le_and_getElem?_sub.mpr
      ⟨Nat.le_add_right _ _, by rw [Nat.add_sub_cancel_left]; exact listed⟩
  have present := foldlM_establishes (fun _ => True)
    (fun item pools => item.1.key ∈ pools) ?_ trivial built _ visited
  · exact Table.mem_iff_lookup.mp present
  · rintro before ⟨entry, call⟩ next _ stepped
    obtain ⟨made, _, stored⟩ := bind_eq_ok.mp stepped
    cases stored
    refine ⟨trivial, (AList.mem_insert _).mpr (.inl rfl), ?_⟩
    intro other known
    exact (AList.mem_insert _).mpr (.inr known)

/-! ## The runtime -/

/-- The pools of the routes and of the hosts of the fallback. -/
structure HttpProxyRuntime (Connector : Type) where
  routes : Table String (UpstreamPool Connector)
  fallback : Table String (UpstreamPool Connector)

/-- What the pool of a route is made for. -/
def HttpRoute.poolEntry (route : HttpRoute) : PoolEntry :=
  ⟨route.id, route.upstream, route.host⟩

/-- Make the pools of the routes and of the hosts of the fallback, in the given orders. -/
def HttpProxyRuntime.new (roots : Roots Connector) (routes : List HttpRoute)
    (fallback : Option FallbackConfig) (hosts : List String) :
    Except String (HttpProxyRuntime Connector) := do
  let routePools ← buildPools roots (routes.map HttpRoute.poolEntry) 0
  match fallback with
  | none => return ⟨routePools, ∅⟩
  | some fallback =>
      let fallbackPools ←
        buildPools roots (hosts.map fun host => ⟨host, fallback.upstream, host⟩) routes.length
      return ⟨routePools, fallbackPools⟩

/-- What the proxy is asked for: a request, the pool that takes it and the target to ask for. -/
structure Exchange (Connector : Type) where
  request : Request
  pool : UpstreamPool Connector
  target : String
  address : ResolvedClientAddress

/-- Start the exchange of a request that a route takes. -/
def HttpProxyRuntime.proxyRoute (runtime : HttpProxyRuntime Connector) (request : Request)
    (route : HttpRoute) (address : ResolvedClientAddress) :
    Except Response (Exchange Connector) := do
  let target ← (route.rewriteTarget request.uri).mapError fun _ =>
    textResponse 400 "invalid path\n"
  match runtime.routes.lookup route.id with
  | some pool => return ⟨request, pool, target, address⟩
  | none => throw (textResponse 503 "upstream unavailable\n")

/-- Start the exchange of a request that the fallback takes. -/
def HttpProxyRuntime.proxyFallback (runtime : HttpProxyRuntime Connector) (request : Request)
    (host : String) (address : ResolvedClientAddress) : Except Response (Exchange Connector) := do
  (validateHttpPath request.uri.path).mapError fun _ => textResponse 400 "invalid path\n"
  match runtime.fallback.lookup host with
  | some pool => return ⟨request, pool, request.uri.target, address⟩
  | none => throw (textResponse 404 "not found\n")

/-- The exchange of a request that a route takes goes to the pool of the route. -/
theorem HttpProxyRuntime.proxyRoute_of_pool {runtime : HttpProxyRuntime Connector}
    {request : Request} {route : HttpRoute} {address : ResolvedClientAddress}
    {pool : UpstreamPool Connector} {target : String}
    (found : runtime.routes.lookup route.id = some pool)
    (rewritten : route.rewriteTarget request.uri = .ok target) :
    runtime.proxyRoute request route address = .ok ⟨request, pool, target, address⟩ := by
  rw [proxyRoute, rewritten, found]
  rfl

/-- The exchange of a request that the fallback takes goes to the pool of its host. -/
theorem HttpProxyRuntime.proxyFallback_of_pool {runtime : HttpProxyRuntime Connector}
    {request : Request} {host : String} {address : ResolvedClientAddress}
    {pool : UpstreamPool Connector} (found : runtime.fallback.lookup host = some pool)
    (accepted : validateHttpPath request.uri.path = .ok ()) :
    runtime.proxyFallback request host address =
      .ok ⟨request, pool, request.uri.target, address⟩ := by
  rw [proxyFallback, accepted, found]
  rfl

/-- The routes' pools are those that were made for them. -/
theorem HttpProxyRuntime.routes_of_new {roots : Roots Connector} {routes : List HttpRoute}
    {fallback : Option FallbackConfig} {hosts : List String}
    {runtime : HttpProxyRuntime Connector} (made : new roots routes fallback hosts = .ok runtime) :
    buildPools roots (routes.map HttpRoute.poolEntry) 0 = .ok runtime.routes := by
  obtain ⟨pools, built, rest⟩ := bind_eq_ok.mp made
  cases fallback with
  | none =>
      cases rest
      exact built
  | some fallback =>
      obtain ⟨_, _, rest⟩ := bind_eq_ok.mp rest
      cases rest
      exact built

/-- A visited route has a pool, which was made for a visited route with its id. -/
theorem HttpProxyRuntime.exists_route_pool {roots : Roots Connector} {routes : List HttpRoute}
    {fallback : Option FallbackConfig} {hosts : List String}
    {runtime : HttpProxyRuntime Connector} (made : new roots routes fallback hosts = .ok runtime)
    {route : HttpRoute} (visited : route ∈ routes) :
    ∃ call own pool, routes[call]? = some own ∧ own.id = route.id ∧
      UpstreamPool.new roots call own.upstream own.host = .ok pool ∧
      runtime.routes.lookup route.id = some pool := by
  have built := routes_of_new made
  have entered : route.poolEntry ∈ routes.map HttpRoute.poolEntry :=
    List.mem_map.mpr ⟨route, visited, rfl⟩
  obtain ⟨pool, found⟩ := buildPools_complete built entered
  obtain ⟨index, entry, listed, key, created⟩ := buildPools_origin built found
  rw [List.getElem?_map, Option.map_eq_some_iff] at listed
  obtain ⟨own, at_index, rfl⟩ := listed
  rw [Nat.zero_add] at created
  exact ⟨index, own, pool, at_index, key, created, found⟩

/-- A visited host of the fallback has a pool, which was made for it. -/
theorem HttpProxyRuntime.exists_fallback_pool {roots : Roots Connector} {routes : List HttpRoute}
    {fallback : FallbackConfig} {hosts : List String} {runtime : HttpProxyRuntime Connector}
    (made : new roots routes (some fallback) hosts = .ok runtime) {host : String}
    (visited : host ∈ hosts) :
    ∃ index pool, hosts[index]? = some host ∧
      UpstreamPool.new roots (routes.length + index) fallback.upstream host = .ok pool ∧
      runtime.fallback.lookup host = some pool := by
  obtain ⟨_, _, rest⟩ := bind_eq_ok.mp made
  obtain ⟨pools, built, rest⟩ := bind_eq_ok.mp rest
  cases rest
  have entered : (⟨host, fallback.upstream, host⟩ : PoolEntry) ∈
      hosts.map fun host => ⟨host, fallback.upstream, host⟩ :=
    List.mem_map.mpr ⟨host, visited, rfl⟩
  obtain ⟨pool, found⟩ := buildPools_complete built entered
  obtain ⟨index, entry, listed, key, created⟩ := buildPools_origin built found
  rw [List.getElem?_map, Option.map_eq_some_iff] at listed
  obtain ⟨own, at_index, rfl⟩ := listed
  cases key
  exact ⟨index, pool, at_index, created, found⟩

end EdgeGateway.HttpProxy
