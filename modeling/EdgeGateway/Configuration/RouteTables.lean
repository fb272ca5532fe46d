import EdgeGateway.Configuration.FileConfig

/-!
# The route tables of an accepted configuration

No two tables have an exact route for one pair of a host and a path, and every enabled route is
selected for its own pair.
-/

namespace EdgeGateway.Configuration

open Grpc Http HttpProxy IpBlocking Results Routes Routing Security

variable {environment : Environment} {file : FileConfig} {directory : List Char}

/-! ## Selection -/

/-- The routes that are looked up for one request; a later table is asked only when the earlier
ones have no route. -/
structure Selected where
  websocket : Option Route
  grpc : Option GrpcRoute
  http : Option HttpRoute
  fallback : Option FallbackConfig

/-- Look up the routes for a host and a path. -/
def Config.select (config : Config) (host path : String) : Selected :=
  let websocket := config.routes.resolve host path
  let grpc := if websocket.isNone then config.grpcRoutes.resolve host path else none
  let http :=
    if websocket.isNone && grpc.isNone then config.httpRoutes.resolve host path else none
  ⟨websocket, grpc, http, config.fallback.filter fun fallback => fallback.permitsHost host⟩

/-- What a request is handed to. -/
inductive Target
  | websocket (route : Route)
  | grpc (route : GrpcRoute)
  | http (route : HttpRoute)
  | fallback (fallback : FallbackConfig)
deriving DecidableEq

/-- The policy of what a request is handed to. -/
def Target.security : Target → RouteSecurity
  | .websocket route => route.security
  | .grpc route => route.security
  | .http route => route.security
  | .fallback config => config.security

/-- The policy that a request has to meet; without a route it is the default one. -/
def Selected.security (selected : Selected) : RouteSecurity :=
  if let some route := selected.websocket then route.security
  else if let some route := selected.grpc then route.security
  else if let some route := selected.http then route.security
  else if let some fallback := selected.fallback then fallback.security
  else ⟨false⟩

/-- No route takes the request. -/
def Selected.isEmpty (selected : Selected) : Bool :=
  selected.websocket.isNone && selected.grpc.isNone && selected.http.isNone &&
    selected.fallback.isNone

/-- What a request is handed to, of the routes that are looked up for it. -/
def Selected.target (selected : Selected) : Option Target :=
  if let some route := selected.websocket then some (.websocket route)
  else if let some route := selected.grpc then some (.grpc route)
  else if let some route := selected.http then some (.http route)
  else selected.fallback.map .fallback

/-- The choice of the policy and the choice of what takes a request agree. -/
theorem Selected.security_of_target {selected : Selected} {target : Target}
    (chosen : selected.target = some target) : selected.security = target.security := by
  obtain ⟨websocket, grpc, http, fallback⟩ := selected
  cases websocket with
  | some route =>
      cases chosen
      rfl
  | none =>
      cases grpc with
      | some route =>
          cases chosen
          rfl
      | none =>
          cases http with
          | some route =>
              cases chosen
              rfl
          | none =>
              cases fallback with
              | some fallback =>
                  cases chosen
                  rfl
              | none => cases chosen

/-! ## What the loops over the routes establish -/

theorem Taken.paths_subset_put (taken : Taken) (host path : String) (enabled : Bool) :
    taken.paths ⊆ (taken.put host path enabled).paths :=
  List.subset_cons_self _ _

theorem Taken.hosts_subset_put (taken : Taken) (host path : String) (enabled : Bool) :
    taken.hosts ⊆ (taken.put host path enabled).hosts := by
  cases enabled with
  | true => exact List.subset_cons_self _ _
  | false => exact List.Subset.refl _

/-- The pair of a host and a path is taken, and the host is served if the route is enabled. -/
def Taken.Has (taken : Taken) (host path : String) (enabled : Bool) : Prop :=
  (host, path) ∈ taken.paths ∧ (enabled = true → host ∈ taken.hosts)

theorem Taken.Has.mono {taken later : Taken} {host path : String} {enabled : Bool}
    (has : taken.Has host path enabled) (paths : taken.paths ⊆ later.paths)
    (hosts : taken.hosts ⊆ later.hosts) : later.Has host path enabled :=
  ⟨paths has.1, fun on => hosts (has.2 on)⟩

theorem Taken.has_put (taken : Taken) (host path : String) (enabled : Bool) :
    (taken.put host path enabled).Has host path enabled := by
  refine ⟨List.mem_cons_self, ?_⟩
  rintro rfl
  exact List.mem_cons_self

/-- What the first loop establishes for a WebSocket route. -/
def WebsocketTaken (spec : RouteSpec) (taken : Taken) : Prop :=
  validateHttpPath spec.path = .ok () ∧ isHealthPath spec.path = false ∧
    ∃ host, normalizeDnsHost spec.host = .ok host ∧ taken.Has host spec.path spec.enabled

theorem takeWebsocketPath_eq_ok {taken next : Taken} {spec : RouteSpec}
    (done : takeWebsocketPath taken spec = .ok next) :
    validateHttpPath spec.path = .ok () ∧ isHealthPath spec.path = false ∧
      ∃ host, normalizeDnsHost spec.host = .ok host ∧
        next = taken.put host spec.path spec.enabled := by
  simp only [takeWebsocketPath, bind_eq_ok, ensure_eq_ok, mapError_eq_ok, exists_const] at done
  obtain ⟨plain, _, admitted, host, normalized, done⟩ := done
  cases done
  exact ⟨admitted, plain, host, normalized, rfl⟩

theorem websocketTaken_of_loop {specs : List RouteSpec} {start result : Taken}
    (done : specs.foldlM takeWebsocketPath start = .ok result) :
    ∀ spec ∈ specs, WebsocketTaken spec result := by
  refine foldlM_establishes (fun _ => True) WebsocketTaken ?_ trivial done
  intro taken spec next _ stepped
  obtain ⟨admitted, plain, host, normalized, rfl⟩ := takeWebsocketPath_eq_ok stepped
  refine ⟨trivial, ⟨admitted, plain, host, normalized, taken.has_put _ _ _⟩, ?_⟩
  rintro other ⟨other_admitted, other_plain, other_host, other_normalized, has⟩
  exact ⟨other_admitted, other_plain, other_host, other_normalized,
    has.mono (taken.paths_subset_put _ _ _) (taken.hosts_subset_put _ _ _)⟩

/-- What the second loop establishes for a gRPC route: its pair was free before. -/
def GrpcTaken (before : Taken) (spec : GrpcRouteSpec) (taken : Taken) : Prop :=
  ∃ host, normalizeDnsHost spec.host = .ok host ∧ (host, spec.path) ∉ before.paths ∧
    taken.Has host spec.path spec.enabled

theorem takeGrpcPath_eq_ok {taken next : Taken} {spec : GrpcRouteSpec}
    (done : takeGrpcPath taken spec = .ok next) :
    ∃ host, normalizeDnsHost spec.host = .ok host ∧ (host, spec.path) ∉ taken.paths ∧
      next = taken.put host spec.path spec.enabled := by
  simp only [takeGrpcPath, bind_eq_ok, ensure_eq_ok, mapError_eq_ok, exists_const] at done
  obtain ⟨host, normalized, free, done⟩ := done
  cases done
  exact ⟨host, normalized, free, rfl⟩

/-- A state of the second loop has everything of the first. -/
def Taken.Extends (later before : Taken) : Prop :=
  before.paths ⊆ later.paths ∧ before.hosts ⊆ later.hosts

theorem extends_of_loop {specs : List GrpcRouteSpec} {start result : Taken}
    (done : specs.foldlM takeGrpcPath start = .ok result) : result.Extends start := by
  refine foldlM_preserves (fun taken => taken.Extends start) ?_
    ⟨List.Subset.refl _, List.Subset.refl _⟩ done
  intro taken spec next extended stepped
  obtain ⟨host, _, _, rfl⟩ := takeGrpcPath_eq_ok stepped
  exact ⟨List.Subset.trans extended.1 (taken.paths_subset_put _ _ _),
    List.Subset.trans extended.2 (taken.hosts_subset_put _ _ _)⟩

theorem grpcTaken_of_loop {specs : List GrpcRouteSpec} {start result : Taken}
    (done : specs.foldlM takeGrpcPath start = .ok result) :
    ∀ spec ∈ specs, GrpcTaken start spec result := by
  refine foldlM_establishes (fun taken => taken.Extends start) (GrpcTaken start) ?_
    ⟨List.Subset.refl _, List.Subset.refl _⟩ done
  intro taken spec next extended stepped
  obtain ⟨host, normalized, free, rfl⟩ := takeGrpcPath_eq_ok stepped
  refine ⟨?_, ⟨host, normalized, fun member => free (extended.1 member), taken.has_put _ _ _⟩, ?_⟩
  · exact ⟨List.Subset.trans extended.1 (taken.paths_subset_put _ _ _),
      List.Subset.trans extended.2 (taken.hosts_subset_put _ _ _)⟩
  · rintro other ⟨other_host, other_normalized, other_free, has⟩
    exact ⟨other_host, other_normalized, other_free,
      has.mono (taken.paths_subset_put _ _ _) (taken.hosts_subset_put _ _ _)⟩

/-! ## What an accepted configuration is made of -/

/-- The steps that an accepted configuration has passed. -/
theorem FileConfig.validate_eq_ok {config : Config}
    (accepted : file.validate environment directory = .ok config) :
    ∃ tables, file.buildTables environment directory = .ok tables ∧
      file.buildRouting tables config.fallback = .ok config.routing ∧
      config.routes = tables.routes ∧ config.grpcRoutes = tables.grpcRoutes ∧
      config.httpRoutes = tables.httpRoutes ∧ config.server.validateCapacities = .ok () := by
  simp only [validate, bind_eq_ok] at accepted
  obtain ⟨_, _, _, _, _, _, _, capacities, _, _, _, _, _, _, _, _, tables, built, routing, bound, _,
    _, made⟩ := accepted
  cases made
  exact ⟨tables, built, bound, rfl, rfl, rfl, capacities⟩

/-- The limit of the headers is far below the largest word. -/
theorem FileServerConfig.maxHttpHeaderBytes_le {server : FileServerConfig}
    (accepted : server.validateCapacities = .ok ()) : server.maxHttpHeaderBytes ≤ 1048576 := by
  simp only [validateCapacities, validateCount, validateBound, bind_eq_ok, ensure_eq_ok,
    exists_const] at accepted
  exact accepted.2.2.2.2.1.2

theorem FileConfig.buildTables_eq_ok {tables : RouteTables}
    (built : file.buildTables environment directory = .ok tables) :
    ∃ before taken, file.routes.foldlM takeWebsocketPath {} = .ok before ∧
      RouteTable.build environment.parseUri file.routes = .ok tables.routes ∧
      file.grpcRoutes.foldlM takeGrpcPath before = .ok taken ∧
      GrpcRouteTable.build environment.parseUri file.grpcRoutes = .ok tables.grpcRoutes ∧
      HttpRouteTable.build environment.parseUri file.httpRoutes directory taken.paths =
        .ok tables.httpRoutes ∧
      tables.hosts = taken.hosts ++ tables.httpRoutes.hosts := by
  simp only [buildTables, bind_eq_ok, mapError_eq_ok] at built
  obtain ⟨before, first, routes, routes_built, taken, second, grpc, grpc_built, http, http_built,
    made⟩ := built
  cases made
  exact ⟨before, taken, first, routes_built, second, grpc_built, http_built, rfl⟩

theorem FileConfig.hosts_of_buildRouting {tables : RouteTables} {fallback : Option FallbackConfig}
    {routing : RoutingPolicy} (built : file.buildRouting tables fallback = .ok routing) :
    routing.hosts = tables.hosts ++ (fallback.map FallbackConfig.hosts).getD [] :=
  RoutingPolicy.hosts_of_build (mapError_eq_ok.mp built)

/-- What the tables of an accepted configuration have, and the pairs that were taken while they
were built: before the gRPC routes, and after them. -/
structure Assembled (environment : Environment) (file : FileConfig) (directory : List Char)
    (config : Config) (before taken : Taken) : Prop where
  websocket : (websocketKind environment.parseUri).Resolves file.routes config.routes
  grpc : (grpcKind environment.parseUri).Resolves file.grpcRoutes config.grpcRoutes
  http : config.httpRoutes.Resolves environment.parseUri directory taken.paths file.httpRoutes
  websocket_taken : ∀ spec ∈ file.routes, WebsocketTaken spec before
  grpc_taken : ∀ spec ∈ file.grpcRoutes, GrpcTaken before spec taken
  extends_before : taken.Extends before
  hosts : taken.hosts ⊆ config.routing.hosts
  http_hosts : config.httpRoutes.hosts ⊆ config.routing.hosts

theorem assembled_of_validate {config : Config}
    (accepted : file.validate environment directory = .ok config) :
    ∃ before taken, Assembled environment file directory config before taken := by
  obtain ⟨tables, built, bound, websocket_same, grpc_same, http_same, _⟩ :=
    FileConfig.validate_eq_ok accepted
  obtain ⟨before, taken, first, websocket_built, second, grpc_built, http_built, hosts⟩ :=
    FileConfig.buildTables_eq_ok built
  have served := FileConfig.hosts_of_buildRouting bound
  have table_hosts : tables.hosts ⊆ config.routing.hosts := by
    rw [served]
    exact List.subset_append_left _ _
  rw [hosts] at table_hosts
  refine ⟨before, taken, ?_⟩
  constructor
  case websocket =>
    rw [websocket_same]
    exact RouteKind.resolves_of_build websocket_built
  case grpc =>
    rw [grpc_same]
    exact RouteKind.resolves_of_build grpc_built
  case http =>
    rw [http_same]
    exact HttpRouteTable.resolves_of_build http_built
  case websocket_taken => exact websocketTaken_of_loop first
  case grpc_taken => exact grpcTaken_of_loop second
  case extends_before => exact extends_of_loop second
  case hosts => exact List.Subset.trans (List.subset_append_left _ _) table_hosts
  case http_hosts =>
    rw [http_same]
    exact List.Subset.trans (List.subset_append_right _ _) table_hosts

/-! ## The tables are disjoint -/

section Assembled

variable {config : Config} {before taken : Taken}
  (assembled : Assembled environment file directory config before taken)

include assembled

/-- The pair of a WebSocket route was taken before the gRPC routes. -/
theorem Assembled.websocket_before {host path : String} {route : Route}
    (found : config.routes.resolve host path = some route) : (host, path) ∈ before.paths := by
  obtain ⟨spec, member, _, compiles, rfl⟩ := assembled.websocket.origin host path route found
  obtain ⟨_, _, taken_host, normalized, has⟩ := assembled.websocket_taken spec member
  have same : Except.ok taken_host = Except.ok host := normalized.symm.trans compiles.normalized
  cases same
  exact has.1

/-- The pair of a gRPC route was free before the gRPC routes, and is taken after them. -/
theorem Assembled.grpc_after {host path : String} {route : GrpcRoute}
    (found : config.grpcRoutes.resolve host path = some route) :
    (host, path) ∉ before.paths ∧ (host, path) ∈ taken.paths := by
  obtain ⟨spec, member, _, compiles, rfl⟩ := assembled.grpc.origin host path route found
  obtain ⟨taken_host, normalized, free, has⟩ := assembled.grpc_taken spec member
  have same : Except.ok taken_host = Except.ok host := normalized.symm.trans compiles.normalized
  cases same
  exact ⟨free, has.1⟩

/-- The pair of an exact HTTP route is free after the gRPC routes. -/
theorem Assembled.http_free {host path : String} {route : HttpRoute}
    (found : config.httpRoutes.find (host, path, .exact) = some route) :
    (host, path) ∉ taken.paths := by
  obtain ⟨spec, _, spec_host, _, compiles, same⟩ := assembled.http.origin _ route found
  obtain ⟨rfl, rfl, exact_match⟩ := FileHttpRouteConfig.key_eq.mp same.symm
  exact compiles.unreserved exact_match

end Assembled

/-- At most one table has an exact route for each pair of a host and a path. -/
structure Config.ExactTablesDisjoint (config : Config) : Prop where
  grpc_none : ∀ host path route, config.routes.resolve host path = some route →
    config.grpcRoutes.resolve host path = none
  http_none : ∀ host path route, config.routes.resolve host path = some route →
    config.httpRoutes.find (host, path, .exact) = none
  http_none_of_grpc : ∀ host path route, config.grpcRoutes.resolve host path = some route →
    config.httpRoutes.find (host, path, .exact) = none

theorem Assembled.disjoint {config : Config} {before taken : Taken}
    (assembled : Assembled environment file directory config before taken) :
    config.ExactTablesDisjoint := by
  constructor
  case grpc_none =>
    intro host path route found
    rw [Option.eq_none_iff_forall_ne_some]
    intro other also
    exact (assembled.grpc_after also).1 (assembled.websocket_before found)
  case http_none =>
    intro host path route found
    rw [Option.eq_none_iff_forall_ne_some]
    intro other also
    exact assembled.http_free also (assembled.extends_before.1 (assembled.websocket_before found))
  case http_none_of_grpc =>
    intro host path route found
    rw [Option.eq_none_iff_forall_ne_some]
    intro other also
    exact assembled.http_free also (assembled.grpc_after found).2

/-! ## Every enabled route is selected -/

/-- A request for the host and the path is admitted and handed to the target. -/
structure Config.Serves (config : Config) (host path : String) (target : Target) : Prop where
  admitted : validateHttpPath path = .ok ()
  permitted : host ∈ config.routing.hosts
  selected : (config.select host path).target = some target

/-- Some enabled route stands at exactly this pair of a normalized host and a path. -/
def FileConfig.HasExactRoute (file : FileConfig) (host path : String) : Prop :=
  (∃ spec ∈ file.routes, spec.enabled = true ∧ normalizeDnsHost spec.host = .ok host ∧
    spec.path = path) ∨
  (∃ spec ∈ file.grpcRoutes, spec.enabled = true ∧ normalizeDnsHost spec.host = .ok host ∧
    spec.path = path) ∨
  ∃ spec ∈ file.httpRoutes, spec.enabled = true ∧ normalizeDnsHost spec.host = .ok host ∧
    spec.path = path ∧ spec.pathMatch = .exact

theorem Config.target_select_of_websocket {config : Config} {host path : String} {route : Route}
    (found : config.routes.resolve host path = some route) :
    (config.select host path).target = some (.websocket route) := by
  simp only [select, Selected.target, found]

theorem Config.target_select_of_grpc {config : Config} {host path : String} {route : GrpcRoute}
    (no_websocket : config.routes.resolve host path = none)
    (found : config.grpcRoutes.resolve host path = some route) :
    (config.select host path).target = some (.grpc route) := by
  simp only [select, Selected.target, no_websocket, found, Option.isNone_none, if_true]

theorem Config.target_select_of_http {config : Config} {host path : String} {route : HttpRoute}
    (no_websocket : config.routes.resolve host path = none)
    (no_grpc : config.grpcRoutes.resolve host path = none)
    (found : config.httpRoutes.resolve host path = some route) :
    (config.select host path).target = some (.http route) := by
  simp only [select, Selected.target, no_websocket, no_grpc, found, Option.isNone_none, if_true,
    Bool.and_self]

section Assembled

variable {config : Config} {before taken : Taken}
  (assembled : Assembled environment file directory config before taken)

include assembled

theorem Assembled.serves_websocket {spec : RouteSpec} (member : spec ∈ file.routes)
    (enabled : spec.enabled = true) :
    ∃ host route, (websocketKind environment.parseUri).Compiles spec host route ∧
      config.Serves host spec.path (.websocket route) := by
  obtain ⟨host, route, compiles, resolves⟩ := assembled.websocket.present spec member
  obtain ⟨admitted, _, taken_host, normalized, has⟩ := assembled.websocket_taken spec member
  have same : Except.ok taken_host = Except.ok host := normalized.symm.trans compiles.normalized
  cases same
  refine ⟨host, route, compiles, admitted, ?_, ?_⟩
  · exact assembled.hosts (assembled.extends_before.2 (has.2 enabled))
  · exact Config.target_select_of_websocket (resolves enabled)

theorem Assembled.serves_grpc {spec : GrpcRouteSpec} (member : spec ∈ file.grpcRoutes)
    (enabled : spec.enabled = true) :
    ∃ host route, (grpcKind environment.parseUri).Compiles spec host route ∧
      config.Serves host spec.path (.grpc route) := by
  obtain ⟨host, route, compiles, resolves⟩ := assembled.grpc.present spec member
  obtain ⟨taken_host, normalized, free, has⟩ := assembled.grpc_taken spec member
  have same : Except.ok taken_host = Except.ok host := normalized.symm.trans compiles.normalized
  cases same
  have found := resolves enabled
  refine ⟨host, route, compiles, ?_, assembled.hosts (has.2 enabled), ?_⟩
  · obtain ⟨_, admitted, _⟩ := compiles.compiled
    exact validateHttpPath_of_validateGrpcPath admitted
  · refine Config.target_select_of_grpc ?_ found
    rw [Option.eq_none_iff_forall_ne_some]
    intro other also
    exact free (assembled.websocket_before also)

/-- A table has a route for a pair only when such a route is configured. -/
theorem Assembled.none_of_not_hasExactRoute {host path : String}
    (without : ¬file.HasExactRoute host path) :
    config.routes.resolve host path = none ∧ config.grpcRoutes.resolve host path = none ∧
      config.httpRoutes.find (host, path, .exact) = none := by
  simp only [Option.eq_none_iff_forall_ne_some]
  refine ⟨?_, ?_, ?_⟩
  · intro route found
    obtain ⟨spec, member, enabled, compiles, same⟩ :=
      assembled.websocket.origin host path route found
    exact without (.inl ⟨spec, member, enabled, compiles.normalized, same.symm⟩)
  · intro route found
    obtain ⟨spec, member, enabled, compiles, same⟩ := assembled.grpc.origin host path route found
    exact without (.inr (.inl ⟨spec, member, enabled, compiles.normalized, same.symm⟩))
  · intro route found
    obtain ⟨spec, member, spec_host, enabled, compiles, same⟩ :=
      assembled.http.origin _ route found
    obtain ⟨rfl, rfl, exact_match⟩ := FileHttpRouteConfig.key_eq.mp same.symm
    exact without (.inr (.inr ⟨spec, member, enabled, compiles.normalized, rfl, exact_match⟩))

theorem Assembled.serves_http {spec : FileHttpRouteConfig} (member : spec ∈ file.httpRoutes)
    (enabled : spec.enabled = true) :
    ∃ host upstream, normalizeDnsHost spec.host = .ok host ∧
      spec.upstream.validate environment.parseUri directory = .ok upstream ∧
      (spec.pathMatch = .exact ∨ ¬file.HasExactRoute host spec.path →
        config.Serves host spec.path (.http (spec.compile host upstream))) := by
  obtain ⟨host, route, compiles, finds⟩ := assembled.http.present spec member
  obtain ⟨upstream, validated, rfl⟩ := compiles.compiled
  have found := finds enabled
  refine ⟨host, upstream, compiles.normalized, validated, fun winning => ?_⟩
  refine ⟨compiles.admitted, assembled.http_hosts (HttpRouteTable.mem_hosts_of_find found), ?_⟩
  cases kind : spec.pathMatch with
  | exact =>
      have key : spec.key host = (host, spec.path, .exact) :=
        FileHttpRouteConfig.key_eq.mpr ⟨rfl, rfl, kind⟩
      rw [key] at found
      have disjoint := assembled.disjoint
      refine Config.target_select_of_http ?_ ?_ (HttpRouteTable.resolve_of_find_exact found)
      · rw [Option.eq_none_iff_forall_ne_some]
        intro other also
        have none_found := disjoint.http_none _ _ other also
        rw [none_found] at found
        cases found
      · rw [Option.eq_none_iff_forall_ne_some]
        intro other also
        have none_found := disjoint.http_none_of_grpc _ _ other also
        rw [none_found] at found
        cases found
  | prefixed =>
      have key : spec.key host = (host, spec.path, .prefixed) :=
        FileHttpRouteConfig.key_eq.mpr ⟨rfl, rfl, kind⟩
      rw [key] at found
      have without : ¬file.HasExactRoute host spec.path := by
        rcases winning with exact_match | without
        · rw [kind] at exact_match
          cases exact_match
        · exact without
      obtain ⟨no_websocket, no_grpc, no_exact⟩ := assembled.none_of_not_hasExactRoute without
      exact Config.target_select_of_http no_websocket no_grpc
        (HttpRouteTable.resolve_of_find_prefixed no_exact found)

end Assembled

/-- The exact tables of an accepted configuration are disjoint, and none of its enabled routes is
dead: a request for the host and the path of an enabled route is admitted and handed to that very
route, unless the route matches a prefix and an exact route stands at the same pair. -/
theorem no_enabled_route_is_dead {config : Config}
    (accepted : file.validate environment directory = .ok config) :
    config.ExactTablesDisjoint ∧
    (∀ spec ∈ file.routes, spec.enabled = true →
      ∃ host route, (websocketKind environment.parseUri).Compiles spec host route ∧
        config.Serves host spec.path (.websocket route)) ∧
    (∀ spec ∈ file.grpcRoutes, spec.enabled = true →
      ∃ host route, (grpcKind environment.parseUri).Compiles spec host route ∧
        config.Serves host spec.path (.grpc route)) ∧
    ∀ spec ∈ file.httpRoutes, spec.enabled = true →
      ∃ host upstream, normalizeDnsHost spec.host = .ok host ∧
        spec.upstream.validate environment.parseUri directory = .ok upstream ∧
        (spec.pathMatch = .exact ∨ ¬file.HasExactRoute host spec.path →
          config.Serves host spec.path (.http (spec.compile host upstream))) := by
  obtain ⟨before, taken, assembled⟩ := assembled_of_validate accepted
  refine ⟨assembled.disjoint, ?_, ?_, ?_⟩
  · intro spec member enabled
    exact assembled.serves_websocket member enabled
  · intro spec member enabled
    exact assembled.serves_grpc member enabled
  · intro spec member enabled
    exact assembled.serves_http member enabled

/-- The targets of a small configuration. -/
def sampleUri : UriParser
  | "ws://127.0.0.1:9001/chat" =>
      .ok ⟨some "ws", some "127.0.0.1:9001", some "127.0.0.1", some 9001, some ⟨"/chat", none⟩⟩
  | "/chat" => .ok ⟨none, none, none, none, some ⟨"/chat", none⟩⟩
  | "h2c://127.0.0.1:9002" =>
      .ok ⟨some "h2c", some "127.0.0.1:9002", some "127.0.0.1", some 9002, some ⟨"/", none⟩⟩
  | "http://127.0.0.1:9002/demo.Echo/Send" =>
      .ok ⟨some "http", some "127.0.0.1:9002", some "127.0.0.1", some 9002,
        some ⟨"/demo.Echo/Send", none⟩⟩
  | "http://127.0.0.1:9003" =>
      .ok ⟨some "http", some "127.0.0.1:9003", some "127.0.0.1", some 9003, some ⟨"/", none⟩⟩
  | _ => .error "invalid uri character"

/-- The surroundings of a small configuration: no state file and no trusted network. -/
def sampleEnvironment : Environment where
  parseUri := sampleUri
  loadBlocks _ := .ok ∅
  loadNetworks _ := .ok ⟨[]⟩

/-- A small configuration with routes of every kind. -/
def sampleFile : FileConfig where
  server := { listen := ⟨.v4 0, 443, 0⟩ }
  tls := { certDir := "/etc/certs" }
  fallback := some
    { hosts := ["www.example.com"]
      enabled := true
      upstream := { endpoint := "http://127.0.0.1:9003" } }
  routes := [⟨"chat", "Example.com.", "/chat", "ws://127.0.0.1:9001/chat", true, ⟨false⟩, {}⟩]
  grpcRoutes := [⟨"echo", "example.com", "/demo.Echo/Send", "h2c://127.0.0.1:9002", true, ⟨false⟩⟩]
  httpRoutes :=
    [{ id := "site"
       host := "example.com"
       path := "/"
       pathMatch := .prefixed
       upstream := { endpoint := "http://127.0.0.1:9003" } }]

theorem no_enabled_route_is_dead_sample :
    ∃ config route, sampleFile.validate sampleEnvironment [] = .ok config ∧
      config.ExactTablesDisjoint ∧ config.Serves "example.com" "/chat" (.websocket route) := by
  obtain ⟨config, accepted⟩ : ∃ config, sampleFile.validate sampleEnvironment [] = .ok config :=
    exists_of_isOk (by decide +kernel)
  obtain ⟨disjoint, websocket, _⟩ := no_enabled_route_is_dead accepted
  obtain ⟨host, route, compiles, serves⟩ := websocket _ List.mem_cons_self rfl
  have canonical : normalizeDnsHost "Example.com." = .ok "example.com" := by decide +kernel
  have same : Except.ok host = Except.ok "example.com" := compiles.normalized.symm.trans canonical
  cases same
  exact ⟨config, route, accepted, disjoint, serves⟩

end EdgeGateway.Configuration
