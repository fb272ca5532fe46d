import EdgeGateway.Configuration.Sections
import EdgeGateway.Grpc.Routes
import EdgeGateway.HttpProxy.Routes
import EdgeGateway.Routes.Table

/-!
# The configuration file

The three route tables are built one after the other.  A pair of a host and a path that an earlier
table has taken, by an enabled route or a disabled one, is refused to the exact routes of a later
table.
-/

namespace EdgeGateway.Configuration

open Grpc Http HttpProxy IpBlocking Results Routes Routing Security

/-- A configuration file. -/
structure FileConfig where
  security : FileSecurityConfig := {}
  maxHttpUpstreamConnections : Nat := 20000
  routing : FileRoutingConfig := {}
  server : FileServerConfig
  tls : TlsConfig
  acme : Option FileAcmeConfig := none
  observability : Option ObservabilityConfig := none
  fallback : Option FileFallbackConfig := none
  routes : List RouteSpec := []
  grpcRoutes : List GrpcRouteSpec := []
  httpRoutes : List FileHttpRouteConfig := []

/-- A checked configuration. -/
structure Config where
  server : FileServerConfig
  routing : RoutingPolicy
  clientAddress : ClientAddressPolicy
  tls : TlsConfig
  acme : AcmeConfig
  observability : ObservabilityConfig
  fallback : Option FallbackConfig
  routes : RouteTable
  grpcRoutes : GrpcRouteTable
  httpRoutes : HttpRouteTable
  maxHttpUpstreamConnections : Nat

/-- Some enabled route, or the fallback, admits peers of the trusted network only. -/
def FileConfig.needsCloudflare (config : FileConfig) : Bool :=
  config.routes.any (fun route => route.enabled && route.security.cloudflareOnly) ||
    config.grpcRoutes.any (fun route => route.enabled && route.security.cloudflareOnly) ||
    config.httpRoutes.any (fun route => route.enabled && route.security.cloudflareOnly) ||
    config.fallback.any (fun fallback => fallback.enabled && fallback.security.cloudflareOnly)

/-! ## Hosts and paths that are taken -/

/-- The hosts that are served and the pairs of a host and a path that are taken. -/
structure Taken where
  hosts : List String := []
  paths : List (String × String) := []

/-- Take a pair, and serve its host if the route is enabled. -/
def Taken.put (taken : Taken) (host path : String) (enabled : Bool) : Taken where
  hosts := if enabled then host :: taken.hosts else taken.hosts
  paths := (host, path) :: taken.paths

/-- Take the pair of a WebSocket route. -/
def takeWebsocketPath (taken : Taken) (spec : RouteSpec) : Except ConfigError Taken := do
  ensure (isHealthPath spec.path = false)
    (.invalid "WebSocket routes must not use reserved health paths")
  (validateHttpPath spec.path).mapError fun reason => .invalid ("routes.path: " ++ reason)
  let host ← (normalizeDnsHost spec.host).mapError fun reason =>
    .invalid ("routes.host: " ++ reason)
  return taken.put host spec.path spec.enabled

/-- Take the pair of a gRPC route, unless it is taken. -/
def takeGrpcPath (taken : Taken) (spec : GrpcRouteSpec) : Except ConfigError Taken := do
  let host ← (normalizeDnsHost spec.host).mapError fun reason =>
    .invalid ("grpc_routes.host: " ++ reason)
  ensure ((host, spec.path) ∉ taken.paths)
    (.invalid ("WS and gRPC conflict at " ++ host ++ spec.path))
  return taken.put host spec.path spec.enabled

/-- The three tables and the hosts of their routes. -/
structure RouteTables where
  routes : RouteTable
  grpcRoutes : GrpcRouteTable
  httpRoutes : HttpRouteTable
  hosts : List String

/-- Build the three tables. -/
def FileConfig.buildTables (environment : Environment) (config : FileConfig)
    (directory : List Char) : Except ConfigError RouteTables := do
  let taken ← config.routes.foldlM takeWebsocketPath {}
  let routes ← (RouteTable.build environment.parseUri config.routes).mapError .route
  let taken ← config.grpcRoutes.foldlM takeGrpcPath taken
  let grpcRoutes ← (GrpcRouteTable.build environment.parseUri config.grpcRoutes).mapError .grpcRoute
  let httpRoutes ←
    (HttpRouteTable.build environment.parseUri config.httpRoutes directory taken.paths).mapError
      .invalid
  return ⟨routes, grpcRoutes, httpRoutes, taken.hosts ++ httpRoutes.hosts⟩

/-- The policy of the hosts of the routes and of the fallback. -/
def FileConfig.buildRouting (config : FileConfig) (tables : RouteTables)
    (fallback : Option FallbackConfig) : Except ConfigError RoutingPolicy :=
  (RoutingPolicy.build (tables.hosts ++ (fallback.map FallbackConfig.hosts).getD [])
    config.routing.requireSni
    (config.routing.sniBindings.map fun binding => (binding.sni, binding.hosts))).mapError .invalid

/-- Check a configuration file that stands in a directory. -/
def FileConfig.validate (environment : Environment) (config : FileConfig)
    (directory : List Char) : Except ConfigError Config := do
  config.server.validateTimeouts
  ensure (config.routes.length + config.grpcRoutes.length + config.httpRoutes.length ≤ 4096)
    (.invalid "total configured routes must not exceed 4096")
  validateCount "http_proxy.max_connections" config.maxHttpUpstreamConnections 1000000
  config.server.validateCapacities
  let tls ← config.tls.validate directory
  let acme ← config.acme.mapM fun acme => acme.validate directory
  let observability ← config.observability.mapM fun section_ => section_.validate directory
  let fallback ← config.fallback.mapM fun fallback =>
    fallback.validate environment.parseUri directory
  let tables ← config.buildTables environment directory
  let routing ← config.buildRouting tables fallback.join
  let clientAddress ← config.security.validate environment directory config.needsCloudflare
  return {
    server := config.server
    routing
    clientAddress
    tls
    acme := acme.getD (.disabled directory)
    observability := observability.getD .off
    fallback := fallback.join
    routes := tables.routes
    grpcRoutes := tables.grpcRoutes
    httpRoutes := tables.httpRoutes
    maxHttpUpstreamConnections := config.maxHttpUpstreamConnections }

end EdgeGateway.Configuration
