import EdgeGateway.Library.Paths
import EdgeGateway.Routing.Policy
import EdgeGateway.Security.ClientAddress

/-!
# Upstreams

An upstream is an origin on the same machine, with the bounds of its pool of connections.
-/

namespace EdgeGateway.HttpProxy

open Http Results Routing Security

/-! ## Pools -/

/-- The configured bounds of a pool. -/
structure FilePoolConfig where
  maxConnections : Nat := 128
  maxIdleConnections : Nat := 16
  maxActiveRequests : Nat := 256
  maxPendingRequests : Nat := 64
  idleTimeoutSeconds : Nat := 60
  pendingTimeoutSeconds : Nat := 5
  responseHeaderTimeoutSeconds : Nat := 60
  bodyIdleTimeoutSeconds : Nat := 60
deriving DecidableEq, Repr

/-- A bound of a pool lies within its range. -/
def checkPoolBound (name : String) (value max : Nat) : Except String Unit :=
  ensure (value ≠ 0 ∧ value ≤ max)
    ("upstream.pool." ++ name ++ " must be between 1 and " ++ toString max)

/-- The bounds of a pool, with its timeouts in seconds. -/
structure PoolConfig where
  maxConnections : Nat
  maxIdleConnections : Nat
  maxActiveRequests : Nat
  maxPendingRequests : Nat
  idleTimeout : Nat
  pendingTimeout : Nat
  responseHeaderTimeout : Nat
  bodyIdleTimeout : Nat
deriving DecidableEq, Repr

/-- Check the bounds of a pool. -/
def FilePoolConfig.validate (pool : FilePoolConfig) : Except String PoolConfig := do
  checkPoolBound "max_connections" pool.maxConnections 65536
  checkPoolBound "max_active_requests" pool.maxActiveRequests 65536
  ensure (pool.maxIdleConnections ≤ pool.maxConnections ∧
      pool.maxPendingRequests ≤ pool.maxActiveRequests)
    ("pool idle capacity must not exceed connections; " ++
      "pending capacity must not exceed active requests")
  checkPoolBound "idle_timeout_seconds" pool.idleTimeoutSeconds 3600
  checkPoolBound "pending_timeout_seconds" pool.pendingTimeoutSeconds 3600
  checkPoolBound "response_header_timeout_seconds" pool.responseHeaderTimeoutSeconds 3600
  checkPoolBound "body_idle_timeout_seconds" pool.bodyIdleTimeoutSeconds 3600
  return {
    maxConnections := pool.maxConnections
    maxIdleConnections := pool.maxIdleConnections
    maxActiveRequests := pool.maxActiveRequests
    maxPendingRequests := pool.maxPendingRequests
    idleTimeout := pool.idleTimeoutSeconds
    pendingTimeout := pool.pendingTimeoutSeconds
    responseHeaderTimeout := pool.responseHeaderTimeoutSeconds
    bodyIdleTimeout := pool.bodyIdleTimeoutSeconds }

/-- The default bounds pass their own check. -/
theorem validate_default : ∃ pool, ({} : FilePoolConfig).validate = .ok pool :=
  ⟨_, rfl⟩

/-! ## Upstreams -/

/-- The protocols of upstreams. -/
inductive UpstreamProtocol
  | http1
  | http2
deriving DecidableEq, Repr

/-- The host that an upstream is asked for. -/
inductive HostHeaderPolicy
  | preserve
  | backend
deriving DecidableEq, Repr

/-- The name that an upstream has to prove. -/
inductive TlsServerName
  | requestHost
  | literal (name : String)
deriving DecidableEq, Repr

/-- A checked upstream. -/
structure UpstreamConfig where
  endpoint : String
  address : SocketAddr
  authority : String
  tls : Bool
  protocol : UpstreamProtocol
  hostHeader : HostHeaderPolicy
  tlsServerName : TlsServerName
  caFile : Option String
  pool : PoolConfig
deriving DecidableEq, Repr

/-- A configured upstream. -/
structure FileUpstreamConfig where
  endpoint : String
  protocol : UpstreamProtocol := .http1
  hostHeader : HostHeaderPolicy := .preserve
  tlsServerName : String := "request_host"
  caFile : Option String := none
  pool : FilePoolConfig := {}
deriving DecidableEq, Repr

/-- The origin that an endpoint names: whether it is secure, its address and its authority. -/
def parseOrigin (parseUri : UriParser) (endpoint : String) :
    Except String (Bool × SocketAddr × String) := do
  ensure ('#' ∉ endpoint.toList) "upstream.endpoint must not contain a fragment"
  let uri ← (parseUri endpoint).mapError ("invalid upstream.endpoint: " ++ ·)
  let tls ←
    match uri.scheme with
    | some "http" => pure false
    | some "https" => pure true
    | _ => .error "upstream.endpoint scheme must be http or https"
  let some authority := uri.authority
    | .error "upstream.endpoint requires an authority"
  ensure ('@' ∉ authority.toList) "upstream.endpoint must not contain userinfo"
  let some host := uri.host
    | .error "upstream.endpoint requires a host"
  let some ip := literalHost host
    | .error "upstream.endpoint host must be a literal loopback address"
  ensure (ip.isLoopback = true)
    "upstream.endpoint host must be loopback; publish Docker ports locally"
  let some port := uri.port.filter (· ≠ 0)
    | .error "upstream.endpoint requires an explicit nonzero port"
  ensure (uri.target = "/")
    "upstream.endpoint is an origin only; configure paths with route rewrite"
  return (tls, ⟨ip, port, 0⟩, authority)

/-- Read the name that an upstream has to prove. -/
def parseTlsServerName (name : String) : Except String TlsServerName :=
  if name = "request_host" then .ok .requestHost
  else (normalizeDnsHost name).map .literal

/-- Check an upstream, relative to the directory of the configuration file. -/
def FileUpstreamConfig.validate (parseUri : UriParser) (config : FileUpstreamConfig)
    (directory : List Char) : Except String UpstreamConfig := do
  let (tls, address, authority) ← parseOrigin parseUri config.endpoint
  let tlsServerName ← parseTlsServerName config.tlsServerName
  ensure (tls = true ∨ config.caFile = none) "upstream.ca_file requires https"
  ensure (config.caFile ≠ some "") "upstream.ca_file must not be empty"
  let pool ← config.pool.validate
  return {
    endpoint := config.endpoint
    address
    authority
    tls
    protocol := config.protocol
    hostHeader := config.hostHeader
    tlsServerName
    caFile := config.caFile.map fun path => String.ofList (Paths.resolve directory path.toList)
    pool }

end EdgeGateway.HttpProxy
