import EdgeGateway.Routes.ExactTable

/-!
# WebSocket routes

A WebSocket route leads to a backend on the same machine: one that speaks WebSocket itself, or one
that gets the payload over a plain connection.
-/

namespace EdgeGateway.Routes

open Http IpAddress Routing Security

/-! ## Backends -/

/-- A backend that speaks WebSocket. -/
structure WebSocketBackendEndpoint where
  display : String
  address : SocketAddr
  requestTarget : Uri
  hostHeader : HeaderValue
deriving DecidableEq

/-- A backend behind a plain connection. -/
structure TcpBackendEndpoint where
  display : String
  address : SocketAddr
deriving DecidableEq

/-- The backend of a WebSocket route. -/
inductive BackendEndpoint
  | webSocket (endpoint : WebSocketBackendEndpoint)
  | tcp (endpoint : TcpBackendEndpoint)
deriving DecidableEq

/-- The loopback address that an authority names, with the text of the authority. -/
def parseLoopbackAuthority (value : String) (uri : Uri) (defaultPort : Option Nat)
    (requireExplicitPort : Bool) : Except RouteError (SocketAddr × String) := do
  let some authority := uri.authority
    | .error (.invalidBackend value "authority is required")
  if '@' ∈ authority.toList then
    throw (.invalidBackend value "userinfo is not allowed")
  let some host := uri.host
    | .error (.invalidBackend value "host is required")
  let some ip := literalHost host
    | .error (.invalidBackend value "host must be an IPv4 or IPv6 loopback address")
  if !ip.isLoopback then
    throw (.invalidBackend value "host must be a loopback address")
  let port ←
    match uri.port, (if requireExplicitPort then none else defaultPort) with
    | some port, _ => pure port
    | none, some port => pure port
    | none, none => .error (.invalidBackend value "an explicit port is required")
  if port = 0 then
    throw (.invalidBackend value "port must not be zero")
  return (⟨ip, port, 0⟩, authority)

/-- The backend that a target with the scheme `ws` names. -/
def WebSocketBackendEndpoint.fromUri (parseUri : UriParser) (value : String) (uri : Uri) :
    Except RouteError WebSocketBackendEndpoint := do
  let (address, authority) ← parseLoopbackAuthority value uri (some 80) false
  let requestTarget ← (parseUri uri.target).mapError fun source =>
    .invalidBackend value ("invalid request target: " ++ source)
  let some hostHeader := HeaderValue.fromStr authority
    | .error (.invalidBackend value "invalid authority: failed to parse header value")
  return ⟨value, address, requestTarget, hostHeader⟩

/-- The backend that a target with the scheme `tcp` names. -/
def TcpBackendEndpoint.fromUri (value : String) (uri : Uri) :
    Except RouteError TcpBackendEndpoint := do
  let (address, _) ← parseLoopbackAuthority value uri none true
  if uri.target ≠ "/" then
    throw (.invalidBackend value "tcp backend URL must not contain a path or query")
  return ⟨value, address⟩

/-- Read the backend of a WebSocket route. -/
def BackendEndpoint.parse (parseUri : UriParser) (value : String) :
    Except RouteError BackendEndpoint := do
  if '#' ∈ value.toList then
    throw (.invalidBackend value "fragment is not allowed")
  let uri ← (parseUri value).mapError (.invalidBackend value)
  match uri.scheme with
  | some "ws" => return .webSocket (← WebSocketBackendEndpoint.fromUri parseUri value uri)
  | some "tcp" => return .tcp (← TcpBackendEndpoint.fromUri value uri)
  | some scheme =>
      throw (.invalidBackend value
        ("unsupported scheme \"" ++ scheme ++ "\"; expected ws or tcp"))
  | none => throw (.invalidBackend value "scheme is required; expected ws or tcp")

/-! ## Paths -/

/-- The namespaces of WebSocket paths. -/
inductive RouteNamespace
  | pc
  | mobile
  | uat
  | custom
deriving DecidableEq, Repr

/-- The namespace of a path. -/
def namespaceOf (path : List Char) : RouteNamespace :=
  if "/api/pc/".toList <+: path then .pc
  else if "/api/mob/".toList <+: path then .mobile
  else if "/api/uat/".toList <+: path then .uat
  else .custom

/-- A segment that a path must not have. -/
def isAmbiguousSegment (segment : List Char) : Bool :=
  segment.isEmpty || segment == ['.'] || segment == ['.', '.']

/-- Check the path of a WebSocket route, and tell its namespace. -/
def validatePublicPath (path : String) : Except RouteError RouteNamespace :=
  let text := path.toList
  if maxRoutePathLength < (Utf8.encode text).length then .error (.pathTooLong path)
  else if text.head? ≠ some '/' ∨ '?' ∈ text ∨ '#' ∈ text ∨ '\\' ∈ text ∨ hasBlank text then
    .error (.invalidPath path)
  else if text ≠ ['/'] ∧ ((text.drop 1).splitOn '/').any isAmbiguousSegment then
    .error (.invalidPath path)
  else
    .ok (namespaceOf text)

/-! ## Routes -/

/-- Where the query of a request to a WebSocket backend comes from. -/
inductive WebSocketQuery
  | backend
  | preserve
deriving DecidableEq, Repr

/-- What a handshake passes on to the backend. -/
structure WebSocketHandshakeConfig where
  forwardCookie : Bool := true
  forwardOrigin : Bool := true
  query : WebSocketQuery := .backend
deriving DecidableEq, Repr

/-- A configured WebSocket route. -/
structure RouteSpec where
  id : String
  host : String
  path : String
  backend : String
  enabled : Bool
  security : RouteSecurity
  handshake : WebSocketHandshakeConfig
deriving DecidableEq

/-- A WebSocket route. -/
structure Route where
  id : String
  host : String
  path : String
  namespaceKind : RouteNamespace
  backend : BackendEndpoint
  security : RouteSecurity
  handshake : WebSocketHandshakeConfig
deriving DecidableEq

/-- The table of WebSocket routes. -/
abbrev RouteTable := ExactTable Route

/-- WebSocket routes as a kind of exact routes. -/
def websocketKind (parseUri : UriParser) : RouteKind RouteSpec RouteNamespace Route where
  id := RouteSpec.id
  host := RouteSpec.host
  path := RouteSpec.path
  enabled := RouteSpec.enabled
  validatePath := validatePublicPath
  compile spec host namespaceKind :=
    (BackendEndpoint.parse parseUri spec.backend).map fun backend =>
      { id := spec.id
        host
        path := spec.path
        namespaceKind
        backend
        security := spec.security
        handshake := spec.handshake }

/-- Build the table of WebSocket routes. -/
def RouteTable.build (parseUri : UriParser) (specs : List RouteSpec) :
    Except RouteError RouteTable :=
  (websocketKind parseUri).build specs

end EdgeGateway.Routes
