import EdgeGateway.HttpProxy.Upstream
import EdgeGateway.IpBlocking.Runtime
import EdgeGateway.Routes.ExactTable

/-!
# Sections of the configuration file

Every section is checked on its own and turned into the values that the gateway runs with.  What
the checks ask of the outside world (parsing a target, loading a file) is a parameter.
-/

namespace EdgeGateway.Configuration

open Http HttpProxy IpBlocking Results Routes Routing Security

/-- Why a configuration is rejected. -/
inductive ConfigError
  | invalid (reason : String)
  | duplicateCertificate (id : String)
  | invalidDomain (index : Nat) (domain reason : String)
  | duplicateDomain (domain id : String)
  | sharedDomain (domain : String)
  | healthPeer (cidr reason : String)
  | route (error : RouteError)
  | grpcRoute (error : RouteError)
deriving DecidableEq, Repr

/-- What the checks ask of the outside world. -/
structure Environment where
  parseUri : UriParser
  loadBlocks : IpBlockingConfig → Except String BlockSnapshot
  loadNetworks : Option String → Except String CloudflareNetworks

/-! ## Checks of single values -/

/-- A value is not zero and not too large. -/
def validateBound (unit field : String) (value maximum : Nat) : Except ConfigError Unit := do
  ensure (value ≠ 0) (.invalid (field ++ " must be greater than zero"))
  ensure (value ≤ maximum) (.invalid (field ++ " must not exceed " ++ toString maximum ++ unit))

/-- Check a number of seconds. -/
def validateSeconds (field : String) (value maximum : Nat) : Except ConfigError Unit :=
  validateBound " seconds" field value maximum

/-- Check a number of bytes. -/
def validateSize (field : String) (value maximum : Nat) : Except ConfigError Unit :=
  validateBound " bytes" field value maximum

/-- Check a count. -/
def validateCount (field : String) (value maximum : Nat) : Except ConfigError Unit :=
  validateBound "" field value maximum

/-- A path is not empty. -/
def validatePath (field path : String) : Except ConfigError Unit :=
  ensure (path ≠ "") (.invalid (field ++ " must not be empty"))

/-- A suffix of file names is not empty and names no directory. -/
def validateSuffix (field suffix : String) : Except ConfigError Unit := do
  ensure (suffix ≠ "") (.invalid (field ++ " must not be empty"))
  ensure ('/' ∉ suffix.toList ∧ '\\' ∉ suffix.toList)
    (.invalid (field ++ " must be a filename suffix, not a path"))

/-- The characters of certificate ids. -/
def isCertificateIdCharacter (character : Char) : Bool :=
  character.isAlphanum || character == '-' || character == '_' || character == '.'

/-- A certificate id is a plain file name. -/
def validateCertificateId (field id : String) : Except ConfigError Unit := do
  ensure (id ≠ "") (.invalid (field ++ " must not be empty"))
  ensure (id.toList.all isCertificateIdCharacter = true)
    (.invalid (field ++ " may contain only ASCII letters, digits, '.', '-' and '_'"))

/-- A path of the configuration as the gateway opens it. -/
def resolveConfigPath (directory : List Char) (path : String) : String :=
  String.ofList (Paths.resolve directory path.toList)

/-! ## The server -/

/-- The server section; validation passes its values on unchanged. -/
structure FileServerConfig where
  listen : SocketAddr
  tlsHandshakeTimeoutSeconds : Nat := 10
  websocketUpgradeTimeoutSeconds : Nat := 10
  backendConnectTimeoutSeconds : Nat := 10
  shutdownGraceSeconds : Nat := 30
  maxWebsocketMessageSizeBytes : Nat := 1024 * 1024
  maxGrpcConcurrentStreamsPerBackend : Nat := 256
  maxConnections : Nat := 20000
  maxConcurrentTlsHandshakes : Nat := 512
  maxActiveRequests : Nat := 20000
  maxHttpHeaderCount : Nat := 100
  maxHttpHeaderBytes : Nat := 32768
  maxHttp2ConcurrentStreams : Nat := 256
  maxHttp2SendBufferBytes : Nat := 65536
  httpHeaderReadTimeoutSeconds : Nat := 10
deriving DecidableEq, Repr

/-- The checks of the server section before the routes are counted. -/
def FileServerConfig.validateTimeouts (server : FileServerConfig) : Except ConfigError Unit := do
  validateSeconds "server.tls_handshake_timeout_seconds" server.tlsHandshakeTimeoutSeconds 300
  validateSeconds "server.websocket_upgrade_timeout_seconds" server.websocketUpgradeTimeoutSeconds
    300
  validateSeconds "server.backend_connect_timeout_seconds" server.backendConnectTimeoutSeconds 300
  validateSeconds "server.shutdown_grace_seconds" server.shutdownGraceSeconds 600
  validateSize "server.max_websocket_message_size_bytes" server.maxWebsocketMessageSizeBytes
    (64 * 1024 * 1024)
  validateCount "server.max_grpc_concurrent_streams_per_backend"
    server.maxGrpcConcurrentStreamsPerBackend 4096

/-- The checks of the server section after the routes are counted. -/
def FileServerConfig.validateCapacities (server : FileServerConfig) : Except ConfigError Unit := do
  validateCount "server.max_connections" server.maxConnections 1000000
  validateCount "server.max_concurrent_tls_handshakes" server.maxConcurrentTlsHandshakes 65536
  validateCount "server.max_active_requests" server.maxActiveRequests 1000000
  validateCount "server.max_http_header_count" server.maxHttpHeaderCount 1024
  validateCount "server.max_http_header_bytes" server.maxHttpHeaderBytes 1048576
  validateCount "server.max_http2_concurrent_streams" server.maxHttp2ConcurrentStreams 65536
  validateCount "server.max_http2_send_buffer_bytes" server.maxHttp2SendBufferBytes 1048576
  validateSeconds "server.http_header_read_timeout_seconds" server.httpHeaderReadTimeoutSeconds 300
  ensure (8192 ≤ server.maxHttpHeaderBytes)
    (.invalid "server.max_http_header_bytes must be at least 8192")
  ensure (server.maxConcurrentTlsHandshakes ≤ server.maxConnections)
    (.invalid "TLS handshake capacity must not exceed max_connections")

/-! ## Certificates -/

/-- The certificate section, as configured and as checked. -/
structure TlsConfig where
  certDir : String
  certSuffix : String := ".fullchain.pem"
  keySuffix : String := ".key.pem"
  defaultCertificate : Option String := none
deriving DecidableEq, Repr

/-- Check the certificate section. -/
def TlsConfig.validate (tls : TlsConfig) (directory : List Char) :
    Except ConfigError TlsConfig := do
  validatePath "tls.cert_dir" tls.certDir
  validateSuffix "tls.cert_suffix" tls.certSuffix
  validateSuffix "tls.key_suffix" tls.keySuffix
  ensure (tls.certSuffix ≠ tls.keySuffix ∧ ¬tls.keySuffix.toList <:+ tls.certSuffix.toList ∧
      ¬tls.certSuffix.toList <:+ tls.keySuffix.toList)
    (.invalid "tls.cert_suffix and tls.key_suffix must be distinct and non-overlapping")
  if let some id := tls.defaultCertificate then
    validateCertificateId "tls.default_certificate" id
  return { tls with certDir := resolveConfigPath directory tls.certDir }

/-! ## Automatic certificates -/

/-- Where certificates are ordered. -/
inductive AcmeEnvironment
  | production
  | staging
deriving DecidableEq, Repr

/-- A managed certificate. -/
structure AcmeCertificateConfig where
  id : String
  domains : List String
deriving DecidableEq, Repr

/-- The section of automatic certificates. -/
structure FileAcmeConfig where
  enabled : Bool := false
  http01Listen : SocketAddr := ⟨.v4 0, 80, 0⟩
  email : Option String := none
  environment : AcmeEnvironment := .production
  stateDir : String := "state/acme"
  fallbackRenewBeforeDays : Nat := 30
  checkIntervalHours : Nat := 12
  certificates : List AcmeCertificateConfig := []
deriving DecidableEq, Repr

/-- The checked section of automatic certificates, with its times in seconds. -/
structure AcmeConfig where
  enabled : Bool
  http01Listen : SocketAddr
  email : Option String
  environment : AcmeEnvironment
  stateDir : String
  fallbackRenewBefore : Nat
  checkInterval : Nat
  certificates : List AcmeCertificateConfig
deriving DecidableEq, Repr

/-- The section of a configuration that has none. -/
def AcmeConfig.disabled (directory : List Char) : AcmeConfig where
  enabled := false
  http01Listen := ⟨.v4 0, 80, 0⟩
  email := none
  environment := .production
  stateDir := resolveConfigPath directory "state/acme"
  fallbackRenewBefore := 30 * 24 * 60 * 60
  checkInterval := 12 * 60 * 60
  certificates := []

/-- The canonical form of a domain that certificates are ordered for. -/
def normalizeDomain (domain : String) : Except String String :=
  let trimmed := Text.trim domain.toList
  let domain := (trimmed.reverse.dropWhile (· = '.')).reverse.map Char.toLower
  if domain = [] then .error "domain must not be empty"
  else if ['*', '.'] <+: domain then
    .error "wildcard domains require DNS-01 and are not supported by built-in HTTP-01"
  else if 253 < (Utf8.encode domain).length ∨
      domain.any (fun character => 0x80 ≤ character.toNat) then
    .error "domain must be an ASCII DNS name no longer than 253 characters"
  else if (IpAddress.parse (String.ofList domain)).isSome then
    .error "IP identifiers are not supported by built-in ACME"
  else do
    (domain.splitOn '.').forM fun label => do
      ensure (label ≠ [] ∧ label.length ≤ 63)
        "DNS labels must contain between 1 and 63 characters"
      ensure (label.head? ≠ some '-' ∧ label.getLast? ≠ some '-')
        "DNS labels must not start or end with '-'"
      ensure (label.all (fun character => character.isAlphanum || character == '-') = true)
        "DNS labels may contain only ASCII letters, digits and '-'"
    return String.ofList domain

/-- The domains of one certificate, after those of the certificates before it. -/
def addDomains (index : Nat) (id : String) (managed : List String) (domains : List String) :
    Except ConfigError (List String × List String) :=
  domains.foldlM
    (fun (taken, added) domain => do
      let normalized ← (normalizeDomain domain).mapError (.invalidDomain index domain)
      ensure (normalized ∉ added) (.duplicateDomain normalized id)
      ensure (normalized ∉ taken) (.sharedDomain normalized)
      return (normalized :: taken, added ++ [normalized]))
    (managed, [])

/-- Certificates while they are checked. -/
structure AcmeBuilding where
  ids : List String := []
  managed : List String := []
  certificates : List AcmeCertificateConfig := []

/-- Check one certificate, after those before it. -/
def AcmeBuilding.add (building : AcmeBuilding) (entry : AcmeCertificateConfig × Nat) :
    Except ConfigError AcmeBuilding := do
  let (certificate, index) := entry
  let field := "acme.certificates[" ++ toString index ++ "]"
  validateCertificateId (field ++ ".id") certificate.id
  ensure (certificate.id ∉ building.ids) (.duplicateCertificate certificate.id)
  ensure (certificate.domains ≠ []) (.invalid (field ++ ".domains must not be empty"))
  let (managed, domains) ← addDomains index certificate.id building.managed certificate.domains
  return {
    ids := certificate.id :: building.ids
    managed
    certificates := building.certificates ++
      [⟨certificate.id, domains.mergeSort fun left right => decide (left ≤ right)⟩] }

/-- Check the section of automatic certificates. -/
def FileAcmeConfig.validate (acme : FileAcmeConfig) (directory : List Char) :
    Except ConfigError AcmeConfig := do
  validatePath "acme.state_dir" acme.stateDir
  ensure (acme.fallbackRenewBeforeDays ≠ 0 ∧ acme.fallbackRenewBeforeDays ≤ 90)
    (.invalid "acme.fallback_renew_before_days must be between 1 and 90")
  ensure (acme.checkIntervalHours ≠ 0 ∧ acme.checkIntervalHours ≤ 168)
    (.invalid "acme.check_interval_hours must be between 1 and 168")
  let email := (acme.email.map fun value => Text.trim value.toList).filter (· ≠ [])
  ensure (¬(acme.enabled = true ∧ email = none))
    (.invalid "acme.email is required when ACME is enabled")
  ensure (∀ value ∈ email, value.any Text.isWhitespace = false ∧ '@' ∈ value)
    (.invalid "acme.email must be a plain email address")
  ensure (¬(acme.enabled = true ∧ acme.certificates = []))
    (.invalid ("acme.certificates must contain at least one managed certificate " ++
      "when ACME is enabled"))
  let building ← acme.certificates.zipIdx.foldlM AcmeBuilding.add {}
  return {
    enabled := acme.enabled
    http01Listen := acme.http01Listen
    email := email.map String.ofList
    environment := acme.environment
    stateDir := resolveConfigPath directory acme.stateDir
    fallbackRenewBefore := acme.fallbackRenewBeforeDays * 24 * 60 * 60
    checkInterval := acme.checkIntervalHours * 60 * 60
    certificates := building.certificates }

/-! ## Observability -/

/-- How much the gateway reports. -/
inductive ObservabilityMode
  | off
  | production
  | diagnostic
deriving DecidableEq, Repr

/-- The observability section, as configured and as checked. -/
structure ObservabilityConfig where
  mode : ObservabilityMode
  summaryIntervalSeconds : Nat
  summaryFile : String
  diagnosticIntervalSeconds : Nat
  diagnosticFile : String
  connectionEventLogsEnabled : Bool
  detailedFrameObservationEnabled : Bool := false
deriving DecidableEq, Repr

/-- The section of a configuration that has none. -/
def ObservabilityConfig.off : ObservabilityConfig where
  mode := .off
  summaryIntervalSeconds := 300
  summaryFile := ""
  diagnosticIntervalSeconds := 60
  diagnosticFile := ""
  connectionEventLogsEnabled := false
  detailedFrameObservationEnabled := false

/-- Check the observability section. -/
def ObservabilityConfig.validate (observability : ObservabilityConfig) (directory : List Char) :
    Except ConfigError ObservabilityConfig := do
  validateSeconds "observability.summary_interval_seconds" observability.summaryIntervalSeconds
    86400
  validateSeconds "observability.diagnostic_interval_seconds"
    observability.diagnosticIntervalSeconds 86400
  validatePath "observability.summary_file" observability.summaryFile
  validatePath "observability.diagnostic_file" observability.diagnosticFile
  return { observability with
    summaryFile := resolveConfigPath directory observability.summaryFile
    diagnosticFile := resolveConfigPath directory observability.diagnosticFile }

/-! ## The fallback -/

/-- The fallback section. -/
structure FileFallbackConfig where
  hosts : List String
  enabled : Bool := false
  security : RouteSecurity := ⟨false⟩
  upstream : FileUpstreamConfig
deriving DecidableEq

/-- The upstream of requests that no route takes, and the hosts it is for. -/
structure FallbackConfig where
  hosts : List String
  security : RouteSecurity
  upstream : UpstreamConfig
deriving DecidableEq

/-- The fallback is for the host. -/
def FallbackConfig.permitsHost (fallback : FallbackConfig) (host : String) : Bool :=
  fallback.hosts.contains host

/-- Add one host of the fallback to those before it. -/
def addFallbackHost (hosts : List String) (host : String) : Except ConfigError (List String) := do
  let host ← (normalizeDnsHost host).mapError fun reason => .invalid ("fallback.hosts: " ++ reason)
  ensure (host ∉ hosts) (.invalid ("duplicate fallback host " ++ host))
  return host :: hosts

/-- Check the fallback section; a disabled fallback is checked and then dropped. -/
def FileFallbackConfig.validate (parseUri : UriParser) (fallback : FileFallbackConfig)
    (directory : List Char) : Except ConfigError (Option FallbackConfig) := do
  ensure (fallback.hosts ≠ [] ∧ fallback.hosts.length ≤ 1024)
    (.invalid "fallback.hosts must contain 1..1024 names")
  let hosts ← fallback.hosts.foldlM addFallbackHost []
  let upstream ← (fallback.upstream.validate parseUri directory).mapError fun reason =>
    .invalid ("fallback: " ++ reason)
  return if fallback.enabled then some ⟨hosts, fallback.security, upstream⟩ else none

/-! ## Routing -/

/-- A server name with the hosts that may be requested under it. -/
structure FileSniBinding where
  sni : String
  hosts : List String
deriving DecidableEq, Repr

/-- The routing section. -/
structure FileRoutingConfig where
  requireSni : Bool := true
  sniBindings : List FileSniBinding := []
deriving DecidableEq, Repr

/-! ## Security -/

/-- The security section; the cache file stands for the subsection that names it. -/
structure FileSecurityConfig where
  healthPeerCidrs : List String := ["127.0.0.0/8", "::1/128"]
  cloudflareCacheFile : Option String := none
  ipBlocking : FileIpBlockingConfig := {}
deriving DecidableEq, Repr

/-- Who may ask for what: the trusted network, the peers of health checks and the blocked
clients. -/
structure ClientAddressPolicy where
  cloudflare : CloudflareNetworks
  healthPeerNetworks : List IpNetwork
  ipBlocking : IpBlockingConfig
  blocks : BlockSnapshot

/-- The peer may ask for the health of the gateway. -/
def ClientAddressPolicy.permitsHealthPeer (policy : ClientAddressPolicy) (peer : SocketAddr) :
    Bool :=
  policy.healthPeerNetworks.any fun network => network.contains peer.ip

/-- The file that the trusted network is cached in, when it is needed or configured. -/
def cacheFile (security : FileSecurityConfig) (directory : List Char) (needsCloudflare : Bool) :
    Except ConfigError (Option String) := do
  if needsCloudflare || security.cloudflareCacheFile.isSome then
    let file := security.cloudflareCacheFile.getD "state/cloudflare-cidrs.txt"
    validatePath "security.cloudflare.cache_file" file
    return some (resolveConfigPath directory file)
  else
    return none

/-- Check the security section, and load what it names. -/
def FileSecurityConfig.validate (environment : Environment) (security : FileSecurityConfig)
    (directory : List Char) (needsCloudflare : Bool) :
    Except ConfigError ClientAddressPolicy := do
  ensure (security.healthPeerCidrs.length ≤ 128)
    (.invalid "security.health_peer_cidrs exceeds 128 entries")
  let healthPeerNetworks ← security.healthPeerCidrs.mapM fun cidr =>
    (IpNetwork.parse cidr).mapError (.healthPeer cidr)
  let cache ← cacheFile security directory needsCloudflare
  let ipBlocking ← (security.ipBlocking.validate directory).mapError fun error =>
    .invalid ("security.ip_blocking: " ++ error)
  let blocks ← (environment.loadBlocks ipBlocking).mapError fun error =>
    .invalid ("security.ip_blocking: " ++ error)
  let cloudflare ← (environment.loadNetworks cache).mapError fun error =>
    .invalid ("security.cloudflare: " ++ error)
  return ⟨cloudflare, healthPeerNetworks, ipBlocking, blocks⟩

end EdgeGateway.Configuration
