import EdgeGateway.HttpProxy.Authority
import EdgeGateway.HttpProxy.LateTrailers
import EdgeGateway.HttpProxy.Pool
import EdgeGateway.HttpProxy.Runtime

/-!
# The request that leaves for a backend

The proxy answers what it cannot pass on, then writes the head of the request anew: the identity
of the client, the host that the policy asks for and the framing of the body.  A response comes
back as an answer, or as a tunnel when both sides have agreed on a websocket.
-/

namespace EdgeGateway.HttpProxy

open Http Results Security

/-! ## Heads of messages -/

theorem isHeaderName_contentLength : isHeaderName "content-length".toList = true := by
  decide

def contentLength : HeaderName := ⟨"content-length", isHeaderName_contentLength⟩
def xForwardedHost : HeaderName := ⟨"x-forwarded-host", by decide⟩
def secWebsocketVersion : HeaderName := ⟨"sec-websocket-version", by decide⟩
def secWebsocketKey : HeaderName := ⟨"sec-websocket-key", by decide⟩

def teToken : HeaderValue := ⟨Utf8.encode "TE".toList, by decide⟩
def chunkedToken : HeaderValue := ⟨Utf8.encode "chunked".toList, by decide⟩

/-- What is known of a body before it is read: whether it is over, and how long it is. -/
structure BodyHint where
  isEndStream : Bool
  size : Option Nat
deriving DecidableEq, Repr

/-- The head of a response of an upstream. -/
structure ResponseHead where
  status : Nat
  version : Version
  headers : HeaderMap
deriving DecidableEq

/-- The header has a value. -/
def containsKey (headers : HeaderMap) (name : HeaderName) : Bool :=
  !(headers.getAll name).isEmpty

/-- The text of the first value of a name. -/
def textOf (headers : HeaderMap) (name : HeaderName) : Option String :=
  (headers.get name).bind HeaderValue.toStr

/-- Both texts are the same, up to the case of letters. -/
def eqIgnoreAsciiCase (left right : String) : Bool :=
  left.toList.map Char.toLower == right.toList.map Char.toLower

/-- Some value of `connection` names the upgrade. -/
def connectionUpgrades (headers : HeaderMap) : Bool :=
  (((headers.getAll connection).filterMap HeaderValue.toStr).flatMap
    fun value => value.toList.splitOn ',').any
      fun token => eqIgnoreAsciiCase (String.ofList (Text.trim token)) "upgrade"

/-! ## Requests -/

def isHttp1Upgrade (request : Request) : Bool :=
  request.version == .http11 && containsKey request.headers upgrade &&
    connectionUpgrades request.headers

/-- The request asks for an upgrade in a form that is not passed on. -/
def isUnsupportedUpgrade (request : Request) (body : BodyHint) : Bool :=
  containsKey request.headers upgrade &&
    (!isHttp1Upgrade request || request.method != .get ||
      (request.headers.getAll upgrade).length != 1 ||
      !(textOf request.headers upgrade).any (eqIgnoreAsciiCase · "websocket") ||
      textOf request.headers secWebsocketVersion != some "13" ||
      (request.headers.getAll secWebsocketKey).length != 1 ||
      !body.isEndStream)

/-- The authority that the policy of the upstream asks for. -/
def UpstreamConfig.hostAuthority (config : UpstreamConfig) (authority : String) : String :=
  match config.hostHeader with
  | .preserve => authority
  | .backend => config.authority

/-- The text of the target that the upstream is asked for. -/
def UpstreamConfig.targetText (config : UpstreamConfig) (authority target : String) : String :=
  match config.protocol with
  | .http1 => target
  | .http2 =>
      (if config.tls then "https" else "http") ++ "://" ++ config.hostAuthority authority ++ target

/-- The upstream is sent the body in chunks. -/
def forcesChunked (protocol : UpstreamProtocol) (request : Request) (body : BodyHint) : Bool :=
  protocol == .http1 &&
    ((request.version == .http2 && !body.isEndStream) || containsKey request.headers trailer ||
      (!body.isEndStream && body.size.isNone))

/-- The headers of the client's request with the identity and the host that the proxy writes. -/
def identifiedHeaders (request : Request) (address : ResolvedClientAddress) (authority : String)
    (isUpgrade : Bool) : HeaderMap :=
  let headers :=
    sanitizeClientAddressHeaders (sanitizeRequest request.headers isUpgrade) address
  match HeaderValue.fromStr authority with
  | some value => headers.insert xForwardedHost value
  | none => headers

/-- The headers that depend on the protocol of the upstream. -/
def UpstreamConfig.frameHeaders (config : UpstreamConfig) (headers : HeaderMap)
    (authority : String) (isUpgrade forceChunked : Bool) : Except Response HeaderMap :=
  match config.protocol with
  | .http1 =>
      match HeaderValue.fromStr (config.hostAuthority authority) with
      | none => .error (textResponse 502 "invalid upstream host\n")
      | some value =>
          let headers := headers.insert Routing.hostName value
          let headers := if isUpgrade then headers else headers.insert connection teToken
          .ok (if forceChunked then
            (headers.remove contentLength).insert transferEncoding chunkedToken
          else headers)
  | .http2 => .ok (headers.remove Routing.hostName)

/-- A request on its way to the upstream, with what its response is judged by. -/
structure Forwarding where
  request : Request
  protocol : UpstreamProtocol
  declaredTrailers : Option (List HeaderName)
  forceChunked : Bool
  isUpgrade : Bool
  expectedUpgrade : Option HeaderValue
  downstreamVersion : Version
  responseCanHaveBody : Bool

/-- The declared trailers of a message, where the next hop needs a declaration. -/
def declaredFor (needed : Bool) (headers : HeaderMap) (failure : Response) :
    Except Response (Option (List HeaderName)) :=
  if needed then ((declaredTrailerNames headers).mapError fun _ => failure).map some else .ok none

variable {Connector : Type}

/-- Make the request for the upstream, unless the proxy answers it: it may be stopping, and the
pool may be out of capacity. -/
def Exchange.forward (parseUri : UriParser) (stopping hasCapacity : Bool)
    (exchange : Exchange Connector) (body : BodyHint) : Except Response Forwarding := do
  let request := exchange.request
  let config := exchange.pool.config
  ensure (stopping = false) (textResponse 503 "gateway shutting down\n")
  ensure (request.method ≠ .connect)
    (textResponse 405 "CONNECT requires an explicit WebSocket route\n")
  let isUpgrade := isHttp1Upgrade request
  ensure (isUnsupportedUpgrade request body = false)
    (textResponse 400 "only WebSocket HTTP Upgrade is supported\n")
  ensure (isUpgrade = true → config.protocol = .http1)
    (textResponse 400 "HTTP Upgrade requires an HTTP/1 upstream\n")
  let authority ← (requestAuthority request).mapError fun _ =>
    textResponse 400 "invalid authority\n"
  let uri ← (parseUri (config.targetText authority exchange.target)).mapError fun _ =>
    textResponse 400 "invalid request target\n"
  let declaredTrailers ← declaredFor (config.protocol == .http1) request.headers
    (textResponse 400 "invalid Trailer declaration\n")
  let forceChunked := forcesChunked config.protocol request body
  ensure (hasCapacity = true) (textResponse 503 "upstream capacity reached\n")
  let headers ← config.frameHeaders
    (identifiedHeaders request exchange.address authority isUpgrade) authority isUpgrade
    forceChunked
  return {
    request := {
      method := request.method
      uri
      version := match config.protocol with | .http1 => .http11 | .http2 => .http2
      headers }
    protocol := config.protocol
    declaredTrailers
    forceChunked
    isUpgrade
    expectedUpgrade := request.headers.get upgrade
    downstreamVersion := request.version
    responseCanHaveBody := request.method != .head }

/-! ## Responses -/

/-- Why an upstream has sent no response. -/
inductive SendFailure
  | stopping
  | overloaded
  | failed
  | timedOut
deriving DecidableEq, Repr

/-- The answer of the proxy when there is no response. -/
def SendFailure.answer : SendFailure → Response
  | .stopping => textResponse 503 "gateway shutting down\n"
  | .overloaded => textResponse 503 "upstream unavailable\n"
  | .failed => textResponse 502 "upstream unavailable\n"
  | .timedOut => textResponse 504 "upstream response timeout\n"

/-- A response on its way to the client. -/
structure Delivery where
  head : ResponseHead
  isTunnel : Bool
  declaredTrailers : Option (List HeaderName) := none
  forceChunked : Bool := false

/-- The upstream has accepted the upgrade that the client has offered. -/
def acceptsUpgrade (forwarding : Forwarding) (response : ResponseHead) : Bool :=
  let sameProtocol :=
    match textOf response.headers upgrade, forwarding.expectedUpgrade.bind HeaderValue.toStr with
    | some accepted, some offered => eqIgnoreAsciiCase accepted offered
    | _, _ => false
  forwarding.isUpgrade && sameProtocol && connectionUpgrades response.headers &&
    (response.headers.getAll upgrade).length == 1

/-- Make the response for the client. -/
def Forwarding.deliver (forwarding : Forwarding) (response : ResponseHead) (body : BodyHint) :
    Except Response Delivery := do
  if response.status = 101 then
    ensure (acceptsUpgrade forwarding response = true)
      (textResponse 502 "invalid upstream upgrade\n")
    -- Only a connection of the first version can be turned into a tunnel.
    ensure (forwarding.protocol = .http1) (textResponse 502 "invalid upstream upgrade\n")
    return {
      head := {
        response with
        version := forwarding.downstreamVersion
        headers := sanitizeResponse response.headers true }
      isTunnel := true }
  else
    let headers := sanitizeResponse response.headers false
    let declaredTrailers ← declaredFor (forwarding.downstreamVersion != .http2) headers
      (textResponse 502 "invalid upstream Trailer declaration\n")
    let forceChunked := forwarding.downstreamVersion == .http11 &&
      forwarding.responseCanHaveBody && containsKey headers trailer && !body.isEndStream
    return {
      head := {
        response with
        version := forwarding.downstreamVersion
        headers := if forceChunked then headers.remove contentLength else headers }
      isTunnel := false
      declaredTrailers
      forceChunked }

/-- Proxy a request: it is sent at most once. -/
def Exchange.proxy (parseUri : UriParser) (stopping hasCapacity : Bool)
    (exchange : Exchange Connector) (body : BodyHint)
    (send : Request → Except SendFailure (ResponseHead × BodyHint)) :
    Except Response Delivery := do
  let forwarding ← exchange.forward parseUri stopping hasCapacity body
  let (response, responseBody) ← (send forwarding.request).mapError SendFailure.answer
  forwarding.deliver response responseBody

/-! ## What a forwarded request has passed -/

/-- A request that is passed on has passed every check, in the order of the checks. -/
structure Passes (parseUri : UriParser) (exchange : Exchange Connector) (body : BodyHint)
    (authority : String) (forwarding : Forwarding) : Prop where
  method : exchange.request.method ≠ .connect
  supported : isUnsupportedUpgrade exchange.request body = false
  upgradable : isHttp1Upgrade exchange.request = true → exchange.pool.config.protocol = .http1
  named : requestAuthority exchange.request = .ok authority
  parsed : parseUri (exchange.pool.config.targetText authority exchange.target) =
    .ok forwarding.request.uri
  declared : ∀ failure, declaredFor (exchange.pool.config.protocol == .http1)
    exchange.request.headers failure = .ok forwarding.declaredTrailers
  framed : exchange.pool.config.frameHeaders
    (identifiedHeaders exchange.request exchange.address authority forwarding.isUpgrade) authority
    forwarding.isUpgrade forwarding.forceChunked = .ok forwarding.request.headers
  same_method : forwarding.request.method = exchange.request.method
  protocol : forwarding.protocol = exchange.pool.config.protocol
  chunked : forwarding.forceChunked =
    forcesChunked exchange.pool.config.protocol exchange.request body
  isUpgrade : forwarding.isUpgrade = isHttp1Upgrade exchange.request
  expected : forwarding.expectedUpgrade = exchange.request.headers.get upgrade
  downstream : forwarding.downstreamVersion = exchange.request.version
  hasBody : forwarding.responseCanHaveBody = (exchange.request.method != .head)

theorem declaredFor_eq_ok {needed : Bool} {headers : HeaderMap} {failure : Response}
    {declared : Option (List HeaderName)} :
    declaredFor needed headers failure = .ok declared ↔
      (needed = true ∧ ∃ names, declaredTrailerNames headers = .ok names ∧
        declared = some names) ∨ (needed = false ∧ declared = none) := by
  cases needed with
  | false => simp [declaredFor, eq_comm]
  | true =>
      simp only [declaredFor, if_true, map_eq_ok, mapError_eq_ok, true_and, Bool.true_eq_false,
        false_and, or_false]
      exact exists_congr fun names => and_congr_right fun _ => eq_comm

theorem passes_of_forward {parseUri : UriParser} {stopping hasCapacity : Bool}
    {exchange : Exchange Connector} {body : BodyHint} {forwarding : Forwarding}
    (made : exchange.forward parseUri stopping hasCapacity body = .ok forwarding) :
    ∃ authority, Passes parseUri exchange body authority forwarding := by
  simp only [Exchange.forward, bind_eq_ok, ensure_eq_ok, mapError_eq_ok, exists_const] at made
  obtain ⟨_, method, supported, upgradable, authority, named, uri, parsed, declared, listed, _,
    headers, framed, made⟩ := made
  cases made
  have every_failure (failure : Response) :
      declaredFor (exchange.pool.config.protocol == .http1) exchange.request.headers failure =
        .ok declared :=
    declaredFor_eq_ok.mpr (declaredFor_eq_ok.mp listed)
  exact ⟨authority, method, supported, upgradable, named, parsed, every_failure, framed, rfl, rfl,
    rfl, rfl, rfl, rfl, rfl⟩

/-! ## Readings of the head -/

theorem containsKey_iff {headers : HeaderMap} {name : HeaderName} :
    containsKey headers name = true ↔ headers.getAll name ≠ [] := by
  rw [containsKey, Bool.not_eq_true', List.isEmpty_eq_false_iff]

theorem connectionUpgrades_iff {headers : HeaderMap} :
    connectionUpgrades headers = true ↔ VisiblyNamed headers upgrade := by
  have text : upgrade.text.toList = "upgrade".toList.map Char.toLower := by decide
  rw [← mem_connectionNames_iff, connectionUpgrades, connectionNames]
  simp only [List.any_eq_true, List.mem_filterMap, fromBytes_eq_some, eqIgnoreAsciiCase,
    String.toList_ofList, beq_iff_eq, text]

/-- Exactly one value, with a text that names the websocket. -/
def NamesWebsocket (headers : HeaderMap) : Prop :=
  ∃ value text, headers.getAll upgrade = [value] ∧ value.toStr = some text ∧
    eqIgnoreAsciiCase text "websocket" = true

/-- The request asks for a websocket. -/
structure OffersWebsocket (request : Request) (body : BodyHint) : Prop where
  version : request.version = .http11
  method : request.method = .get
  protocol : NamesWebsocket request.headers
  connection : VisiblyNamed request.headers upgrade
  handshake : textOf request.headers secWebsocketVersion = some "13"
  key : (request.headers.getAll secWebsocketKey).length = 1
  empty : body.isEndStream = true

theorem isHttp1Upgrade_iff {request : Request} :
    isHttp1Upgrade request = true ↔ request.version = .http11 ∧
      request.headers.getAll upgrade ≠ [] ∧ VisiblyNamed request.headers upgrade := by
  rw [isHttp1Upgrade, Bool.and_eq_true, Bool.and_eq_true, beq_iff_eq, containsKey_iff,
    connectionUpgrades_iff, and_assoc]

theorem namesWebsocket_iff {headers : HeaderMap} :
    NamesWebsocket headers ↔ (headers.getAll upgrade).length = 1 ∧
      (textOf headers upgrade).any (eqIgnoreAsciiCase · "websocket") = true := by
  simp only [NamesWebsocket, textOf, HeaderMap.get, Option.any_eq_true]
  constructor
  · rintro ⟨value, text, only, shown, same⟩
    rw [only]
    exact ⟨rfl, text, shown, same⟩
  · rintro ⟨single, text, shown, same⟩
    obtain ⟨value, only⟩ := List.length_eq_one_iff.mp single
    rw [only] at shown
    exact ⟨value, text, only, shown, same⟩

/-- An upgrade is passed on exactly when the request asks for a websocket. -/
theorem offersWebsocket_iff {request : Request} {body : BodyHint}
    (supported : isUnsupportedUpgrade request body = false) :
    isHttp1Upgrade request = true ↔ OffersWebsocket request body := by
  constructor
  · intro upgrades
    have present := (isHttp1Upgrade_iff.mp upgrades).2.1
    rw [← containsKey_iff] at present
    simp only [isUnsupportedUpgrade, present, upgrades, Bool.true_and, Bool.not_true,
      Bool.false_or, Bool.or_eq_false_iff, bne_eq_false_iff_eq, Bool.not_eq_false'] at supported
    obtain ⟨⟨⟨⟨⟨method, single⟩, named⟩, handshake⟩, key⟩, empty⟩ := supported
    obtain ⟨version, _, connected⟩ := isHttp1Upgrade_iff.mp upgrades
    have websocket : NamesWebsocket request.headers := namesWebsocket_iff.mpr ⟨single, named⟩
    exact ⟨version, method, websocket, connected, handshake, key, empty⟩
  · intro offers
    obtain ⟨value, _, only, _⟩ := offers.protocol
    exact isHttp1Upgrade_iff.mpr ⟨offers.version, by simp [only], offers.connection⟩

/-! ## The headers of the forwarded request -/

/-- The characters of an admitted host have a text. -/
theorem visible_of_normalizeDnsHost {text host : String}
    (normalized : Routing.normalizeDnsHost text = .ok host) :
    ∀ character ∈ text.toList, 0x20 ≤ character.toNat ∧ character.toNat < 0x7F := by
  obtain ⟨valid, _⟩ := Routing.normalizeDnsHost_eq_ok.mp normalized
  have dot : 0x20 ≤ '.'.toNat ∧ '.'.toNat < 0x7F := by decide
  have inside (character : Char) (member : character ∈ Routing.dropFinalDot text.toList) :
      0x20 ≤ character.toNat ∧ character.toNat < 0x7F := by
    by_cases same : character = '.'
    · exact same ▸ dot
    obtain ⟨label, part, inside⟩ := Splitting.exists_part_of_mem member same
    have admitted := valid.labels label part
    simp only [Routing.isInvalidLabel, Bool.or_eq_false_iff, Bool.not_eq_false',
      List.all_eq_true, Bool.or_eq_true, beq_iff_eq] at admitted
    rcases admitted.2 character inside with letter | rfl
    · have range := (AsciiCase.isAlphanum_iff character).mp letter
      omega
    · decide
  intro character member
  rw [Routing.dropFinalDot] at inside
  split_ifs at inside with dotted
  · obtain ⟨front, same⟩ := List.getLast?_eq_some_iff.mp dotted
    rw [same, List.dropLast_concat] at inside
    rw [same, List.mem_append, List.mem_singleton] at member
    rcases member with member | rfl
    · exact inside character member
    · exact dot
  · exact inside character member

theorem visible_of_names {host authority : String} (names : Names host authority) :
    ∀ character ∈ authority.toList, 0x20 ≤ character.toNat ∧ character.toNat < 0x7F := by
  obtain ⟨port, accepted⟩ := names_iff.mp names
  cases split : Text.splitOnce ':' authority.toList with
  | none =>
      rw [Routing.normalizeAuthority_of_none split, map_eq_ok] at accepted
      obtain ⟨_, normalized, _⟩ := accepted
      exact visible_of_normalizeDnsHost normalized
  | some parts =>
      obtain ⟨name, digits⟩ := parts
      obtain ⟨⟨_, decimal⟩, _, _, _, normalized, _⟩ :=
        (Routing.normalizeAuthority_of_some split).mp accepted
      rw [(Text.splitOnce_eq_some.mp split).2]
      intro character member
      rw [List.mem_append, List.mem_cons] at member
      rcases member with front | rfl | back
      · exact visible_of_normalizeDnsHost normalized character (by simpa using front)
      · decide
      · have digit := List.all_eq_true.mp decimal character back
        have range := (AsciiCase.isAlphanum_iff character).mp (by simp [Char.isAlphanum, digit])
        omega

/-- The authority that is passed on names the host, and a header can carry it. -/
theorem headerValue_of_requestAuthority {request : Request} {authority : String}
    (named : requestAuthority request = .ok authority) :
    ∃ host value, Routing.resolveRequestHost request = .ok host ∧
      Routing.normalizeDnsHost (Routing.hostPart authority) = .ok host ∧
      HeaderValue.fromStr authority = some value ∧ value.toStr = some authority := by
  obtain ⟨host, resolved, _⟩ := bind_eq_ok.mp named
  obtain ⟨header, agrees⟩ := resolveRequestHost_eq_ok.mp resolved
  obtain ⟨own, found, names⟩ := agrees.forwarded
  cases named.symm.trans found
  obtain ⟨value, written, shown⟩ := HeaderValue.toStr_fromStr (visible_of_names names)
  obtain ⟨port, accepted⟩ := names_iff.mp names
  exact ⟨host, value, resolved, (Routing.normalizeAuthority_parts accepted).1, written, shown⟩

theorem getAll_identifiedHeaders {request : Request} {address : ResolvedClientAddress}
    {authority : String} {value : HeaderValue}
    (written : HeaderValue.fromStr authority = some value) (isUpgrade : Bool)
    (name : HeaderName) :
    (identifiedHeaders request address authority isUpgrade).getAll name =
      if name = xForwardedHost then [value]
      else (sanitizeClientAddressHeaders (sanitizeRequest request.headers isUpgrade)
        address).getAll name := by
  simp only [identifiedHeaders, written]
  exact Multimap.getAll_insert _ _ _ _

variable {config : UpstreamConfig} {headers result : HeaderMap} {authority : String}
  {isUpgrade forceChunked : Bool}

/-- An upstream of the first version is told the host, the connection and the framing. -/
theorem getAll_frameHeaders_http1 (first : config.protocol = .http1)
    (framed : config.frameHeaders headers authority isUpgrade forceChunked = .ok result) :
    ∃ value, HeaderValue.fromStr (config.hostAuthority authority) = some value ∧
      ∀ name, result.getAll name =
        if forceChunked = true ∧ name = transferEncoding then [chunkedToken]
        else if forceChunked = true ∧ name = contentLength then []
        else if isUpgrade = false ∧ name = connection then [teToken]
        else if name = Routing.hostName then [value]
        else headers.getAll name := by
  simp only [UpstreamConfig.frameHeaders, first] at framed
  cases written : HeaderValue.fromStr (config.hostAuthority authority) with
  | none =>
      rw [written] at framed
      cases framed
  | some value =>
      rw [written] at framed
      refine ⟨value, rfl, fun name => ?_⟩
      rw [← Except.ok.inj framed]
      cases isUpgrade with
      | true =>
          cases forceChunked with
          | true => simp [Multimap.getAll_insert, Multimap.getAll_remove]
          | false => simp [Multimap.getAll_insert]
      | false =>
          cases forceChunked with
          | true => simp [Multimap.getAll_insert, Multimap.getAll_remove]
          | false => simp [Multimap.getAll_insert]

/-- An upstream of the second version is told the host by the target. -/
theorem getAll_frameHeaders_http2 (second : config.protocol = .http2)
    (framed : config.frameHeaders headers authority isUpgrade forceChunked = .ok result)
    (name : HeaderName) :
    result.getAll name = if name = Routing.hostName then [] else headers.getAll name := by
  simp only [UpstreamConfig.frameHeaders, second] at framed
  rw [← Except.ok.inj framed, Multimap.getAll_remove]

/-- Apart from the host, the connection and the framing, the upstream is sent the headers of the
client without those of the hop, and with the identity of the client. -/
theorem Passes.getAll_sent {parseUri : UriParser} {exchange : Exchange Connector} {body : BodyHint}
    {forwarding : Forwarding} (passes : Passes parseUri exchange body authority forwarding)
    {name : HeaderName} (unnamed : name ∉ [Routing.hostName, xForwardedHost])
    (unframed : forwarding.forceChunked = true → name ∉ [transferEncoding, contentLength])
    (unconnected : name = connection →
      forwarding.isUpgrade = true ∨ exchange.pool.config.protocol = .http2) :
    forwarding.request.headers.getAll name =
      (sanitizeClientAddressHeaders
        (sanitizeRequest exchange.request.headers forwarding.isUpgrade) exchange.address).getAll
          name := by
  obtain ⟨_, value, _, _, written, _⟩ := headerValue_of_requestAuthority passes.named
  simp only [List.mem_cons, List.not_mem_nil, or_false, not_or] at unnamed unframed
  have identified : (identifiedHeaders exchange.request exchange.address authority
      forwarding.isUpgrade).getAll name = _ :=
    (getAll_identifiedHeaders written forwarding.isUpgrade name).trans (if_neg unnamed.2)
  rw [← identified]
  cases protocol : exchange.pool.config.protocol with
  | http1 =>
      obtain ⟨_, _, values⟩ := getAll_frameHeaders_http1 protocol passes.framed
      rw [values, if_neg fun named => (unframed named.1).1 named.2,
        if_neg fun named => (unframed named.1).2 named.2, if_neg ?_, if_neg unnamed.1]
      rintro ⟨ordinary, named⟩
      rcases unconnected named with upgrades | second
      · rw [upgrades] at ordinary
        cases ordinary
      · rw [protocol] at second
        cases second
  | http2 => rw [getAll_frameHeaders_http2 protocol passes.framed, if_neg unnamed.1]

/-- The upstream is told which authority the client has asked for. -/
theorem Passes.getAll_xForwardedHost {parseUri : UriParser} {exchange : Exchange Connector}
    {body : BodyHint} {forwarding : Forwarding}
    (passes : Passes parseUri exchange body authority forwarding) {value : HeaderValue}
    (written : HeaderValue.fromStr authority = some value) :
    forwarding.request.headers.getAll xForwardedHost = [value] := by
  have identified : (identifiedHeaders exchange.request exchange.address authority
      forwarding.isUpgrade).getAll xForwardedHost = [value] :=
    (getAll_identifiedHeaders written _ _).trans (if_pos rfl)
  rw [← identified]
  cases protocol : exchange.pool.config.protocol with
  | http1 =>
      obtain ⟨_, _, values⟩ := getAll_frameHeaders_http1 protocol passes.framed
      rw [values, if_neg fun named => absurd named.2 (by decide),
        if_neg fun named => absurd named.2 (by decide),
        if_neg fun named => absurd named.2 (by decide), if_neg (by decide)]
  | http2 => rw [getAll_frameHeaders_http2 protocol passes.framed, if_neg (by decide)]

/-! ## Tunnels -/

/-- The upstream agrees to a websocket. -/
structure SelectsWebsocket (response : ResponseHead) : Prop where
  status : response.status = 101
  protocol : NamesWebsocket response.headers
  connection : VisiblyNamed response.headers upgrade

theorem eqIgnoreAsciiCase_iff {left right : String} :
    eqIgnoreAsciiCase left right = true ↔
      left.toList.map Char.toLower = right.toList.map Char.toLower := by
  rw [eqIgnoreAsciiCase, beq_iff_eq]

/-- What the upstream accepts is compared with what the client has offered. -/
theorem acceptsUpgrade_iff {parseUri : UriParser} {exchange : Exchange Connector} {body : BodyHint}
    {forwarding : Forwarding} (passes : Passes parseUri exchange body authority forwarding)
    {response : ResponseHead} :
    acceptsUpgrade forwarding response = true ↔ OffersWebsocket exchange.request body ∧
      NamesWebsocket response.headers ∧ VisiblyNamed response.headers upgrade := by
  rw [← offersWebsocket_iff passes.supported, ← connectionUpgrades_iff, namesWebsocket_iff,
    acceptsUpgrade, passes.isUpgrade, passes.expected]
  cases upgrades : isHttp1Upgrade exchange.request with
  | false => simp
  | true =>
      obtain ⟨value, offered, only, shown, same⟩ :=
        ((offersWebsocket_iff passes.supported).mp upgrades).protocol
      rw [eqIgnoreAsciiCase_iff] at same
      have first :
          (exchange.request.headers.get upgrade).bind HeaderValue.toStr = some offered := by
        rw [HeaderMap.get, only, List.head?_cons, Option.bind_some, shown]
      rw [first]
      cases textOf response.headers upgrade with
      | none => simp
      | some accepted =>
          have compared : eqIgnoreAsciiCase accepted offered =
              eqIgnoreAsciiCase accepted "websocket" := by
            rw [Bool.eq_iff_iff, eqIgnoreAsciiCase_iff, eqIgnoreAsciiCase_iff, same]
          simp only [compared, Option.any_some, Bool.true_and, Bool.and_eq_true, beq_iff_eq,
            true_and]
          tauto

variable {parseUri : UriParser} {stopping hasCapacity : Bool} {exchange : Exchange Connector}
  {body : BodyHint} {send : Request → Except SendFailure (ResponseHead × BodyHint)}
  {delivery : Delivery} {forwarding : Forwarding} {response : ResponseHead}
  {responseBody : BodyHint}

theorem proxy_eq_ok :
    exchange.proxy parseUri stopping hasCapacity body send = .ok delivery ↔
      ∃ forwarding response responseBody,
        exchange.forward parseUri stopping hasCapacity body = .ok forwarding ∧
          send forwarding.request = .ok (response, responseBody) ∧
          forwarding.deliver response responseBody = .ok delivery := by
  simp only [Exchange.proxy, bind_eq_ok, mapError_eq_ok, Prod.exists]
  constructor
  · rintro ⟨forwarding, made, response, responseBody, sent, delivered⟩
    exact ⟨forwarding, response, responseBody, made, sent, delivered⟩
  · rintro ⟨forwarding, response, responseBody, made, sent, delivered⟩
    exact ⟨forwarding, made, response, responseBody, sent, delivered⟩

/-- A response that switches protocols becomes a tunnel, or is answered by the proxy. -/
theorem deliver_switching (passes : Passes parseUri exchange body authority forwarding)
    (switching : response.status = 101) :
    forwarding.deliver response responseBody = .ok delivery ↔
      (OffersWebsocket exchange.request body ∧ NamesWebsocket response.headers ∧
        VisiblyNamed response.headers upgrade) ∧
      delivery = {
        head := {
          response with
          version := exchange.request.version
          headers := sanitizeResponse response.headers true }
        isTunnel := true } := by
  simp only [Forwarding.deliver, switching, if_true, bind_eq_ok, ensure_eq_ok, exists_const,
    acceptsUpgrade_iff passes, passes.downstream, passes.protocol]
  constructor
  · rintro ⟨agreed, _, made⟩
    cases made
    exact ⟨agreed, rfl⟩
  · rintro ⟨agreed, rfl⟩
    have upgrades := (offersWebsocket_iff passes.supported).mpr agreed.1
    exact ⟨agreed, passes.upgradable upgrades, rfl⟩

/-- Any other response is passed on as what it is. -/
theorem deliver_other (passes : Passes parseUri exchange body authority forwarding)
    (other : response.status ≠ 101)
    (delivered : forwarding.deliver response responseBody = .ok delivery) :
    delivery.isTunnel = false ∧ delivery.head.status = response.status ∧
      delivery.head.version = exchange.request.version ∧
      (∀ failure, declaredFor (exchange.request.version != .http2)
        (sanitizeResponse response.headers false) failure = .ok delivery.declaredTrailers) ∧
      delivery.forceChunked = (exchange.request.version == .http11 &&
        exchange.request.method != .head &&
        containsKey (sanitizeResponse response.headers false) trailer &&
        !responseBody.isEndStream) ∧
      ∀ name, delivery.head.headers.getAll name =
        if delivery.forceChunked = true ∧ name = contentLength then []
        else (sanitizeResponse response.headers false).getAll name := by
  simp only [Forwarding.deliver, other, if_false, bind_eq_ok, passes.downstream,
    passes.hasBody] at delivered
  obtain ⟨declared, listed, made⟩ := delivered
  cases made
  refine ⟨rfl, rfl, rfl, fun failure => ?_, rfl, fun name => ?_⟩
  · exact declaredFor_eq_ok.mpr (declaredFor_eq_ok.mp listed)
  · dsimp only
    split_ifs with chunked named named
    · rw [named.2, Multimap.getAll_remove, if_pos rfl]
    · rw [Multimap.getAll_remove, if_neg fun same => named ⟨chunked, same⟩]
    · exact absurd named.1 chunked
    · rfl

/-- The upstream is asked for the websocket in the words of the client. -/
theorem getAll_of_offersWebsocket (passes : Passes parseUri exchange body authority forwarding)
    (offers : OffersWebsocket exchange.request body) :
    forwarding.protocol = .http1 ∧
      forwarding.request.headers.getAll connection = [upgradeToken] ∧
      forwarding.request.headers.getAll upgrade = exchange.request.headers.getAll upgrade := by
  have upgrades := (offersWebsocket_iff passes.supported).mpr offers
  have offered : forwarding.isUpgrade = true := passes.isUpgrade.trans upgrades
  have plain : ∀ name ∈ [connection, upgrade], name ∉ [Routing.hostName, xForwardedHost] ∧
      name ∉ [transferEncoding, contentLength] ∧ name ≠ te ∧ name ∉ requestHopNames ∧
      ∀ trustedProxy, isStripped trustedProxy name = false := by decide
  have kept (name : HeaderName) (member : name ∈ [connection, upgrade]) :
      forwarding.request.headers.getAll name =
        (sanitizeHopHeaders exchange.request.headers true).getAll name := by
    obtain ⟨unnamed, unframed, not_te, not_hop, unstripped⟩ := plain name member
    rw [passes.getAll_sent unnamed (fun _ => unframed) (fun _ => .inl offered), offered,
      sanitize_frame _ _ (unstripped _), getAll_request, if_neg not_te, if_neg not_hop]
  refine ⟨passes.protocol.trans (passes.upgradable upgrades), ?_, ?_⟩
  · rw [kept _ (by simp), getAll_sanitizeHopHeaders, if_pos rfl, if_pos rfl]
  · rw [kept _ (by simp), getAll_sanitizeHopHeaders, if_neg (by decide), if_neg (by decide),
      if_pos rfl, if_pos rfl]

/-- The client is told of the websocket in the words of the upstream. -/
theorem getAll_sanitizeResponse_upgrade (headers : HeaderMap) (isUpgrade : Bool) :
    (sanitizeResponse headers isUpgrade).getAll connection =
        (if isUpgrade then [upgradeToken] else []) ∧
      (sanitizeResponse headers isUpgrade).getAll upgrade =
        if isUpgrade then headers.getAll upgrade else [] := by
  constructor
  · rw [getAll_response, if_neg (by decide), if_neg (by decide), getAll_sanitizeHopHeaders,
      if_pos rfl]
  · rw [getAll_response, if_neg (by decide), if_neg (by decide), getAll_sanitizeHopHeaders,
      if_neg (by decide), if_neg (by decide), if_pos rfl]

/-- A request becomes a tunnel exactly when the client asks for a websocket and the upstream agrees
to it; both are told so, and a response that switches protocols passes in no other way. -/
theorem tunnel_agreed (parseUri : UriParser) (stopping hasCapacity : Bool)
    (exchange : Exchange Connector) (body : BodyHint)
    (send : Request → Except SendFailure (ResponseHead × BodyHint)) :
    ((∃ delivery, exchange.proxy parseUri stopping hasCapacity body send = .ok delivery ∧
        delivery.isTunnel = true) ↔
      ∃ forwarding response responseBody,
        exchange.forward parseUri stopping hasCapacity body = .ok forwarding ∧
        send forwarding.request = .ok (response, responseBody) ∧
        OffersWebsocket exchange.request body ∧ SelectsWebsocket response) ∧
    ∀ forwarding response responseBody delivery,
      exchange.forward parseUri stopping hasCapacity body = .ok forwarding →
      send forwarding.request = .ok (response, responseBody) →
      exchange.proxy parseUri stopping hasCapacity body send = .ok delivery →
      delivery.head.status = response.status ∧
      delivery.head.version = exchange.request.version ∧
      (delivery.isTunnel = true ↔ delivery.head.status = 101) ∧
      (delivery.isTunnel = true →
        forwarding.protocol = .http1 ∧
        forwarding.request.headers.getAll connection = [upgradeToken] ∧
        forwarding.request.headers.getAll upgrade = exchange.request.headers.getAll upgrade ∧
        delivery.head.headers.getAll connection = [upgradeToken] ∧
        delivery.head.headers.getAll upgrade = response.headers.getAll upgrade) ∧
      (delivery.isTunnel = false →
        delivery.head.headers.getAll connection = [] ∧
        delivery.head.headers.getAll upgrade = []) := by
  constructor
  · constructor
    · rintro ⟨delivery, proxied, tunnel⟩
      obtain ⟨forwarding, response, responseBody, made, sent, delivered⟩ := proxy_eq_ok.mp proxied
      obtain ⟨authority, passes⟩ := passes_of_forward made
      by_cases switching : response.status = 101
      · obtain ⟨⟨offers, named, connected⟩, _⟩ := (deliver_switching passes switching).mp delivered
        exact ⟨forwarding, response, responseBody, made, sent, offers,
          ⟨switching, named, connected⟩⟩
      · have plain := (deliver_other passes switching delivered).1
        rw [plain] at tunnel
        cases tunnel
    · rintro ⟨forwarding, response, responseBody, made, sent, offers, selects⟩
      obtain ⟨authority, passes⟩ := passes_of_forward made
      have agreed : OffersWebsocket exchange.request body ∧ NamesWebsocket response.headers ∧
          VisiblyNamed response.headers upgrade := ⟨offers, selects.protocol, selects.connection⟩
      obtain ⟨delivery, delivered, tunnel⟩ : ∃ delivery,
          forwarding.deliver response responseBody = .ok delivery ∧ delivery.isTunnel = true :=
        ⟨_, (deliver_switching passes selects.status).mpr ⟨agreed, rfl⟩, rfl⟩
      exact ⟨delivery,
        proxy_eq_ok.mpr ⟨forwarding, response, responseBody, made, sent, delivered⟩, tunnel⟩
  · intro forwarding response responseBody delivery made sent proxied
    obtain ⟨own, found, foundBody, own_made, own_sent, delivered⟩ := proxy_eq_ok.mp proxied
    cases made.symm.trans own_made
    cases sent.symm.trans own_sent
    obtain ⟨authority, passes⟩ := passes_of_forward made
    by_cases switching : response.status = 101
    · obtain ⟨⟨offers, _⟩, rfl⟩ := (deliver_switching passes switching).mp delivered
      obtain ⟨protocol, asked, words⟩ := getAll_of_offersWebsocket passes offers
      obtain ⟨told, answered⟩ := getAll_sanitizeResponse_upgrade response.headers true
      refine ⟨rfl, rfl, iff_of_true rfl switching, ?_, fun plain => by cases plain⟩
      exact fun _ => ⟨protocol, asked, words, told, answered⟩
    · obtain ⟨plain, status, version, _, _, values⟩ :=
        deliver_other passes switching delivered
      obtain ⟨told, answered⟩ := getAll_sanitizeResponse_upgrade response.headers false
      have silent : ¬delivery.isTunnel = true := by
        rw [plain]
        exact Bool.false_ne_true
      refine ⟨status, version, iff_of_false silent (status ▸ switching), fun tunnel => ?_,
        fun _ => ⟨?_, ?_⟩⟩
      · exact absurd tunnel silent
      · rw [values, if_neg fun named => absurd named.2 (by decide), told]
        rfl
      · rw [values, if_neg fun named => absurd named.2 (by decide), answered]
        rfl

/-- The pool of an upstream of the first version on the same machine. -/
def localPool : UpstreamPool Unit where
  config := {
    endpoint := "http://127.0.0.1:3000"
    address := ⟨.v4 0x7F000001#32, 3000, 0⟩
    authority := "127.0.0.1:3000"
    tls := false
    protocol := .http1
    hostHeader := .preserve
    tlsServerName := .requestHost
    caFile := none
    pool := defaultPool }
  tlsName := none
  connector := none

/-- A parser that finds a path in every target. -/
def pathUri : UriParser :=
  fun target => .ok ⟨none, none, none, none, some ⟨target, none⟩⟩

theorem isValue_thirteen : (Utf8.encode "13".toList).all isValueByte = true := by decide

/-- The websocket as the client names it. -/
def offeredToken : HeaderValue := ⟨Utf8.encode "WebSocket".toList, by decide⟩

/-- A client that asks for a websocket. -/
def websocketExchange : Exchange Unit where
  request := {
    method := .get
    uri := ⟨none, none, none, none, some ⟨"/socket", none⟩⟩
    version := .http11
    headers := [(Routing.hostName, ⟨Utf8.encode "sockets.example.com".toList, by decide⟩),
      (connection, ⟨Utf8.encode "keep-alive, Upgrade".toList, by decide⟩),
      (upgrade, offeredToken),
      (secWebsocketVersion, ⟨Utf8.encode "13".toList, isValue_thirteen⟩),
      (secWebsocketKey, ⟨Utf8.encode "dGhlIHNhbXBsZSBub25jZQ==".toList, by decide⟩)] }
  pool := localPool
  target := "/socket"
  address := directAddress

/-- An upstream that agrees to the websocket. -/
def switchingResponse : ResponseHead where
  status := 101
  version := .http11
  headers := [(connection, ⟨Utf8.encode "Upgrade".toList, by decide⟩),
    (upgrade, ⟨Utf8.encode "WEBSOCKET".toList, by decide⟩)]

theorem offersWebsocket_sample :
    OffersWebsocket websocketExchange.request ⟨true, some 0⟩ where
  version := rfl
  method := rfl
  protocol := ⟨offeredToken, "WebSocket", rfl, by decide +kernel, by decide +kernel⟩
  connection := connectionUpgrades_iff.mp (by decide +kernel)
  handshake := by decide +kernel
  key := rfl
  empty := rfl

theorem selectsWebsocket_sample : SelectsWebsocket switchingResponse where
  status := rfl
  protocol := ⟨_, "WEBSOCKET", rfl, by decide +kernel, by decide +kernel⟩
  connection := connectionUpgrades_iff.mp (by decide +kernel)

/-- A client and an upstream that agree on a websocket get a tunnel, in their own words. -/
theorem tunnel_agreed_websocket :
    ∃ forwarding delivery,
      websocketExchange.forward pathUri false true ⟨true, some 0⟩ = .ok forwarding ∧
      websocketExchange.proxy pathUri false true ⟨true, some 0⟩
        (fun _ => .ok (switchingResponse, ⟨true, none⟩)) = .ok delivery ∧
      delivery.isTunnel = true ∧ delivery.head.status = 101 ∧
      forwarding.request.headers.getAll connection = [upgradeToken] ∧
      forwarding.request.headers.getAll upgrade = [offeredToken] ∧
      delivery.head.headers.getAll upgrade = switchingResponse.headers.getAll upgrade := by
  obtain ⟨forwarding, made⟩ : ∃ forwarding,
      websocketExchange.forward pathUri false true ⟨true, some 0⟩ = .ok forwarding :=
    exists_of_isOk (by decide +kernel)
  obtain ⟨agreed, words⟩ := tunnel_agreed pathUri false true websocketExchange ⟨true, some 0⟩
    fun _ => .ok (switchingResponse, ⟨true, none⟩)
  obtain ⟨delivery, proxied, tunnel⟩ :=
    agreed.mpr ⟨forwarding, switchingResponse, ⟨true, none⟩, made, rfl,
      offersWebsocket_sample, selectsWebsocket_sample⟩
  obtain ⟨status, _, _, told, _⟩ :=
    words forwarding switchingResponse ⟨true, none⟩ delivery made rfl proxied
  obtain ⟨_, asked, kept, _, answered⟩ := told tunnel
  exact ⟨forwarding, delivery, made, proxied, tunnel, status, asked, kept, answered⟩

/-! ## Announced trailers -/

/-- What the first version of the protocol needs for a trailer: the head has listed it, and what is
sent says nothing about the length of the body. -/
structure Announced (head sent : HeaderMap) (coding : List HeaderValue) (name : HeaderName) :
    Prop where
  listed : ∃ value ∈ head.getAll trailer, Lists value name
  coded : sent.getAll transferEncoding = coding
  unsized : sent.getAll contentLength = []

theorem containsKey_of_lists {head : HeaderMap} {name : HeaderName}
    (listed : ∃ value ∈ head.getAll trailer, Lists value name) :
    containsKey head trailer = true := by
  obtain ⟨value, member, _⟩ := listed
  exact containsKey_iff.mpr (List.ne_nil_of_mem member)

/-- The declared trailers of a message are those of its head. -/
theorem lists_of_declaredFor {needed : Bool} {head trailers result : HeaderMap}
    {declared : Option (List HeaderName)} {name : HeaderName} (need : needed = true)
    (found : ∀ failure, declaredFor needed head failure = .ok declared)
    (passed : sanitizeStreamFrame (.trailers trailers) declared = .ok (.trailers result))
    (present : result.getAll name ≠ []) : ∃ value ∈ head.getAll trailer, Lists value name := by
  rcases declaredFor_eq_ok.mp (found (textResponse 400 "")) with ⟨_, names, read, rfl⟩ | ⟨other, _⟩
  · exact declared_before_late read passed present
  · rw [need] at other
    cases other

/-- No trailer leaves for a hop of the first version unless the head of its message has listed it
and has left the length of the body open. -/
theorem trailers_announced (parseUri : UriParser) (stopping hasCapacity : Bool)
    (exchange : Exchange Connector) (body : BodyHint) (forwarding : Forwarding)
    (made : exchange.forward parseUri stopping hasCapacity body = .ok forwarding) :
    (∀ trailers result name, forwarding.protocol = .http1 →
      sanitizeStreamFrame (.trailers trailers) forwarding.declaredTrailers =
        .ok (.trailers result) →
      result.getAll name ≠ [] →
      Announced exchange.request.headers forwarding.request.headers [chunkedToken] name ∧
        (¬VisiblyNamed exchange.request.headers trailer →
          forwarding.request.headers.getAll trailer =
            exchange.request.headers.getAll trailer)) ∧
    ∀ response responseBody delivery trailers result name,
      forwarding.deliver response responseBody = .ok delivery → delivery.isTunnel = false →
      exchange.request.version = .http11 → exchange.request.method ≠ .head →
      responseBody.isEndStream = false →
      sanitizeStreamFrame (.trailers trailers) delivery.declaredTrailers =
        .ok (.trailers result) →
      result.getAll name ≠ [] →
      Announced delivery.head.headers delivery.head.headers [] name := by
  obtain ⟨authority, passes⟩ := passes_of_forward made
  constructor
  · intro trailers result name protocol passed present
    have first := passes.protocol.symm.trans protocol
    have listed := lists_of_declaredFor (beq_iff_eq.mpr first) passes.declared passed present
    obtain ⟨_, _, values⟩ := getAll_frameHeaders_http1 first passes.framed
    have chunked : forwarding.forceChunked = true := by
      rw [passes.chunked, forcesChunked, first, containsKey_of_lists listed]
      simp
    refine ⟨⟨listed, ?_, ?_⟩, fun unnamed => ?_⟩
    · rw [values, if_pos ⟨chunked, rfl⟩]
    · rw [values, if_neg fun named => absurd named.2 (by decide), if_pos ⟨chunked, rfl⟩]
    · have plain : ∀ trustedProxy, isStripped trustedProxy trailer = false := by decide
      rw [passes.getAll_sent (by decide) (fun _ => by decide)
          (fun named => absurd named (by decide)), sanitize_frame _ _ (plain _),
        getAll_sanitizeRequest _ _ (by decide), if_neg (unnamed ∘ mem_connectionNames_iff.mp)]
  · intro response responseBody delivery trailers result name delivered plain version method
      unended passed present
    have other : response.status ≠ 101 := by
      intro switching
      obtain ⟨_, rfl⟩ := (deliver_switching passes switching).mp delivered
      cases plain
    obtain ⟨_, _, _, declared, chunked, values⟩ := deliver_other passes other delivered
    have needed : (exchange.request.version != .http2) = true := by
      rw [version]
      rfl
    have listed := lists_of_declaredFor needed declared passed present
    rw [containsKey_of_lists listed, version, unended, bne_iff_ne.mpr method] at chunked
    have not_length : trailer ≠ contentLength ∧ transferEncoding ≠ contentLength := by decide
    refine ⟨?_, ?_, ?_⟩
    · rw [values, if_neg fun named => not_length.1 named.2]
      exact listed
    · rw [values, if_neg fun named => not_length.2 named.2, getAll_response, if_neg (by decide),
        if_pos (by decide)]
    · rw [values, if_pos ⟨chunked, rfl⟩]

/-- An upload of unknown length, which declares a trailer, to an upstream of the first version. -/
def uploadExchange : Exchange Unit where
  request := {
    method := .post
    uri := ⟨none, none, none, none, some ⟨"/upload", none⟩⟩
    version := .http11
    headers := [(Routing.hostName, ⟨Utf8.encode "files.example.com".toList, by decide⟩),
      (trailer, ⟨Utf8.encode "x-checksum".toList, by decide⟩)] }
  pool := localPool
  target := "/upload"
  address := directAddress

def xChecksum : HeaderName := ⟨"x-checksum", by decide⟩

/-- The declared trailer, and one that no backend should be told by a client. -/
def checksumTrailers : HeaderMap :=
  [(xChecksum, ⟨Utf8.encode "9f2c41".toList, by decide⟩), (xForwardedFor, httpScheme)]

/-- A download of unknown length, which declares the same trailer. -/
def checksumResponse : ResponseHead where
  status := 200
  version := .http11
  headers := [(trailer, ⟨Utf8.encode "X-Checksum".toList, by decide⟩),
    (contentLength, ⟨Utf8.encode "4096".toList, by decide⟩)]

/-- The declared trailer passes in both directions, as announced. -/
theorem trailers_announced_upload :
    ∃ forwarding delivery result,
      uploadExchange.forward pathUri false true ⟨false, none⟩ = .ok forwarding ∧
      forwarding.deliver checksumResponse ⟨false, none⟩ = .ok delivery ∧
      sanitizeStreamFrame (.trailers checksumTrailers) forwarding.declaredTrailers =
        .ok (.trailers result) ∧
      sanitizeStreamFrame (.trailers checksumTrailers) delivery.declaredTrailers =
        .ok (.trailers result) ∧
      result.getAll xChecksum = checksumTrailers.getAll xChecksum ∧
      Announced uploadExchange.request.headers forwarding.request.headers [chunkedToken]
        xChecksum ∧
      Announced delivery.head.headers delivery.head.headers [] xChecksum := by
  obtain ⟨_, passed⟩ : ∃ sent, (do
      let forwarding ← (uploadExchange.forward pathUri false true ⟨false, none⟩).mapError
        fun _ => ()
      let delivery ← (forwarding.deliver checksumResponse ⟨false, none⟩).mapError fun _ => ()
      let upload ← (sanitizeStreamFrame (.trailers checksumTrailers)
        forwarding.declaredTrailers).mapError fun _ => ()
      let download ← (sanitizeStreamFrame (.trailers checksumTrailers)
        delivery.declaredTrailers).mapError fun _ => ()
      ensure (forwarding.protocol = .http1 ∧ delivery.isTunnel = false) ()
      return (upload, download)) = Except.ok sent := exists_of_isOk (by decide +kernel)
  simp only [bind_eq_ok, mapError_eq_ok, ensure_eq_ok, exists_const] at passed
  obtain ⟨forwarding, made, delivery, delivered, _, upload, _, download, ⟨protocol, plain⟩, _⟩ :=
    passed
  obtain ⟨_, rfl⟩ := sanitizeStreamFrame_trailers.mp upload
  obtain ⟨_, rfl⟩ := sanitizeStreamFrame_trailers.mp download
  have kept : (sanitizeTrailers checksumTrailers).getAll xChecksum =
      checksumTrailers.getAll xChecksum := by
    decide +kernel
  have present : (sanitizeTrailers checksumTrailers).getAll xChecksum ≠ [] := by
    rw [kept]
    exact List.cons_ne_nil _ _
  obtain ⟨sent, received⟩ :=
    trailers_announced pathUri false true uploadExchange ⟨false, none⟩ forwarding made
  exact ⟨forwarding, delivery, _, made, delivered, upload, download, kept,
    (sent checksumTrailers _ xChecksum protocol upload present).1,
    received checksumResponse ⟨false, none⟩ delivery checksumTrailers _ xChecksum delivered plain
      rfl Method.noConfusion rfl download present⟩

end EdgeGateway.HttpProxy
