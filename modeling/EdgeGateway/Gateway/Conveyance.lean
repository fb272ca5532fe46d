import EdgeGateway.Gateway.Listener
import EdgeGateway.HttpProxy.Forwarding

/-!
# What a backend is sent

Between the client and the backend the listener writes the identity of the client, the proxy drops
the headers of the hop, writes the identity once more and then the host and the framing.  Taken
together, every header that the backend sees is one that the gateway has written, or one of the
client that belongs neither to the hop nor to an identity.
-/

namespace EdgeGateway.Gateway

open EdgeGateway.Configuration Http HttpProxy Results Routing Security

/-- The headers of the hop that are never sent on. -/
def silentNames : List HeaderName :=
  [proxyConnection, keepAlive, proxyAuthenticate, proxyAuthorization]

/-- The headers that the gateway writes for the hop to the backend, or drops there. -/
def ownNames : List HeaderName :=
  silentNames ++ [connection, te, HttpProxy.upgrade, transferEncoding, hostName]

/-- What a backend is sent under each name for the request of a client. -/
structure Conveyed (client : Request) (host : String) (address : ResolvedClientAddress)
    (config : UpstreamConfig) (body : BodyHint) (sent : HeaderMap) : Prop where
  /-- The client's authority, which names the host that the request was routed by. -/
  routed : ∃ authority value, sent.getAll xForwardedHost = [value] ∧
    value.toStr = some authority ∧ normalizeDnsHost (hostPart authority) = .ok host ∧
    (config.protocol = .http1 → ∃ written, sent.getAll hostName = [written] ∧
      HeaderValue.fromStr (config.hostAuthority authority) = some written) ∧
    (config.protocol = .http2 → sent.getAll hostName = [])
  /-- The address of the client, as the gateway has resolved it. -/
  identity : ∃ value, value.toStr = some (IpAddress.display address.clientIp) ∧
    sent.getAll xForwardedFor = [value] ∧ sent.getAll xRealIp = [value] ∧
    (address.trustedProxy = true → sent.getAll cfConnectingIp = [value])
  scheme : sent.getAll xForwardedProto = [httpScheme] ∨ sent.getAll xForwardedProto = [httpsScheme]
  plain : sent.getAll xForwardedProto = [httpScheme] ↔ address.trustedProxy = true ∧
    SentOverHttp client.headers ∧ ¬VisiblyNamed client.headers xForwardedProto
  /-- No other header can be read as an identity. -/
  anonymous : ∀ name, isStripped address.trustedProxy name = true →
    name ∉ [xForwardedHost, xForwardedFor, xRealIp, xForwardedProto] →
    ¬(address.trustedProxy = true ∧ name = cfConnectingIp) → sent.getAll name = []
  silent : ∀ name ∈ silentNames, sent.getAll name = []
  upgraded : OffersWebsocket client body → sent.getAll connection = [upgradeToken] ∧
    sent.getAll te = [] ∧ sent.getAll upgrade = client.headers.getAll upgrade
  ordinary : ¬OffersWebsocket client body →
    sent.getAll connection = (if config.protocol = .http1 then [teToken] else []) ∧
    sent.getAll te = [trailersToken] ∧ sent.getAll upgrade = []
  /-- The body is in chunks, without a length, or it is not. -/
  framing : (sent.getAll transferEncoding = [chunkedToken] ∧ sent.getAll contentLength = []) ∨
    sent.getAll transferEncoding = []
  chunked : sent.getAll transferEncoding = [chunkedToken] ↔ config.protocol = .http1 ∧
    ((client.version = .http2 ∧ body.isEndStream = false) ∨ client.headers.getAll trailer ≠ [] ∨
      (body.isEndStream = false ∧ body.size = none))
  /-- Everything else is as the client has sent it, unless the client says that it was for the hop
  only. -/
  dropped : ∀ name, isStripped address.trustedProxy name = false → name ∉ ownNames →
    VisiblyNamed client.headers name → sent.getAll name = []
  kept : ∀ name, isStripped address.trustedProxy name = false → name ∉ ownNames →
    (sent.getAll transferEncoding = [chunkedToken] → name ≠ contentLength) →
    ¬VisiblyNamed client.headers name → sent.getAll name = client.headers.getAll name

variable {Connector : Type}

/-- Either way of starting an exchange passes the request on. -/
theorem request_of_started {http : HttpProxyRuntime Connector} {request : Request}
    {address : ResolvedClientAddress} {exchange : Exchange Connector}
    (started : (∃ route, http.proxyRoute request route address = .ok exchange) ∨
      ∃ host, http.proxyFallback request host address = .ok exchange) :
    exchange.request = request ∧ exchange.address = address := by
  rcases started with ⟨route, started⟩ | ⟨host, started⟩
  · obtain ⟨target, _, rest⟩ := bind_eq_ok.mp started
    split at rest
    · cases rest
      exact ⟨rfl, rfl⟩
    · cases rest
  · obtain ⟨_, _, rest⟩ := bind_eq_ok.mp started
    split at rest
    · cases rest
      exact ⟨rfl, rfl⟩
    · cases rest

/-! ## What the listener leaves alone -/

variable {client : Request} {address : ResolvedClientAddress}

/-- The headers that the proxy decides by are none of the listener's. -/
theorem getAll_listened (headers : HeaderMap) (address : ResolvedClientAddress) (name : HeaderName)
    (read : name ∈ [hostName, connection, upgrade, trailer, secWebsocketVersion, secWebsocketKey]) :
    (sanitizeClientAddressHeaders headers address).getAll name = headers.getAll name := by
  have unstripped : ∀ trustedProxy, ∀ name ∈
      [hostName, connection, upgrade, trailer, secWebsocketVersion, secWebsocketKey],
      isStripped trustedProxy name = false := by decide
  exact sanitize_frame headers address (unstripped _ name read)

theorem resolveRequestHost_listened :
    resolveRequestHost
        { client with headers := sanitizeClientAddressHeaders client.headers address } =
      resolveRequestHost client := by
  simp only [resolveRequestHost, hostHeader,
    getAll_listened client.headers address hostName (by simp)]

theorem visiblyNamed_listened {name : HeaderName} :
    VisiblyNamed (sanitizeClientAddressHeaders client.headers address) name ↔
      VisiblyNamed client.headers name := by
  simp only [VisiblyNamed,
    getAll_listened client.headers address connection (by simp)]

theorem offersWebsocket_listened {body : BodyHint} :
    OffersWebsocket
        { client with headers := sanitizeClientAddressHeaders client.headers address } body ↔
      OffersWebsocket client body := by
  have same := getAll_listened client.headers address
  have upgrades := same upgrade (by simp)
  have handshake := same secWebsocketVersion (by simp)
  have key := same secWebsocketKey (by simp)
  constructor
  · rintro ⟨version, method, protocol, connected, offered, single, empty⟩
    refine ⟨version, method, ?_, visiblyNamed_listened.mp connected, ?_, key ▸ single, empty⟩
    · simpa only [NamesWebsocket, upgrades] using protocol
    · simpa only [textOf, HeaderMap.get, handshake] using offered
  · rintro ⟨version, method, protocol, connected, offered, single, empty⟩
    refine ⟨version, method, ?_, visiblyNamed_listened.mpr connected, ?_, ?_, empty⟩
    · simpa only [NamesWebsocket, upgrades] using protocol
    · simpa only [textOf, HeaderMap.get, handshake] using offered
    · simpa only [key] using single

/-! ## What is sent -/

variable {parseUri : UriParser} {exchange : Exchange Connector} {body : BodyHint}
  {authority : String} {forwarding : Forwarding}

/-- The proxy has the request of a client from the listener. -/
structure Listened (client : Request) (address : ResolvedClientAddress)
    (exchange : Exchange Connector) : Prop where
  request : exchange.request =
    { client with headers := sanitizeClientAddressHeaders client.headers address }
  address : exchange.address = address

/-- Headers that carry no identity pass the proxy as the hop demands. -/
theorem getAll_unstripped (passes : Passes parseUri exchange body authority forwarding)
    (listened : Listened client address exchange) {name : HeaderName}
    (unstripped : isStripped address.trustedProxy name = false) (unnamed : name ≠ hostName)
    (unframed : forwarding.forceChunked = true → name ∉ [transferEncoding, contentLength])
    (unconnected : name = connection →
      forwarding.isUpgrade = true ∨ exchange.pool.config.protocol = .http2) :
    forwarding.request.headers.getAll name =
      (sanitizeRequest (sanitizeClientAddressHeaders client.headers address)
        forwarding.isUpgrade).getAll name := by
  have internal : ∀ trustedProxy, isStripped trustedProxy xForwardedHost = true := by decide
  have other : name ≠ xForwardedHost := by
    rintro rfl
    exact Bool.false_ne_true (unstripped.symm.trans (internal _))
  have sent := passes.getAll_sent (by simp [unnamed, other]) unframed unconnected
  rw [sent, listened.request, listened.address, sanitize_frame _ _ unstripped]

/-- Headers that carry an identity are those that the proxy writes. -/
theorem getAll_stripped (passes : Passes parseUri exchange body authority forwarding)
    (listened : Listened client address exchange) {name : HeaderName}
    (stripped : isStripped address.trustedProxy name = true) (other : name ≠ xForwardedHost) :
    forwarding.request.headers.getAll name =
      (proxiedHeaders client.headers address forwarding.isUpgrade).getAll name := by
  have unstripped : ∀ trustedProxy, ∀ name ∈
      [hostName, transferEncoding, contentLength, connection],
      isStripped trustedProxy name = false := by decide
  have foreign (written : HeaderName)
      (member : written ∈ [hostName, transferEncoding, contentLength, connection]) :
      name ≠ written := by
    rintro rfl
    exact Bool.false_ne_true ((unstripped _ name member).symm.trans stripped)
  have sent := passes.getAll_sent (by simp [foreign, other]) (fun _ => by simp [foreign])
    (fun named => absurd named (foreign _ (by simp)))
  rw [sent, listened.request, listened.address, proxiedHeaders]

theorem identity_of_passes (passes : Passes parseUri exchange body authority forwarding)
    (listened : Listened client address exchange) :
    ∃ value, value.toStr = some (IpAddress.display address.clientIp) ∧
      forwarding.request.headers.getAll xForwardedFor = [value] ∧
      forwarding.request.headers.getAll xRealIp = [value] ∧
      (address.trustedProxy = true →
        forwarding.request.headers.getAll cfConnectingIp = [value]) := by
  obtain ⟨value, written, shown⟩ := exists_addressValue address.clientIp
  have stripped : ∀ trustedProxy, ∀ name ∈ [xForwardedFor, xRealIp, cfConnectingIp],
      isStripped trustedProxy name = true ∧ name ≠ xForwardedHost := by decide
  have proxied (name : HeaderName) (member : name ∈ [xForwardedFor, xRealIp, cfConnectingIp]) :=
    getAll_stripped passes listened (stripped _ name member).1 (stripped true name member).2
  refine ⟨value, shown, ?_, ?_, fun trusted => ?_⟩
  · rw [proxied _ (by simp), proxiedHeaders, xForwardedFor_sanitize _ _ written]
  · rw [proxied _ (by simp), proxiedHeaders, xRealIp_sanitize _ _ written]
  · rw [proxied _ (by simp), proxiedHeaders, cfConnectingIp_sanitize _ _ written trusted]

/-- A trusted peer's report of a plain request arrives unless it is dropped with the hop. -/
theorem scheme_of_passes (passes : Passes parseUri exchange body authority forwarding)
    (listened : Listened client address exchange) :
    (forwarding.request.headers.getAll xForwardedProto = [httpScheme] ∨
        forwarding.request.headers.getAll xForwardedProto = [httpsScheme]) ∧
      (forwarding.request.headers.getAll xForwardedProto = [httpScheme] ↔
        address.trustedProxy = true ∧ SentOverHttp client.headers ∧
          ¬VisiblyNamed client.headers xForwardedProto) := by
  have stripped : ∀ trustedProxy, isStripped trustedProxy xForwardedProto = true := by decide
  have different : httpScheme ≠ httpsScheme := by decide
  have scheme : (address.trustedProxy && (!decide (xForwardedProto ∈ connectionNames
      client.headers) && (address.trustedProxy && forwardedOverHttp client.headers))) = true ↔
      address.trustedProxy = true ∧ SentOverHttp client.headers ∧
        ¬VisiblyNamed client.headers xForwardedProto := by
    rw [← forwardedOverHttp_iff, ← mem_connectionNames_iff]
    simp only [Bool.and_eq_true, Bool.not_eq_true', decide_eq_false_iff_not]
    tauto
  rw [getAll_stripped passes listened (stripped _) (by decide), proxiedHeaders,
    xForwardedProto_sanitize, forwardedOverHttp_sanitizeRequest, ← scheme]
  split_ifs with plain
  · exact ⟨.inl rfl, iff_of_true rfl plain⟩
  · exact ⟨.inr rfl, iff_of_false (by simpa using different.symm) plain⟩

theorem anonymous_of_passes (passes : Passes parseUri exchange body authority forwarding)
    (listened : Listened client address exchange) {name : HeaderName}
    (stripped : isStripped address.trustedProxy name = true)
    (unwritten : name ∉ [xForwardedHost, xForwardedFor, xRealIp, xForwardedProto])
    (unnamed : ¬(address.trustedProxy = true ∧ name = cfConnectingIp)) :
    forwarding.request.headers.getAll name = [] := by
  obtain ⟨value, written, _⟩ := exists_addressValue address.clientIp
  simp only [List.mem_cons, List.not_mem_nil, or_false, not_or] at unwritten
  obtain ⟨not_host, not_for, not_real, not_proto⟩ := unwritten
  rw [getAll_stripped passes listened stripped not_host, proxiedHeaders,
    getAll_sanitize _ _ written, if_neg not_proto, if_neg fun named => unnamed ⟨named.2, named.1⟩,
    if_neg (not_or.mpr ⟨not_real, not_for⟩), if_pos stripped]

theorem routed_of_passes (passes : Passes parseUri exchange body authority forwarding)
    (listened : Listened client address exchange) {host : String}
    (resolved : resolveRequestHost client = .ok host) :
    ∃ authority value, forwarding.request.headers.getAll xForwardedHost = [value] ∧
      value.toStr = some authority ∧ normalizeDnsHost (hostPart authority) = .ok host ∧
      (exchange.pool.config.protocol = .http1 → ∃ written,
        forwarding.request.headers.getAll hostName = [written] ∧
        HeaderValue.fromStr (exchange.pool.config.hostAuthority authority) = some written) ∧
      (exchange.pool.config.protocol = .http2 →
        forwarding.request.headers.getAll hostName = []) := by
  obtain ⟨own, value, own_resolved, named, written, shown⟩ :=
    headerValue_of_requestAuthority passes.named
  rw [listened.request, resolveRequestHost_listened] at own_resolved
  cases resolved.symm.trans own_resolved
  refine ⟨authority, value, passes.getAll_xForwardedHost written, shown, named, fun first => ?_,
    fun second => ?_⟩
  · obtain ⟨told, told_written, values⟩ := getAll_frameHeaders_http1 first passes.framed
    refine ⟨told, ?_, told_written⟩
    rw [values, if_neg fun named => absurd named.2 (by decide),
      if_neg fun named => absurd named.2 (by decide),
      if_neg fun named => absurd named.2 (by decide), if_pos rfl]
  · rw [getAll_frameHeaders_http2 second passes.framed, if_pos rfl]

/-- The headers of the hop are none of those that carry an identity. -/
theorem unstripped_hop (trustedProxy : Bool) {name : HeaderName}
    (own : name ∈ contentLength :: ownNames) : isStripped trustedProxy name = false := by
  have unstripped : ∀ trustedProxy, ∀ name ∈ contentLength :: ownNames,
      isStripped trustedProxy name = false := by decide
  exact unstripped trustedProxy name own

theorem silent_of_passes (passes : Passes parseUri exchange body authority forwarding)
    (listened : Listened client address exchange) {name : HeaderName}
    (silent : name ∈ silentNames) : forwarding.request.headers.getAll name = [] := by
  have plain : ∀ name ∈ silentNames, name ≠ hostName ∧ name ∉ [transferEncoding, contentLength] ∧
      name ≠ connection ∧ name ≠ te ∧ name ∈ requestHopNames := by decide
  obtain ⟨not_host, not_framing, not_connection, not_te, hop⟩ := plain name silent
  have own : name ∈ contentLength :: ownNames :=
    List.mem_cons_of_mem _ (List.mem_append_left _ silent)
  rw [getAll_unstripped passes listened (unstripped_hop _ own) not_host (fun _ => not_framing)
    (fun named => absurd named not_connection), getAll_request, if_neg not_te, if_pos hop]

/-- The framing is the proxy's, in one of two forms. -/
theorem framing_of_passes (passes : Passes parseUri exchange body authority forwarding)
    (listened : Listened client address exchange) :
    (forwarding.forceChunked = true ∧
        forwarding.request.headers.getAll transferEncoding = [chunkedToken] ∧
        forwarding.request.headers.getAll contentLength = []) ∨
      (forwarding.forceChunked = false ∧
        forwarding.request.headers.getAll transferEncoding = []) := by
  cases chunked : forwarding.forceChunked with
  | true =>
      have first : exchange.pool.config.protocol = .http1 := by
        have forced := passes.chunked.symm.trans chunked
        rw [forcesChunked, Bool.and_eq_true, beq_iff_eq] at forced
        exact forced.1
      obtain ⟨_, _, values⟩ := getAll_frameHeaders_http1 first passes.framed
      refine .inl ⟨rfl, ?_, ?_⟩
      · rw [values, if_pos ⟨chunked, rfl⟩]
      · rw [values, if_neg fun named => absurd named.2 (by decide), if_pos ⟨chunked, rfl⟩]
  | false =>
      refine .inr ⟨rfl, ?_⟩
      have free (forced : forwarding.forceChunked = true) :
          transferEncoding ∉ [transferEncoding, contentLength] := by
        rw [chunked] at forced
        cases forced
      rw [getAll_unstripped passes listened (unstripped_hop _ (by decide)) (by decide) free
        (fun named => absurd named (by decide)), getAll_request, if_neg (by decide),
        if_pos (by decide)]

theorem chunked_of_passes (passes : Passes parseUri exchange body authority forwarding)
    (listened : Listened client address exchange) :
    forwarding.request.headers.getAll transferEncoding = [chunkedToken] ↔
      exchange.pool.config.protocol = .http1 ∧
        ((client.version = .http2 ∧ body.isEndStream = false) ∨
          client.headers.getAll trailer ≠ [] ∨ (body.isEndStream = false ∧ body.size = none)) := by
  have forced : forwarding.forceChunked = true ↔ exchange.pool.config.protocol = .http1 ∧
      ((client.version = .http2 ∧ body.isEndStream = false) ∨
        client.headers.getAll trailer ≠ [] ∨ (body.isEndStream = false ∧ body.size = none)) := by
    rw [passes.chunked, forcesChunked, listened.request]
    simp only [Bool.and_eq_true, Bool.or_eq_true, beq_iff_eq, Bool.not_eq_true', containsKey_iff,
      Option.isNone_iff_eq_none, or_assoc,
      getAll_listened client.headers address trailer (by simp)]
  rw [← forced]
  rcases framing_of_passes passes listened with ⟨chunked, coded, _⟩ | ⟨plain, coded⟩
  · exact iff_of_true coded chunked
  · refine iff_of_false ?_ (by simp [plain])
    rw [coded]
    exact List.cons_ne_nil _ _ ∘ Eq.symm

/-- The upgrade is offered exactly when the client has asked for a websocket. -/
theorem isUpgrade_of_passes (passes : Passes parseUri exchange body authority forwarding)
    (listened : Listened client address exchange) :
    forwarding.isUpgrade = true ↔ OffersWebsocket client body := by
  rw [passes.isUpgrade, offersWebsocket_iff passes.supported, listened.request,
    offersWebsocket_listened]

theorem upgraded_of_passes (passes : Passes parseUri exchange body authority forwarding)
    (listened : Listened client address exchange) (offers : OffersWebsocket client body) :
    forwarding.request.headers.getAll connection = [upgradeToken] ∧
      forwarding.request.headers.getAll te = [] ∧
      forwarding.request.headers.getAll upgrade = client.headers.getAll upgrade := by
  have upgrades := (isUpgrade_of_passes passes listened).mpr offers
  have own_offers : OffersWebsocket exchange.request body := by
    rw [listened.request]
    exact offersWebsocket_listened.mpr offers
  obtain ⟨_, connected, words⟩ := getAll_of_offersWebsocket passes own_offers
  refine ⟨connected, ?_, ?_⟩
  · rw [getAll_unstripped passes listened (unstripped_hop _ (by decide)) (by decide)
      (fun _ => by decide) (fun named => absurd named (by decide)), getAll_request, if_pos rfl,
      upgrades, if_pos rfl]
  · rw [words, listened.request]
    exact getAll_listened client.headers address upgrade (by simp)

theorem ordinary_of_passes (passes : Passes parseUri exchange body authority forwarding)
    (listened : Listened client address exchange) (other : ¬OffersWebsocket client body) :
    forwarding.request.headers.getAll connection =
        (if exchange.pool.config.protocol = .http1 then [teToken] else []) ∧
      forwarding.request.headers.getAll te = [trailersToken] ∧
      forwarding.request.headers.getAll upgrade = [] := by
  have plain : forwarding.isUpgrade = false :=
    Bool.eq_false_iff.mpr fun upgrades =>
      other ((isUpgrade_of_passes passes listened).mp upgrades)
  refine ⟨?_, ?_, ?_⟩
  · cases protocol : exchange.pool.config.protocol with
    | http1 =>
        obtain ⟨_, _, values⟩ := getAll_frameHeaders_http1 protocol passes.framed
        rw [values, if_neg fun named => absurd named.2 (by decide),
          if_neg fun named => absurd named.2 (by decide), if_pos ⟨plain, rfl⟩, if_pos rfl]
    | http2 =>
        rw [getAll_unstripped passes listened (unstripped_hop _ (by decide)) (by decide)
          (fun _ => by decide) (fun _ => .inr protocol), getAll_request, if_neg (by decide),
          if_neg (by decide), getAll_sanitizeHopHeaders, if_pos rfl, plain]
        rfl
  · rw [getAll_unstripped passes listened (unstripped_hop _ (by decide)) (by decide)
      (fun _ => by decide) (fun named => absurd named (by decide)), getAll_request, if_pos rfl,
      plain]
    rfl
  · rw [getAll_unstripped passes listened (unstripped_hop _ (by decide)) (by decide)
      (fun _ => by decide) (fun named => absurd named (by decide)), getAll_request,
      if_neg (by decide), if_neg (by decide), getAll_sanitizeHopHeaders, if_neg (by decide),
      if_neg (by decide), if_pos rfl, plain]
    rfl

/-- Any other header passes unless the client has it dropped with the hop. -/
theorem getAll_endToEnd (passes : Passes parseUri exchange body authority forwarding)
    (listened : Listened client address exchange) {name : HeaderName}
    (unstripped : isStripped address.trustedProxy name = false) (foreign : name ∉ ownNames)
    (unframed : forwarding.forceChunked = true → name ≠ contentLength) :
    forwarding.request.headers.getAll name =
      if name ∈ connectionNames client.headers then [] else client.headers.getAll name := by
  simp only [ownNames, silentNames, List.mem_append, List.mem_cons, List.not_mem_nil, or_false,
    not_or] at foreign
  obtain ⟨⟨not_proxy, not_alive, not_authenticate, not_authorization⟩, not_connection, not_te,
    not_upgrade, not_framing, not_host⟩ := foreign
  have endToEnd : isHopHeader name = false := by
    simp [isHopHeader, not_proxy, not_alive, not_authenticate, not_authorization, not_connection,
      not_te, not_upgrade, not_framing]
  rw [getAll_unstripped passes listened unstripped not_host
    (fun forced => by simp [not_framing, unframed forced])
    (fun named => absurd named not_connection), getAll_sanitizeRequest _ _ endToEnd,
    connectionNames_sanitize, sanitize_frame _ _ unstripped]

/-! ## The result -/

/-- For whichever request the listener hands on and the proxy passes on, the backend is told the
host, the client and the framing by the gateway alone, and else what the client has sent. -/
theorem conveyed_as_resolved {state : ServiceState Connector} {peer : SocketAddr}
    {sni : Option String} {now : Nat} {handOff : HandOff} {stopping hasCapacity : Bool}
    (handed : handleRequest state peer sni now client = .ok handOff)
    (started :
      (∃ route, state.http.proxyRoute handOff.request route handOff.address = .ok exchange) ∨
      ∃ host, state.http.proxyFallback handOff.request host handOff.address = .ok exchange)
    (made : exchange.forward parseUri stopping hasCapacity body = .ok forwarding) :
    Conveyed client handOff.host handOff.address exchange.pool.config body
      forwarding.request.headers := by
  obtain ⟨authority, passes⟩ := passes_of_forward made
  obtain ⟨same_request, same_address⟩ := request_of_started started
  have listened : Listened client handOff.address exchange :=
    ⟨same_request.trans (request_of_handleRequest handed), same_address⟩
  obtain ⟨scheme, plain⟩ := scheme_of_passes passes listened
  have framing := framing_of_passes passes listened
  constructor
  · exact routed_of_passes passes listened (handleRequest_eq_ok handed).1
  · exact identity_of_passes passes listened
  · exact scheme
  · exact plain
  · exact fun name => anonymous_of_passes passes listened
  · exact fun name => silent_of_passes passes listened
  · exact upgraded_of_passes passes listened
  · exact ordinary_of_passes passes listened
  · exact framing.imp And.right And.right
  · exact chunked_of_passes passes listened
  · intro name unstripped foreign named
    rw [← mem_connectionNames_iff] at named
    rcases framing with ⟨chunked, _, unsized⟩ | ⟨open_length, _⟩
    · by_cases same : name = contentLength
      · rw [same, unsized]
      · rw [getAll_endToEnd passes listened unstripped foreign fun _ => same, if_pos named]
    · rw [getAll_endToEnd passes listened unstripped foreign, if_pos named]
      simp [open_length]
  · intro name unstripped foreign unframed unnamed
    rw [← mem_connectionNames_iff] at unnamed
    rw [getAll_endToEnd passes listened unstripped foreign, if_neg unnamed]
    intro forced
    rcases framing with ⟨_, coded, _⟩ | ⟨plain, _⟩
    · exact unframed coded
    · rw [plain] at forced
      cases forced

/-- A request for a host of the fallback. -/
def fallbackRequest : Request where
  method := .get
  uri := ⟨none, none, none, none, some ⟨"/about", some "q=1"⟩⟩
  version := .http11
  headers := [(hostName, ⟨Utf8.encode "www.example.com".toList, by decide⟩)]

theorem conveyed_as_resolved_fallback :
    ∃ (state : ServiceState Unit) (handOff : HandOff) (exchange : Exchange Unit)
      (forwarding : Forwarding),
      handleRequest state IpBlocking.directClient.peer (some "www.example.com") 0
        fallbackRequest = .ok handOff ∧
      exchange.forward pathUri false true ⟨true, some 0⟩ = .ok forwarding ∧
      Conveyed fallbackRequest handOff.host handOff.address exchange.pool.config ⟨true, some 0⟩
        forwarding.request.headers := by
  have handled : ∃ forwarding, (do
      let config ← (sampleFile.validate sampleEnvironment []).mapError fun _ => ()
      let http ← (HttpProxyRuntime.new (fun _ _ _ => .ok ()) config.httpRoutes.enabledRoutes
        config.fallback ["www.example.com"]).mapError fun _ => ()
      let handOff ← (handleRequest (sampleState config http) IpBlocking.directClient.peer
        (some "www.example.com") 0 fallbackRequest).mapError fun _ => ()
      let exchange ← (http.proxyFallback handOff.request handOff.host
        handOff.address).mapError fun _ => ()
      (exchange.forward pathUri false true ⟨true, some 0⟩).mapError fun _ => ()) =
        Except.ok forwarding := exists_of_isOk (by decide +kernel)
  simp only [bind_eq_ok, mapError_eq_ok] at handled
  obtain ⟨forwarding, config, _, http, _, handOff, handed, exchange, started, made⟩ := handled
  exact ⟨sampleState config http, handOff, exchange, forwarding, handed, made,
    conveyed_as_resolved handed (.inr ⟨_, started⟩) made⟩

end EdgeGateway.Gateway
