import EdgeGateway.Security.ClientAddress

/-!
# Hop-by-hop headers of the HTTP proxy

Before a request leaves for a backend the proxy drops the headers of the hop it arrived on, among
them every header that the client lists under `connection`.  The identity of the client is written
before that step and once more after it.
-/

namespace EdgeGateway.HttpProxy

open Http Security

/-! ## Header names -/

def connection : HeaderName := ⟨"connection", by decide⟩
def upgrade : HeaderName := ⟨"upgrade", by decide⟩
def te : HeaderName := ⟨"te", by decide⟩
def transferEncoding : HeaderName := ⟨"transfer-encoding", by decide⟩
def proxyConnection : HeaderName := ⟨"proxy-connection", by decide⟩
def keepAlive : HeaderName := ⟨"keep-alive", by decide⟩
def proxyAuthorization : HeaderName := ⟨"proxy-authorization", by decide⟩
def proxyAuthenticate : HeaderName := ⟨"proxy-authenticate", by decide⟩

/-- Headers of the connection that have no meaning beyond it. -/
def hopNames : List HeaderName :=
  [proxyConnection, keepAlive, transferEncoding]

def upgradeToken : HeaderValue := ⟨Utf8.encode "upgrade".toList, by decide⟩
def trailersToken : HeaderValue := ⟨Utf8.encode "trailers".toList, by decide⟩

/-! ## Sanitizing -/

/-- The headers that the values of `connection` name. -/
def connectionNames (headers : HeaderMap) : List HeaderName :=
  (((headers.getAll connection).filterMap HeaderValue.toStr).flatMap
    fun value => value.toList.splitOn ',').filterMap
      fun name => HeaderName.fromBytes (Text.trim name)

/-- Drop the headers of the hop; an upgrade keeps its own two. -/
def sanitizeHopHeaders (headers : HeaderMap) (isUpgrade : Bool) : HeaderMap :=
  let named := connectionNames headers
  let headers := headers.removeAll (named.filter fun name => !isUpgrade || name != upgrade)
  let headers := headers.remove connection
  let headers :=
    if isUpgrade then headers.insert connection upgradeToken else headers.remove upgrade
  let headers := headers.removeAll hopNames
  headers.remove transferEncoding

/-- Sanitize the headers of a request on its way to a backend. -/
def sanitizeRequest (headers : HeaderMap) (isUpgrade : Bool) : HeaderMap :=
  let headers := sanitizeHopHeaders headers isUpgrade
  let headers := headers.remove proxyAuthorization
  let headers := headers.remove proxyAuthenticate
  let headers := headers.remove te
  -- The gateway can preserve response trailers; advertise this to its upstream.
  if isUpgrade then headers else headers.insert te trailersToken

/-- Sanitize the headers of a response on its way to the client. -/
def sanitizeResponse (headers : HeaderMap) (isUpgrade : Bool) : HeaderMap :=
  let headers := sanitizeHopHeaders headers isUpgrade
  let headers := headers.remove te
  headers.remove proxyAuthenticate

/-- The headers that travel only one hop, whatever `connection` names. -/
def isHopHeader (name : HeaderName) : Bool :=
  [connection, upgrade, te, transferEncoding, proxyConnection, keepAlive, proxyAuthorization,
    proxyAuthenticate].contains name

/-- The values of every name after the hop headers have been dropped. -/
theorem getAll_sanitizeHopHeaders (headers : HeaderMap) (isUpgrade : Bool) (name : HeaderName) :
    (sanitizeHopHeaders headers isUpgrade).getAll name =
      if name = connection then if isUpgrade then [upgradeToken] else []
      else if name ∈ hopNames then []
      else if name = upgrade then if isUpgrade then headers.getAll upgrade else []
      else if name ∈ connectionNames headers then []
      else headers.getAll name := by
  have distinct : connection ∉ hopNames ∧ upgrade ∉ hopNames ∧ connection ≠ upgrade := by decide
  have listed : transferEncoding ∈ hopNames := by decide
  rw [sanitizeHopHeaders, Multimap.getAll_remove, Multimap.getAll_removeAll]
  cases isUpgrade with
  | true =>
      simp only [if_true, Multimap.getAll_insert, Multimap.getAll_remove,
        Multimap.getAll_removeAll, List.mem_filter]
      grind
  | false =>
      simp only [Bool.false_eq_true, if_false, Multimap.getAll_remove, Multimap.getAll_removeAll,
        List.mem_filter]
      grind

/-- Besides the headers of the hop a request loses exactly those that `connection` names. -/
theorem getAll_sanitizeRequest (headers : HeaderMap) (isUpgrade : Bool) {name : HeaderName}
    (endToEnd : isHopHeader name = false) :
    (sanitizeRequest headers isUpgrade).getAll name =
      if name ∈ connectionNames headers then [] else headers.getAll name := by
  simp only [isHopHeader, List.contains_eq_mem, decide_eq_false_iff_not, List.mem_cons,
    not_or, List.not_mem_nil] at endToEnd
  have kept : (sanitizeRequest headers isUpgrade).getAll name =
      (sanitizeHopHeaders headers isUpgrade).getAll name := by
    cases isUpgrade with
    | true => simp [sanitizeRequest, Multimap.getAll_remove, endToEnd]
    | false =>
        simp [sanitizeRequest, Multimap.getAll_insert, Multimap.getAll_remove, endToEnd]
  rw [kept, getAll_sanitizeHopHeaders]
  simp [hopNames, endToEnd]

/-! ## The identity after the hop headers have been dropped -/

/-- The headers of a proxied request: the listener and the proxy each write the identity, and the
hop headers go in between. -/
def proxiedHeaders (headers : HeaderMap) (address : ResolvedClientAddress) (isUpgrade : Bool) :
    HeaderMap :=
  sanitizeClientAddressHeaders
    (sanitizeRequest (sanitizeClientAddressHeaders headers address) isUpgrade) address

/-- The identity that the proxy writes last is the one that the listener wrote. -/
def IdentityKept (headers : HeaderMap) (address : ResolvedClientAddress) (isUpgrade : Bool) :
    Prop :=
  ∀ name, name ∈ [xForwardedFor, xRealIp, xForwardedProto] ∨
      (address.trustedProxy = true ∧ name = cfConnectingIp) →
    (proxiedHeaders headers address isUpgrade).getAll name =
      (sanitizeClientAddressHeaders headers address).getAll name

theorem connectionNames_sanitize (headers : HeaderMap) (address : ResolvedClientAddress) :
    connectionNames (sanitizeClientAddressHeaders headers address) = connectionNames headers := by
  have kept : ∀ trustedProxy, isStripped trustedProxy connection = false := by decide
  rw [connectionNames, sanitize_frame headers address (kept _), ← connectionNames]

/-- What the proxy reads about the scheme: nothing, when the client had the header dropped. -/
theorem forwardedOverHttp_sanitizeRequest (headers : HeaderMap) (address : ResolvedClientAddress)
    (isUpgrade : Bool) :
    forwardedOverHttp
        (sanitizeRequest (sanitizeClientAddressHeaders headers address) isUpgrade) =
      (!decide (xForwardedProto ∈ connectionNames headers) &&
        (address.trustedProxy && forwardedOverHttp headers)) := by
  have endToEnd : isHopHeader xForwardedProto = false := by decide
  have values := getAll_sanitizeRequest (sanitizeClientAddressHeaders headers address) isUpgrade
    endToEnd
  rw [connectionNames_sanitize] at values
  by_cases named : xForwardedProto ∈ connectionNames headers
  · rw [if_pos named] at values
    simp [forwardedOverHttp, values, named]
  · rw [if_neg named] at values
    rw [← forwardedOverHttp_sanitize, forwardedOverHttp, values, ← forwardedOverHttp]
    simp [named]

theorem scheme_inj {left right : Bool} :
    [if left then httpScheme else httpsScheme] = [if right then httpScheme else httpsScheme] ↔
      left = right := by
  revert left right
  decide

/-- The identity survives unless a trusted peer reports a plain request and the request has that
report dropped as a header of the hop. -/
theorem identityKept_iff (headers : HeaderMap) (address : ResolvedClientAddress)
    (isUpgrade : Bool) :
    IdentityKept headers address isUpgrade ↔
      ¬(address.trustedProxy = true ∧ SentOverHttp headers ∧
        xForwardedProto ∈ connectionNames headers) := by
  have scheme : (proxiedHeaders headers address isUpgrade).getAll xForwardedProto =
        (sanitizeClientAddressHeaders headers address).getAll xForwardedProto ↔
      ¬(address.trustedProxy = true ∧ SentOverHttp headers ∧
        xForwardedProto ∈ connectionNames headers) := by
    rw [proxiedHeaders, xForwardedProto_sanitize, xForwardedProto_sanitize, scheme_inj,
      forwardedOverHttp_sanitizeRequest, ← forwardedOverHttp_iff]
    cases address.trustedProxy <;> cases forwardedOverHttp headers <;> simp
  constructor
  · intro kept
    exact scheme.mp (kept xForwardedProto (.inl (by simp)))
  · intro harmless name identity
    obtain ⟨value, written, _⟩ := exists_addressValue address.clientIp
    rcases identity with identity | ⟨trusted, rfl⟩
    · simp only [List.mem_cons, List.not_mem_nil, or_false] at identity
      rcases identity with rfl | rfl | rfl
      · rw [proxiedHeaders, xForwardedFor_sanitize _ _ written, xForwardedFor_sanitize _ _ written]
      · rw [proxiedHeaders, xRealIp_sanitize _ _ written, xRealIp_sanitize _ _ written]
      · exact scheme.mpr harmless
    · rw [proxiedHeaders, cfConnectingIp_sanitize _ _ written trusted,
        cfConnectingIp_sanitize _ _ written trusted]

/-- A trusted peer's report of a plain request, which the request lists as a header of the hop. -/
theorem identity_changed :
    ¬∀ headers address isUpgrade, IdentityKept headers address isUpgrade := by
  intro kept
  let headers : HeaderMap :=
    [(xForwardedProto, httpScheme),
      (connection, ⟨Utf8.encode "x-forwarded-proto".toList, by decide⟩)]
  let address : ResolvedClientAddress :=
    { peer := ⟨.v4 0xADF53001#32, 443, 0⟩
      clientIp := .v4 0xCB007107#32
      clientIpSource := "cf_connecting_ip"
      trustedProxy := true
      normalized := rfl }
  have listener : (sanitizeClientAddressHeaders headers address).getAll xForwardedProto =
      [httpScheme] := by decide +kernel
  have proxy : (proxiedHeaders headers address false).getAll xForwardedProto = [httpsScheme] := by
    decide +kernel
  have same := kept headers address false xForwardedProto (.inl (by decide))
  rw [listener, proxy] at same
  exact absurd same (by decide)

end EdgeGateway.HttpProxy
