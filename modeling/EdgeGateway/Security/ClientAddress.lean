import EdgeGateway.Http.HeaderMap
import EdgeGateway.Library.Results
import EdgeGateway.Security.Network

/-!
# The identity of a client

The address of a client is that of its peer, unless the peer belongs to the trusted network; only
then may one header name another address.  Every header that could carry an identity is dropped
before the gateway writes its own, so no header of the client reaches a backend as an identity.
-/

namespace EdgeGateway.Security

open Http IpAddress

/-! ## Header names -/

def xForwardedFor : HeaderName := ⟨"x-forwarded-for", by decide⟩
def xForwardedProto : HeaderName := ⟨"x-forwarded-proto", by decide⟩
def xRealIp : HeaderName := ⟨"x-real-ip", by decide⟩
def cfConnectingIp : HeaderName := ⟨"cf-connecting-ip", by decide⟩
def cfConnectingIpv6 : HeaderName := ⟨"cf-connecting-ipv6", by decide⟩
def trueClientIp : HeaderName := ⟨"true-client-ip", by decide⟩
def forwarded : HeaderName := ⟨"forwarded", by decide⟩
def xOriginalUrl : HeaderName := ⟨"x-original-url", by decide⟩
def xRewriteUrl : HeaderName := ⟨"x-rewrite-url", by decide⟩

/-- Names that only the gateway may write. -/
def isInternal (name : HeaderName) : Bool :=
  name.startsWith "x-edge-gateway-" || name.startsWith "x-forwarded-"

/-- Names that only a trusted peer may send. -/
def isCloudflare (name : HeaderName) : Bool :=
  name.startsWith "cf-"

/-- Identity headers without a common prefix. -/
def identityNames : List HeaderName :=
  [cfConnectingIp, cfConnectingIpv6, trueClientIp, xRealIp, forwarded, xOriginalUrl, xRewriteUrl]

/-- Names whose values the sanitizer drops before it writes its own. -/
def isStripped (trustedProxy : Bool) (name : HeaderName) : Bool :=
  isInternal name || identityNames.contains name || (!trustedProxy && isCloudflare name)

/-! ## Addresses -/

/-- An address and a port; a link-local IPv6 address may have a zone, and zero is none. -/
structure SocketAddr where
  ip : IpAddr
  port : Nat
  scopeId : Nat
deriving DecidableEq, Repr

/-- Origin admission belongs to the selected route, not the shared listener. -/
structure RouteSecurity where
  cloudflareOnly : Bool
deriving DecidableEq, Repr

/-- The address under which a request is admitted. -/
structure ResolvedClientAddress where
  peer : SocketAddr
  clientIp : IpAddr
  clientIpSource : String
  trustedProxy : Bool
  normalized : normalizeIp clientIp = clientIp
deriving DecidableEq

/-- One snapshot of the trusted network. -/
structure CloudflareNetworks where
  networks : List IpNetwork

/-- The snapshot has the address. -/
def CloudflareNetworks.contains (cloudflare : CloudflareNetworks) (address : IpAddr) : Bool :=
  cloudflare.networks.any fun network => network.contains address

/-- The address of a trusted peer's client, from the one header that may name it. -/
def connectingIp (headers : HeaderMap) : Except String IpAddr :=
  match headers.getAll cfConnectingIp with
  | [] => .error "missing CF-Connecting-IP from trusted CF peer"
  | _ :: _ :: _ => .error "multiple CF-Connecting-IP headers"
  | [value] =>
      match value.toStr with
      | none => .error "invalid CF-Connecting-IP"
      | some text =>
          match IpAddress.parse text with
          | none => .error "invalid CF-Connecting-IP"
          | some address => .ok address

/-- Resolve the address of the client behind a peer. -/
def resolveClientAddress (cloudflare : CloudflareNetworks) (peer : SocketAddr)
    (headers : HeaderMap) (security : RouteSecurity) : Except String ResolvedClientAddress :=
  if cloudflare.contains peer.ip then
    (connectingIp headers).map fun address =>
      { peer
        clientIp := normalizeIp address
        clientIpSource := "cf_connecting_ip"
        trustedProxy := true
        normalized := normalizeIp_normalizeIp address }
  else if security.cloudflareOnly then
    .error "route requires a Cloudflare origin peer"
  else
    .ok
      { peer
        clientIp := normalizeIp peer.ip
        clientIpSource := "direct_peer"
        trustedProxy := false
        normalized := normalizeIp_normalizeIp peer.ip }

/-! ## Sanitizing -/

/-- The request has exactly one `x-forwarded-proto`, which says `http`. -/
def forwardedOverHttp (headers : HeaderMap) : Bool :=
  match headers.getAll xForwardedProto with
  | [] => false
  | value :: rest => value.toStr == some "http" && rest.isEmpty

def httpScheme : HeaderValue := ⟨Utf8.encode "http".toList, by decide⟩
def httpsScheme : HeaderValue := ⟨Utf8.encode "https".toList, by decide⟩

/-- Drop every header that could carry an identity. -/
def dropIdentity (headers : HeaderMap) (trustedProxy : Bool) : HeaderMap :=
  let headers := headers.removeAll (headers.keys.filter isInternal)
  let headers := headers.removeAll identityNames
  if trustedProxy then headers else headers.removeAll (headers.keys.filter isCloudflare)

/-- Drop every identity header and write those of the resolved address. -/
def sanitizeClientAddressHeaders (headers : HeaderMap) (address : ResolvedClientAddress) :
    HeaderMap :=
  let isHttp := address.trustedProxy && forwardedOverHttp headers
  let headers := dropIdentity headers address.trustedProxy
  let headers :=
    match HeaderValue.fromStr (display address.clientIp) with
    | none => headers
    | some value =>
        let headers := (headers.insert xForwardedFor value).insert xRealIp value
        if address.trustedProxy then headers.insert cfConnectingIp value else headers
  headers.insert xForwardedProto (if isHttp then httpScheme else httpsScheme)

theorem getAll_dropIdentity (headers : HeaderMap) (trustedProxy : Bool) (name : HeaderName) :
    (dropIdentity headers trustedProxy).getAll name =
      if isStripped trustedProxy name then [] else headers.getAll name := by
  have common : ((headers.removeAll (headers.keys.filter isInternal)).removeAll
      identityNames).getAll name =
        if isInternal name || identityNames.contains name then [] else headers.getAll name := by
    rw [Multimap.getAll_removeAll, Multimap.getAll_removeAll_filter_keys]
    by_cases listed : name ∈ identityNames
    · simp [listed]
    · simp [listed]
  cases trustedProxy with
  | true => simpa [dropIdentity, isStripped] using common
  | false =>
      simp only [dropIdentity, Bool.false_eq_true, if_false]
      rw [Multimap.getAll_removeAll_filter_keys, common]
      by_cases named : isCloudflare name = true
      · simp [isStripped, named]
      · simp [isStripped, named]

/-- The text of an address is a header value, which reads back as the text. -/
theorem exists_addressValue (address : IpAddr) :
    ∃ value, HeaderValue.fromStr (display address) = some value ∧
      value.toStr = some (display address) :=
  HeaderValue.toStr_fromStr fun _ member =>
    (graphic_of_mem_display member).imp_left Nat.le_of_lt

/-- The values of every name after sanitizing. -/
theorem getAll_sanitize (headers : HeaderMap) (address : ResolvedClientAddress)
    {value : HeaderValue} (written : HeaderValue.fromStr (display address.clientIp) = some value)
    (name : HeaderName) :
    (sanitizeClientAddressHeaders headers address).getAll name =
      if name = xForwardedProto then
        [if address.trustedProxy && forwardedOverHttp headers then httpScheme else httpsScheme]
      else if name = cfConnectingIp ∧ address.trustedProxy = true then [value]
      else if name = xRealIp ∨ name = xForwardedFor then [value]
      else if isStripped address.trustedProxy name then []
      else headers.getAll name := by
  simp only [sanitizeClientAddressHeaders, written, Multimap.getAll_insert]
  cases address.trustedProxy with
  | true =>
      simp only [if_true, and_true, Multimap.getAll_insert, getAll_dropIdentity]
      grind
  | false =>
      simp only [Bool.false_eq_true, if_false, and_false, Multimap.getAll_insert,
        getAll_dropIdentity]
      grind

/-! ## What a client can influence -/

/-- The names under which a backend could read an identity. -/
def isIdentity (name : HeaderName) : Bool :=
  isInternal name || isCloudflare name ||
    [xRealIp, trueClientIp, forwarded, xOriginalUrl, xRewriteUrl].contains name

/-- The request names a client by exactly one parsable `cf-connecting-ip`. -/
def NamesClient (headers : HeaderMap) (address : IpAddr) : Prop :=
  ∃ value text, headers.getAll cfConnectingIp = [value] ∧ value.toStr = some text ∧
    IpAddress.parse text = some address

/-- The request has exactly one `x-forwarded-proto`, whose text is `http`. -/
def SentOverHttp (headers : HeaderMap) : Prop :=
  ∃ value, headers.getAll xForwardedProto = [value] ∧ value.toStr = some "http"

theorem forwardedOverHttp_iff (headers : HeaderMap) :
    forwardedOverHttp headers = true ↔ SentOverHttp headers := by
  unfold forwardedOverHttp SentOverHttp
  cases headers.getAll xForwardedProto with
  | nil => simp
  | cons value rest => simp [and_comm]

theorem connectingIp_eq_ok {headers : HeaderMap} {address : IpAddr} :
    connectingIp headers = .ok address ↔ NamesClient headers address := by
  constructor
  · intro found
    unfold connectingIp at found
    split at found
    · cases found
    · cases found
    · rename_i value single
      split at found
      · cases found
      · rename_i text shown
        split at found
        · cases found
        · rename_i parsed
          cases found
          exact ⟨value, text, single, shown, parsed⟩
  · rintro ⟨value, text, single, shown, parsed⟩
    simp only [connectingIp, single, shown, parsed]

/-- An address is resolved for an untrusted peer on every unrestricted route, and it is that of
the peer. -/
theorem resolve_untrusted {cloudflare : CloudflareNetworks} {peer : SocketAddr}
    (untrusted : cloudflare.contains peer.ip = false) {headers : HeaderMap}
    {security : RouteSecurity} {address : ResolvedClientAddress} :
    resolveClientAddress cloudflare peer headers security = .ok address ↔
      security.cloudflareOnly = false ∧ address =
        ⟨peer, normalizeIp peer.ip, "direct_peer", false, normalizeIp_normalizeIp peer.ip⟩ := by
  simp only [resolveClientAddress, untrusted, Bool.false_eq_true, if_false]
  cases security.cloudflareOnly with
  | true => simp
  | false => simp [eq_comm]

/-- The address that is resolved for a trusted peer is the one that the request names. -/
theorem resolve_trusted {cloudflare : CloudflareNetworks} {peer : SocketAddr}
    (trusted : cloudflare.contains peer.ip = true) {headers : HeaderMap}
    {security : RouteSecurity} {address : ResolvedClientAddress} :
    resolveClientAddress cloudflare peer headers security = .ok address ↔
      ∃ client, NamesClient headers client ∧ address =
        ⟨peer, normalizeIp client, "cf_connecting_ip", true, normalizeIp_normalizeIp client⟩ := by
  simp only [resolveClientAddress, trusted, if_true, Results.map_eq_ok, connectingIp_eq_ok]
  exact exists_congr fun client => and_congr_right fun _ => eq_comm

/-- The client that a request names is unique. -/
theorem NamesClient.unique {left right : HeaderMap} {first second : IpAddr}
    (first_named : NamesClient left first) (second_named : NamesClient right second)
    (same : left.getAll cfConnectingIp = right.getAll cfConnectingIp) : first = second := by
  obtain ⟨value, text, single, shown, parsed⟩ := first_named
  obtain ⟨value', text', single', shown', parsed'⟩ := second_named
  have values : value = value' := by simpa [single, single'] using same
  have texts : text = text' := by simpa [← values, shown] using shown'
  simpa [← texts, parsed] using parsed'

theorem isStripped_untrusted (name : HeaderName) : isStripped false name = isIdentity name := by
  have connecting : isCloudflare cfConnectingIp = true := by decide
  have connecting_six : isCloudflare cfConnectingIpv6 = true := by decide
  simp only [isStripped, isIdentity, identityNames, List.contains_cons, Bool.not_false,
    Bool.true_and]
  grind

theorem isStripped_trusted {name : HeaderName} (plain : isCloudflare name = false) :
    isStripped true name = isIdentity name := by
  rw [← isStripped_untrusted]
  simp [isStripped, plain]

/-- No name starts with two texts that differ in their first character. -/
theorem isInternal_of_isCloudflare {name : HeaderName} (cloudflare : isCloudflare name = true) :
    isInternal name = false := by
  obtain ⟨rest, text⟩ := List.isPrefixOf_iff_prefix.mp cloudflare
  simp only [isInternal, HeaderName.startsWith, ← text]
  rfl

/-- A trusted peer keeps the trusted network's other headers. -/
theorem isStripped_cloudflare {name : HeaderName} (cloudflare : isCloudflare name = true)
    (other : name ≠ cfConnectingIp ∧ name ≠ cfConnectingIpv6) : isStripped true name = false := by
  have foreign : ∀ written ∈ [trueClientIp, xRealIp, forwarded, xOriginalUrl, xRewriteUrl],
      isCloudflare written = false := by decide
  have unnamed : name ∉ [trueClientIp, xRealIp, forwarded, xOriginalUrl, xRewriteUrl] :=
    fun member => Bool.false_ne_true ((foreign name member).symm.trans cloudflare)
  simp only [List.mem_cons, not_or] at unnamed
  simp [isStripped, isInternal_of_isCloudflare cloudflare, identityNames, other, unnamed]

theorem isIdentity_of_isStripped {trustedProxy : Bool} {name : HeaderName}
    (stripped : isStripped trustedProxy name = true) : isIdentity name = true := by
  rw [← isStripped_untrusted]
  simp only [isStripped, Bool.or_eq_true, Bool.and_eq_true] at stripped ⊢
  exact stripped.imp_right fun cloudflare => ⟨rfl, cloudflare.2⟩

theorem xForwardedFor_sanitize (headers : HeaderMap) (address : ResolvedClientAddress)
    {value : HeaderValue} (written : HeaderValue.fromStr (display address.clientIp) = some value) :
    (sanitizeClientAddressHeaders headers address).getAll xForwardedFor = [value] := by
  rw [getAll_sanitize headers address written, if_neg (by decide),
    if_neg fun named => absurd named.1 (by decide), if_pos (.inr rfl)]

theorem xRealIp_sanitize (headers : HeaderMap) (address : ResolvedClientAddress)
    {value : HeaderValue} (written : HeaderValue.fromStr (display address.clientIp) = some value) :
    (sanitizeClientAddressHeaders headers address).getAll xRealIp = [value] := by
  rw [getAll_sanitize headers address written, if_neg (by decide),
    if_neg fun named => absurd named.1 (by decide), if_pos (.inl rfl)]

theorem xForwardedProto_sanitize (headers : HeaderMap) (address : ResolvedClientAddress) :
    (sanitizeClientAddressHeaders headers address).getAll xForwardedProto =
      [if address.trustedProxy && forwardedOverHttp headers then httpScheme else httpsScheme] := by
  obtain ⟨value, written, _⟩ := exists_addressValue address.clientIp
  rw [getAll_sanitize headers address written, if_pos rfl]

theorem cfConnectingIp_sanitize (headers : HeaderMap) (address : ResolvedClientAddress)
    {value : HeaderValue} (written : HeaderValue.fromStr (display address.clientIp) = some value)
    (trusted : address.trustedProxy = true) :
    (sanitizeClientAddressHeaders headers address).getAll cfConnectingIp = [value] := by
  rw [getAll_sanitize headers address written, if_neg (by decide), if_pos ⟨rfl, trusted⟩]

/-- Two requests with the same address agree on a name whose values are all dropped, up to what
the trusted peer says about the scheme. -/
theorem sanitize_agree {left right : HeaderMap} {address : ResolvedClientAddress}
    (scheme : (address.trustedProxy && forwardedOverHttp left) =
      (address.trustedProxy && forwardedOverHttp right))
    {name : HeaderName} (stripped : isStripped address.trustedProxy name = true) :
    (sanitizeClientAddressHeaders left address).getAll name =
      (sanitizeClientAddressHeaders right address).getAll name := by
  obtain ⟨value, written, _⟩ := exists_addressValue address.clientIp
  rw [getAll_sanitize left address written, getAll_sanitize right address written, scheme]
  simp [stripped]

/-- The sanitizer writes only names that it drops. -/
theorem sanitize_frame (headers : HeaderMap) (address : ResolvedClientAddress) {name : HeaderName}
    (kept : isStripped address.trustedProxy name = false) :
    (sanitizeClientAddressHeaders headers address).getAll name = headers.getAll name := by
  obtain ⟨value, written, _⟩ := exists_addressValue address.clientIp
  have not_written : ∀ written ∈ [xForwardedProto, cfConnectingIp, xRealIp, xForwardedFor],
      name ≠ written := by
    rintro written member rfl
    have always : ∀ trustedProxy, ∀ written ∈
        [xForwardedProto, cfConnectingIp, xRealIp, xForwardedFor],
        isStripped trustedProxy written = true := by decide
    exact Bool.false_ne_true (kept.symm.trans (always _ _ member))
  rw [getAll_sanitize headers address written]
  simp only [List.forall_mem_cons] at not_written
  simp [not_written, kept]

/-- What the first pass writes about the scheme is what the second pass reads. -/
theorem forwardedOverHttp_sanitize (headers : HeaderMap) (address : ResolvedClientAddress) :
    forwardedOverHttp (sanitizeClientAddressHeaders headers address) =
      (address.trustedProxy && forwardedOverHttp headers) := by
  rw [forwardedOverHttp, xForwardedProto_sanitize]
  cases address.trustedProxy && forwardedOverHttp headers with
  | true => decide
  | false => decide

theorem sanitize_sanitize (headers : HeaderMap) (address : ResolvedClientAddress)
    (name : HeaderName) :
    (sanitizeClientAddressHeaders (sanitizeClientAddressHeaders headers address) address).getAll
        name =
      (sanitizeClientAddressHeaders headers address).getAll name := by
  cases stripped : isStripped address.trustedProxy name with
  | true =>
      apply sanitize_agree _ stripped
      rw [forwardedOverHttp_sanitize, ← Bool.and_assoc, Bool.and_self]
  | false => exact sanitize_frame _ address stripped

/-- The headers of an untrusted peer have no influence on the identity a backend sees, and those
of a trusted peer have only the influence of the client they name and of the scheme. -/
theorem identity_not_spoofed (cloudflare : CloudflareNetworks) (peer : SocketAddr) :
    (cloudflare.contains peer.ip = false →
      (∀ headers security,
        (∃ address, resolveClientAddress cloudflare peer headers security = .ok address) ↔
          security.cloudflareOnly = false) ∧
      ∀ (left right : HeaderMap) (leftSecurity rightSecurity : RouteSecurity)
        (leftAddress rightAddress : ResolvedClientAddress),
        resolveClientAddress cloudflare peer left leftSecurity = .ok leftAddress →
        resolveClientAddress cloudflare peer right rightSecurity = .ok rightAddress →
        (∀ name, isIdentity name = true →
          (sanitizeClientAddressHeaders left leftAddress).getAll name =
            (sanitizeClientAddressHeaders right rightAddress).getAll name) ∧
        (∃ value, value.toStr = some (display (normalizeIp peer.ip)) ∧
          (sanitizeClientAddressHeaders left leftAddress).getAll xForwardedFor = [value] ∧
          (sanitizeClientAddressHeaders left leftAddress).getAll xRealIp = [value]) ∧
        (sanitizeClientAddressHeaders left leftAddress).getAll xForwardedProto = [httpsScheme]) ∧
    (cloudflare.contains peer.ip = true →
      (∀ headers security,
        (∃ address, resolveClientAddress cloudflare peer headers security = .ok address) ↔
          ∃ client, NamesClient headers client) ∧
      ∀ (left right : HeaderMap) (leftSecurity rightSecurity : RouteSecurity)
        (leftAddress rightAddress : ResolvedClientAddress),
        resolveClientAddress cloudflare peer left leftSecurity = .ok leftAddress →
        resolveClientAddress cloudflare peer right rightSecurity = .ok rightAddress →
        left.getAll cfConnectingIp = right.getAll cfConnectingIp →
        (SentOverHttp left ↔ SentOverHttp right) →
        ∀ name, isIdentity name = true → isCloudflare name = false →
          (sanitizeClientAddressHeaders left leftAddress).getAll name =
            (sanitizeClientAddressHeaders right rightAddress).getAll name) ∧
    (∀ (headers : HeaderMap) (security : RouteSecurity) (address : ResolvedClientAddress),
      resolveClientAddress cloudflare peer headers security = .ok address →
      (∀ name, isIdentity name = false →
        (sanitizeClientAddressHeaders headers address).getAll name = headers.getAll name) ∧
      (address.trustedProxy = true → ∀ name, isCloudflare name = true →
        name ≠ cfConnectingIp ∧ name ≠ cfConnectingIpv6 →
        (sanitizeClientAddressHeaders headers address).getAll name = headers.getAll name) ∧
      ∀ name,
        (sanitizeClientAddressHeaders (sanitizeClientAddressHeaders headers address)
          address).getAll name =
        (sanitizeClientAddressHeaders headers address).getAll name) := by
  refine ⟨fun untrusted => ⟨?_, ?_⟩, fun trusted => ⟨?_, ?_⟩, ?_⟩
  · intro headers security
    simp only [resolve_untrusted untrusted, exists_and_left, exists_eq, and_true]
  · intro left right leftSecurity rightSecurity leftAddress rightAddress leftResolved rightResolved
    obtain ⟨_, leftEq⟩ := (resolve_untrusted untrusted).mp leftResolved
    obtain ⟨_, rightEq⟩ := (resolve_untrusted untrusted).mp rightResolved
    obtain rfl := leftEq.trans rightEq.symm
    have direct : leftAddress.trustedProxy = false := by rw [leftEq]
    have client : leftAddress.clientIp = normalizeIp peer.ip := by rw [leftEq]
    obtain ⟨value, written, shown⟩ := exists_addressValue leftAddress.clientIp
    refine ⟨fun name identity => ?_, ⟨value, client ▸ shown, ?_, ?_⟩, ?_⟩
    · apply sanitize_agree
      · simp [direct]
      · rw [direct, isStripped_untrusted, identity]
    · exact xForwardedFor_sanitize left leftAddress written
    · exact xRealIp_sanitize left leftAddress written
    · simp [xForwardedProto_sanitize, direct]
  · intro headers security
    simp only [resolve_trusted trusted]
    constructor
    · rintro ⟨_, client, named, _⟩
      exact ⟨client, named⟩
    · rintro ⟨client, named⟩
      exact ⟨_, client, named, rfl⟩
  · intro left right leftSecurity rightSecurity leftAddress rightAddress leftResolved rightResolved
      sameClient sameScheme name identity plain
    obtain ⟨leftClient, leftNamed, rfl⟩ := (resolve_trusted trusted).mp leftResolved
    obtain ⟨rightClient, rightNamed, rfl⟩ := (resolve_trusted trusted).mp rightResolved
    obtain rfl := leftNamed.unique rightNamed sameClient
    apply sanitize_agree
    · rw [← forwardedOverHttp_iff, ← forwardedOverHttp_iff, ← Bool.eq_iff_iff] at sameScheme
      simp [sameScheme]
    · exact (isStripped_trusted plain).trans identity
  · intro headers security address _
    refine ⟨fun name foreign => ?_, fun trusted name cloudflare other => ?_,
      sanitize_sanitize headers address⟩
    · apply sanitize_frame
      cases stripped : isStripped address.trustedProxy name with
      | false => rfl
      | true => exact absurd (isIdentity_of_isStripped stripped) (by simp [foreign])
    · apply sanitize_frame
      rw [trusted, isStripped_cloudflare cloudflare other]

/-! ## Two peers -/

theorem canonical_20 : 0xADF53000#32 &&& 0xFFFFF000#32 = 0xADF53000#32 := rfl

/-- A trusted network of one range, `173.245.48.0/20`. -/
def oneRange : CloudflareNetworks := ⟨[.v4 0xADF53000#32 0xFFFFF000#32 canonical_20]⟩

def outsider : SocketAddr := ⟨.v4 0xCB007109#32, 40112, 0⟩
def insider : SocketAddr := ⟨.v4 0xADF53005#32, 40112, 0⟩

/-- A request that names a client in the one header that a trusted peer may use. -/
def namingHeaders : HeaderMap :=
  [(cfConnectingIp, ⟨Utf8.encode "198.51.100.24".toList, by decide⟩)]

/-- A request that claims further identities. -/
def forgedHeaders : HeaderMap :=
  [(xForwardedFor, ⟨Utf8.encode "10.20.30.40".toList, by decide⟩),
    (xRealIp, ⟨Utf8.encode "10.20.30.41".toList, by decide⟩)] ++ namingHeaders

/-- The forged headers of either peer make no difference; the untrusted one goes by its own
address. -/
theorem identity_not_spoofed_peers :
    (∃ forged plain, resolveClientAddress oneRange outsider forgedHeaders ⟨false⟩ = .ok forged ∧
      resolveClientAddress oneRange outsider [] ⟨false⟩ = .ok plain ∧
      (∀ name, isIdentity name = true →
        (sanitizeClientAddressHeaders forgedHeaders forged).getAll name =
          (sanitizeClientAddressHeaders [] plain).getAll name) ∧
      ∃ value, value.toStr = some "203.0.113.9" ∧
        (sanitizeClientAddressHeaders forgedHeaders forged).getAll xForwardedFor = [value]) ∧
    ∃ forged plain, resolveClientAddress oneRange insider forgedHeaders ⟨true⟩ = .ok forged ∧
      resolveClientAddress oneRange insider namingHeaders ⟨true⟩ = .ok plain ∧
      ∀ name, isIdentity name = true → isCloudflare name = false →
        (sanitizeClientAddressHeaders forgedHeaders forged).getAll name =
          (sanitizeClientAddressHeaders namingHeaders plain).getAll name := by
  constructor
  · obtain ⟨resolves, agree⟩ := (identity_not_spoofed oneRange outsider).1 rfl
    obtain ⟨forged, forged_found⟩ := (resolves forgedHeaders ⟨false⟩).mpr rfl
    obtain ⟨plain, plain_found⟩ := (resolves [] ⟨false⟩).mpr rfl
    obtain ⟨same, ⟨value, shown, written, _⟩, _⟩ :=
      agree forgedHeaders [] ⟨false⟩ ⟨false⟩ forged plain forged_found plain_found
    have text : display (normalizeIp outsider.ip) = "203.0.113.9" := by decide +kernel
    exact ⟨forged, plain, forged_found, plain_found, same, value, text ▸ shown, written⟩
  · obtain ⟨resolves, agree⟩ := (identity_not_spoofed oneRange insider).2.1 rfl
    have named : ∃ client, NamesClient namingHeaders client :=
      ⟨.v4 0xC6336418#32, _, "198.51.100.24", rfl, by decide +kernel, by decide +kernel⟩
    obtain ⟨forged, forged_found⟩ := (resolves forgedHeaders ⟨true⟩).mpr named
    obtain ⟨plain, plain_found⟩ := (resolves namingHeaders ⟨true⟩).mpr named
    have scheme : SentOverHttp forgedHeaders ↔ SentOverHttp namingHeaders := by
      rw [← forwardedOverHttp_iff, ← forwardedOverHttp_iff]
      rfl
    exact ⟨forged, plain, forged_found, plain_found,
      agree forgedHeaders namingHeaders ⟨true⟩ ⟨true⟩ forged plain forged_found plain_found rfl
        scheme⟩

end EdgeGateway.Security
