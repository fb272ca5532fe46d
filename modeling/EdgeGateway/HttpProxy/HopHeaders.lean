import EdgeGateway.HttpProxy.Headers

/-!
# What a hop leaves behind

Sanitizing drops the headers of one hop: those that it always drops and those that `connection`
names.  Every other header passes unchanged, and sanitizing twice is sanitizing once.
-/

namespace EdgeGateway.HttpProxy

open Http

variable {headers : HeaderMap} {isUpgrade : Bool}

/-! ## The names in a value -/

/-- A token of the comma-separated value is the name, in any case. -/
def Lists (value : HeaderValue) (name : HeaderName) : Prop :=
  ∃ token ∈ (asciiText value.bytes).toList.splitOn ',',
    (Text.trim token).map Char.toLower = name.text.toList

/-- Some value of `connection` names the header. -/
def Named (headers : HeaderMap) (name : HeaderName) : Prop :=
  ∃ value ∈ headers.getAll connection, Lists value name

/-- Every value of `connection` has a text. -/
def VisibleConnection (headers : HeaderMap) : Prop :=
  ∀ value ∈ headers.getAll connection, value.bytes.all isVisibleAscii = true

instance (headers : HeaderMap) : Decidable (VisibleConnection headers) :=
  inferInstanceAs (Decidable (∀ value ∈ headers.getAll connection, _ = true))

theorem fromBytes_eq_some {text : List Char} {name : HeaderName} :
    HeaderName.fromBytes text = some name ↔ text.map Char.toLower = name.text.toList := by
  rw [HeaderName.fromBytes]
  constructor
  · intro read
    split_ifs at read
    cases read
    exact (String.toList_ofList).symm
  · intro lowered
    have same : String.ofList (text.map Char.toLower) = name.text := by
      rw [lowered, String.ofList_toList]
    simp only [same, name.wellFormed, dif_pos]

/-- Some value of `connection` that has a text names the header. -/
def VisiblyNamed (headers : HeaderMap) (name : HeaderName) : Prop :=
  ∃ value ∈ headers.getAll connection, value.bytes.all isVisibleAscii = true ∧ Lists value name

/-- The names that the sanitizer reads are those that the values with a text name. -/
theorem mem_connectionNames_iff {name : HeaderName} :
    name ∈ connectionNames headers ↔ VisiblyNamed headers name := by
  simp only [connectionNames, List.mem_filterMap, List.mem_flatMap, fromBytes_eq_some]
  constructor
  · intro read
    obtain ⟨token, ⟨text, ⟨value, member, shown⟩, split⟩, named⟩ := read
    rw [HeaderValue.toStr, Option.ite_none_right_eq_some] at shown
    obtain ⟨visible, text_eq⟩ := shown
    rw [Option.some.injEq] at text_eq
    exact ⟨value, member, visible, token, text_eq ▸ split, named⟩
  · intro named
    obtain ⟨value, member, visible, token, split, same⟩ := named
    refine ⟨token, ⟨asciiText value.bytes, ⟨value, member, ?_⟩, split⟩, same⟩
    rw [HeaderValue.toStr, if_pos visible]

/-- The names that the sanitizer reads are those that the values name. -/
theorem mem_connectionNames (visible : VisibleConnection headers) {name : HeaderName} :
    name ∈ connectionNames headers ↔ Named headers name := by
  rw [mem_connectionNames_iff]
  constructor
  · rintro ⟨value, member, _, listed⟩
    exact ⟨value, member, listed⟩
  · rintro ⟨value, member, listed⟩
    exact ⟨value, member, visible value member, listed⟩

/-! ## What is left -/

/-- The headers that are dropped from every request. -/
def requestHopNames : List HeaderName :=
  [proxyConnection, keepAlive, transferEncoding, proxyAuthenticate, proxyAuthorization]

/-- The headers that are dropped from every response. -/
def responseHopNames : List HeaderName :=
  [proxyConnection, keepAlive, transferEncoding, proxyAuthenticate]

/-- The result has lost exactly the headers of the hop. -/
structure HopSanitized (hop : List HeaderName) (advertised : List HeaderValue)
    (isUpgrade : Bool) (headers result : HeaderMap) : Prop where
  /-- What `connection` names is gone, up to what the sanitizer writes itself. -/
  named : ∀ name, Named headers name → name ≠ te → name ≠ connection →
    ¬(isUpgrade = true ∧ name = upgrade) → result.getAll name = []
  dropped : ∀ name ∈ hop, result.getAll name = []
  te : result.getAll te = advertised
  connection : result.getAll connection = if isUpgrade then [upgradeToken] else []
  upgrade : isUpgrade = false → result.getAll upgrade = []
  kept : ∀ name, name ∉ hop → name ≠ HttpProxy.te → name ≠ HttpProxy.connection →
    (name = HttpProxy.upgrade ∧ isUpgrade = true) ∨
      (name ≠ HttpProxy.upgrade ∧ ¬Named headers name) →
    result.getAll name = headers.getAll name

/-- Sanitizing that empties some further names leaves the rest of the hop headers gone. -/
theorem hopSanitized_of_getAll {hop : List HeaderName} {advertised : List HeaderValue}
    {result : HeaderMap} (visible : VisibleConnection headers)
    (plain : connection ∉ hop ∧ upgrade ∉ hop ∧ te ∉ hop)
    (always : ∀ name ∈ hopNames, name ∈ hop)
    (values : ∀ name, result.getAll name =
      if name = te then advertised else if name ∈ hop then []
      else (sanitizeHopHeaders headers isUpgrade).getAll name) :
    HopSanitized hop advertised isUpgrade headers result := by
  obtain ⟨connection_plain, upgrade_plain, te_plain⟩ := plain
  have other : connection ≠ te ∧ upgrade ≠ te ∧ upgrade ≠ connection := by decide
  have hop_plain : connection ∉ hopNames ∧ upgrade ∉ hopNames :=
    ⟨fun member => connection_plain (always _ member),
      fun member => upgrade_plain (always _ member)⟩
  constructor
  · intro name listed not_te not_connection not_upgrade
    rw [values, if_neg not_te, getAll_sanitizeHopHeaders, if_neg not_connection]
    rw [← mem_connectionNames visible] at listed
    cases isUpgrade with
    | true =>
        have not_upgrade : name ≠ upgrade := fun same => not_upgrade ⟨rfl, same⟩
        simp [listed, not_upgrade]
    | false => simp [listed]
  · intro name member
    have not_te : name ≠ te := fun same => te_plain (same ▸ member)
    rw [values, if_neg not_te, if_pos member]
  · rw [values, if_pos rfl]
  · rw [values, if_neg other.1, if_neg connection_plain, getAll_sanitizeHopHeaders, if_pos rfl]
  · intro plain_request
    rw [values, if_neg other.2.1, if_neg upgrade_plain, getAll_sanitizeHopHeaders,
      if_neg other.2.2, if_neg hop_plain.2, if_pos rfl, plain_request]
    rfl
  · intro name not_hop not_te not_connection kept
    have not_always : name ∉ hopNames := fun member => not_hop (always name member)
    rw [values, if_neg not_te, if_neg not_hop, getAll_sanitizeHopHeaders, if_neg not_connection,
      if_neg not_always]
    rcases kept with ⟨rfl, upgrades⟩ | ⟨not_upgrade, unlisted⟩
    · rw [if_pos rfl, upgrades, if_pos rfl]
    · rw [if_neg not_upgrade, if_neg (unlisted ∘ (mem_connectionNames visible).mp)]

theorem getAll_of_mem_hopNames {name : HeaderName} (member : name ∈ hopNames) :
    (sanitizeHopHeaders headers isUpgrade).getAll name = [] := by
  have plain : connection ∉ hopNames := by decide
  have other : name ≠ connection := fun same => plain (same ▸ member)
  rw [getAll_sanitizeHopHeaders, if_neg other, if_pos member]

/-- The values of every name of a sanitized request. -/
theorem getAll_request (headers : HeaderMap) (isUpgrade : Bool) (name : HeaderName) :
    (sanitizeRequest headers isUpgrade).getAll name =
      if name = te then if isUpgrade then [] else [trailersToken]
      else if name ∈ requestHopNames then []
      else (sanitizeHopHeaders headers isUpgrade).getAll name := by
  have always := @getAll_of_mem_hopNames headers isUpgrade name
  have hop : name ∈ requestHopNames ↔
      name ∈ hopNames ∨ name = proxyAuthenticate ∨ name = proxyAuthorization := by
    simp [requestHopNames, hopNames, or_assoc]
  cases isUpgrade with
  | true =>
      simp only [sanitizeRequest, if_true, Multimap.getAll_remove, hop]
      grind
  | false =>
      simp only [sanitizeRequest, Bool.false_eq_true, if_false, Multimap.getAll_insert,
        Multimap.getAll_remove, hop]
      grind

/-- The values of every name of a sanitized response. -/
theorem getAll_response (headers : HeaderMap) (isUpgrade : Bool) (name : HeaderName) :
    (sanitizeResponse headers isUpgrade).getAll name =
      if name = te then []
      else if name ∈ responseHopNames then []
      else (sanitizeHopHeaders headers isUpgrade).getAll name := by
  have always := @getAll_of_mem_hopNames headers isUpgrade name
  have hop : name ∈ responseHopNames ↔ name ∈ hopNames ∨ name = proxyAuthenticate := by
    simp [responseHopNames, hopNames, or_assoc]
  simp only [sanitizeResponse, Multimap.getAll_remove, hop]
  grind

theorem sanitizeRequest_sanitized (visible : VisibleConnection headers) :
    HopSanitized requestHopNames (if isUpgrade then [] else [trailersToken]) isUpgrade headers
      (sanitizeRequest headers isUpgrade) :=
  hopSanitized_of_getAll visible (by decide) (by decide) (getAll_request headers isUpgrade)

theorem sanitizeResponse_sanitized (visible : VisibleConnection headers) :
    HopSanitized responseHopNames [] isUpgrade headers (sanitizeResponse headers isUpgrade) :=
  hopSanitized_of_getAll visible (by decide) (by decide) (getAll_response headers isUpgrade)

/-! ## Sanitizing again -/

variable {hop : List HeaderName} {advertised : List HeaderValue} {result resanitized : HeaderMap}

/-- What is left of `connection` names nothing but the upgrade. -/
theorem HopSanitized.named_result
    (sanitized : HopSanitized hop advertised isUpgrade headers result) {name : HeaderName}
    (listed : Named result name) : isUpgrade = true ∧ name = HttpProxy.upgrade := by
  obtain ⟨value, member, token, split, same⟩ := listed
  rw [sanitized.connection] at member
  cases isUpgrade with
  | false => cases member
  | true =>
      rw [if_pos rfl, List.mem_singleton] at member
      subst member
      have only : (asciiText upgradeToken.bytes).toList.splitOn ',' = ["upgrade".toList] := by
        decide
      rw [only, List.mem_singleton] at split
      subst split
      have lowered : (Text.trim "upgrade".toList).map Char.toLower =
          HttpProxy.upgrade.text.toList := by decide
      refine ⟨rfl, ?_⟩
      have texts : name.text = HttpProxy.upgrade.text :=
        String.toList_inj.mp (same.symm.trans lowered)
      exact HeaderName.text_injective texts

theorem HopSanitized.visible
    (sanitized : HopSanitized hop advertised isUpgrade headers result) :
    VisibleConnection result := by
  intro value member
  rw [sanitized.connection] at member
  cases isUpgrade with
  | false => cases member
  | true =>
      rw [if_pos rfl, List.mem_singleton] at member
      subst member
      decide

/-- Sanitized headers have lost nothing that sanitizing them again could drop. -/
theorem HopSanitized.again
    (sanitized : HopSanitized hop advertised isUpgrade headers result)
    (repeated : HopSanitized hop advertised isUpgrade result resanitized) (name : HeaderName) :
    resanitized.getAll name = result.getAll name := by
  by_cases dropped : name ∈ hop
  · rw [repeated.dropped name dropped, sanitized.dropped name dropped]
  by_cases is_te : name = HttpProxy.te
  · rw [is_te, repeated.te, sanitized.te]
  by_cases is_connection : name = HttpProxy.connection
  · rw [is_connection, repeated.connection, sanitized.connection]
  by_cases is_upgrade : name = HttpProxy.upgrade
  · subst is_upgrade
    cases isUpgrade with
    | false => rw [repeated.upgrade rfl, sanitized.upgrade rfl]
    | true => exact repeated.kept _ dropped is_te is_connection (.inl ⟨rfl, rfl⟩)
  · have unlisted : ¬Named result name := fun listed =>
      is_upgrade (sanitized.named_result listed).2
    exact repeated.kept name dropped is_te is_connection (.inr ⟨is_upgrade, unlisted⟩)

/-- Sanitizing removes exactly the headers of the hop, and doing it again changes nothing. -/
theorem hop_headers_removed (visible : VisibleConnection headers) :
    HopSanitized requestHopNames (if isUpgrade then [] else [trailersToken]) isUpgrade headers
        (sanitizeRequest headers isUpgrade) ∧
      HopSanitized responseHopNames [] isUpgrade headers (sanitizeResponse headers isUpgrade) ∧
      (∀ name, (sanitizeRequest (sanitizeRequest headers isUpgrade) isUpgrade).getAll name =
        (sanitizeRequest headers isUpgrade).getAll name) ∧
      ∀ name, (sanitizeResponse (sanitizeResponse headers isUpgrade) isUpgrade).getAll name =
        (sanitizeResponse headers isUpgrade).getAll name := by
  have request := @sanitizeRequest_sanitized headers isUpgrade visible
  have response := @sanitizeResponse_sanitized headers isUpgrade visible
  refine ⟨request, response, ?_, ?_⟩
  · exact request.again (sanitizeRequest_sanitized request.visible)
  · exact response.again (sanitizeResponse_sanitized response.visible)

/-- A request whose `connection` names the upgrade, itself and a header of its own. -/
def listedHeaders : HeaderMap :=
  [(connection, ⟨Utf8.encode "Upgrade, connection".toList, by decide⟩),
    (connection, ⟨Utf8.encode "keep-alive".toList, by decide⟩),
    (upgrade, ⟨Utf8.encode "websocket".toList, by decide⟩)]

theorem hop_headers_removed_listed :
    (sanitizeRequest listedHeaders true).getAll connection = [upgradeToken] ∧
      (sanitizeRequest listedHeaders true).getAll upgrade = listedHeaders.getAll upgrade := by
  have visible : VisibleConnection listedHeaders := by decide
  obtain ⟨request, _⟩ := @hop_headers_removed listedHeaders true visible
  refine ⟨request.connection, request.kept upgrade (by decide) (by decide) (by decide) ?_⟩
  exact .inl ⟨rfl, rfl⟩

end EdgeGateway.HttpProxy
