import EdgeGateway.Routing.Authority

/-!
# The authority of a proxied request

The host that a request is routed by and the authority that is passed on to the backend come from
the same sources, and all sources of one request agree.
-/

namespace EdgeGateway.HttpProxy

open Http Results Routing

/-- The authority that is passed on to the backend. -/
def requestAuthority (request : Request) : Except String String := do
  let _ ← resolveRequestHost request
  match request.uri.authority with
  | some authority => return authority
  | none =>
      match (request.headers.get hostName).bind HeaderValue.toStr with
      | some text => return text
      | none => throw "request authority required"

/-! ## Accepted requests -/

theorem effective_eq_some {authority host : String} {port : Nat} :
    effective authority = some (host, port) ↔
      ∃ named, normalizeAuthority authority = .ok (host, named) ∧ named.getD 443 = port := by
  rw [effective]
  cases normalizeAuthority authority with
  | error reason => simp [Except.toOption]
  | ok found =>
      obtain ⟨found_host, found_port⟩ := found
      simp [Except.toOption]

/-- The authority names the host, on some port. -/
def Names (host : String) (authority : String) : Prop :=
  ∃ port, effective authority = some (host, port)

theorem names_iff {authority host : String} :
    Names host authority ↔ ∃ named, normalizeAuthority authority = .ok (host, named) := by
  simp only [Names, effective_eq_some]
  constructor
  · rintro ⟨_, named, accepted, _⟩
    exact ⟨named, accepted⟩
  · rintro ⟨named, accepted⟩
    exact ⟨_, named, accepted, rfl⟩

/-- What the sources of a request have to meet for a host. -/
structure Agrees (request : Request) (host : String) (header : Option String) : Prop where
  read : hostHeader request.headers = .ok header
  header_names : ∀ text, header = some text → Names host text
  authority_names : ∀ text, request.uri.authority = some text → Names host text
  same : ∀ text authority, header = some text → request.uri.authority = some authority →
    effective text = effective authority
  authority_present : request.version = .http2 → request.uri.authority.isSome = true
  present : header.isSome = true ∨ request.uri.authority.isSome = true

theorem mapM_eq_ok {source : Option String} {found : Option (String × Option Nat)} :
    source.mapM normalizeAuthority = Except.ok found ↔
      (source = none ∧ found = none) ∨
        ∃ text parts, source = some text ∧ found = some parts ∧
          normalizeAuthority text = .ok parts := by
  cases source with
  | none => simp [pure, Except.pure, eq_comm]
  | some text =>
      have mapped : (some text).mapM normalizeAuthority = (normalizeAuthority text).map some := rfl
      rw [mapped, map_eq_ok]
      constructor
      · rintro ⟨parts, named, rfl⟩
        exact .inr ⟨text, parts, rfl, rfl, named⟩
      · rintro (⟨absent, _⟩ | ⟨_, parts, same, rfl, named⟩)
        · cases absent
        · cases same
          exact ⟨parts, named, rfl⟩

theorem names_of_ok {authority : String} {parts : String × Option Nat}
    (named : normalizeAuthority authority = .ok parts) : Names parts.1 authority :=
  names_iff.mpr ⟨parts.2, named⟩

theorem effective_of_ok {authority : String} {parts : String × Option Nat}
    (named : normalizeAuthority authority = .ok parts) :
    effective authority = some (parts.1, parts.2.getD 443) :=
  effective_eq_some.mpr ⟨parts.2, named, rfl⟩

/-- All sources of a request whose host is resolved agree on it. -/
theorem agrees_of_resolveRequestHost {request : Request} {host : String}
    (resolved : resolveRequestHost request = .ok host) : ∃ header, Agrees request host header := by
  rw [resolveRequestHost] at resolved
  simp only [bind_eq_ok, mapM_eq_ok] at resolved
  obtain ⟨header, read, _, ⟨rfl, rfl⟩ | ⟨text, parts, rfl, rfl, named⟩, _,
    ⟨absent, rfl⟩ | ⟨authority, authority_parts, present, rfl, authority_named⟩, resolved⟩ :=
    resolved
  · dsimp only at resolved
    split_ifs at resolved
    · cases resolved
    · cases resolved
  · dsimp only at resolved
    split_ifs at resolved with missing
    · cases missing.2
    · cases resolved
      refine ⟨none, read, ?_, ?_, ?_, ?_, .inr (by rw [present]; rfl)⟩
      · rintro text ⟨⟩
      · rintro text same
        cases present.symm.trans same
        exact names_of_ok authority_named
      · rintro text _ ⟨⟩
      · exact fun _ => by rw [present]; rfl
  · dsimp only at resolved
    split_ifs at resolved with missing
    · cases resolved
    · cases resolved
      refine ⟨some text, read, ?_, ?_, ?_, ?_, .inl rfl⟩
      · rintro _ ⟨⟩
        exact names_of_ok named
      · rintro authority same
        cases absent.symm.trans same
      · rintro _ authority _ same
        cases absent.symm.trans same
      · exact fun version => absurd ⟨version, rfl⟩ missing
  · dsimp only at resolved
    split_ifs at resolved with conflict missing missing
    · cases missing.2
    · cases resolved
    · cases missing.2
    · cases resolved
      rw [not_or, not_not, not_not] at conflict
      refine ⟨some text, read, ?_, ?_, ?_, ?_, .inl rfl⟩
      · rintro _ ⟨⟩
        exact conflict.1 ▸ names_of_ok named
      · rintro _ same
        cases present.symm.trans same
        exact names_of_ok authority_named
      · rintro _ _ ⟨⟩ same
        cases present.symm.trans same
        rw [effective_of_ok named, effective_of_ok authority_named, conflict.1, conflict.2]
      · exact fun _ => by rw [present]; rfl

/-- A host that all sources agree on is resolved. -/
theorem resolveRequestHost_of_agrees {request : Request} {host : String} {header : Option String}
    (agrees : Agrees request host header) : resolveRequestHost request = .ok host := by
  rw [resolveRequestHost]
  simp only [bind_eq_ok, mapM_eq_ok]
  obtain ⟨read, header_names, authority_names, same, authority_present, present⟩ := agrees
  refine ⟨header, read, ?_⟩
  cases header with
  | none =>
      refine ⟨none, .inl ⟨rfl, rfl⟩, ?_⟩
      cases source : request.uri.authority with
      | none =>
          rw [source] at present
          rcases present with missing | missing
          · cases missing
          · cases missing
      | some authority =>
          obtain ⟨port, named⟩ := names_iff.mp (authority_names authority source)
          refine ⟨some (host, port), .inr ⟨authority, (host, port), rfl, rfl, named⟩, ?_⟩
          dsimp only
          rw [if_neg (fun missing => by cases missing.2)]
          rfl
  | some text =>
      obtain ⟨port, named⟩ := names_iff.mp (header_names text rfl)
      refine ⟨some (host, port), .inr ⟨text, (host, port), rfl, rfl, named⟩, ?_⟩
      cases source : request.uri.authority with
      | none =>
          refine ⟨none, .inl ⟨rfl, rfl⟩, ?_⟩
          dsimp only
          rw [if_neg]
          · rfl
          · rintro ⟨version, _⟩
            have found := authority_present version
            rw [source] at found
            cases found
      | some authority =>
          obtain ⟨other_port, other_named⟩ := names_iff.mp (authority_names authority source)
          refine ⟨some (host, other_port), .inr ⟨authority, (host, other_port), rfl, rfl,
            other_named⟩, ?_⟩
          have agree := same text authority rfl source
          rw [effective_of_ok named, effective_of_ok other_named] at agree
          dsimp only
          rw [if_neg, if_neg (fun missing => by cases missing.2)]
          · rfl
          · rintro (other | other)
            · exact other rfl
            · exact other (Prod.mk.inj (Option.some.inj agree)).2

/-- A host is resolved when all sources of the request agree on it. -/
theorem resolveRequestHost_eq_ok {request : Request} {host : String} :
    resolveRequestHost request = .ok host ↔ ∃ header, Agrees request host header :=
  ⟨agrees_of_resolveRequestHost, fun ⟨_, agrees⟩ => resolveRequestHost_of_agrees agrees⟩

/-- A request has no Host header, or one whose text is read. -/
theorem hostHeader_eq_ok {headers : HeaderMap} {header : Option String} :
    hostHeader headers = .ok header ↔
      (headers.getAll hostName = [] ∧ header = none) ∨
        ∃ value text, headers.getAll hostName = [value] ∧ value.toStr = some text ∧
          header = some text := by
  rw [hostHeader]
  cases headers.getAll hostName with
  | nil => simp [eq_comm]
  | cons value more =>
      cases read : value.toStr with
      | none =>
          simp only [read]
          constructor
          · intro accepted
            cases accepted
          · rintro (⟨empty, _⟩ | ⟨_, text, same, other, _⟩)
            · cases empty
            · cases same
              cases read.symm.trans other
      | some text =>
          simp only [read]
          constructor
          · intro accepted
            split_ifs at accepted with single
            cases accepted
            exact .inr ⟨value, text, by rw [single], read, rfl⟩
          · rintro (⟨empty, _⟩ | ⟨_, other_text, same, other, rfl⟩)
            · cases empty
            · cases same
              cases read.symm.trans other
              rfl

/-! ## The same request in other words -/

/-- Two values of the Host header stand for the same. -/
def SameHostValue (value other : HeaderValue) : Prop :=
  ∃ text other_text, value.toStr = some text ∧ other.toStr = some other_text ∧
    SameAuthority text other_text

/-- The sources of the authority of two requests are there alike and stand for the same. -/
structure Restated (request other : Request) : Prop where
  version : other.version = request.version
  authority : Option.Rel SameAuthority request.uri.authority other.uri.authority
  headers : List.Forall₂ SameHostValue (request.headers.getAll hostName)
    (other.headers.getAll hostName)

/-- The Host headers of two such requests are read alike. -/
theorem Restated.hostHeader {request other : Request} (restated : Restated request other)
    {header : Option String} (read : Routing.hostHeader request.headers = .ok header) :
    ∃ other_header, Routing.hostHeader other.headers = .ok other_header ∧
      Option.Rel SameAuthority header other_header := by
  have headers := restated.headers
  rcases hostHeader_eq_ok.mp read with ⟨absent, rfl⟩ | ⟨value, text, present, shown, rfl⟩
  · rw [absent] at headers
    cases both : other.headers.getAll hostName with
    | nil => exact ⟨none, hostHeader_eq_ok.mpr (.inl ⟨both, rfl⟩), .none⟩
    | cons other_value more =>
        rw [both] at headers
        cases headers
  · rw [present] at headers
    cases both : other.headers.getAll hostName with
    | nil =>
        rw [both] at headers
        cases headers
    | cons other_value more =>
        rw [both] at headers
        cases headers with
        | cons first rest =>
            cases rest
            obtain ⟨own, other_text, own_shown, other_shown, same⟩ := first
            cases shown.symm.trans own_shown
            exact ⟨some other_text,
              hostHeader_eq_ok.mpr (.inr ⟨other_value, other_text, both, other_shown, rfl⟩),
              .some same⟩

/-- Sources that stand for the same agree on the same host. -/
theorem Agrees.restated {request other : Request} {host : String} {header : Option String}
    (agrees : Agrees request host header) (restated : Restated request other) :
    ∃ other_header, Agrees other host other_header := by
  obtain ⟨other_header, read, headers⟩ := restated.hostHeader agrees.read
  have authorities := restated.authority
  have header_back (text : String) (present : other_header = some text) :
      ∃ own, header = some own ∧ effective own = effective text := by
    rw [present] at headers
    cases headers with
    | some same => exact ⟨_, rfl, same.effective_eq⟩
  have authority_back (text : String) (present : other.uri.authority = some text) :
      ∃ own, request.uri.authority = some own ∧ effective own = effective text := by
    rw [present] at authorities
    cases source : request.uri.authority with
    | none =>
        rw [source] at authorities
        cases authorities
    | some own =>
        rw [source] at authorities
        cases authorities with
        | some same => exact ⟨own, rfl, same.effective_eq⟩
  have authority_forth (present : request.uri.authority.isSome = true) :
      other.uri.authority.isSome = true := by
    obtain ⟨own, source⟩ := Option.isSome_iff_exists.mp present
    rw [source] at authorities
    cases found : other.uri.authority with
    | none =>
        rw [found] at authorities
        cases authorities
    | some text => rfl
  refine ⟨other_header, read, ?_, ?_, ?_, ?_, ?_⟩
  · intro text present
    obtain ⟨own, own_present, same⟩ := header_back text present
    rw [Names, ← same]
    exact agrees.header_names own own_present
  · intro text present
    obtain ⟨own, own_present, same⟩ := authority_back text present
    rw [Names, ← same]
    exact agrees.authority_names own own_present
  · intro text authority present authority_present
    obtain ⟨own, own_present, same⟩ := header_back text present
    obtain ⟨other_own, other_present, other_same⟩ := authority_back authority authority_present
    rw [← same, ← other_same]
    exact agrees.same own other_own own_present other_present
  · intro version
    exact authority_forth (agrees.authority_present (restated.version ▸ version))
  · rcases agrees.present with present | present
    · left
      cases headers with
      | some _ => rfl
      | none => cases present
    · exact .inr (authority_forth present)

/-- The authority that is passed on is one of the sources. -/
theorem Agrees.forwarded {request : Request} {host : String} {header : Option String}
    (agrees : Agrees request host header) :
    ∃ authority, requestAuthority request = .ok authority ∧ Names host authority := by
  have resolved := resolveRequestHost_of_agrees agrees
  cases source : request.uri.authority with
  | some authority =>
      refine ⟨authority, ?_, agrees.authority_names authority source⟩
      rw [requestAuthority, resolved, source]
      rfl
  | none =>
      rcases agrees.present with present | present
      · obtain ⟨text, header_source⟩ := Option.isSome_iff_exists.mp present
        subst header_source
        refine ⟨text, ?_, agrees.header_names text rfl⟩
        rcases hostHeader_eq_ok.mp agrees.read with ⟨_, absent⟩ | ⟨value, own, only, read, same⟩
        · cases absent
        · cases same
          have first : (request.headers.get hostName).bind HeaderValue.toStr = some text := by
            rw [HeaderMap.get, only, List.head?_cons, Option.bind_some, read]
          rw [requestAuthority, resolved, source, first]
          rfl
      · rw [source] at present
        cases present

/-! ## The result -/

/-- All sources of the authority of an accepted request name one host in its canonical form, on one
port, and so does the authority that is passed on; other words for the same sources change
nothing. -/
theorem authority_unambiguous (request : Request) (host : String)
    (resolved : resolveRequestHost request = .ok host) :
    normalizeDnsHost host = .ok host ∧
    (request.headers.getAll hostName).length ≤ 1 ∧
    (∀ value ∈ request.headers.getAll hostName, ∃ text, value.toStr = some text ∧
      normalizeDnsHost (hostPart text) = .ok host ∧
      ∀ authority, request.uri.authority = some authority →
        (portPart text).getD 443 = (portPart authority).getD 443) ∧
    (∀ authority, request.uri.authority = some authority →
      normalizeDnsHost (hostPart authority) = .ok host) ∧
    (request.version = .http2 → request.uri.authority.isSome = true) ∧
    (∃ forwarded, requestAuthority request = .ok forwarded ∧
      normalizeDnsHost (hostPart forwarded) = .ok host) ∧
    ∀ other, Restated request other → resolveRequestHost other = .ok host := by
  obtain ⟨header, agrees⟩ := resolveRequestHost_eq_ok.mp resolved
  have host_part (text : String) (names : Names host text) :
      normalizeDnsHost (hostPart text) = .ok host := by
    obtain ⟨port, named⟩ := names_iff.mp names
    exact (normalizeAuthority_parts named).1
  have port_part (text : String) (names : Names host text) :
      effective text = some (host, (portPart text).getD 443) := by
    obtain ⟨port, named⟩ := names_iff.mp names
    rw [effective_of_ok named, (normalizeAuthority_parts named).2]
  have shown (value : HeaderValue) (member : value ∈ request.headers.getAll hostName) :
      ∃ text, value.toStr = some text ∧ header = some text := by
    rcases hostHeader_eq_ok.mp agrees.read with ⟨absent, _⟩ | ⟨only, text, present, read, rfl⟩
    · rw [absent] at member
      cases member
    · rw [present, List.mem_singleton] at member
      exact ⟨text, member ▸ read, rfl⟩
  refine ⟨?_, ?_, ?_, ?_, agrees.authority_present, ?_, ?_⟩
  · rcases agrees.present with present | present
    · obtain ⟨text, source⟩ := Option.isSome_iff_exists.mp present
      exact normalizeDnsHost_idem (host_part text (agrees.header_names text source))
    · obtain ⟨text, source⟩ := Option.isSome_iff_exists.mp present
      exact normalizeDnsHost_idem (host_part text (agrees.authority_names text source))
  · rcases hostHeader_eq_ok.mp agrees.read with ⟨absent, _⟩ | ⟨only, text, present, _⟩
    · rw [absent]
      exact Nat.zero_le 1
    · rw [present]
      exact Nat.le_refl 1
  · intro value member
    obtain ⟨text, read, source⟩ := shown value member
    have names := agrees.header_names text source
    refine ⟨text, read, host_part text names, fun authority present => ?_⟩
    have same := agrees.same text authority source present
    rw [port_part text names,
      port_part authority (agrees.authority_names authority present)] at same
    exact (Prod.mk.inj (Option.some.inj same)).2
  · exact fun authority present => host_part authority (agrees.authority_names authority present)
  · obtain ⟨passed_on, forwarded, names⟩ := agrees.forwarded
    exact ⟨passed_on, forwarded, host_part passed_on names⟩
  · exact fun other restated => resolveRequestHost_eq_ok.mpr (agrees.restated restated)

/-- A request over the second version of the protocol with both sources. -/
def authorityRequest : Request where
  method := .get
  uri := ⟨some "https", some "Example.com.", some "Example.com.", none, some ⟨"/", none⟩⟩
  version := .http2
  headers := [(hostName, ⟨Utf8.encode "example.com:0443".toList, by decide⟩)]

theorem authority_unambiguous_of_both :
    resolveRequestHost authorityRequest = .ok "example.com" ∧
      ∃ forwarded, requestAuthority authorityRequest = .ok forwarded ∧
        normalizeDnsHost (hostPart forwarded) = .ok "example.com" := by
  have resolved : resolveRequestHost authorityRequest = .ok "example.com" := by decide +kernel
  exact ⟨resolved, (authority_unambiguous authorityRequest "example.com" resolved).2.2.2.2.2.1⟩

end EdgeGateway.HttpProxy
