import EdgeGateway.HttpProxy.HopHeaders
import EdgeGateway.HttpProxy.Trailers

/-!
# What late trailers can carry

Trailers arrive when the head of the message has already been judged.  What they lose is the union
of three removals: the headers of the hop, those with the prefix of an identity, and a fixed list.
Together these cover every name that the sanitizer of client addresses strips or sets.
-/

namespace EdgeGateway.HttpProxy

open Http Results Security

variable {headers : HeaderMap} {name : HeaderName}

/-! ## Declared names -/

theorem isHeaderName_trailer : isHeaderName "trailer".toList = true := by
  decide

def trailer : HeaderName := ⟨"trailer", isHeaderName_trailer⟩

/-- Add one declared name. -/
def declareName (names : List HeaderName) (token : List Char) :
    Except String (List HeaderName) :=
  match HeaderName.fromBytes (Text.trim token) with
  | none => .error "invalid Trailer declaration"
  | some name =>
      let names := names.insert name
      if 100 < names.length then .error "too many declared trailers" else .ok names

/-- Add the names that one value declares. -/
def declareValue (names : List HeaderName) (value : HeaderValue) :
    Except String (List HeaderName) :=
  match value.toStr with
  | none => .error "invalid Trailer declaration"
  | some text => (text.toList.splitOn ',').foldlM declareName names

/-- The names that the head of a message declares, each once. -/
def declaredTrailerNames (headers : HeaderMap) : Except String (List HeaderName) :=
  (headers.getAll trailer).foldlM declareValue []

theorem declareName_eq_ok {names result : List HeaderName} {token : List Char}
    (declared : declareName names token = .ok result) :
    ∃ name, (Text.trim token).map Char.toLower = name.text.toList ∧ result = names.insert name ∧
      result.length ≤ 100 := by
  unfold declareName at declared
  cases read : HeaderName.fromBytes (Text.trim token) with
  | none => simp [read] at declared
  | some name =>
      simp only [read] at declared
      split_ifs at declared with many
      cases declared
      exact ⟨name, fromBytes_eq_some.mp read, rfl, Nat.not_lt.mp many⟩

theorem mem_foldlM_declareName {tokens : List (List Char)} {names result : List HeaderName}
    (declared : tokens.foldlM declareName names = .ok result) (name : HeaderName) :
    name ∈ result ↔
      name ∈ names ∨ ∃ token ∈ tokens, (Text.trim token).map Char.toLower = name.text.toList := by
  induction tokens generalizing names with
  | nil =>
      cases declared
      simp
  | cons token tokens ih =>
      rw [List.foldlM_cons, bind_eq_ok] at declared
      obtain ⟨middle, first, rest⟩ := declared
      obtain ⟨own, text, rfl, _⟩ := declareName_eq_ok first
      have same : name = own ↔ (Text.trim token).map Char.toLower = name.text.toList := by
        rw [text, String.toList_inj]
        exact ⟨fun same => same ▸ rfl, fun same => by cases name; cases own; simp_all⟩
      rw [ih rest, List.mem_insert_iff, same, List.exists_mem_cons_iff, or_assoc, or_left_comm]

theorem declareValue_eq_ok {names result : List HeaderName} {value : HeaderValue}
    (declared : declareValue names value = .ok result) :
    (∀ name, name ∈ result ↔ name ∈ names ∨ Lists value name) ∧
      (names.Nodup ∧ names.length ≤ 100 → result.Nodup ∧ result.length ≤ 100) := by
  unfold declareValue at declared
  cases shown : value.toStr with
  | none => simp [shown] at declared
  | some text =>
      simp only [shown] at declared
      have text_eq : text = asciiText value.bytes := by
        rw [HeaderValue.toStr, Option.ite_none_right_eq_some] at shown
        exact (Option.some.inj shown.2).symm
      refine ⟨fun name => ?_, fun bounded => ?_⟩
      · rw [mem_foldlM_declareName declared name, text_eq, Lists]
      · refine foldlM_preserves (fun names => names.Nodup ∧ names.length ≤ 100) ?_ bounded declared
        intro names token next before step
        obtain ⟨name, _, rfl, short⟩ := declareName_eq_ok step
        exact ⟨before.1.insert, short⟩

/-- The declared names are those that the values of `trailer` list, and there are few of them. -/
theorem declaredTrailerNames_eq_ok {names : List HeaderName}
    (declared : declaredTrailerNames headers = .ok names) :
    (∀ name, name ∈ names ↔ ∃ value ∈ headers.getAll trailer, Lists value name) ∧
      names.Nodup ∧ names.length ≤ 100 := by
  have closed : ∀ (values : List HeaderValue) (start result : List HeaderName),
      values.foldlM declareValue start = .ok result →
      (∀ name, name ∈ result ↔ name ∈ start ∨ ∃ value ∈ values, Lists value name) ∧
        (start.Nodup ∧ start.length ≤ 100 → result.Nodup ∧ result.length ≤ 100) := by
    intro values
    induction values with
    | nil =>
        rintro start result ⟨⟩
        simp
    | cons value values ih =>
        intro start result done
        rw [List.foldlM_cons, bind_eq_ok] at done
        obtain ⟨middle, first, rest⟩ := done
        obtain ⟨own, bounded⟩ := declareValue_eq_ok first
        obtain ⟨later, still_bounded⟩ := ih middle result rest
        refine ⟨fun name => ?_, still_bounded ∘ bounded⟩
        rw [later, own, List.exists_mem_cons_iff, or_assoc]
  obtain ⟨listed, bounded⟩ := closed _ [] names declared
  exact ⟨by simpa using listed, bounded ⟨List.nodup_nil, Nat.zero_le _⟩⟩

/-! ## Names that carry an identity -/

/-- Dropping the identity or writing it changes the values of the name for some request. -/
def CarriesIdentity (name : HeaderName) : Prop :=
  ∃ headers address, (sanitizeClientAddressHeaders headers address).getAll name ≠
    headers.getAll name

/-- An address that no trusted peer vouches for. -/
def directAddress : ResolvedClientAddress where
  peer := ⟨.v4 0xCB007107#32, 443, 0⟩
  clientIp := .v4 0xCB007107#32
  clientIpSource := "direct_peer"
  trustedProxy := false
  normalized := rfl

/-- The names that carry an identity are those that the sanitizer of client addresses knows. -/
theorem carriesIdentity_iff : CarriesIdentity name ↔ isIdentity name = true := by
  constructor
  · rintro ⟨headers, address, changed⟩
    cases stripped : isStripped address.trustedProxy name with
    | true => exact isIdentity_of_isStripped stripped
    | false => exact absurd (sanitize_frame headers address stripped) changed
  · intro identity
    rw [← isStripped_untrusted] at identity
    -- Two values under the name: the sanitizer leaves at most one.
    refine ⟨[(name, httpScheme), (name, httpScheme)], directAddress, fun same => ?_⟩
    obtain ⟨value, written, _⟩ := exists_addressValue directAddress.clientIp
    have two : Multimap.getAll [(name, httpScheme), (name, httpScheme)] name =
        [httpScheme, httpScheme] := by
      simp [Multimap.getAll]
    have stripped : isStripped directAddress.trustedProxy name = true := identity
    have short : ((sanitizeClientAddressHeaders [(name, httpScheme), (name, httpScheme)]
        directAddress).getAll name).length ≤ 1 := by
      rw [getAll_sanitize _ _ written, if_pos stripped]
      split_ifs
      all_goals simp
    rw [same, two] at short
    exact absurd short (by decide)

/-! ## What is left of trailers -/

/-- The headers that belong to one hop of the message. -/
def hopByHopNames : List HeaderName :=
  [connection, upgrade, keepAlive, proxyConnection, transferEncoding, te]

/-- The headers that say where a message goes and how its body is to be read. -/
def framingNames : List String :=
  ["host", "content-length", "content-type", "content-encoding", "trailer", "te"]

/-- The headers that carry the rights of a client. -/
def credentialNames : List String :=
  ["authorization", "proxy-authorization", "cookie", "set-cookie"]

/-- Names that trailers cannot carry. -/
def Forbidden (headers : HeaderMap) (name : HeaderName) : Prop :=
  VisiblyNamed headers name ∨ name ∈ hopByHopNames ∨ CarriesIdentity name ∨
    name.text ∈ framingNames ∨ name.text ∈ credentialNames

/-- The prefixes of the trailers and the fixed list cover the identity. -/
theorem late_iff :
    isIdentityHeader name = true ∨ name ∈ lateNames ↔
      CarriesIdentity name ∨ name.text ∈ framingNames ∨ name.text ∈ credentialNames := by
  let others := [xRealIp, forwarded, trueClientIp, xOriginalUrl, xRewriteUrl]
  have fixed : name ∈ lateNames ↔
      name.text ∈ framingNames ∨ name.text ∈ credentialNames ∨ name ∈ others := by
    have split : lateNames.map HeaderName.text =
        framingNames ++ credentialNames ++ others.map HeaderName.text := rfl
    rw [← List.mem_map_of_injective HeaderName.text_injective, split, List.mem_append,
      List.mem_append, List.mem_map_of_injective HeaderName.text_injective, or_assoc]
  have identity : isIdentity name = true ↔ isIdentityHeader name = true ∨ name ∈ others := by
    have internal : isIdentityHeader name = (isInternal name || isCloudflare name) := by
      rw [isIdentityHeader, isInternal, isCloudflare, Bool.or_comm (name.startsWith _)]
    have same : [xRealIp, trueClientIp, forwarded, xOriginalUrl, xRewriteUrl].Perm others :=
      .cons _ (.swap _ _ _)
    rw [isIdentity, Bool.or_eq_true, ← internal, List.contains_iff_mem, same.mem_iff]
  rw [carriesIdentity_iff, identity, fixed]
  constructor
  · rintro (prefixed | framing | credential | other)
    · exact .inl (.inl prefixed)
    · exact .inr (.inl framing)
    · exact .inr (.inr credential)
    · exact .inl (.inr other)
  · rintro ((prefixed | other) | framing | credential)
    · exact .inl prefixed
    · exact .inr (.inr (.inr other))
    · exact .inr (.inl framing)
    · exact .inr (.inr (.inl credential))

theorem getAll_sanitizeTrailers (headers : HeaderMap) (name : HeaderName) :
    (sanitizeTrailers headers).getAll name =
      if name ∈ lateNames then [] else if isIdentityHeader name then []
      else (sanitizeHopHeaders headers false).getAll name := by
  rw [sanitizeTrailers, Multimap.getAll_removeAll, Multimap.getAll_removeAll_filter_keys]

theorem getAll_of_forbidden (forbidden : Forbidden headers name) :
    (sanitizeTrailers headers).getAll name = [] := by
  rw [getAll_sanitizeTrailers]
  by_cases late : isIdentityHeader name = true ∨ name ∈ lateNames
  · rcases late with identity | listed
    · rw [if_pos identity, ite_self]
    · rw [if_pos listed]
  · obtain ⟨plain, unlisted⟩ := not_or.mp late
    have te_late : te ∈ lateNames := by decide
    have hop : VisiblyNamed headers name ∨ name ∈ hopByHopNames := by
      rcases forbidden with named | hop | rest
      · exact .inl named
      · exact .inr hop
      · exact absurd (late_iff.mpr rest) late
    rw [if_neg unlisted, if_neg plain, getAll_sanitizeHopHeaders]
    simp only [hopByHopNames, hopNames, ← mem_connectionNames_iff] at hop ⊢
    grind

theorem getAll_of_not_forbidden (allowed : ¬Forbidden headers name) :
    (sanitizeTrailers headers).getAll name = headers.getAll name := by
  simp only [Forbidden, not_or] at allowed
  obtain ⟨unnamed, not_hop, rest⟩ := allowed
  rw [← not_or, ← not_or, ← late_iff, not_or] at rest
  obtain ⟨plain, unlisted⟩ := rest
  rw [getAll_sanitizeTrailers, if_neg unlisted, if_neg plain, getAll_sanitizeHopHeaders]
  simp only [hopByHopNames, hopNames, ← mem_connectionNames_iff] at unnamed not_hop ⊢
  grind

/-! ## Frames -/

/-- Trailers within the limits, of which every one that is left has been declared. -/
structure Admissible (declared : Option (List HeaderName)) (headers : HeaderMap) : Prop where
  few : headers.length ≤ 100
  small : trailerBytes headers ≤ 32768
  declared : ∀ names ∈ declared, ∀ name, (sanitizeTrailers headers).getAll name ≠ [] →
    name ∈ names

theorem sanitizeStreamFrame_trailers {declared : Option (List HeaderName)} {result : Frame} :
    sanitizeStreamFrame (.trailers headers) declared = .ok result ↔
      Admissible declared headers ∧ result = .trailers (sanitizeTrailers headers) := by
  simp only [sanitizeStreamFrame, bind_eq_ok, ensure_eq_ok, Multimap.mem_keys_iff, pure,
    Except.pure, Except.ok.injEq]
  constructor
  · rintro ⟨_, ⟨few, small⟩, _, known, rfl⟩
    exact ⟨⟨few, small, known⟩, rfl⟩
  · rintro ⟨admissible, rfl⟩
    exact ⟨(), ⟨admissible.few, admissible.small⟩, (), admissible.declared, rfl⟩

theorem sanitizeStreamFrame_error {declared : Option (List HeaderName)} :
    (∃ reason, sanitizeStreamFrame (.trailers headers) declared = .error reason) ↔
      ¬Admissible declared headers := by
  cases sanitized : sanitizeStreamFrame (.trailers headers) declared with
  | ok result =>
      obtain ⟨admissible, _⟩ := sanitizeStreamFrame_trailers.mp sanitized
      simp [admissible]
  | error reason =>
      have refused : ¬Admissible declared headers := fun admissible => by
        have passed := sanitizeStreamFrame_trailers.mpr ⟨admissible, rfl⟩
        rw [sanitized] at passed
        cases passed
      simp [refused]

/-- What is left of trailers has been listed under `trailer` in the head that declared them. -/
theorem declared_before_late {head : HeaderMap} {names : List HeaderName} {result : HeaderMap}
    (declared : declaredTrailerNames head = .ok names)
    (passed : sanitizeStreamFrame (.trailers headers) (some names) = .ok (.trailers result))
    (present : result.getAll name ≠ []) : ∃ value ∈ head.getAll trailer, Lists value name := by
  obtain ⟨admissible, same⟩ := sanitizeStreamFrame_trailers.mp passed
  rw [Frame.trailers.inj same] at present
  have known : name ∈ names := admissible.declared names rfl name present
  exact ((declaredTrailerNames_eq_ok declared).1 name).mp known

/-- Data passes unchanged.  Trailers pass exactly within the limits and as declared, and lose all
that names the hop, the client, the body or a right, and nothing else. -/
theorem late_trailers_harmless (declared : Option (List HeaderName)) :
    (∀ bytes, sanitizeStreamFrame (.data bytes) declared = .ok (.data bytes)) ∧
    ∀ headers,
      ((∃ reason, sanitizeStreamFrame (.trailers headers) declared = .error reason) ↔
        100 < headers.length ∨ 32768 < trailerBytes headers ∨
          ∃ names ∈ declared, ∃ name, (sanitizeTrailers headers).getAll name ≠ [] ∧
            name ∉ names) ∧
      ∀ result, sanitizeStreamFrame (.trailers headers) declared = .ok result →
        ∃ sanitized, result = .trailers sanitized ∧
          (∀ name, Forbidden headers name → sanitized.getAll name = []) ∧
          ∀ name, ¬Forbidden headers name → sanitized.getAll name = headers.getAll name := by
  refine ⟨fun bytes => rfl, fun headers => ⟨?_, ?_⟩⟩
  · rw [sanitizeStreamFrame_error]
    constructor
    · intro refused
      by_contra! within
      obtain ⟨few, small, known⟩ := within
      exact refused ⟨few, small, known⟩
    · rintro (many | large | ⟨names, given, name, present, unknown⟩) admissible
      · exact Nat.not_lt.mpr admissible.few many
      · exact Nat.not_lt.mpr admissible.small large
      · exact unknown (admissible.declared names given name present)
  · intro result passed
    obtain ⟨_, rfl⟩ := sanitizeStreamFrame_trailers.mp passed
    exact ⟨_, rfl, fun _ => getAll_of_forbidden, fun _ => getAll_of_not_forbidden⟩

end EdgeGateway.HttpProxy
