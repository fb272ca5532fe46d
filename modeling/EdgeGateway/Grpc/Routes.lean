import EdgeGateway.HttpProxy.PathSyntax
import EdgeGateway.Routes.ExactTable

/-!
# gRPC routes

A gRPC route is one method of one service, and leads to a backend on the same machine.
-/

namespace EdgeGateway.Grpc

open Http HttpProxy IpAddress PercentEncoding Routes Routing Security

/-! ## Backends -/

/-- The backend of a gRPC route. -/
structure GrpcBackendEndpoint where
  display : String
  address : SocketAddr
  authority : String
  hostHeader : HeaderValue
deriving DecidableEq

/-- Read the backend of a gRPC route. -/
def GrpcBackendEndpoint.parse (parseUri : UriParser) (value : String) :
    Except RouteError GrpcBackendEndpoint := do
  let uri ← (parseUri value).mapError (.invalidBackend value)
  if uri.scheme ≠ some "h2c" then
    throw (.invalidBackend value "scheme must be h2c")
  let some authority := uri.authority
    | .error (.invalidBackend value "authority is required")
  if '@' ∈ authority.toList then
    throw (.invalidBackend value "userinfo is not allowed")
  let some host := uri.host
    | .error (.invalidBackend value "host is required")
  let some ip := literalHost host
    | .error (.invalidBackend value "host must be an IPv4 or IPv6 loopback address")
  if !ip.isLoopback then
    throw (.invalidBackend value "host must be a loopback address")
  let some port := uri.port.filter (· ≠ 0)
    | .error (.invalidBackend value "an explicit nonzero port is required")
  if uri.target ≠ "/" then
    throw (.invalidBackend value "backend URL must not contain a path or query")
  let some hostHeader := HeaderValue.fromStr authority
    | .error (.invalidBackend value "invalid authority: failed to parse header value")
  return ⟨value, ⟨ip, port, 0⟩, authority, hostHeader⟩

/-! ## Paths -/

/-- An identifier of the interface language. -/
def isProtoIdentifier : List Char → Bool
  | [] => false
  | first :: rest =>
      (first == '_' || first.isAlpha) &&
        rest.all fun character => character == '_' || character.isAlphanum

/-- The service and the method are identifiers, the service a dotted one. -/
def isGrpcMethod (service method : List Char) : Bool :=
  !service.isEmpty && !method.isEmpty && (service.splitOn '.').all isProtoIdentifier &&
    isProtoIdentifier method

/-- Check the path of a gRPC route. -/
def validateGrpcPath (path : String) : Except RouteError Unit :=
  let text := path.toList
  if maxRoutePathLength < (Utf8.encode text).length then .error (.pathTooLong path)
  else if '?' ∈ text ∨ '#' ∈ text ∨ '\\' ∈ text ∨ hasBlank text then .error (.invalidPath path)
  else
    match text with
    | '/' :: remainder =>
        match remainder.splitOn '/' with
        | [service, method] =>
            if isGrpcMethod service method then .ok () else .error (.invalidPath path)
        | _ => .error (.invalidPath path)
    | _ => .error (.invalidPath path)

/-! ## gRPC paths are admitted paths -/

/-- The characters of gRPC paths between their separators. -/
def isMethodCharacter (character : Char) : Bool :=
  character == '.' || character == '_' || character.isAlphanum

theorem isMethodCharacter_toNat {character : Char} (admitted : isMethodCharacter character = true) :
    character.toNat = 0x2E ∨ character.toNat = 0x5F ∨
      (0x30 ≤ character.toNat ∧ character.toNat ≤ 0x39) ∨
      (0x41 ≤ character.toNat ∧ character.toNat ≤ 0x5A) ∨
      (0x61 ≤ character.toNat ∧ character.toNat ≤ 0x7A) := by
  simp only [isMethodCharacter, Bool.or_eq_true, beq_iff_eq, AsciiCase.isAlphanum_iff] at admitted
  rcases admitted with (rfl | rfl) | upper | lower | digit
  · exact .inl rfl
  · exact .inr (.inl rfl)
  · exact .inr (.inr (.inr (.inl upper)))
  · exact .inr (.inr (.inr (.inr lower)))
  · exact .inr (.inr (.inl digit))

theorem isMethodCharacter_of_isProtoIdentifier {identifier : List Char}
    (admitted : isProtoIdentifier identifier = true) {character : Char}
    (member : character ∈ identifier) : isMethodCharacter character = true := by
  cases identifier with
  | nil => cases member
  | cons first rest =>
      simp only [isProtoIdentifier, Bool.and_eq_true, Bool.or_eq_true, List.all_eq_true,
        beq_iff_eq] at admitted
      simp only [isMethodCharacter, Bool.or_eq_true, beq_iff_eq]
      rcases List.mem_cons.mp member with rfl | member
      · rcases admitted.1 with underscore | letter
        · exact .inl (.inr underscore)
        · exact .inr (by simp [Char.isAlphanum, letter])
      · rcases admitted.2 character member with underscore | letter
        · exact .inl (.inr underscore)
        · exact .inr letter

theorem isMethodCharacter_of_isGrpcMethod {service method : List Char}
    (admitted : isGrpcMethod service method = true) {character : Char}
    (member : character ∈ service ∨ character ∈ method) : isMethodCharacter character = true := by
  simp only [isGrpcMethod, Bool.and_eq_true, List.all_eq_true] at admitted
  rcases member with member | member
  · by_cases dot : character = '.'
    · subst dot
      rfl
    · obtain ⟨part, present, inside⟩ := Splitting.exists_part_of_mem member dot
      exact isMethodCharacter_of_isProtoIdentifier (admitted.1.2 part present) inside
  · exact isMethodCharacter_of_isProtoIdentifier admitted.2 member

/-- The byte of such a character is a plain one. -/
theorem plain_of_isMethodCharacter {character : Char}
    (admitted : isMethodCharacter character = true) :
    character.toNat.toUInt8 ≠ slash ∧ character.toNat.toUInt8 ≠ percent ∧
      character.toNat.toUInt8 ≠ 0x3F ∧ character.toNat.toUInt8 ≠ 0x23 ∧
      character.toNat.toUInt8 ≠ backslash ∧ 0x20 < character.toNat.toUInt8 ∧
      character.toNat.toUInt8 ≠ 0x7F := by
  have ranges := isMethodCharacter_toNat admitted
  have value : character.toNat.toUInt8.toNat = character.toNat := by
    simp only [Nat.toUInt8, UInt8.toNat_ofNat']
    omega
  have distinct (byte : UInt8) (ne : character.toNat ≠ byte.toNat) :
      character.toNat.toUInt8 ≠ byte := by
    intro same
    rw [← same, value] at ne
    exact ne rfl
  refine ⟨distinct _ ?_, distinct _ ?_, distinct _ ?_, distinct _ ?_, distinct _ ?_, ?_,
    distinct _ ?_⟩
  · simp only [slash, UInt8.reduceToNat]
    omega
  · simp only [percent, UInt8.reduceToNat]
    omega
  · simp only [UInt8.reduceToNat]
    omega
  · simp only [UInt8.reduceToNat]
    omega
  · simp only [backslash, UInt8.reduceToNat]
    omega
  · rw [UInt8.lt_iff_toNat_lt, value]
    simp only [UInt8.reduceToNat]
    omega
  · simp only [UInt8.reduceToNat]
    omega

/-- The service and the method of a path start with a letter or an underscore. -/
theorem isGrpcMethod_heads {service method : List Char}
    (admitted : isGrpcMethod service method = true) :
    (∃ first rest, service = first :: rest ∧ first ≠ '.') ∧
      ∃ first rest, method = first :: rest ∧ first ≠ '.' := by
  have identifiers := admitted
  simp only [isGrpcMethod, Bool.and_eq_true, List.all_eq_true, Bool.not_eq_true',
    List.isEmpty_eq_false_iff] at identifiers
  obtain ⟨⟨⟨service_nonempty, _⟩, parts⟩, identifier⟩ := identifiers
  constructor
  · cases service with
    | nil => exact absurd rfl service_nonempty
    | cons first rest =>
        refine ⟨first, rest, rfl, ?_⟩
        rintro rfl
        have empty : [] ∈ ('.' :: rest).splitOn '.' := by
          simp [List.splitOn_cons_eq_if_modifyHead]
        exact absurd (parts [] empty) (by simp [isProtoIdentifier])
  · cases method with
    | nil => simp [isProtoIdentifier] at identifier
    | cons first rest =>
        refine ⟨first, rest, rfl, ?_⟩
        rintro rfl
        simp [isProtoIdentifier] at identifier

/-- The bytes of ASCII characters. -/
def asciiBytes (characters : List Char) : List UInt8 :=
  characters.map fun character => character.toNat.toUInt8

/-- A segment that starts with such a character is not made of dots. -/
theorem undotted_of_head {first : Char} {rest : List Char}
    (admitted : isMethodCharacter first = true) (head : first ≠ '.') :
    asciiBytes (first :: rest) ≠ [dot] ∧ asciiBytes (first :: rest) ≠ [dot, dot] := by
  have ranges := isMethodCharacter_toNat admitted
  have value : first.toNat.toUInt8.toNat = first.toNat := by
    simp only [Nat.toUInt8, UInt8.toNat_ofNat']
    omega
  have byte : first.toNat.toUInt8 ≠ dot := by
    intro same
    apply head
    rw [← Char.toNat_inj, ← value, same]
    rfl
  simp [asciiBytes, byte]

/-- The path of a service and a method has these segments. -/
theorem splitOn_method {service method : List Char} (service_plain : slash ∉ asciiBytes service)
    (method_plain : slash ∉ asciiBytes method) :
    (slash :: (asciiBytes service ++ slash :: asciiBytes method)).splitOn slash =
      [[], asciiBytes service, asciiBytes method] := by
  rw [List.splitOn_cons_eq_if_modifyHead, List.splitOn_append_cons_self_of_not_mem service_plain,
    List.splitOn_eq_singleton method_plain]
  simp

/-- An accepted path is short and names a service and a method. -/
theorem exists_method_of_validateGrpcPath {path : String}
    (accepted : validateGrpcPath path = .ok ()) :
    (Utf8.encode path.toList).length ≤ maxRoutePathLength ∧
      ∃ service method, isGrpcMethod service method = true ∧
        path.toList = '/' :: (service ++ '/' :: method) := by
  simp only [validateGrpcPath] at accepted
  split_ifs at accepted with long reserved
  refine ⟨Nat.le_of_not_lt long, ?_⟩
  split at accepted
  · rename_i remainder text
    split at accepted
    · rename_i service method split
      split_ifs at accepted with admitted
      have whole : ['/'].intercalate (remainder.splitOn '/') = remainder :=
        List.intercalate_splitOn '/'
      refine ⟨service, method, admitted, ?_⟩
      rw [text, ← whole, split]
      simp
    · cases accepted
  · cases accepted

/-- The bytes of the path of a service and a method. -/
theorem encode_method {service method : List Char}
    (plain : ∀ character, character ∈ service ∨ character ∈ method →
      isMethodCharacter character = true) :
    Utf8.encode ('/' :: (service ++ '/' :: method)) =
      slash :: (asciiBytes service ++ slash :: asciiBytes method) := by
  have ascii : ∀ character ∈ '/' :: (service ++ '/' :: method), character.toNat < 0x80 := by
    intro character member
    by_cases separator : character = '/'
    · subst separator
      decide
    · have inside : character ∈ service ∨ character ∈ method := by
        simpa [separator] using member
      have ranges := isMethodCharacter_toNat (plain character inside)
      omega
  rw [Utf8.encode_ascii ascii]
  simp only [asciiBytes, List.map_cons, List.map_append]
  rfl

/-- Every gRPC path is an admitted path. -/
theorem validateHttpPath_of_validateGrpcPath {path : String}
    (accepted : validateGrpcPath path = .ok ()) : validateHttpPath path = .ok () := by
  obtain ⟨short, service, method, admitted, joined⟩ := exists_method_of_validateGrpcPath accepted
  have plain (character : Char) (member : character ∈ service ∨ character ∈ method) :=
    isMethodCharacter_of_isGrpcMethod admitted member
  obtain ⟨⟨first, rest, rfl, head⟩, first', rest', rfl, head'⟩ := isGrpcMethod_heads admitted
  have bytes := (congrArg Utf8.encode joined).trans (encode_method plain)
  have service_byte (byte : UInt8) (member : byte ∈ asciiBytes (first :: rest)) :=
    (List.mem_map.mp member).elim fun character found =>
      found.2 ▸ plain_of_isMethodCharacter (plain character (.inl found.1))
  have method_byte (byte : UInt8) (member : byte ∈ asciiBytes (first' :: rest')) :=
    (List.mem_map.mp member).elim fun character found =>
      found.2 ▸ plain_of_isMethodCharacter (plain character (.inr found.1))
  have segments := splitOn_method (fun member => (service_byte slash member).1 rfl)
    (fun member => (method_byte slash member).1 rfl)
  rw [validateHttpPath]
  apply validatePathBytes_of_unencoded
  · rw [bytes]
    rfl
  · exact short.trans (by decide)
  · intro byte member
    rw [bytes, List.mem_cons, List.mem_append, List.mem_cons] at member
    rcases member with rfl | member | rfl | member
    · decide
    · exact (service_byte byte member).2.2
    · decide
    · exact (method_byte byte member).2.2
  · rw [bytes, segments]
    simp [asciiBytes]
  · rw [bytes, segments]
    simp only [List.forall_mem_cons, List.not_mem_nil, not_false_eq_true, and_true]
    refine ⟨by simp, ⟨?_, ?_, ?_⟩, ⟨?_, ?_, ?_⟩, by simp⟩
    · exact (undotted_of_head (plain first (.inl List.mem_cons_self)) head).1
    · exact (undotted_of_head (plain first (.inl List.mem_cons_self)) head).2
    · exact fun member => (service_byte percent member).2.1 rfl
    · exact (undotted_of_head (plain first' (.inr List.mem_cons_self)) head').1
    · exact (undotted_of_head (plain first' (.inr List.mem_cons_self)) head').2
    · exact fun member => (method_byte percent member).2.1 rfl

/-! ## Routes -/

/-- A configured gRPC route. -/
structure GrpcRouteSpec where
  id : String
  host : String
  path : String
  backend : String
  enabled : Bool
  security : RouteSecurity
deriving DecidableEq

/-- A gRPC route. -/
structure GrpcRoute where
  id : String
  host : String
  path : String
  backend : GrpcBackendEndpoint
  upstreamUri : Uri
  security : RouteSecurity
deriving DecidableEq

/-- The table of gRPC routes. -/
abbrev GrpcRouteTable := ExactTable GrpcRoute

/-- gRPC routes as a kind of exact routes. -/
def grpcKind (parseUri : UriParser) : RouteKind GrpcRouteSpec Unit GrpcRoute where
  id := GrpcRouteSpec.id
  host := GrpcRouteSpec.host
  path := GrpcRouteSpec.path
  enabled := GrpcRouteSpec.enabled
  validatePath := validateGrpcPath
  compile spec host _ := do
    let backend ← GrpcBackendEndpoint.parse parseUri spec.backend
    let upstreamUri ← (parseUri ("http://" ++ backend.authority ++ spec.path)).mapError
      fun source =>
        .invalidBackend spec.backend ("failed to build upstream HTTP/2 URI: " ++ source)
    return {
      id := spec.id
      host
      path := spec.path
      backend
      upstreamUri
      security := spec.security }

/-- Build the table of gRPC routes. -/
def GrpcRouteTable.build (parseUri : UriParser) (specs : List GrpcRouteSpec) :
    Except RouteError GrpcRouteTable :=
  (grpcKind parseUri).build specs

end EdgeGateway.Grpc
