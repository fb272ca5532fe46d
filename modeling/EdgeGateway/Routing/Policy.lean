import EdgeGateway.Http.Request
import EdgeGateway.Library.Results
import EdgeGateway.Library.Table

/-!
# Hosts and the policy of their names

Hosts are DNS names in ASCII; one dot at the end is dropped and ports never take part in routing.
The policy ties the server name of the connection to the hosts that may be requested over it.
-/

namespace EdgeGateway.Routing

open Http

/-! ## Names -/

/-- A label of a DNS name that is not admitted. -/
def isInvalidLabel (label : List Char) : Bool :=
  label.isEmpty || decide (63 < label.length) || label.head? == some '-' ||
    label.getLast? == some '-' ||
    !label.all fun character => character.isAlphanum || character == '-'

/-- Drop one dot at the end. -/
def dropFinalDot (value : List Char) : List Char :=
  if value.getLast? = some '.' then value.dropLast else value

/-- The canonical form of a DNS name. -/
def normalizeDnsHost (value : String) : Except String String :=
  let value := dropFinalDot value.toList
  if value = [] ∨ 253 < (Utf8.encode value).length ∨
      value.any (fun character => 0x80 ≤ character.toNat) then
    .error "host must be an ASCII DNS name between 1 and 253 bytes"
  else if (IpAddress.parse (String.ofList value)).isSome then
    .error "IP literal routing hosts are not supported"
  else if (value.splitOn '.').any isInvalidLabel then
    .error "host contains an invalid DNS label; wildcards are not supported"
  else
    .ok (String.ofList (value.map Char.toLower))

/-- The host and the port of an authority. -/
def normalizeAuthority (value : String) : Except String (String × Option Nat) := do
  match Text.splitOnce ':' value.toList with
  | some (host, port) =>
      if port = [] ∨ ¬port.all Char.isDigit then
        throw "invalid authority port"
      let some port := Text.readDecimal (2 ^ 16) 0 port
        | throw "invalid authority port"
      if port = 0 then
        throw "authority port must not be zero"
      return (← normalizeDnsHost (String.ofList host), some port)
  | none => return (← normalizeDnsHost value, none)

/-- The name of the header that names the host. -/
def hostName : HeaderName := ⟨"host", by decide⟩

/-- The text of the only Host header. -/
def hostHeader (headers : HeaderMap) : Except String (Option String) :=
  match headers.getAll hostName with
  | [] => .ok none
  | value :: more =>
      match value.toStr with
      | none => .error "invalid Host header"
      | some text => if more = [] then .ok (some text) else .error "multiple Host headers"

/-- The host that a request is for; every source of it must say the same. -/
def resolveRequestHost (request : Request) : Except String String := do
  let header ← (← hostHeader request.headers).mapM normalizeAuthority
  let authority ← request.uri.authority.mapM normalizeAuthority
  if let (some header, some authority) := (header, authority) then
    -- An omitted port is that of the secure protocol; other ports must agree.
    if header.1 ≠ authority.1 ∨ header.2.getD 443 ≠ authority.2.getD 443 then
      throw "Host header conflicts with request authority"
  if request.version = .http2 ∧ authority.isNone then
    throw "HTTP/2 :authority is required"
  match authority <|> header with
  | some (host, _) => return host
  | none => throw "request authority is required"

/-! ## The policy -/

/-- The hosts that are served, and the hosts that each bound server name may request. -/
structure RoutingPolicy where
  hosts : List String
  requireSni : Bool
  sniBindings : Table String (List String)

/-- The hosts of one binding: configured ones, each once. -/
def allowTargets (hosts : List String) (sni : String) (targets : List String) :
    Except String (List String) :=
  targets.foldlM
    (fun allowed target => do
      let target ← normalizeDnsHost target
      if target ∉ hosts then
        throw ("SNI " ++ sni ++ " references unconfigured host " ++ target)
      else if target ∈ allowed then
        throw ("duplicate host " ++ target ++ " in SNI " ++ sni)
      else
        return target :: allowed)
    []

/-- Add one binding to those before it. -/
def bindSni (hosts : List String) (bindings : Table String (List String))
    (binding : String × List String) : Except String (Table String (List String)) := do
  let sni ← normalizeDnsHost binding.1
  if binding.2.isEmpty then
    throw ("SNI " ++ sni ++ " has no allowed hosts")
  let allowed ← allowTargets hosts sni binding.2
  if sni ∈ bindings then
    throw ("duplicate SNI binding " ++ sni)
  return bindings.insert sni allowed

/-- Check the bindings against the hosts that are served. -/
def RoutingPolicy.build (hosts : List String) (requireSni : Bool)
    (bindings : List (String × List String)) : Except String RoutingPolicy :=
  (bindings.foldlM (bindSni hosts) ∅).map fun sniBindings => ⟨hosts, requireSni, sniBindings⟩

theorem RoutingPolicy.hosts_of_build {hosts : List String} {requireSni : Bool}
    {bindings : List (String × List String)} {policy : RoutingPolicy}
    (built : build hosts requireSni bindings = .ok policy) : policy.hosts = hosts := by
  obtain ⟨_, _, rfl⟩ := Results.map_eq_ok.mp built
  rfl

/-- The host may be requested over a connection with the server name. -/
def RoutingPolicy.permitsRequestHost (policy : RoutingPolicy) (host : String)
    (sni : Option String) : Bool :=
  if host ∉ policy.hosts then false
  else
    match sni with
    | none => !policy.requireSni
    | some sni =>
        match normalizeDnsHost sni with
        | .error _ => false
        | .ok sni =>
            match policy.sniBindings.lookup sni with
            | some allowed => allowed.contains host
            | none => sni == host

end EdgeGateway.Routing
