import EdgeGateway.Library.IpAddress
import EdgeGateway.Library.Text

/-!
# Peer networks

Addresses are compared after the IPv4-mapped ones have been folded into IPv4.  A network keeps a
canonical address, all of whose bits lie under the mask.
-/

namespace EdgeGateway.Security

open IpAddress

/-- Fold an IPv4-mapped address into IPv4. -/
def normalizeIp : IpAddr → IpAddr
  | .v4 address => .v4 address
  | .v6 address => ((toIpv4Mapped address).map IpAddr.v4).getD (.v6 address)

@[simp] theorem normalizeIp_normalizeIp (address : IpAddr) :
    normalizeIp (normalizeIp address) = normalizeIp address := by
  cases address with
  | v4 address => rfl
  | v6 address =>
      cases mapped : toIpv4Mapped address with
      | none => simp [normalizeIp, mapped]
      | some embedded => simp [normalizeIp, mapped]

/-- A network of one address family. -/
inductive IpNetwork
  | v4 (network mask : BitVec 32) (canonical : network &&& mask = network)
  | v6 (network mask : BitVec 128) (canonical : network &&& mask = network)
deriving DecidableEq

/-- The mask of a prefix of `length` bits. -/
def prefixMask (width length : Nat) : BitVec width :=
  if length = 0 then 0 else BitVec.allOnes width <<< (width - length)

/-- Read a network in CIDR form. -/
def IpNetwork.parse (value : String) : Except String IpNetwork := do
  let some (address, length) := Text.splitOnce '/' value.toList
    | .error "CIDR prefix is required"
  let some address := IpAddress.parse (String.ofList address)
    | .error "invalid CIDR IP"
  let some length := Text.parseUnsigned (2 ^ 32) length
    | .error "invalid CIDR prefix"
  match address with
  | .v4 network =>
      if length ≤ 32 then
        if canonical : network &&& prefixMask 32 length = network then
          .ok (.v4 network (prefixMask 32 length) canonical)
        else
          .error "CIDR must use the canonical network address"
      else
        .error "invalid CIDR prefix or IPv4-mapped IPv6 CIDR; use IPv4 CIDR instead"
  | .v6 network =>
      if length ≤ 128 ∧ toIpv4Mapped network = none then
        if canonical : network &&& prefixMask 128 length = network then
          .ok (.v6 network (prefixMask 128 length) canonical)
        else
          .error "CIDR must use the canonical network address"
      else
        .error "invalid CIDR prefix or IPv4-mapped IPv6 CIDR; use IPv4 CIDR instead"

/-- The network has the address, after normalization. -/
def IpNetwork.contains (range : IpNetwork) (address : IpAddr) : Bool :=
  match range, normalizeIp address with
  | .v4 network mask _, .v4 address => address &&& mask == network
  | .v6 network mask _, .v6 address => address &&& mask == network
  | _, _ => false

/-- A network has an address and its normalization alike. -/
theorem IpNetwork.contains_normalizeIp (range : IpNetwork) (address : IpAddr) :
    range.contains (normalizeIp address) = range.contains address := by
  unfold contains
  rw [normalizeIp_normalizeIp]

end EdgeGateway.Security
