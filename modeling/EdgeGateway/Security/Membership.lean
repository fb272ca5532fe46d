import EdgeGateway.Library.BitPrefix
import EdgeGateway.Security.ClientAddress

/-!
# Membership in networks

A network has the addresses of its family that share its prefix, after normalization.  An IPv4
address and its IPv6 spelling are therefore the same client everywhere.
-/

namespace EdgeGateway.Security

open Http IpAddress

/-! ## Accepted texts -/

/-- The text is the CIDR form of an address and a prefix length. -/
def Denotes (value : String) (address : IpAddr) (length : Nat) : Prop :=
  ∃ front back, Text.splitOnce '/' value.toList = some (front, back) ∧
    IpAddress.parse (String.ofList front) = some address ∧
    Text.parseUnsigned (2 ^ 32) back = some length

/-- The prefix fits the family, no bit lies behind it, and the address is not an IPv4-mapped one. -/
def Canonical : IpAddr → Nat → Prop
  | .v4 address, length => length ≤ 32 ∧ BitPrefix.Ends length address
  | .v6 address, length =>
      length ≤ 128 ∧ BitPrefix.Ends length address ∧ toIpv4Mapped address = none

/-- The network keeps the address and the mask of the prefix, which is computed without overflow
and covers every bit of the address. -/
inductive IpNetwork.Stores : IpNetwork → IpAddr → Nat → Prop
  | v4 {address mask : BitVec 32} {canonical : address &&& mask = address} {length : Nat}
      (computed : BitPrefix.checkedMask 32 length = some mask)
      (covered : ∀ index, address.getMsbD index = true → mask.getMsbD index = true) :
      Stores (.v4 address mask canonical) (.v4 address) length
  | v6 {address mask : BitVec 128} {canonical : address &&& mask = address} {length : Nat}
      (computed : BitPrefix.checkedMask 128 length = some mask)
      (covered : ∀ index, address.getMsbD index = true → mask.getMsbD index = true) :
      Stores (.v6 address mask canonical) (.v6 address) length

/-- The addresses are of one family. -/
def SameFamily : IpAddr → IpAddr → Prop
  | .v4 _, .v4 _ => True
  | .v6 _, .v6 _ => True
  | _, _ => False

/-- The address is of the family of the network and starts with its prefix. -/
def InPrefix (network : IpAddr) (length : Nat) (address : IpAddr) : Prop :=
  match network, normalizeIp address with
  | .v4 network, .v4 address => BitPrefix.Agree length address network
  | .v6 network, .v6 address => BitPrefix.Agree length address network
  | _, _ => False

variable {width length : Nat}

theorem prefixMask_isMask (fits : length ≤ width) :
    BitPrefix.IsMask length (prefixMask width length) := by
  unfold prefixMask
  split_ifs with zero
  · subst zero
    exact BitPrefix.isMask_zero
  · exact BitPrefix.isMask_shiftLeft fits

theorem checkedMask_eq (fits : length ≤ width) :
    BitPrefix.checkedMask width length = some (prefixMask width length) := by
  by_cases zero : length = 0
  · rw [BitPrefix.checkedMask, prefixMask, if_pos zero, if_pos zero]
  · rw [BitPrefix.checkedMask_of_pos zero fits, prefixMask, if_neg zero]

theorem covered_of_and_eq {network mask : BitVec width} (kept : network &&& mask = network)
    (index : Nat) (bit : network.getMsbD index = true) : mask.getMsbD index = true := by
  rw [← kept, BitVec.getMsbD_and, Bool.and_eq_true] at bit
  exact bit.2

/-- What the reader makes of the two parts of a text. -/
def networkOf (address : IpAddr) (length : Nat) : Except String IpNetwork :=
  match address with
  | .v4 network =>
      if length ≤ 32 then
        if canonical : network &&& prefixMask 32 length = network then
          .ok (.v4 network (prefixMask 32 length) canonical)
        else
          .error "CIDR must use the canonical network address"
      else
        .error "invalid CIDR prefix or IPv4-mapped IPv6 CIDR; use IPv4 CIDR instead"
  | .v6 network =>
      if length ≤ 128 ∧ toIpv4Mapped network = none then
        if canonical : network &&& prefixMask 128 length = network then
          .ok (.v6 network (prefixMask 128 length) canonical)
        else
          .error "CIDR must use the canonical network address"
      else
        .error "invalid CIDR prefix or IPv4-mapped IPv6 CIDR; use IPv4 CIDR instead"

theorem parse_of_denotes {value : String} {address : IpAddr}
    (denotes : Denotes value address length) :
    IpNetwork.parse value = networkOf address length := by
  obtain ⟨front, back, split, parsed, read⟩ := denotes
  simp only [IpNetwork.parse, split, parsed, read]
  rfl

theorem denotes_of_parse {value : String} {range : IpNetwork}
    (accepted : IpNetwork.parse value = .ok range) :
    ∃ address length, Denotes value address length := by
  unfold IpNetwork.parse at accepted
  cases split : Text.splitOnce '/' value.toList with
  | none =>
      rw [split] at accepted
      cases accepted
  | some parts =>
      obtain ⟨front, back⟩ := parts
      cases parsed : IpAddress.parse (String.ofList front) with
      | none =>
          simp only [split, parsed] at accepted
          cases accepted
      | some address =>
          cases read : Text.parseUnsigned (2 ^ 32) back with
          | none =>
              simp only [split, parsed, read] at accepted
              cases accepted
          | some length => exact ⟨address, length, front, back, split, parsed, read⟩

theorem networkOf_isOk_iff (address : IpAddr) (length : Nat) :
    (∃ range, networkOf address length = .ok range) ↔ Canonical address length := by
  cases address with
  | v4 network =>
      simp only [networkOf, Canonical]
      by_cases fits : length ≤ 32
      · rw [if_pos fits, ← (prefixMask_isMask fits).and_eq_self]
        split_ifs with kept
        · simp [fits, kept]
        · simp [kept]
      · simp [fits]
  | v6 network =>
      simp only [networkOf, Canonical]
      by_cases fits : length ≤ 128 ∧ toIpv4Mapped network = none
      · rw [if_pos fits, ← (prefixMask_isMask fits.1).and_eq_self]
        split_ifs with kept
        · simp [fits, kept]
        · simp [kept]
      · rw [if_neg fits]
        simp only [reduceCtorEq, exists_false, false_iff]
        intro canonical
        exact fits ⟨canonical.1, canonical.2.2⟩

/-- An accepted network keeps its address under a mask that was computed without overflow. -/
theorem stores_of_networkOf {address : IpAddr} {range : IpNetwork}
    (accepted : networkOf address length = .ok range) : range.Stores address length := by
  cases address with
  | v4 network =>
      simp only [networkOf] at accepted
      split_ifs at accepted with fits canonical
      cases accepted
      exact .v4 (checkedMask_eq fits) (covered_of_and_eq canonical)
  | v6 network =>
      simp only [networkOf] at accepted
      split_ifs at accepted with fits canonical
      cases accepted
      exact .v6 (checkedMask_eq fits.1) (covered_of_and_eq canonical)

/-- An accepted network has exactly the addresses that share its prefix. -/
theorem contains_of_networkOf {network : IpAddr} {range : IpNetwork}
    (accepted : networkOf network length = .ok range) (address : IpAddr) :
    range.contains address = true ↔ InPrefix network length address := by
  have canonical : Canonical network length := (networkOf_isOk_iff network length).mp ⟨_, accepted⟩
  cases network with
  | v4 network =>
      simp only [networkOf] at accepted
      split_ifs at accepted with fits kept
      cases accepted
      cases normal : normalizeIp address with
      | v4 address =>
          simp only [IpNetwork.contains, InPrefix, normal, beq_iff_eq]
          exact (prefixMask_isMask fits).and_eq canonical.2 address
      | v6 address => simp [IpNetwork.contains, InPrefix, normal]
  | v6 network =>
      simp only [networkOf] at accepted
      split_ifs at accepted with fits kept
      cases accepted
      cases normal : normalizeIp address with
      | v4 address => simp [IpNetwork.contains, InPrefix, normal]
      | v6 address =>
          simp only [IpNetwork.contains, InPrefix, normal, beq_iff_eq]
          exact (prefixMask_isMask fits.1).and_eq canonical.2.1 address

/-- The empty prefix has the whole family. -/
theorem inPrefix_zero (network address : IpAddr) :
    InPrefix network 0 address ↔ SameFamily network (normalizeIp address) := by
  cases network with
  | v4 network =>
      cases normal : normalizeIp address with
      | v4 address => simp [InPrefix, SameFamily, normal, BitPrefix.Agree]
      | v6 address => simp [InPrefix, SameFamily, normal]
  | v6 network =>
      cases normal : normalizeIp address with
      | v4 address => simp [InPrefix, SameFamily, normal]
      | v6 address => simp [InPrefix, SameFamily, normal, BitPrefix.Agree]

/-! ## Mapped addresses -/

/-- The IPv4-mapped form of an address. -/
def toIpv6Mapped (bits : BitVec 32) : BitVec 128 :=
  BitVec.ofNat 128 (0xFFFF * 2 ^ 32 + bits.toNat)

theorem toNat_toIpv6Mapped (bits : BitVec 32) :
    (toIpv6Mapped bits).toNat = 0xFFFF * 2 ^ 32 + bits.toNat := by
  have inside : bits.toNat < 2 ^ 32 := bits.isLt
  rw [toIpv6Mapped, BitVec.toNat_ofNat, Nat.mod_eq_of_lt]
  omega

theorem toIpv4Mapped_toIpv6Mapped (bits : BitVec 32) :
    toIpv4Mapped (toIpv6Mapped bits) = some bits := by
  have inside : bits.toNat < 2 ^ 32 := bits.isLt
  have front : toIpv6Mapped bits >>> 32 = 0xFFFF#128 := by
    apply BitVec.eq_of_toNat_eq
    rw [BitVec.toNat_ushiftRight, toNat_toIpv6Mapped, Nat.shiftRight_eq_div_pow]
    simp only [BitVec.toNat_ofNat]
    omega
  have back : (toIpv6Mapped bits).setWidth 32 = bits := by
    apply BitVec.eq_of_toNat_eq
    rw [BitVec.toNat_setWidth, toNat_toIpv6Mapped]
    omega
  rw [toIpv4Mapped, if_pos front, back]

/-- Two spellings of one IPv4 address. -/
theorem normalizeIp_mapped (bits : BitVec 32) :
    normalizeIp (.v6 (toIpv6Mapped bits)) = .v4 bits := by
  simp [normalizeIp, toIpv4Mapped_toIpv6Mapped]

end EdgeGateway.Security
