import EdgeGateway.IpBlocking.Runtime
import EdgeGateway.Security.Membership

/-!
# One client, two spellings

Everything that depends on the address of a client normalizes it first, so a client cannot evade
a network or a block by the IPv4-mapped form of its address.
-/

namespace EdgeGateway.IpBlocking

open Http IpAddress Security

variable {left right : IpAddr}

/-! ## The address of a client -/

theorem contains_congr (same : normalizeIp left = normalizeIp right) (range : IpNetwork) :
    range.contains left = range.contains right := by
  rw [← range.contains_normalizeIp left, same, range.contains_normalizeIp]

theorem trusted_congr (same : normalizeIp left = normalizeIp right)
    (cloudflare : CloudflareNetworks) : cloudflare.contains left = cloudflare.contains right := by
  simp only [CloudflareNetworks.contains, contains_congr same]

/-- Two spellings of a peer are resolved alike, but for the peer itself. -/
theorem resolve_peer_congr (same : normalizeIp left = normalizeIp right)
    (port leftZone rightZone : Nat) (cloudflare : CloudflareNetworks) (headers : HeaderMap)
    (security : RouteSecurity) :
    (resolveClientAddress cloudflare ⟨left, port, leftZone⟩ headers security).map
        (fun address => { address with peer := ⟨right, port, rightZone⟩ }) =
      resolveClientAddress cloudflare ⟨right, port, rightZone⟩ headers security := by
  unfold resolveClientAddress
  rw [trusted_congr same]
  split_ifs with trusted restricted
  · cases connectingIp headers with
    | error reason => rfl
    | ok address => rfl
  · rfl
  · simp only [Except.map, same]

theorem connectingIp_of_namesClient {headers : HeaderMap} (named : NamesClient headers left) :
    connectingIp headers = .ok left := by
  obtain ⟨value, text, single, shown, parsed⟩ := named
  simp only [connectingIp, single, shown, parsed]

/-- Two spellings of the client that a request names are resolved alike. -/
theorem resolve_named_congr (same : normalizeIp left = normalizeIp right) {plain other : HeaderMap}
    (plain_named : NamesClient plain left) (other_named : NamesClient other right)
    (cloudflare : CloudflareNetworks) (peer : SocketAddr) (security : RouteSecurity) :
    resolveClientAddress cloudflare peer plain security =
      resolveClientAddress cloudflare peer other security := by
  unfold resolveClientAddress
  rw [connectingIp_of_namesClient plain_named, connectingIp_of_namesClient other_named]
  simp only [Except.map, same]

/-! ## The keys of the tables -/

variable {config : IpBlockingConfig} {first second : ResolvedClientAddress}

/-- A client is turned away by its address alone. -/
theorem isClientIpBlocked_congr (same : first.clientIp = second.clientIp) (runtime : Runtime)
    (now : Nat) :
    isClientIpBlocked config runtime first now = isClientIpBlocked config runtime second now := by
  rw [isClientIpBlocked, isClientIpBlocked, same]

/-- Two runtimes turn the same clients away and count the same violations. -/
structure SameKeys (left right : Runtime) : Prop where
  durable : left.durable = right.durable
  temporary : ∀ ip, left.temporary.lookup ip = right.temporary.lookup ip
  windows : left.windows = right.windows
  pending : ∀ ip, (left.pending.lookup ip).map PendingBlock.deadline =
    (right.pending.lookup ip).map PendingBlock.deadline

theorem SameKeys.refl (runtime : Runtime) : SameKeys runtime runtime :=
  ⟨rfl, fun _ => rfl, rfl, fun _ => rfl⟩

theorem observe_congr (same : first.clientIp = second.clientIp) (hash : IpAddr → Nat)
    (runtime : Runtime) (rule : ViolationRule) (now : Nat) :
    runtime.observe config hash second rule now =
      ((runtime.observe config hash first rule now).1,
        (runtime.observe config hash first rule now).2.map fun crossing =>
          { crossing with address := second }) := by
  obtain ⟨peer, clientIp, source, trustedProxy, normalized⟩ := first
  obtain ⟨otherPeer, otherIp, otherSource, otherTrusted, otherNormalized⟩ := second
  obtain rfl : clientIp = otherIp := same
  rw [Runtime.observe, Runtime.observe]
  dsimp only
  split_ifs with ignored full below
  · rfl
  · rfl
  · rfl
  · rfl

theorem enqueue_congr (runtime : Runtime) (crossing : Crossing)
    (same : crossing.address.clientIp = second.clientIp) :
    SameKeys (runtime.enqueue config crossing)
      (runtime.enqueue config { crossing with address := second }) := by
  unfold Runtime.enqueue
  rw [← same]
  dsimp only
  split_ifs with waiting full
  · exact .refl runtime
  · exact .refl runtime
  · have deadlines (ip : IpAddr) (left right : PendingBlock)
        (ends : left.deadline = right.deadline) :
        ((runtime.pending.insert crossing.address.clientIp left).lookup ip).map
            PendingBlock.deadline =
          ((runtime.pending.insert crossing.address.clientIp right).lookup ip).map
            PendingBlock.deadline := by
      by_cases own : ip = crossing.address.clientIp
      · rw [own, AList.lookup_insert, AList.lookup_insert, Option.map_some, Option.map_some, ends]
      · rw [AList.lookup_insert_ne own, AList.lookup_insert_ne own]
    refine ⟨rfl, fun ip => ?_, rfl, fun ip => deadlines ip _ _ rfl⟩
    simp only [Runtime.publishTemporary, Table.lookup_mapValues]
    exact deadlines ip _ _ rfl

/-- A violation is recorded under the address of its client alone. -/
theorem record_congr (same : first.clientIp = second.clientIp) (hash : IpAddr → Nat)
    (runtime : Runtime) (rule : ViolationRule) (now : Nat) :
    SameKeys (runtime.recordClientProtocolViolation config hash first rule now)
      (runtime.recordClientProtocolViolation config hash second rule now) := by
  unfold Runtime.recordClientProtocolViolation
  rw [observe_congr same]
  rcases runtime.observe_cases config hash first rule now with
    unchanged | ⟨crossing, _, counted, own⟩
  · rw [unchanged]
    exact .refl runtime
  · rw [counted]
    cases crossing with
    | none => exact .refl _
    | some crossing =>
        have address : crossing.address = first := (own crossing rfl).1
        exact enqueue_congr _ crossing (address ▸ same)

/-! ## Stored records -/

/-- The second record is the first one, or names its IPv4 address by the mapped form. -/
def Respelled (bits : BitVec 32) (plain other : BlockRecord) : Prop :=
  other = plain ∨
    plain.clientIp = .v4 bits ∧ other = { plain with clientIp := .v6 (toIpv6Mapped bits) }

theorem loadRecord_of_clamp {wall : Machine.Word} {record clamped : BlockRecord}
    (clamp : clampRecord wall record = some clamped) {valid : record.Valid} {monotonic : Nat}
    {blocks : BlockSnapshot} :
    loadRecord wall monotonic blocks record valid =
      if min (record.expiresAtUnixSeconds.val - wall.val) blockSeconds ≠ 0 then
        .ok (blocks.insert clamped.clientIp ⟨clamped,
          monotonic + seconds (min (record.expiresAtUnixSeconds.val - wall.val) blockSeconds),
          (clampRecord_valid valid clamp).2⟩)
      else
        .ok blocks := by
  unfold loadRecord
  dsimp only
  split
  · rename_i overflowed
    cases overflowed.symm.trans clamp
  · rename_i other found
    cases found.symm.trans clamp
    rfl

theorem loadRecord_of_overflow {wall : Machine.Word} {record : BlockRecord}
    (overflowed : clampRecord wall record = none) {valid : record.Valid} {monotonic : Nat}
    {blocks : BlockSnapshot} :
    loadRecord wall monotonic blocks record valid = .error "clock timestamp overflow" := by
  unfold loadRecord
  dsimp only
  split
  · rfl
  · rename_i other found
    cases found.symm.trans overflowed

namespace Respelled

variable {bits : BitVec 32} {plain other : BlockRecord}

theorem address (respelled : Respelled bits plain other) :
    normalizeIp other.clientIp = normalizeIp plain.clientIp := by
  rcases respelled with rfl | ⟨written, rfl⟩
  · rfl
  · rw [written, normalizeIp_mapped]
    rfl

theorem expires (respelled : Respelled bits plain other) :
    other.expiresAtUnixSeconds = plain.expiresAtUnixSeconds := by
  rcases respelled with rfl | ⟨_, rfl⟩
  · rfl
  · rfl

theorem valid_iff (respelled : Respelled bits plain other) : other.Valid ↔ plain.Valid := by
  rcases respelled with rfl | ⟨_, rfl⟩
  · rfl
  · rfl

theorem clampRecord (respelled : Respelled bits plain other) (wall : Machine.Word) :
    IpBlocking.clampRecord wall other = IpBlocking.clampRecord wall plain := by
  rcases respelled with rfl | ⟨written, rfl⟩
  · rfl
  · unfold IpBlocking.clampRecord
    simp only [written, normalizeIp_mapped]
    rfl

theorem loadRecord (respelled : Respelled bits plain other) (wall : Machine.Word)
    (monotonic : Nat) (blocks : BlockSnapshot) (valid : plain.Valid) (other_valid : other.Valid) :
    IpBlocking.loadRecord wall monotonic blocks other other_valid =
      IpBlocking.loadRecord wall monotonic blocks plain valid := by
  have clamped := respelled.clampRecord wall
  cases clamp : IpBlocking.clampRecord wall plain with
  | none =>
      rw [loadRecord_of_overflow clamp, loadRecord_of_overflow (clamped.trans clamp)]
  | some record =>
      rw [loadRecord_of_clamp clamp, loadRecord_of_clamp (clamped.trans clamp), respelled.expires]

end Respelled

/-- A stored block counts for its client under either spelling. -/
theorem loadRecords_congr {bits : BitVec 32} {plain other : List BlockRecord}
    (respelled : List.Forall₂ (Respelled bits) plain other) (wall : Machine.Word) (monotonic : Nat)
    (seen : List IpAddr) (blocks : BlockSnapshot) :
    loadRecords wall monotonic seen blocks other =
      loadRecords wall monotonic seen blocks plain := by
  induction respelled generalizing seen blocks with
  | nil => rfl
  | cons first rest ih =>
      rw [loadRecords, loadRecords]
      simp only [first.valid_iff, first.address]
      split_ifs with accepted
      · rw [first.loadRecord wall monotonic blocks accepted.1]
        cases loadRecord wall monotonic blocks _ accepted.1 with
        | error reason => rfl
        | ok loaded => exact ih _ loaded
      · rfl

/-! ## Membership and spelling -/

/-- The address and its mapped form are one client to everything that reads an address. -/
structure OneClient (bits : BitVec 32) : Prop where
  contains : ∀ range : IpNetwork,
    range.contains (.v6 (toIpv6Mapped bits)) = range.contains (.v4 bits)
  peer : ∀ cloudflare port zone headers security,
    (resolveClientAddress cloudflare ⟨.v6 (toIpv6Mapped bits), port, zone⟩ headers security).map
        (fun address => { address with peer := ⟨.v4 bits, port, 0⟩ }) =
      resolveClientAddress cloudflare ⟨.v4 bits, port, 0⟩ headers security
  header : ∀ cloudflare peer plain mapped security,
    NamesClient plain (.v4 bits) → NamesClient mapped (.v6 (toIpv6Mapped bits)) →
      resolveClientAddress cloudflare peer plain security =
        resolveClientAddress cloudflare peer mapped security
  never_key : ∀ cloudflare peer headers security address,
    resolveClientAddress cloudflare peer headers security = .ok address →
      address.clientIp ≠ .v6 (toIpv6Mapped bits)
  tables : ∀ cloudflare port zone headers security mapped plain,
    resolveClientAddress cloudflare ⟨.v6 (toIpv6Mapped bits), port, zone⟩ headers security =
        .ok mapped →
    resolveClientAddress cloudflare ⟨.v4 bits, port, 0⟩ headers security = .ok plain →
      ∀ config runtime now,
        isClientIpBlocked config runtime mapped now = isClientIpBlocked config runtime plain now ∧
        ∀ hash rule, SameKeys (runtime.recordClientProtocolViolation config hash mapped rule now)
          (runtime.recordClientProtocolViolation config hash plain rule now)
  stored : ∀ plain other, List.Forall₂ (Respelled bits) plain other → ∀ wall monotonic,
    loadRecords wall monotonic [] ∅ other = loadRecords wall monotonic [] ∅ plain

theorem oneClient (bits : BitVec 32) : OneClient bits := by
  have same : normalizeIp (.v6 (toIpv6Mapped bits)) = normalizeIp (.v4 bits) :=
    normalizeIp_mapped bits
  refine ⟨contains_congr same, ?_, ?_, ?_, ?_, ?_⟩
  · intro cloudflare port zone headers security
    exact resolve_peer_congr same port zone 0 cloudflare headers security
  · intro cloudflare peer plain mapped security plain_named mapped_named
    exact resolve_named_congr same.symm plain_named mapped_named cloudflare peer security
  · intro cloudflare peer headers security address _ own
    have normal := address.normalized
    rw [own, normalizeIp_mapped] at normal
    cases normal
  · intro cloudflare port zone headers security mapped plain mapped_resolved plain_resolved
    have resolved := resolve_peer_congr same port zone 0 cloudflare headers security
    rw [mapped_resolved, plain_resolved] at resolved
    have own : mapped.clientIp = plain.clientIp := by
      cases resolved
      rfl
    intro config runtime now
    exact ⟨isClientIpBlocked_congr own runtime now,
      fun hash rule => record_congr own hash runtime rule now⟩
  · intro plain other respelled wall monotonic
    exact loadRecords_congr respelled wall monotonic [] ∅

/-- A text is a network exactly when its address is canonical; the network has exactly the
addresses whose normalized form shares the prefix.  An IPv4 address and its mapped form are the
same client to networks, to requests and to the blocking tables. -/
theorem cidr_membership_exact :
    (∀ value range, IpNetwork.parse value = .ok range → ∃ address length,
      Denotes value address length ∧ Canonical address length ∧ range.Stores address length ∧
        ∀ client, range.contains client = true ↔ InPrefix address length client) ∧
    (∀ value address length, Denotes value address length →
      ((∃ range, IpNetwork.parse value = .ok range) ↔ Canonical address length)) ∧
    (∀ network client, InPrefix network 0 client ↔ SameFamily network (normalizeIp client)) ∧
    ∀ bits, OneClient bits := by
  refine ⟨?_, ?_, inPrefix_zero, oneClient⟩
  · intro value range accepted
    obtain ⟨address, length, denotes⟩ := denotes_of_parse accepted
    rw [parse_of_denotes denotes] at accepted
    have canonical := (networkOf_isOk_iff address length).mp ⟨range, accepted⟩
    exact ⟨address, length, denotes, canonical, stores_of_networkOf accepted,
      contains_of_networkOf accepted⟩
  · intro value address length denotes
    rw [parse_of_denotes denotes]
    exact networkOf_isOk_iff address length

end EdgeGateway.IpBlocking
