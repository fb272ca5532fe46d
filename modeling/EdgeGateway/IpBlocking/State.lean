import EdgeGateway.Library.MachineInteger
import EdgeGateway.Library.Table
import EdgeGateway.Security.ClientAddress

/-!
# The data of client blocking

Instants of the monotonic clock are nanoseconds; times of the wall clock are whole seconds.  A
block is active until its instant, and its record says the same in seconds of the wall clock.
-/

namespace EdgeGateway.IpBlocking

open IpAddress Security

/-- The length of a number of seconds on the monotonic clock. -/
def seconds (count : Nat) : Nat := count * 1000000000

/-- Lifetime of a committed block. -/
def blockSeconds : Nat := 86400

/-- Lifetime of a restriction that waits to be committed. -/
def temporarySeconds : Nat := 300

/-- The kinds of requests that count against a client. -/
inductive ViolationRule
  | invalidWebsocket
  | invalidGrpc
  | sizeViolation
  | namespaceScan
deriving DecidableEq, Repr

/-- The period over which the violations of a rule are counted. -/
def ViolationRule.window : ViolationRule → Nat
  | .sizeViolation => seconds 300
  | _ => seconds 60

/-- Violations of one rule since an instant. -/
structure RuleWindow where
  since : Nat
  count : Nat
deriving DecidableEq, Repr

/-- The violations of one client. -/
structure ClientWindow where
  rules : ViolationRule → RuleWindow
  lastSeen : Nat

/-- A restriction that waits to be committed. -/
structure PendingBlock where
  address : ResolvedClientAddress
  rule : ViolationRule
  count : Nat
  deadline : Nat
  counted : count ≠ 0

/-- One block as the state file keeps it. -/
structure BlockRecord where
  clientIp : IpAddr
  createdAtUnixSeconds : Machine.Word
  expiresAtUnixSeconds : Machine.Word
  rule : ViolationRule
  observedCount : Nat
deriving DecidableEq

/-- What a loader demands of every record. -/
def BlockRecord.Valid (record : BlockRecord) : Prop :=
  Machine.checkedSub record.expiresAtUnixSeconds record.createdAtUnixSeconds = some blockSeconds ∧
    record.observedCount ≠ 0

instance (record : BlockRecord) : Decidable record.Valid :=
  inferInstanceAs (Decidable (_ ∧ _))

/-- A committed block. -/
structure ActiveBlock where
  record : BlockRecord
  deadline : Nat
  valid : record.Valid

/-- The committed blocks, by normalized address. -/
abbrev BlockSnapshot := Table IpAddr ActiveBlock

/-- A client with an address of its own, at no proxy. -/
def directClient : ResolvedClientAddress where
  peer := ⟨.v4 0xC0000207#32, 50000, 0⟩
  clientIp := .v4 0xC0000207#32
  clientIpSource := "direct_peer"
  trustedProxy := false
  normalized := rfl

/-- Another client of the same kind. -/
def otherClient : ResolvedClientAddress where
  peer := ⟨.v4 0xC0000206#32, 50000, 0⟩
  clientIp := .v4 0xC0000206#32
  clientIpSource := "direct_peer"
  trustedProxy := false
  normalized := rfl

end EdgeGateway.IpBlocking
