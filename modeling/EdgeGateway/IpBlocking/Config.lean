import EdgeGateway.HttpProxy.PathSyntax
import EdgeGateway.Library.Paths
import EdgeGateway.Security.Network

/-!
# Configuration of client blocking

A validated configuration carries the bounds that every table of the runtime is sized by.
-/

namespace EdgeGateway.IpBlocking

open Security

/-! ## The configured values -/

/-- Violations of each rule that lead to a block. -/
structure ViolationThresholds where
  invalidWebsocket : Nat := 20
  invalidGrpc : Nat := 20
  sizeViolation : Nat := 5
  namespaceScan : Nat := 60
deriving DecidableEq, Repr

/-- The section of the configuration file. -/
structure FileIpBlockingConfig where
  enabled : Bool := false
  stateFile : String := "state/ip-blocklist-v1.json"
  allowCidrs : List String := []
  scanNamespaces : List String := []
  maxTrackedClientIps : Nat := 65536
  maxBlockedClientIps : Nat := 50000
  maxPendingActivations : Nat := 1024
  persistenceBatchSize : Nat := 128
  logClientIp : Bool := false
  thresholds : ViolationThresholds := {}
deriving DecidableEq, Repr

/-- The four thresholds, in the order of their rules. -/
def ViolationThresholds.values (thresholds : ViolationThresholds) : List Nat :=
  [thresholds.invalidWebsocket, thresholds.invalidGrpc, thresholds.sizeViolation,
    thresholds.namespaceScan]

/-- The bounds that validation establishes. -/
structure FileIpBlockingConfig.Bounded (config : FileIpBlockingConfig) : Prop where
  tracked : 64 ≤ config.maxTrackedClientIps ∧ config.maxTrackedClientIps ≤ 1000000
  blocked : 1 ≤ config.maxBlockedClientIps ∧ config.maxBlockedClientIps ≤ 100000
  pending : 1 ≤ config.maxPendingActivations ∧ config.maxPendingActivations ≤ 10000 ∧
    config.maxPendingActivations ≤ config.maxTrackedClientIps
  batch : 1 ≤ config.persistenceBatchSize ∧
    config.persistenceBatchSize ≤ config.maxPendingActivations
  thresholds : ∀ threshold ∈ config.thresholds.values, 1 ≤ threshold ∧ threshold ≤ 1000000

instance (config : FileIpBlockingConfig) : Decidable config.Bounded :=
  decidable_of_iff
    ((64 ≤ config.maxTrackedClientIps ∧ config.maxTrackedClientIps ≤ 1000000) ∧
      (1 ≤ config.maxBlockedClientIps ∧ config.maxBlockedClientIps ≤ 100000) ∧
      (1 ≤ config.maxPendingActivations ∧ config.maxPendingActivations ≤ 10000 ∧
        config.maxPendingActivations ≤ config.maxTrackedClientIps) ∧
      (1 ≤ config.persistenceBatchSize ∧
        config.persistenceBatchSize ≤ config.maxPendingActivations) ∧
      ∀ threshold ∈ config.thresholds.values, 1 ≤ threshold ∧ threshold ≤ 1000000)
    ⟨fun ⟨tracked, blocked, pending, batch, thresholds⟩ =>
        ⟨tracked, blocked, pending, batch, thresholds⟩,
      fun bounded =>
        ⟨bounded.tracked, bounded.blocked, bounded.pending, bounded.batch, bounded.thresholds⟩⟩

/-- A validated configuration. -/
structure IpBlockingConfig where
  file : FileIpBlockingConfig
  allow : List IpNetwork
  bounded : file.Bounded

/-! ## Validation -/

/-- The namespaces whose scans are counted must be distinct paths below the root. -/
def validateScanNamespaces (seen : List String) : List String → Except String Unit
  | [] => .ok ()
  | path :: rest => do
      HttpProxy.validateHttpPath path
      let text := path.toList
      if text = ['/'] ∨ text.getLast? = some '/' ∨ 256 < (Utf8.encode text).length ∨
          '?' ∈ text ∨ '#' ∈ text ∨ "/health".toList <+: text ∨ path ∈ seen then
        .error "scan_namespaces require unique non-root segment prefixes excluding /health"
      else
        validateScanNamespaces (path :: seen) rest

/-- Validate the section, relative to the directory of the configuration file. -/
def FileIpBlockingConfig.validate (config : FileIpBlockingConfig) (directory : List Char) :
    Except String IpBlockingConfig := do
  if Paths.fileName config.stateFile.toList = none then
    throw "state_file requires a file path"
  let config :=
    { config with stateFile := String.ofList (Paths.resolve directory config.stateFile.toList) }
  if tracked : ¬(64 ≤ config.maxTrackedClientIps ∧ config.maxTrackedClientIps ≤ 1000000) then
    throw "max_tracked_client_ips must be 64..1000000"
  else if blocked : ¬(1 ≤ config.maxBlockedClientIps ∧ config.maxBlockedClientIps ≤ 100000) then
    throw "max_blocked_client_ips must be 1..100000"
  else if pending : ¬(1 ≤ config.maxPendingActivations ∧ config.maxPendingActivations ≤ 10000) ∨
      config.maxTrackedClientIps < config.maxPendingActivations then
    throw "max_pending_activations must be 1..10000 and <= tracked capacity"
  else if batch : config.persistenceBatchSize = 0 ∨
      config.maxPendingActivations < config.persistenceBatchSize then
    throw "persistence_batch_size must be 1..max_pending_activations"
  else if 128 < config.allowCidrs.length ∨ 128 < config.scanNamespaces.length then
    throw "allow_cidrs and scan_namespaces each limited to 128"
  else
    let allow ← config.allowCidrs.mapM IpNetwork.parse
    validateScanNamespaces [] config.scanNamespaces
    if thresholds : ∀ threshold ∈ config.thresholds.values, 1 ≤ threshold ∧ threshold ≤ 1000000 then
      return ⟨config, allow, by
        simp only [not_not, not_or, not_lt] at tracked blocked pending batch
        exact ⟨tracked, blocked, ⟨pending.1.1, pending.1.2, pending.2⟩,
          ⟨Nat.pos_of_ne_zero batch.1, batch.2⟩, thresholds⟩⟩
    else
      throw "thresholds must be 1..1000000"

/-- The default section is within its own bounds. -/
theorem bounded_default : ({} : FileIpBlockingConfig).Bounded := by
  decide

/-- The configuration under which the first violation of a client leads to a block. -/
def strictConfig : IpBlockingConfig where
  file := { enabled := true, thresholds := ⟨1, 1, 1, 1⟩ }
  allow := []
  bounded := by decide

end EdgeGateway.IpBlocking
