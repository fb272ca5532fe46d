import EdgeGateway.IpBlocking.Execution
import EdgeGateway.Library.Results
import EdgeGateway.Library.Shares
import Mathlib.Algebra.Order.BigOperators.Group.Finset

/-!
# The tables of client blocking stay bounded

Every table of the runtime stays within the bound that the configuration gives it, and the
temporary snapshot is at every moment the deadlines of the pending blocks.
-/

namespace EdgeGateway.IpBlocking

open CrashDisk IpAddress Security

variable {codec : StateCodec} {config : IpBlockingConfig} {hash : IpAddr → Nat}

/-! ## The invariant of the runtime -/

/-- The bounds of the runtime's tables. -/
structure Bounds (config : IpBlockingConfig) (hash : IpAddr → Nat) (runtime : Runtime) : Prop where
  placed : ∀ shard ip, ip ∈ runtime.windows shard → shardIndex hash ip = shard
  tracked : ∀ shard, (runtime.windows shard).size ≤ shardCapacity config shard
  pending : runtime.pending.size ≤ config.file.maxPendingActivations
  published : runtime.temporary = runtime.pending.mapValues PendingBlock.deadline
  durable : runtime.durable.size ≤ config.file.maxBlockedClientIps

theorem Bounds.setShard {runtime : Runtime} (bounds : Bounds config hash runtime)
    {shard : Fin shards} {table : Table IpAddr ClientWindow}
    (placed : ∀ ip ∈ table, shardIndex hash ip = shard)
    (tracked : table.size ≤ shardCapacity config shard) :
    Bounds config hash (runtime.setShard shard table) := by
  refine ⟨?_, ?_, bounds.pending, bounds.published, bounds.durable⟩
  · intro other ip member
    by_cases same : other = shard
    · subst same
      rw [Runtime.setShard_same] at member
      exact placed ip member
    · rw [Runtime.setShard_other _ _ same] at member
      exact bounds.placed other ip member
  · intro other
    by_cases same : other = shard
    · subst same
      rw [Runtime.setShard_same]
      exact tracked
    · rw [Runtime.setShard_other _ _ same]
      exact bounds.tracked other

theorem Bounds.observe {runtime : Runtime} (bounds : Bounds config hash runtime)
    (address : ResolvedClientAddress) (rule : ViolationRule) (now : Nat) :
    Bounds config hash (runtime.observe config hash address rule now).1 := by
  rcases runtime.observe_cases config hash address rule now with same | ⟨_, room, same, _⟩
  · rw [same]
    exact bounds
  · rw [same]
    apply bounds.setShard
    · intro ip member
      rcases (AList.mem_insert _).mp member with rfl | member
      · rfl
      · exact bounds.placed _ ip member
    · rcases room with known | room
      · rw [Table.size_insert_of_mem _ known]
        exact bounds.tracked _
      · exact (Table.size_insert_le _ _ _).trans room

theorem Bounds.enqueue {runtime : Runtime} (bounds : Bounds config hash runtime)
    (crossing : Crossing) : Bounds config hash (runtime.enqueue config crossing) := by
  unfold Runtime.enqueue
  dsimp only
  split_ifs with known full
  · exact bounds
  · exact bounds
  · refine ⟨bounds.placed, bounds.tracked, ?_, rfl, bounds.durable⟩
    simp only [Runtime.publishTemporary]
    rw [Table.size_insert_of_notMem _ known]
    exact Nat.lt_of_not_le full

theorem Bounds.sweepWindows {runtime : Runtime} (bounds : Bounds config hash runtime)
    (shard : Fin shards) (now : Nat) : Bounds config hash (runtime.sweepWindows shard now) := by
  apply bounds.setShard
  · intro ip member
    obtain ⟨window, found⟩ := Table.mem_iff_lookup.mp member
    have kept := (Table.lookup_retain_eq_some.mp found).1
    exact bounds.placed shard ip (Table.mem_iff_lookup.mpr ⟨window, kept⟩)
  · exact (Table.size_retain_le _ _).trans (bounds.tracked shard)

theorem Bounds.drainPending {runtime : Runtime} (bounds : Bounds config hash runtime) (now : Nat) :
    Bounds config hash (runtime.drainPending now) :=
  ⟨bounds.placed, bounds.tracked, (Table.size_retain_le _ _).trans bounds.pending, rfl,
    bounds.durable⟩

/-- A sweep that drops nothing has nothing to publish. -/
theorem Bounds.sweepPending {runtime : Runtime} (bounds : Bounds config hash runtime) (now : Nat) :
    Bounds config hash (runtime.sweepPending now) := by
  unfold Runtime.sweepPending
  dsimp only
  split_ifs with same
  · exact bounds.drainPending now
  · have kept : (runtime.retainPending now).pending = runtime.pending :=
      Table.retain_eq_of_size (not_not.mp same)
    refine ⟨bounds.placed, bounds.tracked, ?_, ?_, bounds.durable⟩
    · rw [kept]
      exact bounds.pending
    · rw [kept]
      exact bounds.published

theorem Bounds.commit {runtime : Runtime} (bounds : Bounds config hash runtime)
    {outcome : PersistedBatch} (fits : ∀ candidate, outcome.snapshot = some candidate →
      candidate.size ≤ config.file.maxBlockedClientIps) :
    Bounds config hash (runtime.commit outcome) := by
  unfold Runtime.commit
  split
  · exact bounds
  · rename_i candidate written
    exact ⟨bounds.placed, bounds.tracked, bounds.pending, bounds.published, fits candidate written⟩

theorem size_foldl_erase_le (consumed : List IpAddr) (table : Table IpAddr PendingBlock) :
    (consumed.foldl (fun table ip => table.erase ip) table).size ≤ table.size := by
  induction consumed generalizing table with
  | nil => exact le_rfl
  | cons ip consumed ih => exact (ih (table.erase ip)).trans (Table.size_erase_le table ip)

theorem Bounds.consumePending {runtime : Runtime} (bounds : Bounds config hash runtime)
    (consumed : List IpAddr) : Bounds config hash (runtime.consumePending consumed) := by
  unfold Runtime.consumePending
  split_ifs with nothing
  · exact bounds
  · exact ⟨bounds.placed, bounds.tracked, (size_foldl_erase_le consumed _).trans bounds.pending,
      rfl, bounds.durable⟩

/-! ## The invariant of the manager -/

/-- The snapshots of a transaction fit the committed table. -/
def Phase.Fits (config : IpBlockingConfig) : Phase → Prop
  | .gathered old _ _ => old.size ≤ config.file.maxBlockedClientIps
  | .writing outcome _ _ | .publishing outcome => ∀ candidate, outcome.snapshot = some candidate →
      candidate.size ≤ config.file.maxBlockedClientIps
  | .idle | .consuming _ => True

/-- A transaction adds blocks to a full table only after it has dropped expired ones. -/
theorem buildBatch_fits {old : BlockSnapshot} {batch : List (IpAddr × PendingBlock)}
    {forceCompaction : Bool} {now : Nat} {wall : Option Machine.Word} {outcome : PersistedBatch}
    (fits : old.size ≤ config.file.maxBlockedClientIps)
    (accepted : buildBatch config old batch forceCompaction now wall = .ok outcome)
    {candidate : BlockSnapshot} (written : outcome.snapshot = some candidate) :
    candidate.size ≤ config.file.maxBlockedClientIps := by
  obtain ⟨wall, activation, activated, rfl, _⟩ := buildBatch_snapshot accepted written
  refine activate_preserves
    (fun activation => activation.candidate.size ≤ config.file.maxBlockedClientIps)
    ?_ ?_ ?_ ?_ activated
  · exact fun _ _ small => small
  · exact fun _ small => small
  · intro activation ip proposal expires sum _ _ absent room _
    exact (Table.size_insert_le _ _ _).trans room
  · exact (Table.size_retain_le _ _).trans fits

theorem decided_fits {writer : StateWriter} {outcome : PersistedBatch} {now : Nat}
    {faults : WriteFaults} (fits : ∀ candidate, outcome.snapshot = some candidate →
      candidate.size ≤ config.file.maxBlockedClientIps) :
    (Phase.decided codec writer outcome now faults).1.Fits config := by
  unfold Phase.decided
  split
  · exact fits
  · exact fits

/-! ## Every reachable system -/

/-- Loading never yields more blocks than there are records. -/
theorem loadRecords_size {wall : Machine.Word} {monotonic : Nat} {seen : List IpAddr}
    {blocks loaded : BlockSnapshot} {records : List BlockRecord}
    (accepted : loadRecords wall monotonic seen blocks records = .ok loaded) :
    loaded.size ≤ blocks.size + records.length := by
  induction records generalizing seen blocks with
  | nil =>
      cases accepted
      exact le_rfl
  | cons record rest ih =>
      rw [loadRecords] at accepted
      split_ifs at accepted with valid
      obtain ⟨result, first, recordLoaded⟩ :=
        loadRecord_loaded wall monotonic blocks record valid.1
      rw [first] at accepted
      have tail := ih accepted
      have head := recordLoaded.size
      rw [List.length_cons]
      omega

theorem loadContent_size {maximum : Nat} {bytes : List UInt8} {wall : Option Machine.Word}
    {monotonic : Nat} {blocks : BlockSnapshot}
    (accepted : loadContent codec maximum bytes wall monotonic = .ok blocks) :
    blocks.size ≤ maximum := by
  unfold loadContent at accepted
  split_ifs at accepted
  split at accepted
  · cases accepted
  · split_ifs at accepted with rejected
    split at accepted
    · cases accepted
    · have loaded := loadRecords_size accepted
      rw [Table.size_empty, Nat.zero_add] at loaded
      exact loaded.trans (Nat.le_of_not_lt (not_or.mp rejected).2)

theorem bounds_of_starts {loaded : BlockSnapshot} {system : System}
    (starts : Starts codec config loaded system) : Bounds config hash system.runtime := by
  obtain ⟨accepted⟩ := starts
  refine ⟨?_, fun _ => Nat.zero_le _, Nat.zero_le _, rfl, ?_⟩
  · intro shard ip member
    exact absurd member (AList.notMem_empty ip)
  · rcases loadBlocks_eq_ok accepted with ⟨_, _, rfl, _⟩ | ⟨_, _, _, rfl, _⟩ |
      ⟨_, _, _, _, _, content⟩
    · exact Nat.zero_le _
    · exact Nat.zero_le _
    · exact loadContent_size content

/-- The invariant of a system. -/
structure SystemBounds (config : IpBlockingConfig) (hash : IpAddr → Nat) (system : System) :
    Prop where
  runtime : Bounds config hash system.runtime
  phase : system.phase.Fits config

theorem bounds_step {system next : System} {violation : Option Violation}
    (bounds : SystemBounds config hash system)
    (step : Step codec config hash system violation next) : SystemBounds config hash next := by
  have phase := bounds.phase
  cases step with
  | observe address rule later => exact ⟨bounds.runtime.observe address rule _, phase⟩
  | enqueue waiting => exact ⟨bounds.runtime.enqueue _, phase⟩
  | sweepWindows enabled shard later => exact ⟨bounds.runtime.sweepWindows shard _, phase⟩
  | sweepPending enabled later => exact ⟨bounds.runtime.sweepPending _, phase⟩
  | shutdown =>
      obtain ⟨placed, tracked, pending, published, durable⟩ := bounds.runtime
      exact ⟨⟨placed, tracked, pending, published, durable⟩, phase⟩
  | drainPending enabled later => exact ⟨bounds.runtime.drainPending _, phase⟩
  | gather => exact ⟨bounds.runtime, bounds.runtime.durable⟩
  | reject => exact ⟨bounds.runtime, trivial⟩
  | decide gathered later accepted owned afterwards faults =>
      rw [gathered] at phase
      exact ⟨bounds.runtime, decided_fits fun candidate => buildBatch_fits phase accepted⟩
  | operate writing =>
      rw [writing] at phase
      exact ⟨bounds.runtime, phase⟩
  | fail => exact ⟨bounds.runtime, trivial⟩
  | succeed writing =>
      rw [writing] at phase
      exact ⟨bounds.runtime, phase⟩
  | publish publishing =>
      rw [publishing] at phase
      exact ⟨bounds.runtime.commit phase, trivial⟩
  | consume consuming => exact ⟨bounds.runtime.consumePending _, trivial⟩

theorem bounds_run {loaded : BlockSnapshot} {history : List Violation} {system : System}
    (reached : Reaches codec config hash loaded history system) :
    SystemBounds config hash system := by
  induction reached with
  | start starts =>
      refine ⟨bounds_of_starts starts, ?_⟩
      cases starts
      trivial
  | step _ step ih => exact bounds_step ih step

/-- The tables of every reachable system stay within the configured bounds. -/
theorem tables_bounded {loaded : BlockSnapshot} {history : List Violation} {system : System}
    (reached : Reaches codec config hash loaded history system) :
    ∑ shard, shardCapacity config shard = config.file.maxTrackedClientIps ∧
      ∑ shard, (system.runtime.windows shard).size ≤ config.file.maxTrackedClientIps ∧
      (∀ first second ip, ip ∈ system.runtime.windows first →
        ip ∈ system.runtime.windows second → first = second) ∧
      system.runtime.pending.size ≤ config.file.maxPendingActivations ∧
      system.runtime.durable.size ≤ config.file.maxBlockedClientIps ∧
      system.runtime.temporary = system.runtime.pending.mapValues PendingBlock.deadline := by
  have bounds := (bounds_run reached).runtime
  have shares : ∑ shard, shardCapacity config shard = config.file.maxTrackedClientIps :=
    Shares.sum_share (by decide) config.file.maxTrackedClientIps
  refine ⟨shares, ?_, ?_, bounds.pending, bounds.durable, bounds.published⟩
  · calc ∑ shard, (system.runtime.windows shard).size
        ≤ ∑ shard, shardCapacity config shard :=
          Finset.sum_le_sum fun shard _ => bounds.tracked shard
      _ = config.file.maxTrackedClientIps := shares
  · intro first second ip inFirst inSecond
    exact (bounds.placed first ip inFirst).symm.trans (bounds.placed second ip inSecond)

/-- The restored system after another client has crossed the threshold of a rule. -/
def crowdedSystem : System :=
  { restoredSystem with
    runtime := restoredSystem.runtime.recordClientProtocolViolation strictConfig (fun _ => 0)
      otherClient .invalidWebsocket 0 }

theorem crowdedSystem_reaches : Reaches stateText strictConfig (fun _ => 0) firstBlocks
    [⟨otherClient.clientIp, .invalidWebsocket, 0⟩] crowdedSystem :=
  reaches_record (.start restoredSystem_starts) otherClient .invalidWebsocket (Nat.le_refl 0)

/-- With one client committed and another one tracked and pending, no table is empty and each is
within its bound. -/
theorem tables_bounded_crowded :
    1 ≤ ∑ shard, (crowdedSystem.runtime.windows shard).size ∧
      ∑ shard, (crowdedSystem.runtime.windows shard).size ≤
        strictConfig.file.maxTrackedClientIps ∧
      crowdedSystem.runtime.pending.size = 1 ∧
      crowdedSystem.runtime.pending.size ≤ strictConfig.file.maxPendingActivations ∧
      crowdedSystem.runtime.durable.size = 1 ∧
      crowdedSystem.runtime.durable.size ≤ strictConfig.file.maxBlockedClientIps ∧
      crowdedSystem.runtime.temporary.lookup otherClient.clientIp =
        some (seconds temporarySeconds) ∧
      crowdedSystem.runtime.temporary =
        crowdedSystem.runtime.pending.mapValues PendingBlock.deadline := by
  obtain ⟨_, tracked, _, pending, durable, published⟩ := tables_bounded crowdedSystem_reaches
  have counted : (crowdedSystem.runtime.windows
      (shardIndex (fun _ => 0) otherClient.clientIp)).size = 1 := by decide +kernel
  have waiting : crowdedSystem.runtime.pending.size = 1 := by decide +kernel
  have committed : crowdedSystem.runtime.durable.size = 1 := by decide +kernel
  have restricted : crowdedSystem.runtime.temporary.lookup otherClient.clientIp =
      some (seconds temporarySeconds) := by decide +kernel
  refine ⟨?_, tracked, waiting, pending, committed, durable, restricted, published⟩
  rw [← counted]
  exact Finset.single_le_sum
    (fun shard _ => Nat.zero_le (crowdedSystem.runtime.windows shard).size) (Finset.mem_univ _)

end EdgeGateway.IpBlocking
