import EdgeGateway.IpBlocking.Config
import EdgeGateway.IpBlocking.Persistence

/-!
# The runtime of client blocking

Requests read two immutable snapshots: the committed blocks and the restrictions that wait to be
committed.  Violations are counted in sixty-four locked shards; a count that reaches its threshold
becomes a pending block, which the manager later moves into the committed snapshot.  The
configuration and the hash function never change and are parameters here.
-/

namespace EdgeGateway.IpBlocking

open IpAddress Security

/-- Number of shards of the violation counters. -/
def shards : Nat := 64

/-- The mutable state of the runtime. -/
structure Runtime where
  durable : BlockSnapshot
  temporary : Table IpAddr Nat
  windows : Fin shards → Table IpAddr ClientWindow
  pending : Table IpAddr PendingBlock
  accepting : Bool

/-- Replace the counters of one shard. -/
def Runtime.setShard (runtime : Runtime) (shard : Fin shards) (table : Table IpAddr ClientWindow) :
    Runtime :=
  { runtime with windows := Function.update runtime.windows shard table }

@[simp] theorem Runtime.setShard_same (runtime : Runtime) (shard : Fin shards)
    (table : Table IpAddr ClientWindow) :
    (runtime.setShard shard table).windows shard = table := by
  simp [setShard]

@[simp] theorem Runtime.setShard_other (runtime : Runtime) {shard other : Fin shards}
    (table : Table IpAddr ClientWindow) (distinct : other ≠ shard) :
    (runtime.setShard shard table).windows other = runtime.windows other := by
  simp [setShard, distinct]

/-- The runtime that starts with the loaded blocks. -/
def Runtime.load (blocks : BlockSnapshot) : Runtime where
  durable := blocks
  temporary := ∅
  windows := fun _ => ∅
  pending := ∅
  accepting := true

/-- Addresses that are never blocked. -/
def allowed (config : IpBlockingConfig) (ip : IpAddr) : Bool :=
  config.allow.any fun network => network.contains ip

/-- One of the two snapshots restricts the address. -/
def Runtime.restricts (runtime : Runtime) (ip : IpAddr) (now : Nat) : Bool :=
  (runtime.durable.lookup ip).any (fun block => now < block.deadline) ||
    (runtime.temporary.lookup ip).any fun deadline => now < deadline

/-- Whether a request is turned away. -/
def isClientIpBlocked (config : IpBlockingConfig) (runtime : Runtime)
    (address : ResolvedClientAddress) (now : Nat) : Bool :=
  config.file.enabled && !allowed config address.clientIp && runtime.restricts address.clientIp now

/-! ## Recording violations -/

/-- Violations of a rule that lead to a block. -/
def threshold (config : IpBlockingConfig) : ViolationRule → Nat
  | .invalidWebsocket => config.file.thresholds.invalidWebsocket
  | .invalidGrpc => config.file.thresholds.invalidGrpc
  | .sizeViolation => config.file.thresholds.sizeViolation
  | .namespaceScan => config.file.thresholds.namespaceScan

theorem threshold_pos (config : IpBlockingConfig) (rule : ViolationRule) :
    1 ≤ threshold config rule := by
  have bounded := config.bounded.thresholds
  simp only [ViolationThresholds.values, List.forall_mem_cons] at bounded
  cases rule with
  | invalidWebsocket => exact bounded.1.1
  | invalidGrpc => exact bounded.2.1.1
  | sizeViolation => exact bounded.2.2.1.1
  | namespaceScan => exact bounded.2.2.2.1.1

/-- The shard of an address. -/
def shardIndex (hash : IpAddr → Nat) (ip : IpAddr) : Fin shards :=
  ⟨hash ip % shards, Nat.mod_lt _ (by decide)⟩

/-- The share of a shard in the tracked addresses. -/
def shardCapacity (config : IpBlockingConfig) (shard : Fin shards) : Nat :=
  config.file.maxTrackedClientIps / shards +
    if shard.val < config.file.maxTrackedClientIps % shards then 1 else 0

/-- The counters of an address that has not been seen. -/
def ClientWindow.fresh (now : Nat) : ClientWindow :=
  ⟨fun _ => ⟨now, 0⟩, now⟩

/-- One more, up to the largest thirty-two-bit number. -/
def saturatingIncrement (count : Nat) : Nat :=
  min (count + 1) (2 ^ 32 - 1)

/-- Count one violation; a counter whose period is over starts again. -/
def ClientWindow.count (window : ClientWindow) (rule : ViolationRule) (now : Nat) : ClientWindow :=
  let counter := window.rules rule
  let counter := if rule.window ≤ now - counter.since then ⟨now, 0⟩ else counter
  ⟨Function.update window.rules rule { counter with count := saturatingIncrement counter.count },
    now⟩

theorem ClientWindow.count_ne_zero (window : ClientWindow) (rule : ViolationRule) (now : Nat) :
    ((window.count rule now).rules rule).count ≠ 0 := by
  simp only [count, Function.update_self, saturatingIncrement]
  omega

/-- A counter that has reached its threshold, on its way to the pending blocks. -/
structure Crossing where
  address : ResolvedClientAddress
  rule : ViolationRule
  count : Nat
  now : Nat
  counted : count ≠ 0

/-- The counters of an address after one more violation. -/
def Runtime.counted (hash : IpAddr → Nat) (runtime : Runtime) (ip : IpAddr) (rule : ViolationRule)
    (now : Nat) : ClientWindow :=
  (((runtime.windows (shardIndex hash ip)).lookup ip).getD (.fresh now)).count rule now

/-- Count a violation in the shard of its address. -/
def Runtime.observe (config : IpBlockingConfig) (hash : IpAddr → Nat) (runtime : Runtime)
    (address : ResolvedClientAddress) (rule : ViolationRule) (now : Nat) :
    Runtime × Option Crossing :=
  let ip := address.clientIp
  if !config.file.enabled || allowed config ip || !runtime.accepting ||
      runtime.restricts ip now then
    (runtime, none)
  else
    let table := runtime.windows (shardIndex hash ip)
    if ip ∉ table ∧ shardCapacity config (shardIndex hash ip) ≤ table.size then (runtime, none)
    else
      let window := runtime.counted hash ip rule now
      (runtime.setShard (shardIndex hash ip) (table.insert ip window),
        if (window.rules rule).count < threshold config rule then none
        else
          some ⟨address, rule, (window.rules rule).count, now,
            ClientWindow.count_ne_zero _ rule now⟩)

/-- Counting a violation changes at most the entry of its address, where there is room for it. -/
theorem Runtime.observe_cases (config : IpBlockingConfig) (hash : IpAddr → Nat)
    (runtime : Runtime) (address : ResolvedClientAddress) (rule : ViolationRule) (now : Nat) :
    runtime.observe config hash address rule now = (runtime, none) ∨
      ∃ crossing : Option Crossing,
        (address.clientIp ∈ runtime.windows (shardIndex hash address.clientIp) ∨
          (runtime.windows (shardIndex hash address.clientIp)).size <
            shardCapacity config (shardIndex hash address.clientIp)) ∧
        runtime.observe config hash address rule now =
          (runtime.setShard (shardIndex hash address.clientIp)
            ((runtime.windows (shardIndex hash address.clientIp)).insert address.clientIp
              (runtime.counted hash address.clientIp rule now)), crossing) ∧
        ∀ found ∈ crossing, found.address = address ∧ found.now = now ∧
          threshold config rule ≤
            ((runtime.counted hash address.clientIp rule now).rules rule).count := by
  unfold Runtime.observe
  dsimp only
  split_ifs with ignored full below
  · exact .inl rfl
  · exact .inl rfl
  · rw [not_and_or, not_not, not_le] at full
    exact .inr ⟨none, full, rfl, fun found member => by cases member⟩
  · rw [not_and_or, not_not, not_le] at full
    refine .inr ⟨_, full, rfl, fun found member => ?_⟩
    cases member
    exact ⟨rfl, rfl, Nat.le_of_not_lt below⟩

/-- Publish the pending blocks as the temporary snapshot. -/
def Runtime.publishTemporary (runtime : Runtime) : Runtime :=
  { runtime with temporary := runtime.pending.mapValues PendingBlock.deadline }

/-- Add a crossing to the pending blocks. -/
def Runtime.enqueue (config : IpBlockingConfig) (runtime : Runtime) (crossing : Crossing) :
    Runtime :=
  let ip := crossing.address.clientIp
  if ip ∈ runtime.pending then runtime
  else if config.file.maxPendingActivations ≤ runtime.pending.size then runtime
  else
    { runtime with
      pending := runtime.pending.insert ip
        ⟨crossing.address, crossing.rule, crossing.count, crossing.now + seconds temporarySeconds,
          crossing.counted⟩ }.publishTemporary

/-- Record a violation, without another client in between. -/
def Runtime.recordClientProtocolViolation (config : IpBlockingConfig) (hash : IpAddr → Nat)
    (runtime : Runtime) (address : ResolvedClientAddress) (rule : ViolationRule) (now : Nat) :
    Runtime :=
  match runtime.observe config hash address rule now with
  | (runtime, none) => runtime
  | (runtime, some crossing) => runtime.enqueue config crossing

/-! ## Sweeping -/

/-- Forget the counters of one shard that have been idle for half an hour. -/
def Runtime.sweepWindows (runtime : Runtime) (shard : Fin shards) (now : Nat) : Runtime :=
  runtime.setShard shard
    ((runtime.windows shard).retain fun _ window => now - window.lastSeen < seconds 1800)

/-- The pending blocks whose deadline lies ahead. -/
def Runtime.retainPending (runtime : Runtime) (now : Nat) : Runtime :=
  { runtime with pending := runtime.pending.retain fun _ entry => now < entry.deadline }

/-- Drop expired pending blocks, and publish when there were any. -/
def Runtime.sweepPending (runtime : Runtime) (now : Nat) : Runtime :=
  let swept := runtime.retainPending now
  if swept.pending.size ≠ runtime.pending.size then swept.publishTemporary else swept

/-- Drop expired pending blocks during shutdown, and publish in any case. -/
def Runtime.drainPending (runtime : Runtime) (now : Nat) : Runtime :=
  (runtime.retainPending now).publishTemporary

/-! ## Committing -/

/-- The pending blocks that one transaction takes, in the order the table happens to have. -/
def gather (config : IpBlockingConfig) (order : List (IpAddr × PendingBlock)) (now : Nat) :
    List (IpAddr × PendingBlock) :=
  (order.filter fun entry => now < entry.2.deadline).take config.file.persistenceBatchSize

/-- Why a transaction fails. -/
inductive PersistError
  | capacityReached
  | failed (reason : String)
deriving DecidableEq, Repr

/-- What a transaction commits and takes from the pending blocks. -/
structure PersistedBatch where
  snapshot : Option BlockSnapshot := none
  consumed : List IpAddr := []
  activated : List PendingBlock := []
  wall : Nat := 0
  capacityOverflow : Bool := false

/-- A transaction while it goes through its pending blocks. -/
structure Activation where
  candidate : BlockSnapshot
  consumed : List IpAddr := []
  activated : List PendingBlock := []
  capacityOverflow : Bool := false

/-- The record of a block that starts now. -/
def startRecord (ip : IpAddr) (wall expires : Machine.Word) (proposal : PendingBlock) :
    BlockRecord :=
  ⟨ip, wall, expires, proposal.rule, proposal.count⟩

theorem startRecord_valid (ip : IpAddr) {wall expires : Machine.Word} (proposal : PendingBlock)
    (sum : wall.checkedAdd blockSeconds = some expires) :
    (startRecord ip wall expires proposal).Valid :=
  ⟨Machine.checkedSub_eq_some.mpr (Machine.Word.checkedAdd_eq_some.mp sum), proposal.counted⟩

/-- The activation after a proposal has been committed. -/
def Activation.commit (activation : Activation) (now : Nat) (ip : IpAddr) (proposal : PendingBlock)
    {wall expires : Machine.Word} (sum : wall.checkedAdd blockSeconds = some expires) :
    Activation :=
  { activation with
    candidate := activation.candidate.insert ip
      ⟨startRecord ip wall expires proposal, now + seconds blockSeconds,
        startRecord_valid ip proposal sum⟩
    consumed := activation.consumed ++ [ip]
    activated := activation.activated ++ [proposal] }

/-- Commit one proposal, for as long as the wall clock can count. -/
def Activation.commitProposal (activation : Activation) (now : Nat) (wall : Machine.Word)
    (ip : IpAddr)
    (proposal : PendingBlock) : Except PersistError Activation :=
  match sum : wall.checkedAdd blockSeconds with
  | none => .error (.failed "block timestamp overflow")
  | some _ => .ok (activation.commit now ip proposal sum)

theorem Activation.commitProposal_eq_ok {activation next : Activation} {now : Nat}
    {wall : Machine.Word}
    {ip : IpAddr} {proposal : PendingBlock}
    (admitted : activation.commitProposal now wall ip proposal = .ok next) :
    ∃ expires, ∃ sum : wall.checkedAdd blockSeconds = some expires,
      next = activation.commit now ip proposal sum := by
  unfold commitProposal at admitted
  split at admitted
  · cases admitted
  · rename_i expires sum
    cases admitted
    exact ⟨expires, sum, rfl⟩

/-- Turn pending blocks into committed ones while there is room. -/
def activate (config : IpBlockingConfig) (now : Nat) (wall : Machine.Word) :
    List (IpAddr × PendingBlock) → Activation → Except PersistError Activation
  | [], activation => .ok activation
  | (ip, proposal) :: rest, activation =>
      if proposal.deadline ≤ now then activate config now wall rest activation
      else if ip ∈ activation.candidate ∨ allowed config ip then
        activate config now wall rest
          { activation with consumed := activation.consumed ++ [ip] }
      else if config.file.maxBlockedClientIps ≤ activation.candidate.size then
        .ok { activation with capacityOverflow := true }
      else
        match activation.commitProposal now wall ip proposal with
        | .error reason => .error reason
        | .ok activation => activate config now wall rest activation

/-- What every step of an activation preserves, the activation preserves. -/
theorem activate_preserves (property : Activation → Prop) {config : IpBlockingConfig} {now : Nat}
    {wall : Machine.Word} {batch : List (IpAddr × PendingBlock)}
    (consume : ∀ activation ip, property activation →
      property { activation with consumed := activation.consumed ++ [ip] })
    (overflow : ∀ activation, property activation →
      property { activation with capacityOverflow := true })
    (commit : ∀ activation ip proposal expires (sum : wall.checkedAdd blockSeconds = some expires),
      (ip, proposal) ∈ batch → now < proposal.deadline → ip ∉ activation.candidate →
      activation.candidate.size < config.file.maxBlockedClientIps →
      property activation → property (activation.commit now ip proposal sum))
    {start result : Activation} (holds : property start)
    (activated : activate config now wall batch start = .ok result) : property result := by
  induction batch generalizing start with
  | nil =>
      cases activated
      exact holds
  | cons entry rest ih =>
      obtain ⟨ip, proposal⟩ := entry
      have continues {next : Activation} (next_holds : property next)
          (next_activated : activate config now wall rest next = .ok result) : property result := by
        refine ih ?_ next_holds next_activated
        intro activation other proposal' expires sum member
        exact commit activation other proposal' expires sum (List.mem_cons_of_mem _ member)
      rw [activate] at activated
      split_ifs at activated with expired known full
      · exact continues holds activated
      · exact continues (consume start ip holds) activated
      · cases activated
        exact overflow start holds
      · split at activated
        · cases activated
        · rename_i next admitted
          obtain ⟨expires, sum, rfl⟩ := Activation.commitProposal_eq_ok admitted
          refine continues (commit start ip proposal expires sum List.mem_cons_self ?_ ?_ ?_ holds)
            activated
          · exact Nat.lt_of_not_le expired
          · exact fun present => known (.inl present)
          · exact Nat.lt_of_not_le full

/-- Some committed block has expired. -/
def anyExpired (blocks : BlockSnapshot) (now : Nat) : Bool :=
  blocks.entries.any fun entry => entry.2.deadline ≤ now

/-- The committed blocks whose deadline lies ahead. -/
def unexpired (blocks : BlockSnapshot) (now : Nat) : BlockSnapshot :=
  blocks.retain fun _ block => now < block.deadline

/-- Decide what a transaction commits; a snapshot in the result has to be written first. -/
def buildBatch (config : IpBlockingConfig) (old : BlockSnapshot)
    (pending : List (IpAddr × PendingBlock)) (forceCompaction : Bool) (now : Nat)
    (wall : Option Machine.Word) : Except PersistError PersistedBatch :=
  let expired := anyExpired old now
  if pending.isEmpty && !expired && !forceCompaction then .ok {}
  else if !pending.isEmpty && decide (config.file.maxBlockedClientIps ≤ old.size) && !expired &&
      !forceCompaction then
    .error .capacityReached
  else
    match wall with
    | none => .error (.failed "system time precedes Unix epoch")
    | some wall =>
        match activate config now wall pending { candidate := unexpired old now } with
        | .error reason => .error reason
        | .ok activation =>
            let outcome : PersistedBatch :=
              { consumed := activation.consumed
                activated := activation.activated
                wall := wall.val
                capacityOverflow := activation.capacityOverflow }
            if !activation.activated.isEmpty || expired || forceCompaction then
              .ok { outcome with snapshot := some activation.candidate }
            else if activation.capacityOverflow && activation.consumed.isEmpty then
              .error .capacityReached
            else
              .ok outcome

/-- A snapshot that is to be written is the outcome of activating the pending blocks. -/
theorem buildBatch_snapshot {config : IpBlockingConfig} {old : BlockSnapshot}
    {pending : List (IpAddr × PendingBlock)} {forceCompaction : Bool} {now : Nat}
    {wall : Option Machine.Word} {outcome : PersistedBatch}
    (accepted : buildBatch config old pending forceCompaction now wall = .ok outcome)
    {candidate : BlockSnapshot} (written : outcome.snapshot = some candidate) :
    ∃ wall activation,
      activate config now wall pending { candidate := unexpired old now } = .ok activation ∧
      candidate = activation.candidate ∧ outcome.activated = activation.activated := by
  simp only [buildBatch] at accepted
  split_ifs at accepted with idle full
  · cases accepted
    cases written
  · split at accepted
    · cases accepted
    · rename_i wall
      split at accepted
      · cases accepted
      · rename_i activation activated
        split_ifs at accepted with writes overflowed
        · cases accepted
          cases written
          exact ⟨wall, activation, activated, rfl, rfl⟩
        · cases accepted
          cases written

/-- Make a written snapshot the committed one. -/
def Runtime.commit (runtime : Runtime) (outcome : PersistedBatch) : Runtime :=
  match outcome.snapshot with
  | none => runtime
  | some candidate => { runtime with durable := candidate }

/-- Take the consumed addresses from the pending blocks. -/
def Runtime.consumePending (runtime : Runtime) (consumed : List IpAddr) : Runtime :=
  if consumed.isEmpty then runtime
  else
    { runtime with
      pending := consumed.foldl (fun table ip => table.erase ip) runtime.pending }.publishTemporary

/-! ## What leaves the snapshots alone -/

theorem Runtime.observe_durable (config : IpBlockingConfig) (hash : IpAddr → Nat)
    (runtime : Runtime) (address : ResolvedClientAddress) (rule : ViolationRule) (now : Nat) :
    (runtime.observe config hash address rule now).1.durable = runtime.durable := by
  rcases runtime.observe_cases config hash address rule now with same | ⟨_, _, same, _⟩
  · rw [same]
  · rw [same]
    rfl

theorem Runtime.enqueue_durable (config : IpBlockingConfig) (runtime : Runtime)
    (crossing : Crossing) : (runtime.enqueue config crossing).durable = runtime.durable := by
  unfold enqueue
  dsimp only
  split_ifs <;> rfl

theorem Runtime.sweepPending_durable (runtime : Runtime) (now : Nat) :
    (runtime.sweepPending now).durable = runtime.durable := by
  unfold sweepPending
  dsimp only
  split_ifs <;> rfl

theorem Runtime.consumePending_durable (runtime : Runtime) (consumed : List IpAddr) :
    (runtime.consumePending consumed).durable = runtime.durable := by
  unfold consumePending
  split_ifs <;> rfl

theorem Runtime.commit_temporary (runtime : Runtime) (outcome : PersistedBatch) :
    (runtime.commit outcome).temporary = runtime.temporary := by
  unfold commit
  split <;> rfl

/-- A consumed address is no longer in the temporary snapshot. -/
theorem Runtime.consumePending_temporary (runtime : Runtime) {consumed : List IpAddr}
    {ip : IpAddr} (member : ip ∈ consumed) :
    (runtime.consumePending consumed).temporary.lookup ip = none := by
  have nonempty : consumed.isEmpty = false := by
    cases consumed with
    | nil => cases member
    | cons => rfl
  unfold consumePending
  rw [nonempty]
  simp only [Bool.false_eq_true, if_false, publishTemporary]
  rw [Table.lookup_mapValues, Table.lookup_foldl_erase, if_pos member]
  rfl

end EdgeGateway.IpBlocking
