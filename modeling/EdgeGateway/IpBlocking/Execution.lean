import EdgeGateway.IpBlocking.Runtime
import EdgeGateway.IpBlocking.StateText

/-!
# Runs of client blocking

Clients record violations while one manager sweeps the tables and commits pending blocks.  Each
step of a run is what one holder of a lock does, one operation on the disk, or one publication of
a snapshot, so a transaction of the manager is interleaved with everything that clients do.
-/

namespace EdgeGateway.IpBlocking

open CrashDisk IpAddress Security

/-- Where the manager stands in a transaction. -/
inductive Phase
  | idle
  /-- It has taken a committed snapshot and some pending blocks. -/
  | gathered (old : BlockSnapshot) (batch : List (IpAddr × PendingBlock)) (forceCompaction : Bool)
  /-- It is about to perform the remaining operations of a write and then to report its result. -/
  | writing (outcome : PersistedBatch) (remaining : List DiskOperation)
      (result : Except String Unit)
  /-- The transaction has succeeded and its snapshot is about to be published. -/
  | publishing (outcome : PersistedBatch)
  /-- The snapshot is published and the pending blocks are about to be consumed. -/
  | consuming (consumed : List IpAddr)

/-- The runtime with everything under way. -/
structure System where
  runtime : Runtime
  /-- Crossings between the lock of their shard and the lock of the pending blocks. -/
  crossings : List Crossing
  phase : Phase
  disk : Disk FileName (List UInt8)
  writer : Option StateWriter
  /-- The latest instant that was read. -/
  clock : Nat
  /-- Addresses whose block has been written successfully. -/
  committed : List IpAddr

/-- One violation that was recorded. -/
structure Violation where
  clientIp : IpAddr
  rule : ViolationRule
  now : Nat
deriving DecidableEq

/-- Load the blocks, unless blocking is disabled. -/
def loadBlocks (codec : StateCodec) (config : IpBlockingConfig)
    (files : FileName → Option (List UInt8)) (wall : Option Machine.Word) (monotonic : Nat)
    (loadFaults : LoadFaults) (faults : WriteFaults) :
    List DiskOperation × Except String (Option StateWriter × BlockSnapshot) :=
  if config.file.enabled then
    let loaded := loadClientIpBlocklist codec config.file.maxBlockedClientIps (files .state) wall
      monotonic loadFaults faults
    (loaded.operations, loaded.result.map fun (writer, blocks) => (some writer, blocks))
  else
    ([], .ok (none, ∅))

/-- The blocks a system starts with: none when blocking is disabled or no file existed, and those
of the file otherwise. -/
theorem loadBlocks_eq_ok {codec : StateCodec} {config : IpBlockingConfig}
    {files : FileName → Option (List UInt8)} {wall : Option Machine.Word} {monotonic : Nat}
    {loadFaults : LoadFaults} {faults : WriteFaults} {operations : List DiskOperation}
    {writer : Option StateWriter} {blocks : BlockSnapshot}
    (loaded : loadBlocks codec config files wall monotonic loadFaults faults =
      (operations, .ok (writer, blocks))) :
    (config.file.enabled = false ∧ operations = [] ∧ blocks = ∅ ∧ writer = none) ∨
    (∃ owned, config.file.enabled = true ∧ writer = some owned ∧ blocks = ∅ ∧
      persistClientIpBlocklistAtomically codec ⟨none⟩ ∅ monotonic faults =
        ⟨operations, .ok (), owned⟩) ∨
    (∃ bytes, config.file.enabled = true ∧ operations = [] ∧ files .state = some bytes ∧
      writer = some ⟨none⟩ ∧
      loadContent codec config.file.maxBlockedClientIps bytes wall monotonic = .ok blocks) := by
  unfold loadBlocks at loaded
  split_ifs at loaded with enabled
  · simp only [Prod.mk.injEq] at loaded
    obtain ⟨operations_eq, mapped⟩ := loaded
    obtain ⟨⟨owned, found⟩, result, same⟩ := Results.map_eq_ok.mp mapped
    cases same
    rcases loadClientIpBlocklist_eq_ok (Loaded.ext operations_eq result) with
      ⟨_, rfl, persisted⟩ | ⟨bytes, found, rfl, rfl, content⟩
    · exact .inr (.inl ⟨owned, enabled, rfl, rfl, persisted⟩)
    · exact .inr (.inr ⟨bytes, enabled, rfl, found, rfl, content⟩)
  · cases loaded
    exact .inl ⟨Bool.eq_false_iff.mpr enabled, rfl, rfl, rfl⟩

/-- A system that has just loaded its blocks from a disk at rest. -/
inductive Starts (codec : StateCodec) (config : IpBlockingConfig) : BlockSnapshot → System → Prop
  | load {files : FileName → Option (List UInt8)} {wall : Option Machine.Word} {monotonic : Nat}
      {loadFaults : LoadFaults} {faults : WriteFaults} {operations : List DiskOperation}
      {writer : Option StateWriter} {blocks : BlockSnapshot}
      (loaded : loadBlocks codec config files wall monotonic loadFaults faults =
        (operations, .ok (writer, blocks))) :
      Starts codec config blocks
        { runtime := Runtime.load blocks
          crossings := []
          phase := .idle
          disk := operations.foldl apply (atRest files)
          writer
          clock := monotonic
          committed := [] }

/-- What the manager does with a decided transaction: write its snapshot, if there is one. -/
def Phase.decided (codec : StateCodec) (writer : StateWriter) (outcome : PersistedBatch)
    (now : Nat) (faults : WriteFaults) : Phase × StateWriter :=
  match outcome.snapshot with
  | none => (.publishing outcome, writer)
  | some candidate =>
      let persisted := persistClientIpBlocklistAtomically codec writer candidate now faults
      (.writing outcome persisted.operations persisted.result, persisted.writer)

/-- One step of a run, with the violation that it records. -/
inductive Step (codec : StateCodec) (config : IpBlockingConfig) (hash : IpAddr → Nat) :
    System → Option Violation → System → Prop
  /-- A client's violation is counted in its shard. -/
  | observe {system : System} (address : ResolvedClientAddress) (rule : ViolationRule) {now : Nat}
      (later : system.clock ≤ now) :
      Step codec config hash system (some ⟨address.clientIp, rule, now⟩)
        { system with
          runtime := (system.runtime.observe config hash address rule now).1
          crossings := (system.runtime.observe config hash address rule now).2.toList ++
            system.crossings
          clock := now }
  /-- A crossing reaches the pending blocks. -/
  | enqueue {system : System} {before after : List Crossing} {crossing : Crossing}
      (waiting : system.crossings = before ++ crossing :: after) :
      Step codec config hash system none
        { system with
          runtime := system.runtime.enqueue config crossing
          crossings := before ++ after }
  | sweepWindows {system : System} (enabled : config.file.enabled = true) (shard : Fin shards)
      {now : Nat} (later : system.clock ≤ now) :
      Step codec config hash system none
        { system with runtime := system.runtime.sweepWindows shard now, clock := now }
  | sweepPending {system : System} (enabled : config.file.enabled = true) {now : Nat}
      (later : system.clock ≤ now) :
      Step codec config hash system none
        { system with runtime := system.runtime.sweepPending now, clock := now }
  /-- The manager stops accepting violations. -/
  | shutdown {system : System} :
      Step codec config hash system none
        { system with runtime := { system.runtime with accepting := false } }
  | drainPending {system : System} (enabled : config.file.enabled = true) {now : Nat}
      (later : system.clock ≤ now) :
      Step codec config hash system none
        { system with runtime := system.runtime.drainPending now, clock := now }
  /-- A transaction takes its pending blocks, in any order of the table. -/
  | gather {system : System} (enabled : config.file.enabled = true) (idle : system.phase = .idle)
      {order : List (IpAddr × PendingBlock)}
      (permuted : order.Perm (system.runtime.pending.entries.map fun entry => (entry.1, entry.2)))
      (forceCompaction : Bool) {now : Nat} (later : system.clock ≤ now) :
      Step codec config hash system none
        { system with
          phase := .gathered system.runtime.durable (gather config order now) forceCompaction
          clock := now }
  /-- A transaction decides that it fails. -/
  | reject {system : System} {old : BlockSnapshot} {batch : List (IpAddr × PendingBlock)}
      {forceCompaction : Bool} (gathered : system.phase = .gathered old batch forceCompaction)
      {now : Nat} (later : system.clock ≤ now) {wall : Option Machine.Word} {reason : PersistError}
      (rejected : buildBatch config old batch forceCompaction now wall = .error reason) :
      Step codec config hash system none { system with phase := .idle, clock := now }
  /-- A transaction decides what it commits; the write reads the clock once more. -/
  | decide {system : System} {old : BlockSnapshot} {batch : List (IpAddr × PendingBlock)}
      {forceCompaction : Bool} (gathered : system.phase = .gathered old batch forceCompaction)
      {now : Nat} (later : system.clock ≤ now) {wall : Option Machine.Word}
      {outcome : PersistedBatch}
      (accepted : buildBatch config old batch forceCompaction now wall = .ok outcome)
      {writer : StateWriter} (owned : system.writer = some writer) {written : Nat}
      (afterwards : now ≤ written) (faults : WriteFaults) :
      Step codec config hash system none
        { system with
          phase := (Phase.decided codec writer outcome written faults).1
          writer := some (Phase.decided codec writer outcome written faults).2
          clock := written }
  /-- The next operation of a write. -/
  | operate {system : System} {outcome : PersistedBatch} {operation : DiskOperation}
      {remaining : List DiskOperation} {result : Except String Unit}
      (writing : system.phase = .writing outcome (operation :: remaining) result) :
      Step codec config hash system none
        { system with
          phase := .writing outcome remaining result
          disk := apply system.disk operation }
  /-- A write reports its failure. -/
  | fail {system : System} {outcome : PersistedBatch} {reason : String}
      (writing : system.phase = .writing outcome [] (.error reason)) :
      Step codec config hash system none { system with phase := .idle }
  /-- A write reports its success. -/
  | succeed {system : System} {outcome : PersistedBatch}
      (writing : system.phase = .writing outcome [] (.ok ())) :
      Step codec config hash system none
        { system with
          phase := .publishing outcome
          committed := outcome.activated.map (·.address.clientIp) ++ system.committed }
  | publish {system : System} {outcome : PersistedBatch}
      (publishing : system.phase = .publishing outcome) :
      Step codec config hash system none
        { system with
          runtime := system.runtime.commit outcome
          phase := .consuming outcome.consumed }
  | consume {system : System} {consumed : List IpAddr}
      (consuming : system.phase = .consuming consumed) :
      Step codec config hash system none
        { system with
          runtime := system.runtime.consumePending consumed
          phase := .idle }

/-- The systems that runs from the loaded blocks reach, with the violations recorded on the way. -/
inductive Reaches (codec : StateCodec) (config : IpBlockingConfig) (hash : IpAddr → Nat)
    (loaded : BlockSnapshot) : List Violation → System → Prop
  | start {system : System} (starts : Starts codec config loaded system) :
      Reaches codec config hash loaded [] system
  | step {history : List Violation} {system next : System} {violation : Option Violation}
      (reached : Reaches codec config hash loaded history system)
      (step : Step codec config hash system violation next) :
      Reaches codec config hash loaded (history ++ violation.toList) next

/-- A call that nothing interrupts is a run. -/
theorem reaches_record {codec : StateCodec} {config : IpBlockingConfig} {hash : IpAddr → Nat}
    {loaded : BlockSnapshot} {history : List Violation} {system : System}
    (reached : Reaches codec config hash loaded history system)
    (address : ResolvedClientAddress) (rule : ViolationRule) {now : Nat}
    (later : system.clock ≤ now) :
    Reaches codec config hash loaded (history ++ [⟨address.clientIp, rule, now⟩])
      { system with
        runtime := system.runtime.recordClientProtocolViolation config hash address rule now
        clock := now } := by
  have observed := reached.step (.observe address rule later)
  unfold Runtime.recordClientProtocolViolation
  cases result : system.runtime.observe config hash address rule now with
  | mk runtime crossing =>
      rw [result] at observed
      cases crossing with
      | none => exact observed
      | some crossing =>
          have enqueued := observed.step (.enqueue (@List.nil_append _ _).symm)
          rwa [Option.toList_none, List.append_nil] at enqueued

/-- The first operations of a write are performed one after the other. -/
theorem reaches_operations {codec : StateCodec} {config : IpBlockingConfig}
    {hash : IpAddr → Nat} {loaded : BlockSnapshot} {history : List Violation}
    {outcome : PersistedBatch} (operations remaining : List DiskOperation)
    {result : Except String Unit} {system : System}
    (reached : Reaches codec config hash loaded history
      { system with phase := .writing outcome (operations ++ remaining) result }) :
    Reaches codec config hash loaded history
      { system with
        phase := .writing outcome remaining result
        disk := operations.foldl apply system.disk } := by
  induction operations generalizing system with
  | nil => exact reached
  | cons operation operations ih =>
      have operated := reached.step (.operate rfl)
      rw [Option.toList_none, List.append_nil] at operated
      exact @ih { system with disk := apply system.disk operation } operated

/-! ## Starting without a state file -/

/-- The system that has found no state file and written an empty one. -/
def freshSystem : System where
  runtime := .load ∅
  crossings := []
  phase := .idle
  disk := (persistClientIpBlocklistAtomically stateText ⟨none⟩ ∅ 0 (.none 0)).operations.foldl apply
    (atRest fun _ => none)
  writer := some ⟨none⟩
  clock := 0
  committed := []

/-- Where blocking is enabled, a system without a state file starts fresh. -/
theorem freshSystem_starts_enabled {config : IpBlockingConfig}
    (enabled : config.file.enabled = true) : Starts stateText config ∅ freshSystem := by
  have records : activeRecords ∅ 0 = [] := List.mergeSort_nil
  have small : ¬ maxStateBytes < (stateText.encode ⟨1, []⟩).length := by decide +kernel
  have loaded : loadBlocks stateText config (fun _ => none) (some ⟨0, by decide⟩) 0 .none
      (.none 0) =
      ((persistClientIpBlocklistAtomically stateText ⟨none⟩ ∅ 0 (.none 0)).operations,
        .ok (some ⟨none⟩, ∅)) := by
    simp [loadBlocks, enabled, loadClientIpBlocklist, LoadFaults.none,
      persistClientIpBlocklistAtomically, removeOrphan, records, small, WriteFaults.none,
      replaceStateFile, Except.map]
  exact .load loaded

theorem freshSystem_starts : Starts stateText strictConfig ∅ freshSystem :=
  freshSystem_starts_enabled rfl

/-! ## Starting with a state file -/

theorem blockSeconds_lt_wordSize : blockSeconds < Machine.wordSize := by decide

/-- A block of the first second of the wall clock. -/
def firstRecord : BlockRecord :=
  ⟨directClient.clientIp, ⟨0, Machine.wordSize_pos⟩, ⟨86400, blockSeconds_lt_wordSize⟩,
    .invalidWebsocket, 1⟩

/-- The disk that has the block in its state file. -/
def firstFiles : FileName → Option (List UInt8)
  | .state => some (stateText.encode ⟨1, [firstRecord]⟩)
  | .temporary _ => none

def firstBlocks : BlockSnapshot :=
  AList.singleton directClient.clientIp ⟨firstRecord, seconds 86400, by decide⟩

/-- The system that has loaded the block. -/
def restoredSystem : System where
  runtime := .load firstBlocks
  crossings := []
  phase := .idle
  disk := atRest firstFiles
  writer := some ⟨none⟩
  clock := 0
  committed := []

theorem restoredSystem_starts : Starts stateText strictConfig firstBlocks restoredSystem := by
  have enabled : strictConfig.file.enabled = true := rfl
  have small : ¬ maxStateBytes < (stateText.encode ⟨1, [firstRecord]⟩).length := by
    decide +kernel
  have content : loadContent stateText strictConfig.file.maxBlockedClientIps
      (stateText.encode ⟨1, [firstRecord]⟩) (some ⟨0, by decide⟩) 0 = .ok firstBlocks := by
    rw [loadContent, if_neg small, stateText.decode_encode]
    rfl
  have loaded : loadBlocks stateText strictConfig firstFiles (some ⟨0, by decide⟩) 0 .none
      (.none 0) = ([], .ok (some ⟨none⟩, firstBlocks)) := by
    simp [loadBlocks, enabled, loadClientIpBlocklist, LoadFaults.none, firstFiles, content,
      Except.map]
  exact .load loaded

end EdgeGateway.IpBlocking
