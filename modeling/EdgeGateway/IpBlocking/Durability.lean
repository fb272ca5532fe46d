import EdgeGateway.IpBlocking.Justification

/-!
# Committed blocks survive a crash

Whatever step of the file system fails, and wherever a crash interrupts a transaction, the state
file that is left loads again and has every committed block that has not expired.
-/

namespace EdgeGateway.IpBlocking

open CrashDisk IpAddress Security

variable {codec : StateCodec} {config : IpBlockingConfig} {hash : IpAddr → Nat}
  {loaded : BlockSnapshot}

/-! ## Writing -/

/-- The content that a write of the blocks puts into the state file. -/
def stateBytes (codec : StateCodec) (blocks : BlockSnapshot) (now : Nat) : List UInt8 :=
  codec.encode ⟨1, activeRecords blocks now⟩

variable {property : Option (List UInt8) → Prop} {disk : Disk FileName (List UInt8)}
  {bytes : List UInt8}

/-- The disk whose temporary file has been filled and synced. -/
def filled (bytes : List UInt8) (suffix : Nat) (disk : Disk FileName (List UInt8)) :
    Disk FileName (List UInt8) :=
  apply (apply (apply disk (.write (.temporary suffix) [])) (.write (.temporary suffix) bytes))
    (.sync (.temporary suffix))

/-- After the rename the state file is the new content. -/
theorem renamed_safe (suffix : Nat) (safe : Safe property disk .state)
    (holds : property (some bytes)) :
    Safe property (apply (filled bytes suffix disk) (.rename (.temporary suffix) .state)) .state ∧
      (apply (filled bytes suffix disk) (.rename (.temporary suffix) .state) .state).visible =
        some bytes := by
  have distinct : FileName.state ≠ .temporary suffix := by simp
  have safe_filled : Safe property (filled bytes suffix disk) .state :=
    ((safe.write distinct []).write distinct bytes).sync distinct
  have visible : (filled bytes suffix disk (.temporary suffix)).visible = some bytes := by
    simp [filled, apply]
  have synced : (filled bytes suffix disk (.temporary suffix)).synced = true := by
    simp [filled, apply]
  refine ⟨safe_filled.rename visible synced holds, ?_⟩
  rw [apply, visible]
  simp

/-- A replacement keeps a property that the new content has, and a successful one leaves nothing
but the new content. -/
theorem replaceStateFile_along (suffix : Nat) (faults : WriteFaults)
    (safe : Safe property disk .state) (holds : property (some bytes)) :
    Along (fun disk => Safe property disk .state)
      (fun disk => Safe property disk .state ∧
        ((replaceStateFile bytes (.temporary suffix) faults).2 = .ok () →
          Safe (fun left => left = some bytes) disk .state))
      (replaceStateFile bytes (.temporary suffix) faults).1 disk := by
  have distinct : FileName.state ≠ .temporary suffix := by simp
  have write (content : List UInt8) :
      Elsewhere FileName.state (.write (.temporary suffix) content) :=
    .write distinct content
  have sync : Elsewhere FileName.state (.sync (.temporary suffix) : DiskOperation) := .sync distinct
  have safe_created := safe.write distinct []
  have safe_written := safe_created.write distinct bytes
  have safe_synced := safe_written.sync distinct
  obtain ⟨safe_renamed, visible⟩ := renamed_safe suffix safe holds
  cases created : faults.create with
  | false =>
      simp only [replaceStateFile, created, Bool.not_false, if_true]
      exact along_elsewhere (by simp) safe fun _ safe => ⟨safe, by simp⟩
  | true =>
    cases wrote : faults.write with
    | some torn =>
        simp only [replaceStateFile, created, wrote, Bool.not_true, Bool.false_eq_true, if_false]
        exact along_elsewhere (by simp [write]) safe fun _ safe => ⟨safe, by simp⟩
    | none =>
        simp only [replaceStateFile, created, wrote, Bool.not_true, Bool.false_eq_true, if_false]
        split_ifs
        · refine along_elsewhere ?_ safe fun _ safe => ⟨safe, by simp⟩
          simp [write]
        · refine along_elsewhere ?_ safe fun _ safe => ⟨safe, by simp⟩
          simp [write]
        · refine along_elsewhere ?_ safe fun _ safe => ⟨safe, by simp⟩
          simp [write, sync]
        · exact ⟨safe, safe_created, safe_written, safe_synced, safe_renamed, safe_renamed, by simp⟩
        · exact ⟨safe, safe_created, safe_written, safe_synced, safe_renamed, safe_renamed, by simp⟩
        · have safe_directory := safe_renamed.syncDirectory
          rw [visible] at safe_directory
          have kept : Safe property _ FileName.state :=
            safe_directory.mono fun left same => same ▸ holds
          exact ⟨safe, safe_created, safe_written, safe_synced, safe_renamed, kept, kept,
            fun _ => safe_directory⟩

theorem removeOrphan_elsewhere {writer : StateWriter} {faults : WriteFaults}
    {removed : List DiskOperation} (done : removeOrphan writer faults = some removed) :
    ∀ operation ∈ removed, Elsewhere .state operation := by
  unfold removeOrphan at done
  split at done
  · cases done
    simp
  · split at done
    · cases done
      intro operation member
      rw [List.mem_singleton.mp member]
      exact .remove (by simp)
    · cases done
      simp
    · cases done

theorem cleanUp_elsewhere (suffix : Nat) (faults : WriteFaults) :
    ∀ operation ∈ (cleanUp suffix faults).1, Elsewhere .state operation := by
  unfold cleanUp
  split
  · intro operation member
    rw [List.mem_singleton.mp member]
    exact .remove (by simp)
  · simp
  · simp

/-- A transaction keeps a property of the state file that the new content has, and a successful
one leaves nothing but the new content. -/
theorem persist_along {writer : StateWriter} {blocks : BlockSnapshot} {now : Nat}
    {faults : WriteFaults} (safe : Safe property disk .state)
    (holds : (stateBytes codec blocks now).length ≤ maxStateBytes →
      property (some (stateBytes codec blocks now))) :
    Along (fun disk => Safe property disk .state)
      (fun disk =>
        (persistClientIpBlocklistAtomically codec writer blocks now faults).result = .ok () →
          (stateBytes codec blocks now).length ≤ maxStateBytes ∧
          Safe (fun left => left = some (stateBytes codec blocks now)) disk .state)
      (persistClientIpBlocklistAtomically codec writer blocks now faults).operations disk := by
  simp only [persistClientIpBlocklistAtomically]
  split
  · exact ⟨safe, by simp⟩
  · rename_i removed done
    have elsewhere := removeOrphan_elsewhere done
    by_cases large : maxStateBytes < (codec.encode ⟨1, activeRecords blocks now⟩).length
    · simp only [if_pos large]
      exact along_elsewhere elsewhere safe fun _ _ => by simp
    · simp only [if_neg large]
      have small : (stateBytes codec blocks now).length ≤ maxStateBytes := Nat.le_of_not_lt large
      split
      · exact along_elsewhere elsewhere safe fun _ _ => by simp
      · rename_i suffix _
        have replaced (disk : Disk FileName (List UInt8)) (safe : Safe property disk .state) :=
          replaceStateFile_along suffix faults safe (holds small)
        split
        · rename_i succeeded
          refine (along_elsewhere elsewhere safe fun disk safe => ?_).append
          refine (replaced disk safe).mono (fun _ safe => safe) fun disk _ ends _ => ?_
          exact ⟨small, ends.2 succeeded⟩
        · split_ifs
          · refine (along_elsewhere elsewhere safe fun disk safe => ?_).append
            refine ((replaced disk safe).mono (fun _ safe => safe) fun disk _ ends => ?_).append
            exact along_elsewhere (cleanUp_elsewhere suffix faults) ends.1 fun _ _ => by simp
          · refine (along_elsewhere elsewhere safe fun disk safe => ?_).append
            exact (replaced disk safe).mono (fun _ safe => safe) fun _ _ _ => by simp

/-! ## Loading -/

/-- Records that a loader accepts. -/
structure Loadable (records : List BlockRecord) : Prop where
  valid : ∀ record ∈ records, record.Valid
  distinct : (records.map fun record => normalizeIp record.clientIp).Nodup

/-- Loadable records load at any time, each with its block while that lasts. -/
theorem loadRecords_accepts {records : List BlockRecord} (loadable : Loadable records)
    (wall : Machine.Word) (monotonic : Nat) {seen : List IpAddr} (blocks : BlockSnapshot)
    (fresh : ∀ record ∈ records, normalizeIp record.clientIp ∉ seen) :
    ∃ result, loadRecords wall monotonic seen blocks records = .ok result ∧
      (∀ ip, (∀ record ∈ records, ip ≠ normalizeIp record.clientIp) →
        result.lookup ip = blocks.lookup ip) ∧
      ∀ record ∈ records, wall.val < record.expiresAtUnixSeconds.val → ∃ block,
        result.lookup (normalizeIp record.clientIp) = some block ∧ monotonic < block.deadline := by
  induction records generalizing seen blocks with
  | nil => exact ⟨blocks, rfl, fun _ _ => rfl, by simp⟩
  | cons record rest ih =>
      obtain ⟨valid, distinct⟩ := loadable
      rw [List.forall_mem_cons] at valid fresh
      rw [List.map_cons, List.nodup_cons] at distinct
      obtain ⟨middle, first, recordLoaded⟩ :=
        loadRecord_loaded wall monotonic blocks record valid.1
      have others : ∀ other ∈ rest, normalizeIp record.clientIp ≠ normalizeIp other.clientIp :=
        fun other member same =>
          distinct.1 (List.mem_map.mpr ⟨other, member, same.symm⟩)
      have fresh_rest : ∀ other ∈ rest,
          normalizeIp other.clientIp ∉ normalizeIp record.clientIp :: seen := by
        intro other member
        rw [List.mem_cons, not_or]
        exact ⟨(others other member).symm, fresh.2 other member⟩
      obtain ⟨result, loaded, kept, active⟩ := ih ⟨valid.2, distinct.2⟩ middle fresh_rest
      refine ⟨result, ?_, ?_, ?_⟩
      · rw [loadRecords, dif_pos ⟨valid.1, fresh.1⟩, first]
        exact loaded
      · intro ip other
        rw [List.forall_mem_cons] at other
        rw [kept ip other.2, recordLoaded.others ip other.1]
      · rw [List.forall_mem_cons]
        refine ⟨fun unexpired => ?_, active⟩
        rw [kept _ others]
        exact recordLoaded.active unexpired

/-- Accepted records are loadable, and every loaded block comes from one of them. -/
theorem loadRecords_origin {wall : Machine.Word} {monotonic : Nat} {seen : List IpAddr}
    {blocks result : BlockSnapshot} {records : List BlockRecord}
    (accepted : loadRecords wall monotonic seen blocks records = .ok result) :
    Loadable records ∧ (∀ record ∈ records, normalizeIp record.clientIp ∉ seen) ∧
      ∀ ip block, result.lookup ip = some block → blocks.lookup ip = some block ∨
        (block.record.clientIp = ip ∧ ∃ record ∈ records, normalizeIp record.clientIp = ip) := by
  induction records generalizing seen blocks with
  | nil =>
      cases accepted
      exact ⟨⟨by simp, List.nodup_nil⟩, by simp, fun _ _ found => .inl found⟩
  | cons record rest ih =>
      rw [loadRecords] at accepted
      split_ifs at accepted with valid
      obtain ⟨middle, first, recordLoaded⟩ :=
        loadRecord_loaded wall monotonic blocks record valid.1
      rw [first] at accepted
      obtain ⟨loadable, fresh, origin⟩ := ih accepted
      refine ⟨⟨?_, ?_⟩, ?_, ?_⟩
      · exact List.forall_mem_cons.mpr ⟨valid.1, loadable.valid⟩
      · rw [List.map_cons, List.nodup_cons]
        refine ⟨fun member => ?_, loadable.distinct⟩
        obtain ⟨other, present, same⟩ := List.mem_map.mp member
        exact fresh other present (same ▸ List.mem_cons_self)
      · rw [List.forall_mem_cons]
        exact ⟨valid.2, fun other member seen_before =>
          fresh other member (List.mem_cons_of_mem _ seen_before)⟩
      · intro ip block found
        rcases origin ip block found with before | ⟨own, other, member, same⟩
        · by_cases current : ip = normalizeIp record.clientIp
          · subst current
            rcases recordLoaded.origin block before with before | own
            · exact .inl before
            · exact .inr ⟨own, record, List.mem_cons_self, rfl⟩
          · rw [recordLoaded.others ip current] at before
            exact .inl before
        · exact .inr ⟨own, other, List.mem_cons_of_mem _ member, same⟩

/-! ## The state file -/

/-- The content loads, and it has a record for every block that is active at the instant. -/
def Covers (codec : StateCodec) (config : IpBlockingConfig) (blocks : BlockSnapshot)
    (instant : Nat) (content : Option (List UInt8)) : Prop :=
  ∃ bytes records, content = some bytes ∧ bytes.length ≤ maxStateBytes ∧
    codec.decode bytes = some ⟨1, records⟩ ∧ records.length ≤ config.file.maxBlockedClientIps ∧
    Loadable records ∧
    ∀ ip block, blocks.lookup ip = some block → instant < block.deadline →
      ∃ record ∈ records, normalizeIp record.clientIp = ip

theorem Covers.mono {blocks : BlockSnapshot} {instant later : Nat} {content : Option (List UInt8)}
    (covers : Covers codec config blocks instant content) (le : instant ≤ later) :
    Covers codec config blocks later content := by
  obtain ⟨bytes, records, same, small, decoded, few, loadable, present⟩ := covers
  exact ⟨bytes, records, same, small, decoded, few, loadable,
    fun ip block found active => present ip block found (Nat.lt_of_le_of_lt le active)⟩

/-- The blocks stand under their own, normalized addresses. -/
def Keyed (blocks : BlockSnapshot) : Prop :=
  ∀ ip block, blocks.lookup ip = some block →
    block.record.clientIp = ip ∧ normalizeIp ip = ip

theorem mem_activeRecords {blocks : BlockSnapshot} {now : Nat} {record : BlockRecord} :
    record ∈ activeRecords blocks now ↔
      ∃ ip block, blocks.lookup ip = some block ∧ now < block.deadline ∧ block.record = record := by
  simp only [activeRecords, List.mem_mergeSort, List.mem_map, List.mem_filter, decide_eq_true_eq]
  constructor
  · rintro ⟨⟨ip, block⟩, ⟨member, active⟩, same⟩
    exact ⟨ip, block, Table.lookup_eq_some_iff.mpr member, active, same⟩
  · rintro ⟨ip, block, found, active, same⟩
    exact ⟨⟨ip, block⟩, ⟨Table.lookup_eq_some_iff.mp found, active⟩, same⟩

theorem activeRecords_length_le (blocks : BlockSnapshot) (now : Nat) :
    (activeRecords blocks now).length ≤ blocks.size := by
  rw [activeRecords, List.length_mergeSort, List.length_map]
  exact List.length_filter_le _ _

/-- The records of a snapshot have distinct addresses, as its keys are distinct. -/
theorem loadable_activeRecords {blocks : BlockSnapshot} (keyed : Keyed blocks) (now : Nat) :
    Loadable (activeRecords blocks now) := by
  constructor
  · intro record member
    obtain ⟨_, block, _, _, rfl⟩ := mem_activeRecords.mp member
    exact block.valid
  · have keys : ((blocks.entries.filter fun entry => now < entry.2.deadline).map
        fun entry => normalizeIp entry.2.record.clientIp) =
        (blocks.entries.filter fun entry => now < entry.2.deadline).map Sigma.fst := by
      apply List.map_congr_left
      intro entry member
      have found := Table.lookup_eq_some_iff.mpr (List.mem_filter.mp member).1
      obtain ⟨own, normal⟩ := keyed entry.1 entry.2 found
      rw [own, normal]
    have sorted := ((blocks.entries.filter fun entry => now < entry.2.deadline).map fun entry =>
      entry.2.record).mergeSort_perm fun left right => addressLe left.clientIp right.clientIp
    rw [activeRecords, (sorted.map fun record => normalizeIp record.clientIp).nodup_iff,
      List.map_map]
    exact keys ▸ (List.filter_sublist.map Sigma.fst).nodup blocks.nodupKeys

/-- A written snapshot loads, and covers what it holds. -/
theorem covers_stateBytes {blocks : BlockSnapshot} (keyed : Keyed blocks) {now : Nat}
    (few : blocks.size ≤ config.file.maxBlockedClientIps)
    (small : (stateBytes codec blocks now).length ≤ maxStateBytes) :
    Covers codec config blocks now (some (stateBytes codec blocks now)) := by
  refine ⟨_, _, rfl, small, codec.decode_encode _, (activeRecords_length_le blocks now).trans few,
    loadable_activeRecords keyed now, ?_⟩
  intro ip block found active
  obtain ⟨own, normal⟩ := keyed ip block found
  exact ⟨block.record, mem_activeRecords.mpr ⟨ip, block, found, active, rfl⟩,
    (congrArg normalizeIp own).trans normal⟩

/-- A file that covers a newer snapshot covers an older one whose active blocks it has kept. -/
theorem Covers.older {older newer : BlockSnapshot} {instant : Nat} {content : Option (List UInt8)}
    (covers : Covers codec config newer instant content)
    (kept : ∀ ip block, older.lookup ip = some block → instant < block.deadline →
      newer.lookup ip = some block) :
    Covers codec config older instant content := by
  obtain ⟨bytes, records, same, small, decoded, few, loadable, present⟩ := covers
  exact ⟨bytes, records, same, small, decoded, few, loadable,
    fun ip block found active => present ip block (kept ip block found active) active⟩

/-! ## Transactions -/

/-- A transaction keeps every committed block that has not expired. -/
theorem buildBatch_keeps {old : BlockSnapshot} {batch : List (IpAddr × PendingBlock)}
    {forceCompaction : Bool} {now : Nat} {wall : Option Machine.Word} {outcome : PersistedBatch}
    (accepted : buildBatch config old batch forceCompaction now wall = .ok outcome)
    {candidate : BlockSnapshot} (written : outcome.snapshot = some candidate) {ip : IpAddr}
    {block : ActiveBlock} (found : old.lookup ip = some block) (active : now < block.deadline) :
    candidate.lookup ip = some block := by
  obtain ⟨wall, activation, activated, rfl, _⟩ := buildBatch_snapshot accepted written
  refine activate_preserves (fun activation => activation.candidate.lookup ip = some block)
    ?_ ?_ ?_ ?_ activated
  · exact fun _ _ kept => kept
  · exact fun _ kept => kept
  · intro activation other proposal expires sum _ _ absent _ kept
    have distinct : ip ≠ other := by
      rintro rfl
      exact absent (Table.mem_iff_lookup.mpr ⟨block, kept⟩)
    rw [Activation.commit, AList.lookup_insert_ne distinct]
    exact kept
  · exact Table.lookup_retain_eq_some.mpr ⟨found, decide_eq_true active⟩

/-- A transaction keys its new blocks by the addresses of its proposals. -/
theorem buildBatch_keyed {old : BlockSnapshot} {batch : List (IpAddr × PendingBlock)}
    {forceCompaction : Bool} {now : Nat} {wall : Option Machine.Word} {outcome : PersistedBatch}
    (keyed : Keyed old) (batch_keyed : ∀ entry ∈ batch, entry.2.address.clientIp = entry.1)
    (accepted : buildBatch config old batch forceCompaction now wall = .ok outcome)
    {candidate : BlockSnapshot} (written : outcome.snapshot = some candidate) :
    Keyed candidate := by
  obtain ⟨wall, activation, activated, rfl, _⟩ := buildBatch_snapshot accepted written
  refine activate_preserves (fun activation => Keyed activation.candidate) ?_ ?_ ?_ ?_ activated
  · exact fun _ _ kept => kept
  · exact fun _ kept => kept
  · intro activation ip proposal expires sum member _ _ _ kept other block found
    by_cases same : other = ip
    · subst same
      rw [Activation.commit, AList.lookup_insert, Option.some.injEq] at found
      subst found
      have own : proposal.address.clientIp = other := batch_keyed _ member
      exact ⟨rfl, own ▸ proposal.address.normalized⟩
    · rw [Activation.commit, AList.lookup_insert_ne same] at found
      exact kept other block found
  · intro ip block found
    exact keyed ip block (Table.lookup_retain_eq_some.mp found).1

/-! ## Every reachable system -/

/-- The state file of a disk covers the blocks, whatever a crash leaves. -/
def DiskCovers (codec : StateCodec) (config : IpBlockingConfig) (blocks : BlockSnapshot)
    (instant : Nat) (disk : Disk FileName (List UInt8)) : Prop :=
  Safe (Covers codec config blocks instant) disk .state

theorem DiskCovers.mono {blocks : BlockSnapshot} {instant later : Nat}
    (covers : DiskCovers codec config blocks instant disk) (le : instant ≤ later) :
    DiskCovers codec config blocks later disk :=
  Safe.mono covers fun _ covered => covered.mono le

/-- What the manager is about to write keeps the committed blocks on disk, and a snapshot that is
about to be published is on disk. -/
def Phase.Covers (codec : StateCodec) (config : IpBlockingConfig) (durable : BlockSnapshot)
    (instant : Nat) (disk : Disk FileName (List UInt8)) : Phase → Prop
  | .gathered old _ _ => old = durable
  | .writing outcome remaining result =>
      Along (DiskCovers codec config durable instant)
        (fun disk => result = .ok () → ∀ candidate, outcome.snapshot = some candidate →
          DiskCovers codec config candidate instant disk) remaining disk ∧
      ∀ candidate, outcome.snapshot = some candidate → Keyed candidate
  | .publishing outcome => ∀ candidate, outcome.snapshot = some candidate →
      DiskCovers codec config candidate instant disk ∧ Keyed candidate
  | .idle | .consuming _ => True

/-- The invariant of a system: a disabled one holds no blocks, and the disk of an enabled one
covers the committed blocks. -/
structure Durable (codec : StateCodec) (config : IpBlockingConfig) (system : System) : Prop where
  keyed : Keyed system.runtime.durable
  disabled : config.file.enabled = false →
    system.runtime.durable = ∅ ∧ system.phase = .idle
  covered : config.file.enabled = true →
    DiskCovers codec config system.runtime.durable system.clock system.disk
  phase : system.phase.Covers codec config system.runtime.durable system.clock system.disk

theorem Phase.Covers.mono {durable : BlockSnapshot} {instant later : Nat} {phase : Phase}
    (covers : phase.Covers codec config durable instant disk) (le : instant ≤ later) :
    phase.Covers codec config durable later disk := by
  cases phase with
  | idle => trivial
  | gathered => exact covers
  | writing outcome remaining result =>
      refine ⟨covers.1.mono (fun _ covered => covered.mono le) ?_, covers.2⟩
      intro _ _ ends succeeded candidate written
      exact (ends succeeded candidate written).mono le
  | publishing outcome =>
      intro candidate written
      exact ⟨(covers candidate written).1.mono le, (covers candidate written).2⟩
  | consuming => trivial

/-- Steps that leave the committed blocks, the disk and the manager alone keep the invariant. -/
theorem Durable.keep {system next : System} (durable : Durable codec config system)
    (blocks : next.runtime.durable = system.runtime.durable) (phase : next.phase = system.phase)
    (disk : next.disk = system.disk) (later : system.clock ≤ next.clock) :
    Durable codec config next := by
  constructor
  · rw [blocks]
    exact durable.keyed
  · rw [blocks, phase]
    exact durable.disabled
  · intro enabled
    rw [blocks, disk]
    exact (durable.covered enabled).mono later
  · rw [blocks, phase, disk]
    exact durable.phase.mono later

/-- The manager of a disabled system never starts a transaction. -/
theorem Durable.enabled {system : System} (durable : Durable codec config system)
    (busy : system.phase ≠ .idle) : config.file.enabled = true := by
  by_contra disabled
  exact busy (durable.disabled (Bool.eq_false_iff.mpr disabled)).2

/-- The manager of an enabled system may take up a phase that its disk covers. -/
theorem Durable.enter {system next : System} (durable : Durable codec config system)
    (enabled : config.file.enabled = true)
    (blocks : next.runtime.durable = system.runtime.durable) (disk : next.disk = system.disk)
    (later : system.clock ≤ next.clock)
    (phase : next.phase.Covers codec config system.runtime.durable next.clock system.disk) :
    Durable codec config next := by
  constructor
  · rw [blocks]
    exact durable.keyed
  · rw [enabled]
    intro disabled
    cases disabled
  · intro _
    rw [blocks, disk]
    exact (durable.covered enabled).mono later
  · rw [blocks, disk]
    exact phase

theorem keyed_empty : Keyed ∅ := by
  intro ip block found
  cases found

theorem keyed_of_loadRecords {wall : Machine.Word} {monotonic : Nat} {loaded : BlockSnapshot}
    {records : List BlockRecord} (accepted : loadRecords wall monotonic [] ∅ records = .ok loaded) :
    Keyed loaded := by
  obtain ⟨_, _, origin⟩ := loadRecords_origin accepted
  intro ip block found
  rcases origin ip block found with before | ⟨own, record, _, rfl⟩
  · cases before
  · exact ⟨own, normalizeIp_normalizeIp _⟩

/-- What a file is accepted for, it covers. -/
theorem covers_of_loadContent {bytes : List UInt8} {wall : Option Machine.Word} {monotonic : Nat}
    {blocks : BlockSnapshot}
    (accepted : loadContent codec config.file.maxBlockedClientIps bytes wall monotonic =
      .ok blocks) :
    Covers codec config blocks monotonic (some bytes) ∧ Keyed blocks := by
  unfold loadContent at accepted
  split_ifs at accepted with large
  split at accepted
  · cases accepted
  · rename_i file decoded
    obtain ⟨version, records⟩ := file
    split_ifs at accepted with rejected
    simp only [not_or, not_not, not_lt] at rejected
    obtain ⟨rfl, few⟩ := rejected
    split at accepted
    · cases accepted
    · obtain ⟨loadable, _, origin⟩ := loadRecords_origin accepted
      refine ⟨⟨bytes, records, rfl, Nat.le_of_not_lt large, decoded, few, loadable, ?_⟩,
        keyed_of_loadRecords accepted⟩
      intro ip block found _
      rcases origin ip block found with before | origin
      · cases before
      · exact origin.2

theorem durable_of_starts {loaded : BlockSnapshot} {system : System}
    (starts : Starts codec config loaded system) : Durable codec config system := by
  obtain @⟨files, _, monotonic, _, faults, _, _, _, accepted⟩ := starts
  rcases loadBlocks_eq_ok accepted with ⟨disabled, rfl, rfl, rfl⟩ |
    ⟨owned, enabled, rfl, rfl, persisted⟩ | ⟨bytes, enabled, rfl, found, rfl, content⟩
  · refine ⟨keyed_empty, fun _ => ⟨rfl, rfl⟩, ?_, trivial⟩
    intro enabled
    rw [disabled] at enabled
    cases enabled
  · refine ⟨keyed_empty, ?_, ?_, trivial⟩
    · intro _
      exact ⟨rfl, rfl⟩
    · intro _
      have safe : Safe (fun _ => True) (atRest files) FileName.state :=
        (safe_atRest files .state).mono fun _ _ => trivial
      have along : Along _ _
          (persistClientIpBlocklistAtomically codec ⟨none⟩ ∅ monotonic faults).operations
          (atRest files) := persist_along safe fun _ => trivial
      rw [persisted] at along
      obtain ⟨small, written⟩ := along.final rfl
      refine written.mono fun left same => ?_
      rw [same]
      exact covers_stateBytes keyed_empty (Nat.zero_le _) small
  · obtain ⟨covers, keyed⟩ := covers_of_loadContent content
    refine ⟨keyed, ?_, ?_, trivial⟩
    · rw [enabled]
      intro disabled
      cases disabled
    · intro _
      refine (safe_atRest files .state).mono fun left same => ?_
      rw [same, found]
      exact covers

/-- A decided transaction keeps what is committed on disk until it has replaced it. -/
theorem Durable.decide {system : System} (durable : Durable codec config system)
    {batch : List (IpAddr × PendingBlock)} {forceCompaction : Bool} {now written : Nat}
    {wall : Option Machine.Word} {outcome : PersistedBatch} (enabled : config.file.enabled = true)
    (later : system.clock ≤ now) (afterwards : now ≤ written)
    (fits : system.runtime.durable.size ≤ config.file.maxBlockedClientIps)
    (batch_keyed : ∀ entry ∈ batch, entry.2.address.clientIp = entry.1)
    (accepted : buildBatch config system.runtime.durable batch forceCompaction now wall =
      .ok outcome)
    (writer : StateWriter) (faults : WriteFaults) :
    (Phase.decided codec writer outcome written faults).1.Covers codec config
      system.runtime.durable written system.disk := by
  unfold Phase.decided
  split
  · rename_i nothing
    intro candidate snapshot
    rw [nothing] at snapshot
    cases snapshot
  · rename_i candidate snapshot
    have keyed := buildBatch_keyed durable.keyed batch_keyed accepted snapshot
    have covered : DiskCovers codec config system.runtime.durable written system.disk :=
      (durable.covered enabled).mono (later.trans afterwards)
    have candidate_covered (small : (stateBytes codec candidate written).length ≤ maxStateBytes) :
        Covers codec config candidate written (some (stateBytes codec candidate written)) :=
      covers_stateBytes keyed (buildBatch_fits fits accepted snapshot) small
    have kept (ip : IpAddr) (block : ActiveBlock)
        (found : system.runtime.durable.lookup ip = some block)
        (active : written < block.deadline) :
        candidate.lookup ip = some block :=
      buildBatch_keeps accepted snapshot found (afterwards.trans_lt active)
    constructor
    · refine (persist_along covered fun small => (candidate_covered small).older kept).mono
        (fun _ safe => safe) ?_
      intro disk _ ends succeeded other same
      rw [snapshot, Option.some.injEq] at same
      subst same
      obtain ⟨small, left⟩ := ends succeeded
      exact left.mono fun left same => same ▸ candidate_covered small
    · intro other same
      rw [snapshot, Option.some.injEq] at same
      subst same
      exact keyed

theorem Durable.commit {system : System} (durable : Durable codec config system)
    (enabled : config.file.enabled = true) {outcome : PersistedBatch}
    (publishing : system.phase = .publishing outcome) :
    Durable codec config
      { system with
        runtime := system.runtime.commit outcome
        phase := .consuming outcome.consumed } := by
  have phase := durable.phase
  rw [publishing] at phase
  have not_disabled : config.file.enabled ≠ false := by
    rw [enabled]
    simp
  unfold Runtime.commit
  split
  · exact ⟨durable.keyed, fun disabled => absurd disabled not_disabled, durable.covered, trivial⟩
  · rename_i candidate written
    obtain ⟨covered, keyed⟩ := phase candidate written
    exact ⟨keyed, fun disabled => absurd disabled not_disabled, fun _ => covered, trivial⟩

theorem durable_step {loaded : BlockSnapshot} {history : List Violation} {system next : System}
    {violation : Option Violation} (durable : Durable codec config system)
    (bounds : SystemBounds config hash system)
    (justified : Justified config loaded history system)
    (step : Step codec config hash system violation next) : Durable codec config next := by
  have phase := durable.phase
  cases step with
  | observe address rule later =>
      exact durable.keep (Runtime.observe_durable _ _ _ _ _ _) rfl rfl later
  | enqueue waiting => exact durable.keep (Runtime.enqueue_durable _ _ _) rfl rfl le_rfl
  | sweepWindows enabled shard later => exact durable.keep rfl rfl rfl later
  | sweepPending enabled later =>
      exact durable.keep (Runtime.sweepPending_durable _ _) rfl rfl later
  | shutdown => exact durable.keep rfl rfl rfl le_rfl
  | drainPending enabled later => exact durable.keep rfl rfl rfl later
  | gather enabled idle permuted forceCompaction later =>
      exact durable.enter enabled rfl rfl later rfl
  | reject gathered later rejected =>
      exact durable.enter (durable.enabled (by simp [gathered])) rfl rfl later trivial
  | decide gathered later accepted owned afterwards faults =>
      have enabled := durable.enabled (by simp [gathered])
      rw [gathered] at phase
      subst phase
      have batch := justified.phase
      rw [gathered] at batch
      refine durable.enter enabled rfl rfl (later.trans afterwards) ?_
      exact durable.decide enabled later afterwards bounds.runtime.durable
        (fun entry member => (batch.2 entry member).1) accepted _ faults
  | operate writing =>
      have enabled := durable.enabled (by simp [writing])
      rw [writing] at phase
      obtain ⟨⟨_, along⟩, keyed⟩ := phase
      exact ⟨durable.keyed, fun disabled => absurd (enabled.symm.trans disabled) (by simp),
        fun _ => along.now, along, keyed⟩
  | fail writing =>
      exact durable.enter (durable.enabled (by simp [writing])) rfl rfl le_rfl trivial
  | succeed writing =>
      rw [writing] at phase
      refine durable.enter (durable.enabled (by simp [writing])) rfl rfl le_rfl ?_
      intro candidate written
      exact ⟨phase.1.2 rfl candidate written, phase.2 candidate written⟩
  | publish publishing =>
      exact durable.commit (durable.enabled (by simp [publishing])) publishing
  | consume consuming =>
      refine durable.enter (durable.enabled (by simp [consuming]))
        (Runtime.consumePending_durable _ _) rfl le_rfl trivial

theorem durable_run {loaded : BlockSnapshot} {history : List Violation} {system : System}
    (reached : Reaches codec config hash loaded history system) : Durable codec config system := by
  induction reached with
  | start starts => exact durable_of_starts starts
  | step reached step ih => exact durable_step ih (bounds_run reached) (justified_run reached) step

/-! ## After a crash -/

/-- A restart accepts loadable content, and turns away the addresses whose records last. -/
theorem loadBlocks_blocks {restarted : IpBlockingConfig} (enabled : restarted.file.enabled = true)
    {files : FileName → Option (List UInt8)} {bytes : List UInt8} {records : List BlockRecord}
    (found : files .state = some bytes) (small : bytes.length ≤ maxStateBytes)
    (decoded : codec.decode bytes = some ⟨1, records⟩)
    (few : records.length ≤ restarted.file.maxBlockedClientIps) (loadable : Loadable records)
    {record : BlockRecord} (member : record ∈ records) {wall : Machine.Word}
    (lasting : wall.val < record.expiresAtUnixSeconds.val) (monotonic : Nat)
    (faults : WriteFaults) :
    ∃ writer blocks, loadBlocks codec restarted files (some wall) monotonic .none faults =
        ([], .ok (writer, blocks)) ∧
      ∀ address : ResolvedClientAddress, address.clientIp = normalizeIp record.clientIp →
        isClientIpBlocked restarted (.load blocks) address monotonic =
          !allowed restarted address.clientIp := by
  obtain ⟨blocks, accepted, _, active⟩ := loadRecords_accepts loadable wall monotonic ∅
    (fun _ _ => List.not_mem_nil)
  have content : loadContent codec restarted.file.maxBlockedClientIps bytes (some wall) monotonic =
      .ok blocks := by
    simp only [loadContent, if_neg (Nat.not_lt.mpr small), decoded, ne_eq, not_true_eq_false,
      false_or, if_neg (Nat.not_lt.mpr few)]
    exact accepted
  refine ⟨some ⟨none⟩, blocks, ?_, ?_⟩
  · simp [loadBlocks, enabled, loadClientIpBlocklist, LoadFaults.none, found, content, Except.map]
  · intro address same
    obtain ⟨block, blocked, unexpired⟩ := active record member lasting
    have restricted : (Runtime.load blocks).restricts address.clientIp monotonic = true := by
      rw [Runtime.restricts, Runtime.load, same, blocked]
      simp [unexpired]
    rw [isClientIpBlocked, enabled, restricted, Bool.true_and, Bool.and_true]

/-- Whatever a crash leaves of the state file has a record of every committed block that has not
expired, and until that record expires a restart turns its address away again. -/
theorem crash_keeps_blocks {loaded : BlockSnapshot} {history : List Violation} {system : System}
    (reached : Reaches codec config hash loaded history system) {ip : IpAddr} {block : ActiveBlock}
    (committed : system.runtime.durable.lookup ip = some block)
    (active : system.clock < block.deadline) {left : Option (List UInt8)}
    (crashed : left = (system.disk .state).visible ∨ (system.disk .state).survives left) :
    ∃ bytes records record, left = some bytes ∧ codec.decode bytes = some ⟨1, records⟩ ∧
      record ∈ records ∧ normalizeIp record.clientIp = ip ∧
      ∀ (restarted : IpBlockingConfig) (files : FileName → Option (List UInt8))
        (wall : Machine.Word) (monotonic : Nat) (faults : WriteFaults),
        restarted.file.enabled = true →
        restarted.file.maxBlockedClientIps = config.file.maxBlockedClientIps →
        files .state = left → wall.val < record.expiresAtUnixSeconds.val →
        ∃ writer blocks, loadBlocks codec restarted files (some wall) monotonic .none faults =
            ([], .ok (writer, blocks)) ∧
          ∀ address : ResolvedClientAddress, address.clientIp = ip →
            isClientIpBlocked restarted (.load blocks) address monotonic =
              !allowed restarted ip := by
  have durable := durable_run reached
  have enabled : config.file.enabled = true := by
    by_contra disabled
    rw [(durable.disabled (Bool.eq_false_iff.mpr disabled)).1] at committed
    cases committed
  have safe := durable.covered enabled
  have covers : Covers codec config system.runtime.durable system.clock left := by
    rcases crashed with rfl | survived
    · exact safe.visible
    · exact safe.survives left survived
  obtain ⟨bytes, records, rfl, small, decoded, few, loadable, present⟩ := covers
  obtain ⟨record, member, rfl⟩ := present ip block committed active
  refine ⟨bytes, records, record, rfl, decoded, member, rfl, ?_⟩
  intro restarted files wall monotonic faults enabled capacity found lasting
  obtain ⟨writer, blocks, loaded, blocked⟩ := loadBlocks_blocks enabled found small decoded
    (capacity ▸ few) loadable member lasting monotonic faults
  refine ⟨writer, blocks, loaded, fun address same => ?_⟩
  rw [blocked address same, same]

/-! ## An interrupted transaction -/

/-- The record of the client that has crossed its threshold. -/
def otherRecord : BlockRecord :=
  { firstRecord with clientIp := otherClient.clientIp }

theorem otherRecord_valid : otherRecord.Valid := by decide

/-- The blocks of both clients. -/
def crowdedBlocks : BlockSnapshot :=
  firstBlocks.insert otherClient.clientIp
    ⟨otherRecord, 1 + seconds blockSeconds, otherRecord_valid⟩

/-- The transaction that commits the block of that client beside the one from the file. -/
def crowdedOutcome : PersistedBatch where
  snapshot := some crowdedBlocks
  consumed := [otherClient.clientIp]
  activated := [⟨otherClient, .invalidWebsocket, 1, seconds temporarySeconds, Nat.one_ne_zero⟩]

/-- The file that the transaction writes. -/
def crowdedBytes : List UInt8 :=
  stateText.encode ⟨1, [otherRecord, firstRecord]⟩

/-- The crowded system in the middle of its transaction: the new state file is in its place, and the
directory is not synced. -/
def interruptedSystem : System :=
  { crowdedSystem with
    phase := .writing crowdedOutcome [.syncDirectory] (.ok ())
    disk := [Operation.write (.temporary 1) [], .write (.temporary 1) crowdedBytes,
      .sync (.temporary 1), .rename (.temporary 1) .state].foldl apply crowdedSystem.disk
    clock := 1 }

theorem interruptedSystem_reaches : Reaches stateText strictConfig (fun _ => 0) firstBlocks
    [⟨otherClient.clientIp, .invalidWebsocket, 0⟩] interruptedSystem := by
  have accepted : buildBatch strictConfig firstBlocks
      (gather strictConfig
        (crowdedSystem.runtime.pending.entries.map fun entry => (entry.1, entry.2)) 1)
      false 1 (some ⟨0, by decide⟩) = .ok crowdedOutcome := rfl
  have records : activeRecords crowdedBlocks 1 = [otherRecord, firstRecord] :=
    List.mergeSort_of_pairwise (by decide)
  have small : ¬ maxStateBytes < (stateText.encode ⟨1, [otherRecord, firstRecord]⟩).length := by
    decide +kernel
  have gathered := crowdedSystem_reaches.step
    (.gather rfl rfl (List.Perm.refl _) false (Nat.zero_le 1))
  have decided := gathered.step
    (@Step.decide stateText strictConfig (fun _ => 0)
      { crowdedSystem with phase := .gathered _ _ _, clock := _ } _ _ _ rfl _ (le_refl 1) _ _
      accepted _ rfl _ (le_refl 1) (.none 1))
  have written : Phase.decided stateText ⟨none⟩ crowdedOutcome 1 (.none 1) =
      (.writing crowdedOutcome ([.write (.temporary 1) [], .write (.temporary 1) crowdedBytes,
        .sync (.temporary 1), .rename (.temporary 1) .state] ++ [.syncDirectory]) (.ok ()),
        ⟨none⟩) := by
    simp only [Phase.decided, crowdedOutcome, persistClientIpBlocklistAtomically, removeOrphan,
      records]
    rw [if_neg small]
    rfl
  rw [written] at decided
  exact reaches_operations _ _ decided

/-- The crash may undo the rename; the restart then finds the old file and blocks its client. -/
theorem crash_keeps_blocks_interrupted :
    (interruptedSystem.disk .state).visible = some crowdedBytes ∧
      (interruptedSystem.disk .state).survives (firstFiles .state) ∧
      ∃ writer blocks,
        loadBlocks stateText strictConfig firstFiles (some ⟨5, by decide⟩) 7 .none (.none 0) =
          ([], .ok (writer, blocks)) ∧
        isClientIpBlocked strictConfig (.load blocks) directClient 7 = true := by
  have committed : interruptedSystem.runtime.durable.lookup directClient.clientIp =
      some ⟨firstRecord, seconds 86400, by decide⟩ := rfl
  have active : interruptedSystem.clock < seconds 86400 := by decide
  have crashed : (interruptedSystem.disk .state).survives (firstFiles .state) := .inl rfl
  obtain ⟨bytes, records, record, left, decoded, member, _, restart⟩ :=
    crash_keeps_blocks interruptedSystem_reaches committed active (.inr crashed)
  -- The file that is left is the one the system has started with.
  obtain rfl : stateText.encode ⟨1, [firstRecord]⟩ = bytes := Option.some.inj left
  rw [stateText.decode_encode, Option.some.injEq] at decoded
  cases decoded
  obtain rfl := List.mem_singleton.mp member
  obtain ⟨writer, blocks, loaded, blocked⟩ := restart strictConfig firstFiles ⟨5, by decide⟩ 7
    (.none 0) rfl rfl rfl (by decide)
  exact ⟨rfl, crashed, writer, blocks, loaded, blocked directClient rfl⟩

end EdgeGateway.IpBlocking
