import EdgeGateway.IpBlocking.Transaction

/-!
# The drain at shutdown

When the manager shuts down it commits pending blocks, transaction after transaction, until none
is left, a transaction fails or the committed table is full.  No client acts any more.
-/

namespace EdgeGateway.IpBlocking

open CrashDisk IpAddress Security

variable {codec : StateCodec} {config : IpBlockingConfig} {hash : IpAddr → Nat}

/-! ## Rounds -/

/-- Everything one round of the drain meets.  The clock is read anew for every pending block that
the round looks at. -/
structure Round where
  retained : IpAddr → Nat
  order : Table IpAddr PendingBlock → List (IpAddr × PendingBlock)
  permuted : ∀ table, (order table).Perm (table.entries.map fun entry => (entry.1, entry.2))
  gathered : Nat
  decided : Nat
  wall : Option Machine.Word
  written : Nat
  faults : WriteFaults

/-- The transaction of a round. -/
def Round.input (round : Round) (runtime : Runtime) : TransactionInput where
  order := round.order runtime.pending
  forceCompaction := false
  gathered := round.gathered
  decided := round.decided
  wall := round.wall
  written := round.written
  faults := round.faults
  during := []
  afterwards := []

/-- Drop the pending blocks that have expired when the clock is read for them. -/
def Runtime.drainPendingAt (runtime : Runtime) (clock : IpAddr → Nat) : Runtime :=
  { runtime with
    pending := runtime.pending.retain fun ip entry => clock ip < entry.deadline }.publishTemporary

/-- Time passes within a round and from one round to the next. -/
def Timed (clock : Nat) : List Round → Prop
  | [] => True
  | round :: rounds =>
      (∀ ip, clock ≤ round.retained ip ∧ round.retained ip ≤ round.gathered) ∧
        round.gathered ≤ round.decided ∧ round.decided ≤ round.written ∧ Timed round.written rounds

/-- Why the drain ends. -/
inductive DrainExit
  | drained
  | failed (reason : PersistError)
  | full
deriving DecidableEq, Repr

/-- One round of the drain: whether it ends, and what it leaves. -/
def drainRound (codec : StateCodec) (config : IpBlockingConfig) (hash : IpAddr → Nat)
    (round : Round) (writer : Option StateWriter) (runtime : Runtime) :
    Option DrainExit × Runtime × Option StateWriter :=
  let retained := runtime.drainPendingAt round.retained
  if retained.pending.size = 0 then (some .drained, retained, writer)
  else
    let transaction := persistPending codec config hash writer (round.input retained) retained
    match transaction.result with
    | .error reason => (some (.failed reason), transaction.runtime, transaction.writer)
    | .ok () =>
        if config.file.maxBlockedClientIps ≤ transaction.runtime.durable.size then
          (some .full, transaction.runtime, transaction.writer)
        else (none, transaction.runtime, transaction.writer)

/-- How the drain has ended: its last round, and the number of pending blocks that were left at
the beginning of every round. -/
structure Drained where
  exit : DrainExit
  runtime : Runtime
  writer : Option StateWriter
  last : Round
  sizes : List Nat

/-- The drain, for as many rounds as there are. -/
def drain (codec : StateCodec) (config : IpBlockingConfig) (hash : IpAddr → Nat) :
    List Round → Option StateWriter → Runtime → Option Drained
  | [], _, _ => none
  | round :: rounds, writer, runtime =>
      let size := (runtime.drainPendingAt round.retained).pending.size
      match drainRound codec config hash round writer runtime with
      | (some exit, runtime, writer) => some ⟨exit, runtime, writer, round, [size]⟩
      | (none, runtime, writer) =>
          (drain codec config hash rounds writer runtime).map fun drained =>
            { drained with sizes := size :: drained.sizes }

/-! ## What a round does -/

section Round

variable {round : Round} {writer : Option StateWriter} {runtime : Runtime} {ip : IpAddr}
  {entry : PendingBlock}

theorem Runtime.drainPendingAt_eq_some {clock : IpAddr → Nat} :
    (runtime.drainPendingAt clock).pending.lookup ip = some entry ↔
      runtime.pending.lookup ip = some entry ∧ clock ip < entry.deadline := by
  simp only [drainPendingAt, publishTemporary, Table.lookup_retain_eq_some, decide_eq_true_eq]

/-- A round that does not end the drain has committed a batch, and there is room left. -/
structure Continues (codec : StateCodec) (config : IpBlockingConfig) (hash : IpAddr → Nat)
    (round : Round) (writer : Option StateWriter) (runtime : Runtime)
    (transaction : Transaction) : Prop where
  nonempty : runtime.pending.size ≠ 0
  transacted : transaction = persistPending codec config hash writer (round.input runtime) runtime
  succeeded : transaction.result = .ok ()
  room : transaction.runtime.durable.size < config.file.maxBlockedClientIps

/-- A round ends the drain for one of its reasons, or it continues. -/
theorem drainRound_cases (codec : StateCodec) (config : IpBlockingConfig) (hash : IpAddr → Nat)
    (round : Round) (writer : Option StateWriter) (runtime : Runtime) :
    let retained := runtime.drainPendingAt round.retained
    let result := drainRound codec config hash round writer runtime
    (retained.pending.size = 0 ∧ result = (some .drained, retained, writer)) ∨
      (∃ exit left writer, result = (some exit, left, writer) ∧ exit ≠ .drained ∧
        (exit = .full → config.file.maxBlockedClientIps ≤ left.durable.size)) ∨
      ∃ transaction, result = (none, transaction.runtime, transaction.writer) ∧
        Continues codec config hash round writer retained transaction := by
  intro retained result
  simp only [result, drainRound]
  split
  · rename_i empty
    exact .inl ⟨empty, rfl⟩
  · rename_i nonempty
    right
    split
    · exact .inl ⟨_, _, _, rfl, by simp, by simp⟩
    · rename_i succeeded
      split
      · rename_i full
        exact .inl ⟨_, _, _, rfl, by simp, fun _ => full⟩
      · rename_i room
        exact .inr ⟨_, rfl, nonempty, rfl, succeeded, Nat.lt_of_not_le room⟩

/-- A transaction gathers nothing only where everything has expired. -/
theorem gather_eq_nil {order : List (IpAddr × PendingBlock)} {now : Nat}
    (nothing : gather config order now = []) {item : IpAddr × PendingBlock}
    (member : item ∈ order) : item.2.deadline ≤ now := by
  rcases List.take_eq_nil_iff.mp nothing with none_taken | none_left
  · exact absurd none_taken (Nat.ne_of_gt config.bounded.batch.1)
  · have expired := List.filter_eq_nil_iff.mp none_left item member
    simpa using expired

/-- Without clients, a transaction takes from the pending blocks and adds none. -/
theorem Continues.pending {transaction : Transaction}
    (continues : Continues codec config hash round writer runtime transaction) (ip : IpAddr) :
    transaction.runtime.pending.lookup ip =
      if ip ∈ transaction.consumed then none else runtime.pending.lookup ip := by
  obtain ⟨_, transacted, succeeded, _⟩ := continues
  subst transacted
  obtain ⟨_, outcome, _, _, _, left⟩ := persistPending_ok succeeded
  rw [left, Runtime.consumePending_pending]
  simp only [Round.input, List.foldl_nil, Runtime.commit_pending]

/-- A round that continues has settled the batch it gathered. -/
theorem Continues.settles {transaction : Transaction}
    (continues : Continues codec config hash round writer runtime transaction) :
    Settled config round.decided (gather config (round.order runtime.pending) round.gathered)
      transaction.runtime.durable transaction.consumed := by
  obtain ⟨_, transacted, succeeded, _⟩ := continues
  subst transacted
  obtain ⟨outcome, accepted, consumed, _, durable⟩ := persistPending_durable succeeded
  rw [durable, consumed]
  exact (buildBatch_renewed accepted).1

/-- What a round that continues has consumed is committed or allowed. -/
theorem Continues.settled {transaction : Transaction}
    (continues : Continues codec config hash round writer runtime transaction) {ip : IpAddr}
    (listed : ip ∈ transaction.consumed) :
    (∃ block, transaction.runtime.durable.lookup ip = some block ∧
      round.decided < block.deadline) ∨ allowed config ip = true :=
  (continues.settles.settled ip listed).2

/-- A round that continues takes one pending block at least: it is settled, or expired by the time
of the next round. -/
theorem Continues.progress {transaction : Transaction}
    (continues : Continues codec config hash round writer runtime transaction)
    (ordered : round.gathered ≤ round.decided) :
    ∃ ip entry, runtime.pending.lookup ip = some entry ∧
      (transaction.runtime.pending.lookup ip = none ∨ entry.deadline ≤ round.decided) := by
  have settled := continues.settles
  have permuted := round.permuted runtime.pending
  cases batch : gather config (round.order runtime.pending) round.gathered with
  | nil =>
      -- Nothing was gathered, so every pending block has expired.
      obtain ⟨item, member⟩ :=
        List.exists_mem_of_length_pos (Nat.pos_of_ne_zero continues.nonempty)
      have listed : (item.1, item.2) ∈ round.order runtime.pending :=
        permuted.mem_iff.mpr (List.mem_map_of_mem member)
      exact ⟨item.1, item.2, Table.lookup_eq_some_iff.mpr member,
        .inr ((gather_eq_nil batch listed).trans ordered)⟩
  | cons item rest =>
      obtain ⟨ip, entry⟩ := item
      have member : (ip, entry) ∈ gather config (round.order runtime.pending) round.gathered :=
        batch ▸ List.mem_cons_self
      have found := (pending_of_gather permuted member).1
      refine ⟨ip, entry, found, ?_⟩
      by_cases expired : entry.deadline ≤ round.decided
      · exact .inr expired
      · left
        rcases settled.pending ip entry member (Nat.lt_of_not_le expired) with listed | full
        · rw [continues.pending, if_pos listed]
        · exact absurd full (Nat.not_le.mpr continues.room)

/-- A round that continues leaves fewer pending blocks to the next one. -/
theorem Continues.shrinks {transaction : Transaction} {next : Round}
    (continues : Continues codec config hash round writer runtime transaction)
    (ordered : round.gathered ≤ round.decided)
    (later : ∀ ip, round.decided ≤ next.retained ip) :
    (transaction.runtime.drainPendingAt next.retained).pending.size < runtime.pending.size := by
  obtain ⟨ip, entry, present, gone⟩ := continues.progress ordered
  have left : ∀ ip entry,
      (transaction.runtime.drainPendingAt next.retained).pending.lookup ip = some entry →
        runtime.pending.lookup ip = some entry := by
    intro ip entry found
    have kept := (Runtime.drainPendingAt_eq_some.mp found).1
    rw [continues.pending] at kept
    split_ifs at kept
    exact kept
  refine Table.size_lt_of_lookup left present ?_
  rw [Option.eq_none_iff_forall_ne_some]
  intro found lookup
  obtain ⟨kept, lasting⟩ := Runtime.drainPendingAt_eq_some.mp lookup
  have same := left ip found lookup
  rw [present, Option.some.injEq] at same
  subst same
  rcases gone with consumed | expired
  · rw [consumed] at kept
    cases kept
  · exact absurd (expired.trans (later ip)) (Nat.not_le.mpr lasting)

/-! ## What becomes of a pending block -/

/-- Where a block stands that was pending when the drain began: it may have been consumed in favour
of a committed block that expires before it. -/
inductive Standing (config : IpBlockingConfig) (clock : Nat) (start : BlockSnapshot)
    (runtime : Runtime) (ip : IpAddr) (entry : PendingBlock) : Prop
  | pending (found : runtime.pending.lookup ip = some entry)
      (origin : ∀ block, runtime.durable.lookup ip = some block →
        start.lookup ip = some block ∨ entry.deadline ≤ block.deadline)
  | committed (block : ActiveBlock) (found : runtime.durable.lookup ip = some block)
      (lasts : entry.deadline ≤ block.deadline)
  | allowed (listed : IpBlocking.allowed config ip = true)
  | outlives (block : ActiveBlock) (found : start.lookup ip = some block)
      (active : clock < block.deadline) (shorter : block.deadline < entry.deadline)

variable {clock : Nat} {start : BlockSnapshot}

theorem Standing.retain (standing : Standing config clock start runtime ip entry)
    {instant : IpAddr → Nat} (lasting : instant ip < entry.deadline) :
    Standing config clock start (runtime.drainPendingAt instant) ip entry := by
  cases standing with
  | pending found origin =>
      exact .pending (Runtime.drainPendingAt_eq_some.mpr ⟨found, lasting⟩) origin
  | committed block found lasts => exact .committed block found lasts
  | allowed listed => exact .allowed listed
  | outlives block found active shorter => exact .outlives block found active shorter

/-- What a round that continues commits: blocks of before and blocks that it activates. -/
theorem Continues.durable {transaction : Transaction}
    (continues : Continues codec config hash round writer runtime transaction) :
    (∀ ip block, runtime.durable.lookup ip = some block → round.decided < block.deadline →
        transaction.runtime.durable.lookup ip = some block) ∧
      ∀ ip block, transaction.runtime.durable.lookup ip = some block →
        runtime.durable.lookup ip = some block ∨
          round.decided + seconds 86400 ≤ block.deadline := by
  obtain ⟨_, transacted, succeeded, _⟩ := continues
  subst transacted
  obtain ⟨outcome, accepted, _, _, durable⟩ := persistPending_durable succeeded
  obtain ⟨_, ⟨same, _⟩ | ⟨wall, _, renewed⟩⟩ := buildBatch_renewed accepted
  · rw [durable, same]
    exact ⟨fun _ _ found _ => found, fun _ _ found => .inl found⟩
  · rw [durable]
    refine ⟨renewed.kept, ?_⟩
    intro ip block found
    rcases renewed.origin ip block found with before | ⟨_, _, activates⟩
    · exact .inl before.1
    · obtain ⟨_, _, _, fresh_block, same, fresh⟩ := activates
      rw [found, Option.some.injEq] at same
      exact .inr (same ▸ fresh.deadline).ge

/-- A round that continues settles a pending block or leaves it pending. -/
theorem Standing.transact {transaction : Transaction}
    (standing : Standing config clock start runtime ip entry)
    (continues : Continues codec config hash round writer runtime transaction)
    (later : clock ≤ round.decided) (bounded : entry.deadline ≤ clock + seconds 300)
    (lasting : round.decided < entry.deadline) :
    Standing config clock start transaction.runtime ip entry := by
  obtain ⟨kept, origins⟩ := continues.durable
  have day : entry.deadline ≤ round.decided + seconds 86400 := by
    have longer : seconds 300 ≤ seconds 86400 := by decide
    omega
  cases standing with
  | pending found origin =>
      have origin_after : ∀ block, transaction.runtime.durable.lookup ip = some block →
          start.lookup ip = some block ∨ entry.deadline ≤ block.deadline := by
        intro block after
        rcases origins ip block after with before | fresh
        · exact origin block before
        · exact .inr (day.trans fresh)
      by_cases listed : ip ∈ transaction.consumed
      · rcases continues.settled listed with ⟨block, after, active⟩ | known
        · rcases origin_after block after with initial | lasts
          · by_cases shorter : block.deadline < entry.deadline
            · exact .outlives block initial (later.trans_lt active) shorter
            · exact .committed block after (Nat.le_of_not_lt shorter)
          · exact .committed block after lasts
        · exact .allowed known
      · refine .pending ?_ origin_after
        rw [continues.pending, if_neg listed, found]
  | committed block found lasts =>
      exact .committed block (kept ip block found (lasting.trans_le lasts)) lasts
  | allowed listed => exact .allowed listed
  | outlives block found active shorter => exact .outlives block found active shorter

end Round

/-! ## The loop -/

section Loop

variable {rounds : List Round} {writer : Option StateWriter} {runtime : Runtime} {clock : Nat}

/-- The drain ends within one round more than there are pending blocks, and every round leaves
fewer of them to the next one. -/
theorem drain_ends (rounds : List Round) {round : Round} (timed : Timed clock (round :: rounds))
    (enough : (runtime.drainPendingAt round.retained).pending.size ≤ rounds.length) :
    ∃ drained, drain codec config hash (round :: rounds) writer runtime = some drained ∧
      drained.sizes.Pairwise (· > ·) ∧
      (∀ size ∈ drained.sizes, size ≤ (runtime.drainPendingAt round.retained).pending.size) ∧
      (drained.exit = .full →
        config.file.maxBlockedClientIps ≤ drained.runtime.durable.size) := by
  induction rounds generalizing round writer runtime clock with
  | nil =>
      have empty := Nat.le_zero.mp enough
      rcases drainRound_cases codec config hash round writer runtime with
        ⟨_, result⟩ | ⟨_, _, _, result, _, full⟩ | ⟨_, _, continues⟩
      · rw [drain, result]
        exact ⟨_, rfl, List.pairwise_singleton _ _, by simp, fun same => nomatch same⟩
      · rw [drain, result]
        exact ⟨_, rfl, List.pairwise_singleton _ _, by simp, full⟩
      · exact absurd empty continues.nonempty
  | cons next rounds ih =>
      rcases drainRound_cases codec config hash round writer runtime with
        ⟨_, result⟩ | ⟨_, _, _, result, _, full⟩ | ⟨transaction, result, continues⟩
      · rw [drain, result]
        exact ⟨_, rfl, List.pairwise_singleton _ _, by simp, fun same => nomatch same⟩
      · rw [drain, result]
        exact ⟨_, rfl, List.pairwise_singleton _ _, by simp, full⟩
      · obtain ⟨_, gathered, decided, timed⟩ := timed
        have fewer := continues.shrinks gathered fun ip => decided.trans (timed.1 ip).1
        have enough_left : (transaction.runtime.drainPendingAt next.retained).pending.size ≤
            rounds.length := by
          rw [List.length_cons] at enough
          omega
        obtain ⟨drained, ended, decreasing, below, full⟩ : ∃ drained,
            drain codec config hash (next :: rounds) transaction.writer transaction.runtime =
              some drained ∧ _ ∧ _ ∧ _ := ih timed enough_left
        rw [drain, result]
        refine ⟨_, congrArg (Option.map _) ended, ?_, ?_, full⟩
        · refine List.pairwise_cons.mpr ⟨?_, decreasing⟩
          intro size member
          exact (below size member).trans_lt fewer
        · intro size member
          rcases List.mem_cons.mp member with rfl | member
          · exact le_rfl
          · exact (below size member).trans fewer.le

/-- The last round begins after everything that came before. -/
theorem drain_later {drained : Drained} (timed : Timed clock rounds)
    (ended : drain codec config hash rounds writer runtime = some drained) (ip : IpAddr) :
    clock ≤ drained.last.retained ip := by
  induction rounds generalizing writer runtime clock drained with
  | nil => cases ended
  | cons round rounds ih =>
      obtain ⟨instants, gathered, decided, timed⟩ := timed
      rw [drain] at ended
      split at ended
      · cases ended
        exact (instants ip).1
      · obtain ⟨rest, tail, rfl⟩ := Option.map_eq_some_iff.mp ended
        have later := ih timed tail
        have first := instants ip
        dsimp only
        omega

/-- A pending block that has not expired by the last round is settled when the drain ends without
an error and with room left. -/
theorem drain_stands {drained : Drained} {now : Nat} {start : BlockSnapshot} {ip : IpAddr}
    {entry : PendingBlock} (timed : Timed now rounds)
    (ended : drain codec config hash rounds writer runtime = some drained)
    (later : clock ≤ now) (bounded : entry.deadline ≤ clock + seconds 300)
    (lasting : drained.last.retained ip < entry.deadline)
    (standing : Standing config clock start runtime ip entry) (settled : drained.exit = .drained) :
    drained.runtime.pending.size = 0 ∧
      Standing config clock start drained.runtime ip entry := by
  induction rounds generalizing writer runtime now drained with
  | nil => cases ended
  | cons round rounds ih =>
      obtain ⟨instants, gathered, decided, timed⟩ := timed
      rw [drain] at ended
      rcases drainRound_cases codec config hash round writer runtime with
        ⟨empty, result⟩ | ⟨exit, left, _, result, other, _⟩ | ⟨transaction, result, continues⟩
      · rw [result] at ended
        cases ended
        exact ⟨empty, standing.retain lasting⟩
      · rw [result] at ended
        cases ended
        exact absurd settled other
      · rw [result] at ended
        obtain ⟨rest, tail, rfl⟩ := Option.map_eq_some_iff.mp ended
        have first := instants ip
        have last := drain_later timed tail ip
        dsimp only at lasting settled ⊢
        have before : round.retained ip < entry.deadline := by omega
        have retained := standing.retain before
        have transacted := retained.transact continues (by omega) bounded (by omega)
        exact ih timed tail (by omega) lasting transacted settled

/-- The drain ends after finitely many rounds, each with fewer pending blocks than the one before.
When it has neither failed nor filled the committed table, every block that was pending and has not
expired is committed or allowed, unless it was consumed in favour of a committed block that its
client had from the start and that expires first. -/
theorem drain_settles {loaded : BlockSnapshot} {history : List Violation} {system : System}
    (reached : Reaches codec config hash loaded history system) {rounds : List Round}
    (timed : Timed system.clock rounds) (enough : system.runtime.pending.size < rounds.length) :
    ∃ drained, drain codec config hash rounds system.writer system.runtime = some drained ∧
      drained.sizes.Pairwise (· > ·) ∧
      (∀ size ∈ drained.sizes, size ≤ system.runtime.pending.size) ∧
      (drained.exit = .full →
        config.file.maxBlockedClientIps ≤ drained.runtime.durable.size) ∧
      (drained.exit = .drained → ∀ ip entry, system.runtime.pending.lookup ip = some entry →
        drained.last.retained ip < entry.deadline →
          ip ∈ drained.runtime.durable ∨ allowed config ip = true ∨
            ∃ block, system.runtime.durable.lookup ip = some block ∧
              system.clock < block.deadline ∧ block.deadline < entry.deadline) := by
  cases rounds with
  | nil => cases enough
  | cons round rounds =>
      have fewer : (system.runtime.drainPendingAt round.retained).pending.size ≤
          system.runtime.pending.size := Table.size_retain_le _ _
      have enough_left := fewer.trans (Nat.le_of_lt_succ enough)
      obtain ⟨drained, ended, decreasing, below, full⟩ : ∃ drained,
          drain codec config hash (round :: rounds) system.writer system.runtime =
            some drained ∧ _ ∧ _ ∧ _ := drain_ends rounds timed enough_left
      refine ⟨drained, ended, decreasing, fun size member => (below size member).trans fewer, full,
        ?_⟩
      intro settled ip entry found lasting
      obtain ⟨_, instant, _, past, deadline⟩ := (justified_run reached).pending ip entry found
      have bounded : entry.deadline ≤ system.clock + seconds 300 :=
        deadline.le.trans (Nat.add_le_add_right past _)
      obtain ⟨empty, standing⟩ := drain_stands timed ended le_rfl bounded lasting
        (.pending found fun _ => .inl) settled
      cases standing with
      | pending found => exact nomatch (Table.lookup_of_size_zero empty ip).symm.trans found
      | committed block found => exact .inl (Table.mem_iff_lookup.mpr ⟨block, found⟩)
      | allowed listed => exact .inr (.inl listed)
      | outlives block found active shorter => exact .inr (.inr ⟨block, found, active, shorter⟩)

end Loop

/-- A round at one instant that takes the pending blocks from the end of the table, and in which
every step succeeds. -/
def Round.quiet (now : Nat) (wall : Machine.Word) : Round where
  retained := fun _ => now
  order := fun table => (table.entries.map fun entry => (entry.1, entry.2)).reverse
  permuted := fun _ => List.reverse_perm _
  gathered := now
  decided := now
  wall := some wall
  written := now
  faults := .none now

/-- The drain settles the first crossing of a client. -/
theorem drain_settles_first :
    ∃ drained, drain stateText strictConfig (fun _ => 0)
        [.quiet 1 ⟨0, by decide⟩, .quiet 2 ⟨0, by decide⟩] crossedSystem.writer
          crossedSystem.runtime = some drained ∧
      drained.sizes.Pairwise (· > ·) ∧ ∀ size ∈ drained.sizes, size ≤ 1 := by
  have timed : Timed crossedSystem.clock [.quiet 1 ⟨0, by decide⟩, .quiet 2 ⟨0, by decide⟩] := by
    simp [Timed, Round.quiet, crossedSystem, freshSystem]
  obtain ⟨drained, ended, decreasing, below, _⟩ :=
    drain_settles crossedSystem_reaches timed (by decide)
  exact ⟨drained, ended, decreasing, below⟩

/-! ## A block that expires during the drain -/

/-- The strict configuration with transactions of one pending block each. -/
def singleConfig : IpBlockingConfig where
  file := { enabled := true, persistenceBatchSize := 1, thresholds := ⟨1, 1, 1, 1⟩ }
  allow := []
  bounded := by decide

/-- Another client with an address of its own. -/
def secondClient : ResolvedClientAddress where
  peer := ⟨.v4 0xC0000208#32, 50000, 0⟩
  clientIp := .v4 0xC0000208#32
  clientIpSource := "direct_peer"
  trustedProxy := false
  normalized := rfl

/-- The runtime after a crossing, at the time zero. -/
def firstCrossing : Runtime :=
  (Runtime.load ∅).recordClientProtocolViolation singleConfig (fun _ => 0) directClient
    .invalidWebsocket 0

/-- A transaction whose write takes almost a day, while its client goes on. -/
def slowWrite : TransactionInput :=
  { TransactionInput.quiet firstCrossing 0 ⟨0, Machine.wordSize_pos⟩ with
    during := [.observe directClient .invalidWebsocket (seconds 86200)] }

/-- The transaction of the slow write. -/
def slowTransaction : Transaction :=
  persistPending stateText singleConfig (fun _ => 0) (some ⟨none⟩) slowWrite firstCrossing

/-- The crossing of the client during the slow write. -/
def lateCrossing : Crossing where
  address := directClient
  rule := .invalidWebsocket
  count := 1
  now := seconds 86200
  counted := Nat.one_ne_zero

/-- The system at shutdown: the slow write has just been published, and the same client and
another one have crossed a threshold. -/
def lateSystem (disk : Disk FileName (List UInt8)) (committed : List IpAddr) : System where
  runtime :=
    { (slowTransaction.runtime.enqueue singleConfig lateCrossing).recordClientProtocolViolation
        singleConfig (fun _ => 0) secondClient .invalidWebsocket (seconds 86200) with
      accepting := false }
  crossings := []
  phase := .idle
  disk
  writer := slowTransaction.writer
  clock := seconds 86200
  committed

theorem lateSystem_reaches : ∃ history disk committed,
    Reaches stateText singleConfig (fun _ => 0) ∅ history (lateSystem disk committed) := by
  have fresh : Reaches stateText singleConfig (fun _ => 0) ∅ [] freshSystem :=
    .start (freshSystem_starts_enabled rfl)
  have crossed := reaches_record fresh directClient .invalidWebsocket (Nat.le_refl 0)
  have during : Clients singleConfig (fun _ => 0)
      { freshSystem with runtime := firstCrossing, clock := 0 } slowWrite.during
      [⟨directClient.clientIp, .invalidWebsocket, seconds 86200⟩] _ :=
    .observe directClient .invalidWebsocket (Nat.zero_le _) .nil
  obtain ⟨disk, committed, written⟩ : ∃ disk committed,
      Reaches stateText singleConfig (fun _ => 0) ∅ _
        { runtime := slowTransaction.runtime
          crossings := [lateCrossing]
          phase := .idle
          disk
          writer := slowTransaction.writer
          clock := seconds 86200
          committed } :=
    persistPending_reaches slowWrite crossed rfl rfl (List.Perm.refl _) le_rfl le_rfl le_rfl
      (by decide +kernel) during rfl
  have first := written.step (.enqueue (@List.nil_append _ _).symm)
  have second := reaches_record first secondClient .invalidWebsocket (Nat.le_refl (seconds 86200))
  exact ⟨_, disk, committed, second.step .shutdown⟩

/-- A client whose block expires during the drain is free although a later crossing of it was
pending. -/
theorem drain_drops_block : ∃ history system rounds drained,
    Reaches stateText singleConfig (fun _ => 0) ∅ history system ∧ system.phase = .idle ∧
      system.crossings = [] ∧ Timed system.clock rounds ∧
      drain stateText singleConfig (fun _ => 0) rounds system.writer system.runtime = some drained ∧
      drained.exit = .drained ∧
      drained.runtime.durable.size < singleConfig.file.maxBlockedClientIps ∧
      ∃ ip entry, system.runtime.pending.lookup ip = some entry ∧
        drained.last.retained ip < entry.deadline ∧ ip ∉ drained.runtime.durable ∧
        allowed singleConfig ip = false := by
  obtain ⟨history, disk, committed, reached⟩ := lateSystem_reaches
  have ends : (drain stateText singleConfig (fun _ => 0)
      [.quiet (seconds 86399) ⟨86399, by decide⟩, .quiet (seconds 86401) ⟨86401, by decide⟩,
        .quiet (seconds 86402) ⟨86402, by decide⟩] slowTransaction.writer
      (lateSystem (atRest fun _ => none) []).runtime).any (fun drained =>
      drained.exit = .drained ∧
        drained.runtime.durable.size < singleConfig.file.maxBlockedClientIps ∧
        drained.last.retained directClient.clientIp < seconds 86500 ∧
        (drained.runtime.durable.lookup directClient.clientIp).isNone = true) = true := by
    decide +kernel
  obtain ⟨drained, ended, facts⟩ := (Option.any_eq_true _ _).mp ends
  simp only [decide_eq_true_eq] at facts
  obtain ⟨exit, room, lasting, absent⟩ := facts
  have pending : ((lateSystem (atRest fun _ => none) []).runtime.pending.lookup
      directClient.clientIp).map PendingBlock.deadline = some (seconds 86500) := by
    decide +kernel
  obtain ⟨entry, found, deadline⟩ := Option.map_eq_some_iff.mp pending
  refine ⟨history, _, _, drained, reached, rfl, rfl, ?_, ended, exit, room, directClient.clientIp,
    entry, found, deadline ▸ lasting, ?_, rfl⟩
  · simp [Timed, Round.quiet, lateSystem, seconds]
  · rw [← AList.lookup_eq_none]
    exact Option.isNone_iff_eq_none.mp absent

end EdgeGateway.IpBlocking
