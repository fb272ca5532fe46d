import EdgeGateway.IpBlocking.Bounds

/-!
# Every block is justified

A client is turned away only if its block was loaded, or if enough of its own violations of one
rule fell within the period of that rule.  The invariant ties every counter to the violations
recorded so far, and carries that justification through the pending blocks, the transactions of
the manager and the committed snapshot.
-/

namespace EdgeGateway.IpBlocking

open CrashDisk IpAddress Security

variable {codec : StateCodec} {config : IpBlockingConfig} {hash : IpAddr → Nat}
  {loaded : BlockSnapshot}

/-! ## Violations on record -/

/-- Number of violations of a rule by an address between two instants. -/
def recorded (history : List Violation) (ip : IpAddr) (rule : ViolationRule)
    (since instant : Nat) : Nat :=
  history.countP fun violation =>
    violation.clientIp = ip ∧ violation.rule = rule ∧
      since ≤ violation.now ∧ violation.now ≤ instant

/-- Enough violations of one rule fell within its period, which ended at the instant. -/
def Crossed (config : IpBlockingConfig) (history : List Violation) (ip : IpAddr)
    (instant : Nat) : Prop :=
  ∃ rule since, since ≤ instant ∧ instant - since < rule.window ∧
    threshold config rule ≤ recorded history ip rule since instant

theorem recorded_append (history later : List Violation) (ip : IpAddr) (rule : ViolationRule)
    (since instant : Nat) :
    recorded (history ++ later) ip rule since instant =
      recorded history ip rule since instant + recorded later ip rule since instant :=
  List.countP_append

theorem recorded_le (history : List Violation) (ip : IpAddr) (rule : ViolationRule) (since : Nat)
    {instant later : Nat} (le : instant ≤ later) :
    recorded history ip rule since instant ≤ recorded history ip rule since later := by
  apply List.countP_mono_left
  intro violation _ counted
  simp only [decide_eq_true_eq] at counted ⊢
  exact ⟨counted.1, counted.2.1, counted.2.2.1, counted.2.2.2.trans le⟩

theorem recorded_mono (history more : List Violation) (ip : IpAddr) (rule : ViolationRule)
    (since : Nat) {instant later : Nat} (le : instant ≤ later) :
    recorded history ip rule since instant ≤ recorded (history ++ more) ip rule since later := by
  rw [recorded_append]
  exact (recorded_le history ip rule since le).trans (Nat.le_add_right _ _)

theorem Crossed.append {history : List Violation} {ip : IpAddr} {instant : Nat}
    (crossed : Crossed config history ip instant) (later : List Violation) :
    Crossed config (history ++ later) ip instant := by
  obtain ⟨rule, since, ordered, short, enough⟩ := crossed
  exact ⟨rule, since, ordered, short,
    enough.trans (recorded_mono history later ip rule since le_rfl)⟩

/-- A violation adds itself to every count that it falls into. -/
theorem recorded_succ {history : List Violation} {ip : IpAddr} {rule : ViolationRule}
    {since clock now : Nat} (started : since ≤ now) (later : clock ≤ now) :
    recorded history ip rule since clock + 1 ≤
      recorded (history ++ [⟨ip, rule, now⟩]) ip rule since now := by
  have itself : recorded [⟨ip, rule, now⟩] ip rule since now = 1 := by
    simp [recorded, started]
  rw [recorded_append]
  exact Nat.add_le_add (recorded_le history ip rule since later) itself.ge

/-! ## Counters -/

/-- A counter counts violations that are on record. -/
def CounterJustified (history : List Violation) (clock : Nat) (ip : IpAddr) (rule : ViolationRule)
    (counter : RuleWindow) : Prop :=
  counter.since ≤ clock ∧ counter.count ≤ recorded history ip rule counter.since clock

theorem CounterJustified.mono {history : List Violation} {clock later : Nat} {ip : IpAddr}
    {rule : ViolationRule} {counter : RuleWindow}
    (justified : CounterJustified history clock ip rule counter) (le : clock ≤ later)
    (more : List Violation) : CounterJustified (history ++ more) later ip rule counter :=
  ⟨justified.1.trans le, justified.2.trans (recorded_mono history more ip rule _ le)⟩

/-- A violation either continues the period of its rule or starts a new one. -/
theorem ClientWindow.count_rule (window : ClientWindow) (rule : ViolationRule) (now : Nat) :
    (now - ((window.count rule now).rules rule).since < rule.window) ∧
      ((((window.count rule now).rules rule).since = now ∧
          ((window.count rule now).rules rule).count = 1) ∨
        (((window.count rule now).rules rule).since = (window.rules rule).since ∧
          ((window.count rule now).rules rule).count ≤ (window.rules rule).count + 1)) := by
  have positive : 0 < rule.window := by cases rule <;> decide
  simp only [count, Function.update_self, saturatingIncrement]
  split_ifs with passed
  · exact ⟨by simpa using positive, .inl ⟨rfl, rfl⟩⟩
  · exact ⟨Nat.lt_of_not_le passed, .inr ⟨rfl, Nat.min_le_left _ _⟩⟩

theorem ClientWindow.count_other (window : ClientWindow) {rule other : ViolationRule}
    (distinct : other ≠ rule) (now : Nat) :
    (window.count rule now).rules other = window.rules other :=
  Function.update_of_ne distinct _ _

/-- The counters of a client after one more violation, which is now on record. -/
theorem justified_count {history : List Violation} {clock now : Nat} {ip : IpAddr}
    {window : ClientWindow} (rule : ViolationRule) (later : clock ≤ now)
    (justified : ∀ rule, CounterJustified history clock ip rule (window.rules rule)) :
    ∀ other, CounterJustified (history ++ [⟨ip, rule, now⟩]) now ip other
      ((window.count rule now).rules other) := by
  intro other
  by_cases same : other = rule
  · subst same
    obtain ⟨_, ⟨since, count⟩ | ⟨since, count⟩⟩ := window.count_rule other now
    · rw [CounterJustified, since, count]
      exact ⟨le_rfl, (Nat.le_add_left _ _).trans (recorded_succ le_rfl later)⟩
    · obtain ⟨started, counted⟩ := justified other
      rw [CounterJustified, since]
      exact ⟨started.trans later, count.trans ((Nat.add_le_add_right counted 1).trans
        (recorded_succ (started.trans later) later))⟩
  · rw [window.count_other same]
    exact (justified other).mono later _

/-! ## Blocks -/

/-- A pending block restricts its own address for five minutes after a crossing. -/
def PendingJustified (config : IpBlockingConfig) (history : List Violation) (clock : Nat)
    (ip : IpAddr) (entry : PendingBlock) : Prop :=
  entry.address.clientIp = ip ∧ ∃ instant, Crossed config history ip instant ∧ instant ≤ clock ∧
    entry.deadline = instant + seconds temporarySeconds

/-- A committed block was loaded, or a crossing led to it and its address is on the list. -/
def BlockJustified (config : IpBlockingConfig) (loaded : BlockSnapshot)
    (history : List Violation) (clock : Nat) (committed : List IpAddr) (ip : IpAddr)
    (block : ActiveBlock) : Prop :=
  loaded.lookup ip = some block ∨
    (ip ∈ committed ∧ ∃ instant, Crossed config history ip instant ∧ instant ≤ clock ∧
      block.deadline < instant + seconds temporarySeconds + seconds blockSeconds)

/-- All blocks of a snapshot are justified. -/
def SnapshotJustified (config : IpBlockingConfig) (loaded : BlockSnapshot)
    (history : List Violation) (clock : Nat) (committed : List IpAddr)
    (snapshot : BlockSnapshot) : Prop :=
  ∀ ip block, snapshot.lookup ip = some block →
    BlockJustified config loaded history clock committed ip block

theorem PendingJustified.mono {history : List Violation} {clock later : Nat} {ip : IpAddr}
    {entry : PendingBlock} (justified : PendingJustified config history clock ip entry)
    (le : clock ≤ later) (more : List Violation) :
    PendingJustified config (history ++ more) later ip entry := by
  obtain ⟨same, instant, crossed, past, deadline⟩ := justified
  exact ⟨same, instant, crossed.append more, past.trans le, deadline⟩

theorem SnapshotJustified.mono {history : List Violation} {clock later : Nat}
    {committed : List IpAddr} {snapshot : BlockSnapshot}
    (justified : SnapshotJustified config loaded history clock committed snapshot)
    (le : clock ≤ later) (more : List Violation) :
    SnapshotJustified config loaded (history ++ more) later committed snapshot := by
  intro ip block found
  rcases justified ip block found with initial | ⟨member, instant, crossed, past, deadline⟩
  · exact .inl initial
  · exact .inr ⟨member, instant, crossed.append more, past.trans le, deadline⟩

/-- What the manager holds is justified; a snapshot that is being written may contain the blocks
that its transaction activates. -/
def Phase.Justified (config : IpBlockingConfig) (loaded : BlockSnapshot)
    (history : List Violation) (clock : Nat) (committed : List IpAddr) : Phase → Prop
  | .gathered old batch _ =>
      SnapshotJustified config loaded history clock committed old ∧
        ∀ entry ∈ batch, PendingJustified config history clock entry.1 entry.2
  | .writing outcome _ _ => ∀ candidate, outcome.snapshot = some candidate →
      SnapshotJustified config loaded history clock
        (outcome.activated.map (·.address.clientIp) ++ committed) candidate
  | .publishing outcome => ∀ candidate, outcome.snapshot = some candidate →
      SnapshotJustified config loaded history clock committed candidate
  | .idle | .consuming _ => True

theorem Phase.Justified.mono {history : List Violation} {clock later : Nat}
    {committed : List IpAddr} {phase : Phase}
    (justified : phase.Justified config loaded history clock committed) (le : clock ≤ later)
    (more : List Violation) : phase.Justified config loaded (history ++ more) later committed := by
  cases phase with
  | idle => trivial
  | gathered old batch forceCompaction =>
      exact ⟨justified.1.mono le more, fun entry member => (justified.2 entry member).mono le more⟩
  | writing outcome remaining result =>
      exact fun candidate written => (justified candidate written).mono le more
  | publishing outcome =>
      exact fun candidate written => (justified candidate written).mono le more
  | consuming consumed => trivial

/-- Everything a transaction commits is justified, as its proposals have not expired. -/
theorem buildBatch_justified {history : List Violation} {clock now : Nat}
    {committed : List IpAddr} {old : BlockSnapshot} {batch : List (IpAddr × PendingBlock)}
    {forceCompaction : Bool} {wall : Option Machine.Word} {outcome : PersistedBatch}
    (old_justified : SnapshotJustified config loaded history clock committed old)
    (batch_justified : ∀ entry ∈ batch, PendingJustified config history clock entry.1 entry.2)
    (accepted : buildBatch config old batch forceCompaction now wall = .ok outcome)
    {candidate : BlockSnapshot} (written : outcome.snapshot = some candidate) :
    SnapshotJustified config loaded history clock
      (outcome.activated.map (·.address.clientIp) ++ committed) candidate := by
  obtain ⟨wall, activation, activated, rfl, same⟩ := buildBatch_snapshot accepted written
  rw [same]
  refine activate_preserves
    (fun activation => SnapshotJustified config loaded history clock
      (activation.activated.map (·.address.clientIp) ++ committed) activation.candidate)
    ?_ ?_ ?_ ?_ activated
  · exact fun _ _ justified => justified
  · exact fun _ justified => justified
  · intro activation ip proposal expires sum member unexpired _ _ justified other block found
    obtain ⟨own, instant, crossed, past, deadline⟩ := batch_justified _ member
    dsimp only at own
    by_cases same_ip : other = ip
    · subst same_ip
      simp only [Activation.commit, AList.lookup_insert, Option.some.injEq] at found
      subst found
      refine .inr ⟨by simp [Activation.commit, own], instant, crossed, past, ?_⟩
      rw [deadline] at unexpired
      exact Nat.add_lt_add_right unexpired _
    · simp only [Activation.commit, AList.lookup_insert_ne same_ip] at found
      rcases justified other block found with initial | ⟨listed, crossing⟩
      · exact .inl initial
      · refine .inr ⟨?_, crossing⟩
        simp only [Activation.commit, List.map_append, List.mem_append] at listed ⊢
        tauto
  · intro ip block found
    exact old_justified ip block (Table.lookup_retain_eq_some.mp found).1

/-! ## Every reachable system -/

/-- The invariant of a system and the violations recorded so far. -/
structure Justified (config : IpBlockingConfig) (loaded : BlockSnapshot)
    (history : List Violation) (system : System) : Prop where
  windows : ∀ shard ip window, (system.runtime.windows shard).lookup ip = some window →
    ∀ rule, CounterJustified history system.clock ip rule (window.rules rule)
  crossings : ∀ crossing ∈ system.crossings,
    Crossed config history crossing.address.clientIp crossing.now ∧ crossing.now ≤ system.clock
  pending : ∀ ip entry, system.runtime.pending.lookup ip = some entry →
    PendingJustified config history system.clock ip entry
  durable : SnapshotJustified config loaded history system.clock system.committed
    system.runtime.durable
  phase : system.phase.Justified config loaded history system.clock system.committed

/-- Time may pass, and more violations may be recorded, without any change to the system. -/
theorem Justified.later {history : List Violation} {system : System}
    (justified : Justified config loaded history system) {now : Nat}
    (later : system.clock ≤ now) (more : List Violation) :
    Justified config loaded (history ++ more) { system with clock := now } where
  windows shard ip window found rule :=
    (justified.windows shard ip window found rule).mono later more
  crossings crossing member :=
    ⟨(justified.crossings crossing member).1.append more,
      (justified.crossings crossing member).2.trans later⟩
  pending ip entry found := (justified.pending ip entry found).mono later more
  durable := justified.durable.mono later more
  phase := justified.phase.mono later more

theorem Justified.advance {history : List Violation} {system : System}
    (justified : Justified config loaded history system) {now : Nat}
    (later : system.clock ≤ now) :
    Justified config loaded history { system with clock := now } := by
  simpa using justified.later later []

theorem Justified.observe {history : List Violation} {system : System}
    (justified : Justified config loaded history system) (address : ResolvedClientAddress)
    (rule : ViolationRule) {now : Nat} (later : system.clock ≤ now) :
    Justified config loaded (history ++ [⟨address.clientIp, rule, now⟩])
      { system with
        runtime := (system.runtime.observe config hash address rule now).1
        crossings := (system.runtime.observe config hash address rule now).2.toList ++
          system.crossings
        clock := now } := by
  have advanced := justified.later later [⟨address.clientIp, rule, now⟩]
  rcases system.runtime.observe_cases config hash address rule now with
    same | ⟨crossing, _, same, reached⟩
  · rw [same]
    exact advanced
  · have counted : ∀ other, CounterJustified (history ++ [⟨address.clientIp, rule, now⟩]) now
        address.clientIp other ((system.runtime.counted hash address.clientIp rule now).rules
          other) := by
      cases found : (system.runtime.windows (shardIndex hash address.clientIp)).lookup
          address.clientIp with
      | none =>
          rw [Runtime.counted, found]
          exact justified_count rule le_rfl fun _ => ⟨le_rfl, Nat.zero_le _⟩
      | some window =>
          rw [Runtime.counted, found]
          exact justified_count rule later (justified.windows _ _ window found)
    rw [same]
    refine ⟨?_, ?_, advanced.pending, advanced.durable, advanced.phase⟩
    · intro shard ip window found other
      by_cases updated : shard = shardIndex hash address.clientIp
      · subst updated
        rw [Runtime.setShard_same] at found
        by_cases own : ip = address.clientIp
        · subst own
          rw [AList.lookup_insert, Option.some.injEq] at found
          subst found
          exact counted other
        · rw [AList.lookup_insert_ne own] at found
          exact advanced.windows _ ip window found other
      · rw [Runtime.setShard_other _ _ updated] at found
        exact advanced.windows shard ip window found other
    · intro found member
      rcases List.mem_append.mp member with member | member
      · obtain ⟨rfl, rfl, enough⟩ := reached found (Option.mem_toList.mp member)
        obtain ⟨started, count⟩ := counted rule
        have short := (((system.runtime.windows (shardIndex hash found.address.clientIp)).lookup
          found.address.clientIp).getD (.fresh found.now)).count_rule rule found.now
        exact ⟨⟨rule, _, started, short.1, enough.trans count⟩, le_rfl⟩
      · exact advanced.crossings found member

/-- A change of the runtime that brings no new entries keeps the invariant. -/
theorem Justified.restrict {history : List Violation} {system : System} {runtime : Runtime}
    (justified : Justified config loaded history system)
    (windows : ∀ shard ip window, (runtime.windows shard).lookup ip = some window →
      (system.runtime.windows shard).lookup ip = some window)
    (pending : ∀ ip entry, runtime.pending.lookup ip = some entry →
      system.runtime.pending.lookup ip = some entry)
    (durable : runtime.durable = system.runtime.durable) :
    Justified config loaded history { system with runtime } :=
  ⟨fun shard ip window found => justified.windows shard ip window (windows shard ip window found),
    justified.crossings,
    fun ip entry found => justified.pending ip entry (pending ip entry found),
    durable ▸ justified.durable, justified.phase⟩

theorem Justified.enqueue {history : List Violation} {system : System}
    (justified : Justified config loaded history system) {before after : List Crossing}
    {crossing : Crossing} (waiting : system.crossings = before ++ crossing :: after) :
    Justified config loaded history
      { system with
        runtime := system.runtime.enqueue config crossing
        crossings := before ++ after } := by
  have fewer : ∀ other ∈ before ++ after, other ∈ system.crossings := by
    intro other member
    rw [waiting]
    simp only [List.mem_append, List.mem_cons] at member ⊢
    tauto
  have crossings : ∀ other ∈ before ++ after,
      Crossed config history other.address.clientIp other.now ∧ other.now ≤ system.clock :=
    fun other member => justified.crossings other (fewer other member)
  have own := justified.crossings crossing (by simp [waiting])
  unfold Runtime.enqueue
  dsimp only
  split_ifs with known full
  · exact { justified with crossings }
  · exact { justified with crossings }
  · refine ⟨justified.windows, crossings, ?_, justified.durable, justified.phase⟩
    intro ip entry found
    simp only [Runtime.publishTemporary] at found
    by_cases same : ip = crossing.address.clientIp
    · subst same
      rw [AList.lookup_insert, Option.some.injEq] at found
      subst found
      exact ⟨rfl, crossing.now, own.1, own.2, rfl⟩
    · rw [AList.lookup_insert_ne same] at found
      exact justified.pending ip entry found

theorem gather_justified {history : List Violation} {system : System}
    (justified : Justified config loaded history system) {order : List (IpAddr × PendingBlock)}
    (permuted : order.Perm (system.runtime.pending.entries.map fun entry => (entry.1, entry.2)))
    (now : Nat) : ∀ entry ∈ gather config order now,
      PendingJustified config history system.clock entry.1 entry.2 := by
  intro entry member
  have ordered : entry ∈ order := (List.mem_filter.mp (List.mem_of_mem_take member)).1
  obtain ⟨original, present, rfl⟩ := List.mem_map.mp (permuted.mem_iff.mp ordered)
  exact justified.pending _ _ (Table.lookup_eq_some_iff.mpr present)

theorem Justified.sweepWindows {history : List Violation} {system : System}
    (justified : Justified config loaded history system) (shard : Fin shards) (now : Nat) :
    Justified config loaded history
      { system with runtime := system.runtime.sweepWindows shard now } := by
  refine justified.restrict ?_ (fun _ _ found => found) rfl
  intro other ip window found
  by_cases same : other = shard
  · subst same
    rw [Runtime.sweepWindows, Runtime.setShard_same] at found
    exact (Table.lookup_retain_eq_some.mp found).1
  · rwa [Runtime.sweepWindows, Runtime.setShard_other _ _ same] at found

theorem Justified.drainPending {history : List Violation} {system : System}
    (justified : Justified config loaded history system) (now : Nat) :
    Justified config loaded history
      { system with runtime := system.runtime.drainPending now } :=
  justified.restrict (fun _ _ _ found => found)
    (fun _ _ found => (Table.lookup_retain_eq_some.mp found).1) rfl

theorem Justified.sweepPending {history : List Violation} {system : System}
    (justified : Justified config loaded history system) (now : Nat) :
    Justified config loaded history
      { system with runtime := system.runtime.sweepPending now } := by
  unfold Runtime.sweepPending
  dsimp only
  split_ifs
  · exact justified.drainPending now
  · exact justified.restrict (fun _ _ _ found => found)
      (fun _ _ found => (Table.lookup_retain_eq_some.mp found).1) rfl

theorem Justified.consumePending {history : List Violation} {system : System}
    (justified : Justified config loaded history system) (consumed : List IpAddr) :
    Justified config loaded history
      { system with runtime := system.runtime.consumePending consumed } := by
  unfold Runtime.consumePending
  split_ifs
  · exact justified
  · refine justified.restrict (fun _ _ _ found => found) ?_ rfl
    intro ip entry found
    have kept := (Table.lookup_foldl_erase system.runtime.pending consumed ip).symm.trans found
    split_ifs at kept
    exact kept

theorem Justified.commit {history : List Violation} {system : System}
    (justified : Justified config loaded history system) {outcome : PersistedBatch}
    (written : ∀ candidate, outcome.snapshot = some candidate →
      SnapshotJustified config loaded history system.clock system.committed candidate) :
    Justified config loaded history
      { system with runtime := system.runtime.commit outcome } := by
  unfold Runtime.commit
  split
  · exact justified
  · rename_i candidate snapshot
    exact { justified with durable := written candidate snapshot }

/-- The invariant says nothing about the disk, and the manager may take up a justified phase. -/
theorem Justified.enter {history : List Violation} {system : System} {phase : Phase}
    (justified : Justified config loaded history system)
    (phase_justified : phase.Justified config loaded history system.clock system.committed)
    (disk : Disk FileName (List UInt8)) (writer : Option StateWriter) :
    Justified config loaded history { system with phase, disk, writer } :=
  ⟨justified.windows, justified.crossings, justified.pending, justified.durable, phase_justified⟩

theorem decided_justified {history : List Violation} {clock : Nat} {committed : List IpAddr}
    {writer : StateWriter} {outcome : PersistedBatch} {now : Nat} {faults : WriteFaults}
    (written : ∀ candidate, outcome.snapshot = some candidate →
      SnapshotJustified config loaded history clock
        (outcome.activated.map (·.address.clientIp) ++ committed) candidate) :
    (Phase.decided codec writer outcome now faults).1.Justified config loaded history clock
      committed := by
  unfold Phase.decided
  split
  · rename_i nothing
    intro candidate snapshot
    rw [nothing] at snapshot
    cases snapshot
  · exact written

theorem SnapshotJustified.commit {history : List Violation} {clock : Nat}
    {committed : List IpAddr} {snapshot : BlockSnapshot}
    (justified : SnapshotJustified config loaded history clock committed snapshot)
    (more : List IpAddr) :
    SnapshotJustified config loaded history clock (more ++ committed) snapshot := by
  intro ip block found
  rcases justified ip block found with initial | ⟨listed, crossing⟩
  · exact .inl initial
  · exact .inr ⟨List.mem_append_right _ listed, crossing⟩

theorem justified_step {history : List Violation} {system next : System}
    {violation : Option Violation} (justified : Justified config loaded history system)
    (step : Step codec config hash system violation next) :
    Justified config loaded (history ++ violation.toList) next := by
  have phase := justified.phase
  cases step with
  | observe address rule later => exact justified.observe address rule later
  | enqueue waiting =>
      rw [Option.toList_none, List.append_nil]
      exact justified.enqueue waiting
  | sweepWindows enabled shard later =>
      rw [Option.toList_none, List.append_nil]
      exact (justified.advance later).sweepWindows shard _
  | sweepPending enabled later =>
      rw [Option.toList_none, List.append_nil]
      exact (justified.advance later).sweepPending _
  | shutdown =>
      rw [Option.toList_none, List.append_nil]
      exact justified.restrict (fun _ _ _ found => found) (fun _ _ found => found) rfl
  | drainPending enabled later =>
      rw [Option.toList_none, List.append_nil]
      exact (justified.advance later).drainPending _
  | gather enabled idle permuted forceCompaction later =>
      rw [Option.toList_none, List.append_nil]
      have advanced := justified.advance later
      refine advanced.enter ?_ _ _
      exact ⟨advanced.durable, gather_justified advanced permuted _⟩
  | reject gathered later rejected =>
      rw [Option.toList_none, List.append_nil]
      refine (justified.advance later).enter ?_ _ _
      trivial
  | decide gathered later accepted owned afterwards faults =>
      rw [Option.toList_none, List.append_nil]
      rw [gathered] at phase
      have advanced := justified.advance (later.trans afterwards)
      refine advanced.enter ?_ _ _
      apply decided_justified
      intro candidate written
      have built := buildBatch_justified phase.1 phase.2 accepted written
      simpa using built.mono (later.trans afterwards) []
  | operate writing =>
      rw [Option.toList_none, List.append_nil]
      rw [writing] at phase
      refine justified.enter ?_ _ _
      exact phase
  | fail writing =>
      rw [Option.toList_none, List.append_nil]
      refine justified.enter ?_ _ _
      trivial
  | succeed writing =>
      rw [Option.toList_none, List.append_nil]
      rw [writing] at phase
      exact ⟨justified.windows, justified.crossings, justified.pending,
        justified.durable.commit _, phase⟩
  | publish publishing =>
      rw [Option.toList_none, List.append_nil]
      rw [publishing] at phase
      refine (justified.commit phase).enter ?_ _ _
      trivial
  | consume consuming =>
      rw [Option.toList_none, List.append_nil]
      refine (justified.consumePending _).enter ?_ _ _
      trivial

theorem justified_run {history : List Violation} {system : System}
    (reached : Reaches codec config hash loaded history system) :
    Justified config loaded history system := by
  induction reached with
  | start starts =>
      obtain ⟨accepted⟩ := starts
      refine ⟨?_, ?_, ?_, fun ip block found => .inl found, trivial⟩
      · intro shard ip window found
        cases found
      · intro crossing member
        cases member
      · intro ip entry found
        cases found
  | step _ step ih => exact justified_step ih step

/-- A client that is turned away was loaded as blocked, or crossed the threshold of a rule. -/
theorem blocked_justified {history : List Violation} {system : System}
    (reached : Reaches codec config hash loaded history system) (address : ResolvedClientAddress)
    {now : Nat} (later : system.clock ≤ now)
    (blocked : isClientIpBlocked config system.runtime address now = true) :
    allowed config address.clientIp = false ∧
      ((∃ block, loaded.lookup address.clientIp = some block ∧ now < block.deadline) ∨
        ∃ rule since instant, since ≤ instant ∧ instant ≤ now ∧ instant - since < rule.window ∧
          threshold config rule ≤ recorded history address.clientIp rule since instant ∧
          now < instant + seconds temporarySeconds + seconds blockSeconds ∧
          (address.clientIp ∉ system.committed → now < instant + seconds temporarySeconds)) := by
  have justified := justified_run reached
  have published := (bounds_run reached).runtime.published
  simp only [isClientIpBlocked, Runtime.restricts, Bool.and_eq_true, Bool.not_eq_true',
    Bool.or_eq_true, Option.any_eq_true, decide_eq_true_eq] at blocked
  obtain ⟨⟨_, open_ip⟩, ⟨block, found, active⟩ | ⟨deadline, found, active⟩⟩ := blocked
  · refine ⟨open_ip, ?_⟩
    rcases justified.durable _ block found with initial |
      ⟨listed, instant, ⟨rule, since, ordered, short, enough⟩, past, expires⟩
    · exact .inl ⟨block, initial, active⟩
    · exact .inr ⟨rule, since, instant, ordered, past.trans later, short, enough,
        active.trans expires, fun unlisted => absurd listed unlisted⟩
  · refine ⟨open_ip, .inr ?_⟩
    rw [published, Table.lookup_mapValues, Option.map_eq_some_iff] at found
    obtain ⟨entry, found, rfl⟩ := found
    obtain ⟨_, instant, ⟨rule, since, ordered, short, enough⟩, past, expires⟩ :=
      justified.pending _ entry found
    rw [expires] at active
    exact ⟨rule, since, instant, ordered, past.trans later, short, enough,
      active.trans_le (Nat.le_add_right _ _), fun _ => active⟩

/-- A client is turned away after a violation that crosses its threshold. -/
theorem blocked_justified_first : ∃ history system,
    Reaches stateText strictConfig (fun _ => 0) ∅ history system ∧
      isClientIpBlocked strictConfig system.runtime directClient 1 = true ∧
      ∃ rule since instant, since ≤ instant ∧ instant ≤ 1 ∧ instant - since < rule.window ∧
        threshold strictConfig rule ≤
          recorded history directClient.clientIp rule since instant := by
  have fresh : Reaches stateText strictConfig (fun _ => 0) ∅ [] freshSystem :=
    .start freshSystem_starts
  have observed := fresh.step (.observe directClient .invalidWebsocket (Nat.le_refl 0))
  have enqueued := observed.step (.enqueue (@List.nil_append _ _).symm)
  refine ⟨_, _, enqueued, by decide, ?_⟩
  obtain ⟨_, ⟨_, initial, _⟩ | ⟨rule, since, instant, ordered, past, short, enough, _⟩⟩ :=
    blocked_justified enqueued directClient (by decide : _ ≤ 1) (by decide)
  · cases initial
  · exact ⟨rule, since, instant, ordered, past, short, enough⟩

end EdgeGateway.IpBlocking
