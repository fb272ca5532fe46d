import EdgeGateway.IpBlocking.Justification

/-!
# Transactions of the manager

A transaction takes some pending blocks, decides which of them become committed ones, writes the
new snapshot, publishes it and takes what it has settled from the pending blocks.  It either does
all of this or nothing.
-/

namespace EdgeGateway.IpBlocking

open CrashDisk IpAddress Security

variable {codec : StateCodec} {config : IpBlockingConfig} {hash : IpAddr → Nat}

/-! ## What an activation does -/

/-- A block of one day that starts now. -/
structure Fresh (now : Nat) (wall : Machine.Word) (ip : IpAddr) (proposal : PendingBlock)
    (block : ActiveBlock) : Prop where
  clientIp : block.record.clientIp = ip
  created : block.record.createdAtUnixSeconds = wall
  expires : block.record.expiresAtUnixSeconds.val = wall.val + 86400
  rule : block.record.rule = proposal.rule
  count : block.record.observedCount = proposal.count
  deadline : block.deadline = now + seconds 86400

/-- A proposal of the batch has become a committed block. -/
def Activates (config : IpBlockingConfig) (now : Nat) (wall : Machine.Word)
    (batch : List (IpAddr × PendingBlock)) (old candidate : BlockSnapshot) (ip : IpAddr)
    (proposal : PendingBlock) : Prop :=
  (ip, proposal) ∈ batch ∧ ip ∉ old ∧ allowed config ip = false ∧
    ∃ block, candidate.lookup ip = some block ∧ Fresh now wall ip proposal block

/-- What an activation has done when it is through its batch. -/
structure Activated (config : IpBlockingConfig) (now : Nat) (wall : Machine.Word)
    (batch : List (IpAddr × PendingBlock)) (start result : Activation) : Prop where
  kept : ∀ ip ∈ start.candidate, result.candidate.lookup ip = start.candidate.lookup ip
  origin : ∀ ip ∈ result.candidate, ip ∈ start.candidate ∨ ∃ proposal ∈ result.activated,
    Activates config now wall batch start.candidate result.candidate ip proposal
  activated : ∀ proposal ∈ result.activated, proposal ∈ start.activated ∨
    ∃ ip, Activates config now wall batch start.candidate result.candidate ip proposal
  size : result.candidate.size + start.activated.length =
    start.candidate.size + result.activated.length
  consumed : ∀ ip ∈ result.consumed, ip ∈ start.consumed ∨
    (∃ proposal, (ip, proposal) ∈ batch) ∧ (ip ∈ result.candidate ∨ allowed config ip = true)
  consumed_before : ∀ ip ∈ start.consumed, ip ∈ result.consumed
  settled : ∀ ip proposal, (ip, proposal) ∈ batch → now < proposal.deadline →
    ip ∈ result.consumed ∨ config.file.maxBlockedClientIps ≤ result.candidate.size
  overflow : result.capacityOverflow = true →
    start.capacityOverflow = true ∨ config.file.maxBlockedClientIps ≤ result.candidate.size
  grows : start.activated <+: result.activated
  idle : result.activated = start.activated → result.candidate = start.candidate

section Activation

variable {now : Nat} {wall : Machine.Word} {batch rest : List (IpAddr × PendingBlock)}
  {start result : Activation} {ip : IpAddr} {proposal : PendingBlock}

theorem fresh_commit {expires : Machine.Word} (sum : wall.checkedAdd blockSeconds = some expires) :
    ∃ block, (start.commit now ip proposal sum).candidate.lookup ip = some block ∧
      Fresh now wall ip proposal block := by
  refine ⟨_, AList.lookup_insert _, rfl, rfl, ?_, rfl, rfl, rfl⟩
  exact Machine.Word.checkedAdd_eq_some.mp sum

theorem Activates.mono {old earlier candidate : BlockSnapshot}
    (activates : Activates config now wall rest old candidate ip proposal)
    (batch_grows : ∀ entry ∈ rest, entry ∈ batch) (old_grows : ∀ ip ∈ earlier, ip ∈ old) :
    Activates config now wall batch earlier candidate ip proposal :=
  ⟨batch_grows _ activates.1, fun known => activates.2.1 (old_grows ip known), activates.2.2⟩

/-- An activated block lasts for a day from now. -/
theorem Activates.lasting {old candidate : BlockSnapshot} {block : ActiveBlock}
    (activates : Activates config now wall batch old candidate ip proposal)
    (found : candidate.lookup ip = some block) : now < block.deadline := by
  obtain ⟨_, _, _, fresh_block, same, fresh⟩ := activates
  rw [found, Option.some.injEq] at same
  rw [same, fresh.deadline]
  exact Nat.lt_add_of_pos_right (by decide)

theorem activated_nil (start : Activation) : Activated config now wall [] start start := by
  constructor <;> simp +contextual

/-- A proposal whose deadline has passed is skipped. -/
theorem Activated.skip (later : Activated config now wall rest start result)
    (expired : proposal.deadline ≤ now) :
    Activated config now wall ((ip, proposal) :: rest) start result := by
  have grows : ∀ entry ∈ rest, entry ∈ (ip, proposal) :: rest :=
    fun _ => List.mem_cons_of_mem _
  refine ⟨later.kept, ?_, ?_, later.size, ?_, later.consumed_before, ?_, later.overflow,
    later.grows, later.idle⟩
  · intro other member
    refine (later.origin other member).imp_right ?_
    intro found
    obtain ⟨taken, listed, activates⟩ := found
    exact ⟨taken, listed, activates.mono grows fun _ => id⟩
  · intro taken listed
    refine (later.activated taken listed).imp_right ?_
    intro found
    obtain ⟨other, activates⟩ := found
    exact ⟨other, activates.mono grows fun _ => id⟩
  · intro other listed
    refine (later.consumed other listed).imp_right ?_
    intro found
    obtain ⟨⟨taken, member⟩, settled⟩ := found
    exact ⟨⟨taken, grows _ member⟩, settled⟩
  · intro other taken member lasting
    rcases List.mem_cons.mp member with same | inside
    · cases same
      exact absurd expired (Nat.not_le.mpr lasting)
    · exact later.settled other taken inside lasting

/-- A proposal whose address is blocked or allowed already is consumed. -/
theorem Activated.consume
    (later : Activated config now wall rest
      { start with consumed := start.consumed ++ [ip] } result)
    (known : ip ∈ start.candidate ∨ allowed config ip = true) :
    Activated config now wall ((ip, proposal) :: rest) start result := by
  have grows : ∀ entry ∈ rest, entry ∈ (ip, proposal) :: rest :=
    fun _ => List.mem_cons_of_mem _
  refine ⟨later.kept, ?_, ?_, later.size, ?_, ?_, ?_, later.overflow, later.grows, later.idle⟩
  · intro other member
    refine (later.origin other member).imp_right ?_
    intro found
    obtain ⟨taken, listed, activates⟩ := found
    exact ⟨taken, listed, activates.mono grows fun _ => id⟩
  · intro taken listed
    refine (later.activated taken listed).imp_right ?_
    intro found
    obtain ⟨other, activates⟩ := found
    exact ⟨other, activates.mono grows fun _ => id⟩
  · intro other listed
    rcases later.consumed other listed with before | ⟨⟨taken, member⟩, settled⟩
    · rcases List.mem_append.mp before with earlier | own
      · exact .inl earlier
      · obtain rfl := List.mem_singleton.mp own
        refine .inr ⟨⟨proposal, List.mem_cons_self⟩, known.imp_left fun present => ?_⟩
        rw [← AList.lookup_isSome, later.kept other present, AList.lookup_isSome]
        exact present
    · exact .inr ⟨⟨taken, grows _ member⟩, settled⟩
  · intro other listed
    exact later.consumed_before other (List.mem_append_left _ listed)
  · intro other taken member lasting
    rcases List.mem_cons.mp member with same | inside
    · cases same
      exact .inl (later.consumed_before ip (List.mem_append_right _ List.mem_cons_self))
    · exact later.settled other taken inside lasting

/-- The rest of the batch is left pending once the committed table is full. -/
theorem activated_full (full : config.file.maxBlockedClientIps ≤ start.candidate.size) :
    Activated config now wall batch start { start with capacityOverflow := true } := by
  refine ⟨fun _ _ => rfl, fun _ => .inl, fun _ => .inl, rfl, fun _ => .inl, fun _ => id, ?_, ?_,
    List.prefix_rfl, fun _ => rfl⟩
  · intro _ _ _ _
    exact .inr full
  · intro _
    exact .inr full

/-- A proposal that becomes a block is consumed. -/
theorem Activated.commit {expires : Machine.Word}
    {sum : wall.checkedAdd blockSeconds = some expires}
    (later : Activated config now wall rest (start.commit now ip proposal sum) result)
    (absent : ip ∉ start.candidate) (unlisted : allowed config ip = false) :
    Activated config now wall ((ip, proposal) :: rest) start result := by
  have grows : ∀ entry ∈ rest, entry ∈ (ip, proposal) :: rest :=
    fun _ => List.mem_cons_of_mem _
  have committed : ∀ other ∈ start.candidate,
      other ∈ (start.commit now ip proposal sum).candidate :=
    fun other member => (AList.mem_insert _).mpr (.inr member)
  have own : ip ∈ (start.commit now ip proposal sum).candidate :=
    (AList.mem_insert _).mpr (.inl rfl)
  have listed : proposal ∈ result.activated :=
    later.grows.subset (List.mem_append_right _ List.mem_cons_self)
  have activates : Activates config now wall ((ip, proposal) :: rest) start.candidate
      result.candidate ip proposal := by
    have started : ∃ block, (start.commit now ip proposal sum).candidate.lookup ip = some block ∧
        Fresh now wall ip proposal block := fresh_commit sum
    obtain ⟨block, found, fresh⟩ := started
    exact ⟨List.mem_cons_self, absent, unlisted, block, (later.kept ip own).trans found, fresh⟩
  refine ⟨?_, ?_, ?_, ?_, ?_, ?_, ?_, later.overflow, ?_, ?_⟩
  · intro other member
    have distinct : other ≠ ip := fun same => absent (same ▸ member)
    rw [later.kept other (committed other member), Activation.commit,
      AList.lookup_insert_ne distinct]
  · intro other member
    rcases later.origin other member with before | ⟨taken, taken_listed, found⟩
    · rcases (AList.mem_insert _).mp before with rfl | earlier
      · exact .inr ⟨proposal, listed, activates⟩
      · exact .inl earlier
    · exact .inr ⟨taken, taken_listed, found.mono grows committed⟩
  · intro taken taken_listed
    rcases later.activated taken taken_listed with before | ⟨other, found⟩
    · rcases List.mem_append.mp before with earlier | last
      · exact .inl earlier
      · obtain rfl := List.mem_singleton.mp last
        exact .inr ⟨ip, activates⟩
    · exact .inr ⟨other, found.mono grows committed⟩
  · have sizes := later.size
    simp only [Activation.commit, List.length_append, List.length_singleton,
      Table.size_insert_of_notMem _ absent] at sizes
    omega
  · intro other consumed
    rcases later.consumed other consumed with before | ⟨⟨taken, member⟩, settled⟩
    · rcases List.mem_append.mp before with earlier | last
      · exact .inl earlier
      · obtain rfl := List.mem_singleton.mp last
        obtain ⟨_, _, _, block, found, _⟩ := activates
        exact .inr ⟨⟨proposal, List.mem_cons_self⟩, .inl (Table.mem_iff_lookup.mpr ⟨block, found⟩)⟩
    · exact .inr ⟨⟨taken, grows _ member⟩, settled⟩
  · intro other consumed
    exact later.consumed_before other (List.mem_append_left _ consumed)
  · intro other taken member lasting
    rcases List.mem_cons.mp member with same | inside
    · cases same
      exact .inl (later.consumed_before ip (List.mem_append_right _ List.mem_cons_self))
    · exact later.settled other taken inside lasting
  · exact (List.prefix_append _ _).trans later.grows
  · intro same
    have longer := later.grows.length_le
    rw [same] at longer
    simp [Activation.commit] at longer

/-- An activation of a batch does what the batch calls for. -/
theorem activated_of_activate (activated : activate config now wall batch start = .ok result) :
    Activated config now wall batch start result := by
  induction batch generalizing start with
  | nil =>
      cases activated
      exact activated_nil _
  | cons entry rest ih =>
      obtain ⟨ip, proposal⟩ := entry
      rw [activate] at activated
      split_ifs at activated with expired known full
      · exact (ih activated).skip expired
      · exact (ih activated).consume known
      · cases activated
        exact activated_full full
      · split at activated
        · cases activated
        · rename_i next admitted
          obtain ⟨expires, sum, rfl⟩ := Activation.commitProposal_eq_ok admitted
          rw [not_or, Bool.not_eq_true] at known
          exact (ih activated).commit known.1 known.2

/-- An activation itself never fails for lack of room. -/
theorem activate_ne_capacityReached :
    activate config now wall batch start ≠ .error .capacityReached := by
  induction batch generalizing start with
  | nil => simp [activate]
  | cons entry rest ih =>
      obtain ⟨ip, proposal⟩ := entry
      rw [activate]
      split_ifs
      · exact ih
      · exact ih
      · simp
      · rw [Activation.commitProposal]
        split
        · rename_i reason failed
          split at failed
          · cases failed
            simp
          · cases failed
        · exact ih

end Activation

/-! ## What a transaction decides -/

/-- The new snapshot is the old one without its expired blocks and with the activated ones. -/
structure Renewed (config : IpBlockingConfig) (now : Nat) (wall : Machine.Word)
    (batch : List (IpAddr × PendingBlock)) (old new : BlockSnapshot)
    (activated : List PendingBlock) : Prop where
  kept : ∀ ip block, old.lookup ip = some block → now < block.deadline →
    new.lookup ip = some block
  origin : ∀ ip block, new.lookup ip = some block →
    (old.lookup ip = some block ∧ now < block.deadline) ∨
      ∃ proposal ∈ activated, Activates config now wall batch (unexpired old now) new ip proposal
  admitted : ∀ proposal ∈ activated,
    ∃ ip, Activates config now wall batch (unexpired old now) new ip proposal
  size : new.size = (unexpired old now).size + activated.length

/-- A decided batch settles its addresses, unless the committed table is full. -/
structure Settled (config : IpBlockingConfig) (now : Nat) (batch : List (IpAddr × PendingBlock))
    (new : BlockSnapshot) (consumed : List IpAddr) : Prop where
  settled : ∀ ip ∈ consumed, (∃ proposal, (ip, proposal) ∈ batch) ∧
    ((∃ block, new.lookup ip = some block ∧ now < block.deadline) ∨ allowed config ip = true)
  pending : ∀ ip proposal, (ip, proposal) ∈ batch → now < proposal.deadline →
    ip ∈ consumed ∨ config.file.maxBlockedClientIps ≤ new.size

/-- Nothing expires where nothing has expired. -/
theorem unexpired_of_anyExpired {old : BlockSnapshot} {now : Nat}
    (current : anyExpired old now = false) : unexpired old now = old := by
  refine AList.ext (List.filter_eq_self.mpr ?_)
  intro entry member
  have lasting := List.any_eq_false.mp current entry member
  simpa using lasting

section Decision

variable {old : BlockSnapshot} {batch : List (IpAddr × PendingBlock)} {forceCompaction : Bool}
  {now : Nat} {wall : Option Machine.Word}

theorem Activated.renewed {start : Machine.Word} {activation : Activation}
    (activated : Activated config now start batch { candidate := unexpired old now } activation) :
    Renewed config now start batch old activation.candidate activation.activated := by
  refine ⟨?_, ?_, ?_, ?_⟩
  · intro ip block found lasting
    have before : (unexpired old now).lookup ip = some block :=
      Table.lookup_retain_eq_some.mpr ⟨found, decide_eq_true lasting⟩
    have member : ip ∈ unexpired old now := Table.mem_iff_lookup.mpr ⟨block, before⟩
    exact (activated.kept ip member).trans before
  · intro ip block found
    have member : ip ∈ activation.candidate := Table.mem_iff_lookup.mpr ⟨block, found⟩
    rcases activated.origin ip member with before | fresh
    · rw [activated.kept ip before] at found
      obtain ⟨there, lasting⟩ := Table.lookup_retain_eq_some.mp found
      exact .inl ⟨there, of_decide_eq_true lasting⟩
    · exact .inr fresh
  · intro proposal listed
    exact (activated.activated proposal listed).resolve_left List.not_mem_nil
  · simpa using activated.size

theorem Activated.settles {start : Machine.Word} {activation : Activation}
    (activated : Activated config now start batch { candidate := unexpired old now } activation) :
    Settled config now batch activation.candidate activation.consumed := by
  refine ⟨?_, activated.settled⟩
  intro ip listed
  obtain ⟨proposed, known⟩ := (activated.consumed ip listed).resolve_left List.not_mem_nil
  refine ⟨proposed, known.imp_left ?_⟩
  intro member
  obtain ⟨block, found⟩ := Table.mem_iff_lookup.mp member
  refine ⟨block, found, ?_⟩
  rcases activated.renewed.origin ip block found with ⟨_, lasting⟩ | ⟨_, _, activates⟩
  · exact lasting
  · exact activates.lasting found

/-- What an accepted transaction leaves committed. -/
theorem buildBatch_renewed {outcome : PersistedBatch}
    (accepted : buildBatch config old batch forceCompaction now wall = .ok outcome) :
    Settled config now batch (outcome.snapshot.getD old) outcome.consumed ∧
      ((outcome.snapshot.getD old = old ∧ outcome.activated = []) ∨
        ∃ start, wall = some start ∧
          Renewed config now start batch old (outcome.snapshot.getD old) outcome.activated) := by
  simp only [buildBatch] at accepted
  split_ifs at accepted with idle full
  · cases accepted
    simp only [Bool.and_eq_true, List.isEmpty_iff] at idle
    obtain ⟨⟨rfl, _⟩, _⟩ := idle
    refine ⟨⟨?_, ?_⟩, .inl ⟨rfl, rfl⟩⟩
    · intro ip listed
      cases listed
    · intro ip proposal member
      cases member
  · split at accepted
    · cases accepted
    · rename_i start
      split at accepted
      · cases accepted
      · rename_i activation found
        have activated := activated_of_activate found
        split_ifs at accepted with writes overflowed
        · cases accepted
          exact ⟨activated.settles, .inr ⟨start, rfl, activated.renewed⟩⟩
        · cases accepted
          simp only [Bool.or_eq_true, not_or, Bool.not_eq_true, Bool.not_eq_false',
            List.isEmpty_iff] at writes
          have same : activation.candidate = old :=
            (activated.idle writes.1.1).trans (unexpired_of_anyExpired writes.1.2)
          refine ⟨?_, .inl ⟨rfl, writes.1.1⟩⟩
          have settled := activated.settles
          rwa [same] at settled

/-- A transaction fails for lack of room only where the table is full of active blocks. -/
theorem buildBatch_capacityReached
    (rejected : buildBatch config old batch forceCompaction now wall = .error .capacityReached) :
    config.file.maxBlockedClientIps ≤ old.size ∧ anyExpired old now = false := by
  simp only [buildBatch] at rejected
  split_ifs at rejected with idle full
  · simp only [Bool.and_eq_true, decide_eq_true_eq, Bool.not_eq_true'] at full
    exact ⟨full.1.1.2, full.1.2⟩
  · split at rejected
    · cases rejected
    · split at rejected
      · rename_i reason failed
        cases rejected
        exact absurd failed activate_ne_capacityReached
      · rename_i activation found
        split_ifs at rejected with writes overflowed
        have activated := activated_of_activate found
        simp only [Bool.or_eq_true, not_or, Bool.not_eq_true, Bool.not_eq_false',
          List.isEmpty_iff] at writes
        simp only [Bool.and_eq_true] at overflowed
        have same : activation.candidate = old :=
          (activated.idle writes.1.1).trans (unexpired_of_anyExpired writes.1.2)
        have full := (activated.overflow overflowed.1).resolve_left Bool.false_ne_true
        rw [same] at full
        exact ⟨full, writes.1.2⟩

end Decision

/-! ## What clients do meanwhile -/

/-- What one holder of a lock does on behalf of a client. -/
inductive ClientAction
  | observe (address : ResolvedClientAddress) (rule : ViolationRule) (now : Nat)
  | enqueue (crossing : Crossing)

/-- The runtime after an action of a client. -/
def Runtime.act (config : IpBlockingConfig) (hash : IpAddr → Nat) (runtime : Runtime) :
    ClientAction → Runtime
  | .observe address rule now => (runtime.observe config hash address rule now).1
  | .enqueue crossing => runtime.enqueue config crossing

theorem Runtime.observe_pending (runtime : Runtime) (address : ResolvedClientAddress)
    (rule : ViolationRule) (now : Nat) :
    (runtime.observe config hash address rule now).1.pending = runtime.pending := by
  rcases runtime.observe_cases config hash address rule now with same | ⟨_, _, same, _⟩
  · rw [same]
  · rw [same]
    rfl

/-- A pending block stays as it is when another crossing arrives. -/
theorem Runtime.enqueue_pending (runtime : Runtime) (crossing : Crossing) {ip : IpAddr}
    {entry : PendingBlock} (found : runtime.pending.lookup ip = some entry) :
    (runtime.enqueue config crossing).pending.lookup ip = some entry := by
  unfold Runtime.enqueue
  dsimp only
  split_ifs with known full
  · exact found
  · exact found
  · have distinct : ip ≠ crossing.address.clientIp := by
      intro same
      exact known (same ▸ Table.mem_iff_lookup.mpr ⟨entry, found⟩)
    simpa only [publishTemporary, AList.lookup_insert_ne distinct] using found

/-- Clients leave the committed snapshot and the pending blocks of others alone. -/
theorem act_run (actions : List ClientAction) (runtime : Runtime) :
    (actions.foldl (Runtime.act config hash) runtime).durable = runtime.durable ∧
      ∀ ip entry, runtime.pending.lookup ip = some entry →
        (actions.foldl (Runtime.act config hash) runtime).pending.lookup ip = some entry := by
  induction actions generalizing runtime with
  | nil => exact ⟨rfl, fun _ _ found => found⟩
  | cons action actions ih =>
      obtain ⟨durable, pending⟩ := ih (runtime.act config hash action)
      rw [List.foldl_cons]
      cases action with
      | observe address rule now =>
          refine ⟨durable.trans (runtime.observe_durable config hash address rule now), ?_⟩
          intro ip entry found
          apply pending
          rwa [Runtime.act, Runtime.observe_pending]
      | enqueue crossing =>
          refine ⟨durable.trans (runtime.enqueue_durable config crossing), ?_⟩
          intro ip entry found
          exact pending ip entry (runtime.enqueue_pending crossing found)

/-! ## The transaction -/

/-- Everything a transaction meets: its iteration order, its clocks, the outcome of every step of
the write, and what clients do until its snapshot is published and from then on. -/
structure TransactionInput where
  order : List (IpAddr × PendingBlock)
  forceCompaction : Bool
  gathered : Nat
  decided : Nat
  wall : Option Machine.Word
  written : Nat
  faults : WriteFaults
  during : List ClientAction
  afterwards : List ClientAction

/-- What a transaction returns, what it has done to the disk and what it leaves. -/
structure Transaction where
  result : Except PersistError Unit
  runtime : Runtime
  writer : Option StateWriter
  operations : List DiskOperation := []
  consumed : List IpAddr := []
  activated : List PendingBlock := []

/-- Write the snapshot of a batch, if it has one. -/
def writeBatch (codec : StateCodec) (writer : StateWriter) (outcome : PersistedBatch)
    (written : Nat) (faults : WriteFaults) : Persisted :=
  match outcome.snapshot with
  | none => ⟨[], .ok (), writer⟩
  | some candidate =>
      persistClientIpBlocklistAtomically codec writer candidate written faults

/-- Commit a batch of pending blocks. -/
def persistPending (codec : StateCodec) (config : IpBlockingConfig) (hash : IpAddr → Nat)
    (writer : Option StateWriter) (input : TransactionInput) (runtime : Runtime) : Transaction :=
  let pending := gather config input.order input.gathered
  let meanwhile := input.during.foldl (Runtime.act config hash) runtime
  match writer with
  | none =>
      { result := .error (.failed "block state writer missing"), runtime := meanwhile, writer }
  | some owned =>
      match buildBatch config runtime.durable pending input.forceCompaction input.decided
          input.wall with
      | .error reason => { result := .error reason, runtime := meanwhile, writer }
      | .ok outcome =>
          let persisted := writeBatch codec owned outcome input.written input.faults
          match persisted.result with
          | .error reason =>
              { result := .error (.failed reason)
                runtime := meanwhile
                writer := some persisted.writer
                operations := persisted.operations }
          | .ok () =>
              { result := .ok ()
                runtime :=
                  (input.afterwards.foldl (Runtime.act config hash)
                    (meanwhile.commit outcome)).consumePending outcome.consumed
                writer := some persisted.writer
                operations := persisted.operations
                consumed := outcome.consumed
                activated := outcome.activated }

variable {writer : Option StateWriter} {input : TransactionInput} {runtime : Runtime}

/-- A transaction that fails has done nothing to the runtime. -/
theorem persistPending_error {reason : PersistError}
    (failed : (persistPending codec config hash writer input runtime).result = .error reason) :
    (persistPending codec config hash writer input runtime).runtime =
        input.during.foldl (Runtime.act config hash) runtime ∧
      (reason = .capacityReached →
        config.file.maxBlockedClientIps ≤ runtime.durable.size ∧
          anyExpired runtime.durable input.decided = false) := by
  cases writer with
  | none =>
      cases failed
      exact ⟨rfl, fun same => nomatch same⟩
  | some owned =>
      simp only [persistPending] at failed ⊢
      split at failed
      · rename_i found rejected
        cases failed
        refine ⟨rfl, ?_⟩
        intro same
        rw [same] at rejected
        exact buildBatch_capacityReached rejected
      · rename_i outcome accepted
        split at failed
        · cases failed
          exact ⟨rfl, fun same => nomatch same⟩
        · cases failed

/-- A transaction that succeeds has written and published its batch and consumed what it settled. -/
theorem persistPending_ok
    (succeeded : (persistPending codec config hash writer input runtime).result = .ok ()) :
    ∃ owned outcome, writer = some owned ∧
      buildBatch config runtime.durable (gather config input.order input.gathered)
          input.forceCompaction input.decided input.wall = .ok outcome ∧
        (writeBatch codec owned outcome input.written input.faults).result = .ok () ∧
        persistPending codec config hash writer input runtime =
          { result := .ok ()
            runtime :=
              (input.afterwards.foldl (Runtime.act config hash)
                ((input.during.foldl (Runtime.act config hash) runtime).commit
                  outcome)).consumePending outcome.consumed
            writer := some (writeBatch codec owned outcome input.written input.faults).writer
            operations := (writeBatch codec owned outcome input.written input.faults).operations
            consumed := outcome.consumed
            activated := outcome.activated } := by
  cases writer with
  | none => cases succeeded
  | some owned =>
      simp only [persistPending] at succeeded ⊢
      split at succeeded
      · cases succeeded
      · rename_i outcome accepted
        split at succeeded
        · cases succeeded
        · rename_i written
          exact ⟨owned, outcome, rfl, accepted, written, rfl⟩

theorem Runtime.consumePending_pending (runtime : Runtime) (consumed : List IpAddr)
    (ip : IpAddr) :
    (runtime.consumePending consumed).pending.lookup ip =
      if ip ∈ consumed then none else runtime.pending.lookup ip := by
  have erased : (runtime.consumePending consumed).pending =
      consumed.foldl (fun table ip => table.erase ip) runtime.pending := by
    unfold consumePending
    split_ifs with nothing
    · rw [List.isEmpty_iff.mp nothing, List.foldl_nil]
    · rfl
  rw [erased, Table.lookup_foldl_erase]

theorem Runtime.commit_durable (runtime : Runtime) (outcome : PersistedBatch) :
    (runtime.commit outcome).durable = outcome.snapshot.getD runtime.durable := by
  unfold commit
  split
  · rename_i nothing
    rw [nothing, Option.getD_none]
  · rename_i candidate written
    rw [written, Option.getD_some]

theorem Runtime.commit_pending (runtime : Runtime) (outcome : PersistedBatch) :
    (runtime.commit outcome).pending = runtime.pending := by
  unfold commit
  split <;> rfl

/-- What a transaction gathers are pending blocks. -/
theorem pending_of_gather {order : List (IpAddr × PendingBlock)} {now : Nat} {ip : IpAddr}
    {proposal : PendingBlock}
    (permuted : order.Perm (runtime.pending.entries.map fun entry => (entry.1, entry.2)))
    (member : (ip, proposal) ∈ gather config order now) :
    runtime.pending.lookup ip = some proposal ∧ now < proposal.deadline := by
  obtain ⟨listed, lasting⟩ := List.mem_filter.mp (List.mem_of_mem_take member)
  obtain ⟨entry, present, same⟩ := List.mem_map.mp (permuted.mem_iff.mp listed)
  cases same
  exact ⟨Table.lookup_eq_some_iff.mpr present, of_decide_eq_true lasting⟩

/-- What is left of the pending blocks when a transaction has succeeded. -/
theorem persistPending_pending
    (succeeded : (persistPending codec config hash writer input runtime).result = .ok ())
    {ip : IpAddr} {entry : PendingBlock} (found : runtime.pending.lookup ip = some entry) :
    (persistPending codec config hash writer input runtime).runtime.pending.lookup ip =
      if ip ∈ (persistPending codec config hash writer input runtime).consumed then none
      else some entry := by
  obtain ⟨_, outcome, _, _, _, left⟩ := persistPending_ok succeeded
  have meanwhile := (@act_run config hash input.during runtime).2 ip entry found
  rw [← Runtime.commit_pending _ outcome] at meanwhile
  have afterwards := (@act_run config hash input.afterwards _).2 ip entry meanwhile
  rw [left, Runtime.consumePending_pending, afterwards]

/-- The committed snapshot when a transaction has succeeded. -/
theorem persistPending_durable
    (succeeded : (persistPending codec config hash writer input runtime).result = .ok ()) :
    ∃ outcome,
      buildBatch config runtime.durable (gather config input.order input.gathered)
          input.forceCompaction input.decided input.wall = .ok outcome ∧
        (persistPending codec config hash writer input runtime).consumed = outcome.consumed ∧
        (persistPending codec config hash writer input runtime).activated = outcome.activated ∧
        (persistPending codec config hash writer input runtime).runtime.durable =
          outcome.snapshot.getD runtime.durable := by
  obtain ⟨_, outcome, _, accepted, _, left⟩ := persistPending_ok succeeded
  rw [left]
  refine ⟨outcome, accepted, rfl, rfl, ?_⟩
  rw [Runtime.consumePending_durable, (act_run _ _).1, Runtime.commit_durable,
    (act_run _ _).1]

/-- A transaction keeps the committed snapshot within its bound. -/
theorem persistPending_fits (fits : runtime.durable.size ≤ config.file.maxBlockedClientIps) :
    (persistPending codec config hash writer input runtime).runtime.durable.size ≤
      config.file.maxBlockedClientIps := by
  cases result : (persistPending codec config hash writer input runtime).result with
  | error reason =>
      rw [(persistPending_error result).1, (act_run _ _).1]
      exact fits
  | ok _ =>
      obtain ⟨outcome, accepted, _, _, durable⟩ := persistPending_durable result
      rw [durable]
      cases written : outcome.snapshot with
      | none => exact fits
      | some candidate => exact buildBatch_fits fits accepted written

/-- A transaction renews the committed snapshot and settles its batch, or leaves everything as it
is; it lacks room only where the table is full of active blocks. -/
theorem persist_pending_transaction {loaded : BlockSnapshot} {history : List Violation}
    {system : System} (reached : Reaches codec config hash loaded history system)
    (input : TransactionInput)
    (permuted : input.order.Perm
      (system.runtime.pending.entries.map fun entry => (entry.1, entry.2))) :
    let batch := gather config input.order input.gathered
    let transaction := persistPending codec config hash system.writer input system.runtime
    transaction.runtime.durable.size ≤ config.file.maxBlockedClientIps ∧
      (transaction.result = .ok () →
        ((transaction.runtime.durable = system.runtime.durable ∧ transaction.activated = []) ∨
          ∃ wall, input.wall = some wall ∧
            Renewed config input.decided wall batch system.runtime.durable
              transaction.runtime.durable transaction.activated) ∧
        Settled config input.decided batch transaction.runtime.durable transaction.consumed ∧
        ∀ ip entry, system.runtime.pending.lookup ip = some entry →
          (ip ∈ transaction.consumed → (ip, entry) ∈ batch) ∧
          transaction.runtime.pending.lookup ip =
            if ip ∈ transaction.consumed then none else some entry) ∧
      ∀ reason, transaction.result = .error reason →
        transaction.runtime = input.during.foldl (Runtime.act config hash) system.runtime ∧
        transaction.runtime.durable = system.runtime.durable ∧
        (reason = .capacityReached →
          system.runtime.durable.size = config.file.maxBlockedClientIps ∧
          ∀ ip block, system.runtime.durable.lookup ip = some block →
            input.decided < block.deadline) := by
  intro batch transaction
  have fits := (bounds_run reached).runtime.durable
  refine ⟨persistPending_fits fits, ?_, ?_⟩
  · intro succeeded
    obtain ⟨outcome, accepted, consumed, activated, durable⟩ := persistPending_durable succeeded
    obtain ⟨settled, renewed⟩ := buildBatch_renewed accepted
    rw [← durable, ← consumed] at settled
    rw [← durable, ← activated] at renewed
    refine ⟨renewed, settled, ?_⟩
    intro ip entry found
    refine ⟨?_, persistPending_pending succeeded found⟩
    intro listed
    obtain ⟨⟨proposal, member⟩, _⟩ := settled.settled ip listed
    have same := (pending_of_gather permuted member).1
    rw [found, Option.some.injEq] at same
    exact same ▸ member
  · intro reason failed
    obtain ⟨left, full⟩ := persistPending_error failed
    refine ⟨left, ?_, ?_⟩
    · rw [left, (act_run _ _).1]
    · intro lacking
      obtain ⟨room, current⟩ := full lacking
      refine ⟨Nat.le_antisymm fits room, ?_⟩
      intro ip block found
      have lasting := List.any_eq_false.mp current _ (Table.lookup_eq_some_iff.mp found)
      simpa using lasting

/-! ## Transactions are runs -/

/-- What clients do to a system, with the violations that they record. -/
inductive Clients (config : IpBlockingConfig) (hash : IpAddr → Nat) :
    System → List ClientAction → List Violation → System → Prop
  | nil {system : System} : Clients config hash system [] [] system
  | observe {system next : System} {actions : List ClientAction} {history : List Violation}
      (address : ResolvedClientAddress) (rule : ViolationRule) {now : Nat}
      (later : system.clock ≤ now)
      (rest : Clients config hash
        { system with
          runtime := (system.runtime.observe config hash address rule now).1
          crossings := (system.runtime.observe config hash address rule now).2.toList ++
            system.crossings
          clock := now } actions history next) :
      Clients config hash system (.observe address rule now :: actions)
        (⟨address.clientIp, rule, now⟩ :: history) next
  | enqueue {system next : System} {actions : List ClientAction} {history : List Violation}
      {before after : List Crossing} {crossing : Crossing}
      (waiting : system.crossings = before ++ crossing :: after)
      (rest : Clients config hash
        { system with
          runtime := system.runtime.enqueue config crossing
          crossings := before ++ after } actions history next) :
      Clients config hash system (.enqueue crossing :: actions) history next

section Runs

variable {loaded : BlockSnapshot} {earlier history : List Violation} {system middle : System}
  {actions : List ClientAction}

theorem Clients.reaches (clients : Clients config hash system actions history middle)
    (reached : Reaches codec config hash loaded earlier system) :
    Reaches codec config hash loaded (earlier ++ history) middle := by
  induction clients generalizing earlier with
  | nil =>
      rw [List.append_nil]
      exact reached
  | observe address rule later rest ih =>
      have observed := ih (reached.step (.observe address rule later))
      rwa [Option.toList_some, List.append_assoc, List.singleton_append] at observed
  | enqueue waiting rest ih =>
      have enqueued := ih (reached.step (.enqueue waiting))
      rwa [Option.toList_none, List.append_nil] at enqueued

theorem Clients.runtime_eq (clients : Clients config hash system actions history middle) :
    middle.runtime = actions.foldl (Runtime.act config hash) system.runtime := by
  induction clients with
  | nil => rfl
  | observe address rule later rest ih => exact ih
  | enqueue waiting rest ih => exact ih

/-- Clients leave the manager where it is. -/
theorem Clients.enter (clients : Clients config hash system actions history middle) (phase : Phase)
    (writer : Option StateWriter) :
    Clients config hash { system with phase, writer } actions history
      { middle with phase, writer } := by
  induction clients with
  | nil => exact .nil
  | observe address rule later rest ih => exact .observe address rule later ih
  | enqueue waiting rest ih => exact .enqueue waiting ih

/-- A decided transaction whose write succeeds comes to publish its snapshot. -/
theorem reaches_publishing {outcome : PersistedBatch} {owned : StateWriter} {now : Nat}
    {faults : WriteFaults} {system : System}
    (written : (writeBatch codec owned outcome now faults).result = .ok ())
    (reached : Reaches codec config hash loaded history
      { system with
        phase := (Phase.decided codec owned outcome now faults).1
        writer := some (Phase.decided codec owned outcome now faults).2 }) :
    ∃ disk committed, Reaches codec config hash loaded history
      { system with
        phase := .publishing outcome
        writer := some (writeBatch codec owned outcome now faults).writer
        disk, committed } := by
  unfold Phase.decided at reached
  unfold writeBatch at written ⊢
  split at written
  · rename_i nothing
    simp only [nothing] at reached ⊢
    exact ⟨_, _, reached⟩
  · rename_i candidate snapshot
    simp only [snapshot, written] at reached ⊢
    rw [← List.append_nil (persistClientIpBlocklistAtomically codec owned candidate now
      faults).operations] at reached
    have operated := @reaches_operations codec config hash loaded history outcome _ [] _
      { system with
        writer :=
          some (persistClientIpBlocklistAtomically codec owned candidate now faults).writer }
      reached
    have succeeded := operated.step (.succeed rfl)
    rw [Option.toList_none, List.append_nil] at succeeded
    exact ⟨_, _, succeeded⟩

/-- A transaction that succeeds is a run of the system, in which clients act during the write. -/
theorem persistPending_reaches (input : TransactionInput)
    (reached : Reaches codec config hash loaded earlier system)
    (enabled : config.file.enabled = true) (idle : system.phase = .idle)
    (permuted : input.order.Perm
      (system.runtime.pending.entries.map fun entry => (entry.1, entry.2)))
    (gathered : system.clock ≤ input.gathered) (decided : input.gathered ≤ input.decided)
    (written : input.decided ≤ input.written)
    (succeeded :
      (persistPending codec config hash system.writer input system.runtime).result = .ok ())
    (during :
      Clients config hash { system with clock := input.written } input.during history middle)
    (afterwards : input.afterwards = []) :
    ∃ disk committed, Reaches codec config hash loaded (earlier ++ history)
      { middle with
        runtime := (persistPending codec config hash system.writer input system.runtime).runtime
        phase := .idle
        writer := (persistPending codec config hash system.writer input system.runtime).writer
        disk, committed } := by
  obtain ⟨owned, outcome, owns, accepted, persisted, left⟩ := persistPending_ok succeeded
  have taken := reached.step (.gather enabled idle permuted input.forceCompaction gathered)
  have decision := taken.step
    (@Step.decide codec config hash { system with phase := .gathered _ _ _, clock := _ } _ _ _ rfl _
      decided _ _ accepted _ owns _ written input.faults)
  rw [Option.toList_none, List.append_nil, List.append_nil] at decision
  have observed := (during.enter (Phase.decided codec owned outcome input.written input.faults).1
    (some (Phase.decided codec owned outcome input.written input.faults).2)).reaches decision
  obtain ⟨disk, committed, publishing⟩ := reaches_publishing persisted observed
  have published := publishing.step (.publish rfl)
  have consumed := published.step (.consume rfl)
  rw [Option.toList_none, List.append_nil, List.append_nil] at consumed
  refine ⟨disk, committed, ?_⟩
  rw [left, afterwards, List.foldl_nil]
  rw [during.runtime_eq] at consumed
  exact consumed

end Runs

/-! ## A transaction that succeeds -/

/-- A transaction at one instant that takes the pending blocks as they stand in the table: every
step succeeds and no client acts. -/
def TransactionInput.quiet (runtime : Runtime) (now : Nat) (wall : Machine.Word) :
    TransactionInput where
  order := runtime.pending.entries.map fun entry => (entry.1, entry.2)
  forceCompaction := false
  gathered := now
  decided := now
  wall := some wall
  written := now
  faults := .none now
  during := []
  afterwards := []

/-- The fresh system after a violation that crosses the threshold of its rule. -/
def crossedSystem : System :=
  { freshSystem with
    runtime := freshSystem.runtime.recordClientProtocolViolation strictConfig (fun _ => 0)
      directClient .invalidWebsocket 0 }

theorem crossedSystem_reaches : Reaches stateText strictConfig (fun _ => 0) ∅
    [⟨directClient.clientIp, .invalidWebsocket, 0⟩] crossedSystem :=
  reaches_record (.start freshSystem_starts) directClient .invalidWebsocket (Nat.le_refl 0)

/-- A transaction settles the first crossing of a client. -/
theorem persist_pending_transaction_first :
    let input := TransactionInput.quiet crossedSystem.runtime 1 ⟨0, by decide⟩
    let transaction := persistPending stateText strictConfig (fun _ => 0) crossedSystem.writer input
      crossedSystem.runtime
    transaction.result = .ok () ∧
      Settled strictConfig 1 (gather strictConfig input.order 1) transaction.runtime.durable
        transaction.consumed := by
  intro input transaction
  have succeeded : transaction.result = .ok () := by decide +kernel
  have committed := persist_pending_transaction crossedSystem_reaches input (List.Perm.refl _)
  exact ⟨succeeded, (committed.2.1 succeeded).2.1⟩

end EdgeGateway.IpBlocking
