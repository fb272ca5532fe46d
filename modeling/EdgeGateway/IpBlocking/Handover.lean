import EdgeGateway.IpBlocking.Runtime

/-!
# Readers during a hand-over

A transaction of the manager moves an address from the temporary snapshot to the committed one:
it stores the new committed snapshot, and then takes the address from the pending blocks.  A
reader loads the two snapshots one after the other, in the same order.  A reader is turned away
wrongly exactly when both steps of the manager fall between its two loads.
-/

namespace EdgeGateway.IpBlocking

open IpAddress Security

variable {config : IpBlockingConfig}

/-! ## Readers -/

/-- A request that asks whether it is turned away; it reads the clock before the snapshots. -/
structure Query where
  address : ResolvedClientAddress
  now : Nat

/-- How far a reader has come. -/
inductive Reading
  /-- The committed snapshot does not turn it away. -/
  | waiting
  | returned (blocked : Bool)
deriving DecidableEq, Repr

/-- The reader up to its load of the committed snapshot. -/
def Query.loadDurable (config : IpBlockingConfig) (query : Query) (durable : BlockSnapshot) :
    Reading :=
  if !config.file.enabled || allowed config query.address.clientIp then .returned false
  else if (durable.lookup query.address.clientIp).any fun block => query.now < block.deadline then
    .returned true
  else .waiting

/-- The reader after its load of the temporary snapshot. -/
def Query.loadTemporary (query : Query) (temporary : Table IpAddr Nat) : Reading :=
  .returned ((temporary.lookup query.address.clientIp).any fun deadline => query.now < deadline)

/-- A reader between whose loads nothing happens computes the verdict of the runtime. -/
theorem Query.verdict (query : Query) (runtime : Runtime) :
    (match query.loadDurable config runtime.durable with
      | .waiting => query.loadTemporary runtime.temporary
      | returned => returned) =
      .returned (isClientIpBlocked config runtime query.address query.now) := by
  unfold loadDurable
  split_ifs with ignored found
  · simp only [Bool.or_eq_true, Bool.not_eq_true'] at ignored
    rcases ignored with disabled | listed
    · simp [isClientIpBlocked, disabled]
    · simp [isClientIpBlocked, listed]
  · simp only [Bool.not_eq_true, Bool.or_eq_false_iff, Bool.not_eq_false'] at ignored
    simp [isClientIpBlocked, Runtime.restricts, ignored, found]
  · simp only [Bool.not_eq_true, Bool.or_eq_false_iff, Bool.not_eq_false'] at ignored
    simp only [loadTemporary, isClientIpBlocked, Runtime.restricts, ignored, found, Bool.not_false,
      Bool.true_and, Bool.false_or]

/-! ## Interleavings -/

/-- The steps of a hand-over. -/
inductive Event (Reader : Type)
  | loadDurable (reader : Reader)
  | loadTemporary (reader : Reader)
  | store
  | consume
deriving DecidableEq

/-- How far the manager has come. -/
inductive Stage
  | storing
  | consuming
  | finished
deriving DecidableEq, Repr

variable {Reader : Type}

/-- Both steps of the manager fall between the two loads of the reader. -/
def Overtaken (reader : Reader) (trace : List (Event Reader)) : Prop :=
  [.loadDurable reader, .store, .consume, .loadTemporary reader].Sublist trace

/-! ## What a transaction hands over -/

/-- A transaction that commits the pending block of an address while the temporary snapshot
restricts that address. -/
structure Transfer (config : IpBlockingConfig) (runtime : Runtime) where
  batch : List (IpAddr × PendingBlock)
  forceCompaction : Bool
  decided : Nat
  wall : Option Machine.Word
  outcome : PersistedBatch
  proposal : PendingBlock
  accepted : buildBatch config runtime.durable batch forceCompaction decided wall = .ok outcome
  keyed : ∀ entry ∈ batch, entry.2.address.clientIp = entry.1
  activated : proposal ∈ outcome.activated
  recent : proposal.deadline ≤ decided + seconds temporarySeconds
  restricted : runtime.temporary.lookup proposal.address.clientIp = some proposal.deadline

/-- Every activated proposal has a fresh block, and is taken from the pending blocks. -/
theorem buildBatch_activated {old : BlockSnapshot} {batch : List (IpAddr × PendingBlock)}
    {forceCompaction : Bool} {decided : Nat} {wall : Option Machine.Word}
    {outcome : PersistedBatch}
    (accepted : buildBatch config old batch forceCompaction decided wall = .ok outcome)
    (keyed : ∀ entry ∈ batch, entry.2.address.clientIp = entry.1) {proposal : PendingBlock}
    (activated : proposal ∈ outcome.activated) :
    proposal.address.clientIp ∈ outcome.consumed ∧
      ∃ candidate block, outcome.snapshot = some candidate ∧
        candidate.lookup proposal.address.clientIp = some block ∧
        block.deadline = decided + seconds blockSeconds := by
  have fresh {wall : Machine.Word} {activation : Activation}
      (activated : activate config decided wall batch { candidate := unexpired old decided } =
        .ok activation) :
      ∀ proposal ∈ activation.activated, proposal.address.clientIp ∈ activation.consumed ∧
        ∃ block, activation.candidate.lookup proposal.address.clientIp = some block ∧
          block.deadline = decided + seconds blockSeconds := by
    refine activate_preserves
      (fun activation => ∀ proposal ∈ activation.activated,
        proposal.address.clientIp ∈ activation.consumed ∧
        ∃ block, activation.candidate.lookup proposal.address.clientIp = some block ∧
          block.deadline = decided + seconds blockSeconds) ?_ ?_ ?_ ?_ activated
    · intro activation ip holds proposal member
      obtain ⟨consumed, block⟩ := holds proposal member
      exact ⟨List.mem_append_left _ consumed, block⟩
    · exact fun _ holds => holds
    · intro activation ip proposal expires sum member _ absent _ holds other activated
      have own : proposal.address.clientIp = ip := keyed _ member
      simp only [Activation.commit, List.mem_append, List.mem_singleton] at activated ⊢
      rcases activated with before | rfl
      · obtain ⟨consumed, block, found, deadline⟩ := holds other before
        have distinct : other.address.clientIp ≠ ip := by
          intro same
          exact absent (Table.mem_iff_lookup.mpr ⟨block, same ▸ found⟩)
        rw [AList.lookup_insert_ne distinct]
        exact ⟨.inl consumed, block, found, deadline⟩
      · rw [own, AList.lookup_insert]
        exact ⟨.inr rfl, _, rfl, rfl⟩
    · intro proposal member
      cases member
  simp only [buildBatch] at accepted
  split_ifs at accepted
  · cases accepted
    cases activated
  · split at accepted
    · cases accepted
    · split at accepted
      · cases accepted
      · rename_i activation done
        split_ifs at accepted with writes overflowed
        · cases accepted
          obtain ⟨consumed, block, found, deadline⟩ := fresh done proposal activated
          exact ⟨consumed, _, block, rfl, found, deadline⟩
        · cases accepted
          have nonempty := List.ne_nil_of_mem activated
          simp [nonempty] at writes

/-! ## Views of a reader -/

variable {runtime : Runtime} {trace : List (Event Reader)}

/-- An event that is not the last one of a sequence does not complete it. -/
theorem sublist_of_append_ne {events : List (Event Reader)} {last event : Event Reader}
    (distinct : last ≠ event) (sub : (events ++ [last]).Sublist (trace ++ [event])) :
    (events ++ [last]).Sublist trace := by
  have reversed := sub.reverse
  rw [List.reverse_append, List.reverse_append] at reversed
  simp only [List.reverse_singleton, List.singleton_append, List.cons_sublist_cons'] at reversed
  rcases reversed with earlier | ⟨same, _⟩
  · have forward := earlier.reverse
    simpa using forward
  · exact absurd same distinct

theorem overtaken_append {reader : Reader} {event : Event Reader}
    (other : event ≠ .loadTemporary reader) :
    Overtaken reader (trace ++ [event]) ↔ Overtaken reader trace := by
  constructor
  · intro overtaken
    have sequence : [Event.loadDurable reader, .store, .consume, .loadTemporary reader] =
        [.loadDurable reader, .store, .consume] ++ [.loadTemporary reader] := rfl
    rw [Overtaken, sequence] at overtaken ⊢
    exact sublist_of_append_ne other.symm overtaken
  · exact fun overtaken => overtaken.trans (List.sublist_append_left _ _)

/-- The runtime at each stage of the manager. -/
def Stage.Reached (runtime : Runtime) (outcome : PersistedBatch) (trace : List (Event Reader))
    (current : Runtime) : Stage → Prop
  | .storing => current = runtime ∧ .consume ∉ trace
  | .consuming => current = runtime.commit outcome ∧ .consume ∉ trace
  | .finished => current = (runtime.commit outcome).consumePending outcome.consumed

/-- What a reader still has to see before both steps of the manager have overtaken it. -/
def Stage.overtaking (reader : Reader) : Stage → List (Event Reader)
  | .storing => [.loadDurable reader]
  | .consuming => [.loadDurable reader, .store]
  | .finished => [.loadDurable reader, .store, .consume]

/-- The committed snapshot at the start already turns the query away. -/
def Runtime.blocksAlready (runtime : Runtime) (query : Query) : Bool :=
  (runtime.durable.lookup query.address.clientIp).any fun block => query.now < block.deadline

/-- How far a reader is, and what its verdict means. -/
def Reading.Progress (runtime : Runtime) (query : Query) (reader : Reader)
    (trace : List (Event Reader)) (stage : Stage) : Option Reading → Prop
  | none => .loadDurable reader ∉ trace ∧ .loadTemporary reader ∉ trace
  | some .waiting => runtime.blocksAlready query = false ∧ .loadTemporary reader ∉ trace ∧
      (stage.overtaking reader).Sublist trace
  | some (.returned blocked) =>
      blocked = true ↔ runtime.blocksAlready query = true ∨ ¬ Overtaken reader trace

/-- Steps that are not its own change a reader only by what the manager has done. -/
theorem Reading.Progress.append {query : Query} {reader : Reader} {stage later : Stage}
    {reading : Option Reading} {event : Event Reader}
    (progress : Progress runtime query reader trace stage reading)
    (first : event ≠ .loadDurable reader) (second : event ≠ .loadTemporary reader)
    (seen : (stage.overtaking reader).Sublist trace →
      (later.overtaking reader).Sublist (trace ++ [event])) :
    Progress runtime query reader (trace ++ [event]) later reading := by
  cases reading with
  | none =>
      obtain ⟨durable, temporary⟩ := progress
      exact ⟨by simp [durable, first.symm], by simp [temporary, second.symm]⟩
  | some reading =>
    cases reading with
    | waiting =>
        obtain ⟨open_before, temporary, before⟩ := progress
        exact ⟨open_before, by simp [temporary, second.symm], seen before⟩
    | returned blocked =>
        rw [Progress, overtaken_append second]
        exact progress

/-- A reader that has not loaded the temporary snapshot has not been overtaken. -/
theorem not_overtaken {reader : Reader} (absent : .loadTemporary reader ∉ trace) :
    ¬ Overtaken reader trace := by
  intro overtaken
  exact absent (overtaken.subset (by simp))

/-- The first load of a reader of the transferred address. -/
theorem progress_loadDurable (transfer : Transfer config runtime)
    (enabled : config.file.enabled = true)
    (unlisted : allowed config transfer.proposal.address.clientIp = false) {query : Query}
    (same : query.address.clientIp = transfer.proposal.address.clientIp)
    (active : query.now < transfer.proposal.deadline) {stage : Stage} {current : Runtime}
    (reached : stage.Reached runtime transfer.outcome trace current) {reader : Reader}
    (fresh : .loadTemporary reader ∉ trace) :
    Reading.Progress runtime query reader (trace ++ [.loadDurable reader]) stage
      (some (query.loadDurable config current.durable)) := by
  have absent : .loadTemporary reader ∉ trace ++ [.loadDurable reader] := by simp [fresh]
  have committed (found : current.durable = (runtime.commit transfer.outcome).durable) :
      query.loadDurable config current.durable = .returned true := by
    obtain ⟨_, candidate, block, snapshot, found_block, deadline⟩ :=
      buildBatch_activated transfer.accepted transfer.keyed transfer.activated
    have lasting : query.now < block.deadline := by
      rw [deadline]
      have longer : seconds temporarySeconds ≤ seconds blockSeconds := by decide
      exact active.trans_le (transfer.recent.trans (Nat.add_le_add_left longer _))
    have stored : current.durable = candidate := by rw [found, Runtime.commit, snapshot]
    rw [stored, Query.loadDurable, same, found_block]
    simp [enabled, unlisted, lasting]
  cases stage with
  | storing =>
      rw [reached.1, Query.loadDurable, same]
      simp only [enabled, unlisted, Bool.not_true, Bool.or_self, Bool.false_eq_true, if_false]
      split_ifs with already
      · have blocked : runtime.blocksAlready query = true := by
          rw [Runtime.blocksAlready, same]
          exact already
        simp [Reading.Progress, blocked]
      · refine ⟨?_, absent, List.sublist_append_right _ _⟩
        rw [Runtime.blocksAlready, same]
        exact Bool.eq_false_iff.mpr already
  | consuming =>
      rw [committed (by rw [reached.1])]
      simp [Reading.Progress, not_overtaken absent]
  | finished =>
      rw [committed (by rw [reached, Runtime.consumePending_durable])]
      simp [Reading.Progress, not_overtaken absent]

/-- The second load of a reader of the transferred address. -/
theorem progress_loadTemporary (transfer : Transfer config runtime) {query : Query}
    (same : query.address.clientIp = transfer.proposal.address.clientIp)
    (active : query.now < transfer.proposal.deadline) {stage : Stage} {current : Runtime}
    (reached : stage.Reached runtime transfer.outcome trace current) {reader : Reader}
    (progress : Reading.Progress runtime query reader trace stage (some .waiting)) :
    Reading.Progress runtime query reader (trace ++ [.loadTemporary reader]) stage
      (some (query.loadTemporary current.temporary)) := by
  obtain ⟨open_before, _, seen⟩ := progress
  have last : Overtaken reader (trace ++ [.loadTemporary reader]) ↔
      [.loadDurable reader, .store, .consume].Sublist trace := by
    have sequence : [Event.loadDurable reader, .store, .consume, .loadTemporary reader] =
        [.loadDurable reader, .store, .consume] ++ [.loadTemporary reader] := rfl
    rw [Overtaken, sequence, List.append_sublist_append_right]
  have restricted (absent : Event.consume ∉ trace)
      (temporary : current.temporary = runtime.temporary) :
      Reading.Progress runtime query reader (trace ++ [.loadTemporary reader]) stage
        (some (query.loadTemporary current.temporary)) := by
    have pending : ¬ Overtaken reader (trace ++ [.loadTemporary reader]) := by
      rw [last]
      intro overtaken
      exact absent (overtaken.subset (by simp))
    rw [temporary, Query.loadTemporary, same, transfer.restricted]
    simp [Reading.Progress, active, pending]
  cases stage with
  | storing => exact restricted reached.2 (by rw [reached.1])
  | consuming =>
      refine restricted reached.2 ?_
      rw [reached.1, Runtime.commit_temporary]
  | finished =>
      have consumed :=
        (buildBatch_activated transfer.accepted transfer.keyed transfer.activated).1
      rw [reached, Query.loadTemporary, same, Runtime.consumePending_temporary _ consumed]
      simp [Reading.Progress, open_before, last.mpr seen]

/-! ## Every interleaving -/

/-- The runtime with its manager and its readers. -/
structure Handover (Reader : Type) where
  runtime : Runtime
  stage : Stage := .storing
  readers : Reader → Option Reading := fun _ => none

variable [DecidableEq Reader] {queries : Reader → Query} {state : Handover Reader}

/-- One step of a hand-over. -/
inductive HandoverStep (config : IpBlockingConfig) (outcome : PersistedBatch)
    (queries : Reader → Query) : Handover Reader → Event Reader → Handover Reader → Prop
  | loadDurable {state : Handover Reader} (reader : Reader) (new : state.readers reader = none) :
      HandoverStep config outcome queries state (.loadDurable reader)
        { state with
          readers := Function.update state.readers reader
            (some ((queries reader).loadDurable config state.runtime.durable)) }
  | loadTemporary {state : Handover Reader} (reader : Reader)
      (waiting : state.readers reader = some .waiting) :
      HandoverStep config outcome queries state (.loadTemporary reader)
        { state with
          readers := Function.update state.readers reader
            (some ((queries reader).loadTemporary state.runtime.temporary)) }
  | store {state : Handover Reader} (storing : state.stage = .storing) :
      HandoverStep config outcome queries state .store
        { state with runtime := state.runtime.commit outcome, stage := .consuming }
  | consume {state : Handover Reader} (consuming : state.stage = .consuming) :
      HandoverStep config outcome queries state .consume
        { state with
          runtime := state.runtime.consumePending outcome.consumed
          stage := .finished }

/-- The states that a hand-over reaches, with its steps in order. -/
inductive HandoverRun (config : IpBlockingConfig) (outcome : PersistedBatch)
    (queries : Reader → Query) (runtime : Runtime) : List (Event Reader) → Handover Reader → Prop
  | start : HandoverRun config outcome queries runtime [] { runtime }
  | step {trace : List (Event Reader)} {state next : Handover Reader} {event : Event Reader}
      (run : HandoverRun config outcome queries runtime trace state)
      (step : HandoverStep config outcome queries state event next) :
      HandoverRun config outcome queries runtime (trace ++ [event]) next

theorem reached_run {outcome : PersistedBatch}
    (run : HandoverRun config outcome queries runtime trace state) :
    state.stage.Reached runtime outcome trace state.runtime := by
  induction run with
  | start => exact ⟨rfl, List.not_mem_nil⟩
  | @step trace state next event run step ih =>
      cases step with
      | loadDurable reader new =>
          dsimp only
          cases stage : state.stage with
          | storing =>
              rw [stage] at ih
              exact ⟨ih.1, by simpa using ih.2⟩
          | consuming =>
              rw [stage] at ih
              exact ⟨ih.1, by simpa using ih.2⟩
          | finished =>
              rw [stage] at ih
              exact ih
      | loadTemporary reader waiting =>
          dsimp only
          cases stage : state.stage with
          | storing =>
              rw [stage] at ih
              exact ⟨ih.1, by simpa using ih.2⟩
          | consuming =>
              rw [stage] at ih
              exact ⟨ih.1, by simpa using ih.2⟩
          | finished =>
              rw [stage] at ih
              exact ih
      | store storing =>
          rw [storing] at ih
          obtain ⟨same, absent⟩ := ih
          exact ⟨congrArg (Runtime.commit · outcome) same, by simpa using absent⟩
      | consume consuming =>
          rw [consuming] at ih
          exact congrArg (Runtime.consumePending · outcome.consumed) ih.1

/-- The invariant of every reader of the transferred address. -/
theorem progress_run (transfer : Transfer config runtime) (enabled : config.file.enabled = true)
    (unlisted : allowed config transfer.proposal.address.clientIp = false) {reader : Reader}
    (same : (queries reader).address.clientIp = transfer.proposal.address.clientIp)
    (active : (queries reader).now < transfer.proposal.deadline)
    (run : HandoverRun config transfer.outcome queries runtime trace state) :
    Reading.Progress runtime (queries reader) reader trace state.stage (state.readers reader) := by
  induction run with
  | start => exact ⟨List.not_mem_nil, List.not_mem_nil⟩
  | @step trace state next event run step ih =>
      have reached := reached_run run
      cases step with
      | loadDurable other new =>
          by_cases own : other = reader
          · subst own
            rw [new] at ih
            simp only [Function.update_self]
            exact progress_loadDurable transfer enabled unlisted same active reached ih.2
          · simp only [Function.update_of_ne (Ne.symm own)]
            refine ih.append (by simpa using own) (by simp) ?_
            exact fun seen => seen.trans (List.sublist_append_left _ _)
      | loadTemporary other waiting =>
          by_cases own : other = reader
          · subst own
            rw [waiting] at ih
            simp only [Function.update_self]
            exact progress_loadTemporary transfer same active reached ih
          · simp only [Function.update_of_ne (Ne.symm own)]
            refine ih.append (by simp) (by simpa using own) ?_
            exact fun seen => seen.trans (List.sublist_append_left _ _)
      | store storing =>
          refine ih.append (by simp) (by simp) ?_
          rw [storing]
          exact fun seen => seen.append (List.Sublist.refl [Event.store])
      | consume consuming =>
          refine ih.append (by simp) (by simp) ?_
          rw [consuming]
          exact fun seen => seen.append (List.Sublist.refl [Event.consume])

/-! ## Verdicts during a hand-over -/

/-- The pending block of a client's first violation. -/
def firstProposal : PendingBlock :=
  ⟨directClient, .invalidWebsocket, 1, seconds temporarySeconds, by decide⟩

/-- The runtime after a client's first violation. -/
def afterFirstViolation : Runtime :=
  (Runtime.load ∅).recordClientProtocolViolation strictConfig (fun _ => 0) directClient
    .invalidWebsocket 0

/-- The transaction that commits the block of the first violation, one nanosecond later. -/
def firstTransfer : Transfer strictConfig afterFirstViolation where
  batch := [(directClient.clientIp, firstProposal)]
  forceCompaction := false
  decided := 1
  wall := some ⟨0, by decide⟩
  outcome :=
    { snapshot := some ((∅ : BlockSnapshot).insert directClient.clientIp
        ⟨⟨directClient.clientIp, ⟨0, by decide⟩, ⟨86400, by decide⟩, .invalidWebsocket, 1⟩,
          1 + seconds blockSeconds, by decide⟩)
      consumed := [directClient.clientIp]
      activated := [firstProposal] }
  proposal := firstProposal
  accepted := rfl
  keyed := by
    intro entry member
    rw [List.mem_singleton.mp member]
    rfl
  activated := List.mem_singleton_self _
  recent := by decide
  restricted := rfl

/-- While a restricted address is handed over, a reader turns it away exactly when the committed
snapshot did so before, or not both steps of the manager fall between its two loads. -/
theorem blocked_iff_not_overtaken (transfer : Transfer config runtime)
    (enabled : config.file.enabled = true)
    (unlisted : allowed config transfer.proposal.address.clientIp = false)
    (run : HandoverRun config transfer.outcome queries runtime trace state) {reader : Reader}
    (same : (queries reader).address.clientIp = transfer.proposal.address.clientIp)
    (active : (queries reader).now < transfer.proposal.deadline) {blocked : Bool}
    (returned : state.readers reader = some (.returned blocked)) :
    blocked = true ↔
      runtime.blocksAlready (queries reader) = true ∨ ¬ Overtaken reader trace := by
  have progress := progress_run transfer enabled unlisted same active run
  rw [returned] at progress
  exact progress

theorem blocked_iff_not_overtaken_first :
    true = true ↔ afterFirstViolation.blocksAlready ⟨directClient, 1⟩ = true ∨
      ¬ Overtaken () [.loadDurable (), .store, .loadTemporary (), .consume] := by
  have started : HandoverRun strictConfig firstTransfer.outcome
      (fun _ : Unit => ⟨directClient, 1⟩) afterFirstViolation []
      { runtime := afterFirstViolation } :=
    .start
  have loaded := started.step (.loadDurable () rfl)
  have stored := loaded.step (.store rfl)
  have returned := stored.step (.loadTemporary () rfl)
  have consumed := returned.step (.consume rfl)
  exact blocked_iff_not_overtaken firstTransfer rfl rfl consumed rfl (by decide) rfl

/-- A restricted client is let through: the manager stores and consumes its block after the
client's reader has loaded the committed snapshot and before it loads the temporary one. -/
theorem restricted_client_unblocked :
    ∃ state, HandoverRun strictConfig firstTransfer.outcome (fun _ : Unit => ⟨directClient, 1⟩)
        afterFirstViolation [.loadDurable (), .store, .consume, .loadTemporary ()] state ∧
      allowed strictConfig directClient.clientIp = false ∧
      afterFirstViolation.temporary.lookup directClient.clientIp = some firstProposal.deadline ∧
      1 < firstProposal.deadline ∧
      state.readers () = some (.returned false) := by
  have started : HandoverRun strictConfig firstTransfer.outcome
      (fun _ : Unit => ⟨directClient, 1⟩) afterFirstViolation []
      { runtime := afterFirstViolation } :=
    .start
  have loaded := started.step (.loadDurable () rfl)
  have stored := loaded.step (.store rfl)
  have consumed := stored.step (.consume rfl)
  have returned := consumed.step (.loadTemporary () rfl)
  exact ⟨_, returned, rfl, rfl, by decide, rfl⟩

end EdgeGateway.IpBlocking
