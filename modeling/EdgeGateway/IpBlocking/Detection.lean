import EdgeGateway.IpBlocking.Transaction
import EdgeGateway.Library.FixedWindow

/-!
# Attacks are detected

Violations of one rule that come fast enough lead to a pending block, wherever the counting period
of the rule began and whatever the manager and other clients do meanwhile.
-/

namespace EdgeGateway.IpBlocking

open CrashDisk IpAddress Security FixedWindow

variable {codec : StateCodec} {config : IpBlockingConfig} {hash : IpAddr → Nat}
  {loaded : BlockSnapshot} {ip : IpAddr} {rule : ViolationRule} {first : Nat}

/-! ## Runs step by step -/

/-- One step of a run, with the systems around it. -/
structure Transition where
  before : System
  violation : Option Violation
  after : System

/-- The steps of a run. -/
inductive Path (codec : StateCodec) (config : IpBlockingConfig) (hash : IpAddr → Nat)
    (start : System) : List Transition → System → Prop
  | nil : Path codec config hash start [] start
  | step {transitions : List Transition} {system next : System} {violation : Option Violation}
      (path : Path codec config hash start transitions system)
      (step : Step codec config hash system violation next) :
      Path codec config hash start (transitions ++ [⟨system, violation, next⟩]) next

theorem Path.reaches {start finish : System} {transitions : List Transition}
    {history : List Violation} (path : Path codec config hash start transitions finish)
    (reached : Reaches codec config hash loaded history start) :
    (∃ history, Reaches codec config hash loaded history finish) ∧
      ∀ transition ∈ transitions,
        ∃ history, Reaches codec config hash loaded history transition.before := by
  induction path with
  | nil => exact ⟨⟨history, reached⟩, fun _ member => nomatch member⟩
  | step path step ih =>
      obtain ⟨⟨before, arrived⟩, earlier⟩ := ih
      refine ⟨⟨_, arrived.step step⟩, ?_⟩
      intro transition member
      rcases List.mem_append.mp member with member | last
      · exact earlier transition member
      · obtain rfl := List.mem_singleton.mp last
        exact ⟨before, arrived⟩

/-! ## What one step does to a client -/

/-- The counters of an address. -/
def System.window (hash : IpAddr → Nat) (system : System) (ip : IpAddr) : Option ClientWindow :=
  (system.runtime.windows (shardIndex hash ip)).lookup ip

/-- Crossings of a rule by an address since an instant that wait for the pending blocks. -/
def System.waiting (system : System) (ip : IpAddr) (rule : ViolationRule) (first : Nat) : Nat :=
  system.crossings.countP fun crossing =>
    crossing.address.clientIp = ip ∧ crossing.rule = rule ∧ first ≤ crossing.now

section Steps

variable {system next : System} {violation : Option Violation}

theorem clock_step (step : Step codec config hash system violation next) :
    system.clock ≤ next.clock := by
  cases step with
  | observe address rule later => exact later
  | sweepWindows enabled shard later => exact later
  | sweepPending enabled later => exact later
  | drainPending enabled later => exact later
  | gather enabled idle permuted forceCompaction later => exact later
  | reject gathered later rejected => exact later
  | decide gathered later accepted owned afterwards faults => exact later.trans afterwards
  | enqueue | shutdown | operate | fail | succeed | publish | consume => exact le_rfl

theorem Runtime.sweepPending_windows (runtime : Runtime) (now : Nat) :
    (runtime.sweepPending now).windows = runtime.windows := by
  unfold sweepPending
  dsimp only
  split_ifs <;> rfl

theorem Runtime.enqueue_windows (runtime : Runtime) (crossing : Crossing) :
    (runtime.enqueue config crossing).windows = runtime.windows := by
  unfold enqueue
  dsimp only
  split_ifs <;> rfl

theorem Runtime.commit_windows (runtime : Runtime) (outcome : PersistedBatch) :
    (runtime.commit outcome).windows = runtime.windows := by
  unfold commit
  split <;> rfl

theorem Runtime.consumePending_windows (runtime : Runtime) (consumed : List IpAddr) :
    (runtime.consumePending consumed).windows = runtime.windows := by
  unfold consumePending
  split_ifs <;> rfl

/-- The counters of an address change when it violates a rule or has been idle for half an hour. -/
theorem window_step (step : Step codec config hash system violation next) (ip : IpAddr) :
    next.window hash ip = system.window hash ip ∨
      (∃ rule now, violation = some ⟨ip, rule, now⟩ ∧ next.clock = now ∧
        next.window hash ip = some (system.runtime.counted hash ip rule now)) ∨
      ∃ window, system.window hash ip = some window ∧
        seconds 1800 ≤ next.clock - window.lastSeen := by
  cases step with
  | @observe address rule now later =>
      rcases system.runtime.observe_cases config hash address rule now with
        same | ⟨_, _, same, _⟩
      · left
        simp only [System.window, same]
      · by_cases own : address.clientIp = ip
        · subst own
          refine .inr (.inl ⟨rule, now, rfl, rfl, ?_⟩)
          simp only [System.window, same, Runtime.setShard_same, AList.lookup_insert]
        · left
          simp only [System.window, same]
          by_cases shared : shardIndex hash ip = shardIndex hash address.clientIp
          · rw [shared, Runtime.setShard_same, AList.lookup_insert_ne (Ne.symm own)]
          · rw [Runtime.setShard_other _ _ shared]
  | @sweepWindows enabled shard now later =>
      by_cases own : shardIndex hash ip = shard
      · cases found : system.window hash ip with
        | none =>
            left
            simp only [System.window, Runtime.sweepWindows, own, Runtime.setShard_same] at found ⊢
            rw [Table.lookup_retain, found, Option.filter_none]
        | some window =>
            by_cases idle : now - window.lastSeen < seconds 1800
            · left
              simp only [System.window, Runtime.sweepWindows, own, Runtime.setShard_same] at found ⊢
              exact Table.lookup_retain_eq_some.mpr ⟨found, decide_eq_true idle⟩
            · exact .inr (.inr ⟨window, rfl, Nat.le_of_not_lt idle⟩)
      · left
        simp only [System.window, Runtime.sweepWindows, Runtime.setShard_other _ _ own]
  | enqueue waiting => exact .inl (by simp only [System.window, Runtime.enqueue_windows])
  | sweepPending enabled later =>
      exact .inl (by simp only [System.window, Runtime.sweepPending_windows])
  | publish publishing => exact .inl (by simp only [System.window, Runtime.commit_windows])
  | consume consuming =>
      exact .inl (by simp only [System.window, Runtime.consumePending_windows])
  | shutdown | drainPending | gather | reject | decide | operate | fail | succeed =>
      exact .inl rfl

/-- A crossing that leaves for a pending table with room enters its address there. -/
theorem waiting_step (step : Step codec config hash system violation next)
    (fewer : next.waiting ip rule first < system.waiting ip rule first)
    (absent : ip ∉ system.runtime.pending)
    (room : system.runtime.pending.size < config.file.maxPendingActivations) :
    ip ∈ next.runtime.pending := by
  cases step with
  | observe address rule later =>
      simp only [System.waiting, List.countP_append] at fewer
      omega
  | @enqueue before after crossing waiting =>
      simp only [System.waiting, waiting, List.countP_append, List.countP_cons] at fewer
      have own : crossing.address.clientIp = ip := by
        by_contra other
        simp [other] at fewer
      subst own
      unfold Runtime.enqueue
      dsimp only
      rw [if_neg absent, if_neg (Nat.not_le.mpr room)]
      exact (AList.mem_insert _).mpr (.inl rfl)
  | sweepWindows | sweepPending | shutdown | drainPending | gather | reject | decide | operate
  | fail | succeed | publish | consume => exact absurd fewer (Nat.lt_irrefl _)

/-- A violation that nothing turns away is counted, and crosses the threshold or not. -/
theorem Runtime.observe_counts {runtime : Runtime} {address : ResolvedClientAddress} {now : Nat}
    (enabled : config.file.enabled = true) (unlisted : allowed config address.clientIp = false)
    (accepting : runtime.accepting = true)
    (free : runtime.restricts address.clientIp now = false)
    (tracked : address.clientIp ∈ runtime.windows (shardIndex hash address.clientIp) ∨
      (runtime.windows (shardIndex hash address.clientIp)).size <
        shardCapacity config (shardIndex hash address.clientIp)) :
    runtime.observe config hash address rule now =
      (runtime.setShard (shardIndex hash address.clientIp)
        ((runtime.windows (shardIndex hash address.clientIp)).insert address.clientIp
          (runtime.counted hash address.clientIp rule now)),
        if ((runtime.counted hash address.clientIp rule now).rules rule).count <
          threshold config rule then none
        else
          some ⟨address, rule, ((runtime.counted hash address.clientIp rule now).rules rule).count,
            now, ClientWindow.count_ne_zero _ rule now⟩) := by
  have open_call : (!config.file.enabled || allowed config address.clientIp || !runtime.accepting ||
      runtime.restricts address.clientIp now) = false := by
    simp [enabled, unlisted, accepting, free]
  have room : ¬(address.clientIp ∉ runtime.windows (shardIndex hash address.clientIp) ∧
      shardCapacity config (shardIndex hash address.clientIp) ≤
        (runtime.windows (shardIndex hash address.clientIp)).size) := by
    rw [not_and_or, not_not, not_le]
    exact tracked
  simp only [Runtime.observe, open_call, Bool.false_eq_true, if_false, if_neg room]

/-- A call that nothing turns away counts, and its crossing is under way if there is one. -/
theorem call_step {now : Nat} (step : Step codec config hash system (some ⟨ip, rule, now⟩) next)
    (enabled : config.file.enabled = true) (unlisted : allowed config ip = false)
    (accepting : system.runtime.accepting = true)
    (free : system.runtime.restricts ip now = false)
    (tracked : ip ∈ system.runtime.windows (shardIndex hash ip) ∨
      (system.runtime.windows (shardIndex hash ip)).size <
        shardCapacity config (shardIndex hash ip)) (later : first ≤ now) :
    next.clock = now ∧
      next.window hash ip = some (system.runtime.counted hash ip rule now) ∧
      (threshold config rule ≤ ((system.runtime.counted hash ip rule now).rules rule).count →
        0 < next.waiting ip rule first) := by
  cases step with
  | @observe address _ _ _ =>
      have counts := @Runtime.observe_counts config hash rule system.runtime address now enabled
        unlisted accepting free tracked
      refine ⟨rfl, ?_, ?_⟩
      · simp only [System.window, counts, Runtime.setShard_same, AList.lookup_insert]
      · intro crosses
        rw [if_neg (Nat.not_lt.mpr crosses)] at counts
        simp only [System.waiting, counts, Option.toList_some, List.singleton_append,
          List.countP_cons, later, and_self, decide_true, if_true]
        exact Nat.succ_pos _

end Steps

/-! ## Counters as fixed windows -/

theorem threshold_le (config : IpBlockingConfig) (rule : ViolationRule) :
    threshold config rule ≤ 1000000 := by
  have bounded := config.bounded.thresholds
  simp only [ViolationThresholds.values, List.forall_mem_cons] at bounded
  cases rule with
  | invalidWebsocket => exact bounded.1.2
  | invalidGrpc => exact bounded.2.1.2
  | sizeViolation => exact bounded.2.2.1.2
  | namespaceScan => exact bounded.2.2.2.1.2

/-- The counter of a rule. -/
def RuleWindow.counter (window : RuleWindow) : Counter :=
  ⟨window.since, window.count⟩

/-- Below the largest number, counting a violation is one more hit. -/
theorem ClientWindow.count_hit (window : ClientWindow) (rule : ViolationRule) (now : Nat)
    (small : ((window.count rule now).rules rule).count < 2 ^ 32 - 1) :
    ((window.count rule now).rules rule).counter =
      (window.rules rule).counter.hit rule.window now := by
  simp only [count, Function.update_self, saturatingIncrement, RuleWindow.counter,
    Counter.hit] at small ⊢
  by_cases expired : rule.window ≤ now - (window.rules rule).since
  · simp [expired]
  · simp only [expired, if_false] at small ⊢
    rw [Nat.min_eq_left (by omega)]

/-! ## Undetected calls -/

/-- A call of the client that records a violation of the rule. -/
def Transition.isCall (ip : IpAddr) (rule : ViolationRule) (transition : Transition) : Bool :=
  transition.violation.any fun violation => violation.clientIp = ip ∧ violation.rule = rule

theorem Transition.isCall_iff {transition : Transition} :
    transition.isCall ip rule = true ↔ ∃ now, transition.violation = some ⟨ip, rule, now⟩ := by
  rw [isCall, Option.any_eq_true]
  constructor
  · intro found
    obtain ⟨⟨_, _, now⟩, same, own⟩ := found
    simp only [decide_eq_true_eq] at own
    obtain ⟨rfl, rfl⟩ := own
    exact ⟨now, same⟩
  · intro found
    obtain ⟨now, same⟩ := found
    exact ⟨_, same, by simp⟩

/-- A step that may be part of an attack: its calls fall into the period of the rule, the manager
accepts them, and neither the shard of the address nor the pending table overflows for them. -/
structure Transition.Admitted (config : IpBlockingConfig) (hash : IpAddr → Nat) (ip : IpAddr)
    (rule : ViolationRule) (first : Nat) (transition : Transition) : Prop where
  within : ∀ now, transition.violation = some ⟨ip, rule, now⟩ →
    first ≤ now ∧ now < first + rule.window
  accepting : ∀ now, transition.violation = some ⟨ip, rule, now⟩ →
    transition.before.runtime.accepting = true
  tracked : ∀ now, transition.violation = some ⟨ip, rule, now⟩ →
    ip ∈ transition.before.runtime.windows (shardIndex hash ip) ∨
      (transition.before.runtime.windows (shardIndex hash ip)).size <
        shardCapacity config (shardIndex hash ip)
  room : transition.after.waiting ip rule first < transition.before.waiting ip rule first →
    ip ∈ transition.before.runtime.pending ∨
      transition.before.runtime.pending.size < config.file.maxPendingActivations

/-- A step that enters the address into the pending table. -/
def Transition.Enters (ip : IpAddr) (transition : Transition) : Prop :=
  ip ∉ transition.before.runtime.pending ∧ ip ∈ transition.after.runtime.pending

/-- What some undetected calls have left: a crossing under way, or counters below the threshold. -/
inductive Undetected (config : IpBlockingConfig) (hash : IpAddr → Nat) (ip : IpAddr)
    (rule : ViolationRule) (first calls : Nat) (system : System) : Prop
  | waiting (crossing : 0 < system.waiting ip rule first)
  | counting (few : calls + 1 < 2 * threshold config rule)
      (counted : system.clock < first + rule.window → ∃ window,
        system.window hash ip = some window ∧ first ≤ window.lastSeen ∧
          Below (threshold config rule) first calls (window.rules rule).counter)

section Undetected

variable {system next : System} {violation : Option Violation} {calls : Nat}

/-- No sweep comes while the counters of a recent violation matter. -/
theorem window_lt_idle (rule : ViolationRule) : rule.window < seconds 1800 := by
  cases rule <;> decide

/-- A call that nothing turns away is one more undetected call. -/
theorem undetected_call {now : Nat}
    (step : Step codec config hash system (some ⟨ip, rule, now⟩) next)
    (enabled : config.file.enabled = true) (unlisted : allowed config ip = false)
    (admitted : Transition.Admitted config hash ip rule first
      ⟨system, some ⟨ip, rule, now⟩, next⟩)
    (free : system.runtime.restricts ip now = false)
    (before : calls = 0 ∨ Undetected config hash ip rule first calls system) :
    Undetected config hash ip rule first (calls + 1) next := by
  obtain ⟨later, within⟩ := admitted.within now rfl
  obtain ⟨clock, counts, crosses⟩ := call_step step enabled unlisted (admitted.accepting now rfl)
    free (admitted.tracked now rfl) later
  by_cases crossed :
      threshold config rule ≤ ((system.runtime.counted hash ip rule now).rules rule).count
  · exact .waiting (crosses crossed)
  · have below := Nat.lt_of_not_le crossed
    have small : ((system.runtime.counted hash ip rule now).rules rule).count < 2 ^ 32 - 1 :=
      (below.trans_le (threshold_le config rule)).trans (by decide)
    have hit := ClientWindow.count_hit _ rule now small
    have counting (tally : Below (threshold config rule) first (calls + 1)
        ((system.runtime.counted hash ip rule now).rules rule).counter) :
        Undetected config hash ip rule first (calls + 1) next :=
      .counting tally.hits_lt fun _ => ⟨_, counts, later, tally⟩
    rcases before with none | undetected
    · subst none
      apply counting
      rw [Runtime.counted, hit]
      exact below_first later (congrArg Counter.count hit ▸ below)
    · cases undetected with
      | waiting crossing =>
          cases step with
          | observe address _ _ =>
              refine .waiting (crossing.trans_le ?_)
              simp only [System.waiting, List.countP_append]
              exact Nat.le_add_left _ _
      | counting few counted =>
          have young : system.clock < first + rule.window :=
            (clock_step step).trans_lt (clock ▸ within)
          obtain ⟨window, found, _, tally⟩ := counted young
          have same : ((system.runtime.windows (shardIndex hash ip)).lookup ip).getD (.fresh now) =
              window := by
            rw [System.window] at found
            rw [found, Option.getD_some]
          rw [same] at hit
          apply counting
          rw [Runtime.counted, same, hit]
          refine tally.hit later within ?_
          rw [← hit]
          rw [Runtime.counted, same] at below
          exact below

/-- Other steps leave undetected calls undetected, when none of them enters the address. -/
theorem undetected_step (step : Step codec config hash system violation next)
    (other : ∀ now, violation ≠ some ⟨ip, rule, now⟩)
    (admitted : Transition.Admitted config hash ip rule first ⟨system, violation, next⟩)
    (started : first ≤ system.clock) (absent : ip ∉ system.runtime.pending)
    (missed : ip ∉ next.runtime.pending)
    (before : Undetected config hash ip rule first calls system) :
    Undetected config hash ip rule first calls next := by
  cases before with
  | waiting crossing =>
      by_cases fewer : next.waiting ip rule first < system.waiting ip rule first
      · rcases admitted.room fewer with known | room
        · exact absurd known absent
        · exact absurd (waiting_step step fewer absent room) missed
      · exact .waiting (crossing.trans_le (Nat.le_of_not_lt fewer))
  | counting few counted =>
      refine .counting few fun young => ?_
      have passed := clock_step step
      obtain ⟨window, found, seen, tally⟩ := counted (passed.trans_lt young)
      rcases window_step step ip with same | ⟨violated, now, recorded, clock, counts⟩ |
        ⟨idle_window, idle_found, idle⟩
      · exact ⟨window, same.trans found, seen, tally⟩
      · have distinct : rule ≠ violated := by
          intro same
          exact other now (same ▸ recorded)
        rw [System.window] at found
        rw [Runtime.counted, found, Option.getD_some] at counts
        refine ⟨_, counts, started.trans (passed.trans clock.le), ?_⟩
        rw [window.count_other distinct]
        exact tally
      · rw [found, Option.some.injEq] at idle_found
        subst idle_found
        have short := window_lt_idle rule
        omega

end Undetected

/-- What all calls of a run have left that neither entered the address into the pending table nor
found it there or restricted. -/
theorem undetected_run {start finish : System} {transitions : List Transition}
    (path : Path codec config hash start transitions finish)
    (enabled : config.file.enabled = true) (unlisted : allowed config ip = false)
    (admitted : ∀ transition ∈ transitions, transition.Admitted config hash ip rule first)
    (missed : ∀ transition ∈ transitions, ¬transition.Enters ip)
    (clear : ∀ transition ∈ transitions, ∀ now, transition.violation = some ⟨ip, rule, now⟩ →
      transition.before.runtime.restricts ip now = false ∧
        ip ∉ transition.before.runtime.pending) :
    transitions.countP (Transition.isCall ip rule) = 0 ∨
      (first ≤ finish.clock ∧ ip ∉ finish.runtime.pending ∧
        Undetected config hash ip rule first (transitions.countP (Transition.isCall ip rule))
          finish) := by
  induction path with
  | nil => exact .inl rfl
  | @step transitions system next violation path step ih =>
      have last : (⟨system, violation, next⟩ : Transition) ∈
          transitions ++ [⟨system, violation, next⟩] :=
        List.mem_append_right _ List.mem_cons_self
      have before := ih (fun transition member => admitted _ (List.mem_append_left _ member))
        (fun transition member => missed _ (List.mem_append_left _ member))
        (fun transition member => clear _ (List.mem_append_left _ member))
      have outside (absent : ip ∉ system.runtime.pending) : ip ∉ next.runtime.pending :=
        fun entered => missed _ last ⟨absent, entered⟩
      rw [List.countP_append, List.countP_singleton]
      by_cases call : Transition.isCall ip rule ⟨system, violation, next⟩ = true
      · rw [if_pos call]
        right
        obtain ⟨now, same⟩ := Transition.isCall_iff.mp call
        dsimp only at same
        subst same
        obtain ⟨free, absent⟩ := clear _ last now rfl
        have undetected := undetected_call step enabled unlisted (admitted _ last) free
          (before.imp_right fun known => known.2.2)
        have clock : next.clock = now := by
          cases step
          rfl
        exact ⟨clock ▸ ((admitted _ last).within now rfl).1, outside absent, undetected⟩
      · rw [if_neg call, Nat.add_zero]
        refine before.imp_right fun known => ?_
        obtain ⟨started, absent, undetected⟩ := known
        refine ⟨started.trans (clock_step step), outside absent, ?_⟩
        refine undetected_step step ?_ (admitted _ last) started absent (outside absent) undetected
        intro now same
        exact call (Transition.isCall_iff.mpr ⟨now, same⟩)

/-- Twice the threshold less one calls within the period of a rule, all of which have returned. -/
structure Attack (config : IpBlockingConfig) (hash : IpAddr → Nat) (ip : IpAddr)
    (rule : ViolationRule) (first : Nat) (transitions : List Transition) (finish : System) :
    Prop where
  calls : 2 * threshold config rule - 1 ≤ transitions.countP (Transition.isCall ip rule)
  admitted : ∀ transition ∈ transitions, transition.Admitted config hash ip rule first
  returned : finish.waiting ip rule first = 0

/-- The address was entered into the pending table, or restricted at one of its calls. -/
def Detected (ip : IpAddr) (rule : ViolationRule) (transitions : List Transition) : Prop :=
  ∃ transition ∈ transitions, transition.Enters ip ∨
    ∃ now, transition.violation = some ⟨ip, rule, now⟩ ∧
      transition.before.runtime.restricts ip now = true

/-- An attack is detected, unless the address had an expired entry at one of its calls that the
manager had not swept yet. -/
theorem attack_detected {start finish : System} {transitions : List Transition}
    {history : List Violation} (reached : Reaches codec config hash loaded history start)
    (path : Path codec config hash start transitions finish)
    (enabled : config.file.enabled = true) (unlisted : allowed config ip = false)
    (attack : Attack config hash ip rule first transitions finish) :
    Detected ip rule transitions ∨
      ∃ transition ∈ transitions, ∃ now entry,
        transition.violation = some ⟨ip, rule, now⟩ ∧
          transition.before.runtime.pending.lookup ip = some entry ∧ entry.deadline ≤ now := by
  obtain ⟨calls, admitted, returned⟩ := attack
  by_contra undetected
  rw [not_or] at undetected
  obtain ⟨undetected, swept⟩ := undetected
  have missed : ∀ transition ∈ transitions, ¬transition.Enters ip :=
    fun transition member enters => undetected ⟨transition, member, .inl enters⟩
  have clear : ∀ transition ∈ transitions, ∀ now,
      transition.violation = some ⟨ip, rule, now⟩ →
        transition.before.runtime.restricts ip now = false ∧
          ip ∉ transition.before.runtime.pending := by
    intro transition member now called
    have free : transition.before.runtime.restricts ip now = false := by
      rw [Bool.eq_false_iff]
      intro restricted
      exact undetected ⟨transition, member, .inr ⟨now, called, restricted⟩⟩
    refine ⟨free, ?_⟩
    intro known
    obtain ⟨entry, found⟩ := Table.mem_iff_lookup.mp known
    -- The temporary snapshot restricts the address for as long as its entry has not expired.
    obtain ⟨_, arrived⟩ := (path.reaches reached).2 transition member
    have published := (bounds_run arrived).runtime.published
    have expired : entry.deadline ≤ now := by
      by_contra unexpired
      have restricted : transition.before.runtime.restricts ip now = true := by
        simp [Runtime.restricts, published, found, Nat.lt_of_not_le unexpired]
      rw [free] at restricted
      cases restricted
    exact swept ⟨transition, member, now, entry, called, found, expired⟩
  have positive := threshold_pos config rule
  rcases undetected_run path enabled unlisted admitted missed clear with none | ⟨_, _, left⟩
  · omega
  · cases left with
    | waiting crossing => omega
    | counting few counted => omega

/-! ## Three calls of a new client -/

/-- A configuration under which the second violation of a client leads to a block. -/
def patientConfig : IpBlockingConfig where
  file := { enabled := true, thresholds := ⟨2, 2, 2, 2⟩ }
  allow := []
  bounded := by decide

/-- A system after a call that the patient configuration has counted. -/
def System.counted (system : System) (now : Nat) : System :=
  { system with
    runtime := (system.runtime.observe patientConfig (fun _ => 0) directClient .invalidWebsocket
      now).1
    crossings := (system.runtime.observe patientConfig (fun _ => 0) directClient .invalidWebsocket
      now).2.toList ++ system.crossings
    clock := now }

/-- The crossing of the second call. -/
def patientCrossing : Crossing where
  address := directClient
  rule := .invalidWebsocket
  count := 2
  now := 1
  counted := by decide

/-- The system after the second call has returned. -/
def restrictedSystem : System :=
  { (freshSystem.counted 0).counted 1 with
    runtime := ((freshSystem.counted 0).counted 1).runtime.enqueue patientConfig patientCrossing
    crossings := [] }

/-- Three calls, the second of which crosses the threshold. -/
def patientCalls : List Transition :=
  [⟨freshSystem, some ⟨directClient.clientIp, .invalidWebsocket, 0⟩, freshSystem.counted 0⟩,
    ⟨freshSystem.counted 0, some ⟨directClient.clientIp, .invalidWebsocket, 1⟩,
      (freshSystem.counted 0).counted 1⟩,
    ⟨(freshSystem.counted 0).counted 1, none, restrictedSystem⟩,
    ⟨restrictedSystem, some ⟨directClient.clientIp, .invalidWebsocket, 2⟩,
      restrictedSystem.counted 2⟩]

theorem step_counted {system : System} {now : Nat} (later : system.clock ≤ now) :
    Step stateText patientConfig (fun _ => 0) system
      (some ⟨directClient.clientIp, .invalidWebsocket, now⟩) (system.counted now) :=
  .observe directClient .invalidWebsocket later

theorem path_patientCalls : Path stateText patientConfig (fun _ => 0) freshSystem patientCalls
    (restrictedSystem.counted 2) := by
  have crossed : ((freshSystem.counted 0).counted 1).crossings = [] ++ patientCrossing :: [] := by
    rfl
  exact (((Path.nil.step (step_counted (by decide))).step (step_counted (by decide))).step
    (.enqueue crossed)).step (step_counted (by decide))

theorem attack_patientCalls : Attack patientConfig (fun _ => 0) directClient.clientIp
    .invalidWebsocket 0 patientCalls (restrictedSystem.counted 2) := by
  refine ⟨by decide +kernel, ?_, by decide +kernel⟩
  have counts {system : System} {now : Nat} (soon : now < ViolationRule.invalidWebsocket.window)
      (accepting : system.runtime.accepting = true)
      (tracked : (system.runtime.windows (shardIndex (fun _ => 0) directClient.clientIp)).size <
        shardCapacity patientConfig (shardIndex (fun _ => 0) directClient.clientIp))
      (kept : system.waiting directClient.clientIp .invalidWebsocket 0 ≤
        (system.counted now).waiting directClient.clientIp .invalidWebsocket 0) :
      Transition.Admitted patientConfig (fun _ => 0) directClient.clientIp .invalidWebsocket 0
        ⟨system, some ⟨directClient.clientIp, .invalidWebsocket, now⟩, system.counted now⟩ := by
    refine ⟨?_, fun _ _ => accepting, fun _ _ => .inr tracked, fun fewer => ?_⟩
    · intro instant same
      cases same
      exact ⟨Nat.zero_le _, soon.trans_eq (Nat.zero_add _).symm⟩
    · exact absurd fewer (Nat.not_lt.mpr kept)
  simp only [patientCalls, List.forall_mem_cons]
  refine ⟨counts (by decide) rfl (by decide) (by decide),
    counts (by decide) rfl (by decide) (by decide), ?_,
    counts (by decide) rfl (by decide) (by decide), fun _ member => (nomatch member)⟩
  exact ⟨fun _ same => (nomatch same), fun _ same => (nomatch same), fun _ same => (nomatch same),
    fun _ => .inr (by decide)⟩

/-- Three calls under a threshold of two are detected: no entry has expired at any of them. -/
theorem attack_detected_patient :
    Detected directClient.clientIp .invalidWebsocket patientCalls := by
  rcases attack_detected (.start (freshSystem_starts_enabled rfl)) path_patientCalls rfl rfl
    attack_patientCalls with detected | missed
  · exact detected
  · obtain ⟨transition, member, now, entry, called, found, expired⟩ := missed
    have before : transition.before.runtime.pending.lookup directClient.clientIp = none ∨
        transition = ⟨restrictedSystem, some ⟨directClient.clientIp, .invalidWebsocket, 2⟩,
          restrictedSystem.counted 2⟩ := by
      simp only [patientCalls, List.mem_cons, List.not_mem_nil, or_false] at member
      rcases member with rfl | rfl | rfl | rfl
      · exact .inl rfl
      · exact .inl rfl
      · exact .inl rfl
      · exact .inr rfl
    rcases before with absent | rfl
    · rw [absent] at found
      cases found
    · cases called
      have lasting : entry.deadline = 1 + seconds temporarySeconds := by
        cases found
        rfl
      rw [lasting] at expired
      exact absurd expired (by decide)

/-! ## A call of a known client -/

/-- The crossing of a client at some instant, under the strict configuration. -/
def strictCrossing (now : Nat) : Crossing where
  address := directClient
  rule := .invalidWebsocket
  count := 1
  now
  counted := Nat.one_ne_zero

/-- A system after a call has been counted. -/
def System.observed (system : System) (now : Nat) : System :=
  { system with
    runtime := (system.runtime.observe strictConfig (fun _ => 0) directClient .invalidWebsocket
      now).1
    crossings := [strictCrossing now]
    clock := now }

/-- The system after the call has returned. -/
def System.returned (system : System) (now : Nat) : System :=
  { system.observed now with
    runtime := (system.observed now).runtime.enqueue strictConfig (strictCrossing now)
    crossings := [] }

/-- The two steps of a call that crosses the threshold. -/
def System.call (system : System) (now : Nat) : List Transition :=
  [⟨system, some ⟨directClient.clientIp, .invalidWebsocket, now⟩, system.observed now⟩,
    ⟨system.observed now, none, system.returned now⟩]

theorem path_call {system : System} {now : Nat} (quiet : system.crossings = [])
    (later : system.clock ≤ now)
    (crosses : (system.runtime.observe strictConfig (fun _ => 0) directClient .invalidWebsocket
      now).2.toList = [strictCrossing now]) :
    Path stateText strictConfig (fun _ => 0) system (system.call now) (system.returned now) := by
  have observed : Step stateText strictConfig (fun _ => 0) system
      (some ⟨directClient.clientIp, .invalidWebsocket, now⟩) (system.observed now) := by
    have step : Step stateText strictConfig (fun _ => 0) system _ _ :=
      .observe directClient .invalidWebsocket later
    rwa [crosses, quiet, List.append_nil] at step
  exact (Path.nil.step observed).step (@Step.enqueue _ _ _ _ [] [] (strictCrossing now) rfl)

theorem attack_call {system : System} {now : Nat} (accepting : system.runtime.accepting = true)
    (tracked : directClient.clientIp ∈
        system.runtime.windows (shardIndex (fun _ => 0) directClient.clientIp) ∨
      (system.runtime.windows (shardIndex (fun _ => 0) directClient.clientIp)).size <
        shardCapacity strictConfig (shardIndex (fun _ => 0) directClient.clientIp))
    (quiet : system.crossings = [])
    (room : directClient.clientIp ∈ (system.observed now).runtime.pending ∨
      (system.observed now).runtime.pending.size < strictConfig.file.maxPendingActivations) :
    Attack strictConfig (fun _ => 0) directClient.clientIp .invalidWebsocket now
      (system.call now) (system.returned now) := by
  refine ⟨le_rfl, ?_, rfl⟩
  intro transition member
  rcases List.mem_cons.mp member with rfl | member
  · refine ⟨?_, fun _ _ => accepting, fun _ _ => tracked, ?_⟩
    · intro instant same
      cases same
      exact ⟨le_rfl, Nat.lt_add_of_pos_right (by decide)⟩
    · intro fewer
      simp [System.waiting, quiet] at fewer
  · obtain rfl := List.mem_singleton.mp member
    exact ⟨fun _ same => (nomatch same), fun _ same => (nomatch same), fun _ same => (nomatch same),
      fun _ => room⟩

/-- A configuration that blocks nobody. -/
def disabledConfig : IpBlockingConfig where
  file := { thresholds := ⟨1, 1, 1, 1⟩ }
  allow := []
  bounded := by decide

/-- The system of a configuration that blocks nobody. -/
def disabledSystem : System where
  runtime := .load ∅
  crossings := []
  phase := .idle
  disk := atRest fun _ => none
  writer := none
  clock := 0
  committed := []

theorem disabledSystem_starts : Starts stateText disabledConfig ∅ disabledSystem :=
  @Starts.load stateText disabledConfig (fun _ => none) none 0 .none (.none 0) [] none ∅ rfl

/-- The call of a client whose entry has expired but is still there is not detected, and neither is
any where blocking is disabled. -/
theorem attack_missed :
    (∃ history system, Reaches stateText strictConfig (fun _ => 0) ∅ history system ∧
      Path stateText strictConfig (fun _ => 0) system (system.call (seconds 300))
        (system.returned (seconds 300)) ∧
      strictConfig.file.enabled = true ∧ allowed strictConfig directClient.clientIp = false ∧
      Attack strictConfig (fun _ => 0) directClient.clientIp .invalidWebsocket (seconds 300)
        (system.call (seconds 300)) (system.returned (seconds 300)) ∧
      ¬Detected directClient.clientIp .invalidWebsocket (system.call (seconds 300))) ∧
    ∃ transitions finish, Reaches stateText disabledConfig (fun _ => 0) ∅ [] disabledSystem ∧
      Path stateText disabledConfig (fun _ => 0) disabledSystem transitions finish ∧
      allowed disabledConfig directClient.clientIp = false ∧
      Attack disabledConfig (fun _ => 0) directClient.clientIp .invalidWebsocket 0 transitions
        finish ∧
      ¬Detected directClient.clientIp .invalidWebsocket transitions := by
  constructor
  · refine ⟨_, crossedSystem, crossedSystem_reaches, path_call rfl (by decide) rfl, rfl, rfl,
      attack_call rfl (.inl (by decide)) rfl (.inl (by decide)), ?_⟩
    intro detected
    obtain ⟨transition, member, entered | ⟨now, called, restricted⟩⟩ := detected
    · rcases List.mem_cons.mp member with rfl | member
      · exact entered.1 (by decide)
      · obtain rfl := List.mem_singleton.mp member
        exact entered.1 (by decide)
    · rcases List.mem_cons.mp member with rfl | member
      · cases called
        exact absurd restricted (by decide)
      · obtain rfl := List.mem_singleton.mp member
        cases called
  · refine ⟨_, _, .start disabledSystem_starts,
      Path.nil.step (.observe directClient .invalidWebsocket le_rfl), rfl, ⟨le_rfl, ?_, rfl⟩, ?_⟩
    · intro transition member
      obtain rfl := List.mem_singleton.mp member
      refine ⟨?_, fun _ _ => rfl, fun _ _ => .inr (by decide), ?_⟩
      · intro now same
        cases same
        exact ⟨le_rfl, by decide⟩
      · intro fewer
        exact absurd fewer (by decide)
    · intro detected
      obtain ⟨transition, member, entered | ⟨now, called, restricted⟩⟩ := detected
      · obtain rfl := List.mem_singleton.mp member
        exact absurd entered.2 (by decide)
      · obtain rfl := List.mem_singleton.mp member
        cases called
        exact absurd restricted (by decide)

end EdgeGateway.IpBlocking
