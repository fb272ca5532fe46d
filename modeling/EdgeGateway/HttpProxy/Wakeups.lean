import EdgeGateway.HttpProxy.ConnectionAccount

/-!
# No lost wakeups

A request that waits for an idle HTTP/1 connection registers before it looks for one, and whoever
gives a connection back notifies one that has registered.  So no request is left asleep while an
idle connection is there that nobody is about to take.
-/

namespace EdgeGateway.HttpProxy.Connecting

open Notification SharedOwnership

variable {Pool : Type}

/-- The request is in line for an idle connection of a pool. -/
def Stage.InLine (pool : Pool) : Stage Pool → Prop
  | registering own | looking own | parked own => own = pool
  | _ => False

/-- The request is about to look for an idle connection of a pool. -/
def Stage.Looks (pool : Pool) (stage : Stage Pool) : Prop :=
  stage = .registering pool ∨ stage = .looking pool

/-- The request sleeps: it waits for an idle connection of a pool, and has not been notified. -/
def Upstreams.Asleep (upstreams : Upstreams Pool) (pool : Pool) (id : RequestId) : Prop :=
  upstreams.stages id = .parked pool ∧ id ∈ (upstreams.idleAvailable pool).waiting

theorem Stage.Looks.inLine {pool : Pool} {stage : Stage Pool} (looks : stage.Looks pool) :
    stage.InLine pool := by
  rcases looks with rfl | rfl <;> exact rfl

/-- Who is in line is about to look, or waits. -/
theorem Stage.InLine.looks_or_parked {pool : Pool} {stage : Stage Pool}
    (inLine : stage.InLine pool) : stage.Looks pool ∨ stage = .parked pool := by
  cases stage with
  | registering own | looking own | parked own =>
      cases inLine
      simp [Looks]
  | _ => cases inLine

/-- Who has registered with a pool is in line, and if some request sleeps there are as many
notifications, owed or not seen yet, and requests that are about to look as idle connections. -/
structure Awake (upstreams : Upstreams Pool) (pool : Pool) : Prop where
  nodup : (upstreams.idleAvailable pool).registered.Nodup
  registered : ∀ id ∈ (upstreams.idleAvailable pool).registered,
    upstreams.stages id = .looking pool ∨ upstreams.stages id = .parked pool
  heard : ∃ lookers : Finset RequestId, (∀ id ∈ lookers, (upstreams.stages id).Looks pool) ∧
    (upstreams.idleAvailable pool).Heard (fun id => upstreams.stages id = .parked pool)
      (upstreams.pools pool).idleHttp1.length (lookers.card + (upstreams.owed pool).toNat)

variable {proxy : Proxy Pool} {upstreams next : Upstreams Pool} {id : RequestId}
  {stage : Stage Pool} {pool : Pool}

namespace Awake

theorem initial (proxy : Proxy Pool) (start : Nat) (pool : Pool) :
    Awake (.initial proxy start) pool where
  nodup := List.nodup_nil
  registered id member := by cases member
  heard := ⟨∅, by simp, Notify.heard_new⟩

/-- Connections may go. -/
theorem shrinks (awake : Awake upstreams pool) (stages : next.stages = upstreams.stages)
    (notify : next.idleAvailable pool = upstreams.idleAvailable pool)
    (owed : next.owed pool = upstreams.owed pool)
    (idle : (next.pools pool).idleHttp1.length ≤ (upstreams.pools pool).idleHttp1.length) :
    Awake next pool := by
  obtain ⟨lookers, looks, heard⟩ := awake.heard
  refine ⟨notify ▸ awake.nodup, notify ▸ stages ▸ awake.registered, lookers, stages ▸ looks, ?_⟩
  rw [notify, owed, stages]
  exact heard.mono (fun _ _ asleep => asleep) (by omega)

/-- A request that is not in line goes on, but not to sleep, and no connection becomes idle. -/
theorem outside (awake : Awake upstreams pool) (id : RequestId)
    (before : ¬(upstreams.stages id).InLine pool) (after : stage ≠ .parked pool)
    (stages : next.stages = Function.update upstreams.stages id stage)
    (notify : next.idleAvailable pool = upstreams.idleAvailable pool)
    (owed : next.owed pool = upstreams.owed pool)
    (idle : (next.pools pool).idleHttp1.length ≤ (upstreams.pools pool).idleHttp1.length) :
    Awake next pool := by
  have same {other : RequestId} (inLine : (upstreams.stages other).InLine pool) :
      next.stages other = upstreams.stages other := by
    rw [stages, Function.update_of_ne]
    rintro rfl
    exact before inLine
  obtain ⟨lookers, looks, heard⟩ := awake.heard
  refine ⟨notify ▸ awake.nodup, fun other member => ?_, lookers, fun other member => ?_, ?_⟩
  · rw [notify] at member
    have line := awake.registered other member
    rwa [same (by rcases line with line | line <;> rw [line] <;> exact rfl)]
  · rw [same (looks other member).inLine]
    exact looks other member
  · rw [notify, owed]
    refine heard.mono (fun other _ asleep => ?_) (by omega)
    rw [stages] at asleep
    by_cases own : other = id
    · subst own
      rw [Function.update_self] at asleep
      exact absurd asleep after
    · rwa [Function.update_of_ne own] at asleep

/-- A request that waits leaves the line. -/
theorem leaves (awake : Awake upstreams pool) (parked : upstreams.stages id = .parked pool)
    (stages : next.stages = Function.update upstreams.stages id stage)
    (notify : next.idleAvailable pool = (upstreams.idleAvailable pool).forget id)
    (owed : next.owed pool = upstreams.owed pool)
    (idle : (next.pools pool).idleHttp1 = (upstreams.pools pool).idleHttp1) :
    Awake next pool := by
  obtain ⟨lookers, looks, heard⟩ := awake.heard
  refine ⟨?_, fun other member => ?_, lookers, fun other member => ?_, ?_⟩
  · rw [notify]
    exact Notify.nodup_forget awake.nodup
  · rw [notify, Notify.mem_registered_forget awake.nodup] at member
    rw [stages, Function.update_of_ne member.1]
    exact awake.registered other member.2
  · rw [stages, Function.update_of_ne]
    · exact looks other member
    · rintro rfl
      have looks := looks other member
      rw [parked] at looks
      rcases looks with same | same <;> cases same
  · rw [notify, owed, idle]
    refine heard.forget.mono (fun other _ asleep => ?_) le_rfl
    rw [stages] at asleep
    by_cases own : other = id
    · subst own
      exact parked
    · rwa [Function.update_of_ne own] at asleep

variable [DecidableEq Pool]

/-- No pool has more idle connections when one of them has not. -/
theorem idle_update {pools : Pool → PoolState} {own : Pool} {state : PoolState}
    (less : state.idleHttp1.length ≤ (pools own).idleHttp1.length) (pool : Pool) :
    (Function.update pools own state pool).idleHttp1.length ≤ (pools pool).idleHttp1.length := by
  by_cases same : pool = own
  · subst same
    rwa [Function.update_self]
  · rw [Function.update_of_ne same]

/-- Who finds no idle connection leaves none. -/
theorem none_idle {config : PoolConfig} {now : Nat} {before after : PoolState}
    (taken : before.takeIdleHttp1 config now = (none, after)) : after.idleHttp1 = [] := by
  simp only [PoolState.takeIdleHttp1, Prod.mk.injEq, Option.map_eq_none_iff] at taken
  obtain ⟨none_left, rfl⟩ := taken
  rw [List.head?_eq_none_iff.mp none_left]
  rfl

/-- A request drops everything it holds. -/
theorem leave (awake : ∀ pool, Awake upstreams pool)
    (calm : ∀ pool, ¬(upstreams.stages id).Looks pool) (pool : Pool) :
    Awake (upstreams.leave id) pool := by
  unfold Upstreams.leave Upstreams.letGo
  split
  case h_1 holding | h_2 holding =>
    refine (awake pool).outside id (by simp [holding, Stage.InLine]) (by simp) rfl
      rfl rfl (le_of_eq (congrArg List.length ?_))
    exact field_update PoolState.idleHttp1 (by rfl) pool
  case h_3 own parked =>
    by_cases same : pool = own
    · subst same
      exact (awake pool).leaves parked rfl (by simp [Upstreams.forget]) rfl rfl
    · refine (awake pool).outside id (by simpa [parked, Stage.InLine] using Ne.symm same)
        (by simp) rfl ?_ rfl le_rfl
      simp [Upstreams.forget, same]
  case h_4 elsewhere =>
    refine (awake pool).outside id (fun inLine => ?_) (by simp) rfl rfl rfl le_rfl
    rcases inLine.looks_or_parked with looks | parked
    · exact calm pool looks
    · exact elsewhere pool parked

/-- A request gets a permit and goes on. -/
theorem reached (awake : ∀ pool, Awake upstreams pool)
    {store : Store (Place Pool) (Capacity Pool) (Control Pool)} {goal : Goal} {own : Pool}
    (calm : ∀ pool, ¬(upstreams.stages id).InLine pool) (pool : Pool) :
    Awake (upstreams.reached id own store goal) pool := by
  cases goal with
  | connectGate | connections protocol | globalConnections protocol =>
      exact (awake pool).outside id (calm pool) (by simp) rfl rfl rfl le_rfl

/-- A request looks for an idle connection. -/
theorem takeIdle (awake : ∀ pool, Awake upstreams pool) {own : Pool} {now : Nat}
    {without : Stage Pool} (calm : ∀ pool, ¬(upstreams.stages id).InLine pool)
    (after : ∀ pool, without ≠ .parked pool) (pool : Pool) :
    Awake (upstreams.takeIdle proxy id own now without) pool := by
  obtain ⟨gone, _, idle⟩ :=
    takeIdleHttp1_idle (proxy.upstream own).pool now (upstreams.pools own)
  have length := congrArg List.length idle
  simp only [List.length_map, List.length_append] at length
  have fewer :
      ((upstreams.pools own).takeIdleHttp1 (proxy.upstream own).pool now).2.idleHttp1.length ≤
        (upstreams.pools own).idleHttp1.length := by omega
  have less := idle_update fewer pool
  unfold Upstreams.takeIdle
  dsimp only
  split
  case h_1 => exact (awake pool).outside id (calm pool) (after pool) rfl rfl rfl less
  case h_2 =>
    exact (awake pool).outside id (calm pool) (by simp) rfl rfl rfl less

/-- A request looks for the shared connection. -/
theorem share (awake : ∀ pool, Awake upstreams pool) {own : Pool} {without : Stage Pool}
    (calm : ∀ pool, ¬(upstreams.stages id).InLine pool)
    (after : ∀ pool, without ≠ .parked pool) (pool : Pool) :
    Awake (upstreams.share id own without) pool := by
  have same : (upstreams.pools own).currentHttp2.2.idleHttp1 = (upstreams.pools own).idleHttp1 := by
    rcases (upstreams.pools own).currentHttp2_cases with kept | gone
    · rw [kept]
    · rw [gone]
      exact (upstreams.pools own).takeHttp2_frame.2.2.1
  have less := idle_update (le_of_eq (congrArg List.length same)) pool
  unfold Upstreams.share
  dsimp only
  split
  case h_1 => exact (awake pool).outside id (calm pool) (after pool) rfl rfl rfl less
  case h_2 =>
    exact (awake pool).outside id (calm pool) (by simp) rfl rfl rfl less

/-- A request registers. -/
theorem register (awake : ∀ pool, Awake upstreams pool)
    (stepped : upstreams.register id = some next) (pool : Pool) : Awake next pool := by
  unfold Upstreams.register at stepped
  split at stepped
  case h_2 => cases stepped
  case h_1 own registering =>
    cases stepped
    by_cases same : pool = own
    · subst same
      have before := awake pool
      obtain ⟨lookers, looks, heard⟩ := before.heard
      have fresh : id ∉ (upstreams.idleAvailable pool).registered := fun member => by
        rcases before.registered id member with looking | parked
        · cases registering.symm.trans looking
        · cases registering.symm.trans parked
      refine ⟨?_, fun other member => ?_, lookers, fun other member => ?_, ?_⟩
      · simpa using Notify.nodup_enable before.nodup fresh
      · simp only [Function.update_self] at member
        by_cases own : other = id
        · subst own
          simp
        · rcases Notify.mem_registered_enable member with registered | registered
          · exact absurd registered own
          · simpa [own] using before.registered other registered
      · by_cases own : other = id
        · subst own
          simp [Stage.Looks]
        · simpa [own] using looks other member
      · simp only [Function.update_self]
        refine Notify.Heard.enable (heard.mono (fun other _ asleep => ?_) le_rfl) (by simp)
        by_cases own : other = id
        · subst own
          simp at asleep
        · simpa [own] using asleep
    · refine (awake pool).outside id ?_ ?_ rfl ?_ rfl le_rfl
      · simpa [registering, Stage.InLine] using Ne.symm same
      · simp
      · simp [same]

/-- A request that has been notified is about to look. -/
theorem wake (awake : ∀ pool, Awake upstreams pool)
    (stepped : upstreams.wake id = some next) (pool : Pool) : Awake next pool := by
  unfold Upstreams.wake at stepped
  split at stepped
  case h_2 => cases stepped
  case h_1 own parked =>
    split_ifs at stepped with waits
    cases stepped
    by_cases same : pool = own
    · subst same
      have before := awake pool
      obtain ⟨lookers, looks, heard⟩ := before.heard
      have fresh : id ∉ lookers := fun member => by
        rcases looks id member with looking | looking <;> cases parked.symm.trans looking
      refine ⟨?_, fun other member => ?_, insert id lookers, fun other member => ?_, ?_⟩
      · simp only [Function.update_self]
        rw [Notify.registered_consume waits]
        exact before.nodup.erase id
      · simp only [Function.update_self] at member
        rw [Notify.registered_consume waits, before.nodup.mem_erase_iff] at member
        simpa [member.1] using before.registered other member.2
      · rcases Finset.mem_insert.mp member with rfl | member
        · simp [Stage.Looks]
        · have apart : other ≠ id := fun equal => fresh (equal ▸ member)
          simpa [apart] using looks other member
      · simp only [Function.update_self]
        refine heard.consume.mono (fun other _ asleep => ?_) ?_
        · by_cases own : other = id
          · subst own
            exact parked
          · simpa [own] using asleep
        · rw [Finset.card_insert_of_notMem fresh]
          simp only [Upstreams.pools_proceed, Upstreams.owed_proceed]
          omega
    · refine (awake pool).outside id ?_ ?_ rfl ?_ rfl le_rfl
      · simpa [parked, Stage.InLine] using Ne.symm same
      · simp
      · simp [same]

omit [DecidableEq Pool] in
/-- A request that finds nothing goes to sleep. -/
theorem sleeps (awake : Awake upstreams pool) (looking : upstreams.stages id = .looking pool)
    (stages : next.stages = Function.update upstreams.stages id (.parked pool))
    (notify : next.idleAvailable pool = upstreams.idleAvailable pool)
    (idle : (next.pools pool).idleHttp1 = []) : Awake next pool := by
  obtain ⟨lookers, looks, _⟩ := awake.heard
  refine ⟨notify ▸ awake.nodup, fun other member => ?_, lookers.erase id, fun other member => ?_,
    ?_⟩
  · rw [notify] at member
    rw [stages]
    by_cases own : other = id
    · subst own
      simp
    · simpa [own] using awake.registered other member
  · obtain ⟨apart, member⟩ := Finset.mem_erase.mp member
    rw [stages, Function.update_of_ne apart]
    exact looks other member
  · rw [idle]
    exact Notify.heard_of_none

omit [DecidableEq Pool] in
/-- A request that takes an idle connection leaves the line. -/
theorem takes (awake : Awake upstreams pool) (looking : upstreams.stages id = .looking pool)
    (after : stage ≠ .parked pool)
    (stages : next.stages = Function.update upstreams.stages id stage)
    (notify : next.idleAvailable pool = (upstreams.idleAvailable pool).forget id)
    (owed : next.owed pool = upstreams.owed pool)
    (idle : (next.pools pool).idleHttp1.length + 1 ≤ (upstreams.pools pool).idleHttp1.length) :
    Awake next pool := by
  obtain ⟨lookers, looks, heard⟩ := awake.heard
  refine ⟨?_, fun other member => ?_, lookers.erase id, fun other member => ?_, ?_⟩
  · rw [notify]
    exact Notify.nodup_forget awake.nodup
  · rw [notify, Notify.mem_registered_forget awake.nodup] at member
    rw [stages, Function.update_of_ne member.1]
    exact awake.registered other member.2
  · obtain ⟨apart, member⟩ := Finset.mem_erase.mp member
    rw [stages, Function.update_of_ne apart]
    exact looks other member
  · rw [notify, owed]
    refine heard.forget.mono (fun other _ asleep => ?_) ?_
    · rw [stages] at asleep
      by_cases own : other = id
      · subst own
        rw [Function.update_self] at asleep
        exact absurd asleep after
      · rwa [Function.update_of_ne own] at asleep
    · have card : lookers.card - 1 ≤ (lookers.erase id).card := Finset.pred_card_le_card_erase
      omega

/-- A request looks after having registered: it takes an idle connection and leaves the line, or
sleeps because there is none. -/
theorem look (awake : ∀ pool, Awake upstreams pool) {now : Nat}
    (stepped : upstreams.look proxy id now = some next) (pool : Pool) : Awake next pool := by
  unfold Upstreams.look at stepped
  split at stepped
  case h_3 => cases stepped
  case h_2 own gated =>
    cases stepped
    exact share awake (by simp [gated, Stage.InLine]) (by simp) pool
  case h_1 own looking =>
    obtain ⟨gone, _, idle⟩ :=
      takeIdleHttp1_idle (proxy.upstream own).pool now (upstreams.pools own)
    have length := congrArg List.length idle
    simp only [List.length_map, List.length_append] at length
    rcases taken : (upstreams.pools own).takeIdleHttp1 (proxy.upstream own).pool now with
      ⟨_ | connection, state⟩
    · simp only [taken, Upstreams.takeIdle] at stepped length
      split_ifs at stepped
      cases stepped
      by_cases same : pool = own
      · subst same
        exact (awake pool).sleeps looking rfl rfl (by simpa using none_idle taken)
      · refine (awake pool).outside id ?_ ?_ rfl rfl rfl ?_
        · simpa [looking, Stage.InLine] using Ne.symm same
        · simpa using Ne.symm same
        · simp [same]
    · simp only [taken, Upstreams.takeIdle] at stepped length
      split_ifs at stepped
      cases stepped
      simp only [Option.toList_some, List.length_singleton] at length
      set stage := Stage.holding own .http1 connection false
      have stages : Function.update (Function.update upstreams.stages id stage) id stage =
          Function.update upstreams.stages id stage := Function.update_idem _ _ _
      by_cases same : pool = own
      · subst same
        refine (awake pool).takes looking (by simp [stage]) stages ?_ rfl ?_
        · simp [Upstreams.forget]
        · simp [Upstreams.forget]
          omega
      · refine (awake pool).outside id ?_ (by simp [stage]) stages ?_ rfl ?_
        · simpa [looking, Stage.InLine] using Ne.symm same
        · simp [Upstreams.forget, same]
        · simp [Upstreams.forget, same]

/-- A request gets a permit, or goes on waiting for one. -/
theorem grant (awake : ∀ pool, Awake upstreams pool)
    (stepped : upstreams.grant id = some next) (pool : Pool) : Awake next pool := by
  unfold Upstreams.grant at stepped
  split at stepped
  case h_3 => cases stepped
  case h_1 own goal queueing =>
    obtain ⟨store, _, rfl⟩ := Option.map_eq_some_iff.mp stepped
    exact reached awake (by simp [queueing, Stage.InLine]) pool
  case h_2 own parked =>
    obtain ⟨store, _, rfl⟩ := Option.map_eq_some_iff.mp stepped
    by_cases same : pool = own
    · subst same
      exact (awake pool).leaves parked rfl (by simp [Upstreams.reached, Upstreams.forget]) rfl rfl
    · refine (awake pool).outside id (by simpa [parked, Stage.InLine] using Ne.symm same)
        (by simp) rfl ?_ rfl le_rfl
      simp [Upstreams.reached, Upstreams.forget, same]

/-- A request waits, or gives up. -/
theorem enqueue (awake : ∀ pool, Awake upstreams pool)
    (stepped : upstreams.enqueue id = some next) (pool : Pool) : Awake next pool := by
  unfold Upstreams.enqueue at stepped
  split at stepped
  case h_2 => cases stepped
  case h_1 own goal declined =>
    split at stepped
    case h_1 =>
      cases stepped
      exact leave awake (by simp [declined, Stage.Looks]) pool
    case h_2 | h_3 =>
      cases stepped
      exact (awake pool).outside id (by simp [declined, Stage.InLine]) (by simp) rfl
        rfl rfl le_rfl

omit [DecidableEq Pool] in
/-- One more connection is idle, and a notification is owed for it. -/
theorem returns (awake : Awake upstreams pool) (before : ¬(upstreams.stages id).InLine pool)
    (after : stage ≠ .parked pool)
    (stages : next.stages = Function.update upstreams.stages id stage)
    (notify : next.idleAvailable pool = upstreams.idleAvailable pool)
    (unlocked : upstreams.owed pool = false) (owed : next.owed pool = true)
    (idle : (next.pools pool).idleHttp1.length ≤ (upstreams.pools pool).idleHttp1.length + 1) :
    Awake next pool := by
  let settled : Upstreams Pool :=
    { upstreams with stages := Function.update upstreams.stages id stage }
  have gone : Awake settled pool := awake.outside id before after rfl rfl rfl le_rfl
  obtain ⟨lookers, looks, heard⟩ := gone.heard
  refine ⟨notify ▸ gone.nodup, fun other member => ?_, lookers, fun other member => ?_, ?_⟩
  · rw [notify] at member
    rw [stages]
    exact gone.registered other member
  · rw [stages]
    exact looks other member
  · rw [notify, owed]
    refine heard.mono (fun other _ asleep => ?_) ?_
    · rwa [stages] at asleep
    · simp only [settled, unlocked, Bool.toNat_false, Bool.toNat_true]
      omega

/-- A request gives its connection back. -/
theorem giveBack (awake : ∀ pool, Awake upstreams pool) {now : Nat}
    (stepped : upstreams.giveBack proxy id now = some next) (pool : Pool) : Awake next pool := by
  unfold Upstreams.giveBack at stepped
  split at stepped
  case h_2 => cases stepped
  case h_1 own connection holding =>
    have disposes := (upstreams.pools own).returnHttp1_disposes (proxy.upstream own).pool now
      connection
    dsimp only at stepped
    split_ifs at stepped with kept owed
    · cases stepped
      by_cases same : pool = own
      · subst same
        have outside : ¬(upstreams.stages id).InLine pool := by simp [holding, Stage.InLine]
        refine (awake pool).returns outside (by simp) rfl rfl (by simpa using owed) (by simp) ?_
        cases disposes with
        | kept _ idle _ => simp [idle]
        | dropped idle _ => simp [idle]
      · refine (awake pool).outside id (by simp [holding, Stage.InLine]) (by simp) rfl rfl ?_ ?_
        · simp [same]
        · simp [same]
    · cases stepped
      refine (awake pool).outside id (by simp [holding, Stage.InLine]) (by simp) rfl rfl rfl ?_
      exact idle_update (Nat.le_of_not_lt kept) pool

/-- A notification goes out. -/
theorem notify (awake : ∀ pool, Awake upstreams pool) {own : Pool}
    (stepped : upstreams.notify own = some next) (pool : Pool) : Awake next pool := by
  unfold Upstreams.notify at stepped
  split_ifs at stepped with owed
  cases stepped
  by_cases same : pool = own
  · subst same
    have before := awake pool
    obtain ⟨lookers, looks, heard⟩ := before.heard
    refine ⟨?_, fun other member => ?_, lookers, looks, ?_⟩
    · simp only [Function.update_self]
      exact Notify.registered_notifyOne.nodup_iff.mpr before.nodup
    · simp only [Function.update_self] at member
      exact before.registered other (Notify.registered_notifyOne.mem_iff.mp member)
    · rw [owed] at heard
      simpa using heard.notifyOne
  · have before := awake pool
    constructor
    case nodup => simpa [same] using before.nodup
    case registered => simpa [same] using before.registered
    case heard => simpa [same] using before.heard

/-- Every event leaves nobody asleep. -/
theorem step (awake : ∀ pool, Awake upstreams pool) {event : Event Pool}
    (stepped : proxy.step upstreams event = some next) (pool : Pool) : Awake next pool := by
  cases event with
  | acquire id own now =>
      simp only [Proxy.step, Upstreams.acquire] at stepped
      split at stepped
      case h_1 uncalled _ _ =>
        cases stepped
        exact takeIdle awake (by simp [uncalled, Stage.InLine]) (by simp) pool
      case h_2 uncalled _ =>
        cases stepped
        exact share awake (by simp [uncalled, Stage.InLine]) (by simp) pool
      case h_3 => cases stepped
  | attempt id =>
      simp only [Proxy.step, Upstreams.attempt] at stepped
      split at stepped
      case h_2 => cases stepped
      case h_1 own goal seeking =>
        split at stepped
        case h_1 =>
          cases stepped
          exact (awake pool).outside id (by simp [seeking, Stage.InLine]) (by simp) rfl rfl rfl
            le_rfl
        case h_2 =>
          cases stepped
          exact reached awake (by simp [seeking, Stage.InLine]) pool
  | enqueue id => exact enqueue awake stepped pool
  | grant id => exact grant awake stepped pool
  | register id => exact register awake stepped pool
  | look id now => exact look awake stepped pool
  | wake id => exact wake awake stepped pool
  | establish id =>
      simp only [Proxy.step, Upstreams.establish] at stepped
      split at stepped
      case h_3 => cases stepped
      case h_1 own connection dialing =>
        cases stepped
        exact (awake pool).outside id (by simp [dialing, Stage.InLine]) (by simp) rfl rfl rfl le_rfl
      case h_2 own connection dialing =>
        cases stepped
        have same : ((upstreams.pools own).storeHttp2 connection).idleHttp1 =
          (upstreams.pools own).idleHttp1 := (upstreams.pools own).takeHttp2_frame.2.2.1
        exact (awake pool).outside id (by simp [dialing, Stage.InLine]) (by simp) rfl rfl rfl
          (idle_update (le_of_eq (congrArg List.length same)) pool)
  | awaitReady id =>
      simp only [Proxy.step, Upstreams.awaitReady] at stepped
      split at stepped
      case h_2 => cases stepped
      case h_1 own protocol connection holding =>
        split at stepped
        case h_1 =>
          cases stepped
          exact leave awake (by simp [holding, Stage.Looks]) pool
        case h_2 =>
          cases stepped
          exact (awake pool).outside id (by simp [holding, Stage.InLine]) (by simp) rfl rfl rfl
            le_rfl
  | ready id =>
      simp only [Proxy.step, Upstreams.ready] at stepped
      split at stepped
      case h_2 => cases stepped
      case h_1 own protocol connection holding =>
        cases stepped
        exact (awake pool).outside id (by simp [holding, Stage.InLine]) (by simp) rfl rfl rfl le_rfl
  | giveBack id now => exact giveBack awake stepped pool
  | upgrade id =>
      simp only [Proxy.step, Upstreams.upgrade] at stepped
      split at stepped
      case h_2 => cases stepped
      case h_1 own connection holding =>
        cases stepped
        exact (awake pool).outside id (by simp [holding, Stage.InLine]) (by simp) rfl rfl rfl le_rfl
  | abandon id =>
      simp only [Proxy.step, Upstreams.abandon] at stepped
      split at stepped
      case h_1 | h_2 | h_3 => cases stepped
      case h_4 not_registering not_looking =>
        cases stepped
        refine leave awake (fun own looks => ?_) pool
        rcases looks with registering | looking
        · exact not_registering own registering
        · exact not_looking own looking
  | notify own => exact notify awake stepped pool
  | reapHttp1 own now =>
      simp only [Proxy.step] at stepped
      split_ifs at stepped
      cases stepped
      exact (awake pool).shrinks rfl rfl rfl (idle_update (List.length_filter_le _ _) pool)
  | reapHttp2 own =>
      cases stepped
      have same := (upstreams.pools own).takeHttp2_frame.2.2.1
      exact (awake pool).shrinks rfl rfl rfl
        (idle_update (le_of_eq (congrArg List.length same)) pool)
  | close own connection =>
      cases stepped
      exact (awake pool).shrinks rfl rfl rfl (idle_update (by rfl) pool)
  | drive own connection =>
      cases stepped
      exact ⟨(awake pool).nodup, (awake pool).registered, (awake pool).heard⟩
  | shutdown own =>
      cases stepped
      exact (awake pool).shrinks rfl rfl rfl (idle_update (by rfl) pool)

end Awake

/-- In every run, as long as a request sleeps there are as many notifications, owed or not seen
yet, and other requests that are about to look as there are idle connections; and who has been
notified is about to look, or can go on to do so. -/
theorem no_lost_wakeup [DecidableEq Pool] {start : Nat} {events : List (Event Pool)}
    (ran : proxy.run start events = some upstreams) (pool : Pool)
    (asleep : ∃ id, upstreams.Asleep pool id) :
    (∃ lookers : Finset RequestId, (∀ id ∈ lookers, (upstreams.stages id).Looks pool) ∧
      (upstreams.pools pool).idleHttp1.length ≤
        (upstreams.idleAvailable pool).notified.length + lookers.card +
          (upstreams.owed pool).toNat) ∧
      (upstreams.idleAvailable pool).notified.Nodup ∧
      ∀ id ∈ (upstreams.idleAvailable pool).notified,
        (upstreams.stages id).Looks pool ∨ (upstreams.wake id).isSome := by
  have awake := Results.foldlM_some_preserves (fun upstreams => ∀ pool, Awake upstreams pool)
    (fun _ _ _ awake stepped => Awake.step awake stepped) (Awake.initial proxy start) ran pool
  obtain ⟨lookers, looks, heard⟩ := awake.heard
  obtain ⟨id, parked, waits⟩ := asleep
  obtain ⟨_, notified, apart⟩ := List.nodup_append.mp awake.nodup
  refine ⟨⟨lookers, looks, ?_⟩, notified, fun other member => ?_⟩
  · rw [Nat.add_assoc]
    exact heard ⟨id, waits, parked⟩
  · rcases awake.registered other (List.mem_append_right _ member) with looking | parked
    · exact .inl (.inr looking)
    · have reached : other ∉ (upstreams.idleAvailable pool).waiting := fun waits =>
        apart other waits other member rfl
      simp [Upstreams.wake, parked, reached]

/-- A connection has been given back, and the notification for it is owed. -/
theorem no_lost_wakeup_owed :
    ∃ upstreams, narrowProxy.run 0 (oneSleeps ++ [.giveBack 0 3]) = some upstreams ∧
      (upstreams.pools ()).idleHttp1.length = 1 ∧
      ∃ lookers : Finset RequestId,
        1 ≤ (upstreams.idleAvailable ()).notified.length + lookers.card +
          (upstreams.owed ()).toNat := by
  refine ⟨_, rfl, rfl, ?_⟩
  obtain ⟨⟨lookers, _, awake⟩, _⟩ := no_lost_wakeup
    (show narrowProxy.run 0 (oneSleeps ++ [.giveBack 0 3]) = some _ from rfl) ()
    ⟨1, rfl, List.mem_singleton_self _⟩
  exact ⟨lookers, awake⟩

end EdgeGateway.HttpProxy.Connecting
