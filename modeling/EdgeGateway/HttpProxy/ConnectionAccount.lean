import EdgeGateway.HttpProxy.Connecting

/-!
# The account of the connections

Whatever the order in which requests look, wait, connect, use connections, give them back and end,
and whatever the drivers and the reaper do meanwhile, the permits that are out are one for each
connection of which something is left and one for each request on its way to one.
-/

namespace EdgeGateway.HttpProxy.Connecting

open Notification SharedOwnership

variable {Pool : Type}

/-! ## What is held at each stage -/

/-- What a request holds while it needs a permit. -/
def Goal.held (pool : Pool) : Goal → Seat → List (Handle (Capacity Pool) (Control Pool))
  | .connections .http2, .gate | .globalConnections .http2, .gate =>
      [.permit (.connectGate pool)]
  | .globalConnections _, .reserved => [.permit (.connections pool)]
  | _, _ => []

namespace Stage

/-- What a request holds at a stage. -/
def held : Stage Pool → Seat → List (Handle (Capacity Pool) (Control Pool))
  | queueing pool _, .pending | registering pool, .pending | looking pool, .pending
  | parked pool, .pending | holding pool _ _ true, .pending => [.permit (.pending pool)]
  | seeking pool goal, seat | declined pool goal, seat | queueing pool goal, seat =>
      goal.held pool seat
  | gated pool, .gate | dialing pool .http2 _, .gate => [.permit (.connectGate pool)]
  | dialing pool _ connection, .reserved | holding pool .http2 connection _, .reserved
  | holding pool .http1 connection _, .connection | tunnelling pool connection, .connection =>
      [.pointer (pool, connection)]
  | _, _ => []

/-- The request has the permit of a pool for a connection that it does not have yet. -/
def Reserves (pool : Pool) : Stage Pool → Prop
  | seeking own goal | declined own goal | queueing own goal =>
      own = pool ∧ ∃ protocol, goal = .globalConnections protocol
  | _ => False

/-- The request is one of those that wait for a pool. -/
def Waits (pool : Pool) : Stage Pool → Prop
  | queueing own _ | registering own | looking own | parked own | holding own _ _ true =>
      own = pool
  | _ => False

/-- The request has the turn to connect. -/
def Connects (pool : Pool) : Stage Pool → Prop
  | seeking own goal | declined own goal | queueing own goal =>
      own = pool ∧ (goal = .connections .http2 ∨ goal = .globalConnections .http2)
  | gated own | dialing own .http2 _ => own = pool
  | _ => False

/-- The request has the stream of a connection that nothing drives: one that is not established
yet, or one that has been upgraded. -/
def Streams (pool : Pool) (connection : ConnectionId) : Stage Pool → Prop
  | dialing own _ other | tunnelling own other => own = pool ∧ other = connection
  | _ => False

end Stage

/-- A connection is open: a request has its stream, or it is driven. -/
def Upstreams.Open (upstreams : Upstreams Pool) [DecidableEq Pool] (pool : Pool)
    (connection : ConnectionId) : Prop :=
  (∃ id, (upstreams.stages id).Streams pool connection) ∨
    upstreams.store.handles (.driver pool connection) ≠ []

/-- Something of a connection is left. -/
def Upstreams.Left (upstreams : Upstreams Pool) [DecidableEq Pool] (pool : Pool)
    (connection : ConnectionId) : Prop :=
  ∃ place, .pointer (pool, connection) ∈ upstreams.store.handles place

/-- The pointers to the controls of some connections of a pool. -/
def pointers (pool : Pool) (connections : List ConnectionId) :
    List (Handle (Capacity Pool) (Control Pool)) :=
  connections.map fun connection => .pointer (pool, connection)

/-- A handle is a permit, or the pointer to a control that has been made. -/
def Made (made : Pool → Nat) : Handle (Capacity Pool) (Control Pool) → Prop
  | .permit _ => True
  | .pointer control => control.2 < made control.1

/-- What has been made stays made when one more is made. -/
theorem Made.later [DecidableEq Pool] {made : Pool → Nat} {pool : Pool}
    {handle : Handle (Capacity Pool) (Control Pool)} (before : Made made handle) :
    Made (Function.update made pool (made pool + 1)) handle := by
  cases handle with
  | permit => trivial
  | pointer control =>
      by_cases same : control.1 = pool
      · subst same
        simpa [Made] using Nat.lt_succ_of_lt before
      · simpa [Made, same] using before

variable [DecidableEq Pool] {proxy : Proxy Pool} {upstreams next : Upstreams Pool}
  {id : RequestId} {stage : Stage Pool} {pool : Pool} {connection : ConnectionId}
  {store : Store (Place Pool) (Capacity Pool) (Control Pool)} {state : PoolState}

/-- A field that a change of a pool leaves alone. -/
theorem field_update {Field : Type} {pools : Pool → PoolState}
    (field : PoolState → Field) (same : field state = field (pools pool)) (other : Pool) :
    field (Function.update pools pool state other) = field (pools other) := by
  by_cases own : other = pool
  · subst own
    rw [Function.update_self, same]
  · rw [Function.update_of_ne own]

/-- A request that lets go of its connection changes nothing else. -/
theorem Upstreams.letGo_frame (upstreams : Upstreams Pool) (id : RequestId) :
    (upstreams.letGo id).store = upstreams.store ∧
      (upstreams.letGo id).made = upstreams.made ∧
      (upstreams.letGo id).stages = upstreams.stages ∧
      ∀ pool, ((upstreams.letGo id).pools pool).idleHttp1 = (upstreams.pools pool).idleHttp1 ∧
        ((upstreams.letGo id).pools pool).http2 = (upstreams.pools pool).http2 := by
  unfold letGo
  split
  case h_1 | h_2 =>
    exact ⟨rfl, rfl, rfl, fun other =>
      ⟨field_update PoolState.idleHttp1 (by rfl) other,
        field_update PoolState.http2 (by rfl) other⟩⟩
  case h_3 | h_4 => exact ⟨rfl, rfl, rfl, fun _ => ⟨rfl, rfl⟩⟩

/-- What becomes of the idle connections when one is taken. -/
theorem takeIdleHttp1_idle (config : PoolConfig) (now : Nat) (pool : PoolState) :
    ∃ gone, (pool.takeIdleHttp1 config now).2.cancelled = gone ++ pool.cancelled ∧
      pool.idleHttp1.map Prod.snd = gone ++ ((pool.takeIdleHttp1 config now).1.toList ++
        (pool.takeIdleHttp1 config now).2.idleHttp1.map Prod.snd) := by
  refine ⟨_, rfl, ?_⟩
  unfold PoolState.takeIdleHttp1
  dsimp only
  have split := List.takeWhile_append_dropWhile
    (p := fun idle => !pool.isUsable config now idle) (l := pool.idleHttp1)
  conv_lhs => rw [← split]
  rw [List.map_append]
  congr 1
  generalize pool.idleHttp1.dropWhile _ = rest
  cases rest with
  | nil => rfl
  | cons first rest => rfl

/-- What becomes of the idle connections when they are reaped. -/
theorem reapHttp1_idle (config : PoolConfig) (now : Nat) (pool : PoolState) :
    (pool.idleHttp1.map Prod.snd).Perm
      ((pool.idleHttp1.filter fun idle =>
          !(!pool.shutdown && pool.isUsable config now idle)).map Prod.snd ++
        (pool.reapHttp1 config now).idleHttp1.map Prod.snd) := by
  rw [← List.map_append]
  exact ((List.perm_append_comm.trans (List.filter_append_perm _ _)).symm).map Prod.snd

/-- Giving a connection back does not concern the shared one. -/
theorem http2_returnHttp1 (config : PoolConfig) (now : Nat) (pool : PoolState)
    (connection : ConnectionId) :
    (pool.returnHttp1 config now connection).http2 = pool.http2 := by
  unfold PoolState.returnHttp1
  dsimp only
  split_ifs
  all_goals rfl

/-- What is held is what the stages of the requests and the pools say. -/
structure Sound (proxy : Proxy Pool) (upstreams : Upstreams Pool) : Prop where
  exact : upstreams.store.Exact controls proxy.limit
  made : upstreams.store.Only (Made upstreams.made)
  seats : ∀ seat id, upstreams.store.handles (.request seat id) = (upstreams.stages id).held seat
  idle : ∀ pool, (upstreams.store.handles (.idle pool)).Perm
    (pointers pool ((upstreams.pools pool).idleHttp1.map Prod.snd))
  shared : ∀ pool, upstreams.store.handles (.shared pool) =
    pointers pool (upstreams.pools pool).http2.toList
  drivers : ∀ pool connection, ∀ handle ∈ upstreams.store.handles (.driver pool connection),
    handle = .pointer (pool, connection)

namespace Sound

theorem initial (proxy : Proxy Pool) (start : Nat) : Sound proxy (.initial proxy start) where
  exact := Store.exact_initial proxy.limit
  made := Store.only_initial proxy.limit
  seats _ _ := rfl
  idle _ := .nil
  shared _ := rfl
  drivers _ _ handle held := by cases held

/-- Only what is held and what the pools keep count. -/
theorem congr (sound : Sound proxy upstreams) (store : next.store = upstreams.store)
    (made : next.made = upstreams.made) (stages : next.stages = upstreams.stages)
    (idle : ∀ pool, (next.pools pool).idleHttp1 = (upstreams.pools pool).idleHttp1)
    (http2 : ∀ pool, (next.pools pool).http2 = (upstreams.pools pool).http2) :
    Sound proxy next where
  exact := store ▸ sound.exact
  made := store ▸ made ▸ sound.made
  seats seat id := store ▸ stages ▸ sound.seats seat id
  idle pool := store ▸ idle pool ▸ sound.idle pool
  shared pool := store ▸ http2 pool ▸ sound.shared pool
  drivers pool connection := store ▸ sound.drivers pool connection

/-- A request goes on; only its own seats change. -/
theorem proceed (sound : Sound proxy upstreams) (exact : store.Exact controls proxy.limit)
    (made : store.Only (Made upstreams.made))
    (seats : ∀ seat, store.handles (.request seat id) = stage.held seat)
    (elsewhere : ∀ place, (∀ seat, place ≠ .request seat id) →
      store.handles place = upstreams.store.handles place) :
    Sound proxy (upstreams.proceed id stage store) where
  exact := exact
  made := made
  seats seat other := by
    by_cases same : other = id
    · subst same
      simpa [Upstreams.proceed] using seats seat
    · simp only [Upstreams.proceed, Function.update_of_ne same]
      rw [elsewhere _ (by simp [same])]
      exact sound.seats seat other
  idle pool := by
    rw [Upstreams.proceed, elsewhere _ (by simp)]
    exact sound.idle pool
  shared pool := by
    rw [Upstreams.proceed, elsewhere _ (by simp)]
    exact sound.shared pool
  drivers pool connection := by
    rw [Upstreams.proceed, elsewhere _ (by simp)]
    exact sound.drivers pool connection

/-- A request goes on with the same handles. -/
theorem restage (sound : Sound proxy upstreams)
    (same : ∀ seat, stage.held seat = (upstreams.stages id).held seat) :
    Sound proxy (upstreams.proceed id stage upstreams.store) := by
  refine sound.proceed sound.exact sound.made (fun seat => ?_) fun _ _ => rfl
  rw [same, sound.seats]

/-- A request drops what it holds at one seat. -/
theorem vacate (sound : Sound proxy upstreams) (id : RequestId) (seat : Seat)
    (same : ∀ other, stage.held other =
      if other = seat then [] else (upstreams.stages id).held other) :
    Sound proxy (upstreams.proceed id stage (upstreams.vacate id seat)) := by
  refine sound.proceed (sound.exact.close _) (sound.made.close _) (fun other => ?_)
    fun place apart => ?_
  · rw [same, ← sound.seats]
    simp [Upstreams.vacate]
  · simp [Upstreams.vacate, apart]

/-- A request drops everything. -/
theorem leave (sound : Sound proxy upstreams) : Sound proxy (upstreams.leave id) := by
  have vacated : Sound proxy (upstreams.proceed id .ended
      ((((upstreams.store.close controls (.request .reserved id)).close controls
        (.request .pending id)).close controls (.request .gate id)).close controls
          (.request .connection id))) := by
    refine sound.proceed
      ((((sound.exact.close _).close _).close _).close _)
      ((((sound.made.close _).close _).close _).close _) (fun seat => ?_) fun place apart => ?_
    · cases seat <;> simp [Stage.held]
    · simp [apart]
  obtain ⟨store, made, stages, pools⟩ := upstreams.letGo_frame id
  exact vacated.congr rfl made (by simp only [Upstreams.leave, Upstreams.proceed, stages])
    (fun pool => (pools pool).1) fun pool => (pools pool).2

/-! ## Permits -/

omit [DecidableEq Pool] in
/-- Only its pointers lead to a control. -/
theorem leads_pointer {handle : Handle (Capacity Pool) (Control Pool)} {control : Control Pool} :
    controls.Leads handle (.pointer control) ↔ handle = .pointer control := by
  constructor
  · intro leads
    cases leads with
    | refl => rfl
    | inside made rest =>
        rcases List.mem_pair.mp made with rfl | rfl
        · cases rest
        · cases rest
  · rintro rfl
    exact .refl _

/-- A control that is yet to be made is new. -/
theorem fresh {made : Pool → Nat} (exact : store.Exact controls proxy.limit)
    (only : store.Only (Made made)) (pool : Pool) : store.heap.strong (pool, made pool) = 0 := by
  refine exact.fresh fun place handle held leads => ?_
  obtain rfl := leads_pointer.mp leads
  exact lt_irrefl _ (only.of_mem held)

/-- A request that gets a permit for its goal goes on. -/
theorem reached (sound : Sound proxy upstreams) {goal : Goal}
    (exact : store.Exact controls proxy.limit) (made : store.Only (Made upstreams.made))
    (seats : ∀ seat, store.handles (.request seat id) =
      if seat = goal.seat then .permit (goal.capacity pool) :: goal.held pool seat
      else goal.held pool seat)
    (elsewhere : ∀ place, (∀ seat, place ≠ .request seat id) →
      store.handles place = upstreams.store.handles place) :
    Sound proxy (upstreams.reached id pool store goal) := by
  cases goal with
  | connectGate =>
      refine sound.proceed exact made (fun seat => ?_) elsewhere
      rw [seats]
      cases seat <;> rfl
  | connections protocol =>
      refine sound.proceed exact made (fun seat => ?_) elsewhere
      rw [seats]
      cases protocol <;> cases seat <;> rfl
  | globalConnections protocol =>
      have wrapped : (store.wrap (.request .reserved id) (pool, upstreams.made pool)).Exact controls
          proxy.limit := by
        refine exact.wrap (fresh exact made pool) ?_
        rw [seats]
        cases protocol <;> exact .swap _ _ _
      have later : Sound proxy { upstreams with
          made := Function.update upstreams.made pool (upstreams.made pool + 1) } :=
        { sound with made := sound.made.mono fun _ => Made.later }
      change Sound proxy (Upstreams.proceed { upstreams with
        made := Function.update upstreams.made pool (upstreams.made pool + 1) } id
        (.dialing pool protocol (upstreams.made pool))
        (store.wrap (.request .reserved id) (pool, upstreams.made pool)))
      refine later.proceed wrapped ((made.mono fun _ => Made.later).wrap ?_) (fun seat => ?_)
        fun place apart => ?_
      · simp [Made]
      · rw [Store.handles_wrap, seats]
        cases protocol <;> cases seat <;> simp [Goal.held, Goal.seat, Stage.held]
      · rw [Store.handles_wrap, if_neg (apart .reserved)]
        exact elsewhere place apart

/-! ## Changes of pools -/

/-- What a pool drops is dropped where it has been held, and the rest stays. -/
theorem changed (sound : Sound proxy upstreams) {place : Place Pool}
    {gone rest : List ConnectionId}
    (cancelled : state.cancelled = gone ++ (upstreams.pools pool).cancelled)
    (holds : (upstreams.store.handles place).Perm (pointers pool (gone ++ rest))) :
    (upstreams.change pool place state).store.Exact controls proxy.limit ∧
      (upstreams.change pool place state).store.Only (Made upstreams.made) ∧
      ((upstreams.change pool place state).store.handles place).Perm (pointers pool rest) ∧
      ∀ other ≠ place, (upstreams.change pool place state).store.handles other =
        upstreams.store.handles other := by
  have same : dropped (upstreams.pools pool) state = gone := by
    simp [dropped, cancelled]
  rw [pointers, List.map_append] at holds
  obtain ⟨exact, left⟩ := sound.exact.discard holds
  simp only [Upstreams.change, same]
  exact ⟨exact, sound.made.discard _, left, fun other apart =>
    Store.handles_discard _ _ apart⟩

/-- The list of idle connections gets shorter. -/
theorem changeIdle (sound : Sound proxy upstreams) {gone : List ConnectionId}
    (cancelled : state.cancelled = gone ++ (upstreams.pools pool).cancelled)
    (idle : ((upstreams.pools pool).idleHttp1.map Prod.snd).Perm
      (gone ++ state.idleHttp1.map Prod.snd))
    (http2 : state.http2 = (upstreams.pools pool).http2) :
    Sound proxy (upstreams.change pool (.idle pool) state) := by
  obtain ⟨exact, made, left, elsewhere⟩ :=
    sound.changed cancelled ((sound.idle pool).trans (idle.map _))
  refine ⟨exact, made, fun seat id => ?_, fun other => ?_, fun other => ?_,
    fun other connection => ?_⟩
  · rw [elsewhere _ (by simp)]
    exact sound.seats seat id
  · by_cases same : other = pool
    · subst same
      simpa [Upstreams.change] using left
    · rw [elsewhere _ (by simpa using same)]
      simpa [Upstreams.change, same] using sound.idle other
  · rw [elsewhere _ (by simp), sound.shared]
    simp only [Upstreams.change, field_update PoolState.http2 http2]
  · rw [elsewhere _ (by simp)]
    exact sound.drivers other connection

/-- The shared connection goes. -/
theorem changeShared (sound : Sound proxy upstreams)
    (cancelled : state.cancelled =
      (upstreams.pools pool).http2.toList ++ (upstreams.pools pool).cancelled)
    (idle : state.idleHttp1 = (upstreams.pools pool).idleHttp1) (http2 : state.http2 = none) :
    Sound proxy (upstreams.change pool (.shared pool) state) := by
  have holds : (upstreams.store.handles (.shared pool)).Perm
      (pointers pool ((upstreams.pools pool).http2.toList ++ [])) := by
    rw [sound.shared, List.append_nil]
  obtain ⟨exact, made, left, elsewhere⟩ := sound.changed cancelled holds
  refine ⟨exact, made, fun seat id => ?_, fun other => ?_, fun other => ?_,
    fun other connection => ?_⟩
  · rw [elsewhere _ (by simp)]
    exact sound.seats seat id
  · rw [elsewhere _ (by simp)]
    simpa only [Upstreams.change, field_update PoolState.idleHttp1 idle] using sound.idle other
  · by_cases same : other = pool
    · subst same
      simpa [Upstreams.change, http2, pointers] using left
    · rw [elsewhere _ (by simpa using same), sound.shared]
      simp [Upstreams.change, same]
  · rw [elsewhere _ (by simp)]
    exact sound.drivers other connection

/-- A request finds no idle connection. -/
theorem missed (sound : Sound proxy upstreams) {config : PoolConfig} {now : Nat}
    (taken : (upstreams.pools pool).takeIdleHttp1 config now = (none, state)) :
    Sound proxy (upstreams.change pool (.idle pool) state) := by
  obtain ⟨gone, cancelled, idle⟩ := takeIdleHttp1_idle config now (upstreams.pools pool)
  have http2 : ((upstreams.pools pool).takeIdleHttp1 config now).2.http2 =
    (upstreams.pools pool).http2 := rfl
  rw [taken] at cancelled idle http2
  exact sound.changeIdle cancelled (.of_eq idle) http2

/-- A request takes an idle connection. -/
theorem found (sound : Sound proxy upstreams) (id : RequestId) {config : PoolConfig} {now : Nat}
    {waits : Bool}
    (taken : (upstreams.pools pool).takeIdleHttp1 config now = (some connection, state))
    (seats : ∀ seat, (Stage.holding pool .http1 connection waits).held seat =
      if seat = .connection then [.pointer (pool, connection)]
      else (upstreams.stages id).held seat)
    (free : (upstreams.stages id).held .connection = []) :
    Sound proxy ((upstreams.change pool (.idle pool) state).proceed id
      (.holding pool .http1 connection waits)
      ((upstreams.change pool (.idle pool) state).store.transfer (.idle pool)
        (.request .connection id) (.pointer (pool, connection)))) := by
  obtain ⟨gone, cancelled, idle⟩ := takeIdleHttp1_idle config now (upstreams.pools pool)
  have http2 : ((upstreams.pools pool).takeIdleHttp1 config now).2.http2 =
    (upstreams.pools pool).http2 := rfl
  rw [taken] at cancelled idle http2
  have holds := sound.idle pool
  rw [idle] at holds
  obtain ⟨exact, made, left, elsewhere⟩ := sound.changed cancelled holds
  have held : .pointer (pool, connection) ∈
      (upstreams.change pool (.idle pool) state).store.handles (.idle pool) :=
    left.mem_iff.mpr List.mem_cons_self
  generalize own : upstreams.change pool (.idle pool) state = after
    at exact made left elsewhere held
  have handles (place : Place Pool) :
      (after.store.transfer (.idle pool) (.request .connection id)
        (.pointer (pool, connection))).handles place =
        if place = .request .connection id then [.pointer (pool, connection)]
        else if place = .idle pool then
          (after.store.handles (.idle pool)).erase (.pointer (pool, connection))
        else after.store.handles place := by
    rw [Store.handles_transfer _ (by simp), elsewhere _ (by simp), sound.seats, free]
  subst own
  refine ⟨exact.transfer held, made.transfer held, fun seat other => ?_, fun other => ?_,
    fun other => ?_, fun other connection => ?_⟩
  · by_cases same : other = id
    · subst same
      simp only [Upstreams.store_proceed, Upstreams.stages_proceed, Function.update_self, handles,
        seats]
      by_cases here : seat = .connection
      · simp [here]
      · simp [here, elsewhere, sound.seats]
    · simp [same, handles, elsewhere, sound.seats]
  · simp only [Upstreams.store_proceed, handles]
    by_cases same : other = pool
    · subst same
      simpa [pointers] using left.erase (.pointer (other, connection))
    · simpa [same, elsewhere] using sound.idle other
  · simp [handles, elsewhere, sound.shared, field_update PoolState.http2 http2]
  · simpa [handles, elsewhere] using sound.drivers other connection

/-- A request looks for an idle connection. -/
theorem takeIdle (sound : Sound proxy upstreams) {now : Nat} {without : Stage Pool}
    (free : ∀ seat, (upstreams.stages id).held seat = [])
    (same : ∀ seat, without.held seat = []) :
    Sound proxy (upstreams.takeIdle proxy id pool now without) := by
  unfold Upstreams.takeIdle
  rcases taken : (upstreams.pools pool).takeIdleHttp1 (proxy.upstream pool).pool now with
    ⟨_ | connection, state⟩
  · exact (sound.missed taken).restage fun seat => by simp [same, free]
  · refine sound.found id taken (fun seat => ?_) (free .connection)
    rw [free]
    cases seat <;> rfl

/-- A request shares the shared connection. -/
theorem shares (sound : Sound proxy upstreams)
    (shared : (upstreams.pools pool).http2 = some connection)
    (free : ∀ seat, seat ≠ .gate → (upstreams.stages id).held seat = []) :
    Sound proxy (upstreams.proceed id (.holding pool .http2 connection false)
      ((upstreams.vacate id .gate).share (.request .reserved id) (pool, connection))) := by
  have held : .pointer (pool, connection) ∈
      (upstreams.vacate id .gate).handles (.shared pool) := by
    simp [Upstreams.vacate, sound.shared, shared, pointers]
  refine sound.proceed ((sound.exact.close _).share _ held) ((sound.made.close _).share held)
    (fun seat => ?_) fun place apart => ?_
  · by_cases gate : seat = .gate
    · subst gate
      simp [Upstreams.vacate, Stage.held]
    · have before := sound.seats seat id
      rw [free seat gate] at before
      cases seat <;> simp_all [Upstreams.vacate, Stage.held]
  · simp [Upstreams.vacate, apart]

/-- A request looks for the shared connection. -/
theorem share (sound : Sound proxy upstreams) {without : Stage Pool}
    (same : ∀ seat, without.held seat = (upstreams.stages id).held seat)
    (free : ∀ seat, seat ≠ .gate → (upstreams.stages id).held seat = []) :
    Sound proxy (upstreams.share id pool without) := by
  unfold Upstreams.share
  rcases (upstreams.pools pool).currentHttp2_cases with kept | gone
  · rw [kept]
    have unchanged : Sound proxy
        (upstreams.change pool (.shared pool) (upstreams.pools pool)) := by
      refine sound.congr ?_ rfl rfl (fun other => ?_) fun other => ?_
      · simp [Upstreams.change, dropped, Store.discard]
      · simp
      · simp
    cases shared : (upstreams.pools pool).http2 with
    | none => exact unchanged.restage same
    | some connection => exact unchanged.shares (by simpa using shared) free
  · obtain ⟨_, _, idle, _, http2, cancelled⟩ := (upstreams.pools pool).takeHttp2_frame
    rw [gone]
    exact (sound.changeShared cancelled idle http2).restage same

/-- A request looks for a connection that is there already. -/
theorem acquire (sound : Sound proxy upstreams) {now : Nat}
    (stepped : upstreams.acquire proxy id pool now = some next) : Sound proxy next := by
  unfold Upstreams.acquire at stepped
  split at stepped
  case h_1 uncalled _ _ =>
    cases stepped
    exact sound.takeIdle (fun seat => by simp [uncalled, Stage.held]) fun seat => by
      cases seat <;> rfl
  case h_2 uncalled _ =>
    cases stepped
    refine sound.share (fun seat => ?_) fun seat _ => by simp [uncalled, Stage.held]
    rw [uncalled]
    cases seat <;> rfl
  case h_3 => cases stepped

/-- A request tries for a permit. -/
theorem attempt (sound : Sound proxy upstreams) (stepped : upstreams.attempt id = some next) :
    Sound proxy next := by
  unfold Upstreams.attempt at stepped
  split at stepped
  case h_1 pool goal seeking =>
    split at stepped
    case h_1 =>
      cases stepped
      exact sound.restage fun seat => by simp [seeking, Stage.held]
    case h_2 store acquired =>
      cases stepped
      have handles := Store.handles_tryAcquire _ acquired
      refine sound.reached (sound.exact.tryAcquire acquired)
        (sound.made.tryAcquire acquired trivial) (fun seat => ?_) fun place apart => ?_
      · simp [handles, sound.seats, seeking, Stage.held]
      · rw [handles, if_neg (apart _)]
  case h_2 => cases stepped

/-- A request waits, or gives up. -/
theorem enqueue (sound : Sound proxy upstreams) (stepped : upstreams.enqueue id = some next) :
    Sound proxy next := by
  unfold Upstreams.enqueue at stepped
  split at stepped
  case h_1 pool goal declined =>
    have waits {store stage} (acquired : upstreams.store.tryAcquire (.request .pending id)
        (.pending pool) = some store)
        (same : ∀ seat, stage.held seat =
          if seat = .pending then [.permit (.pending pool)] else goal.held pool seat) :
        Sound proxy (upstreams.proceed id stage store) := by
      have handles := Store.handles_tryAcquire _ acquired
      refine sound.proceed (sound.exact.tryAcquire acquired)
        (sound.made.tryAcquire acquired trivial) (fun seat => ?_) fun place apart => ?_
      · rw [handles, same, sound.seats, declined]
        cases goal <;> cases seat <;> simp [Stage.held, Goal.held]
      · rw [handles, if_neg (apart _)]
    split at stepped
    case h_1 =>
      cases stepped
      exact sound.leave
    case h_2 _ _ store acquired =>
      cases stepped
      exact waits acquired fun seat => by cases seat <;> rfl
    case h_3 _ _ store acquired _ =>
      cases stepped
      refine waits acquired fun seat => ?_
      cases seat <;> rfl
  case h_2 => cases stepped

/-- The queue for idle connections does not count. -/
theorem forget (sound : Sound proxy upstreams) (id : RequestId) (pool : Pool) :
    Sound proxy (upstreams.forget id pool) :=
  sound.congr rfl rfl rfl (fun _ => rfl) fun _ => rfl

/-- A request that waits gets a permit. -/
theorem grant (sound : Sound proxy upstreams) (stepped : upstreams.grant id = some next) :
    Sound proxy next := by
  unfold Upstreams.grant at stepped
  split at stepped
  case h_1 pool goal queueing =>
    obtain ⟨store, acquired, rfl⟩ := Option.map_eq_some_iff.mp stepped
    have handles := Store.handles_tryAcquire _ acquired
    refine sound.reached ((sound.exact.tryAcquire acquired).close _)
      ((sound.made.tryAcquire acquired trivial).close _) (fun seat => ?_) fun place apart => ?_
    · rw [Store.handles_close, handles, sound.seats, queueing]
      cases goal <;> cases seat <;> simp [Stage.held, Goal.held, Goal.seat]
    · rw [Store.handles_close, if_neg (apart _), handles, if_neg (apart _)]
  case h_2 pool parked =>
    obtain ⟨store, acquired, rfl⟩ := Option.map_eq_some_iff.mp stepped
    have handles := Store.handles_tryAcquire _ acquired
    refine (sound.forget id pool).reached ((sound.exact.tryAcquire acquired).close _)
      ((sound.made.tryAcquire acquired trivial).close _) (fun seat => ?_) fun place apart => ?_
    · rw [Store.handles_close, handles, sound.seats, parked]
      cases seat <;> simp [Stage.held, Goal.held, Goal.seat, Goal.capacity]
    · rw [Store.handles_close, if_neg (apart _), handles, if_neg (apart _)]
      rfl
  case h_3 => cases stepped

/-- A request registers for an idle connection. -/
theorem register (sound : Sound proxy upstreams) (stepped : upstreams.register id = some next) :
    Sound proxy next := by
  unfold Upstreams.register at stepped
  split at stepped
  case h_1 pool registering =>
    cases stepped
    have restaged : Sound proxy (upstreams.proceed id (.looking pool) upstreams.store) :=
      sound.restage fun seat => by
        rw [registering]
        cases seat <;> rfl
    exact restaged.congr rfl rfl rfl (fun _ => rfl) fun _ => rfl
  case h_2 => cases stepped

/-- A request looks again. -/
theorem look (sound : Sound proxy upstreams) {now : Nat}
    (stepped : upstreams.look proxy id now = some next) : Sound proxy next := by
  unfold Upstreams.look at stepped
  split at stepped
  case h_1 pool looking =>
    rcases taken : (upstreams.pools pool).takeIdleHttp1 (proxy.upstream pool).pool now with
      ⟨_ | connection, state⟩
    · simp only [taken, Upstreams.takeIdle] at stepped
      split_ifs at stepped
      cases stepped
      refine (sound.missed taken).restage fun seat => ?_
      rw [Upstreams.stages_change, looking]
      cases seat <;> rfl
    · simp only [taken, Upstreams.takeIdle] at stepped
      split_ifs at stepped
      cases stepped
      have found := sound.found id taken (fun seat =>
        show (Stage.holding pool .http1 connection true).held seat = _ by
          rw [looking]
          cases seat <;> rfl) (by rw [looking]; rfl)
      have vacated := found.vacate id .pending (fun seat =>
        show (Stage.holding pool .http1 connection false).held seat = _ by
          rw [Upstreams.stages_proceed, Function.update_self]
          cases seat <;> rfl)
      refine vacated.congr rfl rfl ?_ (fun _ => rfl) fun _ => rfl
      simp [Upstreams.forget]
  case h_2 pool gated =>
    cases stepped
    refine sound.share (fun seat => ?_) fun seat apart => ?_
    · rw [gated]
      cases seat <;> rfl
    · rw [gated]
      cases seat <;> simp_all [Stage.held]
  case h_3 => cases stepped

/-- A request that has been notified starts over. -/
theorem wake (sound : Sound proxy upstreams) (stepped : upstreams.wake id = some next) :
    Sound proxy next := by
  unfold Upstreams.wake at stepped
  split at stepped
  case h_1 pool parked =>
    split_ifs at stepped
    cases stepped
    have restaged : Sound proxy (upstreams.proceed id (.registering pool) upstreams.store) :=
      sound.restage fun seat => by
        rw [parked]
        cases seat <;> rfl
    exact restaged.congr rfl rfl rfl (fun _ => rfl) fun _ => rfl
  case h_2 => cases stepped

/-- A connection gets its driver. -/
theorem drive (sound : Sound proxy upstreams) {place : Place Pool}
    (held : .pointer (pool, connection) ∈ upstreams.store.handles place) :
    Sound proxy { upstreams with
      store := upstreams.store.share (.driver pool connection) (pool, connection) } where
  exact := sound.exact.share place held
  made := sound.made.share held
  seats seat id := by simpa using sound.seats seat id
  idle pool := by simpa using sound.idle pool
  shared pool := by simpa using sound.shared pool
  drivers other later := by
    rw [Store.handles_share]
    split_ifs with same
    · cases same
      exact List.forall_mem_cons.mpr ⟨rfl, sound.drivers pool connection⟩
    · exact sound.drivers other later

/-- A new connection is shared in place of the one before. -/
theorem replace (sound : Sound proxy upstreams)
    (dialing : upstreams.stages id = .dialing pool .http2 connection)
    (cancelled : state.cancelled =
      (upstreams.pools pool).http2.toList ++ (upstreams.pools pool).cancelled)
    (idle : state.idleHttp1 = (upstreams.pools pool).idleHttp1)
    (http2 : state.http2 = some connection) :
    Sound proxy ((upstreams.change pool (.shared pool) state).proceed id
      (.holding pool .http2 connection false)
      (((upstreams.change pool (.shared pool) state).vacate id .gate).share (.shared pool)
        (pool, connection))) := by
  have holds : (upstreams.store.handles (.shared pool)).Perm
      (pointers pool ((upstreams.pools pool).http2.toList ++ [])) := by
    rw [sound.shared, List.append_nil]
  obtain ⟨exact, made, left, elsewhere⟩ := sound.changed cancelled holds
  have none_left := List.perm_nil.mp left
  generalize own : upstreams.change pool (.shared pool) state = after
    at exact made left elsewhere none_left
  have held : .pointer (pool, connection) ∈
      (after.vacate id .gate).handles (.request .reserved id) := by
    simp [Upstreams.vacate, elsewhere, sound.seats, dialing, Stage.held]
  have handles (place : Place Pool) :
      ((after.vacate id .gate).share (.shared pool) (pool, connection)).handles place =
        if place = .shared pool then [.pointer (pool, connection)]
        else if place = .request .gate id then [] else upstreams.store.handles place := by
    rw [Store.handles_share, Upstreams.vacate, Store.handles_close]
    split_ifs with shared gate
    · subst gate
      cases shared
    · rw [shared, none_left]
    · rfl
    · exact elsewhere place shared
  subst own
  refine ⟨(exact.close _).share _ held, (made.close _).share held, fun seat other => ?_,
    fun other => ?_, fun other => ?_, fun other later => ?_⟩
  · rw [Upstreams.store_proceed, Upstreams.stages_proceed, handles]
    by_cases same : other = id
    · subst same
      rw [Function.update_self, sound.seats, dialing]
      cases seat <;> simp [Stage.held]
    · simp [same, sound.seats]
  · rw [Upstreams.store_proceed, handles]
    simpa [field_update PoolState.idleHttp1 idle] using sound.idle other
  · rw [Upstreams.store_proceed, handles]
    by_cases same : other = pool
    · subst same
      simp [http2, pointers]
    · simp [same, sound.shared]
  · rw [Upstreams.store_proceed, handles]
    simpa using sound.drivers other later

/-- A connection is established. -/
theorem establish (sound : Sound proxy upstreams) (stepped : upstreams.establish id = some next) :
    Sound proxy next := by
  unfold Upstreams.establish at stepped
  split at stepped
  case h_1 pool connection dialing =>
    cases stepped
    have held : .pointer (pool, connection) ∈
        upstreams.store.handles (.request .reserved id) := by
      rw [sound.seats, dialing]
      exact List.mem_singleton_self _
    have driven := sound.drive held
    refine (driven.proceed (driven.exact.move _ _) (driven.made.move _ _) (fun seat => ?_)
      fun place apart => ?_).congr rfl rfl rfl (fun _ => rfl) fun _ => rfl
    · rw [Store.handles_move _ (by simp), driven.seats, driven.seats, driven.seats, dialing]
      cases seat <;> simp [Stage.held]
    · rw [Store.handles_move _ (by simp), if_neg (apart _), if_neg (apart _)]
  case h_2 pool connection dialing =>
    cases stepped
    have held : .pointer (pool, connection) ∈
        upstreams.store.handles (.request .reserved id) := by
      rw [sound.seats, dialing]
      exact List.mem_singleton_self _
    obtain ⟨_, _, idle, _, _, cancelled⟩ := (upstreams.pools pool).takeHttp2_frame
    exact (sound.drive held).replace dialing cancelled idle rfl
  case h_3 => cases stepped

/-- A request waits for its connection to be ready, or gives up. -/
theorem awaitReady (sound : Sound proxy upstreams)
    (stepped : upstreams.awaitReady id = some next) : Sound proxy next := by
  unfold Upstreams.awaitReady at stepped
  split at stepped
  case h_1 pool protocol connection holding =>
    split at stepped
    case h_1 =>
      cases stepped
      exact sound.leave
    case h_2 store acquired =>
      cases stepped
      have handles := Store.handles_tryAcquire _ acquired
      refine sound.proceed (sound.exact.tryAcquire acquired)
        (sound.made.tryAcquire acquired trivial) (fun seat => ?_) fun place apart => ?_
      · rw [handles, sound.seats, holding]
        cases protocol <;> cases seat <;> simp [Stage.held]
      · rw [handles, if_neg (apart _)]
  case h_2 => cases stepped

/-- A connection is ready. -/
theorem ready (sound : Sound proxy upstreams) (stepped : upstreams.ready id = some next) :
    Sound proxy next := by
  unfold Upstreams.ready at stepped
  split at stepped
  case h_1 pool protocol connection holding =>
    cases stepped
    refine sound.vacate id .pending fun seat => ?_
    rw [holding]
    cases protocol <;> cases seat <;> rfl
  case h_2 => cases stepped

/-- A pool keeps the connection of a request. -/
theorem keeps (sound : Sound proxy upstreams) {returned : Nat}
    (held : .pointer (pool, connection) ∈ upstreams.store.handles (.request .connection id))
    (holding : upstreams.stages id = .holding pool .http1 connection false)
    (idle : state.idleHttp1 = (returned, connection) :: (upstreams.pools pool).idleHttp1)
    (http2 : state.http2 = (upstreams.pools pool).http2) :
    Sound proxy (Upstreams.proceed
      { upstreams with pools := Function.update upstreams.pools pool state } id .ended
      (upstreams.store.transfer (.request .connection id) (.idle pool)
        (.pointer (pool, connection)))) := by
  have handles (place : Place Pool) :
      (upstreams.store.transfer (.request .connection id) (.idle pool)
        (.pointer (pool, connection))).handles place =
        if place = .idle pool then
          .pointer (pool, connection) :: upstreams.store.handles (.idle pool)
        else if place = .request .connection id then [] else upstreams.store.handles place := by
    rw [Store.handles_transfer _ (by simp), sound.seats, holding]
    simp [Stage.held]
  refine ⟨sound.exact.transfer held, sound.made.transfer held, fun seat other => ?_,
    fun other => ?_, fun other => ?_, fun other later => ?_⟩
  · rw [Upstreams.store_proceed, Upstreams.stages_proceed, handles]
    by_cases same : other = id
    · subst same
      rw [Function.update_self, sound.seats, holding]
      cases seat <;> simp [Stage.held]
    · simp [same, sound.seats]
  · rw [Upstreams.store_proceed, handles]
    by_cases same : other = pool
    · subst same
      simpa [idle, pointers] using sound.idle other
    · simpa [same] using sound.idle other
  · rw [Upstreams.store_proceed, handles]
    simp [field_update PoolState.http2 http2, sound.shared]
  · rw [Upstreams.store_proceed, handles]
    simpa using sound.drivers other later

/-- A request gives its connection back. -/
theorem giveBack (sound : Sound proxy upstreams) {now : Nat}
    (stepped : upstreams.giveBack proxy id now = some next) : Sound proxy next := by
  unfold Upstreams.giveBack at stepped
  split at stepped
  case h_1 pool connection holding =>
    have held : .pointer (pool, connection) ∈
        upstreams.store.handles (.request .connection id) := by
      rw [sound.seats, holding]
      exact List.mem_singleton_self _
    have http2 := http2_returnHttp1 (proxy.upstream pool).pool now (upstreams.pools pool)
      connection
    dsimp only at stepped
    split_ifs at stepped with kept owed
    · cases stepped
      cases (upstreams.pools pool).returnHttp1_disposes (proxy.upstream pool).pool now
        connection with
      | dropped idle _ =>
          rw [idle] at kept
          exact absurd kept (lt_irrefl _)
      | kept _ idle _ =>
          have after := sound.keeps held holding idle http2
          exact ⟨after.exact, after.made, after.seats, after.idle, after.shared, after.drivers⟩
    · cases stepped
      cases (upstreams.pools pool).returnHttp1_disposes (proxy.upstream pool).pool now
        connection with
      | kept _ idle _ =>
          rw [idle] at kept
          exact absurd (Nat.lt_succ_self _) kept
      | dropped idle _ =>
          have vacated : Sound proxy
              (upstreams.proceed id .ended (upstreams.vacate id .connection)) := by
            refine sound.vacate id .connection fun seat => ?_
            rw [holding]
            cases seat <;> rfl
          exact vacated.congr rfl rfl rfl (field_update PoolState.idleHttp1 idle)
            (field_update PoolState.http2 http2)
  case h_2 => cases stepped

/-- A connection is upgraded. -/
theorem upgrade (sound : Sound proxy upstreams) (stepped : upstreams.upgrade id = some next) :
    Sound proxy next := by
  unfold Upstreams.upgrade at stepped
  split at stepped
  case h_1 pool connection holding =>
    cases stepped
    refine sound.restage fun seat => ?_
    rw [holding]
    cases seat <;> rfl
  case h_2 => cases stepped

/-- A request is abandoned. -/
theorem abandon (sound : Sound proxy upstreams) (stepped : upstreams.abandon id = some next) :
    Sound proxy next := by
  unfold Upstreams.abandon at stepped
  split at stepped
  case h_1 | h_2 | h_3 => cases stepped
  case h_4 =>
    cases stepped
    exact sound.leave

/-- A driver ends. -/
theorem driven (sound : Sound proxy upstreams) (pool : Pool) (connection : ConnectionId) :
    Sound proxy { upstreams with
      store := upstreams.store.close controls (.driver pool connection) } where
  exact := sound.exact.close _
  made := sound.made.close _
  seats seat id := by simpa using sound.seats seat id
  idle pool := by simpa using sound.idle pool
  shared pool := by simpa using sound.shared pool
  drivers other later := by
    rw [Store.handles_close]
    split_ifs
    · intro handle held
      cases held
    · exact sound.drivers other later

/-- Every event keeps what is held in line with the stages. -/
theorem step (sound : Sound proxy upstreams) {event : Event Pool}
    (stepped : proxy.step upstreams event = some next) : Sound proxy next := by
  cases event with
  | acquire id pool now => exact sound.acquire stepped
  | attempt id => exact sound.attempt stepped
  | enqueue id => exact sound.enqueue stepped
  | grant id => exact sound.grant stepped
  | register id => exact sound.register stepped
  | look id now => exact sound.look stepped
  | wake id => exact sound.wake stepped
  | establish id => exact sound.establish stepped
  | awaitReady id => exact sound.awaitReady stepped
  | ready id => exact sound.ready stepped
  | giveBack id now => exact sound.giveBack stepped
  | upgrade id => exact sound.upgrade stepped
  | abandon id => exact sound.abandon stepped
  | notify pool =>
      simp only [Proxy.step, Upstreams.notify] at stepped
      split_ifs at stepped
      cases stepped
      exact sound.congr rfl rfl rfl (fun _ => rfl) fun _ => rfl
  | reapHttp1 pool now =>
      simp only [Proxy.step] at stepped
      split_ifs at stepped
      cases stepped
      exact sound.changeIdle rfl (reapHttp1_idle _ now _) rfl
  | reapHttp2 pool =>
      cases stepped
      obtain ⟨_, _, idle, _, http2, cancelled⟩ := (upstreams.pools pool).takeHttp2_frame
      exact sound.changeShared cancelled idle http2
  | close pool connection =>
      cases stepped
      exact sound.congr rfl rfl rfl (field_update PoolState.idleHttp1 (by rfl))
        (field_update PoolState.http2 (by rfl))
  | drive pool connection =>
      cases stepped
      exact sound.driven pool connection
  | shutdown pool =>
      cases stepped
      exact sound.congr rfl rfl rfl (field_update PoolState.idleHttp1 (by rfl))
        (field_update PoolState.http2 (by rfl))

end Sound

/-- In every run, what is held is what the stages of the requests and the pools say. -/
theorem sound_run {start : Nat} {events : List (Event Pool)}
    (ran : proxy.run start events = some upstreams) : Sound proxy upstreams :=
  Results.foldlM_some_preserves (Sound proxy) (fun _ _ _ sound stepped => sound.step stepped)
    (.initial proxy start) ran

/-! ## The account -/

/-- The permits that are out, one for each that is accounted for. -/
structure Accounted (proxy : Proxy Pool) (upstreams : Upstreams Pool) : Prop where
  connections : ∀ pool, upstreams.store.heap.available (.connections pool) +
    ({id | (upstreams.stages id).Reserves pool}.ncard +
      {connection | upstreams.Left pool connection}.ncard) =
        (proxy.upstream pool).pool.maxConnections
  together : upstreams.store.heap.available .globalConnections +
    {control : Control Pool | upstreams.Left control.1 control.2}.ncard = proxy.maxConnections
  pending : ∀ pool, upstreams.store.heap.available (.pending pool) +
    {id | (upstreams.stages id).Waits pool}.ncard =
      (proxy.upstream pool).pool.maxPendingRequests
  gate : ∀ pool, upstreams.store.heap.available (.connectGate pool) +
    {id | (upstreams.stages id).Connects pool}.ncard = 1
  bounded : ∀ pool, {connection | upstreams.Open pool connection}.ncard ≤
    (proxy.upstream pool).pool.maxConnections
  boundedTogether : {control : Control Pool | upstreams.Open control.1 control.2}.ncard ≤
    proxy.maxConnections

/-- A request that needs a permit has others of these semaphores at these seats. -/
def Goal.Takes (pool : Pool) (goal : Goal) : Capacity Pool → Seat → Prop
  | .connections own, .reserved => pool = own ∧ ∃ protocol, goal = .globalConnections protocol
  | .connectGate own, .gate =>
      pool = own ∧ (goal = .connections .http2 ∨ goal = .globalConnections .http2)
  | _, _ => False

/-- A request has permits of these semaphores at these seats. -/
def Stage.Takes (stage : Stage Pool) : Capacity Pool → Seat → Prop
  | .connections pool, .reserved => stage.Reserves pool
  | .pending pool, .pending => stage.Waits pool
  | .connectGate pool, .gate => stage.Connects pool
  | _, _ => False

/-- Where requests have permits of a semaphore. -/
def Capacity.seat : Capacity Pool → Seat
  | connections _ | globalConnections => .reserved
  | pending _ => .pending
  | connectGate _ => .gate

section Permits

omit [DecidableEq Pool]

variable {seat : Seat} {capacity : Capacity Pool}

theorem Stage.seat_of_takes (takes : stage.Takes capacity seat) : seat = capacity.seat := by
  cases capacity with
  | globalConnections => cases seat <;> cases takes
  | connections | pending | connectGate => cases seat <;> first | rfl | cases takes

theorem Goal.length_held (pool : Pool) (goal : Goal) (seat : Seat) :
    (goal.held pool seat).length ≤ 1 := by
  unfold held
  split <;> simp

theorem Stage.length_held (stage : Stage Pool) (seat : Seat) : (stage.held seat).length ≤ 1 := by
  unfold held
  split
  all_goals first
    | exact Goal.length_held _ _ _
    | simp

theorem Goal.permit_mem_held {goal : Goal} :
    .permit capacity ∈ goal.held pool seat ↔ goal.Takes pool capacity seat := by
  cases goal with
  | connectGate => cases capacity <;> cases seat <;> simp [held, Takes]
  | connections protocol | globalConnections protocol =>
      cases protocol <;> cases capacity <;> cases seat <;> simp [held, Takes, eq_comm]

theorem Stage.permit_mem_held :
    .permit capacity ∈ stage.held seat ↔ stage.Takes capacity seat := by
  cases stage with
  | seeking pool goal | declined pool goal =>
      refine Goal.permit_mem_held.trans ?_
      cases capacity <;> cases seat <;> rfl
  | queueing pool goal =>
      by_cases pending : seat = .pending
      · subst pending
        cases capacity <;> simp [held, Takes, Waits, eq_comm]
      · have same : (queueing pool goal).held seat = goal.held pool seat := by
          cases seat with
          | pending => exact absurd rfl pending
          | reserved | gate | connection => rfl
        rw [same, Goal.permit_mem_held]
        cases seat with
        | pending => exact absurd rfl pending
        | reserved | gate | connection => cases capacity <;> rfl
  | uncalled | registering | looking | parked | gated | ended | tunnelling =>
      cases capacity <;> cases seat <;>
        simp [held, Takes, Reserves, Waits, Connects, eq_comm]
  | dialing pool protocol connection =>
      cases protocol <;> cases capacity <;> cases seat <;>
        simp [held, Takes, Reserves, Waits, Connects, eq_comm]
  | holding pool protocol connection waiting =>
      cases protocol <;> cases waiting <;> cases capacity <;> cases seat <;>
        simp [held, Takes, Reserves, Waits, Connects, eq_comm]

end Permits

namespace Sound

/-- Only requests hold permits. -/
theorem permit (sound : Sound proxy upstreams) {place : Place Pool} {capacity : Capacity Pool}
    (held : .permit capacity ∈ upstreams.store.handles place) :
    ∃ seat id, place = .request seat id ∧ (upstreams.stages id).Takes capacity seat := by
  cases place with
  | request seat id =>
      rw [sound.seats] at held
      exact ⟨seat, id, rfl, Stage.permit_mem_held.mp held⟩
  | idle pool =>
      have pointer := (sound.idle pool).mem_iff.mp held
      simp [pointers] at pointer
  | shared pool =>
      rw [sound.shared] at held
      simp [pointers] at held
  | driver pool connection => cases sound.drivers pool connection _ held

/-- The permits that are out are those of requests and those of connections. -/
theorem account (sound : Sound proxy upstreams) (capacity : Capacity Pool) :
    upstreams.store.heap.available capacity +
        ({id | (upstreams.stages id).Takes capacity capacity.seat}.ncard +
          {control | .permit capacity ∈ controls.contents control ∧
            upstreams.Left control.1 control.2}.ncard) =
      proxy.limit capacity := by
  have single (place : Place Pool) :
      (upstreams.store.handles place).count (.permit capacity) ≤ 1 := by
    by_cases held : .permit capacity ∈ upstreams.store.handles place
    · obtain ⟨seat, id, rfl, _⟩ := sound.permit held
      rw [sound.seats]
      exact List.count_le_length.trans (Stage.length_held _ seat)
    · rw [List.count_eq_zero.mpr held]
      exact Nat.zero_le 1
  have one (control : Control Pool) :
      (controls.contents control).count (.permit capacity) ≤ 1 := by
    refine List.nodup_iff_count_le_one.mp ?_ _
    simp [controls]
  have account := sound.exact.account single one
  have places : {place | .permit capacity ∈ upstreams.store.handles place} =
      Place.request capacity.seat ''
        {id | (upstreams.stages id).Takes capacity capacity.seat} := by
    ext place
    simp only [Set.mem_image, Set.mem_ofPred_eq]
    constructor
    · intro held
      obtain ⟨seat, id, rfl, takes⟩ := sound.permit held
      obtain rfl := Stage.seat_of_takes takes
      exact ⟨id, takes, rfl⟩
    · rintro ⟨id, takes, rfl⟩
      rw [sound.seats]
      exact Stage.permit_mem_held.mpr takes
  rw [places, Set.ncard_image_of_injective _ fun _ _ same => (Place.request.inj same).2] at account
  simpa only [leads_pointer, exists_eq_right, Upstreams.Left] using account

/-- What is open is left. -/
theorem left (sound : Sound proxy upstreams) (opened : upstreams.Open pool connection) :
    upstreams.Left pool connection := by
  rcases opened with ⟨id, streams⟩ | driven
  · cases stage : upstreams.stages id with
    | dialing own protocol other =>
        rw [stage] at streams
        obtain ⟨rfl, rfl⟩ := streams
        refine ⟨.request .reserved id, ?_⟩
        rw [sound.seats, stage]
        cases protocol <;> exact List.mem_singleton_self _
    | tunnelling own other =>
        rw [stage] at streams
        obtain ⟨rfl, rfl⟩ := streams
        refine ⟨.request .connection id, ?_⟩
        rw [sound.seats, stage]
        exact List.mem_singleton_self _
    | _ =>
        rw [stage] at streams
        cases streams
  · obtain ⟨handle, held⟩ := List.exists_mem_of_ne_nil _ driven
    obtain rfl := sound.drivers pool connection handle held
    exact ⟨_, held⟩

/-- Only finitely many connections are left. -/
theorem finite_left (sound : Sound proxy upstreams) :
    {control : Control Pool | upstreams.Left control.1 control.2}.Finite := by
  refine (List.finite_toSet upstreams.store.heap.alive).subset ?_
  rintro control ⟨place, held⟩
  exact sound.exact.alive_iff.mpr ⟨place, _, held, .refl _⟩

end Sound

/-- In every run, the permits that are out are those that are accounted for, and so no more
connections are open than there may be. -/
theorem connections_accounted {start : Nat} {events : List (Event Pool)}
    (ran : proxy.run start events = some upstreams) : Accounted proxy upstreams := by
  have sound := sound_run ran
  have finite (pool : Pool) : {connection | upstreams.Left pool connection}.Finite :=
    sound.finite_left.preimage (f := fun connection => (pool, connection))
      fun _ _ _ _ same => (Prod.mk.inj same).2
  have connections (pool : Pool) : upstreams.store.heap.available (.connections pool) +
      ({id | (upstreams.stages id).Reserves pool}.ncard +
        {connection | upstreams.Left pool connection}.ncard) =
          (proxy.upstream pool).pool.maxConnections := by
    have account := sound.account (.connections pool)
    have own : {control : Control Pool | .permit (.connections pool) ∈ controls.contents control ∧
          upstreams.Left control.1 control.2} =
        (pool, ·) '' {connection | upstreams.Left pool connection} := by
      ext ⟨other, connection⟩
      simp only [Set.mem_image, Set.mem_ofPred_eq, controls]
      constructor
      · rintro ⟨made, left⟩
        obtain rfl : pool = other := by simpa using made
        exact ⟨connection, left, rfl⟩
      · rintro ⟨_, left, same⟩
        cases same
        exact ⟨List.mem_cons_self, left⟩
    rw [own, Set.ncard_image_of_injective _ fun _ _ same => (Prod.mk.inj same).2] at account
    exact account
  have together : upstreams.store.heap.available .globalConnections +
      {control : Control Pool | upstreams.Left control.1 control.2}.ncard =
        proxy.maxConnections := by
    have account := sound.account .globalConnections
    simpa [controls, Stage.Takes, Capacity.seat, Proxy.limit] using account
  refine ⟨connections, together, fun pool => ?_, fun pool => ?_, fun pool => ?_, ?_⟩
  · simpa [controls, Stage.Takes, Capacity.seat, Proxy.limit] using sound.account (.pending pool)
  · simpa [controls, Stage.Takes, Capacity.seat, Proxy.limit] using
      sound.account (.connectGate pool)
  · have subset : {connection | upstreams.Open pool connection} ⊆
        {connection | upstreams.Left pool connection} := fun _ => sound.left
    have opened := Set.ncard_le_ncard subset (finite pool)
    have all := connections pool
    omega
  · have subset : {control : Control Pool | upstreams.Open control.1 control.2} ⊆
        {control | upstreams.Left control.1 control.2} := fun _ => sound.left
    have opened := Set.ncard_le_ncard subset sound.finite_left
    omega

/-- An upstream to which one connection may be open. -/
def narrowProxy : Proxy Unit where
  upstream _ :=
    { endpoint := "http://127.0.0.1:3000"
      address := ⟨.v4 0x7f000001, 3000, 0⟩
      authority := "127.0.0.1:3000"
      tls := false
      protocol := .http1
      hostHeader := .preserve
      tlsServerName := .requestHost
      caFile := none
      pool := { defaultPool with maxConnections := 1 } }
  maxConnections := 8

/-- One request opens the connection, and another one goes to sleep. -/
def oneSleeps : List (Event Unit) :=
  [.acquire 0 () 0, .attempt 0, .attempt 0, .establish 0,
    .acquire 1 () 1, .attempt 1, .enqueue 1, .register 1, .look 1 2]

theorem connections_accounted_narrow :
    ∃ upstreams, narrowProxy.run 0 oneSleeps = some upstreams ∧
      Accounted narrowProxy upstreams ∧
      upstreams.store.heap.available (.connections ()) = 0 :=
  ⟨_, rfl, connections_accounted (show narrowProxy.run 0 oneSleeps = some _ from rfl), rfl⟩

end EdgeGateway.HttpProxy.Connecting
