import EdgeGateway.Gateway.Admission

/-!
# The account of the admissions

Whatever the order in which connections are accepted, requests come, are answered, are passed on
and end, the permits that are out are one for each connection that some place still serves, one for
each handshake under way, and one for each request, stream and exchange of which some place is left.
-/

namespace EdgeGateway.Gateway

open EdgeGateway.Configuration Http HttpProxy IpBlocking Security SharedOwnership

/-! ## What the places hold -/

/-- The lease that a runtime waits with for its upstream. -/
def HandOff.lease (handOff : HandOff) (id : RequestId) : Shared :=
  match handOff.target with
  | .websocket _ => .requestLease id
  | .grpc route => .streamLease id route.backend.address
  | .http route => .exchangeLease id (.route route.id)
  | .fallback _ => .exchangeLease id (.fallback handOff.host)

theorem HandOff.request_lease (handOff : HandOff) (id : RequestId) :
    (handOff.lease id).request = some id := by
  unfold HandOff.lease
  split <;> rfl

theorem Shared.connection_of_request {value : Shared} {id : RequestId}
    (own : value.request = some id) :
    value.connection = id.connection := by
  cases value <;> cases own <;> rfl

namespace Stage

/-- What the handler of a request holds. -/
def handler (id : RequestId) : Stage → List (Handle Capacity Shared)
  | uncalled | ended => []
  | called => [.pointer (.transport id.connection)]
  | checked _ | awaiting _ => [.pointer (.requestLease id)]

/-- What the extensions of a request hold; only WebSocket requests wait with them. -/
def request (id : RequestId) : Stage → List (Handle Capacity Shared)
  | checked _ => [.pointer (.requestLease id)]
  | awaiting ⟨.websocket _, _, _, _⟩ => [.pointer (.requestLease id)]
  | uncalled | called | awaiting _ | ended => []

/-- What the runtime of a request holds. -/
def runtime (id : RequestId) : Stage → List (Handle Capacity Shared)
  | awaiting handOff => [.pointer (handOff.lease id)]
  | uncalled | called | checked _ | ended => []

/-- The request has passed its checks. -/
def admitted : Stage → Bool
  | checked _ | awaiting _ | ended => true
  | uncalled | called => false

/-- Parts of the request can go on by themselves. -/
def parts : Stage → Bool
  | awaiting _ | ended => true
  | uncalled | called | checked _ => false

/-- What the handler, the extensions or the runtime of a request hold before parts of it can go on
by themselves. -/
theorem pointer_of_mem {id : RequestId} {stage : Stage} {handle : Handle Capacity Shared}
    (held : handle ∈ stage.handler id ∨ handle ∈ stage.request id ∨ handle ∈ stage.runtime id) :
    ∃ value, handle = .pointer value ∧
      (stage = .called ∧ value = .transport id.connection ∨
        stage.admitted = true ∧ value.request = some id ∧
          (stage.parts = true ∨ value = .requestLease id)) := by
  cases stage with
  | uncalled | ended => simp [handler, request, runtime] at held
  | called =>
      obtain rfl : handle = .pointer (.transport id.connection) := by
        simpa [handler, request, runtime] using held
      exact ⟨_, rfl, .inl ⟨rfl, rfl⟩⟩
  | checked handOff =>
      obtain rfl : handle = .pointer (.requestLease id) := by
        simpa [handler, request, runtime] using held
      exact ⟨_, rfl, .inr ⟨rfl, rfl, .inr rfl⟩⟩
  | awaiting handOff =>
      obtain rfl | rfl :
          handle = .pointer (.requestLease id) ∨ handle = .pointer (handOff.lease id) := by
        rcases held with handled | requested | waiting
        · exact .inl (List.mem_singleton.mp handled)
        · unfold request at requested
          split at requested
          all_goals simp_all
        · exact .inr (List.mem_singleton.mp waiting)
      · exact ⟨_, rfl, .inr ⟨rfl, rfl, .inl rfl⟩⟩
      · exact ⟨_, rfl, .inr ⟨rfl, handOff.request_lease id, .inl rfl⟩⟩

end Stage

/-- The places of a request hold what they hold at a stage. -/
structure Seated (id : RequestId) (stage : Stage)
    (handles : Place → List (Handle Capacity Shared)) : Prop where
  handler : handles (.handler id) = stage.handler id
  request : handles (.request id) = stage.request id
  runtime : handles (.runtime id) = stage.runtime id
  parts : ∀ part, ∀ handle ∈ handles (.part part id),
    stage.parts = true ∧ ∃ value : Shared, handle = .pointer value ∧ value.request = some id

/-- The places of a listener hold what they hold at the stages of its connections and requests. -/
structure Standing (admissions : Admissions) : Prop where
  listener : admissions.store.handles .listener = []
  connections : ∀ connection, admissions.store.handles (.connection connection) = [] ∨
    admissions.Serving connection ∨
    admissions.store.handles (.connection connection) =
      [.permit .handshake, .pointer (.transport connection)]
  begun : ∀ connection, admissions.store.handles (.connection connection) ≠ [] →
    connection < admissions.accepted
  seated : ∀ id, Seated id (admissions.stages id) admissions.store.handles
  called : ∀ id, admissions.stages id ≠ .uncalled →
    id.connection < admissions.accepted ∧
      id.ordinal < admissions.requestCounts id.connection

variable {Connector : Type} {served : Served Connector} {admissions next : Admissions}
  {id : RequestId} {stage : Stage} {store : Store Place Capacity Shared}

theorem Seated.congr {handles others : Place → List (Handle Capacity Shared)}
    (seated : Seated id stage handles)
    (same : ∀ place : Place, place.request? = some id → others place = handles place) :
    Seated id stage others where
  handler := by rw [same (.handler id) rfl, seated.handler]
  request := by rw [same (.request id) rfl, seated.request]
  runtime := by rw [same (.runtime id) rfl, seated.runtime]
  parts part := by
    rw [same (.part part id) rfl]
    exact seated.parts part

namespace Standing

theorem initial (served : Served Connector) : Standing (.initial served) where
  listener := rfl
  connections _ := .inl rfl
  begun _ held := absurd rfl held
  seated _ := ⟨rfl, rfl, rfl, nofun⟩
  called _ some_call := absurd rfl some_call

/-- Only what the places hold counts. -/
theorem congr (standing : Standing admissions)
    (same : store.handles = admissions.store.handles) :
    Standing { admissions with store } := by
  constructor
  case listener => exact same ▸ standing.listener
  case connections =>
    unfold Admissions.Serving
    exact same ▸ standing.connections
  case begun => exact same ▸ standing.begun
  case seated => exact same ▸ standing.seated
  case called => exact standing.called

/-- The handler of a request goes on; only places of that request change. -/
theorem proceed (standing : Standing admissions)
    (called : id.connection < admissions.accepted ∧
      id.ordinal < admissions.requestCounts id.connection)
    (seated : Seated id stage store.handles)
    (elsewhere : ∀ place : Place, place.request? ≠ some id →
      store.handles place = admissions.store.handles place) :
    Standing (admissions.proceed id stage store) where
  listener := (elsewhere .listener (by simp [Place.request?])).trans standing.listener
  connections connection := by
    unfold Admissions.Serving
    simp only [Admissions.proceed, elsewhere (.connection connection) (by simp [Place.request?])]
    exact standing.connections connection
  begun connection := by
    simp only [Admissions.proceed, elsewhere (.connection connection) (by simp [Place.request?])]
    exact standing.begun connection
  seated other := by
    by_cases same : other = id
    · subst same
      simpa [Admissions.proceed] using seated
    · simp only [Admissions.proceed, Function.update_of_ne same]
      refine (standing.seated other).congr fun place own => elsewhere place ?_
      rw [own]
      simpa using same
  called other some_call := by
    by_cases same : other = id
    · subst same
      exact called
    · simp only [Admissions.proceed, Function.update_of_ne same] at some_call
      exact standing.called other some_call

/-- A connection numbers one more request. -/
theorem number (standing : Standing admissions) (connection : Nat) :
    Standing { admissions with
      requestCounts := Function.update admissions.requestCounts connection
        (admissions.requestCounts connection + 1) } := by
  refine ⟨standing.listener, standing.connections, standing.begun, standing.seated, ?_⟩
  intro id called
  refine (standing.called id called).imp_right fun before => ?_
  by_cases same : id.connection = connection
  · simp only [same, Function.update_self]
    exact Nat.lt_succ_of_lt (same ▸ before)
  · simpa only [Function.update_of_ne same] using before

/-- A part of a request ends. -/
theorem finish (standing : Standing admissions) (id : RequestId) (part : Part) :
    Standing (admissions.finish id part) where
  listener := by simpa [Admissions.finish] using standing.listener
  connections := by simpa [Admissions.finish, Admissions.Serving] using standing.connections
  begun := by simpa [Admissions.finish] using standing.begun
  seated other := by
    have seated := standing.seated other
    constructor
    case handler => simpa [Admissions.finish] using seated.handler
    case request => simpa [Admissions.finish] using seated.request
    case runtime => simpa [Admissions.finish] using seated.runtime
    case parts =>
      intro own handle held
      simp only [Admissions.finish, Store.handles_close] at held
      split_ifs at held
      · cases held
      · exact seated.parts own handle held
  called := standing.called

/-- A connection gives up some of what it holds. -/
theorem connection (standing : Standing admissions) (connection : Nat)
    (elsewhere : ∀ place, place ≠ .connection connection →
      store.handles place = admissions.store.handles place)
    (fewer : store.handles (.connection connection) = [] ∨
      admissions.store.handles (.connection connection) ≠ [] ∧
      store.handles (.connection connection) = [.pointer (.transport connection)]) :
    Standing { admissions with store } where
  listener := (elsewhere .listener (by simp)).trans standing.listener
  connections other := by
    by_cases same : other = connection
    · subst same
      rcases fewer with nothing | ⟨_, serving⟩
      · exact .inl nothing
      · exact .inr (.inl serving)
    · simp only [Admissions.Serving, elsewhere (.connection other) (by simpa using same)]
      exact standing.connections other
  begun other held := by
    by_cases same : other = connection
    · subst same
      rcases fewer with nothing | ⟨some_handle, _⟩
      · exact absurd nothing held
      · exact standing.begun other some_handle
    · simp only [elsewhere (.connection other) (by simpa using same)] at held
      exact standing.begun other held
  seated other :=
    (standing.seated other).congr fun place own => elsewhere place (by rintro rfl; cases own)
  called := standing.called

/-- What the places of a request hold. -/
theorem own_pointer (standing : Standing admissions) {place : Place}
    (own : place.request? = some id) {handle : Handle Capacity Shared}
    (held : handle ∈ admissions.store.handles place) :
    ∃ value, handle = .pointer value ∧
      (admissions.stages id = .called ∧ value = .transport id.connection ∨
        (admissions.stages id).admitted = true ∧ value.request = some id ∧
          ((admissions.stages id).parts = true ∨ value = .requestLease id)) := by
  have seated := standing.seated id
  cases place with
  | listener | connection connection => cases own
  | handler other =>
      cases own
      exact Stage.pointer_of_mem (.inl (seated.handler ▸ held))
  | request other =>
      cases own
      exact Stage.pointer_of_mem (.inr (.inl (seated.request ▸ held)))
  | runtime other =>
      cases own
      exact Stage.pointer_of_mem (.inr (.inr (seated.runtime ▸ held)))
  | part part other =>
      cases own
      obtain ⟨late, value, rfl, own⟩ := seated.parts part handle held
      refine ⟨value, rfl, .inr ⟨?_, own, .inl late⟩⟩
      cases stage : admissions.stages id <;> rw [stage] at late <;> first | rfl | cases late

/-- What a connection holds. -/
theorem transport_of_connection (standing : Standing admissions) {connection : Nat} {value : Shared}
    (held : .pointer value ∈ admissions.store.handles (.connection connection)) :
    value = .transport connection := by
  rcases standing.connections connection with nothing | serving | handshaking
  · simp [nothing] at held
  · rw [serving] at held
    simpa using held
  · simpa [handshaking] using held

/-- A pointer is held at a place of its own connection, and of its own request if it has one. -/
theorem place_of_pointer (standing : Standing admissions) {place : Place} {value : Shared}
    (held : .pointer value ∈ admissions.store.handles place) :
    place.connection? = some value.connection ∧
      ∀ id, value.request = some id → place.request? = some id := by
  cases owner : place.request? with
  | none =>
      cases place with
      | handler | request | runtime | part => cases owner
      | listener =>
          rw [standing.listener] at held
          cases held
      | connection connection =>
          obtain rfl := standing.transport_of_connection held
          exact ⟨rfl, nofun⟩
  | some id =>
      have connection : place.connection? = some id.connection := by
        cases place <;> cases owner <;> rfl
      obtain ⟨_, same, ⟨_, rfl⟩ | ⟨_, own, _⟩⟩ := standing.own_pointer owner held
      · cases same
        exact ⟨connection, nofun⟩
      · cases same
        refine ⟨connection.trans (congrArg some (Shared.connection_of_request own).symm), ?_⟩
        intro other also
        rw [← own, also]

end Standing

/-! ## What leads where -/

/-- A value and what is inside it belong together. -/
theorem belongs_of_inside {owner inner : Shared}
    (made : .pointer inner ∈ leases.contents owner) :
    owner.connection = inner.connection ∧
      ∀ id, inner.request = some id → owner.request = some id := by
  cases owner with
  | transport connection => simp [leases] at made
  | requestLease id =>
      obtain rfl : inner = .transport id.connection := by simpa [leases] using made
      exact ⟨rfl, nofun⟩
  | streamLease id _ | exchangeLease id _ =>
      obtain rfl : inner = .requestLease id := by simpa [leases] using made
      exact ⟨rfl, fun _ own => own⟩

/-- What leads to a value belongs to the same connection, and to the same request if the value
belongs to one; nothing else leads to the deepest values. -/
theorem leads_pointer {handle target : Handle Capacity Shared} (leads : leases.Leads handle target)
    {value : Shared} (same : target = .pointer value) :
    ∃ source : Shared, handle = .pointer source ∧ source.connection = value.connection ∧
      (∀ id, value.request = some id → source.request = some id) ∧
      (source = value ∨ leases.depth value < leases.depth source) := by
  induction leads with
  | refl => exact ⟨value, same, rfl, fun _ => id, .inl rfl⟩
  | @inside owner inner target made _ ih =>
      obtain ⟨source, rfl, connection, request, depth⟩ := ih same
      have deeper := leases.descends made
      have belongs := belongs_of_inside made
      refine ⟨owner, rfl, belongs.1.trans connection,
        fun id own => belongs.2 id (request id own), .inr ?_⟩
      rcases depth with rfl | shallower
      · exact deeper
      · exact shallower.trans deeper

theorem leads_transport {handle : Handle Capacity Shared} {connection : Nat} :
    leases.Leads handle (.pointer (.transport connection)) ↔
      ∃ value : Shared, handle = .pointer value ∧ value.connection = connection := by
  constructor
  · intro leads
    obtain ⟨source, same, own, _⟩ := leads_pointer leads rfl
    exact ⟨source, same, own⟩
  · rintro ⟨value, rfl, rfl⟩
    have of_request (id : RequestId) :
        leases.Leads (.pointer (.requestLease id)) (.pointer (.transport id.connection)) :=
      .inside (by simp [leases]) (.refl _)
    cases value with
    | transport connection => exact .refl _
    | requestLease id => exact of_request id
    | streamLease id _ | exchangeLease id _ => exact .inside (by simp [leases]) (of_request id)

theorem leads_requestLease {handle : Handle Capacity Shared} :
    leases.Leads handle (.pointer (.requestLease id)) ↔
      ∃ value : Shared, handle = .pointer value ∧ value.request = some id := by
  constructor
  · intro leads
    obtain ⟨source, same, _, own, _⟩ := leads_pointer leads rfl
    exact ⟨source, same, own id rfl⟩
  · rintro ⟨value, rfl, own⟩
    cases value with
    | transport connection => cases own
    | requestLease other =>
        cases own
        exact .refl _
    | streamLease other _ | exchangeLease other _ =>
        cases own
        exact .inside (by simp [leases]) (.refl _)

/-- Nothing but a pointer leads to a stream or an exchange. -/
theorem leads_deepest {handle : Handle Capacity Shared} {value : Shared}
    (deepest : leases.depth value = 2) :
    leases.Leads handle (.pointer value) ↔ handle = .pointer value := by
  constructor
  · intro leads
    obtain ⟨source, rfl, _, _, same | deeper⟩ := leads_pointer leads rfl
    · rw [same]
    · rw [deepest] at deeper
      cases source <;> simp [leases] at deeper
  · rintro rfl
    exact .refl _

/-! ## Steps -/

/-- No permit is lost or given out twice, and the places hold what they should hold. -/
structure Sound (served : Served Connector) (admissions : Admissions) : Prop where
  exact : admissions.store.Exact leases served.limit
  standing : Standing admissions

theorem sound_initial (served : Served Connector) : Sound served (.initial served) :=
  ⟨Store.exact_initial served.limit, .initial served⟩

/-- Before its checks nothing is leased to a request. -/
theorem Sound.fresh_requestLease (sound : Sound served admissions)
    (called : admissions.stages id = .called) :
    admissions.store.heap.strong (.requestLease id) = 0 := by
  refine sound.exact.fresh fun place handle held leads => ?_
  obtain ⟨value, rfl, own⟩ := leads_requestLease.mp leads
  have place_own := (sound.standing.place_of_pointer held).2 id own
  obtain ⟨_, same, ⟨_, rfl⟩ | ⟨later, _⟩⟩ := sound.standing.own_pointer place_own held
  · cases same
    cases own
  · rw [called] at later
    cases later

/-- Before its runtime takes it up, a request has no lease but its own. -/
theorem Sound.fresh_lease (sound : Sound served admissions) {handOff : HandOff}
    (checked : admissions.stages id = .checked handOff) {value : Shared}
    (deepest : leases.depth value = 2) (own : value.request = some id) :
    admissions.store.heap.strong value = 0 := by
  refine sound.exact.fresh fun place handle held leads => ?_
  obtain rfl := (leads_deepest deepest).mp leads
  have place_own := (sound.standing.place_of_pointer held).2 id own
  obtain ⟨_, same, ⟨called, _⟩ | ⟨_, _, early⟩⟩ := sound.standing.own_pointer place_own held
  · rw [checked] at called
    cases called
  · cases same
    rw [checked] at early
    rcases early with late | rfl
    · cases late
    · simp [leases] at deepest

/-- No connection has been accepted with the next number. -/
theorem Sound.fresh_transport (sound : Sound served admissions) :
    admissions.store.heap.strong (.transport admissions.accepted) = 0 := by
  refine sound.exact.fresh fun place handle held leads => ?_
  obtain ⟨value, rfl, own⟩ := leads_transport.mp leads
  have place_own := (sound.standing.place_of_pointer held).1
  rw [own] at place_own
  have filled : admissions.store.handles place ≠ [] := List.ne_nil_of_mem held
  refine Nat.lt_irrefl admissions.accepted ?_
  cases request : place.request? with
  | none =>
      cases place with
      | handler | request | runtime | part => cases request
      | listener => cases place_own
      | connection connection =>
          cases place_own
          exact sound.standing.begun _ filled
  | some id =>
      have same : id.connection = admissions.accepted := by
        cases place <;> cases request <;> exact Option.some.inj place_own
      have called : admissions.stages id ≠ .uncalled := by
        intro uncalled
        obtain ⟨_, _, ⟨called, _⟩ | ⟨admitted, _⟩⟩ := sound.standing.own_pointer request held
        · rw [uncalled] at called
          cases called
        · rw [uncalled] at admitted
          cases admitted
      rw [← same]
      exact same ▸ (sound.standing.called id called).1

/-- A permit is taken for a connection, and there is one for its handshake. -/
theorem Sound.listening (sound : Sound served admissions) {before : Store Place Capacity Shared}
    (acquired : admissions.store.tryAcquire .listener .transport = some before) :
    let taken := before.wrap .listener (.transport admissions.accepted)
    taken.Exact leases served.limit ∧
      ∀ place, taken.handles place =
        if place = .listener then [.pointer (.transport admissions.accepted)]
        else admissions.store.handles place := by
  have handles := Store.handles_tryAcquire admissions.store acquired
  constructor
  · refine (sound.exact.tryAcquire acquired).wrap ?_ ?_
    · rw [Store.strong_tryAcquire acquired]
      exact sound.fresh_transport
    · rw [handles, if_pos rfl, sound.standing.listener]
      rfl
  · intro place
    rw [Store.handles_wrap, handles]
    split_ifs <;> rfl

/-- Accepting a connection, or refusing it, keeps the account. -/
theorem Sound.accept (sound : Sound served admissions) :
    Sound served admissions.accept.2 := by
  unfold Admissions.accept
  split
  · exact sound
  · rename_i before acquired
    obtain ⟨exact, taken⟩ := sound.listening acquired
    simp only
    split
    · refine ⟨exact.close _, sound.standing.congr (funext fun place => ?_)⟩
      rw [Store.handles_close, taken]
      split_ifs with listener
      · rw [listener, sound.standing.listener]
      · rfl
    · rename_i store handshaking
      have handles := Store.handles_tryAcquire _ handshaking
      have accepted : admissions.store.handles (.connection admissions.accepted) = [] := by
        by_contra some_handle
        exact Nat.lt_irrefl _ (sound.standing.begun _ some_handle)
      have elsewhere (place : Place) (other : place ≠ .listener)
          (different : place ≠ .connection admissions.accepted) :
          (store.move .listener (.connection admissions.accepted)).handles place =
            admissions.store.handles place := by
        simp [handles, taken, other, different]
      have begun :
          (store.move .listener (.connection admissions.accepted)).handles
              (.connection admissions.accepted) =
            [.permit .handshake, .pointer (.transport admissions.accepted)] := by
        simp [handles, taken, accepted]
      refine ⟨(exact.tryAcquire handshaking).move _ _, ?_⟩
      constructor
      case listener => simp
      case connections =>
        intro connection
        by_cases same : connection = admissions.accepted
        · subst same
          exact .inr (.inr begun)
        · unfold Admissions.Serving
          simp only [elsewhere (.connection connection) (by simp) (by simpa using same)]
          exact sound.standing.connections connection
      case begun =>
        intro connection held
        by_cases same : connection = admissions.accepted
        · subst same
          exact Nat.lt_succ_self _
        · simp only [elsewhere (.connection connection) (by simp) (by simpa using same)] at held
          exact Nat.lt_succ_of_lt (sound.standing.begun connection held)
      case seated =>
        intro id
        refine (sound.standing.seated id).congr fun place own => elsewhere place ?_ ?_
        · rintro rfl
          cases own
        · rintro rfl
          cases own
      case called =>
        intro id called
        exact (sound.standing.called id called).imp_left Nat.lt_succ_of_lt

/-- A handshake that is over gives its permit back. -/
theorem Sound.handshake (sound : Sound served admissions) {connection : Nat} {established : Bool}
    (stepped : admissions.handshake connection established = some next) : Sound served next := by
  unfold Admissions.handshake at stepped
  split_ifs at stepped with handshaking succeeded
  · cases stepped
    have held : admissions.store.handles (.connection connection) =
        [.permit .handshake, .pointer (.transport connection)] := by
      rcases sound.standing.connections connection with nothing | serving | both
      · simp [nothing] at handshaking
      · rw [serving] at handshaking
        simp at handshaking
      · exact both
    refine ⟨sound.exact.drop handshaking, sound.standing.connection connection
      (fun place other => ?_) (.inr ⟨by simp [held], ?_⟩)⟩
    · exact (Store.handles_drop _).trans (if_neg other)
    · rw [Store.handles_drop, if_pos rfl, held, List.erase_cons_head]
  · cases stepped
    refine ⟨sound.exact.close _, sound.standing.connection connection
      (fun place other => ?_) (.inl ?_)⟩
    · exact (Store.handles_close _).trans (if_neg other)
    · exact (Store.handles_close _).trans (if_pos rfl)

/-- The task of a connection that is over gives up its own share of the permit. -/
theorem Sound.leave (sound : Sound served admissions) {connection : Nat}
    (stepped : admissions.leave connection = some next) : Sound served next := by
  unfold Admissions.leave at stepped
  split_ifs at stepped
  cases stepped
  refine ⟨sound.exact.close _, sound.standing.connection connection
    (fun place other => ?_) (.inl ?_)⟩
  · exact (Store.handles_close _).trans (if_neg other)
  · exact (Store.handles_close _).trans (if_pos rfl)

/-- A connection that is served shares its permit with the next request. -/
theorem Sound.call (sound : Sound served admissions) {connection : Nat}
    (stepped : admissions.call connection = some next) : Sound served next := by
  unfold Admissions.call at stepped
  split_ifs at stepped with serving
  cases stepped
  have held : .pointer (.transport connection) ∈
      admissions.store.handles (.connection connection) := by
    rw [serving]
    exact List.mem_singleton_self _
  have accepted := sound.standing.begun connection (List.ne_nil_of_mem held)
  let id : RequestId := ⟨connection, admissions.requestCounts connection⟩
  have uncalled : admissions.stages id = .uncalled := by
    by_contra called
    exact Nat.lt_irrefl _ (sound.standing.called id called).2
  have seated := sound.standing.seated id
  rw [uncalled] at seated
  have moved : Seated id .called
      (admissions.store.share (.handler id) (.transport connection)).handles := by
    constructor
    case handler => simp [id, seated.handler, Stage.handler]
    case request => simp [seated.request, Stage.request]
    case runtime => simp [seated.runtime, Stage.runtime]
    case parts =>
      intro part handle held
      simp only [Store.handles_share, reduceCtorEq, if_false] at held
      exact absurd (seated.parts part handle held).1 (by simp [Stage.parts])
  refine ⟨sound.exact.share _ held, (sound.standing.number connection).proceed
    ⟨accepted, by simp⟩ moved fun place other => ?_⟩
  refine (Store.handles_share _).trans (if_neg ?_)
  rintro rfl
  exact other rfl

/-- What a request holds while its handler is at work: the lease at its handler, and at its parts
leases of its own. -/
structure Lending (served : Served Connector) (admissions : Admissions) (id : RequestId)
    (store : Store Place Capacity Shared) : Prop where
  exact : store.Exact leases served.limit
  handler : store.handles (.handler id) = [.pointer (.requestLease id)]
  parts : ∀ part, ∀ handle ∈ store.handles (.part part id),
    ∃ value : Shared, handle = .pointer value ∧ value.request = some id
  elsewhere : ∀ place : Place, place.request? ≠ some id →
    store.handles place = admissions.store.handles place

/-- A handler that answers lets go of what is left. -/
theorem Lending.respond (lending : Lending served admissions id store)
    (standing : Standing admissions) (called : admissions.stages id ≠ .uncalled) :
    Sound served (admissions.proceed id .ended (Admissions.respond store id)) := by
  refine ⟨((lending.exact.close _).close _).move _ _,
    standing.proceed (standing.called id called) ?_ ?_⟩
  · constructor
    case handler => simp [Admissions.respond, Stage.handler]
    case request => simp [Admissions.respond, Stage.request]
    case runtime => simp [Admissions.respond, Stage.runtime]
    case parts =>
      intro part handle held
      refine ⟨rfl, ?_⟩
      by_cases body : part = .body
      · subst body
        simp [Admissions.respond, lending.handler] at held
        rcases held with rfl | held
        · exact ⟨_, rfl, rfl⟩
        · exact lending.parts _ handle held
      · simp [Admissions.respond, body] at held
        exact lending.parts part handle held
  · intro place other
    have not_handler : place ≠ .handler id := by rintro rfl; exact other rfl
    have not_request : place ≠ .request id := by rintro rfl; exact other rfl
    have not_runtime : place ≠ .runtime id := by rintro rfl; exact other rfl
    have not_body : place ≠ .part .body id := by rintro rfl; exact other rfl
    simp [Admissions.respond, not_handler, not_request, not_runtime, not_body,
      lending.elsewhere place other]

/-- A request that has been checked is answered or holds a lease. -/
theorem Sound.check (sound : Sound served admissions) {handled : Except Answer HandOff}
    (stepped : admissions.check id handled = some next) : Sound served next := by
  unfold Admissions.check at stepped
  split at stepped
  case h_1 _ answered called =>
    cases stepped
    have seated := sound.standing.seated id
    rw [called] at seated
    refine ⟨sound.exact.close _,
      sound.standing.proceed (sound.standing.called id (by simp [called])) ?_
        fun place other => ?_⟩
    · constructor
      case handler => simp [Stage.handler]
      case request => simp [seated.request, Stage.request]
      case runtime => simp [seated.runtime, Stage.runtime]
      case parts =>
        intro part handle held
        simp only [Store.handles_close, reduceCtorEq, if_false] at held
        exact absurd (seated.parts part handle held).1 (by simp [Stage.parts])
    · refine (Store.handles_close _).trans (if_neg ?_)
      rintro rfl
      exact other rfl
  case h_2 _ handOff called =>
    obtain ⟨store, acquired, rfl⟩ := Option.map_eq_some_iff.mp stepped
    have handles := Store.handles_tryAcquire _ acquired
    have seated := sound.standing.seated id
    rw [called] at seated
    have leased : (store.wrap (.handler id) (.requestLease id)).Exact leases served.limit := by
      refine (sound.exact.tryAcquire acquired).wrap ?_ ?_
      · rw [Store.strong_tryAcquire acquired]
        exact sound.fresh_requestLease called
      · rw [handles, if_pos rfl, seated.handler]
        rfl
    refine ⟨leased.share (.handler id) (by simp),
      sound.standing.proceed (sound.standing.called id (by simp [called])) ?_
        fun place other => ?_⟩
    · constructor
      case handler => simp [Stage.handler]
      case request => simp [handles, seated.request, Stage.request]
      case runtime => simp [handles, seated.runtime, Stage.runtime]
      case parts =>
        intro part handle held
        simp only [Store.handles_share, Store.handles_wrap, handles, reduceCtorEq, if_false] at held
        exact absurd (seated.parts part handle held).1 (by simp [Stage.parts])
    · have not_handler : place ≠ .handler id := by rintro rfl; exact other rfl
      have not_request : place ≠ .request id := by rintro rfl; exact other rfl
      simp [handles, not_handler, not_request]
  case h_3 => cases stepped

/-- A request that has been checked lends its lease. -/
theorem Sound.lending (sound : Sound served admissions) {handOff : HandOff}
    (checked : admissions.stages id = .checked handOff ∨
      admissions.stages id = .awaiting handOff) :
    Lending served admissions id admissions.store := by
  have seated := sound.standing.seated id
  refine ⟨sound.exact, ?_, fun part handle held => (seated.parts part handle held).2,
    fun _ _ => rfl⟩
  rcases checked with stage | stage <;> rw [seated.handler, stage] <;> rfl

/-- A runtime takes a permit to a lease of its own. -/
theorem Sound.tryLease (sound : Sound served admissions) {handOff : HandOff}
    (checked : admissions.stages id = .checked handOff) {capacity : Capacity} {lease : Shared}
    (deepest : leases.depth lease = 2) (own : lease.request = some id)
    (made : leases.contents lease = [.permit capacity, .pointer (.requestLease id)])
    (taken : Admissions.tryLease admissions.store id capacity lease = some store) :
    store.Exact leases served.limit ∧
      ∀ place, store.handles place =
        if place = .runtime id then [.pointer lease] else admissions.store.handles place := by
  obtain ⟨before, acquired, rfl⟩ := Option.map_eq_some_iff.mp taken
  have handles := Store.handles_tryAcquire _ acquired
  have seated := sound.standing.seated id
  rw [checked] at seated
  have shared : .pointer (.requestLease id) ∈ before.handles (.handler id) := by
    rw [handles, if_neg (by simp), seated.handler]
    exact List.mem_singleton_self _
  constructor
  · refine ((sound.exact.tryAcquire acquired).share _ shared).wrap ?_ ?_
    · have fresh := sound.fresh_lease checked deepest own
      rw [← Store.strong_tryAcquire acquired] at fresh
      have different : lease ≠ .requestLease id := by
        rintro rfl
        simp [leases] at deepest
      simp [Store.share, Heap.share, different, fresh]
    · rw [Store.handles_share, if_pos rfl, handles, if_pos rfl, seated.runtime, made]
      exact List.Perm.swap _ _ _
  · intro place
    rw [Store.handles_wrap, Store.handles_share, handles]
    split_ifs <;> rfl

/-- What comes of a request that its runtime takes up: it waits there, or is to be answered. -/
def TakenUp (served : Served Connector) (admissions : Admissions) (id : RequestId)
    (handOff : HandOff) :
    Except (Store Place Capacity Shared) (Store Place Capacity Shared) → Prop
  | .ok store => Sound served (admissions.proceed id (.awaiting handOff) store)
  | .error store => Lending served admissions id store

/-- A lease that a runtime has taken can be let go again. -/
theorem Sound.lending_of_lease (sound : Sound served admissions) {handOff : HandOff}
    (checked : admissions.stages id = .checked handOff) {lease : Shared}
    (exact : store.Exact leases served.limit)
    (handles : ∀ place, store.handles place =
      if place = .runtime id then [.pointer lease] else admissions.store.handles place) :
    Lending served admissions id store where
  exact := exact
  handler := by
    rw [handles, if_neg (by simp)]
    exact (sound.lending (.inl checked)).handler
  parts part := by
    rw [handles, if_neg (by simp)]
    exact (sound.lending (.inl checked)).parts part
  elsewhere place other := by
    rw [handles, if_neg]
    rintro rfl
    exact other rfl

/-- A backend that takes up a request keeps the account. -/
theorem Sound.takeUpStream (sound : Sound served admissions) {handOff : HandOff}
    (checked : admissions.stages id = .checked handOff) {backend : SocketAddr}
    (waits : handOff.lease id = .streamLease id backend)
    (sent : Stage.request id (.awaiting handOff) = []) (before : Bool) :
    TakenUp served admissions id handOff
      (Admissions.takeUpStream admissions.store id backend before) := by
  have lending := sound.lending (.inl checked)
  unfold Admissions.takeUpStream
  split_ifs
  · split
    case h_1 => exact lending
    case h_2 store taken =>
      obtain ⟨exact, handles⟩ := sound.tryLease checked rfl rfl rfl taken
      have held : .pointer (.streamLease id backend) ∈
          (store.close leases (.request id)).handles (.runtime id) := by
        simp [handles]
      refine ⟨(exact.close _).share _ held,
        sound.standing.proceed (sound.standing.called id (by simp [checked])) ?_
          fun place other => ?_⟩
      · constructor
        case handler => simp [handles, lending.handler, Stage.handler]
        case request => simp [sent]
        case runtime => simp [handles, Stage.runtime, waits]
        case parts =>
          intro part handle held
          refine ⟨rfl, ?_⟩
          by_cases upload : part = .upload
          · subst upload
            simp [handles] at held
            rcases held with rfl | held
            · exact ⟨_, rfl, rfl⟩
            · exact lending.parts _ handle held
          · simp [handles, upload] at held
            exact lending.parts part handle held
      · have not_request : place ≠ .request id := by rintro rfl; exact other rfl
        have not_runtime : place ≠ .runtime id := by rintro rfl; exact other rfl
        have not_upload : place ≠ .part .upload id := by rintro rfl; exact other rfl
        simp [handles, not_request, not_runtime, not_upload]
  · exact lending

/-- A pool that takes up a request keeps the account. -/
theorem Sound.takeUpExchange (sound : Sound served admissions) {handOff : HandOff}
    (checked : admissions.stages id = .checked handOff) {pool : PoolKey}
    (waits : handOff.lease id = .exchangeLease id pool)
    (sent : Stage.request id (.awaiting handOff) = []) (before after : Bool) :
    TakenUp served admissions id handOff
      (Admissions.takeUpExchange admissions.store id pool before after) := by
  have lending := sound.lending (.inl checked)
  have request := (sound.standing.seated id).request
  rw [checked] at request
  rw [Admissions.takeUpExchange]
  by_cases passed : before = true
  · rw [if_pos passed]
    split
    case h_1 => exact lending
    case h_2 store taken =>
      obtain ⟨exact, handles⟩ := sound.tryLease checked rfl rfl rfl taken
      by_cases passed : after = true
      · rw [if_pos passed]
        have held : .pointer (.exchangeLease id pool) ∈ store.handles (.runtime id) := by
          simp [handles]
        refine ⟨(exact.share _ held).move _ _,
          sound.standing.proceed (sound.standing.called id (by simp [checked])) ?_
            fun place other => ?_⟩
        · constructor
          case handler => simp [handles, lending.handler, Stage.handler]
          case request => simp [sent]
          case runtime => simp [handles, Stage.runtime, waits]
          case parts =>
            intro part handle held
            refine ⟨rfl, ?_⟩
            by_cases upload : part = .upload
            · subst upload
              simp [handles] at held
              rcases held with rfl | held
              · exact ⟨_, rfl, rfl⟩
              · exact lending.parts _ handle held
            · by_cases sent : part = .sent
              · subst sent
                simp [handles, request, Stage.request] at held
                rcases held with rfl | held
                · exact ⟨_, rfl, rfl⟩
                · exact lending.parts _ handle held
              · simp [handles, upload, sent] at held
                exact lending.parts part handle held
        · have not_request : place ≠ .request id := by rintro rfl; exact other rfl
          have not_runtime : place ≠ .runtime id := by rintro rfl; exact other rfl
          have not_upload : place ≠ .part .upload id := by rintro rfl; exact other rfl
          have not_sent : place ≠ .part .sent id := by rintro rfl; exact other rfl
          simp [handles, not_request, not_runtime, not_upload, not_sent]
      · rw [if_neg passed]
        exact sound.lending_of_lease checked exact handles
  · rw [if_neg passed]
    exact lending

/-- A runtime that takes up a request keeps the account. -/
theorem Sound.takeUp (sound : Sound served admissions) {handOff : HandOff}
    (checked : admissions.stages id = .checked handOff) (before after : Bool) :
    TakenUp served admissions id handOff
      (Admissions.takeUp admissions.store id handOff before after) := by
  have lending := sound.lending (.inl checked)
  have seated := sound.standing.seated id
  rw [checked] at seated
  obtain ⟨target, host, request, address⟩ := handOff
  cases target with
  | websocket route =>
      have exact : (admissions.store.share (.runtime id) (.requestLease id)).Exact leases
          served.limit :=
        lending.exact.share (.handler id) (by simp [lending.handler])
      have handles (place : Place) :
          (admissions.store.share (.runtime id) (.requestLease id)).handles place =
            if place = .runtime id then [.pointer (.requestLease id)]
            else admissions.store.handles place := by
        rw [Store.handles_share]
        split_ifs with same
        · rw [same, seated.runtime]
          rfl
        · rfl
      simp only [Admissions.takeUp]
      split_ifs
      · refine ⟨exact, sound.standing.proceed (sound.standing.called id (by simp [checked])) ?_
          fun place other => ?_⟩
        · constructor
          case handler => simp [handles, lending.handler, Stage.handler]
          case request => simp [handles, seated.request, Stage.request]
          case runtime => simp [handles, Stage.runtime, HandOff.lease]
          case parts =>
            intro part handle held
            rw [handles, if_neg (by simp)] at held
            exact ⟨rfl, lending.parts part handle held⟩
        · rw [handles, if_neg]
          rintro rfl
          exact other rfl
      · exact sound.lending_of_lease checked exact handles
  | grpc route => exact sound.takeUpStream checked rfl rfl before
  | http route => exact sound.takeUpExchange checked rfl rfl before after
  | fallback fallback => exact sound.takeUpExchange checked rfl rfl before after

/-- The runtime of a request keeps the account. -/
theorem Sound.enter (sound : Sound served admissions) {before after : Bool}
    (stepped : admissions.enter id before after = some next) : Sound served next := by
  unfold Admissions.enter at stepped
  split at stepped
  case h_1 handOff checked =>
    have taken := sound.takeUp checked before after
    split at stepped
    case h_1 store entered =>
      cases stepped
      rw [entered] at taken
      exact taken
    case h_2 store refused =>
      cases stepped
      rw [refused] at taken
      exact Lending.respond taken sound.standing (by simp [checked])
  case h_2 => cases stepped

/-- What comes of the answer of an upstream keeps the account. -/
theorem Sound.answer (sound : Sound served admissions) {success : Bool}
    (stepped : admissions.answer id success = some next) : Sound served next := by
  unfold Admissions.answer at stepped
  split at stepped
  case h_1 handOff awaiting =>
    cases stepped
    have called : admissions.stages id ≠ .uncalled := by simp [awaiting]
    have lending := sound.lending (.inr awaiting)
    split_ifs
    · have seated := sound.standing.seated id
      rw [awaiting] at seated
      obtain ⟨target, host, request, address⟩ := handOff
      cases target with
      | websocket route =>
          refine Lending.respond ⟨lending.exact.share (.handler id) ?_, ?_, ?_, ?_⟩
            sound.standing called
          · simp [lending.handler]
          · simp [lending.handler]
          · intro part handle held
            by_cases relay : part = .relay
            · subst relay
              simp at held
              rcases held with rfl | held
              · exact ⟨_, rfl, rfl⟩
              · exact lending.parts _ handle held
            · simp [relay] at held
              exact lending.parts part handle held
          · intro place other
            rw [Store.handles_share, if_neg]
            rintro rfl
            exact other rfl
      | grpc _ | http _ | fallback _ =>
          refine ⟨(sound.exact.move _ _).move _ _,
            sound.standing.proceed (sound.standing.called id called) ?_ fun place other => ?_⟩
          · constructor
            case handler => simp [Admissions.passOn, Stage.handler]
            case request => simp [Admissions.passOn, seated.request, Stage.request]
            case runtime => simp [Admissions.passOn, Stage.runtime]
            case parts =>
              intro part handle held
              refine ⟨rfl, ?_⟩
              by_cases body : part = .body
              · subst body
                simp [Admissions.passOn, lending.handler] at held
                rcases held with rfl | held
                · exact ⟨_, rfl, rfl⟩
                · exact lending.parts _ handle held
              · by_cases download : part = .download
                · subst download
                  simp [Admissions.passOn, seated.runtime, Stage.runtime] at held
                  rcases held with rfl | held
                  · exact ⟨_, rfl, HandOff.request_lease _ id⟩
                  · exact lending.parts _ handle held
                · simp [Admissions.passOn, body, download] at held
                  exact lending.parts part handle held
          · have not_handler : place ≠ .handler id := by rintro rfl; exact other rfl
            have not_runtime : place ≠ .runtime id := by rintro rfl; exact other rfl
            have not_download : place ≠ .part .download id := by rintro rfl; exact other rfl
            have not_body : place ≠ .part .body id := by rintro rfl; exact other rfl
            simp [Admissions.passOn, not_handler, not_runtime, not_download, not_body]
    · exact lending.respond sound.standing called
  case h_2 => cases stepped

/-- A handler that is dropped drops what it has not passed on. -/
theorem Sound.abandon (sound : Sound served admissions)
    (stepped : admissions.abandon id = some next) : Sound served next := by
  unfold Admissions.abandon at stepped
  split at stepped
  case h_1 => cases stepped
  case h_2 called =>
    cases stepped
    refine ⟨((sound.exact.close _).close _).close _,
      sound.standing.proceed (sound.standing.called id called) ?_ fun place other => ?_⟩
    · constructor
      case handler => simp [Stage.handler]
      case request => simp [Stage.request]
      case runtime => simp [Stage.runtime]
      case parts =>
        intro part handle held
        simp only [Store.handles_close, reduceCtorEq, if_false] at held
        exact ⟨rfl, ((sound.standing.seated id).parts part handle held).2⟩
    · have not_handler : place ≠ .handler id := by rintro rfl; exact other rfl
      have not_request : place ≠ .request id := by rintro rfl; exact other rfl
      have not_runtime : place ≠ .runtime id := by rintro rfl; exact other rfl
      simp [not_handler, not_request, not_runtime]

theorem Sound.finish (sound : Sound served admissions) (id : RequestId) (part : Part) :
    Sound served (admissions.finish id part) :=
  ⟨sound.exact.close _, sound.standing.finish id part⟩

/-- Every event keeps the account. -/
theorem Sound.step (sound : Sound served admissions) {event : AdmissionEvent}
    (stepped : served.step admissions event = some next) : Sound served next := by
  cases event with
  | accept =>
      cases stepped
      exact sound.accept
  | handshake connection established => exact sound.handshake stepped
  | leave connection => exact sound.leave stepped
  | call connection => exact sound.call stepped
  | check id cloudflare blocking peer sni now request => exact sound.check stepped
  | enter id before after => exact sound.enter stepped
  | answer id success => exact sound.answer stepped
  | abandon id => exact sound.abandon stepped
  | finish id part =>
      cases stepped
      exact sound.finish id part

/-- In every run the account is kept. -/
theorem sound_run {events : List AdmissionEvent} (ran : served.run events = some admissions) :
    Sound served admissions :=
  Results.foldlM_some_preserves (Sound served) (fun _ _ _ sound stepped => sound.step stepped)
    (sound_initial served) ran

/-! ## The account -/

namespace Admissions

/-- Some place of a connection or of its requests is left. -/
def Occupied (admissions : Admissions) (connection : Nat) : Prop :=
  ∃ place : Place, place.connection? = some connection ∧ admissions.store.handles place ≠ []

/-- The handshake of a connection is under way. -/
def Handshaking (admissions : Admissions) (connection : Nat) : Prop :=
  .permit .handshake ∈ admissions.store.handles (.connection connection)

/-- Some place holds a lease of a request. -/
def Leased (admissions : Admissions) (id : RequestId) : Prop :=
  ∃ place value, .pointer value ∈ admissions.store.handles place ∧ value.request = some id

/-- Some place holds the stream of a request to a backend. -/
def Streaming (admissions : Admissions) (backend : SocketAddr) (id : RequestId) : Prop :=
  ∃ place, .pointer (.streamLease id backend) ∈ admissions.store.handles place

/-- Some place holds the exchange of a request with a pool. -/
def Exchanging (admissions : Admissions) (pool : PoolKey) (id : RequestId) : Prop :=
  ∃ place, .pointer (.exchangeLease id pool) ∈ admissions.store.handles place

end Admissions

/-- The permits that are not available are exactly those of what is left. -/
structure Accounted (served : Served Connector) (admissions : Admissions) : Prop where
  transport : admissions.store.heap.available .transport +
    {connection | admissions.Occupied connection}.ncard = served.limit .transport
  handshake : admissions.store.heap.available .handshake +
    {connection | admissions.Handshaking connection}.ncard = served.limit .handshake
  request : admissions.store.heap.available .request +
    {id | admissions.Leased id}.ncard = served.limit .request
  streams : ∀ backend, admissions.store.heap.available (.streams backend) +
    {id | admissions.Streaming backend id}.ncard = served.limit (.streams backend)
  exchanges : ∀ pool, admissions.store.heap.available (.exchanges pool) +
    {id | admissions.Exchanging pool id}.ncard = served.limit (.exchanges pool)

/-- Only connections hold permits by themselves, and these of their handshakes. -/
theorem Standing.permit (standing : Standing admissions) {place : Place} {capacity : Capacity}
    (held : .permit capacity ∈ admissions.store.handles place) :
    ∃ connection, place = .connection connection ∧ capacity = .handshake := by
  cases owner : place.request? with
  | some id =>
      obtain ⟨_, same, _⟩ := standing.own_pointer owner held
      cases same
  | none =>
      cases place with
      | handler | request | runtime | part => cases owner
      | listener =>
          rw [standing.listener] at held
          cases held
      | connection connection =>
          refine ⟨connection, rfl, ?_⟩
          rcases standing.connections connection with nothing | serving | handshaking
          · simp [nothing] at held
          · rw [serving] at held
            simp at held
          · simpa [handshaking] using held

/-- No place holds a permit twice. -/
theorem Standing.single (standing : Standing admissions) (place : Place) (capacity : Capacity) :
    (admissions.store.handles place).count (.permit capacity) ≤ 1 := by
  by_cases held : .permit capacity ∈ admissions.store.handles place
  · obtain ⟨connection, rfl, rfl⟩ := standing.permit held
    rcases standing.connections connection with nothing | serving | handshaking
    · simp [nothing]
    · rw [serving]
      simp
    · simp [handshaking]
  · rw [List.count_eq_zero.mpr held]
    exact Nat.zero_le _

/-- The permits of a semaphore, each of which is owned by a value. -/
theorem Sound.account (sound : Sound served admissions) (capacity : Capacity)
    (owned : capacity ≠ .handshake) :
    admissions.store.heap.available capacity +
        {value | .permit capacity ∈ leases.contents value ∧ ∃ place,
          ∃ handle ∈ admissions.store.handles place,
            leases.Leads handle (.pointer value)}.ncard =
      served.limit capacity := by
  have account := sound.exact.account (fun place => sound.standing.single place capacity)
    fun value => by
      cases value <;> simp [leases, List.count_cons] <;> split_ifs <;> simp
  have none_held : {place | .permit capacity ∈ admissions.store.handles place} = ∅ := by
    ext place
    simp only [Set.mem_ofPred_eq, Set.mem_empty_iff_false, iff_false]
    intro held
    obtain ⟨_, _, same⟩ := sound.standing.permit held
    exact owned same
  rw [none_held, Set.ncard_empty, Nat.zero_add] at account
  exact account

/-- To the permit of a connection leads what is left of the connection. -/
theorem Standing.occupied_iff (standing : Standing admissions) {connection : Nat} :
    (∃ place, ∃ handle ∈ admissions.store.handles place,
        leases.Leads handle (.pointer (.transport connection))) ↔
      admissions.Occupied connection := by
  constructor
  · rintro ⟨place, handle, held, leads⟩
    obtain ⟨value, rfl, own⟩ := leads_transport.mp leads
    refine ⟨place, ?_, List.ne_nil_of_mem held⟩
    rw [(standing.place_of_pointer held).1, own]
  · rintro ⟨place, own, some_handle⟩
    obtain ⟨handle, held⟩ := List.exists_mem_of_ne_nil _ some_handle
    cases handle with
    | pointer value =>
        have place_own := (standing.place_of_pointer held).1
        refine ⟨place, _, held, leads_transport.mpr ⟨value, rfl, ?_⟩⟩
        rw [own] at place_own
        exact (Option.some.inj place_own).symm
    | permit capacity =>
        -- A connection with a handshake under way has its own pointer too.
        obtain ⟨_, rfl, rfl⟩ := standing.permit held
        cases own
        rcases standing.connections connection with nothing | serving | handshaking
        · exact absurd nothing some_handle
        · rw [serving] at held
          simp at held
        · exact ⟨_, _, by rw [handshaking]; simp, .refl _⟩

/-- In every run of a listener the permits that are out are one for each connection of which some
place is left, one for each handshake under way, and one for each request, stream and exchange that
some place still holds. -/
theorem permits_accounted {events : List AdmissionEvent}
    (ran : served.run events = some admissions) : Accounted served admissions := by
  have sound := sound_run ran
  constructor
  case transport =>
    rw [← sound.account .transport (by simp),
      ← Set.ncard_image_of_injective _ fun _ _ same => Shared.transport.inj same]
    congr 2
    ext value
    simp only [Set.mem_image, Set.mem_ofPred_eq]
    constructor
    · rintro ⟨connection, occupied, rfl⟩
      exact ⟨by simp [leases], sound.standing.occupied_iff.mpr occupied⟩
    · rintro ⟨owned, leads⟩
      cases value with
      | transport connection => exact ⟨connection, sound.standing.occupied_iff.mp leads, rfl⟩
      | requestLease | streamLease | exchangeLease => simp [leases] at owned
  case request =>
    rw [← sound.account .request (by simp),
      ← Set.ncard_image_of_injective _ fun _ _ same => Shared.requestLease.inj same]
    congr 2
    ext value
    simp only [Set.mem_image, Set.mem_ofPred_eq]
    constructor
    · rintro ⟨id, ⟨place, value, held, own⟩, rfl⟩
      exact ⟨by simp [leases], place, _, held, leads_requestLease.mpr ⟨value, rfl, own⟩⟩
    · rintro ⟨owned, place, handle, held, leads⟩
      cases value with
      | requestLease id =>
          obtain ⟨value, rfl, own⟩ := leads_requestLease.mp leads
          exact ⟨id, ⟨place, value, held, own⟩, rfl⟩
      | transport | streamLease | exchangeLease => simp [leases] at owned
  case streams =>
    intro backend
    rw [← sound.account (.streams backend) (by simp),
      ← Set.ncard_image_of_injective _ fun _ _ same => (Shared.streamLease.inj same).1]
    congr 2
    ext value
    simp only [Set.mem_image, Set.mem_ofPred_eq]
    constructor
    · rintro ⟨id, ⟨place, held⟩, rfl⟩
      exact ⟨by simp [leases], place, _, held, .refl _⟩
    · rintro ⟨owned, place, handle, held, leads⟩
      cases value with
      | streamLease id other =>
          obtain rfl : backend = other := by simpa [leases] using owned
          obtain rfl := (leads_deepest rfl).mp leads
          exact ⟨id, ⟨place, held⟩, rfl⟩
      | transport | requestLease | exchangeLease => simp [leases] at owned
  case exchanges =>
    intro pool
    rw [← sound.account (.exchanges pool) (by simp),
      ← Set.ncard_image_of_injective _ fun _ _ same => (Shared.exchangeLease.inj same).1]
    congr 2
    ext value
    simp only [Set.mem_image, Set.mem_ofPred_eq]
    constructor
    · rintro ⟨id, ⟨place, held⟩, rfl⟩
      exact ⟨by simp [leases], place, _, held, .refl _⟩
    · rintro ⟨owned, place, handle, held, leads⟩
      cases value with
      | exchangeLease id other =>
          obtain rfl : pool = other := by simpa [leases] using owned
          obtain rfl := (leads_deepest rfl).mp leads
          exact ⟨id, ⟨place, held⟩, rfl⟩
      | transport | requestLease | streamLease => simp [leases] at owned
  case handshake =>
    have account := sound.exact.account (fun place => sound.standing.single place .handshake)
      fun value => by cases value <;> simp [leases]
    have none_owned : {value | .permit .handshake ∈ leases.contents value ∧ ∃ place,
        ∃ handle ∈ admissions.store.handles place,
          leases.Leads handle (.pointer value)} = ∅ := by
      ext value
      cases value <;> simp [leases]
    have places : {place | .permit .handshake ∈ admissions.store.handles place} =
        Place.connection '' {connection | admissions.Handshaking connection} := by
      ext place
      simp only [Set.mem_image, Set.mem_ofPred_eq]
      constructor
      · intro held
        obtain ⟨connection, rfl, _⟩ := sound.standing.permit held
        exact ⟨connection, held, rfl⟩
      · rintro ⟨connection, handshaking, rfl⟩
        exact handshaking
    rw [none_owned, Set.ncard_empty, Nat.add_zero, places,
      Set.ncard_image_of_injective _ fun _ _ same => Place.connection.inj same] at account
    exact account

/-- A gateway for one connection at a time, with nothing behind it. -/
def narrowGateway : Served Unit where
  config :=
    { server := { listen := ⟨.v4 0, 443, 0⟩, maxConnections := 1 }
      routing := ⟨[], false, ∅⟩
      clientAddress := ⟨⟨[]⟩, [], ⟨{}, [], bounded_default⟩, ∅⟩
      tls := { certDir := "/etc/certs" }
      acme := .disabled []
      observability := .off
      fallback := none
      routes := ⟨∅, 0, 0⟩
      grpcRoutes := ⟨∅, 0, 0⟩
      httpRoutes := ⟨∅, 0, 0⟩
      maxHttpUpstreamConnections := 1 }
  http := ⟨∅, ∅⟩

/-- A connection whose task is over is still accounted for while a request of it is handled. -/
theorem permits_accounted_handler :
    ∃ admissions, narrowGateway.run
        [.accept, .handshake 0 true, .call 0, .leave 0] = some admissions ∧
      Accounted narrowGateway admissions ∧
      admissions.store.heap.available .transport = 0 :=
  ⟨_, rfl, permits_accounted
    (show narrowGateway.run [.accept, .handshake 0 true, .call 0, .leave 0] = some _ from rfl),
    rfl⟩

/-- The loop of the listener holds nothing between two connections. -/
theorem Standing.elsewhere_listener (standing : Standing admissions) :
    admissions.store.elsewhere .listener = admissions.store.held := by
  refine List.filter_eq_self.mpr fun entry member => ?_
  simp only [Bool.not_eq_true', decide_eq_false_iff_not]
  intro listener
  have held : entry.2 ∈ admissions.store.handles .listener :=
    Store.mem_handles.mpr (listener ▸ member)
  rw [standing.listener] at held
  cases held

/-- A refused connection leaves everything as it was. -/
theorem Sound.refused (sound : Sound served admissions) {before : Store Place Capacity Shared}
    (acquired : admissions.store.tryAcquire .listener .transport = some before) :
    (before.wrap .listener (.transport admissions.accepted)).close leases .listener =
      admissions.store := by
  have fresh := sound.fresh_transport
  have kept := sound.standing.elsewhere_listener
  have handles := (sound.listening acquired).2 .listener
  rw [if_pos rfl] at handles
  obtain ⟨heap, taken, rfl⟩ := Option.map_eq_some_iff.mp acquired
  unfold Heap.tryAcquire at taken
  split_ifs at taken with some_permit
  cases taken
  obtain ⟨⟨⟨available, alive, strong⟩, held⟩, accepted, counts, stages⟩ := admissions
  rw [Store.close, handles]
  simp only at fresh kept some_permit ⊢
  have back : Function.update (Function.update strong (.transport accepted) 1)
      (.transport accepted) 0 = strong := by
    rw [Function.update_idem, ← fresh, Function.update_eq_self]
  have given : available .transport - 1 + 1 = available .transport := by omega
  congr 1
  · simp [Store.wrap, Heap.allocate, Heap.drop, Heap.free, Heap.release, Layout.reach, leases,
      back, given]
  · unfold Store.elsewhere at kept
    simpa [Store.wrap, Store.elsewhere, List.filter_filter] using kept

/-- In every run, a connection is refused exactly when as many connections are left as there may
be, or as many handshakes are under way, and its refusal changes nothing. -/
theorem refused_exactly_at_limits {events : List AdmissionEvent}
    (ran : served.run events = some admissions) :
    match admissions.accept with
    | (.ok connection, next) =>
        {connection | admissions.Occupied connection}.ncard < served.limit .transport ∧
          {connection | admissions.Handshaking connection}.ncard < served.limit .handshake ∧
          ¬admissions.Occupied connection ∧ next.Handshaking connection
    | (.error reason, next) =>
        next = admissions ∧
          (reason = .connectionCapacity ∧
              {connection | admissions.Occupied connection}.ncard = served.limit .transport ∨
            reason = .handshakeCapacity ∧
              {connection | admissions.Occupied connection}.ncard < served.limit .transport ∧
              {connection | admissions.Handshaking connection}.ncard =
                served.limit .handshake) := by
  have sound := sound_run ran
  have account := permits_accounted ran
  have transport := account.transport
  have handshake := account.handshake
  cases acquired : admissions.store.tryAcquire .listener .transport with
  | none =>
      have none_left := Store.tryAcquire_eq_none.mp acquired
      simp only [Admissions.accept, acquired]
      refine ⟨trivial, .inl ⟨trivial, ?_⟩⟩
      omega
  | some before =>
      have some_left := Store.available_ne_zero acquired
      have same := Store.available_tryAcquire acquired (show Capacity.handshake ≠ _ from nofun)
      obtain ⟨_, taken⟩ := sound.listening acquired
      cases handshaking :
          (before.wrap .listener (.transport admissions.accepted)).tryAcquire .listener
            .handshake with
      | none =>
          have none_left := Store.tryAcquire_eq_none.mp handshaking
          simp only [Store.wrap, Heap.allocate] at none_left
          simp only [Admissions.accept, acquired, handshaking]
          refine ⟨by rw [sound.refused acquired], .inr ⟨trivial, ?_, ?_⟩⟩
          · omega
          · omega
      | some store =>
          have some_handshake := Store.available_ne_zero handshaking
          simp only [Store.wrap, Heap.allocate] at some_handshake
          simp only [Admissions.accept, acquired, handshaking]
          refine ⟨by omega, by omega, ?_, ?_⟩
          · intro occupied
            obtain ⟨place, handle, held, leads⟩ := sound.standing.occupied_iff.mpr occupied
            have alive := sound.exact.alive_iff.mpr ⟨place, handle, held, leads⟩
            exact (sound.exact.alive _).mp alive sound.fresh_transport
          · have handles := Store.handles_tryAcquire _ handshaking
            simp [Admissions.Handshaking, handles, taken]

/-- A second connection is refused while a request of the first one is handled. -/
theorem refused_exactly_at_limits_handler :
    ∃ admissions, narrowGateway.run
        [.accept, .handshake 0 true, .call 0, .leave 0] = some admissions ∧
      {connection | admissions.Occupied connection}.ncard = 1 ∧
      admissions.accept.1 = .error .connectionCapacity := by
  refine ⟨_, rfl, ?_, rfl⟩
  obtain ⟨_, ⟨_, full⟩ | ⟨other, _⟩⟩ := refused_exactly_at_limits
    (show narrowGateway.run [.accept, .handshake 0 true, .call 0, .leave 0] = some _ from rfl)
  · exact full
  · cases other

end EdgeGateway.Gateway
