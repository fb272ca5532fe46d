import EdgeGateway.Library.LocalProofs
import Mathlib.Data.List.Count

/-!
# What a supervisor guarantees

A lock has one holder, and the holder is inside a write of that sink.  The verdict of the
supervisor is about a task that has ended by itself, the farewells come after everything that the
tasks have left, and a system that has a verdict can come to its end without its peers.
-/

namespace SupervisedTasks

variable {Task Side State Input Item Fault Choice Outcome : Type}

/-! ## Locks -/

/-- The task is writing into the sink, and past its lock. -/
def System.Inside (system : System Task Side State Item Outcome) (task : Task) (side : Side) :
    Prop :=
  ∃ item progress, (system.worker task).status = .writing side item progress ∧
    progress ≠ .locking

namespace Program

/-- The holder of a lock is the one task inside, and a sink without a lock has no holder. -/
structure Exclusive (program : Program Task Side State Input Item Fault Choice Outcome)
    (system : System Task Side State Item Outcome) : Prop where
  holder : ∀ {side}, program.guarded side = true →
    ∀ task, (system.sink side).holder = some task ↔ system.Inside task side
  bare : ∀ {side}, program.guarded side = false → (system.sink side).holder = none
  direct : ∀ {task side item progress}, (system.worker task).status = .writing side item progress →
    program.guarded side = false → progress = .writing

section Locks

variable {program : Program Task Side State Input Item Fault Choice Outcome}
  {system next : System Task Side State Item Outcome} {task : Task} {side : Side}

section Sinks

variable [DecidableEq Side]

theorem holder_push (place : Side) (chunk : Chunk Task Item) :
    ((system.push place chunk).sink side).holder = (system.sink side).holder := by
  by_cases same : side = place
  · subst same
    simp [System.push]
  · simp [System.push, same]

theorem holder_abandon_of_inside (inside : system.Inside task side) :
    ((system.abandon task).sink side).holder = none := by
  obtain ⟨item, progress, doing, entered⟩ := inside
  cases progress with
  | locking => exact absurd rfl entered
  | writing => simp [System.abandon, doing, System.hold]
  | flushing => simp [System.abandon, doing, System.hold]

theorem holder_abandon_of_outside (outside : ¬system.Inside task side) :
    ((system.abandon task).sink side).holder = (system.sink side).holder := by
  unfold System.abandon
  split
  case h_1 place item writing =>
    have different : side ≠ place := by
      rintro rfl
      exact outside ⟨item, .writing, writing, by decide⟩
    simp [System.hold, System.push, different]
  case h_2 place item flushing =>
    have different : side ≠ place := by
      rintro rfl
      exact outside ⟨item, .flushing, flushing, by decide⟩
    simp [System.hold, different]
  case h_3 => rfl

end Sinks

/-- A task enters a write from its lock if it has one. -/
theorem outside_status {state : State} (guarded : program.guarded side = true) {item : Item}
    {progress : WriteStep} (doing : program.status state = .writing side item progress) :
    progress = .locking := by
  unfold status at doing
  split at doing
  · cases doing
  · cases doing
    simp [guarded]
  · cases doing

theorem direct_status {state : State} (bare : program.guarded side = false) {item : Item}
    {progress : WriteStep} (doing : program.status state = .writing side item progress) :
    progress = .writing := by
  unfold status at doing
  split at doing
  · cases doing
  · cases doing
    simp [bare]
  · cases doing

theorem exclusive_initial : Exclusive program program.initial where
  holder guarded task := by
    constructor
    · intro held
      cases held
    · rintro ⟨item, progress, doing, entered⟩
      exact absurd (outside_status guarded doing) entered
  bare _ := rfl
  direct doing bare := direct_status bare doing

/-- The task has come out of the write that it was in, and nobody else has moved. -/
structure Leaves (program : Program Task Side State Input Item Fault Choice Outcome)
    (system : System Task Side State Item Outcome) (task : Task)
    (next : System Task Side State Item Outcome) : Prop where
  others : ∀ other, other ≠ task → (next.worker other).status = (system.worker other).status
  outside : ∀ {side item progress}, (next.worker task).status = .writing side item progress →
    (program.guarded side = true → progress = .locking) ∧
      (program.guarded side = false → progress = .writing)
  released : ∀ {side}, system.Inside task side → (next.sink side).holder = none
  kept : ∀ {side}, ¬system.Inside task side → (next.sink side).holder = (system.sink side).holder

theorem Exclusive.leaves (exclusive : Exclusive program system)
    (leaves : Leaves program system task next) : Exclusive program next where
  holder {side} guarded other := by
    have outside : ¬next.Inside task side := by
      rintro ⟨item, progress, doing, entered⟩
      exact entered ((leaves.outside doing).1 guarded)
    by_cases same : other = task
    · subst same
      refine iff_of_false ?_ outside
      by_cases inside : system.Inside other side
      · simp [leaves.released inside]
      · rw [leaves.kept inside, exclusive.holder guarded]
        exact inside
    · have alike : next.Inside other side ↔ system.Inside other side := by
        rw [System.Inside, System.Inside, leaves.others other same]
      rw [alike, ← exclusive.holder guarded]
      by_cases inside : system.Inside task side
      · have held := (exclusive.holder guarded task).mpr inside
        simp [leaves.released inside, held, Ne.symm same]
      · rw [leaves.kept inside]
  bare {side} bare := by
    by_cases inside : system.Inside task side
    · exact leaves.released inside
    · rw [leaves.kept inside]
      exact exclusive.bare bare
  direct {other side item progress} doing bare := by
    by_cases same : other = task
    · subst same
      exact (leaves.outside doing).2 bare
    · rw [leaves.others other same] at doing
      exact exclusive.direct doing bare

/-- Locks are about what the tasks are doing and who holds them, and nothing else. -/
theorem Exclusive.congr (exclusive : Exclusive program system)
    (doing : ∀ task, (next.worker task).status = (system.worker task).status)
    (holders : ∀ side, (next.sink side).holder = (system.sink side).holder) :
    Exclusive program next where
  holder guarded task := by
    rw [holders, System.Inside, doing]
    exact exclusive.holder guarded task
  bare bare := (holders _).trans (exclusive.bare bare)
  direct own bare := exclusive.direct ((doing _).symm.trans own) bare

variable [DecidableEq Task]

theorem worker_enter_self (state : State) :
    (program.enter system task state).worker task = ⟨state, program.status state, false⟩ := by
  simp [enter]

theorem worker_enter_other {state : State} {other : Task} (different : other ≠ task) :
    (program.enter system task state).worker other = system.worker other := by
  simp [enter, different]

variable [DecidableEq Side]

/-- A task that gives its write up leaves, whatever it does next. -/
theorem leaves_abandon (state : State) :
    Leaves program system task (program.enter (system.abandon task) task state) where
  others other different := by rw [worker_enter_other different, System.worker_abandon]
  outside doing := by
    rw [worker_enter_self] at doing
    exact ⟨fun guarded => outside_status guarded doing, fun bare => direct_status bare doing⟩
  released inside := holder_abandon_of_inside inside
  kept outside := holder_abandon_of_outside outside

theorem leaves_crash :
    Leaves program system task ((system.abandon task).setStatus task .crashed) where
  others other different := by simp [System.setStatus, different]
  outside doing := by simp [System.setStatus] at doing
  released inside := holder_abandon_of_inside inside
  kept outside := holder_abandon_of_outside outside

theorem leaves_push (exclusive : Exclusive program system) {item : Item} {chunk : Chunk Task Item}
    (writing : (system.worker task).status = .writing side item .writing)
    (bare : program.guarded side = false) (state : State) :
    Leaves program system task (program.enter (system.push side chunk) task state) where
  others other different := by rw [worker_enter_other different, System.worker_push]
  outside doing := by
    rw [worker_enter_self] at doing
    exact ⟨fun guarded => outside_status guarded doing, fun bare => direct_status bare doing⟩
  released {place} inside := by
    obtain ⟨_, _, doing, _⟩ := inside
    rw [writing] at doing
    cases doing
    exact (holder_push side chunk).trans (exclusive.bare bare)
  kept _ := holder_push side chunk

theorem Exclusive.lock (exclusive : Exclusive program system) {item : Item}
    (waiting : (system.worker task).status = .writing side item .locking)
    (free : (system.sink side).holder = none) :
    Exclusive program
      ((system.hold side (some task)).setStatus task (.writing side item .writing)) where
  holder {place} guarded other := by
    by_cases here : place = side
    · subst here
      have nobody : ∀ other, ¬system.Inside other place := by
        intro other inside
        rw [← exclusive.holder guarded, free] at inside
        cases inside
      by_cases own : other = task
      · subst own
        simp [System.setStatus, System.hold, System.Inside]
      · have outside := nobody other
        simp only [System.Inside] at outside
        simp [System.setStatus, System.hold, System.Inside, own, Ne.symm own, outside]
    · have before := exclusive.holder guarded other
      by_cases own : other = task
      · subst own
        have outside : ¬system.Inside other place := by
          rintro ⟨_, _, doing, _⟩
          rw [waiting] at doing
          cases doing
          exact here rfl
        simp only [outside, iff_false] at before
        simp [System.setStatus, System.hold, System.Inside, here, before, Ne.symm here]
      · simp only [System.Inside] at before
        simp [System.setStatus, System.hold, System.Inside, here, own, before]
  bare {place} bare := by
    have different : place ≠ side := by
      rintro rfl
      cases exclusive.direct waiting bare
    simpa [System.setStatus, System.hold, different] using exclusive.bare bare
  direct {other place other_item progress} doing bare := by
    by_cases own : other = task
    · subst own
      simp only [System.setStatus, System.worker_setWorker, Function.update_self] at doing
      cases doing
      rfl
    · simp only [System.setStatus, System.worker_setWorker, ne_eq, own, not_false_eq_true,
        Function.update_of_ne, System.worker_hold] at doing
      exact exclusive.direct doing bare

theorem Exclusive.put (exclusive : Exclusive program system) {item : Item}
    {chunk : Chunk Task Item}
    (writing : (system.worker task).status = .writing side item .writing)
    (guarded : program.guarded side = true) :
    Exclusive program ((system.push side chunk).setStatus task (.writing side item .flushing)) where
  holder {place} locked other := by
    have alike : ((system.push side chunk).setStatus task (.writing side item .flushing)).Inside
        other place ↔ system.Inside other place := by
      by_cases own : other = task
      · subst own
        simp [System.setStatus, System.Inside, writing]
      · simp [System.setStatus, System.Inside, own]
    rw [alike]
    exact (congrArg (· = some other) (holder_push side chunk)).to_iff.trans
      (exclusive.holder locked other)
  bare bare := (holder_push side chunk).trans (exclusive.bare bare)
  direct {other place other_item progress} doing bare := by
    by_cases own : other = task
    · subst own
      simp only [System.setStatus, System.worker_setWorker, Function.update_self] at doing
      cases doing
      rw [guarded] at bare
      cases bare
    · simp only [System.setStatus, System.worker_setWorker, ne_eq, own, not_false_eq_true,
        Function.update_of_ne, System.worker_push] at doing
      exact exclusive.direct doing bare

variable [DecidableEq Item] {event : Event Task Side Input Item Fault Choice}
  {events : List (Event Task Side Input Item Fault Choice)}

/-- Every step keeps the locks exclusive. -/
theorem Exclusive.step (exclusive : Exclusive program system)
    (step : program.Step system event next) : Exclusive program next := by
  cases step with
  | @receive task input reading =>
      have untouched : system.abandon task = system := by simp [System.abandon, reading]
      have left : Leaves program system task (program.enter (system.abandon task) task
          (program.received (system.worker task).state input)) := leaves_abandon _
      rw [untouched] at left
      exact exclusive.leaves left
  | lock waiting free => exact exclusive.lock waiting free
  | put writing guarded => exact exclusive.put writing guarded
  | putBare writing bare => exact exclusive.leaves (leaves_push exclusive writing bare _)
  | @flush task side item flushing =>
      have released : system.abandon task = system.hold side none := by
        simp [System.abandon, flushing]
      exact exclusive.leaves (released ▸ leaves_abandon _)
  | fail | cancel => exact exclusive.leaves (leaves_abandon _)
  | crash active => exact exclusive.leaves (leaves_crash)
  | @joinReturned task | @joinCrashed task =>
      refine exclusive.congr ?_ fun side => by rw [System.sink_join]
      intro other
      by_cases own : other = task
      · subst own
        simp
      · simp [own]
  | interrupt | drain | skip =>
      exact exclusive.congr (fun _ => rfl) fun _ => rfl
  | farewell => exact exclusive.congr (fun _ => rfl) fun _ => holder_push _ _

/-- In every run the locks are exclusive. -/
theorem exclusive_of_run (ran : program.run events = some system) : Exclusive program system :=
  run_induction (fun _ => Exclusive program) exclusive_initial (fun _ _ _ _ => Exclusive.step) ran

end Locks

/-! ## Verdicts -/

end Program

/-- The verdict, once there is one. -/
def Phase.verdict {Task Side Item Outcome : Type} :
    Phase Task Side Item Outcome → Option (Verdict Task Outcome)
  | running => none
  | draining verdict | leaving verdict _ => some verdict

namespace Program

/-- What a verdict rests on: an interruption, a task that has ended by itself, in a calm state, or
a crash. -/
def Justified (calm : State → Prop) (events : List (Event Task Side Input Item Fault Choice))
    (system : System Task Side State Item Outcome) : Verdict Task Outcome → Prop
  | .interrupted => .interrupt ∈ events
  | .first task outcome =>
      (system.worker task).joined = true ∧ (system.worker task).status = .returned outcome ∧
        calm (system.worker task).state
  | .crashed task =>
      (system.worker task).joined = true ∧ (system.worker task).status = .crashed

/-- What holds of the supervisor and the tasks; `calm` is what holds of a task that nobody has
cancelled. -/
structure Supervised (calm : State → Prop)
    (events : List (Event Task Side Input Item Fault Choice))
    (system : System Task Side State Item Outcome) : Prop where
  ended : ∀ {task}, (system.worker task).joined = true →
    (system.worker task).status.isActive = false
  undecided : system.phase = .running →
    ∀ task, (system.worker task).joined = false ∧ calm (system.worker task).state
  verdict : ∀ {verdict}, system.phase.verdict = some verdict →
    Justified calm events system verdict
  gone : ∀ {verdict remaining}, system.phase = .leaving verdict remaining →
    ∀ task, (system.worker task).joined = true

/-- What holds of every task that nobody has cancelled, by its code. -/
structure Calm (program : Program Task Side State Input Item Fault Choice Outcome)
    (calm : State → Prop) : Prop where
  start : ∀ task, calm (program.start task)
  received : ∀ {state}, calm state → program.request state = .read →
    ∀ input, calm (program.received state input)
  written : ∀ {state side item}, calm state → program.request state = .write side item →
    calm (program.written state)
  failed : ∀ {state side item}, calm state → program.request state = .write side item →
    ∀ fault, calm (program.failed state fault)

section Verdicts

variable {program : Program Task Side State Input Item Fault Choice Outcome} {calm : State → Prop}
  {events : List (Event Task Side Input Item Fault Choice)}
  {event : Event Task Side Input Item Fault Choice}
  {system next : System Task Side State Item Outcome} {task : Task}

theorem Justified.later {verdict : Verdict Task Outcome}
    (justified : Justified calm events system verdict)
    (kept : ∀ task, (system.worker task).joined = true → next.worker task = system.worker task)
    (event : Event Task Side Input Item Fault Choice) :
    Justified calm (events ++ [event]) next verdict := by
  cases verdict with
  | interrupted => exact List.mem_append_left _ justified
  | first task outcome =>
      obtain ⟨joined, ended, own⟩ := justified
      rw [Justified, kept task joined]
      exact ⟨joined, ended, own⟩
  | crashed task =>
      obtain ⟨joined, ended⟩ := justified
      rw [Justified, kept task joined]
      exact ⟨joined, ended⟩

theorem Supervised.fresh (supervised : Supervised calm events system)
    (active : (system.worker task).status.isActive = true) :
    (system.worker task).joined = false := by
  cases joined : (system.worker task).joined with
  | false => rfl
  | true =>
      rw [supervised.ended joined] at active
      cases active

/-- An active task has not been joined, so what it does next keeps the supervisor's facts. -/
theorem Supervised.move (supervised : Supervised calm events system)
    (active : (system.worker task).status.isActive = true)
    (others : ∀ other, other ≠ task → next.worker other = system.worker other)
    (fresh : (next.worker task).joined = false)
    (keeps : system.phase = .running → calm (system.worker task).state →
      calm (next.worker task).state)
    (phase : next.phase = system.phase) (event : Event Task Side Input Item Fault Choice) :
    Supervised calm (events ++ [event]) next := by
  have kept : ∀ other, (system.worker other).joined = true →
      next.worker other = system.worker other := by
    intro other joined
    refine others other ?_
    rintro rfl
    rw [supervised.ended joined] at active
    cases active
  refine ⟨?_, ?_, ?_, ?_⟩
  · intro other joined
    by_cases own : other = task
    · subst own
      rw [fresh] at joined
      cases joined
    · rw [others other own] at joined ⊢
      exact supervised.ended joined
  · intro running other
    rw [phase] at running
    by_cases own : other = task
    · subst own
      exact ⟨fresh, keeps running (supervised.undecided running other).2⟩
    · rw [others other own]
      exact supervised.undecided running other
  · intro verdict decided
    rw [phase] at decided
    exact (supervised.verdict decided).later kept event
  · intro verdict remaining leaving other
    rw [phase] at leaving
    have joined := supervised.gone leaving other
    rw [kept other joined]
    exact joined

theorem Calm.start_supervised (calms : Calm program calm) :
    Supervised calm ([] : List (Event Task Side Input Item Fault Choice)) program.initial := by
  refine ⟨nofun, fun _ task => ⟨rfl, calms.start task⟩, nofun, nofun⟩

/-- The supervisor goes on to another phase with the same verdict, or with a new one. -/
theorem Supervised.proceed (supervised : Supervised calm events system)
    (workers : next.worker = system.worker) (decided : next.phase ≠ .running)
    (verdict : ∀ {verdict}, next.phase.verdict = some verdict →
      system.phase.verdict = some verdict ∨ Justified calm (events ++ [event]) next verdict)
    (gone : ∀ {verdict remaining}, next.phase = .leaving verdict remaining →
      ∀ task, (system.worker task).joined = true) :
    Supervised calm (events ++ [event]) next where
  ended {task} := by
    rw [workers]
    exact supervised.ended
  undecided running := absurd running decided
  verdict {_} own := by
    rcases verdict own with before | justified
    · exact (supervised.verdict before).later (fun task _ => congrFun workers task) event
    · exact justified
  gone {_ _} leaving task := by
    rw [workers]
    exact gone leaving task

variable [DecidableEq Task]

/-- The supervisor takes the result of a task that has ended. -/
theorem Supervised.join (supervised : Supervised calm events system)
    (ended : (system.worker task).status.isActive = false) {verdict : Verdict Task Outcome}
    (justified : calm (system.worker task).state →
      Justified calm (events ++ [event]) (system.join task verdict) verdict) :
    Supervised calm (events ++ [event]) (system.join task verdict) := by
  have kept : ∀ other, (system.worker other).joined = true →
      (system.join task verdict).worker other = system.worker other := by
    intro other joined
    by_cases own : other = task
    · subst own
      rw [System.worker_join, Function.update_self, ← joined]
    · simp [own]
  refine ⟨?_, ?_, ?_, ?_⟩
  · intro other joined
    by_cases own : other = task
    · subst own
      simpa using ended
    · simp only [System.worker_join, ne_eq, own, not_false_eq_true, Function.update_of_ne]
        at joined ⊢
      exact supervised.ended joined
  · intro running
    simp only [System.join] at running
    split at running
    case h_1 => cases running
    case h_2 decided => exact absurd running decided
  · intro other decided
    cases phase : system.phase with
    | running =>
        have first : other = verdict := by
          simpa [System.join, phase, Phase.verdict, eq_comm] using decided
        subst first
        exact justified (supervised.undecided phase task).2
    | draining own | leaving own _ =>
        have before : system.phase.verdict = some other := by
          simpa [System.join, phase, System.setWorker] using decided
        exact (supervised.verdict before).later kept event
  · intro other remaining leaving
    cases phase : system.phase with
    | running => simp [System.join, phase] at leaving
    | draining own => simp [System.join, phase, System.setWorker] at leaving
    | leaving own rest =>
        intro another
        rw [kept another (supervised.gone phase another)]
        exact supervised.gone phase another

variable [DecidableEq Side] [DecidableEq Item]

/-- Every step keeps the supervisor's facts. -/
theorem Supervised.step (calms : Calm program calm) (supervised : Supervised calm events system)
    (follows : ∀ task, Follows program (system.worker task))
    (step : program.Step system event next) : Supervised calm (events ++ [event]) next := by
  cases step with
  | @receive task input reading =>
      have asked := (follows task).asked_read reading
      refine supervised.move (by rw [reading]; rfl) ?_ ?_ ?_ ?_ _
      · exact fun _ => worker_enter_other
      · rw [worker_enter_self]
      · rw [worker_enter_self]
        exact fun _ before => calms.received before asked input
      · rfl
  | @lock task side item waiting =>
      have active : (system.worker task).status.isActive = true := by rw [waiting]; rfl
      refine supervised.move active (fun other different => ?_) ?_ ?_ ?_ _
      · simp [System.setStatus, different]
      · simpa [System.setStatus] using supervised.fresh active
      · simp [System.setStatus]
      · rfl
  | @put task side item writing =>
      have active : (system.worker task).status.isActive = true := by rw [writing]; rfl
      refine supervised.move active (fun other different => ?_) ?_ ?_ ?_ _
      · simp [System.setStatus, different]
      · simpa [System.setStatus] using supervised.fresh active
      · simp [System.setStatus]
      · rfl
  | @putBare task side item writing =>
      have asked := (follows task).asked_write writing
      refine supervised.move (by rw [writing]; rfl) ?_ ?_ ?_ ?_ _
      · intro other different
        rw [worker_enter_other different]
        rfl
      · rw [worker_enter_self]
      · rw [worker_enter_self]
        exact fun _ before => calms.written before asked
      · rfl
  | @flush task side item flushing =>
      have asked := (follows task).asked_write flushing
      refine supervised.move (by rw [flushing]; rfl) ?_ ?_ ?_ ?_ _
      · intro other different
        rw [worker_enter_other different]
        rfl
      · rw [worker_enter_self]
      · rw [worker_enter_self]
        exact fun _ before => calms.written before asked
      · rfl
  | @fail task fault side item progress inside =>
      have asked := (follows task).asked_write inside
      refine supervised.move (by rw [inside]; rfl) ?_ ?_ ?_ ?_ _
      · intro other different
        rw [worker_enter_other different, System.worker_abandon]
      · rw [worker_enter_self]
      · rw [worker_enter_self]
        exact fun _ before => calms.failed before asked fault
      · exact System.phase_abandon system task
  | @cancel task choice decided active =>
      refine supervised.move active ?_ ?_ (fun running => absurd running decided) ?_ _
      · intro other different
        rw [worker_enter_other different, System.worker_abandon]
      · rw [worker_enter_self]
      · exact System.phase_abandon system task
  | @crash task active =>
      refine supervised.move active ?_ ?_ ?_ ?_ _
      · intro other different
        simp [System.setStatus, different]
      · simpa [System.setStatus] using supervised.fresh active
      · simp [System.setStatus]
      · exact System.phase_abandon system task
  | joinReturned fresh ended =>
      refine supervised.join (by rw [ended]; rfl) fun own => ?_
      simp [Justified, ended, own]
  | joinCrashed fresh ended =>
      refine supervised.join (by rw [ended]; rfl) fun own => ?_
      simp [Justified, ended]
  | interrupt running =>
      refine supervised.proceed rfl (by simp) (fun own => .inr ?_) (by simp)
      cases own
      exact List.mem_append_right _ List.mem_cons_self
  | drain draining gone =>
      refine supervised.proceed rfl (by simp) (fun own => .inl ?_) fun _ => gone
      rw [draining]
      exact own
  | skip leaving | farewell leaving =>
      refine supervised.proceed rfl (by simp) (fun own => .inl ?_) fun _ =>
        supervised.gone leaving
      rw [leaving]
      exact own

/-- In every run the supervisor's facts hold of what is calm by the code. -/
theorem Calm.supervised (calms : Calm program calm) (ran : program.run events = some system) :
    Supervised calm events system := by
  have trivially := localProof_trivial program
  refine (run_induction (fun events system =>
    (∀ task, Accounts program (fun _ _ _ _ _ => True) task events system) ∧
      Supervised calm events system) ⟨trivially.start_accounts, calms.start_supervised⟩ ?_ ran).2
  intro events system event next before step
  refine ⟨fun task => trivially.keeps (before.1 task) step, ?_⟩
  exact before.2.step calms (fun task => (before.1 task).1) step

end Verdicts

/-! ## Farewells -/

/-- The supervisor writes nothing before all tasks have gone, then at most its farewells, and they
come last. -/
structure Farewelled [DecidableEq Task] [DecidableEq Side] [DecidableEq Item]
    (program : Program Task Side State Input Item Fault Choice Outcome)
    (system : System Task Side State Item Outcome) : Prop where
  silent : (∀ verdict remaining, system.phase ≠ .leaving verdict remaining) →
    ∀ side, system.chunksOf none side = []
  bounded : ∀ {verdict remaining}, system.phase = .leaving verdict remaining → ∀ side item,
    ((system.chunksOf none side).map Chunk.item).count item + remaining.count (side, item) ≤
      (program.farewells verdict).count (side, item)
  last : ∀ {verdict remaining}, system.phase = .leaving verdict remaining → ∀ side,
    (system.sink side).chunks =
      (system.sink side).chunks.filter (fun chunk => chunk.writer.isSome) ++
        system.chunksOf none side
  left : ∀ {verdict remaining}, system.phase = .leaving verdict remaining →
    remaining.Sublist (program.farewells verdict)

section Farewells

variable [DecidableEq Task] [DecidableEq Side] [DecidableEq Item]
  {program : Program Task Side State Input Item Fault Choice Outcome} {calm : State → Prop}
  {events : List (Event Task Side Input Item Fault Choice)}
  {event : Event Task Side Input Item Fault Choice}
  {system next : System Task Side State Item Outcome} {task : Task}

/-- A step of a task leaves what the supervisor has written, and the end of the tasks, alone. -/
theorem Step.quiet (step : program.Step system event next) (acts : event.actor = some task) :
    next.chunksOf none = system.chunksOf none ∧
      ((∀ verdict remaining, system.phase ≠ .leaving verdict remaining) →
        ∀ verdict remaining, next.phase ≠ .leaving verdict remaining) := by
  cases step with
  | receive | lock | flush =>
      exact ⟨by simp [enter, System.setStatus], id⟩
  | put | putBare => exact ⟨System.chunksOf_push_other system (Option.some_ne_none _), id⟩
  | fail | cancel | crash =>
      refine ⟨System.chunksOf_abandon_other system _ (Option.some_ne_none _), ?_⟩
      simp [enter, System.setStatus]
  | joinReturned | joinCrashed =>
      refine ⟨System.chunksOf_join .., ?_⟩
      intro staying verdict remaining
      simp only [System.join]
      split
      · simp
      · exact staying verdict remaining
  | interrupt | drain | skip | farewell => cases acts

/-- When the supervisor is leaving, no task does anything. -/
theorem Supervised.still (supervised : Supervised calm events system)
    {verdict : Verdict Task Outcome} {remaining : List (Side × Item)}
    (leaving : system.phase = .leaving verdict remaining)
    (step : program.Step system event next) : event.actor = none := by
  have idle (task : Task) : (system.worker task).status.isActive = false :=
    supervised.ended (supervised.gone leaving task)
  have inactive {task : Task} (active : (system.worker task).status.isActive = true) : False := by
    rw [idle task] at active
    cases active
  cases step with
  | receive doing | lock doing | put doing | putBare doing | flush doing | fail doing =>
      exact (inactive (by rw [doing]; rfl)).elim
  | cancel _ active | crash active => exact (inactive active).elim
  | joinReturned fresh | joinCrashed fresh =>
      rw [supervised.gone leaving] at fresh
      cases fresh
  | interrupt | drain | skip | farewell => rfl

omit [DecidableEq Side] [DecidableEq Item] in
theorem filter_isSome_of_silent {side : Side} (silent : system.chunksOf none side = []) :
    (system.sink side).chunks.filter (fun chunk => chunk.writer.isSome) =
      (system.sink side).chunks := by
  rw [List.filter_eq_self]
  intro chunk present
  have own := List.filter_eq_nil_iff.mp silent chunk present
  rw [decide_eq_true_eq] at own
  exact Option.isSome_iff_ne_none.mpr own

theorem farewelled_initial : Farewelled program program.initial where
  silent _ _ := rfl
  bounded leaving := by cases leaving
  last leaving := by cases leaving
  left leaving := by cases leaving

/-- Every step keeps the farewells in order. -/
theorem Farewelled.step (farewelled : Farewelled program system)
    (supervised : Supervised calm events system) (step : program.Step system event next) :
    Farewelled program next := by
  cases acts : event.actor with
  | some task =>
      have staying : ∀ verdict remaining, system.phase ≠ .leaving verdict remaining := by
        intro verdict remaining leaving
        rw [supervised.still leaving step] at acts
        cases acts
      obtain ⟨chunks, later⟩ := step.quiet acts
      refine ⟨fun _ => ?_, fun leaving => absurd leaving (later staying _ _),
        fun leaving => absurd leaving (later staying _ _),
        fun leaving => absurd leaving (later staying _ _)⟩
      rw [chunks]
      exact farewelled.silent staying
  | none =>
      cases step with
      | receive | lock | put | putBare | flush | fail | cancel | crash | joinReturned
      | joinCrashed => cases acts
      | interrupt running =>
          refine ⟨fun _ => farewelled.silent (by simp [running]), nofun, nofun, nofun⟩
      | @drain verdict draining gone =>
          have silent : ∀ side, System.chunksOf { system with
              phase := .leaving verdict (program.farewells verdict) } none side = [] :=
            farewelled.silent (by simp [draining])
          refine ⟨fun staying => absurd rfl (staying _ _), ?_, ?_, ?_⟩
          · intro _ _ leaving side item
            cases leaving
            rw [silent side]
            simp
          · intro _ _ _ side
            rw [filter_isSome_of_silent (silent side), silent side, List.append_nil]
          · intro _ _ leaving
            cases leaving
            exact List.Sublist.refl _
      | @skip verdict remaining side item leaving left =>
          refine ⟨fun staying => absurd rfl (staying _ _), ?_, fun _ => farewelled.last leaving, ?_⟩
          · intro _ _ now place other
            cases now
            exact Nat.le_trans (Nat.add_le_add_left (List.erase_sublist.count_le _) _)
              (farewelled.bounded leaving place other)
          · intro _ _ now
            cases now
            exact List.erase_sublist.trans (farewelled.left leaving)
      | @farewell verdict remaining side item whole leaving left free =>
          have pushed : System.chunksOf (System.push { system with
              phase := .leaving verdict (remaining.erase (side, item)) } side
                ⟨none, item, whole⟩) none =
              Function.update (system.chunksOf none) side
                (system.chunksOf none side ++ [⟨none, item, whole⟩]) :=
            System.chunksOf_push_self _ side ⟨none, item, whole⟩
          refine ⟨fun staying => absurd rfl (staying _ _), ?_, ?_, ?_⟩
          · intro _ _ now place other
            cases now
            have before := farewelled.bounded leaving place other
            rw [pushed]
            by_cases here : place = side
            · subst here
              rw [Function.update_self, List.map_append, List.count_append]
              by_cases same : other = item
              · subst same
                have counted := List.count_pos_iff.mpr left
                rw [List.count_erase_self]
                simp only [List.map_cons, List.map_nil, List.count_singleton_self]
                omega
              · rw [List.count_erase_of_ne (by simpa using same)]
                simpa [Ne.symm same] using before
            · rw [Function.update_of_ne here, List.count_erase_of_ne (by simp [here])]
              exact before
          · intro _ _ _ place
            have before := farewelled.last leaving place
            rw [pushed]
            by_cases here : place = side
            · subst here
              have extended := congrArg (· ++ [(⟨none, item, whole⟩ : Chunk Task Item)]) before
              simpa [System.push] using extended
            · simpa [System.push, here] using before
          · intro _ _ now
            cases now
            exact List.erase_sublist.trans (farewelled.left leaving)

/-- In every run the farewells come last. -/
theorem farewelled_of_run (ran : program.run events = some system) :
    Farewelled program system := by
  have calms : Calm program fun _ => True :=
    ⟨fun _ => trivial, fun _ _ _ => trivial, fun _ _ => trivial, fun _ _ _ => trivial⟩
  have trivially := localProof_trivial program
  refine (run_induction (fun events system =>
    (∀ task, Accounts program (fun _ _ _ _ _ => True) task events system) ∧
      Supervised (fun _ => True) events system ∧ Farewelled program system)
    ⟨trivially.start_accounts, calms.start_supervised, farewelled_initial⟩ ?_ ran).2.2
  intro events system event next before step
  obtain ⟨accounts, supervised, farewelled⟩ := before
  exact ⟨fun task => trivially.keeps (accounts task) step,
    supervised.step calms (fun task => (accounts task).1) step, farewelled.step supervised step⟩

end Farewells

/-! ## Coming to an end -/

end Program

/-- A step that needs nobody but the tasks and their supervisor. -/
def Event.isOwn : Event Task Side Input Item Fault Choice → Bool
  | cancel _ _ | join _ | drain | farewell _ _ none => true
  | _ => false

namespace Program

section Ending

variable [DecidableEq Task] [DecidableEq Side] [DecidableEq Item]
  {program : Program Task Side State Input Item Fault Choice Outcome}
  {events more : List (Event Task Side Input Item Fault Choice)}
  {event : Event Task Side Input Item Fault Choice}
  {system next final : System Task Side State Item Outcome} {task : Task}
  {verdict : Verdict Task Outcome}

theorem run_append (ran : program.run events = some system) :
    program.run (events ++ more) = more.foldlM program.step system := by
  rw [run, List.foldlM_append]
  exact congrArg (· >>= more.foldlM program.step) ran

theorem run_snoc (ran : program.run events = some system)
    (stepped : program.step system event = some next) :
    program.run (events ++ [event]) = some next := by
  rw [run_append ran, List.foldlM_cons, stepped]
  rfl

/-- A continuation of at most `limit` steps of the system's own. -/
structure Continues (program : Program Task Side State Input Item Fault Choice Outcome)
    (events : List (Event Task Side Input Item Fault Choice)) (limit : Nat)
    (more : List (Event Task Side Input Item Fault Choice))
    (final : System Task Side State Item Outcome) : Prop where
  ran : program.run (events ++ more) = some final
  own : ∀ event ∈ more, event.isOwn = true
  short : more.length ≤ limit

theorem Continues.refl (ran : program.run events = some system) :
    Continues program events 0 [] system :=
  ⟨by rwa [List.append_nil], nofun, Nat.le_refl 0⟩

theorem Continues.mono {limit other : Nat} (continues : Continues program events limit more system)
    (le : limit ≤ other) : Continues program events other more system :=
  ⟨continues.ran, continues.own, Nat.le_trans continues.short le⟩

theorem Continues.snoc {limit : Nat} (continues : Continues program events limit more system)
    (stepped : program.step system event = some next) (own : event.isOwn = true) :
    Continues program events (limit + 1) (more ++ [event]) next where
  ran := by
    rw [← List.append_assoc]
    exact run_snoc continues.ran stepped
  own := by
    simpa [or_imp, forall_and, own] using continues.own
  short := by simpa using continues.short

theorem step_join (ended : (system.worker task).status.isActive = false)
    (fresh : (system.worker task).joined = false) :
    ∃ verdict, program.step system (.join task) = some (system.join task verdict) := by
  cases doing : (system.worker task).status with
  | reading | writing _ _ _ =>
      rw [doing] at ended
      cases ended
  | returned outcome => exact ⟨.first task outcome, by simp [step, fresh, doing]⟩
  | crashed => exact ⟨.crashed task, by simp [step, fresh, doing]⟩

omit [DecidableEq Side] [DecidableEq Item] in
theorem phase_join (draining : system.phase = .draining verdict) (own : Verdict Task Outcome) :
    (system.join task own).phase = .draining verdict := by
  simp [System.join, System.setWorker, draining]

/-- An active task follows a cancellation at once. -/
theorem step_cancel (follows : Follows program (system.worker task))
    (draining : system.phase = .draining verdict)
    (active : (system.worker task).status.isActive = true) (choice : Choice) :
    ∃ next, program.step system (.cancel task choice) = some next ∧
      next.phase = .draining verdict ∧ (next.worker task).status.isActive = false ∧
      (next.worker task).joined = false ∧
      ∀ other, other ≠ task → next.worker other = system.worker other := by
  refine ⟨program.enter (system.abandon task) task
    (program.cancelled (system.worker task).state choice), by simp [step, draining, active], ?_,
    ?_, ?_, ?_⟩
  · exact (System.phase_abandon system task).trans draining
  · have running : (program.request (system.worker task).state).isFinish = false := by
      cases doing : (system.worker task).status with
      | reading =>
          rw [follows.asked_read doing]
          rfl
      | writing side item progress =>
          rw [follows.asked_write doing]
          rfl
      | returned _ | crashed =>
          rw [doing] at active
          cases active
    have finishes := program.cancelled_finishes running choice
    rw [worker_enter_self]
    unfold status
    split
    case h_1 asked =>
      rw [asked] at finishes
      cases finishes
    case h_2 asked =>
      rw [asked] at finishes
      cases finishes
    case h_3 => rfl
  · rw [worker_enter_self]
  · intro other different
    rw [worker_enter_other different, System.worker_abandon]

/-- A draining system can take the result of a task that has ended. -/
theorem Continues.takes {limit : Nat} (continues : Continues program events limit more system)
    (draining : system.phase = .draining verdict)
    (ended : (system.worker task).status.isActive = false)
    (fresh : (system.worker task).joined = false) :
    ∃ more next, Continues program events (limit + 1) more next ∧
      next.phase = .draining verdict ∧ (next.worker task).joined = true ∧
      ∀ other, (system.worker other).joined = true → (next.worker other).joined = true := by
  obtain ⟨own, stepped⟩ :
      ∃ verdict, program.step system (.join task) = some (system.join task verdict) :=
    step_join ended fresh
  refine ⟨_, _, continues.snoc stepped rfl, phase_join draining own, by simp, ?_⟩
  intro other joined
  by_cases same : other = task
  · subst same
    simp
  · simpa [same] using joined

/-- A draining system can have any task joined. -/
theorem Continues.joins {limit : Nat} (continues : Continues program events limit more system)
    (draining : system.phase = .draining verdict) (choice : Choice) (task : Task) :
    ∃ more next, Continues program events (limit + 2) more next ∧
      next.phase = .draining verdict ∧ (next.worker task).joined = true ∧
      ∀ other, (system.worker other).joined = true → (next.worker other).joined = true := by
  cases joined : (system.worker task).joined with
  | true =>
      exact ⟨more, system, continues.mono (Nat.le_add_right _ _), draining, joined, fun _ => id⟩
  | false =>
      cases active : (system.worker task).status.isActive with
      | false =>
          obtain ⟨later, next, taken, rest⟩ := continues.takes draining active joined
          exact ⟨later, next, taken.mono (Nat.le_succ _), rest⟩
      | true =>
          have follows := ((localProof_trivial program).holds continues.ran task).1
          obtain ⟨middle, stepped, still, ended, fresh, others⟩ :=
            step_cancel follows draining active choice
          obtain ⟨later, next, taken, final, own, kept⟩ :=
            (continues.snoc stepped rfl).takes still ended fresh
          refine ⟨later, next, taken, final, own, ?_⟩
          intro other before
          have different : other ≠ task := by
            rintro rfl
            rw [joined] at before
            cases before
          exact kept other (by rwa [others other different])

/-- A draining system can have all of some tasks joined. -/
theorem Continues.joinsAll (choice : Choice) (tasks : List Task) {limit : Nat}
    (continues : Continues program events limit more system)
    (draining : system.phase = .draining verdict) :
    ∃ more next, Continues program events (limit + 2 * tasks.length) more next ∧
      next.phase = .draining verdict ∧ (∀ task ∈ tasks, (next.worker task).joined = true) ∧
      ∀ other, (system.worker other).joined = true → (next.worker other).joined = true := by
  induction tasks generalizing limit more system with
  | nil => exact ⟨more, system, continues, draining, nofun, fun _ => id⟩
  | cons task tasks ih =>
      obtain ⟨_, middle, first, still, own, kept⟩ := continues.joins draining choice task
      obtain ⟨later, next, rest, final, all, keeps⟩ := ih first still
      refine ⟨later, next, rest.mono (by simp; omega), final, ?_, ?_⟩
      · rw [List.forall_mem_cons]
        exact ⟨keeps task own, all⟩
      · exact fun other before => keeps other (kept other before)

/-- A leaving system can do without its farewells. -/
theorem Continues.leaves (remaining : List (Side × Item)) {limit : Nat}
    (continues : Continues program events limit more system)
    (leaving : system.phase = .leaving verdict remaining) :
    ∃ more next, Continues program events (limit + remaining.length) more next ∧
      next.phase = .leaving verdict [] := by
  induction remaining generalizing limit more system with
  | nil => exact ⟨more, system, continues, leaving⟩
  | cons pair remaining ih =>
      obtain ⟨side, item⟩ := pair
      have stepped : program.step system (.farewell side item none) =
          some { system with phase := .leaving verdict remaining } := by
        simp [step, leaving]
      obtain ⟨later, next, rest, final⟩ := ih (continues.snoc stepped rfl) rfl
      exact ⟨later, next, rest.mono (by simp; omega), final⟩

/-- A system that has a verdict can come to its end by steps of its own, whatever its peers do, and
in a number of steps that the tasks and the farewells bound. -/
theorem run_ends (ran : program.run events = some system)
    (decided : system.phase.verdict = some verdict) (choice : Choice) :
    ∃ more final, Continues program events
        (2 * program.tasks.length + 1 + (program.farewells verdict).length) more final ∧
      final.phase = .leaving verdict [] := by
  have start := Continues.refl ran
  cases phase : system.phase with
  | running =>
      rw [phase] at decided
      cases decided
  | draining own =>
      rw [phase] at decided
      cases decided
      obtain ⟨_, middle, drained, still, all, _⟩ := start.joinsAll choice program.tasks phase
      have stepped : program.step middle .drain =
          some { middle with phase := .leaving verdict (program.farewells verdict) } := by
        simpa [step, still] using all
      obtain ⟨more, final, ended, gone⟩ := (drained.snoc stepped rfl).leaves _ rfl
      exact ⟨more, final, ended.mono (by omega), gone⟩
  | leaving own remaining =>
      rw [phase] at decided
      cases decided
      obtain ⟨more, final, ended, gone⟩ := start.leaves remaining phase
      have short := ((farewelled_of_run ran).left phase).length_le
      exact ⟨more, final, ended.mono (by omega), gone⟩

end Ending

end Program

end SupervisedTasks
