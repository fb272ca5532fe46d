import EdgeGateway.Library.SupervisedTasks

/-!
# Local proofs about supervised tasks

What a task does depends on its own inputs alone, so a proof about its code carries over to the
system: whatever the other tasks and the supervisor do, the sinks hold the items that the code has
asked to write, in this order, up to one that is cut off when the task ends.
-/

namespace SupervisedTasks

variable {Task Side State Input Item Fault Choice Outcome : Type}

/-! ## What a step leaves alone -/

/-- The task that an event is about. -/
def Event.actor : Event Task Side Input Item Fault Choice → Option Task
  | receive task _ | lock task | put task | flush task | fail task _ | cancel task _
  | crash task | join task => some task
  | interrupt | drain | farewell _ _ _ => none

theorem inputs_append [DecidableEq Task] (task : Task)
    (events : List (Event Task Side Input Item Fault Choice))
    (event : Event Task Side Input Item Fault Choice) :
    inputs task (events ++ [event]) = inputs task events ++ inputs task [event] :=
  List.filterMap_append

theorem inputs_of_other [DecidableEq Task] {task : Task}
    {event : Event Task Side Input Item Fault Choice} (other : event.actor ≠ some task) :
    inputs task [event] = [] := by
  cases event with
  | receive actor input =>
      have different : actor ≠ task := fun same => other (congrArg some same)
      simp [inputs, different]
  | _ => rfl

/-- The items that a task has written whole into a sink. -/
def System.whole [DecidableEq Task] (system : System Task Side State Item Outcome) (task : Task)
    (side : Side) : List Item :=
  ((system.chunksOf (some task) side).filter Chunk.whole).map Chunk.item

namespace Program

variable [DecidableEq Task] [DecidableEq Side] [DecidableEq Item]
  {program : Program Task Side State Input Item Fault Choice Outcome}
  {system next : System Task Side State Item Outcome}
  {event : Event Task Side Input Item Fault Choice}

/-- A step leaves every other task and its chunks alone. -/
theorem Step.frame (step : program.Step system event next) {task : Task}
    (other : event.actor ≠ some task) :
    next.worker task = system.worker task ∧
      next.chunksOf (some task) = system.chunksOf (some task) := by
  have apart {actor : Task} (acts : some actor ≠ some task) : task ≠ actor :=
    fun same => acts (congrArg some same.symm)
  cases step with
  | receive | lock | flush | joinReturned | joinCrashed =>
      exact ⟨by simp [enter, System.setStatus, apart other], by simp [enter, System.setStatus]⟩
  | put | putBare =>
      refine ⟨by simp [enter, System.setStatus, apart other], ?_⟩
      refine System.chunksOf_push_other system ?_
      exact other
  | fail | cancel | crash =>
      refine ⟨by simp [enter, System.setStatus, apart other], ?_⟩
      exact System.chunksOf_abandon_other system _ other
  | interrupt | drain | skip => exact ⟨rfl, rfl⟩
  | farewell => exact ⟨rfl, System.chunksOf_push_other _ nofun⟩

/-- A task that is over does nothing more. -/
theorem Step.of_ended (step : program.Step system event next) {task : Task}
    (ended : (system.worker task).status.isActive = false) :
    (next.worker task).status = (system.worker task).status ∧
      next.chunksOf (some task) = system.chunksOf (some task) := by
  by_cases own : event.actor = some task
  · have inactive (active : (system.worker task).status.isActive = true) : False := by
      rw [ended] at active
      cases active
    cases step with
    | receive doing | lock doing | put doing | putBare doing | flush doing | fail doing =>
        cases own
        exact (inactive (by rw [doing]; rfl)).elim
    | cancel _ active | crash active =>
        cases own
        exact (inactive active).elim
    | joinReturned | joinCrashed =>
        cases own
        exact ⟨by simp, by simp⟩
    | interrupt | drain | skip | farewell => cases own
  · obtain ⟨worker, chunks⟩ := step.frame own
    exact ⟨congrArg Worker.status worker, chunks⟩

/-- A task that is over leaves nothing more, whatever happens. -/
theorem chunksOf_foldlM_of_ended {more : List (Event Task Side Input Item Fault Choice)}
    {task : Task} (ended : (system.worker task).status.isActive = false)
    (ran : more.foldlM program.step system = some next) :
    next.chunksOf (some task) = system.chunksOf (some task) := by
  induction more generalizing system with
  | nil =>
      cases ran
      rfl
  | cons event more ih =>
      rw [List.foldlM_cons, Option.bind_eq_bind, Option.bind_eq_some_iff] at ran
      obtain ⟨middle, stepped, rest⟩ := ran
      obtain ⟨same, chunks⟩ := (step_cases stepped).of_ended ended
      rw [ih (same ▸ ended) rest, chunks]

end Program

/-! ## What a task accounts for -/

namespace Program

variable {program : Program Task Side State Input Item Fault Choice Outcome}

/-- What a task does is what its code asks for. -/
def Follows (program : Program Task Side State Input Item Fault Choice Outcome)
    (worker : Worker Side State Item Outcome) : Prop :=
  match worker.status with
  | .reading => program.request worker.state = .read
  | .writing side item _ => program.request worker.state = .write side item
  | .returned outcome => program.request worker.state = .finish outcome
  | .crashed => True

theorem follows_enter (state : State) : Follows program ⟨state, program.status state, false⟩ := by
  cases asked : program.request state with
  | read => simp [Follows, status, asked]
  | write side item => simp [Follows, status, asked]
  | finish outcome => simp [Follows, status, asked]

section Asking

variable {worker : Worker Side State Item Outcome} {side : Side} {item : Item} {outcome : Outcome}
  {progress : WriteStep}

theorem Follows.asked_read (follows : Follows program worker) (reading : worker.status = .reading) :
    program.request worker.state = .read := by
  rwa [Follows, reading] at follows

theorem Follows.asked_write (follows : Follows program worker)
    (writing : worker.status = .writing side item progress) :
    program.request worker.state = .write side item := by
  rwa [Follows, writing] at follows

theorem Follows.asked_finish (follows : Follows program worker)
    (returned : worker.status = .returned outcome) :
    program.request worker.state = .finish outcome := by
  rwa [Follows, returned] at follows

/-- A task is over when it has crashed or its code has come to its end. -/
theorem Follows.ended_iff (follows : Follows program worker) :
    worker.status.isActive = false ↔
      worker.status = .crashed ∨ (program.request worker.state).isFinish = true := by
  cases doing : worker.status with
  | reading => simp [follows.asked_read doing, Status.isActive, Request.isFinish]
  | writing side item progress =>
      simp [follows.asked_write doing, Status.isActive, Request.isFinish]
  | returned outcome => simp [follows.asked_finish doing, Status.isActive, Request.isFinish]
  | crashed => simp [Status.isActive]

end Asking

variable [DecidableEq Side]

/-- One more entry at one side. -/
def add {Entry : Type} (contents : Side → List Entry) (side : Side) (entry : Entry) :
    Side → List Entry :=
  Function.update contents side (contents side ++ [entry])

/-- Items that a task has written whole, as chunks. -/
def wholes (task : Task) (items : Side → List Item) (side : Side) : List (Chunk Task Item) :=
  (items side).map fun item => ⟨some task, item, true⟩

theorem wholes_add (task : Task) (items : Side → List Item) (side : Side) (item : Item) :
    wholes task (add items side item) = add (wholes task items) side ⟨some task, item, true⟩ := by
  funext place
  by_cases same : place = side
  · subst same
    simp [wholes, add]
  · simp [wholes, add, same]

/-- Items that a task has written whole, and one that it has cut off at last. -/
def chunksFor (task : Task) (items : Side → List Item) :
    Option (Side × Item) → Side → List (Chunk Task Item)
  | none => wholes task items
  | some (side, item) => add (wholes task items) side ⟨some task, item, false⟩

/-- The chunks of a task that accounts for these items: the item of the write that it is about to
leave may be there already, and a crash can leave it whole or in part. -/
inductive Left (program : Program Task Side State Input Item Fault Choice Outcome) (task : Task)
    (worker : Worker Side State Item Outcome) (items : Side → List Item)
    (cut : Option (Side × Item)) : (Side → List (Chunk Task Item)) → Prop
  | steady (running : worker.status.isActive = true)
      (outside : ∀ side item, worker.status ≠ .writing side item .flushing) (uncut : cut = none) :
      Left program task worker items cut (wholes task items)
  | flushing {side : Side} {item : Item} (flushing : worker.status = .writing side item .flushing)
      (uncut : cut = none) :
      Left program task worker items cut (add (wholes task items) side ⟨some task, item, true⟩)
  | returned {outcome : Outcome} (ended : worker.status = .returned outcome) :
      Left program task worker items cut (chunksFor task items cut)
  | crashed (ended : worker.status = .crashed) (uncut : cut = none) :
      Left program task worker items cut (wholes task items)
  | crashedWriting {side : Side} {item : Item} {whole : Bool} (ended : worker.status = .crashed)
      (writing : program.request worker.state = .write side item) (uncut : cut = none) :
      Left program task worker items cut (add (wholes task items) side ⟨some task, item, whole⟩)

/-- A state that has not cut anything off accounts for its items. -/
theorem left_enter (task : Task) (state : State) (items : Side → List Item) :
    Left program task ⟨state, program.status state, false⟩ items none (wholes task items) := by
  cases asked : program.request state with
  | read => exact .steady (by simp [status, asked, Status.isActive]) (by simp [status, asked]) rfl
  | write side item =>
      refine .steady (by simp [status, asked, Status.isActive]) ?_ rfl
      intro place other
      simp only [status, asked]
      split_ifs
      · simp
      · simp
  | finish outcome => exact .returned (by simp [status, asked]; rfl)

/-- A state that ends its task accounts for what it has cut off. -/
theorem left_enter_finish (task : Task) {state : State}
    (finishes : (program.request state).isFinish = true) (items : Side → List Item)
    (cut : Option (Side × Item)) :
    Left program task ⟨state, program.status state, false⟩ items cut
      (chunksFor task items cut) := by
  cases asked : program.request state with
  | read => simp [asked, Request.isFinish] at finishes
  | write side item => simp [asked, Request.isFinish] at finishes
  | finish outcome => exact .returned (by simp [status, asked]; rfl)

/-! ## Local proofs -/

section LocalProofs

/-- A proof about the code of the tasks alone: a relation between the state of a task, the inputs
that it has received, the items that it has written and the one that it has cut off. -/
structure LocalProof (program : Program Task Side State Input Item Fault Choice Outcome)
    (good : Task → State → List Input → (Side → List Item) → Option (Side × Item) → Prop) :
    Prop where
  start : ∀ task, good task (program.start task) [] (fun _ => []) none
  received : ∀ {task state read items}, good task state read items none →
    program.request state = .read → ∀ input,
    good task (program.received state input) (read ++ [input]) items none
  written : ∀ {task state read items side item}, good task state read items none →
    program.request state = .write side item →
    good task (program.written state) read (add items side item) none
  failed : ∀ {task state read items side item}, good task state read items none →
    program.request state = .write side item → ∀ fault,
    good task (program.failed state fault) read items (some (side, item)) ∧
      good task (program.failed state fault) read (add items side item) none
  cancelledReading : ∀ {task state read items}, good task state read items none →
    program.request state = .read → ∀ choice,
    good task (program.cancelled state choice) read items none
  cancelledWriting : ∀ {task state read items side item}, good task state read items none →
    program.request state = .write side item → ∀ choice,
    good task (program.cancelled state choice) read items none ∧
      good task (program.cancelled state choice) read items (some (side, item)) ∧
      good task (program.cancelled state choice) read (add items side item) none

/-- The accounts of one task: it follows its code, its state is good for what it has read and
written, and the sinks hold just that. -/
def Accounts [DecidableEq Task] (program : Program Task Side State Input Item Fault Choice Outcome)
    (good : Task → State → List Input → (Side → List Item) → Option (Side × Item) → Prop)
    (task : Task) (events : List (Event Task Side Input Item Fault Choice))
    (system : System Task Side State Item Outcome) : Prop :=
  Follows program (system.worker task) ∧
    ∃ items cut, good task (system.worker task).state (inputs task events) items cut ∧
      Left program task (system.worker task) items cut (system.chunksOf (some task))

theorem Left.of_steady {task : Task} {worker : Worker Side State Item Outcome}
    {items : Side → List Item} {cut : Option (Side × Item)}
    {chunks : Side → List (Chunk Task Item)} (left : Left program task worker items cut chunks)
    (running : worker.status.isActive = true)
    (outside : ∀ side item, worker.status ≠ .writing side item .flushing) :
    cut = none ∧ chunks = wholes task items := by
  cases left with
  | steady _ _ uncut => exact ⟨uncut, rfl⟩
  | flushing flushing => exact absurd flushing (outside _ _)
  | returned ended | crashed ended | crashedWriting ended =>
      rw [ended] at running
      cases running

theorem Left.of_flushing {task : Task} {worker : Worker Side State Item Outcome}
    {items : Side → List Item} {cut : Option (Side × Item)}
    {chunks : Side → List (Chunk Task Item)} (left : Left program task worker items cut chunks)
    {side : Side} {item : Item} (flushing : worker.status = .writing side item .flushing) :
    cut = none ∧ chunks = wholes task (add items side item) := by
  cases left with
  | steady _ outside => exact absurd flushing (outside _ _)
  | flushing own uncut =>
      rw [own] at flushing
      cases flushing
      exact ⟨uncut, (wholes_add task items side item).symm⟩
  | returned ended | crashed ended | crashedWriting ended =>
      rw [ended] at flushing
      cases flushing

/-- What a task has left is what it has written whole, with at most one item that it has cut off at
last: its accounts, and the item of the write that it is about to leave. -/
theorem Left.tidy {task : Task} {worker : Worker Side State Item Outcome}
    {items : Side → List Item} {cut : Option (Side × Item)}
    {chunks : Side → List (Chunk Task Item)} (left : Left program task worker items cut chunks)
    (follows : Follows program worker) :
    ∃ written lost, chunks = chunksFor task written lost ∧
      (lost.isSome = true → worker.status.isActive = false) ∧
      ((written = items ∧ lost = cut) ∨ (cut = none ∧ ∃ side item,
        program.request worker.state = .write side item ∧
          ((written = add items side item ∧ lost = none) ∨
            (written = items ∧ lost = some (side, item))))) := by
  cases left with
  | steady running outside uncut =>
      exact ⟨items, none, rfl, nofun, .inl ⟨rfl, uncut.symm⟩⟩
  | @flushing side item flushing uncut =>
      have asked := follows.asked_write flushing
      exact ⟨add items side item, none, (wholes_add task items side item).symm, nofun,
        .inr ⟨uncut, side, item, asked, .inl ⟨rfl, rfl⟩⟩⟩
  | returned ended =>
      exact ⟨items, cut, rfl, fun _ => by rw [ended]; rfl, .inl ⟨rfl, rfl⟩⟩
  | crashed ended uncut =>
      exact ⟨items, none, rfl, nofun, .inl ⟨rfl, uncut.symm⟩⟩
  | @crashedWriting side item whole ended asked uncut =>
      cases whole with
      | true =>
          exact ⟨add items side item, none, (wholes_add task items side item).symm, nofun,
            .inr ⟨uncut, side, item, asked, .inl ⟨rfl, rfl⟩⟩⟩
      | false =>
          exact ⟨items, some (side, item), rfl, fun _ => by rw [ended]; rfl,
            .inr ⟨uncut, side, item, asked, .inr ⟨rfl, rfl⟩⟩⟩

/-- Whether the result of a task has been taken does not matter. -/
theorem Left.joined {task : Task} {worker : Worker Side State Item Outcome}
    {items : Side → List Item} {cut : Option (Side × Item)}
    {chunks : Side → List (Chunk Task Item)} (left : Left program task worker items cut chunks) :
    Left program task { worker with joined := true } items cut chunks := by
  cases left with
  | steady running outside uncut => exact .steady running outside uncut
  | flushing flushing uncut => exact .flushing flushing uncut
  | returned ended => exact .returned ended
  | crashed ended uncut => exact .crashed ended uncut
  | crashedWriting ended writing uncut => exact .crashedWriting ended writing uncut

variable [DecidableEq Task]
  {good : Task → State → List Input → (Side → List Item) → Option (Side × Item) → Prop}
  {events : List (Event Task Side Input Item Fault Choice)}
  {event : Event Task Side Input Item Fault Choice}
  {system next : System Task Side State Item Outcome} {task : Task}

theorem chunksOf_abandon_of_writing {side : Side} {item : Item}
    (writing : (system.worker task).status = .writing side item .writing) :
    (system.abandon task).chunksOf (some task) =
      add (system.chunksOf (some task)) side ⟨some task, item, false⟩ := by
  simp only [System.abandon, writing, System.chunksOf_hold]
  exact System.chunksOf_push_self system side ⟨some task, item, false⟩

theorem chunksOf_abandon_of_outside
    (outside : ∀ side item, (system.worker task).status ≠ .writing side item .writing) :
    (system.abandon task).chunksOf (some task) = system.chunksOf (some task) := by
  unfold System.abandon
  split
  case h_1 side item writing => exact absurd writing (outside side item)
  case h_2 => rw [System.chunksOf_hold]
  case h_3 => rfl

/-- What a task that is cut off has left: what it has written whole and, of the write that it is
inside of, nothing, a part or all. -/
inductive CutOff (program : Program Task Side State Input Item Fault Choice Outcome) (task : Task)
    (state : State) (items : Side → List Item) : (Side → List (Chunk Task Item)) → Prop
  | reading (asked : program.request state = .read) :
      CutOff program task state items (wholes task items)
  | before {side : Side} {item : Item} (asked : program.request state = .write side item) :
      CutOff program task state items (wholes task items)
  | inside {side : Side} {item : Item} {whole : Bool}
      (asked : program.request state = .write side item) :
      CutOff program task state items (add (wholes task items) side ⟨some task, item, whole⟩)

/-- A task is cut off wherever it is. -/
theorem Left.cutOff {items : Side → List Item} {cut : Option (Side × Item)}
    (left : Left program task (system.worker task) items cut (system.chunksOf (some task)))
    (follows : Follows program (system.worker task))
    (active : (system.worker task).status.isActive = true) :
    cut = none ∧ CutOff program task (system.worker task).state items
      ((system.abandon task).chunksOf (some task)) := by
  cases doing : (system.worker task).status with
  | reading =>
      have asked := follows.asked_read doing
      obtain ⟨rfl, chunks⟩ := left.of_steady active (by simp [doing])
      rw [chunksOf_abandon_of_outside (by simp [doing]), chunks]
      exact ⟨rfl, .reading asked⟩
  | writing side item progress =>
      have asked := follows.asked_write doing
      cases progress with
      | locking =>
          obtain ⟨rfl, chunks⟩ := left.of_steady active (by simp [doing])
          rw [chunksOf_abandon_of_outside (by simp [doing]), chunks]
          exact ⟨rfl, .before asked⟩
      | writing =>
          obtain ⟨rfl, chunks⟩ := left.of_steady active (by simp [doing])
          rw [chunksOf_abandon_of_writing doing, chunks]
          exact ⟨rfl, .inside asked⟩
      | flushing =>
          obtain ⟨rfl, chunks⟩ := left.of_flushing doing
          rw [chunksOf_abandon_of_outside (by simp [doing]), chunks, wholes_add]
          exact ⟨rfl, .inside asked⟩
  | returned | crashed =>
      rw [doing] at active
      cases active

omit [DecidableEq Task] in
/-- A task that has crashed accounts for what it has left. -/
theorem CutOff.left {state : State} {joined : Bool} {items : Side → List Item}
    {chunks : Side → List (Chunk Task Item)} (off : CutOff program task state items chunks) :
    Left program task ⟨state, .crashed, joined⟩ items none chunks := by
  cases off with
  | reading | before => exact .crashed rfl rfl
  | inside asked => exact .crashedWriting rfl asked rfl

theorem LocalProof.start_accounts (proof : LocalProof program good) (task : Task) :
    Accounts program good task [] program.initial := by
  refine ⟨follows_enter _, fun _ => [], none, proof.start task, ?_⟩
  exact left_enter task (program.start task) fun _ => []

/-- A task enters a state that is good for what it has read and written. -/
theorem accounts_enter {state : State} {items : Side → List Item}
    (good_state : good task state (inputs task events) items none)
    (chunks : system.chunksOf (some task) = wholes task items) :
    Accounts program good task events (program.enter system task state) := by
  have worker : (program.enter system task state).worker task =
      ⟨state, program.status state, false⟩ := by
    simp [enter]
  refine ⟨worker ▸ follows_enter state, items, none, ?_, ?_⟩
  · rw [worker]
    exact good_state
  · rw [worker, enter, System.chunksOf_setWorker, chunks]
    exact left_enter task state items

/-- A task ends, and may leave an item that it has cut off. -/
theorem accounts_finish {state : State} {items : Side → List Item} {cut : Option (Side × Item)}
    (finishes : (program.request state).isFinish = true)
    (good_state : good task state (inputs task events) items cut)
    (chunks : system.chunksOf (some task) = chunksFor task items cut) :
    Accounts program good task events (program.enter system task state) := by
  have worker : (program.enter system task state).worker task =
      ⟨state, program.status state, false⟩ := by
    simp [enter]
  refine ⟨worker ▸ follows_enter state, items, cut, ?_, ?_⟩
  · rw [worker]
    exact good_state
  · rw [worker, enter, System.chunksOf_setWorker, chunks]
    exact left_enter_finish task finishes items cut

/-- A task stays in its state, but what it is doing changes. -/
theorem accounts_setStatus {status : Status Side Item Outcome} (items : Side → List Item)
    (cut : Option (Side × Item))
    (follows : Follows program { system.worker task with status })
    (good_state : good task (system.worker task).state (inputs task events) items cut)
    (left : Left program task { system.worker task with status } items cut
      (system.chunksOf (some task))) :
    Accounts program good task events (system.setStatus task status) := by
  have worker : (system.setStatus task status).worker task =
      { system.worker task with status } := by
    simp [System.setStatus]
  rw [Accounts, worker, System.setStatus, System.chunksOf_setWorker]
  exact ⟨follows, items, cut, good_state, left⟩

/-- A task that is cancelled accounts for what it has left. -/
theorem LocalProof.cancel_accounts (proof : LocalProof program good) {choice : Choice}
    {items : Side → List Item}
    (good_state : good task (system.worker task).state (inputs task events) items none)
    (off : CutOff program task (system.worker task).state items
      ((system.abandon task).chunksOf (some task))) :
    Accounts program good task events (program.enter (system.abandon task) task
      (program.cancelled (system.worker task).state choice)) := by
  generalize cut_off : (system.abandon task).chunksOf (some task) = chunks at off
  cases off with
  | reading asked =>
      have finishes := program.cancelled_finishes (by rw [asked]; rfl) choice
      exact accounts_finish finishes (proof.cancelledReading good_state asked choice) cut_off
  | before asked =>
      have finishes := program.cancelled_finishes (by rw [asked]; rfl) choice
      exact accounts_finish finishes (proof.cancelledWriting good_state asked choice).1 cut_off
  | @inside side item whole asked =>
      have finishes := program.cancelled_finishes (by rw [asked]; rfl) choice
      obtain ⟨_, part, all⟩ := proof.cancelledWriting good_state asked choice
      cases whole with
      | false => exact accounts_finish finishes part cut_off
      | true =>
          refine accounts_finish finishes all (cut_off.trans ?_)
          exact (wholes_add task items side item).symm

/-- A step of the task keeps its accounts. -/
theorem LocalProof.step_accounts [DecidableEq Item] (proof : LocalProof program good)
    (accounts : Accounts program good task events system)
    (step : program.Step system event next) (own : event.actor = some task) :
    Accounts program good task (events ++ [event]) next := by
  obtain ⟨follows, items, cut, good_state, left⟩ := accounts
  have silent (same : inputs task [event] = []) :
      inputs task events = inputs task (events ++ [event]) := by
    rw [inputs_append, same, List.append_nil]
  cases step with
  | receive reading =>
      cases own
      obtain ⟨rfl, chunks⟩ := left.of_steady (by rw [reading]; rfl) (by simp [reading])
      refine accounts_enter ?_ chunks
      have asked := follows.asked_read reading
      rw [inputs_append]
      simpa [inputs] using proof.received good_state asked _
  | lock waiting free =>
      cases own
      obtain ⟨rfl, chunks⟩ := left.of_steady (by rw [waiting]; rfl) (by simp [waiting])
      refine accounts_setStatus items none ?_ (silent rfl ▸ good_state) ?_
      · exact follows.asked_write waiting
      · rw [System.chunksOf_hold, chunks]
        exact .steady rfl (by simp) rfl
  | @put _ side item writing guarded =>
      cases own
      obtain ⟨rfl, chunks⟩ := left.of_steady (by rw [writing]; rfl) (by simp [writing])
      refine accounts_setStatus items none ?_ (silent rfl ▸ good_state) ?_
      · exact follows.asked_write writing
      · rw [System.chunksOf_push_self system side ⟨some task, item, true⟩, chunks]
        exact .flushing rfl rfl
  | @putBare _ side item writing bare =>
      cases own
      obtain ⟨rfl, chunks⟩ := left.of_steady (by rw [writing]; rfl) (by simp [writing])
      have asked := follows.asked_write writing
      refine accounts_enter (silent rfl ▸ proof.written good_state asked) ?_
      rw [System.chunksOf_push_self system side ⟨some task, item, true⟩, chunks, wholes_add]
      rfl
  | @flush _ side item flushing =>
      cases own
      obtain ⟨rfl, chunks⟩ := left.of_flushing flushing
      have asked := follows.asked_write flushing
      refine accounts_enter (silent rfl ▸ proof.written good_state asked) ?_
      rw [System.chunksOf_hold, chunks]
  | @fail _ fault side item progress inside entered =>
      cases own
      have asked := follows.asked_write inside
      have finishes := program.failed_finishes asked fault
      cases progress with
      | locking => exact absurd rfl entered
      | writing =>
          obtain ⟨rfl, chunks⟩ := left.of_steady (by rw [inside]; rfl) (by simp [inside])
          refine accounts_finish finishes (silent rfl ▸ (proof.failed good_state asked fault).1) ?_
          rw [chunksOf_abandon_of_writing inside, chunks]
          rfl
      | flushing =>
          obtain ⟨rfl, chunks⟩ := left.of_flushing inside
          refine accounts_finish finishes (silent rfl ▸ (proof.failed good_state asked fault).2) ?_
          rw [chunksOf_abandon_of_outside (by simp [inside]), chunks]
          rfl
  | @cancel _ choice decided active =>
      cases own
      obtain ⟨rfl, off⟩ := left.cutOff follows active
      exact proof.cancel_accounts (silent rfl ▸ good_state) off
  | crash active =>
      cases own
      obtain ⟨rfl, off⟩ := left.cutOff follows active
      refine accounts_setStatus items none trivial ?_ ?_
      · rw [System.worker_abandon]
        exact silent rfl ▸ good_state
      · rw [System.worker_abandon]
        exact off.left
  | joinReturned fresh ended | joinCrashed fresh ended =>
      cases own
      rw [Accounts, System.worker_join, Function.update_self, System.chunksOf_join]
      exact ⟨follows, items, cut, silent rfl ▸ good_state, left.joined⟩
  | interrupt | drain | skip | farewell => cases own

/-- Every step keeps the accounts of every task. -/
theorem LocalProof.keeps [DecidableEq Item] (proof : LocalProof program good)
    (accounts : Accounts program good task events system)
    (step : program.Step system event next) :
    Accounts program good task (events ++ [event]) next := by
  by_cases own : event.actor = some task
  · exact proof.step_accounts accounts step own
  · obtain ⟨worker, chunks⟩ := step.frame own
    rw [Accounts, worker, chunks, inputs_append, inputs_of_other own, List.append_nil]
    exact accounts

/-- A local proof holds of every task after every run. -/
theorem LocalProof.holds [DecidableEq Item] (proof : LocalProof program good)
    (ran : program.run events = some system) (task : Task) :
    Accounts program good task events system :=
  run_induction (Accounts program good task) (proof.start_accounts task)
    (fun _ _ _ _ => proof.keeps) ran

omit [DecidableEq Task] in
/-- The proof that asks nothing. -/
theorem localProof_trivial (program : Program Task Side State Input Item Fault Choice Outcome) :
    LocalProof program fun _ _ _ _ _ => True where
  start _ := trivial
  received _ _ _ := trivial
  written _ _ := trivial
  failed _ _ _ := ⟨trivial, trivial⟩
  cancelledReading _ _ _ := trivial
  cancelledWriting _ _ _ := ⟨trivial, trivial, trivial⟩

theorem whole_of_chunksFor {written : Side → List Item} {lost : Option (Side × Item)}
    (chunks : system.chunksOf (some task) = chunksFor task written lost) :
    system.whole task = written := by
  funext side
  rw [System.whole, chunks]
  cases lost with
  | none => simp [chunksFor, wholes, List.filter_map, Function.comp_def]
  | some pair =>
      obtain ⟨place, item⟩ := pair
      by_cases here : side = place
      · subst here
        simp [chunksFor, add, wholes, List.filter_map, Function.comp_def]
      · simp [chunksFor, add, wholes, here, List.filter_map, Function.comp_def]

/-- What a task has left in the sinks after every run: the items that its code accounts for, the
item of the write that it is about to leave, and at last at most one that is cut off. -/
theorem LocalProof.contents [DecidableEq Item] (proof : LocalProof program good)
    (ran : program.run events = some system) (task : Task) :
    ∃ items cut lost, good task (system.worker task).state (inputs task events) items cut ∧
      system.chunksOf (some task) = chunksFor task (system.whole task) lost ∧
      (lost.isSome = true → (system.worker task).status.isActive = false) ∧
      ((system.whole task = items ∧ lost = cut) ∨ (cut = none ∧ ∃ side item,
        program.request (system.worker task).state = .write side item ∧
          ((system.whole task = add items side item ∧ lost = none) ∨
            (system.whole task = items ∧ lost = some (side, item))))) := by
  obtain ⟨follows, items, cut, good_state, left⟩ := proof.holds ran task
  obtain ⟨written, lost, chunks, ended, accounted⟩ := left.tidy follows
  rw [whole_of_chunksFor chunks]
  exact ⟨items, cut, lost, good_state, chunks, ended, accounted⟩

end LocalProofs

end Program

end SupervisedTasks
