import Mathlib.Data.List.Induction
import Mathlib.Logic.Function.Basic

/-!
# Supervised tasks over locked sinks

Tasks read inputs and write items into shared sinks, one task at a time behind the lock of a sink.
A supervisor waits for the first task to end or for an interruption, cancels the others, and may
write a farewell when all of them have gone.  A write that fails or is cancelled can leave a part
of its item in the sink.  The order of steps is arbitrary, so what holds after every run holds
under every interleaving.
-/

namespace SupervisedTasks

/-- What a task asks for. -/
inductive Request (Side Item Outcome : Type)
  | read
  | write (side : Side) (item : Item)
  | finish (outcome : Outcome)
deriving DecidableEq

/-- The task has come to its end. -/
def Request.isFinish {Side Item Outcome : Type} : Request Side Item Outcome → Bool
  | finish _ => true
  | _ => false

/-- Why the supervisor stops waiting. -/
inductive Verdict (Task Outcome : Type)
  | interrupted
  | first (task : Task) (outcome : Outcome)
  | crashed (task : Task)
deriving DecidableEq

/-- The code of the tasks, what each answer makes of their state, and what the supervisor writes
in the end.  A task ends when its write fails or when it is cancelled. -/
structure Program (Task Side State Input Item Fault Choice Outcome : Type) where
  tasks : List Task
  start : Task → State
  request : State → Request Side Item Outcome
  received : State → Input → State
  written : State → State
  failed : State → Fault → State
  cancelled : State → Choice → State
  /-- Sinks that are written behind a lock and flushed. -/
  guarded : Side → Bool
  farewells : Verdict Task Outcome → List (Side × Item)
  mem_tasks : ∀ task, task ∈ tasks
  failed_finishes : ∀ {state side item}, request state = .write side item →
    ∀ fault, (request (failed state fault)).isFinish = true
  cancelled_finishes : ∀ {state}, (request state).isFinish = false →
    ∀ choice, (request (cancelled state choice)).isFinish = true

/-- How far a write has come. -/
inductive WriteStep
  | locking
  | writing
  | flushing
deriving DecidableEq, Repr

/-- What a task is doing. -/
inductive Status (Side Item Outcome : Type)
  | reading
  | writing (side : Side) (item : Item) (progress : WriteStep)
  | returned (outcome : Outcome)
  | crashed
deriving DecidableEq

/-- The task still runs. -/
def Status.isActive {Side Item Outcome : Type} : Status Side Item Outcome → Bool
  | reading | writing _ _ _ => true
  | returned _ | crashed => false

/-- A task with the state of its code. -/
structure Worker (Side State Item Outcome : Type) where
  state : State
  status : Status Side Item Outcome
  joined : Bool

/-- What one write has left in a sink: all of an item, or a part of it. -/
structure Chunk (Task Item : Type) where
  /-- The task, or the supervisor. -/
  writer : Option Task
  item : Item
  whole : Bool
deriving DecidableEq

/-- A sink with the task that holds its lock. -/
structure Sink (Task Item : Type) where
  holder : Option Task
  chunks : List (Chunk Task Item)

/-- Where the supervisor is; in the end, with the farewells that are left. -/
inductive Phase (Task Side Item Outcome : Type)
  | running
  | draining (verdict : Verdict Task Outcome)
  | leaving (verdict : Verdict Task Outcome) (remaining : List (Side × Item))
deriving DecidableEq

/-- The tasks, their sinks and their supervisor. -/
structure System (Task Side State Item Outcome : Type) where
  worker : Task → Worker Side State Item Outcome
  sink : Side → Sink Task Item
  phase : Phase Task Side Item Outcome

/-- What can happen next. -/
inductive Event (Task Side Input Item Fault Choice : Type)
  | receive (task : Task) (input : Input)
  | lock (task : Task)
  | put (task : Task)
  | flush (task : Task)
  | fail (task : Task) (fault : Fault)
  | cancel (task : Task) (choice : Choice)
  | crash (task : Task)
  | join (task : Task)
  | interrupt
  | drain
  | farewell (side : Side) (item : Item) (written : Option Bool)
deriving DecidableEq

variable {Task Side State Input Item Fault Choice Outcome : Type}

/-- The inputs that a task has received. -/
def inputs [DecidableEq Task] (task : Task)
    (events : List (Event Task Side Input Item Fault Choice)) : List Input :=
  events.filterMap fun event =>
    match event with
    | .receive other input => if other = task then some input else none
    | _ => none

/-! ## Steps -/

namespace System

section Operations

variable [DecidableEq Task] [DecidableEq Side]

def setWorker (system : System Task Side State Item Outcome) (task : Task)
    (worker : Worker Side State Item Outcome) : System Task Side State Item Outcome :=
  { system with worker := Function.update system.worker task worker }

def setStatus (system : System Task Side State Item Outcome) (task : Task)
    (status : Status Side Item Outcome) : System Task Side State Item Outcome :=
  system.setWorker task { system.worker task with status }

/-- Leave a chunk in a sink. -/
def push (system : System Task Side State Item Outcome) (side : Side) (chunk : Chunk Task Item) :
    System Task Side State Item Outcome :=
  { system with
    sink := Function.update system.sink side
      { system.sink side with chunks := (system.sink side).chunks ++ [chunk] } }

/-- Set the holder of a lock. -/
def hold (system : System Task Side State Item Outcome) (side : Side) (holder : Option Task) :
    System Task Side State Item Outcome :=
  { system with sink := Function.update system.sink side { system.sink side with holder } }

/-- Give a write up: an item that is being written stays there in part. -/
def abandon (system : System Task Side State Item Outcome) (task : Task) :
    System Task Side State Item Outcome :=
  match (system.worker task).status with
  | .writing side item .writing => (system.push side ⟨some task, item, false⟩).hold side none
  | .writing side _ .flushing => system.hold side none
  | _ => system

/-- Take the result of a task; the first one decides. -/
def join (system : System Task Side State Item Outcome) (task : Task)
    (verdict : Verdict Task Outcome) : System Task Side State Item Outcome :=
  let system := system.setWorker task { system.worker task with joined := true }
  match system.phase with
  | .running => { system with phase := .draining verdict }
  | _ => system

/-- The chunks of one writer in a sink. -/
def chunksOf (system : System Task Side State Item Outcome) (writer : Option Task) (side : Side) :
    List (Chunk Task Item) :=
  (system.sink side).chunks.filter fun chunk => chunk.writer = writer

end Operations

section Projections

variable (system : System Task Side State Item Outcome) (task : Task)

section Workers

variable [DecidableEq Task]

@[simp] theorem worker_setWorker (worker : Worker Side State Item Outcome) :
    (system.setWorker task worker).worker = Function.update system.worker task worker := rfl

@[simp] theorem sink_setWorker (worker : Worker Side State Item Outcome) :
    (system.setWorker task worker).sink = system.sink := rfl

@[simp] theorem phase_setWorker (worker : Worker Side State Item Outcome) :
    (system.setWorker task worker).phase = system.phase := rfl

@[simp] theorem worker_join (verdict : Verdict Task Outcome) :
    (system.join task verdict).worker =
      Function.update system.worker task { system.worker task with joined := true } := by
  simp only [join]
  split
  all_goals rfl

@[simp] theorem sink_join (verdict : Verdict Task Outcome) :
    (system.join task verdict).sink = system.sink := by
  simp only [join]
  split
  all_goals rfl

@[simp] theorem chunksOf_setWorker (worker : Worker Side State Item Outcome)
    (writer : Option Task) :
    (system.setWorker task worker).chunksOf writer = system.chunksOf writer := rfl

@[simp] theorem chunksOf_join (verdict : Verdict Task Outcome) (writer : Option Task) :
    (system.join task verdict).chunksOf writer = system.chunksOf writer := by
  funext side
  rw [chunksOf, sink_join]
  rfl

end Workers

section Sinks

variable [DecidableEq Side]

@[simp] theorem worker_push (side : Side) (chunk : Chunk Task Item) :
    (system.push side chunk).worker = system.worker := rfl

@[simp] theorem phase_push (side : Side) (chunk : Chunk Task Item) :
    (system.push side chunk).phase = system.phase := rfl

@[simp] theorem worker_hold (side : Side) (holder : Option Task) :
    (system.hold side holder).worker = system.worker := rfl

@[simp] theorem phase_hold (side : Side) (holder : Option Task) :
    (system.hold side holder).phase = system.phase := rfl

@[simp] theorem worker_abandon : (system.abandon task).worker = system.worker := by
  unfold abandon
  split
  all_goals rfl

@[simp] theorem phase_abandon : (system.abandon task).phase = system.phase := by
  unfold abandon
  split
  all_goals rfl

variable [DecidableEq Task]

@[simp] theorem chunksOf_hold (side : Side) (holder : Option Task) (writer : Option Task) :
    (system.hold side holder).chunksOf writer = system.chunksOf writer := by
  funext place
  by_cases same : place = side
  · subst same
    simp [chunksOf, hold]
  · simp [chunksOf, hold, same]

theorem chunksOf_push_self (side : Side) (chunk : Chunk Task Item) :
    (system.push side chunk).chunksOf chunk.writer =
      Function.update (system.chunksOf chunk.writer) side
        (system.chunksOf chunk.writer side ++ [chunk]) := by
  funext place
  by_cases same : place = side
  · subst same
    simp [chunksOf, push]
  · simp [chunksOf, push, same]

theorem chunksOf_push_other {side : Side} {chunk : Chunk Task Item} {writer : Option Task}
    (different : chunk.writer ≠ writer) :
    (system.push side chunk).chunksOf writer = system.chunksOf writer := by
  funext place
  by_cases same : place = side
  · subst same
    simp [chunksOf, push, different]
  · simp [chunksOf, push, same]

theorem chunksOf_abandon_other {writer : Option Task} (different : some task ≠ writer) :
    (system.abandon task).chunksOf writer = system.chunksOf writer := by
  unfold abandon
  split
  · rw [chunksOf_hold, chunksOf_push_other _ different]
  · rw [chunksOf_hold]
  · rfl

end Sinks

end Projections

end System

namespace Program

/-- What a task does in a state of its code. -/
def status (program : Program Task Side State Input Item Fault Choice Outcome) (state : State) :
    Status Side Item Outcome :=
  match program.request state with
  | .read => .reading
  | .write side item => .writing side item (if program.guarded side then .locking else .writing)
  | .finish outcome => .returned outcome

/-- No task has done anything. -/
def initial (program : Program Task Side State Input Item Fault Choice Outcome) :
    System Task Side State Item Outcome where
  worker task := ⟨program.start task, program.status (program.start task), false⟩
  sink _ := ⟨none, []⟩
  phase := .running

variable [DecidableEq Task] [DecidableEq Side] [DecidableEq Item]
  (program : Program Task Side State Input Item Fault Choice Outcome)

/-- A task goes on in another state of its code. -/
def enter (system : System Task Side State Item Outcome) (task : Task) (state : State) :
    System Task Side State Item Outcome :=
  system.setWorker task ⟨state, program.status state, false⟩

/-- One event, where it can happen. -/
def step (system : System Task Side State Item Outcome) :
    Event Task Side Input Item Fault Choice → Option (System Task Side State Item Outcome)
  | .receive task input =>
      match (system.worker task).status with
      | .reading =>
          some (program.enter system task (program.received (system.worker task).state input))
      | _ => none
  | .lock task =>
      match (system.worker task).status with
      | .writing side item .locking =>
          match (system.sink side).holder with
          | none =>
              some ((system.hold side (some task)).setStatus task (.writing side item .writing))
          | some _ => none
      | _ => none
  | .put task =>
      match (system.worker task).status with
      | .writing side item .writing =>
          let pushed := system.push side ⟨some task, item, true⟩
          if program.guarded side then some (pushed.setStatus task (.writing side item .flushing))
          else some (program.enter pushed task (program.written (system.worker task).state))
      | _ => none
  | .flush task =>
      match (system.worker task).status with
      | .writing side _ .flushing =>
          some (program.enter (system.hold side none) task
            (program.written (system.worker task).state))
      | _ => none
  | .fail task fault =>
      match (system.worker task).status with
      | .writing _ _ .writing | .writing _ _ .flushing =>
          some (program.enter (system.abandon task) task
            (program.failed (system.worker task).state fault))
      | _ => none
  | .cancel task choice =>
      match system.phase with
      | .running => none
      | _ =>
          if (system.worker task).status.isActive then
            some (program.enter (system.abandon task) task
              (program.cancelled (system.worker task).state choice))
          else none
  | .crash task =>
      if (system.worker task).status.isActive then
        some ((system.abandon task).setStatus task .crashed)
      else none
  | .join task =>
      if (system.worker task).joined then none
      else
        match (system.worker task).status with
        | .returned outcome => some (system.join task (.first task outcome))
        | .crashed => some (system.join task (.crashed task))
        | _ => none
  | .interrupt =>
      match system.phase with
      | .running => some { system with phase := .draining .interrupted }
      | _ => none
  | .drain =>
      match system.phase with
      | .draining verdict =>
          if program.tasks.all fun task => (system.worker task).joined then
            some { system with phase := .leaving verdict (program.farewells verdict) }
          else none
      | _ => none
  | .farewell side item written =>
      match system.phase with
      | .leaving verdict remaining =>
          if (side, item) ∈ remaining then
            let system := { system with phase := .leaving verdict (remaining.erase (side, item)) }
            match written with
            | none => some system
            | some whole =>
                match (system.sink side).holder with
                | none => some (system.push side ⟨none, item, whole⟩)
                | some _ => none
          else none
      | _ => none

/-- The system after a run. -/
def run (events : List (Event Task Side Input Item Fault Choice)) :
    Option (System Task Side State Item Outcome) :=
  events.foldlM program.step program.initial

/-! ## What a step can do -/

/-- The steps of a system, each with what it takes. -/
inductive Step (system : System Task Side State Item Outcome) :
    Event Task Side Input Item Fault Choice → System Task Side State Item Outcome → Prop
  | receive {task : Task} {input : Input} (reading : (system.worker task).status = .reading) :
      Step system (.receive task input)
        (program.enter system task (program.received (system.worker task).state input))
  | lock {task : Task} {side : Side} {item : Item}
      (waiting : (system.worker task).status = .writing side item .locking)
      (free : (system.sink side).holder = none) :
      Step system (.lock task)
        ((system.hold side (some task)).setStatus task (.writing side item .writing))
  | put {task : Task} {side : Side} {item : Item}
      (writing : (system.worker task).status = .writing side item .writing)
      (guarded : program.guarded side = true) :
      Step system (.put task)
        ((system.push side ⟨some task, item, true⟩).setStatus task (.writing side item .flushing))
  | putBare {task : Task} {side : Side} {item : Item}
      (writing : (system.worker task).status = .writing side item .writing)
      (bare : program.guarded side = false) :
      Step system (.put task)
        (program.enter (system.push side ⟨some task, item, true⟩) task
          (program.written (system.worker task).state))
  | flush {task : Task} {side : Side} {item : Item}
      (flushing : (system.worker task).status = .writing side item .flushing) :
      Step system (.flush task)
        (program.enter (system.hold side none) task (program.written (system.worker task).state))
  | fail {task : Task} {fault : Fault} {side : Side} {item : Item} {progress : WriteStep}
      (inside : (system.worker task).status = .writing side item progress)
      (entered : progress ≠ .locking) :
      Step system (.fail task fault)
        (program.enter (system.abandon task) task
          (program.failed (system.worker task).state fault))
  | cancel {task : Task} {choice : Choice} (decided : system.phase ≠ .running)
      (active : (system.worker task).status.isActive = true) :
      Step system (.cancel task choice)
        (program.enter (system.abandon task) task
          (program.cancelled (system.worker task).state choice))
  | crash {task : Task} (active : (system.worker task).status.isActive = true) :
      Step system (.crash task) ((system.abandon task).setStatus task .crashed)
  | joinReturned {task : Task} {outcome : Outcome} (fresh : (system.worker task).joined = false)
      (ended : (system.worker task).status = .returned outcome) :
      Step system (.join task) (system.join task (.first task outcome))
  | joinCrashed {task : Task} (fresh : (system.worker task).joined = false)
      (ended : (system.worker task).status = .crashed) :
      Step system (.join task) (system.join task (.crashed task))
  | interrupt (running : system.phase = .running) :
      Step system .interrupt { system with phase := .draining .interrupted }
  | drain {verdict : Verdict Task Outcome} (draining : system.phase = .draining verdict)
      (gone : ∀ task, (system.worker task).joined = true) :
      Step system .drain { system with phase := .leaving verdict (program.farewells verdict) }
  | skip {verdict : Verdict Task Outcome} {remaining : List (Side × Item)} {side : Side}
      {item : Item} (leaving : system.phase = .leaving verdict remaining)
      (left : (side, item) ∈ remaining) :
      Step system (.farewell side item none)
        { system with phase := .leaving verdict (remaining.erase (side, item)) }
  | farewell {verdict : Verdict Task Outcome} {remaining : List (Side × Item)} {side : Side}
      {item : Item} {whole : Bool} (leaving : system.phase = .leaving verdict remaining)
      (left : (side, item) ∈ remaining) (free : (system.sink side).holder = none) :
      Step system (.farewell side item (some whole))
        (({ system with phase := .leaving verdict (remaining.erase (side, item)) } :
          System Task Side State Item Outcome).push side ⟨none, item, whole⟩)

variable {program} {system next : System Task Side State Item Outcome}
  {event : Event Task Side Input Item Fault Choice}
  {events : List (Event Task Side Input Item Fault Choice)}

theorem step_cases (stepped : program.step system event = some next) :
    program.Step system event next := by
  cases event with
  | receive task input =>
      simp only [step] at stepped
      split at stepped
      case h_1 reading =>
        cases stepped
        exact .receive reading
      case h_2 => cases stepped
  | lock task =>
      simp only [step] at stepped
      split at stepped
      case h_1 side item waiting =>
        split at stepped
        case h_1 free =>
          cases stepped
          exact .lock waiting free
        case h_2 => cases stepped
      case h_2 => cases stepped
  | put task =>
      simp only [step] at stepped
      split at stepped
      case h_1 side item writing =>
        split at stepped
        case isTrue guarded =>
          cases stepped
          exact .put writing guarded
        case isFalse bare =>
          cases stepped
          exact .putBare writing (by simpa using bare)
      case h_2 => cases stepped
  | flush task =>
      simp only [step] at stepped
      split at stepped
      case h_1 side item flushing =>
        cases stepped
        exact .flush flushing
      case h_2 => cases stepped
  | fail task fault =>
      simp only [step] at stepped
      split at stepped
      case h_1 side item writing =>
        cases stepped
        exact .fail writing (by decide)
      case h_2 side item flushing =>
        cases stepped
        exact .fail flushing (by decide)
      case h_3 => cases stepped
  | cancel task choice =>
      simp only [step] at stepped
      split at stepped
      case h_1 => cases stepped
      case h_2 decided =>
        split at stepped
        case isTrue active =>
          cases stepped
          exact .cancel decided active
        case isFalse => cases stepped
  | crash task =>
      simp only [step] at stepped
      split at stepped
      case isTrue active =>
        cases stepped
        exact .crash active
      case isFalse => cases stepped
  | join task =>
      simp only [step] at stepped
      split at stepped
      case isTrue => cases stepped
      case isFalse fresh =>
        rw [Bool.not_eq_true] at fresh
        split at stepped
        case h_1 outcome ended =>
          cases stepped
          exact .joinReturned fresh ended
        case h_2 ended =>
          cases stepped
          exact .joinCrashed fresh ended
        case h_3 => cases stepped
  | interrupt =>
      simp only [step] at stepped
      split at stepped
      case h_1 running =>
        cases stepped
        exact .interrupt running
      case h_2 => cases stepped
  | drain =>
      simp only [step] at stepped
      split at stepped
      case h_1 verdict draining =>
        split at stepped
        case isTrue gone =>
          cases stepped
          exact .drain draining fun task => List.all_eq_true.mp gone task (program.mem_tasks task)
        case isFalse => cases stepped
      case h_2 => cases stepped
  | farewell side item written =>
      simp only [step] at stepped
      split at stepped
      case h_1 verdict remaining leaving =>
        split at stepped
        case isTrue left =>
          cases written with
          | none =>
              cases stepped
              exact .skip leaving left
          | some whole =>
              simp only at stepped
              split at stepped
              case h_1 free =>
                cases stepped
                exact .farewell leaving left free
              case h_2 => cases stepped
        case isFalse => cases stepped
      case h_2 => cases stepped

/-- What holds at first and is kept by every step holds after every run. -/
theorem run_induction
    (property : List (Event Task Side Input Item Fault Choice) →
      System Task Side State Item Outcome → Prop)
    (start : property [] program.initial)
    (keeps : ∀ events system event next, property events system →
      program.Step system event next → property (events ++ [event]) next)
    {events : List (Event Task Side Input Item Fault Choice)}
    {system : System Task Side State Item Outcome} (ran : program.run events = some system) :
    property events system := by
  induction events using List.reverseRecOn generalizing system with
  | nil =>
      cases ran
      exact start
  | append_singleton events event ih =>
      rw [run, List.foldlM_append, Option.bind_eq_bind, Option.bind_eq_some_iff] at ran
      obtain ⟨middle, before, last⟩ := ran
      rw [List.foldlM_cons, Option.bind_eq_bind, Option.bind_eq_some_iff] at last
      obtain ⟨result, stepped, same⟩ := last
      cases same
      exact keeps events middle event _ (ih before) (step_cases stepped)

end Program

end SupervisedTasks
