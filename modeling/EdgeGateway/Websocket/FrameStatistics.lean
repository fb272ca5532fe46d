import EdgeGateway.Websocket.MessageSequence

/-!
# Statistics of the frames of one direction

A pump counts the frames it reads while it reads them.  The reference is the list of these frames:
how many there are, how long they are, and how long the pauses between them.  The counters start
with values that a frame can have as well, and where it has them they miss a pause or a length.
-/

namespace EdgeGateway.Websocket

open Machine

/-! ## The counters -/

/-- What a pump is doing. -/
inductive RelayStage
  | awaitingRead
  | waitingWriterLock
  | writingDataFrame
  | writingControlFrame
  | writingStreamBytes
  | flushingFrame
  | peerClosed
  | cancelled
  | ended
deriving DecidableEq, Repr

/-- The counters of one direction, as their values. -/
structure DirectionDiagnostics where
  enabled : Bool
  detailed : Bool
  stage : RelayStage
  readFrames : Nat
  forwardedFrames : Nat
  readBytes : Nat
  forwardedBytes : Nat
  smallFrames : Nat
  controlFrames : Nat
  minimumFrameBytes : Nat
  maximumFrameBytes : Nat
  lastFrameElapsedMs : Nat
  lastReadElapsedMs : Nat
  lastWriteElapsedMs : Nat
  lastActivityElapsedMs : Nat
  maxInterFrameGapMs : Nat
  lastFrameOpcode : Option OpCode
  lastFrameFin : Bool
  lastFramePayloadBytes : Nat

namespace DirectionDiagnostics

def new (enabled detailed : Bool) : DirectionDiagnostics where
  enabled := enabled
  detailed := detailed
  stage := .awaitingRead
  readFrames := 0
  forwardedFrames := 0
  readBytes := 0
  forwardedBytes := 0
  smallFrames := 0
  controlFrames := 0
  minimumFrameBytes := wordSize - 1
  maximumFrameBytes := 0
  lastFrameElapsedMs := 0
  lastReadElapsedMs := 0
  lastWriteElapsedMs := 0
  lastActivityElapsedMs := 0
  maxInterFrameGapMs := 0
  lastFrameOpcode := none
  lastFrameFin := false
  lastFramePayloadBytes := 0

variable (diagnostics : DirectionDiagnostics)

def setStage (stage : RelayStage) : DirectionDiagnostics :=
  if !diagnostics.enabled then diagnostics else { diagnostics with stage }

def recordLastFrame (opcode : OpCode) (fin : Bool) (payloadBytes : Nat) : DirectionDiagnostics :=
  { diagnostics with
    lastFrameOpcode := some opcode
    lastFrameFin := fin
    lastFramePayloadBytes := payloadBytes }

/-- Count a frame that has been read after some milliseconds. -/
def recordRead (now : Word) (opcode : OpCode) (fin : Bool) (payloadBytes : Word) :
    DirectionDiagnostics :=
  if !diagnostics.enabled then diagnostics
  else if !diagnostics.detailed then diagnostics
  else
    let previous := diagnostics.lastFrameElapsedMs
    { diagnostics.recordLastFrame opcode fin payloadBytes.val with
      lastFrameElapsedMs := now.val
      maxInterFrameGapMs :=
        if 0 < previous then max diagnostics.maxInterFrameGapMs (now.val - previous)
        else diagnostics.maxInterFrameGapMs
      lastActivityElapsedMs := now.val
      lastReadElapsedMs := now.val
      readFrames := wrappingAdd diagnostics.readFrames 1
      readBytes := wrappingAdd diagnostics.readBytes payloadBytes.val
      smallFrames :=
        if payloadBytes.val ≤ 1024 then wrappingAdd diagnostics.smallFrames 1
        else diagnostics.smallFrames
      minimumFrameBytes := min diagnostics.minimumFrameBytes payloadBytes.val
      maximumFrameBytes := max diagnostics.maximumFrameBytes payloadBytes.val }

/-- Count a frame that has been written; the clock is read twice. -/
def recordForwarded (now later : Word) (payloadBytes : Word) : DirectionDiagnostics :=
  if !diagnostics.enabled then diagnostics
  else
    let diagnostics := { diagnostics with
      forwardedFrames := wrappingAdd diagnostics.forwardedFrames 1
      forwardedBytes := wrappingAdd diagnostics.forwardedBytes payloadBytes.val }
    if !diagnostics.detailed then diagnostics.setStage .awaitingRead
    else
      let diagnostics := { diagnostics with
        lastActivityElapsedMs := now.val
        lastWriteElapsedMs := later.val }
      diagnostics.setStage .awaitingRead

def recordControlFrame (now : Word) (opcode : OpCode) (fin : Bool) (payloadBytes : Word) :
    DirectionDiagnostics :=
  if !diagnostics.detailed then diagnostics
  else
    let diagnostics := { diagnostics with
      controlFrames := wrappingAdd diagnostics.controlFrames 1
      lastActivityElapsedMs := now.val
      lastReadElapsedMs := now.val }
    diagnostics.recordLastFrame opcode fin payloadBytes.val

end DirectionDiagnostics

def opcodeName : Option OpCode → String
  | some .continuation => "continuation"
  | some .text => "text"
  | some .binary => "binary"
  | some .close => "close"
  | some .ping => "ping"
  | some .pong => "pong"
  | none => "none"

/-- What is reported of the counters. -/
structure DirectionSnapshot where
  stage : RelayStage
  readFrames : Nat
  forwardedFrames : Nat
  readBytes : Nat
  forwardedBytes : Nat
  smallFrames : Nat
  controlFrames : Nat
  minimumFrameBytes : Option Nat
  maximumFrameBytes : Nat
  maxInterFrameGapMs : Nat
  lastActivityIdleMs : Nat
  lastReadIdleMs : Nat
  lastWriteIdleMs : Nat
  lastFrameOpcode : String
  lastFrameFin : Bool
  lastFramePayloadBytes : Nat

def DirectionDiagnostics.snapshot (diagnostics : DirectionDiagnostics) (elapsed : Word) :
    DirectionSnapshot where
  stage := diagnostics.stage
  readFrames := diagnostics.readFrames
  forwardedFrames := diagnostics.forwardedFrames
  readBytes := diagnostics.readBytes
  forwardedBytes := diagnostics.forwardedBytes
  smallFrames := diagnostics.smallFrames
  controlFrames := diagnostics.controlFrames
  minimumFrameBytes :=
    if diagnostics.minimumFrameBytes ≠ wordSize - 1 then some diagnostics.minimumFrameBytes
    else none
  maximumFrameBytes := diagnostics.maximumFrameBytes
  maxInterFrameGapMs := diagnostics.maxInterFrameGapMs
  lastActivityIdleMs := elapsed.val - diagnostics.lastActivityElapsedMs
  lastReadIdleMs := elapsed.val - diagnostics.lastReadElapsedMs
  lastWriteIdleMs := elapsed.val - diagnostics.lastWriteElapsedMs
  lastFrameOpcode := opcodeName diagnostics.lastFrameOpcode
  lastFrameFin := diagnostics.lastFrameFin
  lastFramePayloadBytes := diagnostics.lastFramePayloadBytes

/-! ## The frames that were read -/

/-- What a pump records. -/
inductive PumpRecord
  | read (now : Word) (opcode : OpCode) (fin : Bool) (payloadBytes : Word)
  | forwarded (now later : Word) (payloadBytes : Word)
  | control (now : Word) (opcode : OpCode) (fin : Bool) (payloadBytes : Word)
  | stage (stage : RelayStage)
deriving DecidableEq

def DirectionDiagnostics.record (diagnostics : DirectionDiagnostics) :
    PumpRecord → DirectionDiagnostics
  | .read now opcode fin payloadBytes => diagnostics.recordRead now opcode fin payloadBytes
  | .forwarded now later payloadBytes => diagnostics.recordForwarded now later payloadBytes
  | .control now opcode fin payloadBytes =>
      diagnostics.recordControlFrame now opcode fin payloadBytes
  | .stage stage => diagnostics.setStage stage

/-- The counters of a pump that observes in detail. -/
def observed (records : List PumpRecord) : DirectionDiagnostics :=
  records.foldl DirectionDiagnostics.record (.new true true)

/-- The read frames, each with its time and its length. -/
def framesRead (records : List PumpRecord) : List (Nat × Nat) :=
  records.filterMap fun record =>
    match record with
    | .read now _ _ payloadBytes => some (now.val, payloadBytes.val)
    | _ => none

/-- The longest pause between consecutive times. -/
def longestPause : List Nat → Nat
  | first :: second :: times => max (second - first) (longestPause (second :: times))
  | _ => 0

/-- The counters agree with the frames that were read. -/
structure Exact (frames : List (Nat × Nat)) (snapshot : DirectionSnapshot) : Prop where
  readFrames : snapshot.readFrames = frames.length
  readBytes : snapshot.readBytes = (frames.map Prod.snd).sum % wordSize
  smallFrames : snapshot.smallFrames = frames.countP fun frame => frame.2 ≤ 1024
  minimumFrameBytes : snapshot.minimumFrameBytes = (frames.map Prod.snd).min?
  maximumFrameBytes : snapshot.maximumFrameBytes = (frames.map Prod.snd).max?.getD 0
  maxInterFrameGapMs : snapshot.maxInterFrameGapMs = longestPause (frames.map Prod.fst)

/-! ## Pauses -/

/-- The longest pause as the pump measures it: not after a frame at time zero. -/
def measuredPause : List Nat → Nat
  | first :: second :: times =>
      max (if 0 < first then second - first else 0) (measuredPause (second :: times))
  | _ => 0

/-- A frame at time zero has a later one behind it, and no pause after that is as long as the one
between them. -/
def MissesPause (times : List Nat) : Prop :=
  ∃ front next rest, times = front ++ 0 :: next :: rest ∧ longestPause (next :: rest) < next

theorem measuredPause_zero (times : List Nat) :
    measuredPause (0 :: times) = measuredPause times := by
  cases times with
  | nil => rfl
  | cons first times => exact Nat.zero_max _

/-- One more frame adds the pause since the last one. -/
theorem measuredPause_concat (first : Nat) (times : List Nat) (time : Nat) :
    measuredPause (first :: (times ++ [time])) = max (measuredPause (first :: times))
      (if 0 < times.getLast?.getD first then time - times.getLast?.getD first else 0) := by
  induction times generalizing first with
  | nil => exact Nat.max_comm _ _
  | cons second times ih =>
      rw [List.cons_append, measuredPause, ih, measuredPause, List.getLast?_cons, max_assoc]
      rfl

theorem measuredPause_of_pos {times : List Nat} (positive : ∀ time ∈ times, 0 < time) :
    measuredPause times = longestPause times := by
  induction times with
  | nil => rfl
  | cons first times ih =>
      rw [List.forall_mem_cons] at positive
      cases times with
      | nil => rfl
      | cons second times => rw [measuredPause, longestPause, if_pos positive.1, ih positive.2]

theorem missesPause_cons {first second : Nat} {times : List Nat} :
    MissesPause (first :: second :: times) ↔
      (first = 0 ∧ longestPause (second :: times) < second) ∨ MissesPause (second :: times) := by
  constructor
  · rintro ⟨front, next, rest, same, missed⟩
    cases front with
    | nil =>
        obtain ⟨rfl, behind⟩ := List.cons.inj same
        obtain ⟨rfl, rfl⟩ := List.cons.inj behind
        exact .inl ⟨rfl, missed⟩
    | cons other front =>
        obtain ⟨rfl, behind⟩ := List.cons.inj same
        exact .inr ⟨front, next, rest, behind, missed⟩
  · rintro (⟨rfl, missed⟩ | ⟨front, next, rest, same, missed⟩)
    · exact ⟨[], second, times, rfl, missed⟩
    · exact ⟨first :: front, next, rest, by rw [same, List.cons_append], missed⟩

theorem not_missesPause_of_pos {times : List Nat} (positive : ∀ time ∈ times, 0 < time) :
    ¬MissesPause times := by
  rintro ⟨front, next, rest, rfl, _⟩
  exact absurd (positive 0 (by simp)) (Nat.lt_irrefl 0)

/-- The pump measures the longest pause unless it misses that. -/
theorem measuredPause_eq_iff {times : List Nat} (ordered : times.Pairwise (· ≤ ·)) :
    measuredPause times = longestPause times ↔ ¬MissesPause times := by
  induction times with
  | nil => simp [measuredPause, longestPause, MissesPause]
  | cons first times ih =>
      obtain ⟨least, rest_ordered⟩ := List.pairwise_cons.mp ordered
      cases times with
      | nil =>
          have single : ¬MissesPause [first] := by
            rintro ⟨_ | ⟨_, front⟩, next, rest, same, _⟩
            · cases same
            · simp at same
          simp [measuredPause, longestPause, single]
      | cons second times =>
          rcases Nat.eq_zero_or_pos first with rfl | later
          · rw [measuredPause_zero, longestPause, Nat.sub_zero, missesPause_cons]
            rcases Nat.eq_zero_or_pos second with rfl | pause
            · rw [Nat.zero_max, ih rest_ordered]
              simp
            · have positive : ∀ time ∈ second :: times, 0 < time := by
                rw [List.forall_mem_cons]
                refine ⟨pause, fun time member => Nat.lt_of_lt_of_le pause ?_⟩
                exact (List.pairwise_cons.mp rest_ordered).1 time member
              have nothing := not_missesPause_of_pos positive
              have longest : longestPause (second :: times) =
                  max second (longestPause (second :: times)) ↔
                    ¬longestPause (second :: times) < second := by omega
              rw [measuredPause_of_pos positive, longest]
              simp [nothing]
          · have positive : ∀ time ∈ first :: second :: times, 0 < time := by
              rw [List.forall_mem_cons]
              exact ⟨later, fun time member => Nat.lt_of_lt_of_le later (least time member)⟩
            simp [measuredPause_of_pos positive, not_missesPause_of_pos positive]

/-! ## What the counters hold -/

/-- The counters in terms of the frames that were read. -/
structure Counted (frames : List (Nat × Nat)) (diagnostics : DirectionDiagnostics) : Prop where
  enabled : diagnostics.enabled = true
  detailed : diagnostics.detailed = true
  readFrames : diagnostics.readFrames = frames.length % wordSize
  readBytes : diagnostics.readBytes = (frames.map Prod.snd).sum % wordSize
  smallFrames : diagnostics.smallFrames =
    (frames.countP fun frame => frame.2 ≤ 1024) % wordSize
  minimumFrameBytes : diagnostics.minimumFrameBytes =
    (frames.map Prod.snd).foldl min (wordSize - 1)
  maximumFrameBytes : diagnostics.maximumFrameBytes = (frames.map Prod.snd).foldl max 0
  lastFrameElapsedMs : diagnostics.lastFrameElapsedMs = (frames.map Prod.fst).getLast?.getD 0
  maxInterFrameGapMs : diagnostics.maxInterFrameGapMs = measuredPause (frames.map Prod.fst)

theorem new_counted : Counted [] (.new true true) :=
  ⟨rfl, rfl, rfl, rfl, rfl, rfl, rfl, rfl, rfl⟩

variable {frames : List (Nat × Nat)} {diagnostics : DirectionDiagnostics}

theorem Counted.read (counted : Counted frames diagnostics) (now : Word) (opcode : OpCode)
    (fin : Bool) (payloadBytes : Word) :
    Counted (frames ++ [(now.val, payloadBytes.val)])
      (diagnostics.recordRead now opcode fin payloadBytes) := by
  have pause := measuredPause_concat 0 (frames.map Prod.fst) now.val
  rw [measuredPause_zero, measuredPause_zero, ← counted.lastFrameElapsedMs,
    ← counted.maxInterFrameGapMs] at pause
  simp only [DirectionDiagnostics.recordRead, counted.enabled, counted.detailed, Bool.not_true,
    Bool.false_eq_true, if_false]
  refine ⟨counted.enabled, counted.detailed, ?_, ?_, ?_, ?_, ?_, ?_, ?_⟩
  · simp only [counted.readFrames, wrappingAdd_mod, List.length_append, List.length_singleton]
  · simp only [counted.readBytes, wrappingAdd_mod, List.map_append, List.sum_append, List.map_cons,
      List.map_nil, List.sum_singleton]
  · simp only [counted.smallFrames, wrappingAdd_mod, List.countP_append, List.countP_singleton,
      decide_eq_true_eq]
    split_ifs
    · rfl
    · rw [Nat.add_zero]
  · simp only [counted.minimumFrameBytes, List.map_append, List.foldl_append, List.map_cons,
      List.map_nil, List.foldl_cons, List.foldl_nil]
  · simp only [counted.maximumFrameBytes, List.map_append, List.foldl_append, List.map_cons,
      List.map_nil, List.foldl_cons, List.foldl_nil]
  · simp
  · simp only [List.map_append, List.map_cons, List.map_nil, pause]
    split_ifs
    · rfl
    · rw [Nat.max_zero]

theorem Counted.forwarded (counted : Counted frames diagnostics) (now later payloadBytes : Word) :
    Counted frames (diagnostics.recordForwarded now later payloadBytes) := by
  simp only [DirectionDiagnostics.recordForwarded, DirectionDiagnostics.setStage, counted.enabled,
    counted.detailed, Bool.not_true, Bool.false_eq_true, if_false]
  exact { counted with enabled := rfl, detailed := rfl }

theorem Counted.control (counted : Counted frames diagnostics) (now : Word) (opcode : OpCode)
    (fin : Bool) (payloadBytes : Word) :
    Counted frames (diagnostics.recordControlFrame now opcode fin payloadBytes) := by
  simp only [DirectionDiagnostics.recordControlFrame, counted.detailed, Bool.not_true,
    Bool.false_eq_true, if_false]
  exact { counted with detailed := rfl }

theorem Counted.stage (counted : Counted frames diagnostics) (stage : RelayStage) :
    Counted frames (diagnostics.setStage stage) := by
  simp only [DirectionDiagnostics.setStage, counted.enabled, Bool.not_true, Bool.false_eq_true,
    if_false]
  exact { counted with enabled := rfl }

/-- Whatever else the pump records, the counters are those of the frames it has read. -/
theorem observed_counted (records : List PumpRecord) :
    Counted (framesRead records) (observed records) := by
  induction records using List.reverseRecOn with
  | nil => exact new_counted
  | append_singleton records record ih =>
      have more : framesRead (records ++ [record]) = framesRead records ++ framesRead [record] :=
        List.filterMap_append
      rw [observed, List.foldl_concat, more]
      cases record with
      | read now opcode fin payloadBytes => exact ih.read now opcode fin payloadBytes
      | forwarded now later payloadBytes =>
          have none : framesRead [.forwarded now later payloadBytes] = [] := rfl
          rw [none, List.append_nil]
          exact ih.forwarded now later payloadBytes
      | control now opcode fin payloadBytes =>
          have none : framesRead [.control now opcode fin payloadBytes] = [] := rfl
          rw [none, List.append_nil]
          exact ih.control now opcode fin payloadBytes
      | stage stage =>
          have none : framesRead [.stage stage] = [] := rfl
          rw [none, List.append_nil]
          exact ih.stage stage

/-! ## When the statistics are exact -/

/-- There are frames, and each has the length that the counter of the least one starts with. -/
def AllLongest (lengths : List Nat) : Prop :=
  lengths ≠ [] ∧ ∀ length ∈ lengths, length = wordSize - 1

theorem length_lt_of_mem_framesRead {records : List PumpRecord} {length : Nat}
    (member : length ∈ (framesRead records).map Prod.snd) : length < wordSize := by
  obtain ⟨frame, found, rfl⟩ := List.mem_map.mp member
  obtain ⟨record, _, read⟩ := List.mem_filterMap.mp found
  split at read
  · cases read
    exact Fin.isLt _
  · cases read

/-- The least length is reported unless it is the one that stands for no frame. -/
theorem minimum_eq_iff {lengths : List Nat} (words : ∀ length ∈ lengths, length < wordSize) :
    (if lengths.foldl min (wordSize - 1) ≠ wordSize - 1 then
        some (lengths.foldl min (wordSize - 1)) else none) = lengths.min? ↔
      ¬AllLongest lengths := by
  rw [List.foldl_min]
  cases least : lengths.min? with
  | none =>
      have empty : lengths = [] := List.min?_eq_none_iff.mp least
      simp [AllLongest, empty]
  | some length =>
      obtain ⟨member, below⟩ := List.min?_eq_some_iff.mp least
      have word := words length member
      have nonempty : lengths ≠ [] := List.ne_nil_of_mem member
      have longest : AllLongest lengths ↔ length = wordSize - 1 := by
        constructor
        · exact fun all => all.2 length member
        · rintro rfl
          refine ⟨nonempty, fun other found => ?_⟩
          have := words other found
          have := below other found
          omega
      rw [Option.getD_some, Nat.min_eq_right (by omega), longest]
      split_ifs with shown
      · simpa using shown
      · simpa using shown

/-- The statistics of a pump are exact, unless there are too many frames to count, all of them have
the greatest length of all, or the longest pause follows a frame at time zero. -/
theorem frame_statistics_exact_iff (records : List PumpRecord) (elapsed : Word)
    (ordered : ((framesRead records).map Prod.fst).Pairwise (· ≤ ·)) :
    Exact (framesRead records) ((observed records).snapshot elapsed) ↔
      (framesRead records).length < wordSize ∧
        ¬AllLongest ((framesRead records).map Prod.snd) ∧
        ¬MissesPause ((framesRead records).map Prod.fst) := by
  have counted := observed_counted records
  have words : ∀ length ∈ (framesRead records).map Prod.snd, length < wordSize :=
    fun _ member => length_lt_of_mem_framesRead member
  have minimum := minimum_eq_iff words
  have pause := measuredPause_eq_iff ordered
  rw [← counted.minimumFrameBytes] at minimum
  rw [← counted.maxInterFrameGapMs] at pause
  rw [← minimum, ← pause]
  constructor
  · intro agrees
    refine ⟨?_, agrees.minimumFrameBytes, agrees.maxInterFrameGapMs⟩
    have word : (observed records).readFrames < wordSize := by
      rw [counted.readFrames]
      exact Nat.mod_lt _ wordSize_pos
    rw [← agrees.readFrames]
    exact word
  · rintro ⟨few, least, longest⟩
    have smalls : ((framesRead records).countP fun frame => frame.2 ≤ 1024) < wordSize :=
      Nat.lt_of_le_of_lt List.countP_le_length few
    refine ⟨?_, counted.readBytes, ?_, least, ?_, longest⟩
    · exact counted.readFrames.trans (Nat.mod_eq_of_lt few)
    · exact counted.smallFrames.trans (Nat.mod_eq_of_lt smalls)
    · exact counted.maximumFrameBytes.trans (List.foldl_max.trans (Nat.zero_max _))

/-- Two frames with a pause between them, the first of them after some milliseconds. -/
def pausedRecords (first : Nat) : List PumpRecord :=
  [.read (.ofNat first) .text true (.ofNat 5), .forwarded (.ofNat first) (.ofNat first) (.ofNat 5),
    .read (.ofNat (first + 5000)) .text true (.ofNat 5)]

theorem pause_after_zero_missed :
    ¬Exact (framesRead (pausedRecords 0))
      ((observed (pausedRecords 0)).snapshot (.ofNat 6000)) := by
  intro agrees
  exact absurd agrees.maxInterFrameGapMs (by decide)

theorem frame_statistics_exact_iff_later :
    Exact (framesRead (pausedRecords 1)) ((observed (pausedRecords 1)).snapshot (.ofNat 6000)) := by
  have ordered : ((framesRead (pausedRecords 1)).map Prod.fst).Pairwise (· ≤ ·) := by decide
  refine (frame_statistics_exact_iff (pausedRecords 1) _ ordered).mpr ⟨by decide, ?_, ?_⟩
  · exact fun all => absurd (all.2 5 (by decide)) (by decide)
  · exact not_missesPause_of_pos (by decide)

end EdgeGateway.Websocket
