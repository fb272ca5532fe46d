import EdgeGateway.IpBlocking.State
import EdgeGateway.Library.CrashDisk
import EdgeGateway.Library.Results
import Mathlib.Data.List.Sort

/-!
# The state file of client blocking

Committed blocks are written to a temporary file, which then replaces the state file.  Every step
of the file system may fail; what the writer did until then is a list of operations on the disk.
-/

namespace EdgeGateway.IpBlocking

open CrashDisk IpAddress Security

/-- Largest accepted state file. -/
def maxStateBytes : Nat := 32 * 1024 * 1024

/-- An error of the operating system that is passed on without a context of its own. -/
def systemError : String := "operating system error"

/-- The content of the state file. -/
structure BlockFile where
  version : Nat
  blocks : List BlockRecord
deriving DecidableEq

/-- The text form of a state file: a writer and a reader that reads back what is written. -/
structure StateCodec where
  encode : BlockFile → List UInt8
  decode : List UInt8 → Option BlockFile
  decode_encode (file : BlockFile) : decode (encode file) = some file

/-- The files of the state directory: the state file, and the temporary files by their time. -/
inductive FileName
  | state
  | temporary (suffix : Nat)
deriving DecidableEq, Repr

/-- The only writer of a state file. -/
structure StateWriter where
  /-- The temporary file whose cleanup failed; it prevents creation of another one. -/
  cleanupTemp : Option Nat
deriving DecidableEq, Repr

/-! ## Writing -/

/-- Outcomes of removing a file. -/
inductive Removal
  | removed
  | notFound
  | failed
deriving DecidableEq, Repr

/-- The outcome of every step of one transaction; `write` tells what a failed one left behind. -/
structure WriteFaults where
  removeOrphan : Removal
  suffix : Option Nat
  create : Bool
  write : Option (List UInt8)
  flush : Bool
  sync : Bool
  rename : Bool
  openDirectory : Bool
  syncDirectory : Bool
  removeTemp : Removal

/-- Every step succeeds, at a given time. -/
def WriteFaults.none (suffix : Nat) : WriteFaults where
  removeOrphan := .removed
  suffix := some suffix
  create := true
  write := Option.none
  flush := true
  sync := true
  rename := true
  openDirectory := true
  syncDirectory := true
  removeTemp := .removed

/-- Operations on the disk. -/
abbrev DiskOperation := Operation FileName (List UInt8)

/-- What a transaction did, what it reports, and the writer it leaves. -/
structure Persisted where
  operations : List DiskOperation
  result : Except String Unit
  writer : StateWriter

/-- Address order: the families one after the other, each by its bits. -/
def addressLe : IpAddr → IpAddr → Bool
  | .v4 left, .v4 right => left ≤ right
  | .v4 _, .v6 _ => true
  | .v6 _, .v4 _ => false
  | .v6 left, .v6 right => left ≤ right

/-- The records of the blocks that are still active, by address. -/
def activeRecords (blocks : BlockSnapshot) (now : Nat) : List BlockRecord :=
  ((blocks.entries.filter fun entry => now < entry.2.deadline).map fun entry =>
    entry.2.record).mergeSort fun left right => addressLe left.clientIp right.clientIp

/-- Create, fill and sync the temporary file, and put it in the place of the state file. -/
def replaceStateFile (bytes : List UInt8) (temp : FileName) (faults : WriteFaults) :
    List DiskOperation × Except String Unit :=
  if !faults.create then ([], .error systemError)
  else
    match faults.write with
    | some torn =>
        ([.write temp [], .write temp torn], .error systemError)
    | none =>
        let filled : List DiskOperation := [.write temp [], .write temp bytes]
        if !faults.flush then (filled, .error systemError)
        else if !faults.sync then (filled, .error systemError)
        else if !faults.rename then
          (filled ++ [.sync temp], .error "atomically replace block state")
        else if !faults.openDirectory then
          (filled ++ [.sync temp, .rename temp .state], .error systemError)
        else if !faults.syncDirectory then
          (filled ++ [.sync temp, .rename temp .state],
            .error "sync block state directory after rename; commit may be on disk")
        else
          (filled ++ [.sync temp, .rename temp .state, .syncDirectory], .ok ())

/-- Remove the temporary file of a failed replacement; one that stays is remembered. -/
def cleanUp (suffix : Nat) (faults : WriteFaults) : List DiskOperation × StateWriter :=
  match faults.removeTemp with
  | .removed => ([.remove (.temporary suffix)], ⟨none⟩)
  | .notFound => ([], ⟨none⟩)
  | .failed => ([], ⟨some suffix⟩)

/-- Remove the temporary file of an earlier transaction; without that there is no new one. -/
def removeOrphan (writer : StateWriter) (faults : WriteFaults) : Option (List DiskOperation) :=
  match writer.cleanupTemp with
  | none => some []
  | some orphan =>
      match faults.removeOrphan with
      | .removed => some [.remove (.temporary orphan)]
      | .notFound => some []
      | .failed => none

/-- Write the blocks to the state file. -/
def persistClientIpBlocklistAtomically (codec : StateCodec) (writer : StateWriter)
    (blocks : BlockSnapshot) (now : Nat) (faults : WriteFaults) : Persisted :=
  match removeOrphan writer faults with
  | none =>
      ⟨[], .error "prior block-state temporary cleanup failed; no new temporary created", writer⟩
  | some removed =>
      let bytes := codec.encode ⟨1, activeRecords blocks now⟩
      if maxStateBytes < bytes.length then
        ⟨removed, .error "serialized block state exceeds 32 MiB", ⟨none⟩⟩
      else
        match faults.suffix with
        | none => ⟨removed, .error systemError, ⟨none⟩⟩
        | some suffix =>
            let replaced := replaceStateFile bytes (.temporary suffix) faults
            match replaced.2 with
            | .ok () => ⟨removed ++ replaced.1, .ok (), ⟨none⟩⟩
            | .error reason =>
                if faults.create then
                  let cleaned := cleanUp suffix faults
                  ⟨removed ++ (replaced.1 ++ cleaned.1), .error reason, cleaned.2⟩
                else
                  ⟨removed ++ replaced.1, .error reason, ⟨none⟩⟩

/-! ## Loading -/

/-- The steps of a loader before it reads the file. -/
structure LoadFaults where
  createDirectory : Bool
  openLock : Bool
  tryLock : Bool
  openFile : Bool
  readMetadata : Bool
  readFile : Bool

/-- Every step succeeds. -/
def LoadFaults.none : LoadFaults := ⟨true, true, true, true, true, true⟩

/-- The record as it counts from now: one that lies further in the future than a block lasts
starts now. -/
def clampRecord (wall : Machine.Word) (record : BlockRecord) : Option BlockRecord :=
  if blockSeconds < record.expiresAtUnixSeconds.val - wall.val then
    (wall.checkedAdd blockSeconds).map fun expires =>
      { record with
        clientIp := normalizeIp record.clientIp
        createdAtUnixSeconds := wall
        expiresAtUnixSeconds := expires }
  else
    some { record with clientIp := normalizeIp record.clientIp }

theorem clampRecord_valid {wall : Machine.Word} {record clamped : BlockRecord}
    (valid : record.Valid) (clamp : clampRecord wall record = some clamped) :
    clamped.clientIp = normalizeIp record.clientIp ∧ clamped.Valid := by
  unfold clampRecord at clamp
  split_ifs at clamp with ahead
  · obtain ⟨expires, sum, rfl⟩ := Option.map_eq_some_iff.mp clamp
    rw [Machine.Word.checkedAdd_eq_some] at sum
    exact ⟨rfl, Machine.checkedSub_eq_some.mpr sum, valid.2⟩
  · cases clamp
    exact ⟨rfl, valid⟩

/-- Load one record, unless its block is over. -/
def loadRecord (wall : Machine.Word) (monotonic : Nat) (blocks : BlockSnapshot)
    (record : BlockRecord) (valid : record.Valid) : Except String BlockSnapshot :=
  let remaining := min (record.expiresAtUnixSeconds.val - wall.val) blockSeconds
  match clamp : clampRecord wall record with
  | none => .error "clock timestamp overflow"
  | some clamped =>
      if remaining ≠ 0 then
        .ok (blocks.insert clamped.clientIp
          ⟨clamped, monotonic + seconds remaining, (clampRecord_valid valid clamp).2⟩)
      else
        .ok blocks

/-- Load the records of a state file; no two may name one address. -/
def loadRecords (wall : Machine.Word) (monotonic : Nat) (seen : List IpAddr)
    (blocks : BlockSnapshot) : List BlockRecord → Except String BlockSnapshot
  | [] => .ok blocks
  | record :: rest =>
      if valid : record.Valid ∧ normalizeIp record.clientIp ∉ seen then
        match loadRecord wall monotonic blocks record valid.1 with
        | .error reason => .error reason
        | .ok blocks =>
            loadRecords wall monotonic (normalizeIp record.clientIp :: seen) blocks rest
      else
        .error "invalid block duration/count or duplicate normalized IP"

/-- What loading one record does to the blocks. -/
structure RecordLoaded (wall : Machine.Word) (monotonic : Nat) (blocks : BlockSnapshot)
    (record : BlockRecord) (result : BlockSnapshot) : Prop where
  size : result.size ≤ blocks.size + 1
  others : ∀ ip, ip ≠ normalizeIp record.clientIp → result.lookup ip = blocks.lookup ip
  origin : ∀ block, result.lookup (normalizeIp record.clientIp) = some block →
    blocks.lookup (normalizeIp record.clientIp) = some block ∨
      block.record.clientIp = normalizeIp record.clientIp
  active : wall.val < record.expiresAtUnixSeconds.val → ∃ block,
    result.lookup (normalizeIp record.clientIp) = some block ∧ monotonic < block.deadline

/-- A valid record never overflows the clock, since its own end is a time. -/
theorem loadRecord_loaded (wall : Machine.Word) (monotonic : Nat) (blocks : BlockSnapshot)
    (record : BlockRecord) (valid : record.Valid) :
    ∃ result, loadRecord wall monotonic blocks record valid = .ok result ∧
      RecordLoaded wall monotonic blocks record result := by
  unfold loadRecord
  dsimp only
  split
  · rename_i overflowed
    unfold clampRecord at overflowed
    split_ifs at overflowed with ahead
    · have sum : wall.checkedAdd blockSeconds = none := by simpa using overflowed
      unfold Machine.Word.checkedAdd at sum
      split_ifs at sum with fits
      have := record.expiresAtUnixSeconds.isLt
      omega
  · rename_i clamped clamp
    obtain ⟨own, _⟩ := clampRecord_valid valid clamp
    split_ifs with remaining
    · refine ⟨_, rfl, Table.size_insert_le _ _ _, ?_, ?_, ?_⟩
      · intro ip other
        rw [own, AList.lookup_insert_ne other]
      · intro block found
        rw [own, AList.lookup_insert, Option.some.injEq] at found
        rw [← found]
        exact .inr own
      · intro _
        rw [own, AList.lookup_insert]
        refine ⟨_, rfl, Nat.lt_add_of_pos_right ?_⟩
        exact Nat.mul_pos (Nat.pos_of_ne_zero remaining) (by decide)
    · refine ⟨blocks, rfl, Nat.le_succ _, fun _ _ => rfl, fun _ found => .inl found, ?_⟩
      intro unexpired
      have positive : 0 < blockSeconds := by decide
      omega

/-- Load the content of a state file. -/
def loadContent (codec : StateCodec) (maximum : Nat) (bytes : List UInt8)
    (wall : Option Machine.Word) (monotonic : Nat) : Except String BlockSnapshot :=
  if maxStateBytes < bytes.length then .error "block state exceeds 32 MiB"
  else
    match codec.decode bytes with
    | none => .error "invalid block state; preserve file and repair offline"
    | some file =>
        if file.version ≠ 1 ∨ maximum < file.blocks.length then
          .error "unsupported block state version or entry capacity exceeded"
        else
          match wall with
          | none => .error "system time precedes Unix epoch"
          | some wall => loadRecords wall monotonic [] ∅ file.blocks

/-- What a loader did, and the writer and blocks it starts with. -/
@[ext]
structure Loaded where
  operations : List DiskOperation
  result : Except String (StateWriter × BlockSnapshot)

/-- Load the state file, or start one. -/
def loadClientIpBlocklist (codec : StateCodec) (maximum : Nat)
    (content : Option (List UInt8)) (wall : Option Machine.Word) (monotonic : Nat)
    (loadFaults : LoadFaults) (faults : WriteFaults) : Loaded :=
  if !loadFaults.createDirectory then ⟨[], .error "create block state directory"⟩
  else if !loadFaults.openLock then ⟨[], .error "open block state writer lock"⟩
  else if !loadFaults.tryLock then
    ⟨[], .error "block state is already owned or locking unsupported"⟩
  else
    match content with
    | none =>
        let persisted := persistClientIpBlocklistAtomically codec ⟨none⟩ ∅ monotonic faults
        ⟨persisted.operations, persisted.result.map fun _ => (persisted.writer, ∅)⟩
    | some bytes =>
        if !loadFaults.openFile then ⟨[], .error "read block state"⟩
        else if !loadFaults.readMetadata then ⟨[], .error systemError⟩
        else if !loadFaults.readFile then ⟨[], .error systemError⟩
        else
          ⟨[], (loadContent codec maximum bytes wall monotonic).map fun blocks =>
            (⟨none⟩, blocks)⟩

/-- A loader succeeds with the blocks of the file it found, or it has written an empty file. -/
theorem loadClientIpBlocklist_eq_ok {codec : StateCodec} {maximum : Nat}
    {content : Option (List UInt8)} {wall : Option Machine.Word} {monotonic : Nat}
    {loadFaults : LoadFaults} {faults : WriteFaults} {operations : List DiskOperation}
    {writer : StateWriter} {blocks : BlockSnapshot}
    (accepted : loadClientIpBlocklist codec maximum content wall monotonic loadFaults faults =
      ⟨operations, .ok (writer, blocks)⟩) :
    (content = none ∧ blocks = ∅ ∧
      persistClientIpBlocklistAtomically codec ⟨none⟩ ∅ monotonic faults =
        ⟨operations, .ok (), writer⟩) ∨
    ∃ bytes, content = some bytes ∧ operations = [] ∧ writer = ⟨none⟩ ∧
      loadContent codec maximum bytes wall monotonic = .ok blocks := by
  cases content with
  | none =>
      simp only [loadClientIpBlocklist] at accepted
      split_ifs at accepted
      · simp at accepted
      · simp at accepted
      · simp at accepted
      · left
        simp only [Loaded.mk.injEq] at accepted
        obtain ⟨rfl, result⟩ := accepted
        obtain ⟨_, persisted, same⟩ := Results.map_eq_ok.mp result
        cases same
        exact ⟨rfl, rfl, by rw [← persisted]⟩
  | some bytes =>
      simp only [loadClientIpBlocklist] at accepted
      split_ifs at accepted <;> simp only [Loaded.mk.injEq, reduceCtorEq, and_false] at accepted
      obtain ⟨rfl, result⟩ := accepted
      obtain ⟨_, loaded, same⟩ := Results.map_eq_ok.mp result
      cases same
      exact .inr ⟨bytes, rfl, rfl, rfl, loaded⟩

end EdgeGateway.IpBlocking
