import EdgeGateway.IpBlocking.Durability

/-!
# Temporary files that stay behind

A transaction that fails removes its temporary file.  When that fails too, the writer remembers the
file, and makes no other one until it is gone: at most one stays behind, however many transactions
fail.
-/

namespace EdgeGateway.IpBlocking

open CrashDisk

variable {codec : StateCodec}

/-! ## Transactions in a row -/

/-- The arguments of one transaction, and the outcomes of its steps. -/
structure Persisting where
  blocks : BlockSnapshot
  now : Nat
  faults : WriteFaults

/-- The temporary files that operations write. -/
def writtenTemporaries (operations : List DiskOperation) : List Nat :=
  operations.filterMap fun operation =>
    match operation with
    | .write (.temporary suffix) _ => some suffix
    | _ => none

/-- A file that a removal does not find has been removed by someone else. -/
def removedByOthers (report : Removal) (temporary : Option Nat) : List DiskOperation :=
  match report, temporary with
  | .notFound, some suffix => [.remove (.temporary suffix)]
  | _, _ => []

/-- What happens to the files during a transaction: its own operations, and the removals that
others have made where it does not find a file. -/
def Persisted.effects (persisted : Persisted) (writer : StateWriter) (faults : WriteFaults) :
    List DiskOperation :=
  let failed := match persisted.result with
    | .ok () => none
    | .error _ => (writtenTemporaries persisted.operations).head?
  removedByOthers faults.removeOrphan writer.cleanupTemp ++ persisted.operations ++
    removedByOthers faults.removeTemp failed

/-- One transaction of a writer. -/
def Persisting.perform (codec : StateCodec) (writer : StateWriter) (call : Persisting) :
    Persisted :=
  persistClientIpBlocklistAtomically codec writer call.blocks call.now call.faults

def Persisting.effects (codec : StateCodec) (writer : StateWriter) (call : Persisting) :
    List DiskOperation :=
  (call.perform codec writer).effects writer call.faults

/-- The writer, the files, and the temporary files that the writer has made so far. -/
structure Session where
  writer : StateWriter
  disk : Disk FileName (List UInt8)
  made : List Nat

/-- The session of a new writer. -/
def Session.start (files : FileName → Option (List UInt8)) : Session :=
  ⟨⟨none⟩, atRest files, []⟩

def Session.persist (codec : StateCodec) (session : Session) (call : Persisting) : Session where
  writer := (call.perform codec session.writer).writer
  disk := (call.effects codec session.writer).foldl apply session.disk
  made := session.made ++ writtenTemporaries (call.perform codec session.writer).operations

/-- The session after some transactions. -/
def Session.run (codec : StateCodec) (files : FileName → Option (List UInt8))
    (calls : List Persisting) : Session :=
  calls.foldl (Session.persist codec) (.start files)

/-- Readers find the temporary file. -/
def Present (disk : Disk FileName (List UInt8)) (suffix : Nat) : Prop :=
  (disk (.temporary suffix)).visible ≠ none

/-! ## What one transaction leaves -/

variable {disk : Disk FileName (List UInt8)} {bytes : List UInt8}

theorem present_of_foldl {operations : List DiskOperation} {suffix : Nat}
    (unnamed : ∀ operation ∈ operations, .temporary suffix ∉ operation.names)
    (left : Present (operations.foldl apply disk) suffix) : Present disk suffix := by
  rwa [Present, visible_foldl_other unnamed] at left

theorem not_present_remove (disk : Disk FileName (List UInt8)) (suffix : Nat) :
    ¬Present (apply disk (.remove (.temporary suffix))) suffix := by
  simp [Present, apply]

/-- Removals leave no other files behind. -/
theorem present_of_remove {suffix other : Nat}
    (left : Present (apply disk (.remove (.temporary suffix))) other) :
    other ≠ suffix ∧ Present disk other := by
  have distinct : other ≠ suffix := by
    rintro rfl
    exact not_present_remove disk other left
  refine ⟨distinct, ?_⟩
  rwa [Present, visible_apply_other] at left
  simpa [Operation.names] using distinct

theorem replaceStateFile_names (suffix : Nat) (faults : WriteFaults) :
    ∀ operation ∈ (replaceStateFile bytes (.temporary suffix) faults).1,
      ∀ name ∈ operation.names, name = .temporary suffix ∨ name = .state := by
  unfold replaceStateFile
  cases faults.write with
  | some torn =>
      split_ifs
      all_goals simp [Operation.names]
  | none =>
      dsimp only
      split_ifs
      all_goals simp [Operation.names]

/-- A successful replacement has given its temporary file the name of the state file. -/
theorem replaceStateFile_moved (suffix : Nat) (faults : WriteFaults)
    (succeeded : (replaceStateFile bytes (.temporary suffix) faults).2 = .ok ()) :
    ¬Present ((replaceStateFile bytes (.temporary suffix) faults).1.foldl apply disk) suffix := by
  cases wrote : faults.write with
  | some torn =>
      simp only [replaceStateFile, wrote] at succeeded
      split_ifs at succeeded
  | none =>
      simp only [replaceStateFile, wrote] at succeeded ⊢
      split_ifs at succeeded ⊢
      simp [Present, apply]

theorem mem_writtenTemporaries {operations : List DiskOperation} {suffix : Nat} :
    suffix ∈ writtenTemporaries operations ↔
      ∃ content, Operation.write (.temporary suffix) content ∈ operations := by
  simp only [writtenTemporaries, List.mem_filterMap]
  constructor
  · rintro ⟨operation, member, written⟩
    split at written
    · cases written
      exact ⟨_, member⟩
    · cases written
  · rintro ⟨content, member⟩
    exact ⟨_, member, rfl⟩

theorem writtenTemporaries_removals {operations : List DiskOperation}
    (removals : ∀ operation ∈ operations, ∃ name, operation = .remove name) :
    writtenTemporaries operations = [] := by
  rw [List.eq_nil_iff_forall_not_mem]
  intro suffix written
  obtain ⟨content, member⟩ := mem_writtenTemporaries.mp written
  obtain ⟨name, same⟩ := removals _ member
  cases same

theorem writtenTemporaries_append (front back : List DiskOperation) :
    writtenTemporaries (front ++ back) = writtenTemporaries front ++ writtenTemporaries back :=
  List.filterMap_append

theorem removedByOthers_removals (report : Removal) (temporary : Option Nat) :
    ∀ operation ∈ removedByOthers report temporary,
      ∃ suffix, operation = .remove (.temporary suffix) := by
  unfold removedByOthers
  split
  · exact fun _ member => ⟨_, List.mem_singleton.mp member⟩
  · exact nofun

theorem removedByOthers_none (report : Removal) : removedByOthers report none = [] := by
  cases report
  all_goals rfl

theorem removeOrphan_removals {writer : StateWriter} {faults : WriteFaults}
    {removed : List DiskOperation} (done : removeOrphan writer faults = some removed) :
    ∀ operation ∈ removed, ∃ name, operation = .remove name := by
  unfold removeOrphan at done
  split at done
  · cases done
    exact nofun
  · split at done
    · cases done
      exact fun _ member => ⟨_, List.mem_singleton.mp member⟩
    · cases done
      exact nofun
    · cases done

theorem cleanUp_removals (suffix : Nat) (faults : WriteFaults) :
    ∀ operation ∈ (cleanUp suffix faults).1, ∃ name, operation = .remove name := by
  unfold cleanUp
  split
  · exact fun _ member => ⟨_, List.mem_singleton.mp member⟩
  · exact nofun
  · exact nofun

/-- A transaction that goes on has no earlier temporary file any more. -/
theorem removeOrphan_clears {writer : StateWriter} {faults : WriteFaults}
    {removed : List DiskOperation} (done : removeOrphan writer faults = some removed)
    {suffix : Nat}
    (left : Present ((removedByOthers faults.removeOrphan writer.cleanupTemp ++ removed).foldl apply
      disk) suffix) :
    writer.cleanupTemp ≠ some suffix ∧ Present disk suffix := by
  unfold removeOrphan at done
  split at done
  · rename_i remembered
    cases done
    rw [remembered, removedByOthers_none] at left
    exact ⟨by simp [remembered], left⟩
  · rename_i orphan remembered
    rw [remembered] at left ⊢
    split at done
    · rename_i report
      cases done
      rw [report] at left
      obtain ⟨other, before⟩ := present_of_remove left
      exact ⟨fun same => other (Option.some.inj same).symm, before⟩
    · rename_i report
      cases done
      rw [report] at left
      obtain ⟨other, before⟩ := present_of_remove left
      exact ⟨fun same => other (Option.some.inj same).symm, before⟩
    · cases done

/-- A failed transaction leaves its temporary file only with the writer that remembers it. -/
theorem cleanUp_clears {suffix other : Nat} {faults : WriteFaults}
    (left : Present (((cleanUp suffix faults).1 ++
      removedByOthers faults.removeTemp (some suffix)).foldl apply disk) other) :
    (cleanUp suffix faults).2.cleanupTemp = some other ∨ (other ≠ suffix ∧ Present disk other) := by
  unfold cleanUp at left ⊢
  cases report : faults.removeTemp with
  | removed =>
      rw [report] at left
      exact .inr (present_of_remove left)
  | notFound =>
      rw [report] at left
      exact .inr (present_of_remove left)
  | failed =>
      rw [report] at left
      by_cases same : other = suffix
      · exact .inl (congrArg some same.symm)
      · exact .inr ⟨same, left⟩

theorem mem_written_replace {suffix other : Nat} {faults : WriteFaults}
    (written : other ∈
      writtenTemporaries (replaceStateFile bytes (.temporary suffix) faults).1) :
    other = suffix := by
  obtain ⟨content, member⟩ := mem_writtenTemporaries.mp written
  have named := replaceStateFile_names suffix faults _ member _ (List.mem_singleton.mpr rfl)
  simpa using named

/-- A replacement that has made its temporary file writes it first. -/
theorem head_written_replace (suffix : Nat) {faults : WriteFaults}
    (created : faults.create = true) :
    (writtenTemporaries (replaceStateFile bytes (.temporary suffix) faults).1).head? =
      some suffix := by
  cases wrote : faults.write with
  | some torn => simp [replaceStateFile, created, wrote, writtenTemporaries]
  | none =>
      simp only [replaceStateFile, created, wrote, Bool.not_true, Bool.false_eq_true, if_false]
      split_ifs
      all_goals rfl

/-- Beyond its own temporary file a replacement leaves what it has found. -/
theorem present_of_replace {suffix other : Nat} {faults : WriteFaults} (distinct : other ≠ suffix)
    (left : Present ((replaceStateFile bytes (.temporary suffix) faults).1.foldl apply disk)
      other) : Present disk other := by
  refine present_of_foldl (fun operation member named => ?_) left
  have own := replaceStateFile_names suffix faults operation member _ named
  exact distinct (by simpa using own)

/-! ## One transaction -/

/-- How a transaction can go. -/
inductive Outcome (writer : StateWriter) (faults : WriteFaults) : Persisted → Prop
  | stuck (reason : String) (done : removeOrphan writer faults = none) :
      Outcome writer faults ⟨[], .error reason, writer⟩
  | unmade {removed : List DiskOperation} (reason : String)
      (done : removeOrphan writer faults = some removed) :
      Outcome writer faults ⟨removed, .error reason, ⟨none⟩⟩
  | committed {removed : List DiskOperation} (bytes : List UInt8) (suffix : Nat)
      (done : removeOrphan writer faults = some removed)
      (moved : (replaceStateFile bytes (.temporary suffix) faults).2 = .ok ()) :
      Outcome writer faults
        ⟨removed ++ (replaceStateFile bytes (.temporary suffix) faults).1, .ok (), ⟨none⟩⟩
  | failed {removed : List DiskOperation} (bytes : List UInt8) (suffix : Nat) (reason : String)
      (done : removeOrphan writer faults = some removed) (created : faults.create = true) :
      Outcome writer faults
        ⟨removed ++ ((replaceStateFile bytes (.temporary suffix) faults).1 ++
          (cleanUp suffix faults).1), .error reason, (cleanUp suffix faults).2⟩

theorem perform_outcome (codec : StateCodec) (writer : StateWriter) (call : Persisting) :
    Outcome writer call.faults (call.perform codec writer) := by
  unfold Persisting.perform persistClientIpBlocklistAtomically
  split
  · rename_i done
    exact .stuck _ done
  · rename_i removed done
    generalize codec.encode ⟨1, activeRecords call.blocks call.now⟩ = bytes
    by_cases large : maxStateBytes < bytes.length
    · simp only [if_pos large]
      exact .unmade _ done
    · simp only [if_neg large]
      split
      · exact .unmade _ done
      · rename_i suffix _
        split
        · rename_i moved
          exact .committed _ suffix done moved
        · rename_i reason _
          by_cases created : call.faults.create = true
          · simp only [if_pos created]
            exact .failed _ suffix reason done created
          · have nothing :
                (replaceStateFile bytes (.temporary suffix) call.faults).1 = [] := by
              simp [replaceStateFile, created]
            simp only [if_neg created, nothing, List.append_nil]
            exact .unmade reason done

/-- A removal that fails leaves the writer stuck. -/
theorem removeOrphan_failed {writer : StateWriter} {faults : WriteFaults}
    (done : removeOrphan writer faults = none) : faults.removeOrphan = .failed := by
  unfold removeOrphan at done
  split at done
  · cases done
  · split at done
    · cases done
    · cases done
    · assumption

/-- What is left of the temporary files after a transaction: the one that the writer remembers
then, and those that it neither remembered before nor has written. -/
theorem Outcome.present_after {writer : StateWriter} {faults : WriteFaults} {persisted : Persisted}
    (outcome : Outcome writer faults persisted) {suffix : Nat}
    (left : Present ((persisted.effects writer faults).foldl apply disk) suffix) :
    persisted.writer.cleanupTemp = some suffix ∨
      (writer.cleanupTemp ≠ some suffix ∧ suffix ∉ writtenTemporaries persisted.operations ∧
        Present disk suffix) := by
  cases outcome with
  | stuck reason done =>
      have nothing : (Persisted.mk [] (.error reason) writer).effects writer faults = [] := by
        simp [Persisted.effects, removeOrphan_failed done, removedByOthers, writtenTemporaries]
      rw [nothing] at left
      by_cases remembered : writer.cleanupTemp = some suffix
      · exact .inl remembered
      · exact .inr ⟨remembered, List.not_mem_nil, left⟩
  | unmade reason done =>
      have unwritten := writtenTemporaries_removals (removeOrphan_removals done)
      simp only [Persisted.effects, unwritten, List.head?_nil, removedByOthers_none,
        List.append_nil] at left ⊢
      obtain ⟨other, before⟩ := removeOrphan_clears done left
      exact .inr ⟨other, List.not_mem_nil, before⟩
  | committed bytes own done moved =>
      have unwritten := writtenTemporaries_removals (removeOrphan_removals done)
      simp only [Persisted.effects, removedByOthers_none, List.append_nil] at left
      rw [← List.append_assoc, List.foldl_append] at left
      have distinct : suffix ≠ own := by
        rintro rfl
        exact replaceStateFile_moved suffix faults moved left
      obtain ⟨other, before⟩ := removeOrphan_clears done (present_of_replace distinct left)
      refine .inr ⟨other, fun written => ?_, before⟩
      rw [writtenTemporaries_append, unwritten, List.nil_append] at written
      exact distinct (mem_written_replace written)
  | failed bytes own reason done created =>
      have unwritten := writtenTemporaries_removals (removeOrphan_removals done)
      have cleaned := writtenTemporaries_removals (cleanUp_removals own faults)
      simp only [Persisted.effects, writtenTemporaries_append, unwritten, cleaned,
        List.nil_append, List.append_nil, head_written_replace own created] at left ⊢
      rw [← List.append_assoc, ← List.append_assoc, List.append_assoc _ (cleanUp own faults).1,
        List.foldl_append] at left
      rcases cleanUp_clears left with remembered | ⟨distinct, left⟩
      · exact .inl remembered
      · rw [List.foldl_append] at left
        obtain ⟨other, before⟩ := removeOrphan_clears done (present_of_replace distinct left)
        exact .inr ⟨other, fun written => distinct (mem_written_replace written), before⟩

/-- A session in order: of the temporary files it has made at most the remembered one is left, and
readers of the state file find its first content or a complete later one. -/
structure Orderly (codec : StateCodec) (files : FileName → Option (List UInt8))
    (calls : List Persisting) (session : Session) : Prop where
  remembered : ∀ suffix ∈ session.made, Present session.disk suffix →
    session.writer.cleanupTemp = some suffix
  content : Safe (fun content => content = files .state ∨
      ∃ call ∈ calls, content = some (stateBytes codec call.blocks call.now))
    session.disk .state

theorem removedByOthers_elsewhere (report : Removal) (temporary : Option Nat) :
    ∀ operation ∈ removedByOthers report temporary, Elsewhere .state operation := by
  intro operation member
  obtain ⟨suffix, rfl⟩ := removedByOthers_removals report temporary operation member
  exact .remove (by simp)

/-- Along a transaction the state file keeps a property that the new content has. -/
theorem effects_along {property : Option (List UInt8) → Prop} (writer : StateWriter)
    (call : Persisting) (safe : Safe property disk .state)
    (holds : property (some (stateBytes codec call.blocks call.now))) :
    Along (fun disk => Safe property disk .state) (fun disk => Safe property disk .state)
      (call.effects codec writer) disk := by
  rw [Persisting.effects, Persisted.effects, List.append_assoc]
  refine (along_elsewhere (removedByOthers_elsewhere _ _) safe fun disk safe => ?_).append
  refine ((persist_along safe fun _ => holds).mono (fun _ safe => safe)
    fun disk safe _ => ?_).append
  exact along_elsewhere (removedByOthers_elsewhere _ _) safe fun _ safe => safe

theorem start_orderly (files : FileName → Option (List UInt8)) :
    Orderly codec files [] (.start files) where
  remembered := nofun
  content := (safe_atRest files .state).mono fun _ same => .inl same

variable {files : FileName → Option (List UInt8)} {calls : List Persisting} {session : Session}

theorem Orderly.along (orderly : Orderly codec files calls session) (call : Persisting) :
    Along (fun disk => Safe (fun content => content = files .state ∨
        ∃ made ∈ calls ++ [call], content = some (stateBytes codec made.blocks made.now)) disk
      .state) (fun disk => Safe (fun content => content = files .state ∨
        ∃ made ∈ calls ++ [call], content = some (stateBytes codec made.blocks made.now)) disk
      .state) (call.effects codec session.writer) session.disk := by
  have longer : Safe (fun content => content = files .state ∨
      ∃ made ∈ calls ++ [call], content = some (stateBytes codec made.blocks made.now))
      session.disk .state := by
    refine orderly.content.mono fun content found => found.imp_right ?_
    rintro ⟨made, member, same⟩
    exact ⟨made, List.mem_append_left _ member, same⟩
  exact effects_along session.writer call longer (.inr ⟨call, by simp, rfl⟩)

theorem Orderly.persist (orderly : Orderly codec files calls session) (call : Persisting) :
    Orderly codec files (calls ++ [call]) (session.persist codec call) where
  remembered := by
    intro suffix member left
    rcases (perform_outcome codec session.writer call).present_after left with
      remembered | ⟨other, unwritten, before⟩
    · exact remembered
    · rcases List.mem_append.mp member with earlier | written
      · exact absurd (orderly.remembered suffix earlier before) other
      · exact absurd written unwritten
  content := (orderly.along call).final

theorem run_orderly (codec : StateCodec) (files : FileName → Option (List UInt8))
    (calls : List Persisting) : Orderly codec files calls (.run codec files calls) := by
  induction calls using List.reverseRecOn with
  | nil => exact start_orderly files
  | append_singleton calls call ih =>
      rw [Session.run, List.foldl_concat]
      exact ih.persist call

/-- Between transactions at most one temporary file of the writer exists, the one it remembers.
While that cannot be removed, a transaction does nothing.  At all times readers of the state file
find its first content or the complete content of some transaction. -/
theorem at_most_one_orphan (codec : StateCodec) (files : FileName → Option (List UInt8))
    (calls : List Persisting) :
    (∀ suffix ∈ (Session.run codec files calls).made,
      Present (Session.run codec files calls).disk suffix →
        (Session.run codec files calls).writer.cleanupTemp = some suffix) ∧
    (∀ suffix ∈ (Session.run codec files calls).made,
      ∀ other ∈ (Session.run codec files calls).made,
        Present (Session.run codec files calls).disk suffix →
        Present (Session.run codec files calls).disk other → suffix = other) ∧
    (∀ call orphan, (Session.run codec files calls).writer.cleanupTemp = some orphan →
      call.faults.removeOrphan = .failed →
        call.effects codec (Session.run codec files calls).writer = [] ∧
        (Session.run codec files calls).persist codec call = Session.run codec files calls) ∧
    ∀ call front, front <+: call.effects codec (Session.run codec files calls).writer →
      (front.foldl apply (Session.run codec files calls).disk .state).visible = files .state ∨
      ∃ made ∈ calls ++ [call],
        (front.foldl apply (Session.run codec files calls).disk .state).visible =
          some (stateBytes codec made.blocks made.now) := by
  have orderly := run_orderly codec files calls
  refine ⟨orderly.remembered, ?_, ?_, ?_⟩
  · intro suffix member other other_member left other_left
    have first := orderly.remembered suffix member left
    have second := orderly.remembered other other_member other_left
    exact Option.some.inj (first.symm.trans second)
  · intro call orphan remembered failed
    generalize Session.run codec files calls = session at remembered ⊢
    have idle : call.perform codec session.writer =
        ⟨[], .error "prior block-state temporary cleanup failed; no new temporary created",
          session.writer⟩ := by
      simp [Persisting.perform, persistClientIpBlocklistAtomically, removeOrphan, remembered,
        failed]
    have nothing : call.effects codec session.writer = [] := by
      simp [Persisting.effects, Persisted.effects, idle, failed, removedByOthers,
        writtenTemporaries]
    refine ⟨nothing, ?_⟩
    simp [Session.persist, nothing, idle, writtenTemporaries]
  · intro call front first
    exact ((orderly.along call).truncated first).visible

end EdgeGateway.IpBlocking
