import EdgeGateway.IpBlocking.Durability

/-!
# The state file round-trips

What one process writes the next one loads: every block that lasts, once, with its own record.  A
record that lies further in the future than a block lasts starts over, so that no number of
restarts lengthens a block.
-/

namespace EdgeGateway.IpBlocking

open CrashDisk IpAddress Security

variable {codec : StateCodec} {maximum : Nat} {blocks : BlockSnapshot}

/-! ## Loading records -/

/-- The block that a record is loaded as. -/
structure Loads (wall : Machine.Word) (monotonic : Nat) (record : BlockRecord)
    (block : ActiveBlock) : Prop where
  lasting : wall.val < record.expiresAtUnixSeconds.val
  clamped : clampRecord wall record = some block.record
  deadline : block.deadline =
    monotonic + seconds (min (record.expiresAtUnixSeconds.val - wall.val) blockSeconds)

theorem loadRecord_lookup {wall : Machine.Word} {monotonic : Nat} {blocks result : BlockSnapshot}
    {record : BlockRecord} {valid : record.Valid}
    (accepted : loadRecord wall monotonic blocks record valid = .ok result)
    (absent : blocks.lookup (normalizeIp record.clientIp) = none) (ip : IpAddr)
    (block : ActiveBlock) :
    result.lookup ip = some block ↔ blocks.lookup ip = some block ∨
      normalizeIp record.clientIp = ip ∧ Loads wall monotonic record block := by
  unfold loadRecord at accepted
  dsimp only at accepted
  split at accepted
  · cases accepted
  · rename_i clamped clamp
    obtain ⟨own, _⟩ := clampRecord_valid valid clamp
    have positive : 0 < blockSeconds := by decide
    split_ifs at accepted with remaining
    · cases accepted
      by_cases current : ip = normalizeIp record.clientIp
      · subst current
        rw [own, AList.lookup_insert, absent]
        constructor
        · intro found
          rw [Option.some.injEq] at found
          subst found
          refine .inr ⟨rfl, ?_, clamp, rfl⟩
          omega
        · rintro (found | ⟨_, loads⟩)
          · cases found
          · have same := clamp.symm.trans loads.clamped
            rw [Option.some.injEq] at same ⊢
            subst same
            obtain ⟨_, deadline, _⟩ := block
            rw [ActiveBlock.mk.injEq]
            exact ⟨rfl, loads.deadline.symm⟩
      · rw [own, AList.lookup_insert_ne current]
        simp [Ne.symm current]
    · cases accepted
      constructor
      · exact .inl
      · rintro (found | ⟨_, loads⟩)
        · exact found
        · have := loads.lasting
          omega

/-- Loadable records load as their own blocks. -/
theorem loadRecords_lookup {records : List BlockRecord} (loadable : Loadable records)
    (wall : Machine.Word) (monotonic : Nat) {seen : List IpAddr} {blocks result : BlockSnapshot}
    (absent : ∀ record ∈ records, blocks.lookup (normalizeIp record.clientIp) = none)
    (accepted : loadRecords wall monotonic seen blocks records = .ok result) (ip : IpAddr)
    (block : ActiveBlock) :
    result.lookup ip = some block ↔ blocks.lookup ip = some block ∨
      ∃ record ∈ records, normalizeIp record.clientIp = ip ∧ Loads wall monotonic record block := by
  induction records generalizing seen blocks with
  | nil =>
      cases accepted
      simp
  | cons record rest ih =>
      obtain ⟨valid, distinct⟩ := loadable
      rw [List.forall_mem_cons] at valid absent
      rw [List.map_cons, List.nodup_cons] at distinct
      rw [loadRecords] at accepted
      split_ifs at accepted with admitted
      split at accepted
      · cases accepted
      · rename_i middle first
        have middle_lookup := loadRecord_lookup first absent.1
        have absent_rest : ∀ other ∈ rest, middle.lookup (normalizeIp other.clientIp) = none := by
          intro other member
          rw [Option.eq_none_iff_forall_ne_some]
          intro found present
          rcases (middle_lookup _ found).mp present with before | ⟨same, _⟩
          · rw [absent.2 other member] at before
            cases before
          · exact distinct.1 (List.mem_map.mpr ⟨other, member, same.symm⟩)
        rw [ih ⟨valid.2, distinct.2⟩ absent_rest accepted, middle_lookup, List.exists_mem_cons_iff,
          or_assoc]

/-! ## One restart -/

/-- One process writes the state file, and the next one loads it. -/
structure Cycle where
  /-- What the writing process finds. -/
  disk : Disk FileName (List UInt8)
  writer : StateWriter
  /-- The instant of the write, and what fails meanwhile. -/
  now : Nat
  faults : WriteFaults
  /-- The clocks of the loading process. -/
  wall : Machine.Word
  monotonic : Nat

namespace Cycle

def persisted (cycle : Cycle) (codec : StateCodec) (blocks : BlockSnapshot) : Persisted :=
  persistClientIpBlocklistAtomically codec cycle.writer blocks cycle.now cycle.faults

/-- The state file that the next process finds. -/
def content (cycle : Cycle) (codec : StateCodec) (blocks : BlockSnapshot) : Option (List UInt8) :=
  ((cycle.persisted codec blocks).operations.foldl apply cycle.disk .state).visible

/-- What the next process starts with. -/
def reloaded (cycle : Cycle) (codec : StateCodec) (maximum : Nat) (blocks : BlockSnapshot) :
    Loaded :=
  loadClientIpBlocklist codec maximum (cycle.content codec blocks) (some cycle.wall)
    cycle.monotonic .none cycle.faults

/-- A block before and after a restart.  One that lies further in the future than a block lasts
starts over. -/
structure Reloads (cycle : Cycle) (block reloaded : ActiveBlock) : Prop where
  active : cycle.now < block.deadline
  lasting : cycle.wall.val < block.record.expiresAtUnixSeconds.val
  recent : block.record.expiresAtUnixSeconds.val - cycle.wall.val ≤ blockSeconds →
    reloaded.record = block.record ∧
      reloaded.deadline = cycle.monotonic +
        seconds (block.record.expiresAtUnixSeconds.val - cycle.wall.val)
  ahead : blockSeconds < block.record.expiresAtUnixSeconds.val - cycle.wall.val →
    ∃ expires : Machine.Word, expires.val = cycle.wall.val + blockSeconds ∧
      reloaded.record =
        { block.record with
          createdAtUnixSeconds := cycle.wall
          expiresAtUnixSeconds := expires } ∧
      reloaded.deadline = cycle.monotonic + seconds blockSeconds

end Cycle

/-- A loader treats the record of a block as a restart treats the block. -/
theorem loads_iff_reloads {cycle : Cycle} {block reloaded : ActiveBlock}
    (normal : normalizeIp block.record.clientIp = block.record.clientIp)
    (active : cycle.now < block.deadline) :
    Loads cycle.wall cycle.monotonic block.record reloaded ↔ cycle.Reloads block reloaded := by
  constructor
  · rintro ⟨lasting, clamped, deadline⟩
    rw [clampRecord, normal] at clamped
    refine ⟨active, lasting, fun recent => ?_, fun ahead => ?_⟩
    · rw [if_neg (Nat.not_lt.mpr recent), Option.some.injEq] at clamped
      rw [min_eq_left recent] at deadline
      exact ⟨clamped.symm, deadline⟩
    · rw [if_pos ahead, Option.map_eq_some_iff] at clamped
      obtain ⟨expires, sum, same⟩ := clamped
      rw [min_eq_right ahead.le] at deadline
      exact ⟨expires, Machine.Word.checkedAdd_eq_some.mp sum, same.symm, deadline⟩
  · rintro ⟨_, lasting, recent, ahead⟩
    refine ⟨lasting, ?_, ?_⟩
    · rw [clampRecord, normal]
      split_ifs with far
      · obtain ⟨expires, sum, same, _⟩ := ahead far
        rw [Machine.Word.checkedAdd_eq_some.mpr sum, same]
        rfl
      · rw [(recent (Nat.le_of_not_lt far)).1]
    · by_cases far : blockSeconds < block.record.expiresAtUnixSeconds.val - cycle.wall.val
      · obtain ⟨_, _, _, deadline⟩ := ahead far
        rw [min_eq_right far.le, deadline]
      · rw [min_eq_left (Nat.le_of_not_lt far), (recent (Nat.le_of_not_lt far)).2]

/-- A successful replacement went through every step. -/
theorem replaceStateFile_eq_ok {bytes : List UInt8} {temp : FileName} {faults : WriteFaults}
    (written : (replaceStateFile bytes temp faults).2 = .ok ()) :
    (replaceStateFile bytes temp faults).1 =
      [.write temp [], .write temp bytes, .sync temp, .rename temp .state, .syncDirectory] := by
  unfold replaceStateFile at written ⊢
  cases created : faults.create with
  | false => simp [created] at written
  | true =>
    cases wrote : faults.write with
    | some torn => simp [created, wrote] at written
    | none =>
        simp only [created, wrote, Bool.not_true, Bool.false_eq_true, if_false] at written ⊢
        split_ifs at written ⊢
        rfl

theorem persist_eq_ok {writer : StateWriter} {now : Nat} {faults : WriteFaults}
    (written : (persistClientIpBlocklistAtomically codec writer blocks now faults).result =
      .ok ()) :
    (stateBytes codec blocks now).length ≤ maxStateBytes ∧ ∃ removed suffix,
      (persistClientIpBlocklistAtomically codec writer blocks now faults).operations =
        removed ++ [.write (.temporary suffix) [],
          .write (.temporary suffix) (stateBytes codec blocks now), .sync (.temporary suffix),
          .rename (.temporary suffix) .state, .syncDirectory] := by
  simp only [persistClientIpBlocklistAtomically] at written ⊢
  cases orphan : removeOrphan writer faults with
  | none => simp [orphan] at written
  | some removed =>
    by_cases large : maxStateBytes < (codec.encode ⟨1, activeRecords blocks now⟩).length
    · simp [orphan, large] at written
    · refine ⟨Nat.le_of_not_lt large, removed, ?_⟩
      cases suffixed : faults.suffix with
      | none => simp [orphan, large, suffixed] at written
      | some suffix =>
        simp only [orphan, suffixed, if_neg large] at written ⊢
        refine ⟨suffix, ?_⟩
        split at written
        · rename_i succeeded
          rw [replaceStateFile_eq_ok succeeded]
          rfl
        · split_ifs at written

namespace Cycle

variable {cycle : Cycle}

/-- A successful write leaves the records of the active blocks in the state file. -/
theorem content_eq (written : (cycle.persisted codec blocks).result = .ok ()) :
    cycle.content codec blocks = some (stateBytes codec blocks cycle.now) := by
  obtain ⟨_, removed, suffix, operations⟩ := persist_eq_ok written
  rw [content, persisted, operations, List.foldl_append]
  generalize removed.foldl apply cycle.disk = disk
  simp [apply]

/-- The next process accepts what was written and has the blocks that last. -/
theorem reloaded_eq_ok (keyed : Keyed blocks) (few : blocks.size ≤ maximum)
    (written : (cycle.persisted codec blocks).result = .ok ()) :
    ∃ loaded, cycle.reloaded codec maximum blocks = ⟨[], .ok (⟨none⟩, loaded)⟩ ∧
      Keyed loaded ∧ loaded.size ≤ maximum ∧
      ∀ ip reloaded, loaded.lookup ip = some reloaded ↔
        ∃ block, blocks.lookup ip = some block ∧ cycle.Reloads block reloaded := by
  have small := (persist_eq_ok written).1
  have loadable := loadable_activeRecords keyed cycle.now
  obtain ⟨loaded, accepted, _, _⟩ := loadRecords_accepts loadable cycle.wall cycle.monotonic ∅
    (fun _ _ => List.not_mem_nil)
  have records : (activeRecords blocks cycle.now).length ≤ maximum :=
    (activeRecords_length_le blocks cycle.now).trans few
  have read : loadContent codec maximum (stateBytes codec blocks cycle.now) (some cycle.wall)
      cycle.monotonic = .ok loaded := by
    rw [loadContent, if_neg (Nat.not_lt.mpr small), stateBytes, codec.decode_encode]
    simpa only [ne_eq, not_true_eq_false, false_or, if_neg (Nat.not_lt.mpr records)] using accepted
  refine ⟨loaded, ?_, keyed_of_loadRecords accepted, loadContent_size read, ?_⟩
  · simp [reloaded, loadClientIpBlocklist, LoadFaults.none, content_eq written, read, Except.map]
  · intro ip reloaded
    rw [loadRecords_lookup loadable cycle.wall cycle.monotonic (fun _ _ => rfl) accepted]
    constructor
    · rintro (before | ⟨record, member, own, loads⟩)
      · cases before
      · obtain ⟨key, block, found, active, rfl⟩ := mem_activeRecords.mp member
        obtain ⟨rfl, normal⟩ := keyed key block found
        rw [normal] at own
        subst own
        exact ⟨block, found, (loads_iff_reloads normal active).mp loads⟩
    · rintro ⟨block, found, reloads⟩
      obtain ⟨rfl, normal⟩ := keyed ip block found
      exact .inr ⟨block.record, mem_activeRecords.mpr ⟨_, block, found, reloads.active, rfl⟩,
        normal, (loads_iff_reloads normal reloads.active).mpr reloads⟩

end Cycle

/-! ## Any number of restarts -/

/-- Restarts, one after the other. -/
inductive Restarted (codec : StateCodec) (maximum : Nat) :
    BlockSnapshot → List Cycle → BlockSnapshot → Prop
  | done (blocks : BlockSnapshot) : Restarted codec maximum blocks [] blocks
  | restart {blocks loaded final : BlockSnapshot} {cycle : Cycle} {rest : List Cycle}
      {writer : StateWriter} {operations : List DiskOperation}
      (written : (cycle.persisted codec blocks).result = .ok ())
      (accepted : cycle.reloaded codec maximum blocks = ⟨operations, .ok (writer, loaded)⟩)
      (later : Restarted codec maximum loaded rest final) :
      Restarted codec maximum blocks (cycle :: rest) final

/-- A block that ends at a given second is still active whenever it is written or loaded. -/
def Unexpired (expires : Nat) : Nat → List Cycle → Prop
  | _, [] => True
  | deadline, cycle :: rest =>
      cycle.now < deadline ∧ cycle.wall.val < expires ∧
        Unexpired expires (cycle.monotonic + seconds (expires - cycle.wall.val)) rest

/-- The second at which a block ends; the first restart shortens one that lies too far ahead. -/
def expiry (block : ActiveBlock) : List Cycle → Nat
  | [] => block.record.expiresAtUnixSeconds.val
  | first :: _ => min block.record.expiresAtUnixSeconds.val (first.wall.val + blockSeconds)

/-- A block before and after restarts. -/
structure Carried (cycles : List Cycle) (block carried : ActiveBlock) : Prop where
  unexpired : Unexpired (expiry block cycles) block.deadline cycles
  expires : carried.record.expiresAtUnixSeconds.val = expiry block cycles
  remaining : ∀ last ∈ cycles.getLast?, carried.deadline =
    last.monotonic + seconds (carried.record.expiresAtUnixSeconds.val - last.wall.val)
  unchanged : (∀ first ∈ cycles.head?,
    block.record.createdAtUnixSeconds.val ≤ first.wall.val) → carried.record = block.record

/-- The wall clock does not go back. -/
def Nondecreasing (cycles : List Cycle) : Prop :=
  cycles.Pairwise fun earlier later => earlier.wall.val ≤ later.wall.val

theorem BlockRecord.Valid.expires_eq {record : BlockRecord} (valid : record.Valid) :
    record.expiresAtUnixSeconds.val = record.createdAtUnixSeconds.val + blockSeconds :=
  Machine.checkedSub_eq_some.mp valid.1

theorem Cycle.Reloads.expires_eq {cycle : Cycle} {block reloaded : ActiveBlock}
    (reloads : cycle.Reloads block reloaded) :
    reloaded.record.expiresAtUnixSeconds.val =
        min block.record.expiresAtUnixSeconds.val (cycle.wall.val + blockSeconds) ∧
      reloaded.deadline = cycle.monotonic +
        seconds (reloaded.record.expiresAtUnixSeconds.val - cycle.wall.val) := by
  by_cases ahead : blockSeconds < block.record.expiresAtUnixSeconds.val - cycle.wall.val
  · obtain ⟨expires, sum, record, deadline⟩ := reloads.ahead ahead
    rw [record, deadline]
    dsimp only
    rw [sum, Nat.add_sub_cancel_left]
    refine ⟨?_, rfl⟩
    omega
  · obtain ⟨record, deadline⟩ := reloads.recent (Nat.le_of_not_lt ahead)
    rw [record]
    refine ⟨?_, deadline⟩
    omega

/-- A record that does not start in the future never changes. -/
theorem Cycle.Reloads.record_eq {cycle : Cycle} {block reloaded : ActiveBlock}
    (reloads : cycle.Reloads block reloaded)
    (created : block.record.createdAtUnixSeconds.val ≤ cycle.wall.val) :
    reloaded.record = block.record := by
  have := block.valid.expires_eq
  exact (reloads.recent (by omega)).1

/-- No loaded record starts in the future. -/
theorem Cycle.Reloads.created_le {cycle : Cycle} {block reloaded : ActiveBlock}
    (reloads : cycle.Reloads block reloaded) :
    reloaded.record.createdAtUnixSeconds.val ≤ cycle.wall.val := by
  have own := reloaded.valid.expires_eq
  have := reloads.expires_eq.1
  omega

theorem Cycle.exists_reloads {cycle : Cycle} {block : ActiveBlock}
    (active : cycle.now < block.deadline)
    (lasting : cycle.wall.val < block.record.expiresAtUnixSeconds.val) :
    ∃ reloaded, cycle.Reloads block reloaded := by
  have last := block.record.expiresAtUnixSeconds.isLt
  by_cases far : blockSeconds < block.record.expiresAtUnixSeconds.val - cycle.wall.val
  · have fits : cycle.wall.val + blockSeconds < Machine.wordSize := by omega
    refine ⟨⟨{ block.record with
      createdAtUnixSeconds := cycle.wall
      expiresAtUnixSeconds := ⟨_, fits⟩ }, cycle.monotonic + seconds blockSeconds, ?_⟩,
      active, lasting, fun recent => absurd far (Nat.not_lt.mpr recent),
      fun _ => ⟨_, rfl, rfl, rfl⟩⟩
    exact ⟨Machine.checkedSub_eq_some.mpr rfl, block.valid.2⟩
  · refine ⟨⟨block.record, cycle.monotonic +
      seconds (block.record.expiresAtUnixSeconds.val - cycle.wall.val), block.valid⟩,
      active, lasting, fun _ => ⟨rfl, rfl⟩, fun ahead => absurd ahead far⟩

/-- A block through restarts, one after the other. -/
inductive Survives : List Cycle → ActiveBlock → ActiveBlock → Prop
  | done (block : ActiveBlock) : Survives [] block block
  | restart {cycle : Cycle} {rest : List Cycle} {block reloaded carried : ActiveBlock}
      (reloads : cycle.Reloads block reloaded) (later : Survives rest reloaded carried) :
      Survives (cycle :: rest) block carried

/-- Restarts keep the form of a snapshot, and exactly the blocks that survive each of them. -/
theorem restarted_lookup {cycles : List Cycle} {final : BlockSnapshot}
    (restarted : Restarted codec maximum blocks cycles final) (keyed : Keyed blocks)
    (few : blocks.size ≤ maximum) :
    Keyed final ∧ final.size ≤ maximum ∧ ∀ ip carried, final.lookup ip = some carried ↔
      ∃ block, blocks.lookup ip = some block ∧ Survives cycles block carried := by
  induction restarted with
  | done blocks =>
      refine ⟨keyed, few, fun ip carried => ⟨fun found => ⟨carried, found, .done _⟩, ?_⟩⟩
      rintro ⟨_, found, survives⟩
      cases survives
      exact found
  | restart written accepted later ih =>
      obtain ⟨loaded, same, loaded_keyed, loaded_few, lookup⟩ :=
        Cycle.reloaded_eq_ok keyed few written
      cases accepted.symm.trans same
      obtain ⟨final_keyed, final_few, final_lookup⟩ := ih loaded_keyed loaded_few
      refine ⟨final_keyed, final_few, fun ip carried => ?_⟩
      rw [final_lookup]
      constructor
      · rintro ⟨reloaded, found, survives⟩
        obtain ⟨block, before, reloads⟩ := (lookup ip reloaded).mp found
        exact ⟨block, before, .restart reloads survives⟩
      · rintro ⟨block, before, survives⟩
        cases survives with
        | restart reloads survives =>
            exact ⟨_, (lookup ip _).mpr ⟨block, before, reloads⟩, survives⟩

/-- What is read off the last restart, when there is one more in front. -/
theorem elim_getLast?_cons {Item Value : Type} (first : Item) (rest : List Item) (value : Value)
    (read : Item → Value) :
    (first :: rest).getLast?.elim value read = rest.getLast?.elim (read first) read := by
  rw [List.getLast?_cons]
  cases rest.getLast? with
  | none => rfl
  | some last => rfl

/-- A block that no restart finds in the future keeps its record. -/
theorem Survives.settled {cycles : List Cycle} {block carried : ActiveBlock}
    (survives : Survives cycles block carried)
    (created : ∀ cycle ∈ cycles, block.record.createdAtUnixSeconds.val ≤ cycle.wall.val) :
    Unexpired block.record.expiresAtUnixSeconds.val block.deadline cycles ∧
      carried.record = block.record ∧
      carried.deadline = cycles.getLast?.elim block.deadline fun last =>
        last.monotonic + seconds (carried.record.expiresAtUnixSeconds.val - last.wall.val) := by
  induction survives with
  | done => exact ⟨trivial, rfl, rfl⟩
  | @restart cycle rest block reloaded carried reloads later ih =>
      rw [List.forall_mem_cons] at created
      have same := reloads.record_eq created.1
      have deadline := reloads.expires_eq.2
      obtain ⟨unexpired, kept, ends⟩ := ih (same ▸ created.2)
      rw [deadline, same] at unexpired
      refine ⟨⟨reloads.active, reloads.lasting, unexpired⟩, kept.trans same, ?_⟩
      rw [ends, deadline, elim_getLast?_cons, kept]

/-- A block that no restart finds in the future survives until it ends. -/
theorem exists_survives {cycles : List Cycle} {block : ActiveBlock}
    (created : ∀ cycle ∈ cycles, block.record.createdAtUnixSeconds.val ≤ cycle.wall.val)
    (unexpired : Unexpired block.record.expiresAtUnixSeconds.val block.deadline cycles) :
    ∃ carried, Survives cycles block carried := by
  induction cycles generalizing block with
  | nil => exact ⟨block, .done block⟩
  | cons cycle rest ih =>
      rw [List.forall_mem_cons] at created
      obtain ⟨active, lasting, unexpired⟩ := unexpired
      obtain ⟨reloaded, reloads⟩ := Cycle.exists_reloads active lasting
      have same := reloads.record_eq created.1
      have deadline := reloads.expires_eq.2
      rw [same] at deadline
      obtain ⟨carried, survives⟩ := ih (same ▸ created.2) (by rwa [deadline, same])
      exact ⟨carried, .restart reloads survives⟩

/-- While the wall clock does not go back, only the first restart may shorten a block. -/
theorem Survives.carried {cycles : List Cycle} {block carried : ActiveBlock}
    (survives : Survives cycles block carried) (nondecreasing : Nondecreasing cycles) :
    Carried cycles block carried := by
  cases survives with
  | done => exact ⟨trivial, rfl, by simp, fun _ => rfl⟩
  | @restart first rest _ reloaded _ reloads later =>
      obtain ⟨first_le, _⟩ := List.pairwise_cons.mp nondecreasing
      obtain ⟨unexpired, kept, ends⟩ := later.settled fun cycle member =>
        reloads.created_le.trans (first_le cycle member)
      obtain ⟨expires, deadline⟩ := reloads.expires_eq
      have lasting := reloads.lasting
      constructor
      · rw [expiry, ← expires]
        refine ⟨reloads.active, ?_, deadline ▸ unexpired⟩
        have positive : 0 < blockSeconds := by decide
        omega
      · rw [kept, expires, expiry]
      · intro last found
        have final := elim_getLast?_cons first rest 0 fun last =>
          last.monotonic + seconds (carried.record.expiresAtUnixSeconds.val - last.wall.val)
        rw [Option.mem_def.mp found, Option.elim_some] at final
        rw [final, ends, deadline, kept]
      · intro created
        rw [kept]
        exact reloads.record_eq (created first rfl)

theorem exists_survives_of_unexpired {cycles : List Cycle} {block : ActiveBlock}
    (nondecreasing : Nondecreasing cycles)
    (unexpired : Unexpired (expiry block cycles) block.deadline cycles) :
    ∃ carried, Survives cycles block carried := by
  cases cycles with
  | nil => exact ⟨block, .done block⟩
  | cons first rest =>
      obtain ⟨active, lasting, unexpired⟩ := unexpired
      obtain ⟨first_le, _⟩ := List.pairwise_cons.mp nondecreasing
      obtain ⟨reloaded, reloads⟩ := Cycle.exists_reloads active
        (lasting.trans_le (min_le_left _ _))
      obtain ⟨expires, deadline⟩ := reloads.expires_eq
      rw [expiry, ← expires, ← deadline] at unexpired
      obtain ⟨carried, survives⟩ := exists_survives
        (fun cycle member => reloads.created_le.trans (first_le cycle member)) unexpired
      exact ⟨carried, .restart reloads survives⟩

/-- What is written loads again with the blocks that last, and while the wall clock does not go
back no number of restarts lengthens a block or drops one that has not expired. -/
theorem state_file_round_trips (codec : StateCodec) (maximum : Nat) (blocks : BlockSnapshot)
    (keyed : Keyed blocks) (few : blocks.size ≤ maximum) :
    (∀ cycle : Cycle, (cycle.persisted codec blocks).result = .ok () →
      ∃ loaded, cycle.reloaded codec maximum blocks = ⟨[], .ok (⟨none⟩, loaded)⟩ ∧
        Keyed loaded ∧ loaded.size ≤ maximum ∧
        (∀ ip reloaded, loaded.lookup ip = some reloaded ↔
          ∃ block, blocks.lookup ip = some block ∧ cycle.Reloads block reloaded) ∧
        ∀ ip block, blocks.lookup ip = some block → cycle.now < block.deadline →
          cycle.wall.val < block.record.expiresAtUnixSeconds.val →
          ∃ reloaded, loaded.lookup ip = some reloaded) ∧
    ∀ cycles final, Restarted codec maximum blocks cycles final → Nondecreasing cycles →
      Keyed final ∧ final.size ≤ maximum ∧
      (∀ ip carried, final.lookup ip = some carried →
        ∃ block, blocks.lookup ip = some block ∧ Carried cycles block carried) ∧
      ∀ ip block, blocks.lookup ip = some block →
        Unexpired (expiry block cycles) block.deadline cycles →
        ∃ carried, final.lookup ip = some carried := by
  constructor
  · intro cycle written
    obtain ⟨loaded, accepted, loaded_keyed, loaded_few, lookup⟩ :=
      Cycle.reloaded_eq_ok keyed few written
    refine ⟨loaded, accepted, loaded_keyed, loaded_few, lookup, ?_⟩
    intro ip block found active lasting
    obtain ⟨reloaded, reloads⟩ := Cycle.exists_reloads active lasting
    exact ⟨reloaded, (lookup ip reloaded).mpr ⟨block, found, reloads⟩⟩
  · intro cycles final restarted nondecreasing
    obtain ⟨final_keyed, final_few, lookup⟩ := restarted_lookup restarted keyed few
    refine ⟨final_keyed, final_few, ?_, ?_⟩
    · intro ip carried found
      obtain ⟨block, before, survives⟩ := (lookup ip carried).mp found
      exact ⟨block, before, survives.carried nondecreasing⟩
    · intro ip block found unexpired
      obtain ⟨carried, survives⟩ := exists_survives_of_unexpired nondecreasing unexpired
      exact ⟨carried, (lookup ip carried).mpr ⟨block, found, survives⟩⟩

/-- A block of the hundredth second of the wall clock. -/
def sampleBlock : ActiveBlock where
  record := ⟨.v4 0xC0000207#32, ⟨100, by decide⟩, ⟨86500, by decide⟩, .invalidGrpc, 20⟩
  deadline := seconds 86400
  valid := by decide

def sampleBlocks : BlockSnapshot :=
  AList.singleton sampleBlock.record.clientIp sampleBlock

/-- A restart that finds the wall clock a minute before the block. -/
def sampleCycle : Cycle where
  disk := atRest fun _ => none
  writer := ⟨none⟩
  now := seconds 5
  faults := .none 0
  wall := ⟨40, by decide⟩
  monotonic := seconds 5

theorem keyed_sampleBlocks : Keyed sampleBlocks := by
  intro ip block found
  rw [sampleBlocks, Table.lookup_eq_some_iff, AList.singleton_entries, List.mem_singleton] at found
  cases found
  exact ⟨rfl, by decide⟩

theorem sampleCycle_written : (sampleCycle.persisted stateText sampleBlocks).result = .ok () := by
  have active : seconds 5 < sampleBlock.deadline := by decide
  have records : activeRecords sampleBlocks (seconds 5) = [sampleBlock.record] := by
    rw [activeRecords, sampleBlocks, AList.singleton_entries, List.filter_singleton]
    simp [active]
  have small : ¬ maxStateBytes < (stateText.encode ⟨1, [sampleBlock.record]⟩).length := by
    decide +kernel
  simp [Cycle.persisted, persistClientIpBlocklistAtomically, sampleCycle, removeOrphan, records,
    small, WriteFaults.none, replaceStateFile]

/-- The restart loads the block again, and its day starts over. -/
theorem state_file_round_trips_sample : ∃ loaded reloaded,
    sampleCycle.reloaded stateText 1 sampleBlocks = ⟨[], .ok (⟨none⟩, loaded)⟩ ∧
      loaded.lookup sampleBlock.record.clientIp = some reloaded ∧
      reloaded.record.createdAtUnixSeconds.val = 40 ∧
      reloaded.record.expiresAtUnixSeconds.val = 86440 := by
  obtain ⟨loaded, accepted, _, _, lookup, kept⟩ :=
    (state_file_round_trips stateText 1 sampleBlocks keyed_sampleBlocks (by decide)).1
      sampleCycle sampleCycle_written
  have present : sampleBlocks.lookup sampleBlock.record.clientIp = some sampleBlock :=
    Table.lookup_eq_some_iff.mpr List.mem_cons_self
  obtain ⟨reloaded, found⟩ := kept _ _ present (by decide) (by decide)
  obtain ⟨block, same, reloads⟩ := (lookup _ _).mp found
  cases present.symm.trans same
  obtain ⟨expires, sum, record, _⟩ := reloads.ahead (by decide)
  refine ⟨loaded, reloaded, accepted, found, ?_, ?_⟩
  · rw [record]
    rfl
  · rw [record]
    exact sum

end EdgeGateway.IpBlocking
