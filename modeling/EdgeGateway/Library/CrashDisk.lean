import Mathlib.Logic.Basic

/-!
# Files across a crash

A name has the content that readers find now and the contents that a crash may leave behind.
Content that has not been synced may turn into anything; a rename is atomic, and it is certain to
survive once the directory has been synced.  The rules of this file say what a protocol that
replaces a file through a temporary one may rely on at every point.
-/

namespace CrashDisk

variable {Name Content : Type}

/-- The state of one name. -/
structure Entry (Content : Type) where
  /-- What a reader finds. -/
  visible : Option Content
  /-- The visible content is on disk. -/
  synced : Bool
  /-- What a crash may leave. -/
  survives : Option Content → Prop

/-- The state of every name. -/
abbrev Disk (Name Content : Type) := Name → Entry Content

/-- A disk without pending work: a crash leaves what readers find. -/
def atRest (files : Name → Option Content) : Disk Name Content :=
  fun name => ⟨files name, true, fun left => left = files name⟩

/-- The operations of a program on its files. -/
inductive Operation (Name Content : Type)
  | write (name : Name) (content : Content)
  | sync (name : Name)
  | rename (source target : Name)
  | syncDirectory
  | remove (name : Name)

variable [DecidableEq Name]

/-- Change one name. -/
def update (disk : Disk Name Content) (name : Name) (entry : Entry Content) : Disk Name Content :=
  fun other => if other = name then entry else disk other

@[simp] theorem update_same (disk : Disk Name Content) (name : Name) (entry : Entry Content) :
    update disk name entry name = entry :=
  if_pos rfl

@[simp] theorem update_other (disk : Disk Name Content) {name other : Name} (entry : Entry Content)
    (distinct : other ≠ name) : update disk name entry other = disk other :=
  if_neg distinct

/-- Perform one operation. -/
def apply (disk : Disk Name Content) : Operation Name Content → Disk Name Content
  | .write name content => update disk name ⟨some content, false, fun _ => True⟩
  | .sync name => update disk name { disk name with synced := true }
  | .rename source target =>
      match (disk source).visible with
      | none => disk
      | some content =>
          update
            (update disk source ⟨none, true, fun left => (disk source).survives left ∨ left = none⟩)
            target
            ⟨some content, (disk source).synced, fun left =>
              (disk target).survives left ∨ ((disk source).synced = true → left = some content)⟩
  | .syncDirectory => fun name =>
      { disk name with survives := fun left =>
          (disk name).synced = true → left = (disk name).visible }
  | .remove name =>
      update disk name ⟨none, true, fun left => (disk name).survives left ∨ left = none⟩

/-! ## What readers find -/

/-- The names whose content an operation may change. -/
def Operation.names : Operation Name Content → List Name
  | .write name _ => [name]
  | .sync _ => []
  | .rename source target => [source, target]
  | .syncDirectory => []
  | .remove name => [name]

theorem visible_apply_other (disk : Disk Name Content) {operation : Operation Name Content}
    {name : Name} (unnamed : name ∉ operation.names) :
    (apply disk operation name).visible = (disk name).visible := by
  cases operation with
  | write other content =>
      have distinct : name ≠ other := fun same => unnamed (List.mem_singleton.mpr same)
      simp [apply, distinct]
  | sync other =>
      by_cases same : name = other
      · subst same
        simp [apply]
      · simp [apply, same]
  | rename source target =>
      simp only [Operation.names, List.mem_cons, List.not_mem_nil, or_false, not_or] at unnamed
      cases found : (disk source).visible with
      | none => simp [apply, found]
      | some content => simp [apply, found, unnamed]
  | syncDirectory => rfl
  | remove other =>
      have distinct : name ≠ other := fun same => unnamed (List.mem_singleton.mpr same)
      simp [apply, distinct]

theorem visible_foldl_other {operations : List (Operation Name Content)} {name : Name}
    (unnamed : ∀ operation ∈ operations, name ∉ operation.names) (disk : Disk Name Content) :
    (operations.foldl apply disk name).visible = (disk name).visible := by
  induction operations generalizing disk with
  | nil => rfl
  | cons operation rest ih =>
      rw [List.forall_mem_cons] at unnamed
      rw [List.foldl_cons, ih unnamed.2, visible_apply_other disk unnamed.1]

/-- The name is safe for a property: its content is on disk, and both that content and everything
a crash may leave have the property. -/
structure Safe (property : Option Content → Prop) (disk : Disk Name Content) (name : Name) :
    Prop where
  synced : (disk name).synced = true
  visible : property (disk name).visible
  survives : ∀ left, (disk name).survives left → property left

omit [DecidableEq Name] in
theorem Safe.mono {weak strong : Option Content → Prop} {disk : Disk Name Content} {name : Name}
    (safe : Safe strong disk name) (implies : ∀ left, strong left → weak left) :
    Safe weak disk name :=
  ⟨safe.synced, implies _ safe.visible,
    fun left survived => implies left (safe.survives left survived)⟩

omit [DecidableEq Name] in
theorem safe_atRest (files : Name → Option Content) (name : Name) :
    Safe (fun left => left = files name) (atRest files) name :=
  ⟨rfl, rfl, fun _ left => left⟩

theorem Safe.write {property : Option Content → Prop} {disk : Disk Name Content} {name other : Name}
    (safe : Safe property disk name) (distinct : name ≠ other) (content : Content) :
    Safe property (apply disk (.write other content)) name := by
  have same : apply disk (.write other content) name = disk name := update_other _ _ distinct
  exact ⟨same ▸ safe.synced, same ▸ safe.visible, same ▸ safe.survives⟩

theorem Safe.sync {property : Option Content → Prop} {disk : Disk Name Content} {name other : Name}
    (safe : Safe property disk name) (distinct : name ≠ other) :
    Safe property (apply disk (.sync other)) name := by
  have same : apply disk (.sync other) name = disk name := update_other _ _ distinct
  exact ⟨same ▸ safe.synced, same ▸ safe.visible, same ▸ safe.survives⟩

theorem Safe.remove {property : Option Content → Prop} {disk : Disk Name Content}
    {name other : Name} (safe : Safe property disk name) (distinct : name ≠ other) :
    Safe property (apply disk (.remove other)) name := by
  have same : apply disk (.remove other) name = disk name := update_other _ _ distinct
  exact ⟨same ▸ safe.synced, same ▸ safe.visible, same ▸ safe.survives⟩

/-- Replacing a file by a synced one keeps a property that the new content has. -/
theorem Safe.rename {property : Option Content → Prop} {disk : Disk Name Content}
    {source target : Name} {content : Content} (safe : Safe property disk target)
    (written : (disk source).visible = some content) (synced : (disk source).synced = true)
    (holds : property (some content)) :
    Safe property (apply disk (.rename source target)) target := by
  constructor
  · simp [apply, written, synced]
  · simpa [apply, written] using holds
  · intro left survived
    simp only [apply, written, update_same, synced, forall_const] at survived
    rcases survived with survived | rfl
    · exact safe.survives left survived
    · exact holds

/-- After the directory has been synced only the visible content can survive. -/
theorem Safe.syncDirectory {property : Option Content → Prop} {disk : Disk Name Content}
    {name : Name} (safe : Safe property disk name) :
    Safe (fun left => left = (disk name).visible) (apply disk .syncDirectory) name :=
  ⟨safe.synced, rfl, fun _ survived => survived safe.synced⟩

/-! ## Sequences of operations -/

/-- A property holds before every operation of a sequence and after the last one, where another
property holds as well. -/
def Along (always atEnd : Disk Name Content → Prop) :
    List (Operation Name Content) → Disk Name Content → Prop
  | [], disk => always disk ∧ atEnd disk
  | operation :: rest, disk => always disk ∧ Along always atEnd rest (apply disk operation)

variable {always atEnd : Disk Name Content → Prop}

theorem Along.now {operations : List (Operation Name Content)} {disk : Disk Name Content}
    (along : Along always atEnd operations disk) : always disk := by
  cases operations with
  | nil => exact along.1
  | cons operation rest => exact along.1

theorem Along.mono {always' atEnd' : Disk Name Content → Prop}
    {operations : List (Operation Name Content)} {disk : Disk Name Content}
    (along : Along always atEnd operations disk) (weaker : ∀ disk, always disk → always' disk)
    (weaker_end : ∀ disk, always disk → atEnd disk → atEnd' disk) :
    Along always' atEnd' operations disk := by
  induction operations generalizing disk with
  | nil => exact ⟨weaker disk along.1, weaker_end disk along.1 along.2⟩
  | cons operation rest ih => exact ⟨weaker disk along.1, ih along.2⟩

theorem Along.append {first second : List (Operation Name Content)} {disk : Disk Name Content}
    (along : Along always (Along always atEnd second) first disk) :
    Along always atEnd (first ++ second) disk := by
  induction first generalizing disk with
  | nil => exact along.2
  | cons operation rest ih => exact ⟨along.1, ih along.2⟩

/-- What holds along a sequence holds after each of its first parts. -/
theorem Along.truncated {operations front : List (Operation Name Content)}
    {disk : Disk Name Content} (along : Along always atEnd operations disk)
    (first : front <+: operations) : always (front.foldl apply disk) := by
  induction operations generalizing disk front with
  | nil =>
      rw [List.prefix_nil.mp first]
      exact along.1
  | cons operation rest ih =>
      cases front with
      | nil => exact along.1
      | cons other front =>
          obtain ⟨rfl, rest_first⟩ := List.cons_prefix_cons.mp first
          have later := ih along.2 rest_first
          exact later

/-- What holds at the end of a sequence holds once it has been performed. -/
theorem Along.final {operations : List (Operation Name Content)} {disk : Disk Name Content}
    (along : Along always atEnd operations disk) : atEnd (operations.foldl apply disk) := by
  induction operations generalizing disk with
  | nil => exact along.2
  | cons operation rest ih => exact ih along.2

/-- The operation writes, syncs or removes names other than the given one. -/
inductive Elsewhere (name : Name) : Operation Name Content → Prop
  | write {other : Name} (distinct : name ≠ other) (content : Content) :
      Elsewhere name (.write other content)
  | sync {other : Name} (distinct : name ≠ other) : Elsewhere name (.sync other)
  | remove {other : Name} (distinct : name ≠ other) : Elsewhere name (.remove other)

theorem Safe.elsewhere {property : Option Content → Prop} {disk : Disk Name Content} {name : Name}
    (safe : Safe property disk name) {operation : Operation Name Content}
    (elsewhere : Elsewhere name operation) : Safe property (apply disk operation) name := by
  cases elsewhere with
  | write distinct content => exact safe.write distinct content
  | sync distinct => exact safe.sync distinct
  | remove distinct => exact safe.remove distinct

/-- Work on other names keeps a name safe. -/
theorem along_elsewhere {property : Option Content → Prop} {name : Name}
    {operations : List (Operation Name Content)} {disk : Disk Name Content}
    (elsewhere : ∀ operation ∈ operations, Elsewhere name operation)
    (safe : Safe property disk name)
    (ends : ∀ disk, Safe property disk name → atEnd disk) :
    Along (fun disk => Safe property disk name) atEnd operations disk := by
  induction operations generalizing disk with
  | nil => exact ⟨safe, ends disk safe⟩
  | cons operation rest ih =>
      rw [List.forall_mem_cons] at elsewhere
      exact ⟨safe, ih elsewhere.2 (safe.elsewhere elsewhere.1)⟩

end CrashDisk
