import EdgeGateway.Library.Table

/-!
# Directories of files

A directory is a table of contents by name.  Writing, renaming and removing files change the names
that they mention and no others, and renaming replaces the target at once.
-/

namespace FileTable

variable {Name Content : Type}

/-- A change of a directory. -/
inductive Operation (Name Content : Type)
  | write (name : Name) (content : Content)
  | rename (source target : Name)
  | remove (name : Name)
deriving DecidableEq, Repr

/-- The names that a change mentions. -/
def Operation.names : Operation Name Content → List Name
  | .write name _ => [name]
  | .rename source target => [source, target]
  | .remove name => [name]

variable [DecidableEq Name]

/-- Perform one change. -/
def apply (files : Table Name Content) : Operation Name Content → Table Name Content
  | .write name content => files.insert name content
  | .rename source target =>
      match files.lookup source with
      | none => files
      | some content => (files.erase source).insert target content
  | .remove name => files.erase name

/-- Perform changes, one after the other. -/
def perform (files : Table Name Content) (operations : List (Operation Name Content)) :
    Table Name Content :=
  operations.foldl apply files

@[simp] theorem perform_nil (files : Table Name Content) : perform files [] = files := rfl

@[simp] theorem perform_cons (files : Table Name Content) (operation : Operation Name Content)
    (rest : List (Operation Name Content)) :
    perform files (operation :: rest) = perform (apply files operation) rest :=
  rfl

theorem perform_append (files : Table Name Content)
    (first second : List (Operation Name Content)) :
    perform files (first ++ second) = perform (perform files first) second :=
  List.foldl_append

variable {files : Table Name Content}

theorem lookup_apply_other {operation : Operation Name Content} {name : Name}
    (other : name ∉ operation.names) : (apply files operation).lookup name = files.lookup name := by
  cases operation with
  | write written content => exact AList.lookup_insert_ne (List.ne_of_not_mem_cons other)
  | rename source target =>
      have distinct : name ≠ source ∧ name ≠ target := by simpa [Operation.names] using other
      rw [apply]
      cases files.lookup source with
      | none => rfl
      | some content =>
          rw [AList.lookup_insert_ne distinct.2, AList.lookup_erase_ne distinct.1]
  | remove removed => exact AList.lookup_erase_ne (List.ne_of_not_mem_cons other)

/-- Changes of other names leave a name alone. -/
theorem lookup_perform_other {operations : List (Operation Name Content)} {name : Name}
    (other : ∀ operation ∈ operations, name ∉ operation.names) :
    (perform files operations).lookup name = files.lookup name := by
  induction operations generalizing files with
  | nil => rfl
  | cons operation rest ih =>
      rw [List.forall_mem_cons] at other
      rw [perform_cons, ih other.2, lookup_apply_other other.1]

@[simp] theorem lookup_write (name : Name) (content : Content) :
    (apply files (.write name content)).lookup name = some content :=
  AList.lookup_insert files

/-- A rename gives the target the content of the source. -/
theorem lookup_rename {source target : Name} {content : Content}
    (found : files.lookup source = some content) :
    (apply files (.rename source target)).lookup target = some content := by
  rw [apply, found]
  exact AList.lookup_insert _

end FileTable
