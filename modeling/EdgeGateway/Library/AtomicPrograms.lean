import EdgeGateway.Library.MachineInteger
import Mathlib.Data.List.Induction
import Mathlib.Data.List.Perm.Basic

/-!
# Interleaved programs over atomic words

A program performs atomic operations on named words, one after the other, and goes on with what
each of them returned.  A system runs any number of programs at once; one step lets one of them
perform its next operation.  A run is any sequence of calls and steps, so what holds after every
run holds under every interleaving.
-/

namespace AtomicPrograms

open Machine

variable {Cell Result : Type}

/-- The atomic operations on a word. -/
inductive Operation (Cell : Type)
  | fetchAdd (cell : Cell) (amount : Nat)
  | fetchSub (cell : Cell) (amount : Nat)
  | fetchMax (cell : Cell) (value : Nat)
  deriving DecidableEq

namespace Operation

/-- The word that is touched. -/
def cell : Operation Cell → Cell
  | fetchAdd cell _ => cell
  | fetchSub cell _ => cell
  | fetchMax cell _ => cell

/-- The value that is left in the word. -/
def update : Operation Cell → Nat → Nat
  | fetchAdd _ amount, value => wrappingAdd value amount
  | fetchSub _ amount, value => wrappingSub value amount
  | fetchMax _ other, value => max value other

end Operation

/-- The values of the words. -/
abbrev Memory (Cell : Type) := Cell → Nat

/-- Perform one operation. -/
def perform [DecidableEq Cell] (memory : Memory Cell) (operation : Operation Cell) : Memory Cell :=
  fun other => if other = operation.cell then operation.update (memory other) else memory other

theorem perform_same [DecidableEq Cell] (memory : Memory Cell) (operation : Operation Cell) :
    perform memory operation operation.cell = operation.update (memory operation.cell) :=
  if_pos rfl

theorem perform_other [DecidableEq Cell] (memory : Memory Cell) (operation : Operation Cell)
    {other : Cell} (distinct : operation.cell ≠ other) :
    perform memory operation other = memory other :=
  if_neg (Ne.symm distinct)

/-- What is left to do of a call: nothing but its result, or an operation and what follows upon
the value that it finds. -/
inductive Program (Cell Result : Type)
  | done (result : Result)
  | atomic (operation : Operation Cell) (next : Nat → Program Cell Result)

namespace Program

/-- One program after the other. -/
def bind {Other : Type} : Program Cell Result → (Result → Program Cell Other) → Program Cell Other
  | done result, next => next result
  | atomic operation rest, next => atomic operation fun found => (rest found).bind next

instance : Monad (Program Cell) where
  pure := done
  bind := bind

/-- An operation by itself. -/
def operate (operation : Operation Cell) : Program Cell Nat :=
  atomic operation done

/-- The program, as long as it has not returned. -/
def unfinished : Program Cell Result → List (Program Cell Result)
  | done _ => []
  | program => [program]

/-- The result, once the program has returned. -/
def results : Program Cell Result → List Result
  | done result => [result]
  | atomic _ _ => []

end Program

/-- Words, the calls that have not returned, the operations so far and the results so far. -/
structure System (Cell Result : Type) where
  memory : Memory Cell
  running : List (Program Cell Result)
  log : List (Operation Cell)
  returned : List Result

namespace System

variable {system : System Cell Result}

/-- Nothing has been called. -/
def initial (memory : Memory Cell) : System Cell Result :=
  ⟨memory, [], [], []⟩

/-- One more call. -/
def call (system : System Cell Result) (program : Program Cell Result) : System Cell Result :=
  { system with
    running := program.unfinished ++ system.running
    returned := system.returned ++ program.results }

variable [DecidableEq Cell]

/-- The system after an operation, with the rest of its program and the other programs. -/
def performed (system : System Cell Result) (operation : Operation Cell)
    (rest : Program Cell Result) (others : List (Program Cell Result)) : System Cell Result where
  memory := perform system.memory operation
  running := rest.unfinished ++ others
  log := system.log ++ [operation]
  returned := system.returned ++ rest.results

/-- One step of the running program at a position, if there is one. -/
def advance (system : System Cell Result) (position : Nat) : System Cell Result :=
  match system.running[position]? with
  | some (.atomic operation next) =>
      system.performed operation (next (system.memory operation.cell))
        (system.running.eraseIdx position)
  | _ => system

/-- A step does nothing, or performs the next operation of one of the running programs. -/
inductive Advanced (system : System Cell Result) : System Cell Result → Prop
  | idle : Advanced system system
  | stepped (operation : Operation Cell) (next : Nat → Program Cell Result)
      (others : List (Program Cell Result))
      (split : (Program.atomic operation next :: others).Perm system.running) :
      Advanced system
        (system.performed operation (next (system.memory operation.cell)) others)

theorem advanced (system : System Cell Result) (position : Nat) :
    Advanced system (system.advance position) := by
  rw [advance]
  cases found : system.running[position]? with
  | none => exact .idle
  | some program =>
      cases program with
      | done result => exact .idle
      | atomic operation next =>
          obtain ⟨inside, same⟩ := List.getElem?_eq_some_iff.mp found
          refine .stepped operation next _ ?_
          rw [← same]
          exact List.getElem_cons_eraseIdx_perm inside

end System

/-! ## The largest value along a run -/

section Highest

variable {State Event : Type} {run : List Event → State} {value : State → Nat}

/-- The largest value that a run has come to, at its end or before. -/
def IsHighest (run : List Event → State) (value : State → Nat) (events : List Event)
    (highest : Nat) : Prop :=
  (∃ earlier, earlier <+: events ∧ value (run earlier) = highest) ∧
    ∀ earlier, earlier <+: events → value (run earlier) ≤ highest

theorem isHighest_nil (run : List Event → State) (value : State → Nat) :
    IsHighest run value [] (value (run [])) := by
  refine ⟨⟨[], List.prefix_refl [], rfl⟩, ?_⟩
  intro earlier before
  rw [List.prefix_nil.mp before]

/-- One more event may raise the largest value to the one it comes to. -/
theorem IsHighest.append {events : List Event} {highest : Nat}
    (before : IsHighest run value events highest) (event : Event) :
    IsHighest run value (events ++ [event]) (max highest (value (run (events ++ [event])))) := by
  obtain ⟨⟨reached, early, attained⟩, bounded⟩ := before
  constructor
  · rcases Nat.le_total highest (value (run (events ++ [event]))) with above | below
    · exact ⟨events ++ [event], List.prefix_refl _, (Nat.max_eq_right above).symm⟩
    · rw [Nat.max_eq_left below]
      exact ⟨reached, List.IsPrefix.trans early (List.prefix_append events [event]), attained⟩
  · intro earlier short
    rcases List.prefix_concat_iff.mp short with rfl | inside
    · exact Nat.le_max_right _ _
    · exact Nat.le_trans (bounded earlier inside) (Nat.le_max_left _ _)

end Highest

end AtomicPrograms
