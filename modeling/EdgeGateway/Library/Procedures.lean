import Mathlib.Tactic.Common

/-!
# Procedures that may fail on the way

A procedure works on a state and may fail at any of its steps; what it has done to the state by
then stays done.  The rules of this file prove what holds where a procedure ends, whichever of its
exits it takes.
-/

namespace Procedures

/-- A computation on a state that may fail. -/
abbrev Procedure (State Error Value : Type) :=
  ExceptT Error (StateM State) Value

namespace Procedure

variable {State Error Value Next Item : Type}

/-- The state that a procedure leaves. -/
def after (procedure : Procedure State Error Value) (state : State) : State :=
  (procedure.run.run state).2

/-- The value of a procedure, or its error. -/
def outcome (procedure : Procedure State Error Value) (state : State) : Except Error Value :=
  (procedure.run.run state).1

/-- From the states of `before` a procedure comes to states of `ends`, whether it fails or not. -/
def Leads (before : State → Prop) (procedure : Procedure State Error Value)
    (ends : State → Prop) : Prop :=
  ∀ state, before state → ends (procedure.after state)

variable {before middle ends : State → Prop}

theorem leads_pure {value : Value} (stays : ∀ state, before state → ends state) :
    Leads before (pure value : Procedure State Error Value) ends :=
  stays

theorem leads_throw {error : Error} (stays : ∀ state, before state → ends state) :
    Leads before (throw error : Procedure State Error Value) ends :=
  stays

theorem leads_modify {change : State → State}
    (changes : ∀ state, before state → ends (change state)) :
    Leads before (modify change : Procedure State Error PUnit) ends :=
  changes

/-- Reading the state. -/
theorem leads_get {next : State → Procedure State Error Value}
    (follows : ∀ state, before state → Leads (· = state) (next state) ends) :
    Leads before (get >>= next) ends := by
  intro state holds
  exact follows state holds state rfl

/-- One procedure after the other: where the first one fails, the whole ends there. -/
theorem Leads.bind {first : Procedure State Error Value}
    {next : Value → Procedure State Error Next} (leads : Leads before first middle)
    (follows : ∀ value, Leads middle (next value) ends)
    (fails : ∀ state, middle state → ends state) : Leads before (first >>= next) ends := by
  intro state holds
  have reached := leads state holds
  unfold after at reached ⊢
  rw [ExceptT.run_bind, StateT.run_bind]
  generalize first.run.run state = left at reached
  obtain ⟨result, state⟩ := left
  cases result with
  | ok value => exact follows value state reached
  | error error => exact fails state reached

theorem leads_ite {condition : Prop} [Decidable condition]
    {holding failing : Procedure State Error Value} (yes : condition → Leads before holding ends)
    (no : ¬condition → Leads before failing ends) :
    Leads before (if condition then holding else failing) ends := by
  split_ifs with holds
  · exact yes holds
  · exact no holds

/-- A loop that may be left at any of its items: `invariant` speaks of the items that are left. -/
theorem leads_forM (invariant : List Item → State → Prop) (items : List Item)
    {body : Item → Procedure State Error PUnit}
    (step : ∀ item rest, Leads (invariant (item :: rest)) (body item) (invariant rest))
    (left : ∀ rest state, invariant rest state → ends state) :
    Leads (invariant items) (items.forM body) ends := by
  induction items with
  | nil => exact leads_pure (left [])
  | cons item rest ih =>
      exact (step item rest).bind (fun _ => ih) (left rest)

end Procedure

end Procedures
