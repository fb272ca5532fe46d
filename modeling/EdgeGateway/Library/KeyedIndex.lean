import EdgeGateway.Library.Results

/-!
# Indexes built from lists

A loop over a list of items adds at most one value for each item, under a key that no item before
it has used.  The index that it builds has the value of every item under its own key, and nothing
else.
-/

namespace KeyedIndex

variable {ε State Item Key Value : Type}

/-- A state keeps the keys it has seen, and finds values under these only. -/
structure View (State Key Value : Type) where
  seen : State → List Key
  find : State → Key → Option Value
  unseen : ∀ state key, key ∉ seen state → find state key = none

/-- A step has used a new key, under which it finds the given value. -/
structure View.Adds (view : View State Key Value) (state next : State) (key : Key)
    (value : Option Value) : Prop where
  fresh : key ∉ view.seen state
  seen : view.seen next = key :: view.seen state
  own : view.find next key = value
  others : ∀ other, other ≠ key → view.find next other = view.find state other

/-- What a loop has built, from what every one of its steps adds. -/
structure View.Built (view : View State Key Value) (entry : Item → Key → Option Value → Prop)
    (items : List Item) (start result : State) : Prop where
  kept : ∀ key ∈ view.seen start, view.find result key = view.find start key
  present : ∀ item ∈ items, ∃ key value, entry item key value ∧ view.find result key = value
  origin : ∀ key value, view.find result key = some value →
    view.find start key = some value ∨ ∃ item ∈ items, entry item key (some value)

theorem View.built_of_adds {view : View State Key Value}
    {entry : Item → Key → Option Value → Prop} {step : State → Item → Except ε State}
    (adds : ∀ state item next, step state item = .ok next →
      ∃ key value, entry item key value ∧ view.Adds state next key value)
    {items : List Item} {start result : State} (built : items.foldlM step start = .ok result) :
    view.Built entry items start result := by
  induction items generalizing start with
  | nil =>
      cases built
      exact ⟨fun _ _ => rfl, by simp, fun _ _ found => .inl found⟩
  | cons item items ih =>
      rw [List.foldlM_cons, Results.bind_eq_ok] at built
      obtain ⟨middle, first, rest⟩ := built
      obtain ⟨key, value, own, added⟩ := adds start item middle first
      obtain ⟨kept, present, origin⟩ := ih rest
      have seen_before {other : Key} (member : other ∈ view.seen start) :
          other ∈ view.seen middle := by
        rw [added.seen]
        exact List.mem_cons_of_mem _ member
      refine ⟨?_, ?_, ?_⟩
      · intro other member
        have distinct : other ≠ key := by
          rintro rfl
          exact added.fresh member
        rw [kept other (seen_before member), added.others other distinct]
      · rw [List.forall_mem_cons]
        refine ⟨⟨key, value, own, ?_⟩, present⟩
        rw [kept key (by rw [added.seen]; exact List.mem_cons_self), added.own]
      · intro other found_value found
        rcases origin other found_value found with before | ⟨later, member, entry⟩
        · by_cases same : other = key
          · subst same
            rw [added.own] at before
            exact .inr ⟨item, List.mem_cons_self, before ▸ own⟩
          · rw [added.others other same] at before
            exact .inl before
        · exact .inr ⟨later, List.mem_cons_of_mem _ member, entry⟩

end KeyedIndex
