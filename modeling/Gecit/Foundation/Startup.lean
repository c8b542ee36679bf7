import Mathlib.Data.List.Basic

/-!
Contract: a component that starts by steps in a fixed order, any of which may fail.

The ledger records what has been acquired and released. A start that is left at the first failing
step is judged exit by exit: `StopsAtFirst` follows the shape of its definition, and
`StopsAtFirst.iff_of_exits` reduces a property of all choices of failing steps to the exits.

Does not own any particular component.
-/

namespace Gecit.Foundation

variable {Resource Step A B : Type*}

/-! ### The ledger -/

inductive Event (Resource : Type*) where
  | acquire (resource : Resource)
  | release (resource : Resource)
deriving DecidableEq, Repr

abbrev Ledger (Resource : Type*) := List (Event Resource)

namespace Ledger

def acquired (ledger : Ledger Resource) : List Resource :=
  ledger.filterMap fun
    | .acquire resource => some resource
    | .release _ => none

def released (ledger : Ledger Resource) : List Resource :=
  ledger.filterMap fun
    | .acquire _ => none
    | .release resource => some resource

/-- Every acquired resource has been released exactly once. -/
def Balanced [DecidableEq Resource] (ledger : Ledger Resource) : Prop :=
  ∀ resource ∈ ledger.acquired, ledger.released.count resource = 1

instance [DecidableEq Resource] (ledger : Ledger Resource) : Decidable ledger.Balanced := by
  unfold Balanced
  infer_instance

end Ledger

/-- A start that fails has released everything when it returns, one that succeeds when it has been
stopped. -/
def Balances [DecidableEq Resource] (ledger : A → Ledger Resource) (stop : A → A) :
    A × Bool → Prop
  | (left, false) => (ledger left).Balanced
  | (started, true) => (ledger (stop started)).Balanced

instance [DecidableEq Resource] (ledger : A → Ledger Resource) (stop : A → A)
    (outcome : A × Bool) : Decidable (Balances ledger stop outcome) := by
  unfold Balances
  split <;> infer_instance

/-! ### The first step that fails -/

def firstFailing (order : List Step) (fails : Step → Bool) : Option Step := order.find? fails

/-- Where a start may be left: nowhere, or at one of its steps. -/
def exits (order : List Step) : List (Option Step) := none :: order.map some

theorem firstFailing_mem (order : List Step) (fails : Step → Bool) :
    firstFailing order fails ∈ exits order := by
  cases first : firstFailing order fails with
  | none => exact List.mem_cons_self
  | some step =>
      have member : step ∈ order := List.mem_of_find?_eq_some first
      exact List.mem_cons_of_mem _ (List.mem_map_of_mem member)

/-- The choice in which no other step fails. -/
def only [DecidableEq Step] (first : Option Step) (step : Step) : Bool := first == some step

theorem firstFailing_only [DecidableEq Step] {order : List Step} {first : Option Step}
    (exit : first ∈ exits order) : firstFailing order (only first) = first := by
  rcases List.mem_cons.mp exit with rfl | mapped
  · apply List.find?_eq_none.mpr
    intro step _ fails
    contradiction
  · obtain ⟨step, member, rfl⟩ := List.mem_map.mp mapped
    cases found : firstFailing order (only (some step)) with
    | none =>
        have passes := List.find?_eq_none.mp found step member
        exact absurd (beq_self_eq_true (some step)) passes
    | some other =>
        have fails := List.find?_some found
        exact (eq_of_beq fails).symm

theorem firstFailing_append (order later : List Step) (fails : Step → Bool) :
    firstFailing (order ++ later) fails =
      (firstFailing order fails).or (firstFailing later fails) :=
  List.find?_append

/-- The first failing step of a beginning is known from the whole order. -/
theorem firstFailing_of_append {order later : List Step} {fails other : Step → Bool}
    (same : firstFailing (order ++ later) fails = firstFailing (order ++ later) other) :
    firstFailing order fails = firstFailing order other := by
  have notLate : ∀ {fails other : Step → Bool} {step : Step},
      firstFailing (order ++ later) fails = firstFailing (order ++ later) other →
        firstFailing order fails = some step → firstFailing order other ≠ none := by
    intro fails other step same first none
    rw [firstFailing_append, firstFailing_append, first, none] at same
    have failsOther : other step = true := List.find?_some same.symm
    exact List.find?_eq_none.mp none step (List.mem_of_find?_eq_some first) failsOther
  cases first : firstFailing order fails with
  | none =>
      cases second : firstFailing order other with
      | none => rfl
      | some step => exact absurd first (notLate same.symm second)
  | some step =>
      cases second : firstFailing order other with
      | none => exact absurd second (notLate same first)
      | some step => rwa [firstFailing_append, firstFailing_append, first, second] at same

/-- The start succeeds if no step fails, and depends on nothing but the first one that does. -/
structure StopsAtFirst (order : List Step) (start : (Step → Bool) → A × Bool) : Prop where
  depends : ∀ fails other, firstFailing order fails = firstFailing order other →
    start fails = start other
  succeeds : ∀ fails, (start fails).2 = (firstFailing order fails).isNone

/-- `if err != nil`: what is done then, and what follows otherwise. -/
def ifErr (outcome : A × Bool) (error : A → B) (next : A → B × Bool) : B × Bool :=
  match outcome with
  | (result, false) => (error result, false)
  | (result, true) => next result

namespace StopsAtFirst

variable {order : List Step} {start : (Step → Bool) → A × Bool}

theorem nil (result : A) : StopsAtFirst ([] : List Step) fun _ => (result, true) where
  depends := fun _ _ _ => rfl
  succeeds := fun _ => rfl

theorem cons (stops : StopsAtFirst order start) (step : Step) (left : A) :
    StopsAtFirst (step :: order) fun fails =>
      if fails step then (left, false) else start fails where
  depends := by
    intro fails other same
    simp only [firstFailing, List.find?_cons] at same
    cases here : fails step with
    | false =>
        cases there : other step with
        | false =>
            simp only [here, there] at same ⊢
            exact stops.depends fails other same
        | true =>
            simp only [here, there] at same
            have fails := List.find?_some same
            rw [here] at fails
            contradiction
    | true =>
        cases there : other step with
        | false =>
            simp only [here, there] at same
            have fails := List.find?_some same.symm
            rw [there] at fails
            contradiction
        | true => rfl
  succeeds := by
    intro fails
    cases here : fails step with
    | true => simp [firstFailing, here]
    | false => simpa [firstFailing, here] using stops.succeeds fails

/-- One start after another, of a component that the second one is given. -/
theorem andThen {later : List Step} {next : A → (Step → Bool) → B × Bool}
    (stops : StopsAtFirst order start) (error : A → B)
    (stopsNext : ∀ result, StopsAtFirst later (next result)) :
    StopsAtFirst (order ++ later) fun fails =>
      ifErr (start fails) error (next · fails) where
  depends := by
    intro fails other same
    have first := firstFailing_of_append same
    have succeeds := stops.succeeds other
    rw [stops.depends fails other first]
    rw [firstFailing_append, firstFailing_append, first] at same
    cases reached : start other with
    | mk result success =>
        cases success with
        | false => rfl
        | true =>
            rw [reached] at succeeds
            rw [Option.isNone_iff_eq_none.mp succeeds.symm] at same
            exact (stopsNext result).depends fails other same
  succeeds := by
    intro fails
    have succeeds := stops.succeeds fails
    rw [firstFailing_append]
    cases reached : start fails with
    | mk result success =>
        rw [reached] at succeeds
        cases success with
        | false =>
            cases first : firstFailing order fails with
            | none =>
                rw [first] at succeeds
                contradiction
            | some step => rfl
        | true =>
            rw [Option.isNone_iff_eq_none.mp succeeds.symm]
            exact (stopsNext result).succeeds fails

/-- What holds at each exit holds for every choice of failing steps. -/
theorem iff_of_exits [DecidableEq Step] (stops : StopsAtFirst order start)
    (Property : A × Bool → Prop) (condition : Option Step → Prop)
    (atExits : ∀ first ∈ exits order, Property (start (only first)) ↔ condition first)
    (fails : Step → Bool) : Property (start fails) ↔ condition (firstFailing order fails) := by
  have exit := firstFailing_mem order fails
  rw [stops.depends fails _ (firstFailing_only exit).symm]
  exact atExits _ exit

end StopsAtFirst

end Gecit.Foundation
