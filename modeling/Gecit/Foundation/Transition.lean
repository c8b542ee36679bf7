import Mathlib.Data.List.Induction

/-!
Contract: schedules of a partial step function.

A step is refused with `none`; a schedule runs when none of its actions is
refused. Invariants are carried from steps to schedules in two forms: with the
actions taken so far, and with a condition on each action and the state it meets.

Does not own any particular system.
-/

namespace Gecit.Foundation

variable {State Action : Type*} (step : State → Action → Option State)

def run (state : State) (schedule : List Action) : Option State := schedule.foldlM step state

variable {step}

theorem run_append (state : State) (first second : List Action) :
    run step state (first ++ second) = (run step state first).bind (run step · second) := by
  rw [run, List.foldlM_append]
  rfl

theorem run_concat (state : State) (past : List Action) (action : Action) :
    run step state (past ++ [action]) = (run step state past).bind (step · action) := by
  rw [run_append]
  congr 1
  funext middle
  simp [run]

/-- A guarded step that is taken. -/
theorem guarded_eq_some {guard : Prop} [Decidable guard] {state next : State}
    (taken : (if guard then some state else none) = some next) : guard ∧ next = state := by
  obtain ⟨holds, same⟩ := Option.ite_none_right_eq_some.mp taken
  exact ⟨holds, (Option.some.inj same).symm⟩

/-- A schedule that runs was running before its last action. -/
theorem run_concat_eq_some {state final : State} {past : List Action} {action : Action}
    (reached : run step state (past ++ [action]) = some final) :
    ∃ middle, run step state past = some middle ∧ step middle action = some final := by
  rw [run_concat] at reached
  exact Option.bind_eq_some_iff.mp reached

/-- Step lemma to run lemma, with the past and a condition on each step. -/
theorem run_history {initial : State} {Invariant : List Action → State → Prop}
    {Allowed : List Action → Action → Prop} (start : Invariant [] initial)
    (preserved : ∀ past action state next, Invariant past state → step state action = some next →
      Allowed past action → Invariant (past ++ [action]) next)
    {schedule : List Action} {final : State} (reached : run step initial schedule = some final)
    (allowed : ∀ past action rest, schedule = past ++ action :: rest → Allowed past action) :
    Invariant schedule final := by
  induction schedule using List.reverseRecOn generalizing final with
  | nil =>
      obtain rfl := Option.some.inj reached
      exact start
  | append_singleton past action inductionHypothesis =>
      obtain ⟨middle, before, lastStep⟩ := run_concat_eq_some reached
      apply preserved past action middle final ?_ lastStep (allowed past action [] rfl)
      apply inductionHypothesis before
      intro earlier current rest split
      apply allowed earlier current (rest ++ [action])
      rw [split, List.append_assoc, List.cons_append]

/-- Step lemma to run lemma, for an invariant of the state alone. -/
theorem run_invariant {Invariant : State → Prop}
    (preserved : ∀ state action next, Invariant state → step state action = some next →
      Invariant next)
    {initial final : State} (start : Invariant initial) {schedule : List Action}
    (reached : run step initial schedule = some final) : Invariant final := by
  have carried := @run_history State Action step initial (fun _ => Invariant) (fun _ _ => True) start
  apply carried ?_ reached fun _ _ _ _ => trivial
  intro past action state next holds stepped _
  exact preserved state action next holds stepped

variable (step) in
/-- An action of a schedule that runs from `initial` to `final`, and the states around it. -/
structure Occurrence (initial : State) (schedule : List Action) (final : State) where
  past : List Action
  action : Action
  rest : List Action
  before : State
  after : State
  split : schedule = past ++ action :: rest
  reached : run step initial past = some before
  stepped : step before action = some after
  finished : run step after rest = some final

theorem Occurrence.reached_final {initial final : State} {schedule : List Action}
    (moment : Occurrence step initial schedule final) : run step initial schedule = some final := by
  have stepThenRest : run step moment.before (moment.action :: moment.rest) = some final := by
    rw [run, List.foldlM_cons, moment.stepped]
    exact moment.finished
  rw [moment.split, run_append, moment.reached]
  exact stepThenRest

variable (step) in
/-- Every action of the schedule meets `condition` in the state it is taken in. -/
def Meets (condition : State → Action → Prop) : State → List Action → Prop
  | _, [] => True
  | state, action :: rest =>
      condition state action ∧ ∀ next ∈ step state action, Meets condition next rest

instance decidableMeets (condition : State → Action → Prop)
    [∀ state action, Decidable (condition state action)] :
    ∀ state schedule, Decidable (Meets step condition state schedule)
  | _, [] => isTrue trivial
  | state, action :: rest =>
      have : DecidablePred fun next => Meets step condition next rest :=
        fun next => decidableMeets condition next rest
      inferInstanceAs
        (Decidable (condition state action ∧ ∀ next ∈ step state action, Meets step condition next rest))

/-- Step lemma to run lemma, with a condition on each step. -/
theorem run_meeting {Invariant : State → Prop} {condition : State → Action → Prop}
    (preserved : ∀ state action next, Invariant state → condition state action →
      step state action = some next → Invariant next)
    {initial final : State} {schedule : List Action} (start : Invariant initial)
    (reached : run step initial schedule = some final)
    (meets : Meets step condition initial schedule) : Invariant final := by
  induction schedule generalizing initial with
  | nil =>
      obtain rfl := Option.some.inj reached
      exact start
  | cons action rest inductionHypothesis =>
      rw [run, List.foldlM_cons] at reached
      obtain ⟨next, stepped, later⟩ := Option.bind_eq_some_iff.mp reached
      have kept := preserved initial action next start meets.1 stepped
      exact inductionHypothesis kept later (meets.2 next stepped)

variable (step) in
/-- Every state that the schedule runs through is safe. -/
def Always (Safe : State → Prop) : State → List Action → Prop
  | state, [] => Safe state
  | state, action :: rest => Safe state ∧ ∀ next ∈ step state action, Always Safe next rest

theorem Always.here {Safe : State → Prop} {state : State} {schedule : List Action}
    (always : Always step Safe state schedule) : Safe state := by
  cases schedule with
  | nil => exact always
  | cons => exact always.1

/-- Step lemma to run lemma, for every state that the schedule runs through. -/
theorem always_of_meets {Invariant Safe : State → Prop} {condition : State → Action → Prop}
    (preserved : ∀ state action next, Invariant state → condition state action →
      step state action = some next → Invariant next)
    (safe : ∀ state, Invariant state → Safe state) {initial : State} {schedule : List Action}
    (start : Invariant initial) (meets : Meets step condition initial schedule) :
    Always step Safe initial schedule := by
  induction schedule generalizing initial with
  | nil => exact safe initial start
  | cons action rest inductionHypothesis =>
      refine ⟨safe initial start, ?_⟩
      intro next stepped
      have kept := preserved initial action next start meets.1 stepped
      exact inductionHypothesis kept (meets.2 next stepped)

/-- A condition that is exact for each step is exact for the run: under the invariant, the
states of a run are safe if and only if all its steps meet the condition. -/
theorem always_iff_meets {Invariant Safe : State → Prop} {condition : State → Action → Prop}
    (preserved : ∀ state action next, Invariant state → step state action = some next →
      Invariant next)
    (exact_ : ∀ state action next, Invariant state → Safe state → step state action = some next →
      (Safe next ↔ condition state action))
    {initial final : State} {schedule : List Action} (start : Invariant initial)
    (safe : Safe initial) (reached : run step initial schedule = some final) :
    Always step Safe initial schedule ↔ Meets step condition initial schedule := by
  induction schedule generalizing initial with
  | nil => exact iff_of_true safe trivial
  | cons action rest inductionHypothesis =>
      rw [run, List.foldlM_cons] at reached
      obtain ⟨next, stepped, later⟩ := Option.bind_eq_some_iff.mp reached
      have kept := preserved initial action next start stepped
      have steps := exact_ initial action next start safe stepped
      rw [Always, Meets, stepped]
      constructor
      · rintro ⟨_, always⟩
        have alwaysNext := always next rfl
        have safeNext := alwaysNext.here
        refine ⟨steps.mp safeNext, ?_⟩
        intro other same
        obtain rfl := Option.some.inj same
        exact (inductionHypothesis kept safeNext later).mp alwaysNext
      · rintro ⟨meetsNow, meets⟩
        refine ⟨safe, ?_⟩
        intro other same
        obtain rfl := Option.some.inj same
        have safeNext := steps.mpr meetsNow
        exact (inductionHypothesis kept safeNext later).mpr (meets _ rfl)

theorem Meets.and {first second : State → Action → Prop} {initial : State} {schedule : List Action}
    (meetsFirst : Meets step first initial schedule)
    (meetsSecond : Meets step second initial schedule) :
    Meets step (fun state action => first state action ∧ second state action) initial schedule := by
  induction schedule generalizing initial with
  | nil => trivial
  | cons action rest inductionHypothesis =>
      refine ⟨⟨meetsFirst.1, meetsSecond.1⟩, ?_⟩
      intro next stepped
      exact inductionHypothesis (meetsFirst.2 next stepped) (meetsSecond.2 next stepped)

/-- The beginning of a schedule meets what the whole schedule meets. -/
theorem Meets.before {condition : State → Action → Prop} {initial : State}
    {past rest : List Action} (meets : Meets step condition initial (past ++ rest)) :
    Meets step condition initial past := by
  induction past generalizing initial with
  | nil => trivial
  | cons action past inductionHypothesis =>
      refine ⟨meets.1, ?_⟩
      intro next stepped
      exact inductionHypothesis (meets.2 next stepped)

/-- And so does what follows it. -/
theorem Meets.after {condition : State → Action → Prop} {initial middle : State}
    {past rest : List Action} (meets : Meets step condition initial (past ++ rest))
    (reached : run step initial past = some middle) : Meets step condition middle rest := by
  induction past generalizing initial with
  | nil =>
      obtain rfl := Option.some.inj reached
      exact meets
  | cons action past inductionHypothesis =>
      rw [run, List.foldlM_cons] at reached
      obtain ⟨next, stepped, later⟩ := Option.bind_eq_some_iff.mp reached
      exact inductionHypothesis (meets.2 next stepped) later

/-- A condition on the actions alone. -/
theorem meets_of_forall {condition : Action → Prop} {schedule : List Action}
    (all : ∀ action ∈ schedule, condition action) (initial : State) :
    Meets step (fun _ => condition) initial schedule := by
  induction schedule generalizing initial with
  | nil => trivial
  | cons action rest inductionHypothesis =>
      refine ⟨all action List.mem_cons_self, ?_⟩
      intro next _
      exact inductionHypothesis (fun other there => all other (List.mem_cons_of_mem _ there)) next

/-- What holds in every state of a run holds before each of its actions. -/
theorem Always.meets {Safe : State → Prop} {initial : State} {schedule : List Action}
    (always : Always step Safe initial schedule) :
    Meets step (fun state _ => Safe state) initial schedule := by
  induction schedule generalizing initial with
  | nil => trivial
  | cons action rest inductionHypothesis =>
      refine ⟨always.1, ?_⟩
      intro next stepped
      exact inductionHypothesis (always.2 next stepped)

/-- A schedule that runs does so in two parts. -/
theorem run_append_eq_some {initial final : State} {past rest : List Action}
    (reached : run step initial (past ++ rest) = some final) :
    ∃ middle, run step initial past = some middle ∧ run step middle rest = some final := by
  rw [run_append] at reached
  exact Option.bind_eq_some_iff.mp reached

theorem run_cons_eq_some {initial final : State} {action : Action} {rest : List Action}
    (reached : run step initial (action :: rest) = some final) :
    ∃ next, step initial action = some next ∧ run step next rest = some final := by
  rw [run, List.foldlM_cons] at reached
  exact Option.bind_eq_some_iff.mp reached

/-- A condition is met if it holds wherever the run comes to an action. -/
theorem meets_of_prefixes {condition : State → Action → Prop} {initial : State}
    {schedule : List Action}
    (everywhere : ∀ past action rest before, schedule = past ++ action :: rest →
      run step initial past = some before → condition before action) :
    Meets step condition initial schedule := by
  induction schedule generalizing initial with
  | nil => trivial
  | cons action rest inductionHypothesis =>
      refine ⟨everywhere [] action rest initial rfl rfl, ?_⟩
      intro next stepped
      apply inductionHypothesis
      intro past later remaining before split reached
      apply everywhere (action :: past) later remaining before
      · rw [split, List.cons_append]
      · rw [run, List.foldlM_cons, stepped]
        exact reached

end Gecit.Foundation
