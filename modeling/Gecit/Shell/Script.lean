import Mathlib.Logic.Basic

/-!
Contract: scripts that run under `set -u`.

A statement changes the state and yields a value, or it ends the script: an expansion of what
is not set does. What is written after a statement runs only if the script goes on.

Owns the expansions and the rules for what a script reaches. Does not own any script.
-/

namespace Gecit.Shell

/-- Without a value the script has ended. -/
abbrev Script (σ α : Type) := OptionT (StateM σ) α

variable {σ α β : Type}

/-- Where a script leaves the state. -/
def outcome (script : Script σ α) (state : σ) : Option α × σ := script.run.run state

/-- `"$name"` -/
def expand (value : Option α) : Script σ α := OptionT.mk (pure value)

/-- `"${name[@]}"`, for which an array without elements is not set. -/
def expandAll (values : List α) : Script σ (List α) := if values = [] then failure else pure values

/-- From the state the script does not end, and what it leaves meets the condition. -/
def GoesOn (script : Script σ α) (post : α → σ → Prop) (state : σ) : Prop :=
  ∃ value after, outcome script state = (some value, after) ∧ post value after

/-- Whether the script goes on or has ended, what it leaves meets the condition. -/
def Leaves (script : Script σ α) (post : Option α → σ → Prop) (state : σ) : Prop :=
  post (outcome script state).1 (outcome script state).2

/-- The script never ends, and what is observed of the state stays. -/
def Keeps {κ : Type} (observe : σ → κ) (script : Script σ α) : Prop :=
  ∀ state, GoesOn script (fun _ after => observe after = observe state) state

/-! ### Statements -/

section Statements

variable {post : α → σ → Prop} {state : σ}

/-- The outcome decides. -/
theorem goesOn_of_outcome {script : Script σ α} {value : α} {after : σ}
    (reached : outcome script state = (some value, after)) :
    GoesOn script post state ↔ post value after := by
  unfold GoesOn
  rw [reached]
  constructor
  · intro goesOn
    obtain ⟨_, _, same, met⟩ := goesOn
    cases same
    exact met
  · intro met
    exact ⟨value, after, rfl, met⟩

theorem not_goesOn_of_outcome {script : Script σ α} (ended : (outcome script state).1 = none) :
    ¬ GoesOn script post state := by
  intro goesOn
  obtain ⟨_, _, reached, _⟩ := goesOn
  rw [reached] at ended
  contradiction

@[simp] theorem goesOn_pure {value : α} : GoesOn (pure value) post state ↔ post value state :=
  goesOn_of_outcome rfl

theorem outcome_bind (script : Script σ β) (next : β → Script σ α) (state : σ) :
    outcome (script >>= next) state =
      match outcome script state with
      | (some value, after) => outcome (next value) after
      | (none, after) => (none, after) := by
  simp only [outcome, OptionT.run_bind, Option.elimM, StateT.run_bind]
  generalize script.run.run state = reached
  obtain ⟨_ | value, after⟩ := reached
  · rfl
  · rfl

@[simp] theorem goesOn_bind {script : Script σ β} {next : β → Script σ α} :
    GoesOn (script >>= next) post state ↔
      GoesOn script (fun value after => GoesOn (next value) post after) state := by
  have composed := outcome_bind script next state
  cases reached : outcome script state with
  | mk value after =>
      rw [reached] at composed
      cases value with
      | none =>
          apply iff_of_false
          · exact not_goesOn_of_outcome (congrArg Prod.fst composed)
          · exact not_goesOn_of_outcome (congrArg Prod.fst reached)
      | some value =>
          rw [goesOn_of_outcome reached, GoesOn, composed]
          rfl

@[simp] theorem goesOn_get {post : σ → σ → Prop} : GoesOn get post state ↔ post state state :=
  goesOn_of_outcome rfl

@[simp] theorem goesOn_modify {change : σ → σ} {post : Unit → σ → Prop} :
    GoesOn (modify change) post state ↔ post () (change state) :=
  goesOn_of_outcome rfl

@[simp] theorem goesOn_failure : ¬ GoesOn failure post state := not_goesOn_of_outcome rfl

@[simp] theorem goesOn_expand {value : Option α} :
    GoesOn (expand value) post state ↔ ∃ found, value = some found ∧ post found state := by
  cases value with
  | none =>
      apply iff_of_false (not_goesOn_of_outcome rfl)
      intro found
      obtain ⟨_, impossible, _⟩ := found
      contradiction
  | some found =>
      have decided : GoesOn (expand (some found)) post state ↔ post found state :=
        goesOn_of_outcome rfl
      rw [decided]
      constructor
      · intro met
        exact ⟨found, rfl, met⟩
      · intro met
        obtain ⟨_, same, met⟩ := met
        cases same
        exact met

@[simp] theorem goesOn_expandAll {values : List α} {post : List α → σ → Prop} :
    GoesOn (expandAll values) post state ↔ values ≠ [] ∧ post values state := by
  unfold expandAll
  split
  next empty => exact iff_of_false goesOn_failure fun both => both.1 empty
  next nonempty => exact goesOn_pure.trans (and_iff_right nonempty).symm

theorem GoesOn.mono {script : Script σ α} {post' : α → σ → Prop}
    (goesOn : GoesOn script post state)
    (weaker : ∀ value after, post value after → post' value after) :
    GoesOn script post' state := by
  obtain ⟨value, after, reached, met⟩ := goesOn
  exact ⟨value, after, reached, weaker value after met⟩

/-- A script leaves one value in one state. -/
theorem GoesOn.and {script : Script σ α} {post' : α → σ → Prop} (goesOn : GoesOn script post state)
    (goesOn' : GoesOn script post' state) :
    GoesOn script (fun value after => post value after ∧ post' value after) state := by
  obtain ⟨value, after, reached, met⟩ := goesOn
  obtain ⟨_, _, same, met'⟩ := goesOn'
  cases reached.symm.trans same
  exact ⟨value, after, reached, met, met'⟩

/-- What follows a script that goes on, with what is known of the state in between. -/
theorem GoesOn.bind {script : Script σ β} {next : β → Script σ α} {between : β → σ → Prop}
    (goesOn : GoesOn script between state)
    (later : ∀ value after, between value after → GoesOn (next value) post after) :
    GoesOn (script >>= next) post state :=
  goesOn_bind.mpr (goesOn.mono later)

end Statements

/-! ### Scripts that may end -/

section Leavings

variable {post : Option α → σ → Prop} {state : σ}

@[simp] theorem leaves_pure {value : α} : Leaves (pure value) post state ↔ post (some value) state :=
  Iff.rfl

@[simp] theorem leaves_get {post : Option σ → σ → Prop} :
    Leaves get post state ↔ post (some state) state :=
  Iff.rfl

@[simp] theorem leaves_modify {change : σ → σ} {post : Option Unit → σ → Prop} :
    Leaves (modify change) post state ↔ post (some ()) (change state) :=
  Iff.rfl

@[simp] theorem leaves_expand {value : Option α} : Leaves (expand value) post state ↔ post value state :=
  Iff.rfl

/-- A script that ends leaves what it has reached. -/
@[simp] theorem leaves_bind {script : Script σ β} {next : β → Script σ α} :
    Leaves (script >>= next) post state ↔
      Leaves script (fun reached after =>
        match reached with
        | some value => Leaves (next value) post after
        | none => post none after) state := by
  unfold Leaves
  rw [outcome_bind]
  obtain ⟨_ | value, after⟩ := outcome script state
  · rfl
  · rfl

theorem Leaves.mono {script : Script σ α} {post' : Option α → σ → Prop}
    (leaves : Leaves script post state)
    (weaker : ∀ reached after, post reached after → post' reached after) :
    Leaves script post' state :=
  weaker _ _ leaves

/-- What follows, with what is known in between, and the end without what follows. -/
theorem Leaves.bind {script : Script σ β} {next : β → Script σ α}
    {between : Option β → σ → Prop} (leaves : Leaves script between state)
    (later : ∀ value after, between (some value) after → Leaves (next value) post after)
    (ended : ∀ after, between none after → post none after) :
    Leaves (script >>= next) post state := by
  apply leaves_bind.mpr
  apply leaves.mono
  intro reached after known
  cases reached with
  | some value => exact later value after known
  | none => exact ended after known

theorem GoesOn.leaves {script : Script σ α} {goal : α → σ → Prop} (goesOn : GoesOn script goal state)
    (covers : ∀ value after, goal value after → post (some value) after) :
    Leaves script post state := by
  obtain ⟨value, after, reached, met⟩ := goesOn
  unfold Leaves
  rw [reached]
  exact covers value after met

end Leavings

/-! ### What stays -/

section Frames

variable {κ : Type} {observe : σ → κ}

theorem Keeps.pure (value : α) : Keeps observe (Pure.pure value : Script σ α) :=
  fun _ => goesOn_pure.mpr rfl

theorem Keeps.get : Keeps observe (MonadState.get : Script σ σ) := fun _ => goesOn_get.mpr rfl

theorem Keeps.change {change : σ → σ}
    (unseen : ∀ state, observe (change state) = observe state) :
    Keeps observe (modify change : Script σ Unit) :=
  fun state => goesOn_modify.mpr (unseen state)

theorem Keeps.bind {script : Script σ β} {next : β → Script σ α} (first : Keeps observe script)
    (later : ∀ value, Keeps observe (next value)) : Keeps observe (script >>= next) := by
  intro state
  apply (first state).bind
  intro value between same
  exact (later value between).mono fun _ _ still => still.trans same

theorem Keeps.ite {condition : Prop} [Decidable condition] {yes no : Script σ α}
    (ifYes : Keeps observe yes) (ifNo : Keeps observe no) :
    Keeps observe (if condition then yes else no) := by
  split
  · exact ifYes
  · exact ifNo

/-- What stays determines what else stays. -/
theorem Keeps.coarsen {ι : Type} {script : Script σ α} (keeps : Keeps observe script)
    (coarser : κ → ι) : Keeps (fun state => coarser (observe state)) script :=
  fun state => (keeps state).mono fun _ _ same => congrArg coarser same

end Frames

end Gecit.Shell
