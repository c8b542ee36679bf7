import Gecit.Foundation.Transition
import Gecit.Macos.Command

/-!
Contract: the command file between the app, which replaces it at any time, and the daemon, which
tests, reads, empties and handles it in separate steps.

Commands are numbered in the order in which they are sent. The file that the daemon empties is
not always the one it read.

Owns the loop of the daemon and the exact condition under which no last command is lost. Does
not own what a command does.
-/

namespace Gecit.Macos

open Gecit.Foundation
open Gecit.Go

/-- A command in the file. -/
structure Letter where
  number : Nat
  text : Bytes
  sent : ∃ command, send command = some text

/-- The next step of the daemon. -/
inductive Phase where
  /-- `[ -s "$CMD_FILE" ]` -/
  | test
  | read
  /-- `: > "$CMD_FILE"`, with the command that was read. -/
  | truncate (letter : Letter)
  /-- `handle_command`, with the number of commands sent before the file was emptied. -/
  | handle (letter : Letter) (sentBefore : Nat)
  | sleep
  /-- The script has ended. -/
  | ended

structure CommandFile where
  /-- `none` for the empty file. -/
  file : Option Letter
  phase : Phase
  /-- How many commands were sent. -/
  sent : Nat
  /-- The numbers of the commands that were handled. -/
  handled : List Nat

inductive CommandFileAction where
  | send (command : Bytes)
  /-- The daemon takes its next step. -/
  | daemon

def emptyCommandFile : CommandFile := ⟨none, .test, 0, []⟩

namespace CommandFile

def daemonStep (state : CommandFile) : Option CommandFile :=
  match state.phase with
  | .test => some { state with phase := if state.file.isSome then .read else .sleep }
  -- Only the daemon empties the file, so there is one to read.
  | .read => state.file.map fun letter => { state with phase := .truncate letter }
  | .truncate letter => some { state with file := none, phase := .handle letter state.sent }
  | .handle letter _ =>
      match handleCommand (readCommand letter.text) with
      | none => some { state with phase := .ended }
      | some _ => some { state with handled := letter.number :: state.handled, phase := .sleep }
  | .sleep => some { state with phase := .test }
  | .ended => none

def step (state : CommandFile) : CommandFileAction → Option CommandFile
  | .send command =>
      match given : Macos.send command with
      | none => none
      | some text =>
          some
            { state with
              file := some ⟨state.sent, text, command, given⟩
              sent := state.sent + 1 }
  | .daemon => state.daemonStep

/-- The file is empty, the daemon is between commands, and the last command was never handled. -/
def LastLost (state : CommandFile) : Prop :=
  state.file = none ∧ (state.phase = .test ∨ state.phase = .sleep) ∧
    ∃ last, state.sent = last + 1 ∧ last ∉ state.handled

/-- A handling may end: no command was sent between the reading and the emptying of the file, or
one was sent since. -/
def MayEnd (state : CommandFile) : Phase → Prop
  | .handle letter sentBefore => sentBefore = letter.number + 1 ∨ sentBefore < state.sent
  | .test | .read | .truncate _ | .sleep | .ended => True

def Undisturbed (state : CommandFile) : CommandFileAction → Prop
  | .send _ => True
  | .daemon => state.MayEnd state.phase

/-- Commands that were handled are older than this one. -/
def Newest (state : CommandFile) (letter : Letter) : Prop :=
  ∀ number ∈ state.handled, number < letter.number

/-- What holds before each step of the daemon. -/
def Before (state : CommandFile) : Phase → Prop
  | .test | .sleep => True
  | .read => state.file ≠ none
  | .truncate letter => letter.number < state.sent ∧ state.Newest letter
  | .handle letter sentBefore =>
      letter.number < sentBefore ∧ sentBefore ≤ state.sent ∧
        (state.file = none ↔ sentBefore = state.sent) ∧ state.Newest letter
  | .ended => False

/-- The file holds the last command that was sent, and commands are handled in their order. -/
structure Orderly (state : CommandFile) : Prop where
  current : ∀ letter, state.file = some letter →
    letter.number + 1 = state.sent ∧ state.Newest letter
  handled : ∀ number ∈ state.handled, number < state.sent
  before : state.Before state.phase

variable {state next : CommandFile}

/-! ### One step -/

theorem orderly_empty : emptyCommandFile.Orderly where
  current := fun _ none_ => absurd none_ (Option.some_ne_none _).symm
  handled := fun _ missing => absurd missing List.not_mem_nil
  before := trivial

theorem Orderly.send {command text : Bytes} (given : Macos.send command = some text)
    (orderly : state.Orderly) :
    Orderly { state with file := some ⟨state.sent, text, command, given⟩, sent := state.sent + 1 } where
  current := by
    intro letter same
    obtain rfl := Option.some.inj same
    exact ⟨rfl, orderly.handled⟩
  handled := by
    intro number there
    exact Nat.lt_succ_of_lt (orderly.handled number there)
  before := by
    have before := orderly.before
    show Before _ state.phase
    cases atPhase : state.phase with
    | test | sleep => trivial
    | read => exact Option.some_ne_none _
    | truncate letter =>
        rw [atPhase] at before
        exact ⟨Nat.lt_succ_of_lt before.1, before.2⟩
    | handle letter sentBefore =>
        rw [atPhase] at before
        obtain ⟨older, within, _, newest⟩ := before
        have notLast : sentBefore ≠ state.sent + 1 := by omega
        exact ⟨older, Nat.le_succ_of_le within, iff_of_false (Option.some_ne_none _) notLast, newest⟩
    | ended =>
        rw [atPhase] at before
        exact before

theorem Orderly.daemonStep (orderly : state.Orderly) (stepped : state.daemonStep = some next) :
    next.Orderly := by
  have before := orderly.before
  unfold CommandFile.daemonStep at stepped
  split at stepped
  next atTest =>
    obtain rfl := Option.some.inj stepped
    refine ⟨orderly.current, orderly.handled, ?_⟩
    show Before _ (if state.file.isSome then Phase.read else Phase.sleep)
    split
    next full => exact Option.isSome_iff_ne_none.mp full
    next => trivial
  next atRead =>
    obtain ⟨letter, inFile, rfl⟩ := Option.map_eq_some_iff.mp stepped
    obtain ⟨last, newest⟩ := orderly.current letter inFile
    exact ⟨orderly.current, orderly.handled, Nat.lt_of_succ_le last.le, newest⟩
  next letter atTruncate =>
    obtain rfl := Option.some.inj stepped
    rw [atTruncate] at before
    refine ⟨?_, orderly.handled, before.1, le_rfl, iff_of_true rfl rfl, before.2⟩
    intro other none_
    contradiction
  next letter sentBefore atHandle =>
    rw [atHandle] at before
    obtain ⟨older, within, emptied, newest⟩ := before
    obtain ⟨command, given⟩ := letter.sent
    split at stepped
    next noCommand => exact absurd noCommand (handleCommand_ne_none given)
    next =>
      obtain rfl := Option.some.inj stepped
      refine ⟨?_, ?_, trivial⟩
      · intro other inFile
        obtain ⟨last, newestOther⟩ := orderly.current other inFile
        refine ⟨last, ?_⟩
        -- The file was written since it was emptied.
        have since : sentBefore ≠ state.sent := by
          intro same
          rw [emptied.mpr same] at inFile
          contradiction
        intro number there
        rcases List.mem_cons.mp there with rfl | earlier
        · omega
        · exact newestOther number earlier
      · intro number there
        rcases List.mem_cons.mp there with rfl | earlier
        · exact older.trans_le within
        · exact orderly.handled number earlier
  next atSleep =>
    obtain rfl := Option.some.inj stepped
    exact ⟨orderly.current, orderly.handled, trivial⟩
  next => contradiction

theorem Orderly.step {action : CommandFileAction} (orderly : state.Orderly)
    (stepped : state.step action = some next) : next.Orderly := by
  cases action with
  | send command =>
      simp only [CommandFile.step] at stepped
      split at stepped
      next => contradiction
      next text given =>
        obtain rfl := Option.some.inj stepped
        exact orderly.send given
  | daemon => exact orderly.daemonStep stepped

/-- The daemon can always take its next step. -/
theorem daemonStep_isSome (orderly : state.Orderly) : state.daemonStep.isSome = true := by
  have before := orderly.before
  unfold CommandFile.daemonStep
  cases atPhase : state.phase with
  | test | truncate | sleep => rfl
  | read =>
      rw [atPhase] at before
      dsimp only
      rw [Option.isSome_map]
      exact Option.isSome_iff_ne_none.mpr before
  | handle letter sentBefore =>
      dsimp only
      split <;> rfl
  | ended =>
      rw [atPhase] at before
      contradiction

/-! ### The last command -/

/-- A handling leaves the last command lost exactly when it was disturbed. -/
theorem lastLost_handle {letter : Letter} {sentBefore : Nat}
    (before : state.Before (.handle letter sentBefore)) :
    LastLost { state with handled := letter.number :: state.handled, phase := .sleep } ↔
      ¬ (sentBefore = letter.number + 1 ∨ sentBefore < state.sent) := by
  obtain ⟨older, within, emptied, newest⟩ := before
  constructor
  · rintro ⟨empty, _, last, isLast, missing⟩ undisturbed
    have same := emptied.mp empty
    rcases undisturbed with noneBetween | since
    · have isLetter : last = letter.number := by
        have sentLast : state.sent = last + 1 := isLast
        omega
      exact missing (isLetter ▸ List.mem_cons_self)
    · omega
  · intro disturbed
    have same : sentBefore = state.sent := by omega
    refine ⟨emptied.mpr same, .inr rfl, state.sent - 1, ?_, ?_⟩
    · show state.sent = state.sent - 1 + 1
      omega
    · intro there
      rcases List.mem_cons.mp there with isLetter | earlier
      · omega
      · have tooOld := newest _ earlier
        omega

theorem lastLost_step {action : CommandFileAction} (orderly : state.Orderly)
    (notLost : ¬ state.LastLost) (stepped : state.step action = some next) :
    ¬ next.LastLost ↔ state.Undisturbed action := by
  cases action with
  | send command =>
      simp only [CommandFile.step] at stepped
      split at stepped
      next => contradiction
      next text given =>
        obtain rfl := Option.some.inj stepped
        exact iff_of_true (fun lost => absurd lost.1 (Option.some_ne_none _)) trivial
  | daemon =>
      have before := orderly.before
      have stepped : state.daemonStep = some next := stepped
      unfold CommandFile.daemonStep at stepped
      unfold Undisturbed MayEnd
      cases atPhase : state.phase with
      | test =>
          rw [atPhase] at stepped
          obtain rfl := Option.some.inj stepped
          apply iff_of_true ?_ trivial
          rintro ⟨empty, _, unhandled⟩
          exact notLost ⟨empty, .inl atPhase, unhandled⟩
      | read =>
          rw [atPhase] at stepped
          obtain ⟨letter, inFile, rfl⟩ := Option.map_eq_some_iff.mp stepped
          apply iff_of_true ?_ trivial
          rintro ⟨_, between, _⟩
          rcases between with impossible | impossible <;> contradiction
      | truncate letter =>
          rw [atPhase] at stepped
          obtain rfl := Option.some.inj stepped
          apply iff_of_true ?_ trivial
          rintro ⟨_, between, _⟩
          rcases between with impossible | impossible <;> contradiction
      | handle letter sentBefore =>
          rw [atPhase] at stepped before
          obtain ⟨command, given⟩ := letter.sent
          dsimp only at stepped
          split at stepped
          next noCommand => exact absurd noCommand (handleCommand_ne_none given)
          next =>
            obtain rfl := Option.some.inj stepped
            rw [lastLost_handle before, not_not]
      | sleep =>
          rw [atPhase] at stepped
          obtain rfl := Option.some.inj stepped
          apply iff_of_true ?_ trivial
          rintro ⟨empty, _, unhandled⟩
          exact notLost ⟨empty, .inr atPhase, unhandled⟩
      | ended =>
          rw [atPhase] at before
          contradiction

/-- In every interleaving: the last command is never lost if and only if each handling is
undisturbed. -/
theorem never_lost_iff {schedule : List CommandFileAction} {final : CommandFile}
    (reached : run CommandFile.step emptyCommandFile schedule = some final) :
    Always CommandFile.step (fun state => ¬ state.LastLost) emptyCommandFile schedule ↔
      Meets CommandFile.step Undisturbed emptyCommandFile schedule := by
  apply @always_iff_meets _ _ CommandFile.step Orderly (fun state => ¬ state.LastLost) Undisturbed
    ?_ ?_ _ _ _ orderly_empty ?_ reached
  · intro state action next orderly stepped
    exact orderly.step stepped
  · intro state action next orderly notLost stepped
    exact lastLost_step orderly notLost stepped
  · rintro ⟨_, _, last, isLast, _⟩
    contradiction

/-! ### A stop request -/

instance (state : CommandFile) : ∀ phase, Decidable (state.MayEnd phase)
  | .handle letter sentBefore =>
      inferInstanceAs (Decidable (sentBefore = letter.number + 1 ∨ sentBefore < state.sent))
  | .test | .read | .truncate _ | .sleep | .ended => isTrue trivial

instance (state : CommandFile) : ∀ action, Decidable (state.Undisturbed action)
  | .send _ => isTrue trivial
  | .daemon => inferInstanceAs (Decidable (state.MayEnd state.phase))

def commandFileEnd (schedule : List CommandFileAction) : CommandFile :=
  (run CommandFile.step emptyCommandFile schedule).getD emptyCommandFile

/-- The stop is sent while the start is handled. -/
def stopDuringHandling : List CommandFileAction :=
  [.send (lit "start"), .daemon, .daemon, .daemon, .send (lit "stop"), .daemon, .daemon, .daemon,
    .daemon, .daemon, .daemon]

/-- The stop is sent between the reading and the emptying of the file. -/
def stopAfterReading : List CommandFileAction :=
  [.send (lit "start"), .daemon, .daemon, .send (lit "stop"), .daemon, .daemon]

theorem stop_during_handling_kept :
    Always CommandFile.step (fun state => ¬ state.LastLost) emptyCommandFile stopDuringHandling ∧
      (commandFileEnd stopDuringHandling).handled = [1, 0] := by
  have runs : (run CommandFile.step emptyCommandFile stopDuringHandling).isSome = true := by
    decide +kernel
  obtain ⟨final, reached⟩ := Option.isSome_iff_exists.mp runs
  refine ⟨(never_lost_iff reached).mpr ?_, by decide +kernel⟩
  decide +kernel

/-- The engine is started and goes on running. -/
theorem stop_after_reading_lost : ∃ final,
    run CommandFile.step emptyCommandFile stopAfterReading = some final ∧ final.handled = [0] ∧
      final.LastLost := by
  have runs : (run CommandFile.step emptyCommandFile stopAfterReading).isSome = true := by
    decide +kernel
  have handled : (commandFileEnd stopAfterReading).handled = [0] := by decide +kernel
  have sent : (commandFileEnd stopAfterReading).sent = 2 := by decide +kernel
  refine ⟨commandFileEnd stopAfterReading, ?_, handled, rfl, .inr rfl, 1, sent, ?_⟩
  · obtain ⟨final, reached⟩ := Option.isSome_iff_exists.mp runs
    rw [commandFileEnd, reached]
    rfl
  · rw [handled]
    decide

end CommandFile

end Gecit.Macos
