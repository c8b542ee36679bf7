import Mathlib.Data.List.DropRight
import Gecit.Macos.Daemon
import Gecit.Shell.Script

/-!
Contract: the helper daemon's script, statement by statement, in a round of its main loop.

The script runs under `set -u`. A round empties the command file, cuts what it read into words
and goes into one branch of `handle_command`. It comes back to the loop unless an expansion is
not set or a `kill` reaches the script itself.

Owns the functions of the script, without its log file, what each of them leaves alone, and the
engine's arguments. Does not own the processes that are started and signalled.
-/

namespace Gecit.Macos

open Gecit.Foundation
open Gecit.Go
open Gecit.Shell

/-! ### The script's surroundings -/

inductive Signal where
  | term
  | kill
deriving DecidableEq

structure System where
  /-- The n-th `kill -0` of a pid. -/
  alive : Nat → Bytes → Bool
  /-- The pid names the script itself, by its own pid or by its process group. -/
  reaches : Signal → Bytes → Bool
  reaches_nil : ∀ signal, reaches signal [] = false
  /-- A process may always signal itself. -/
  alive_of_reaches : ∀ {signal pid}, reaches signal pid = true → ∀ n, alive n pid = true
  /-- `[ -x "$BINARY" ]` -/
  executable : Bool
  /-- `$!` -/
  child : Bytes

/-- A line of `status.json`, without its time. -/
structure Announcement where
  state : RuntimeState
  pid : Bytes
  message : Bytes
deriving DecidableEq

structure Helper where
  commandFile : Bytes
  pidFile : Option Bytes
  safeArgs : List Bytes
  /-- What was written to `status.json`, in order. -/
  statuses : List Announcement
  /-- What `$BINARY` was called with, in order. -/
  calls : List (List Bytes)
  signals : List (Signal × Bytes)
  /-- How often `kill -0` was called. -/
  tests : Nat
  /-- The branches of `handle_command` that were entered, in order. -/
  branches : List HelperCommand

/-- `BINARY` -/
def binary : Bytes := lit "/Library/Application Support/Gecit/gecit-darwin-arm64"

/-- `$(cat file)`: without NUL bytes, and without the newlines at the end. -/
def substitution (file : Bytes) : Bytes := (file.filter (· ≠ 0)).rdropWhile (· = newline)

/-- `$(cat "$PID_FILE" 2>/dev/null || true)` -/
def Helper.currentPid (helper : Helper) : Bytes := substitution (helper.pidFile.getD [])

/-- What `$BINARY` is called with. -/
def StartChoice.calls : StartChoice → List (List Bytes)
  | .spawn args => [args]
  | .rejected | .alreadyRunning | .binaryMissing => []

namespace HelperScript

variable (system : System)

/-! ### Statements -/

/-- `kill -0 "$current_pid"` -/
def killZero (currentPid : Bytes) : Script Helper Bool := do
  let helper ← get
  modify fun helper => { helper with tests := helper.tests + 1 }
  pure (system.alive helper.tests currentPid)

def kill (signal : Signal) (currentPid : Bytes) : Script Helper Unit := do
  modify fun helper => { helper with signals := helper.signals ++ [(signal, currentPid)] }
  if system.reaches signal currentPid then failure else pure ()

def isRunning : Script Helper Bool := do
  let helper ← get
  if helper.pidFile.isNone then pure false
  else if helper.currentPid = [] then pure false
  else killZero system helper.currentPid

/-- The pid is tested as in `is_running`. -/
def writeStatus (state : RuntimeState) (message : Bytes) : Script Helper Unit := do
  let running ← isRunning system
  modify fun helper =>
    { helper with
      statuses := helper.statuses ++
        [⟨state, if running then helper.currentPid else lit "null", message⟩] }

def removePidFile : Script Helper Unit := modify fun helper => { helper with pidFile := none }

/-- `"$BINARY" "$@"` -/
def call (arguments : List Bytes) : Script Helper Unit :=
  modify fun helper => { helper with calls := helper.calls ++ [arguments] }

/-! ### Functions -/

/-- The rounds over `"$@"`. -/
def sanitizeLoop : List Bytes → Script Helper Bool
  | [] => pure true
  | token :: rest =>
      if tokenAllowed token then do
        modify fun helper => { helper with safeArgs := helper.safeArgs ++ [token] }
        sanitizeLoop rest
      else pure false

def sanitizeStartArgs (tokens : List Bytes) : Script Helper Bool := do
  modify fun helper => { helper with safeArgs := [] }
  sanitizeLoop tokens

/-- `args`; without elements `"${SAFE_ARGS[@]}"` is not expanded. -/
def engineArgs : Script Helper (List Bytes) := do
  let helper ← get
  if 0 < helper.safeArgs.length then
    let safeArgs ← expandAll helper.safeArgs
    pure ([lit "run", lit "-v"] ++ safeArgs)
  else pure [lit "run", lit "-v"]

/-- The engine in the background, and whether it is there two seconds later. -/
def launch : Script Helper Unit := do
  writeStatus system .starting (lit "Gecit başlatılıyor")
  let args ← engineArgs
  call args
  modify fun helper => { helper with pidFile := some (system.child ++ [newline]) }
  let running ← isRunning system
  if running then writeStatus system .running (lit "Gecit çalışıyor")
  else do
    removePidFile
    writeStatus system .error (lit "Gecit başlatılamadı")

/-- With the words of the command; the first one is shifted away. -/
def startGecit (parts : List Bytes) : Script Helper Unit := do
  let accepted ← sanitizeStartArgs parts.tail
  if ¬ accepted then writeStatus system .error (lit "Geçersiz başlatma parametresi")
  else do
    let running ← isRunning system
    if running then writeStatus system .running (lit "Gecit zaten çalışıyor")
    else if ¬ system.executable then
      writeStatus system .error (lit "Binary bulunamadı: " ++ binary)
    else launch system

/-- The signals of a stop, two seconds apart. -/
def killEngine : Script Helper Unit := do
  let running ← isRunning system
  if running then do
    let helper ← get
    kill system .term helper.currentPid
    kill system .kill helper.currentPid
  else pure ()

/-- The pid file goes, and the engine's binary restores what is left. -/
def cleanUp : Script Helper Unit := do
  removePidFile
  call [lit "cleanup"]
  writeStatus system .stopped (lit "Gecit durdu")

def stopGecit : Script Helper Unit := do
  writeStatus system .stopping (lit "Gecit durduruluyor")
  killEngine system
  cleanUp system

def enter (branch : HelperCommand) : Script Helper Unit :=
  modify fun helper => { helper with branches := helper.branches ++ [branch] }

def reportStatus : Script Helper Unit := do
  let running ← isRunning system
  if running then writeStatus system .running (lit "Gecit çalışıyor")
  else writeStatus system .stopped (lit "Gecit durdu")

def handleCommand (line : Bytes) : Script Helper Unit := do
  let parts := words line
  let command ← expand parts.head?
  if command = lit "start" then do
    enter (.start parts)
    let arguments ← expandAll parts
    startGecit system arguments
  else if command = lit "stop" then do
    enter .stop
    stopGecit system
  else if command = lit "cleanup" then do
    enter .cleanup
    stopGecit system
  else if command = lit "status" then do
    enter .status
    reportStatus system
  else do
    enter .unknown
    writeStatus system .error (lit "Geçersiz komut")

/-- Without a command, a running engine is reported. -/
def idle : Script Helper Unit := do
  let running ← isRunning system
  if running then writeStatus system .running (lit "Gecit çalışıyor")
  else pure ()

/-- A round of the main loop. -/
def mainLoop : Script Helper Unit := do
  let helper ← get
  if helper.commandFile ≠ [] then do
    modify fun helper => { helper with commandFile := [] }
    handleCommand system (readCommand helper.commandFile)
  else idle system

/-! ### What they leave alone -/

/-- What only a start and a stop change. -/
def engineCalls (helper : Helper) : List Bytes × List (List Bytes) :=
  (helper.safeArgs, helper.calls)

/-- What only a start, a stop and the main loop change. -/
def settled (helper : Helper) : Option Bytes × Bytes × List HelperCommand :=
  (helper.pidFile, helper.commandFile, helper.branches)

/-- What only the main loop changes. -/
def progress (helper : Helper) : Bytes × List HelperCommand := (settled helper).2

/-- What a test and a status leave alone. -/
def quiet (helper : Helper) :
    (List Bytes × List (List Bytes)) × Option Bytes × Bytes × List HelperCommand :=
  (engineCalls helper, settled helper)

variable {system}

theorem isRunning_quiet : Keeps quiet (isRunning system) := by
  apply Keeps.get.bind
  intro helper
  apply Keeps.ite (Keeps.pure false)
  apply Keeps.ite (Keeps.pure false)
  apply Keeps.get.bind
  intro helper
  exact Keeps.bind (Keeps.change fun _ => rfl) fun _ => Keeps.pure _

theorem writeStatus_quiet (state : RuntimeState) (message : Bytes) :
    Keeps quiet (writeStatus system state message) :=
  isRunning_quiet.bind fun _ => Keeps.change fun _ => rfl

theorem keeps_isRunning : Keeps settled (isRunning system) := isRunning_quiet.coarsen Prod.snd

theorem keeps_writeStatus (state : RuntimeState) (message : Bytes) :
    Keeps settled (writeStatus system state message) :=
  (writeStatus_quiet state message).coarsen Prod.snd

theorem keeps_reportStatus : Keeps settled (reportStatus system) :=
  keeps_isRunning.bind fun _ => Keeps.ite (keeps_writeStatus _ _) (keeps_writeStatus _ _)

theorem keeps_idle : Keeps settled (idle system) :=
  keeps_isRunning.bind fun _ => Keeps.ite (keeps_writeStatus _ _) (Keeps.pure ())

theorem keeps_sanitizeLoop (tokens : List Bytes) : Keeps settled (sanitizeLoop tokens) := by
  induction tokens with
  | nil => exact Keeps.pure true
  | cons token rest inductionHypothesis =>
      apply Keeps.ite
      · exact Keeps.bind (Keeps.change fun _ => rfl) fun _ => inductionHypothesis
      · exact Keeps.pure false

theorem keeps_sanitizeStartArgs (tokens : List Bytes) : Keeps settled (sanitizeStartArgs tokens) :=
  Keeps.bind (Keeps.change fun _ => rfl) fun _ => keeps_sanitizeLoop tokens

/-- The length test keeps the expansion from ending the script. -/
theorem goesOn_engineArgs {helper : Helper} : GoesOn engineArgs
    (fun args after => args = [lit "run", lit "-v"] ++ helper.safeArgs ∧ after = helper) helper := by
  refine goesOn_bind.mpr (goesOn_get.mpr ?_)
  split
  next someArgs =>
    have nonempty := List.length_pos_iff.mp someArgs
    exact goesOn_bind.mpr (goesOn_expandAll.mpr ⟨nonempty, goesOn_pure.mpr ⟨rfl, rfl⟩⟩)
  next noArgs =>
    have empty := List.length_eq_zero_iff.mp (Nat.eq_zero_of_not_pos noArgs)
    refine goesOn_pure.mpr ⟨?_, rfl⟩
    rw [empty]
    rfl

theorem keeps_engineArgs : Keeps settled engineArgs :=
  fun _ => goesOn_engineArgs.mono fun _ _ both => congrArg settled both.2

theorem keeps_cleanUp : Keeps progress (cleanUp system) := by
  refine Keeps.bind (Keeps.change fun _ => rfl) fun _ => ?_
  refine Keeps.bind (Keeps.change fun _ => rfl) fun _ => ?_
  exact (keeps_writeStatus _ _).coarsen Prod.snd

theorem keeps_launch : Keeps progress (launch system) := by
  refine ((keeps_writeStatus _ _).coarsen Prod.snd).bind fun _ => ?_
  refine (keeps_engineArgs.coarsen Prod.snd).bind fun args => ?_
  refine Keeps.bind (Keeps.change fun _ => rfl) fun _ => ?_
  refine Keeps.bind (Keeps.change fun _ => rfl) fun _ => ?_
  refine (keeps_isRunning.coarsen Prod.snd).bind fun running => ?_
  apply Keeps.ite ((keeps_writeStatus _ _).coarsen Prod.snd)
  exact Keeps.bind (Keeps.change fun _ => rfl) fun _ => (keeps_writeStatus _ _).coarsen Prod.snd

theorem keeps_startGecit (parts : List Bytes) : Keeps progress (startGecit system parts) := by
  refine ((keeps_sanitizeStartArgs _).coarsen Prod.snd).bind fun accepted => ?_
  apply Keeps.ite ((keeps_writeStatus _ _).coarsen Prod.snd)
  refine (keeps_isRunning.coarsen Prod.snd).bind fun running => ?_
  apply Keeps.ite ((keeps_writeStatus _ _).coarsen Prod.snd)
  apply Keeps.ite ((keeps_writeStatus _ _).coarsen Prod.snd)
  exact keeps_launch

/-! ### The choice of a start -/

/-- The rounds over the tokens, from the arguments that are there. -/
theorem goesOn_sanitizeLoop (tokens : List Bytes) (helper : Helper) :
    GoesOn (sanitizeLoop tokens) (fun accepted after => after.calls = helper.calls ∧
      tokens.foldlM (fun safeArgs token =>
        if tokenAllowed token then some (safeArgs ++ [token]) else none) helper.safeArgs =
          if accepted then some after.safeArgs else none) helper := by
  induction tokens generalizing helper with
  | nil => exact goesOn_pure.mpr ⟨rfl, rfl⟩
  | cons token rest inductionHypothesis =>
      unfold sanitizeLoop
      rw [List.foldlM_cons]
      split
      next allowed =>
        rw [goesOn_bind, goesOn_modify]
        exact inductionHypothesis _
      next refused => exact goesOn_pure.mpr ⟨rfl, rfl⟩

theorem goesOn_sanitizeStartArgs (tokens : List Bytes) (helper : Helper) :
    GoesOn (sanitizeStartArgs tokens) (fun accepted after => after.calls = helper.calls ∧
      Macos.sanitizeStartArgs tokens = if accepted then some after.safeArgs else none) helper := by
  unfold sanitizeStartArgs
  rw [goesOn_bind, goesOn_modify]
  exact goesOn_sanitizeLoop tokens _

theorem isRunning_calls : Keeps Helper.calls (isRunning system) :=
  isRunning_quiet.coarsen fun seen => seen.1.2

theorem writeStatus_calls (state : RuntimeState) (message : Bytes) :
    Keeps Helper.calls (writeStatus system state message) :=
  (writeStatus_quiet state message).coarsen fun seen => seen.1.2

/-- The engine is called once, with the arguments that passed. -/
theorem goesOn_launch {helper : Helper} : GoesOn (launch system) (fun _ after =>
    after.calls = helper.calls ++ [[lit "run", lit "-v"] ++ helper.safeArgs]) helper := by
  apply ((writeStatus_quiet _ _).coarsen Prod.fst helper).bind
  intro _ announced same
  have sameArgs : announced.safeArgs = helper.safeArgs := congrArg Prod.fst same
  have sameCalls : announced.calls = helper.calls := congrArg Prod.snd same
  apply goesOn_engineArgs.bind
  intro args unchanged both
  obtain ⟨isArgs, isAnnounced⟩ := both
  rw [isArgs, isAnnounced, call, goesOn_bind, goesOn_modify, goesOn_bind, goesOn_modify, sameArgs,
    ← sameCalls]
  have confirms : Keeps Helper.calls (do
      let running ← isRunning system
      if running then writeStatus system .running (lit "Gecit çalışıyor")
      else do
        removePidFile
        writeStatus system .error (lit "Gecit başlatılamadı")) :=
    isRunning_calls.bind fun _ => Keeps.ite (writeStatus_calls _ _)
      (Keeps.bind (Keeps.change fun _ => rfl) fun _ => writeStatus_calls _ _)
  exact confirms _

/-- The script calls the engine as `start_gecit` chooses, with what `is_running` found. -/
theorem goesOn_startGecit (parts : List Bytes) (helper : Helper) :
    GoesOn (startGecit system parts) (fun _ after => ∃ running, after.calls =
      helper.calls ++ (Macos.startGecit running system.executable parts).calls) helper := by
  apply (goesOn_sanitizeStartArgs parts.tail helper).bind
  intro accepted sanitized both
  obtain ⟨sameCalls, chosen⟩ := both
  rw [← sameCalls]
  unfold Macos.startGecit
  rw [chosen]
  cases accepted with
  | false =>
      apply (writeStatus_calls _ _ sanitized).mono
      intro _ after same
      exact ⟨false, same.trans (List.append_nil _).symm⟩
  | true =>
      apply ((isRunning_quiet.coarsen Prod.fst) sanitized).bind
      intro running tested same
      have sameArgs : tested.safeArgs = sanitized.safeArgs := congrArg Prod.fst same
      have sameCalls : tested.calls = sanitized.calls := congrArg Prod.snd same
      have silent : ∀ state message, GoesOn (writeStatus system state message)
          (fun _ after => after.calls = sanitized.calls) tested := by
        intro state message
        exact (writeStatus_calls state message tested).mono fun _ _ still => still.trans sameCalls
      cases running with
      | true =>
          apply (silent _ _).mono
          intro _ after same
          exact ⟨true, same.trans (List.append_nil _).symm⟩
      | false =>
          cases executable : system.executable with
          | false =>
              rw [if_neg Bool.false_ne_true, if_pos (by decide)]
              apply (silent _ _).mono
              intro _ after same
              exact ⟨false, same.trans (List.append_nil _).symm⟩
          | true =>
              rw [if_neg Bool.false_ne_true, if_neg (by decide)]
              apply goesOn_launch.mono
              intro _ after launched
              refine ⟨false, ?_⟩
              rw [launched, sameArgs, sameCalls]
              rfl

end HelperScript

end Gecit.Macos
