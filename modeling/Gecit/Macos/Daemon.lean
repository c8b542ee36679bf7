import Mathlib.Logic.Function.Basic
import Gecit.Foundation.Transition
import Gecit.Macos.Command

/-!
Contract: the helper daemon among the processes of the system.

The daemon knows its engine by the pid in a file, and takes a process with that pid for its
engine. Between two steps of the daemon processes end, their pids are given to others, and the
daemon is restarted.

Owns the steps of `start_gecit` and `stop_gecit`, and the runs in which only engines are
signalled. Does not own the command file or the arguments of the engine.
-/

namespace Gecit.Macos

open Gecit.Foundation
open Gecit.Go

abbrev Pid := Nat

inductive Process where
  /-- A child of `start_gecit`. -/
  | engine
  | unrelated
deriving DecidableEq

inductive RuntimeState where
  | stopped
  | starting
  | running
  | stopping
  | error
deriving DecidableEq

/-- The fields of `status.json` that are not text. -/
structure Status where
  state : RuntimeState
  pid : Option Pid
deriving DecidableEq

/-- The next step of the daemon. -/
inductive Point where
  /-- The top of the main loop. -/
  | loop
  /-- `"$BINARY" "${args[@]}" &` -/
  | starting
  /-- `echo $! > "$PID_FILE"` -/
  | recording (child : Pid)
  /-- `is_running`, two seconds later. -/
  | confirming
  /-- `rm -f "$PID_FILE"` of an engine that did not start. -/
  | abandoning
  /-- `is_running` of `stop_gecit`. -/
  | stopping
  /-- `current_pid=$(cat "$PID_FILE")` -/
  | reading
  /-- `kill "$current_pid"` -/
  | terminating (currentPid : Pid)
  /-- `kill -9 "$current_pid"`, two seconds later. -/
  | killing (currentPid : Pid)
  /-- `rm -f "$PID_FILE"` -/
  | removing
  /-- `"$BINARY" cleanup` -/
  | cleaning
deriving DecidableEq

structure Daemon where
  processes : Pid → Option Process
  pidFile : Option Pid
  status : Status
  point : Point
  /-- The processes that were sent TERM or KILL. -/
  signalled : List Process

inductive DaemonAction where
  /-- The main loop reads a command; `executable` tells whether `[ -x "$BINARY" ]`. -/
  | command (line : Bytes) (executable : Bool)
  /-- A round without a command. -/
  | idle
  /-- The engine gets this pid. -/
  | fork (child : Pid)
  | next
  /-- The script ends and is started again. -/
  | restart
  | exits (pid : Pid)
  /-- A free pid is given to an unrelated process. -/
  | unrelated (pid : Pid)

/-- Before the first command. -/
def installed (others : Pid → Bool) : Daemon where
  processes pid := if others pid then some .unrelated else none
  pidFile := none
  status := ⟨.stopped, none⟩
  point := .loop
  signalled := []

namespace Daemon

/-- `kill -0` of root finds any process. -/
def isRunning (state : Daemon) : Bool :=
  match state.pidFile with
  | none => false
  | some pid => (state.processes pid).isSome

def writeStatus (state : Daemon) (runtime : RuntimeState) : Daemon :=
  { state with status := ⟨runtime, if state.isRunning then state.pidFile else none⟩ }

def restart (state : Daemon) : Daemon := { state.writeStatus .stopped with point := .loop }

/-- A signal reaches whatever has the pid. -/
def signal (state : Daemon) (pid : Pid) : Daemon :=
  { state with signalled := state.signalled ++ (state.processes pid).toList }

def start (state : Daemon) (executable : Bool) (parts : List Bytes) : Daemon :=
  match startGecit state.isRunning executable parts with
  | .rejected | .binaryMissing => state.writeStatus .error
  | .alreadyRunning => state.writeStatus .running
  | .spawn _ => { state.writeStatus .starting with point := .starting }

def command (state : Daemon) (line : Bytes) (executable : Bool) : Daemon :=
  match handleCommand line with
  | none => state.restart
  | some (.start parts) => state.start executable parts
  | some .stop | some .cleanup => { state.writeStatus .stopping with point := .stopping }
  | some .status => state.writeStatus (if state.isRunning then .running else .stopped)
  | some .unknown => state.writeStatus .error

/-- The next step of a command. -/
def advance (state : Daemon) : Option Daemon :=
  match state.point with
  | .loop | .starting => none
  | .recording child => some { state with pidFile := some child, point := .confirming }
  | .confirming =>
      if state.isRunning then some { state.writeStatus .running with point := .loop }
      else some { state with point := .abandoning }
  | .abandoning => some (writeStatus { state with pidFile := none, point := .loop } .error)
  | .stopping => some { state with point := if state.isRunning then .reading else .removing }
  | .reading =>
      match state.pidFile with
      -- `kill` of an empty pid fails.
      | none => some { state with point := .removing }
      | some pid => some { state with point := .terminating pid }
  | .terminating pid => some { state.signal pid with point := .killing pid }
  | .killing pid =>
      some
        { state.signal pid with
          processes := Function.update state.processes pid none
          point := .removing }
  | .removing => some { state with pidFile := none, point := .cleaning }
  | .cleaning => some { state.writeStatus .stopped with point := .loop }

def step (state : Daemon) : DaemonAction → Option Daemon
  | .command line executable =>
      if state.point = .loop then some (state.command line executable) else none
  | .idle =>
      if state.point = .loop then
        some (if state.isRunning then state.writeStatus .running else state)
      else none
  | .fork child =>
      if state.point = .starting ∧ state.processes child = none then
        some
          { state with
            processes := Function.update state.processes child (some .engine)
            point := .recording child }
      else none
  | .next => state.advance
  | .restart => some state.restart
  | .exits pid =>
      if state.processes pid ≠ none then
        some { state with processes := Function.update state.processes pid none }
      else none
  | .unrelated pid =>
      if state.processes pid = none then
        some { state with processes := Function.update state.processes pid (some .unrelated) }
      else none

/-- Only engines were signalled. -/
def OwnOnly (state : Daemon) : Prop := ∀ process ∈ state.signalled, process = .engine

/-- The pid is going to be recorded or to be signalled. -/
def Holds : Point → Pid → Prop
  | .recording child, pid => pid = child
  | .terminating currentPid, pid | .killing currentPid, pid => pid = currentPid
  | .loop, _ | .starting, _ | .confirming, _ | .abandoning, _ | .stopping, _ | .reading, _
  | .removing, _ | .cleaning, _ => False

/-- The pid that the daemon takes for its engine's. -/
def Recorded (state : Daemon) (pid : Pid) : Prop := state.pidFile = some pid ∨ Holds state.point pid

/-- A recorded pid is not given to an unrelated process. -/
def NotReused (state : Daemon) : DaemonAction → Prop
  | .unrelated pid => ¬ state.Recorded pid
  | .command _ _ | .idle | .fork _ | .next | .restart | .exits _ => True

/-- Only engines were signalled, and no unrelated process has a recorded pid. -/
structure Owned (state : Daemon) : Prop where
  signalled : state.OwnOnly
  recorded : ∀ pid, state.Recorded pid → state.processes pid ≠ some .unrelated

variable {state next : Daemon}

/-! ### One step -/

theorem owned_installed (others : Pid → Bool) : (installed others).Owned where
  signalled := fun process missing => absurd missing List.not_mem_nil
  recorded := by
    intro pid recorded
    rcases recorded with inFile | held
    · contradiction
    · exact held.elim

/-- A step that leaves the processes alone and records no new pid. -/
theorem Owned.of_frame (owned : state.Owned) (processes : next.processes = state.processes)
    (signalled : next.signalled = state.signalled)
    (recorded : ∀ pid, next.Recorded pid → state.Recorded pid) : next.Owned where
  signalled := by
    unfold OwnOnly
    rw [signalled]
    exact owned.signalled
  recorded := by
    intro pid there
    rw [processes]
    exact owned.recorded pid (recorded pid there)

/-- A step after which no pid is held. -/
theorem Owned.of_free (owned : state.Owned) (processes : next.processes = state.processes)
    (signalled : next.signalled = state.signalled)
    (pidFile : next.pidFile = state.pidFile ∨ next.pidFile = none)
    (free : ∀ pid, ¬ Holds next.point pid) : next.Owned := by
  apply owned.of_frame processes signalled
  intro pid recorded
  have inFile := recorded.resolve_right (free pid)
  rcases pidFile with same | removed
  · rw [same] at inFile
    exact .inl inFile
  · rw [removed] at inFile
    contradiction

/-- What a command can do at once. -/
inductive Commands (state : Daemon) (line : Bytes) : Daemon → Prop where
  | ends (noWord : handleCommand line = none) : Commands state line state.restart
  | finds (running : state.isRunning = true) : Commands state line (state.writeStatus .running)
  | misses (dead : state.isRunning = false) : Commands state line (state.writeStatus .stopped)
  | refuses : Commands state line (state.writeStatus .error)
  | starts (parts : List Bytes) (isStart : handleCommand line = some (.start parts))
      (dead : state.isRunning = false) :
      Commands state line { state.writeStatus .starting with point := .starting }
  | stops (isStop : handleCommand line = some .stop ∨ handleCommand line = some .cleanup) :
      Commands state line { state.writeStatus .stopping with point := .stopping }

theorem commands (line : Bytes) (executable : Bool) :
    Commands state line (state.command line executable) := by
  unfold command
  split
  next noWord => exact .ends noWord
  next parts isStart =>
    unfold start
    split
    next => exact .refuses
    next => exact .refuses
    next chosen => exact .finds (startGecit_alreadyRunning chosen)
    next chosen => exact .starts parts isStart (startGecit_spawn chosen)
  next isStop => exact .stops (.inl isStop)
  next isCleanup => exact .stops (.inr isCleanup)
  next =>
    cases running : state.isRunning with
    | true => exact .finds running
    | false => exact .misses running
  next => exact .refuses

/-- A command touches no process, and holds no pid yet. -/
theorem command_frame (atLoop : state.point = .loop) (line : Bytes) (executable : Bool) :
    (state.command line executable).processes = state.processes ∧
      (state.command line executable).signalled = state.signalled ∧
        (state.command line executable).pidFile = state.pidFile ∧
          ∀ pid, ¬ Holds (state.command line executable).point pid := by
  have stays : ∀ pid, ¬ Holds state.point pid := by
    rw [atLoop]
    exact fun _ => not_false
  have commanded := @commands state line executable
  generalize state.command line executable = next at commanded ⊢
  cases commanded with
  | ends | starts | stops => exact ⟨rfl, rfl, rfl, fun _ => not_false⟩
  | finds | misses | refuses => exact ⟨rfl, rfl, rfl, stays⟩

/-- A recorded pid leads the signal to an engine, or to nobody. -/
theorem ownOnly_signal (owned : state.Owned) {pid : Pid} (recorded : state.Recorded pid) :
    (state.signal pid).OwnOnly := by
  intro process there
  rcases List.mem_append.mp there with earlier | now
  · exact owned.signalled process earlier
  · have found : state.processes pid = some process := Option.mem_toList.mp now
    cases process with
    | engine => rfl
    | unrelated => exact absurd found (owned.recorded pid recorded)

/-- What the next step of a command can do. -/
inductive Advances (state : Daemon) : Daemon → Prop where
  | records (child : Pid) (here : state.point = .recording child) :
      Advances state { state with pidFile := some child, point := .confirming }
  | confirms (here : state.point = .confirming) (running : state.isRunning = true) :
      Advances state { state.writeStatus .running with point := .loop }
  | givesUp (here : state.point = .confirming) (dead : state.isRunning = false) :
      Advances state { state with point := .abandoning }
  | abandons (here : state.point = .abandoning) :
      Advances state (writeStatus { state with pidFile := none, point := .loop } .error)
  | finds (here : state.point = .stopping) (running : state.isRunning = true) :
      Advances state { state with point := .reading }
  | misses (here : state.point = .stopping) (dead : state.isRunning = false) :
      Advances state { state with point := .removing }
  | readsNothing (here : state.point = .reading) (noFile : state.pidFile = none) :
      Advances state { state with point := .removing }
  | reads (pid : Pid) (here : state.point = .reading) (inFile : state.pidFile = some pid) :
      Advances state { state with point := .terminating pid }
  | terminates (pid : Pid) (here : state.point = .terminating pid) :
      Advances state { state.signal pid with point := .killing pid }
  | kills (pid : Pid) (here : state.point = .killing pid) :
      Advances state
        { state.signal pid with
          processes := Function.update state.processes pid none
          point := .removing }
  | removes (here : state.point = .removing) :
      Advances state { state with pidFile := none, point := .cleaning }
  | cleans (here : state.point = .cleaning) :
      Advances state { state.writeStatus .stopped with point := .loop }

theorem advances (stepped : state.advance = some next) : Advances state next := by
  unfold Daemon.advance at stepped
  split at stepped
  next => contradiction
  next => contradiction
  next child here =>
    obtain rfl := Option.some.inj stepped
    exact .records child here
  next here =>
    split at stepped
    next running =>
      obtain rfl := Option.some.inj stepped
      exact .confirms here running
    next dead =>
      obtain rfl := Option.some.inj stepped
      exact .givesUp here (Bool.eq_false_iff.mpr dead)
  next here =>
    obtain rfl := Option.some.inj stepped
    exact .abandons here
  next here =>
    obtain rfl := Option.some.inj stepped
    cases running : state.isRunning with
    | true => exact .finds here running
    | false => exact .misses here running
  next here =>
    split at stepped
    next noFile =>
      obtain rfl := Option.some.inj stepped
      exact .readsNothing here noFile
    next pid inFile =>
      obtain rfl := Option.some.inj stepped
      exact .reads pid here inFile
  next pid here =>
    obtain rfl := Option.some.inj stepped
    exact .terminates pid here
  next pid here =>
    obtain rfl := Option.some.inj stepped
    exact .kills pid here
  next here =>
    obtain rfl := Option.some.inj stepped
    exact .removes here
  next here =>
    obtain rfl := Option.some.inj stepped
    exact .cleans here

theorem recorded_of_point {point : Point} {pid : Pid} (here : state.point = point)
    (holds : Holds point pid) : state.Recorded pid := by
  right
  rw [here]
  exact holds

theorem Owned.advance (owned : state.Owned) (stepped : state.advance = some next) : next.Owned := by
  cases advances stepped with
  | records child here =>
      refine owned.of_frame rfl rfl ?_
      intro pid recorded
      have inFile := recorded.resolve_right not_false
      exact recorded_of_point here (Option.some.inj inFile).symm
  | confirms | givesUp | finds | misses | readsNothing | cleans =>
      exact owned.of_free rfl rfl (.inl rfl) fun _ => not_false
  | abandons | removes => exact owned.of_free rfl rfl (.inr rfl) fun _ => not_false
  | reads currentPid here inFile =>
      refine owned.of_frame rfl rfl ?_
      intro pid recorded
      rcases recorded with sameFile | held
      · exact .inl sameFile
      · exact .inl (inFile.trans (congrArg some held.symm))
  | terminates currentPid here =>
      refine ⟨ownOnly_signal owned (recorded_of_point here rfl), ?_⟩
      intro pid recorded
      apply owned.recorded pid
      rcases recorded with inFile | same
      · exact .inl inFile
      · exact recorded_of_point here same
  | kills currentPid here =>
      refine ⟨ownOnly_signal owned (recorded_of_point here rfl), ?_⟩
      intro pid recorded
      have inFile := recorded.resolve_right not_false
      by_cases killed : pid = currentPid
      · subst killed
        show Function.update state.processes pid none pid ≠ _
        rw [Function.update_self]
        exact (Option.some_ne_none _).symm
      · show Function.update state.processes currentPid none pid ≠ _
        rw [Function.update_of_ne killed]
        exact owned.recorded pid (.inl inFile)

/-- A pid whose process changes into something else than an unrelated process, or is not
recorded. -/
theorem Owned.update (owned : state.Owned) {changed : Pid} {process : Option Process}
    {point : Point} (recorded : ∀ pid, Recorded { state with point := point } pid →
      pid = changed ∨ state.Recorded pid)
    (harmless : process = some .unrelated → ¬ Recorded { state with point := point } changed) :
    Owned { state with
      processes := Function.update state.processes changed process
      point := point } where
  signalled := owned.signalled
  recorded := by
    intro pid there
    by_cases same : pid = changed
    · subst same
      show Function.update state.processes pid process pid ≠ _
      rw [Function.update_self]
      intro isUnrelated
      exact harmless isUnrelated there
    · show Function.update state.processes changed process pid ≠ _
      rw [Function.update_of_ne same]
      exact owned.recorded pid ((recorded pid there).resolve_left same)

theorem Owned.step {action : DaemonAction} (owned : state.Owned) (allowed : state.NotReused action)
    (stepped : state.step action = some next) : next.Owned := by
  cases action with
  | command line executable =>
      obtain ⟨atLoop, rfl⟩ := guarded_eq_some stepped
      obtain ⟨processes, signalled, pidFile, free⟩ := command_frame atLoop line executable
      exact owned.of_free processes signalled (.inl pidFile) free
  | idle =>
      obtain ⟨atLoop, rfl⟩ := guarded_eq_some stepped
      split
      · exact owned.of_frame rfl rfl fun _ recorded => recorded
      · exact owned
  | fork child =>
      obtain ⟨_, rfl⟩ := guarded_eq_some stepped
      apply owned.update
      · intro pid recorded
        rcases recorded with inFile | held
        · exact .inr (.inl inFile)
        · exact .inl held
      · intro impossible
        contradiction
  | next => exact owned.advance stepped
  | restart =>
      obtain rfl := Option.some.inj stepped
      exact owned.of_free rfl rfl (.inl rfl) fun _ => not_false
  | exits pid =>
      obtain ⟨_, rfl⟩ := guarded_eq_some stepped
      apply owned.update
      · exact fun _ recorded => .inr recorded
      · intro impossible
        contradiction
  | unrelated pid =>
      obtain ⟨_, rfl⟩ := guarded_eq_some stepped
      apply owned.update
      · exact fun _ recorded => .inr recorded
      · exact fun _ => allowed

/-- In every run in which no recorded pid is given to an unrelated process, only engines are
ever signalled. -/
theorem only_engines_signalled (others : Pid → Bool) {schedule : List DaemonAction}
    (notReused : Meets Daemon.step NotReused (installed others) schedule) :
    Always Daemon.step OwnOnly (installed others) schedule := by
  apply always_of_meets ?_ ?_ (owned_installed others) notReused
  · intro state action next owned allowed stepped
    exact owned.step allowed stepped
  · exact fun state owned => owned.signalled

/-- A recorded pid that was given away is signalled by the next stop. -/
theorem reused_pid_signalled {pid : Pid} (atLoop : state.point = .loop)
    (inFile : state.pidFile = some pid) (reused : state.processes pid = some .unrelated) :
    ∃ final, run Daemon.step state
      [.command (lit "stop") true, .next, .next, .next] = some final ∧ ¬ final.OwnOnly := by
  let asked : Daemon := { state.writeStatus .stopping with point := .stopping }
  let held : Daemon := { asked with point := .terminating pid }
  have stop : handleCommand (lit "stop") = some .stop := by decide
  have first : state.step (.command (lit "stop") true) = some asked := by
    show (if state.point = .loop then some (state.command (lit "stop") true) else none) = _
    rw [if_pos atLoop, command, stop]
  have running : asked.isRunning = true := by
    show (match state.pidFile with
      | none => false
      | some pid => (state.processes pid).isSome) = true
    rw [inFile]
    dsimp only
    rw [reused]
    rfl
  have second : asked.step .next = some { asked with point := .reading } := by
    show some { asked with point := if asked.isRunning then .reading else .removing } = _
    rw [running]
    rfl
  have third : step { asked with point := .reading } .next = some held := by
    show (match state.pidFile with
      | none => some { asked with point := .removing }
      | some pid => some { asked with point := .terminating pid }) = _
    rw [inFile]
  refine ⟨{ held.signal pid with point := .killing pid }, ?_, ?_⟩
  · show (state.step (.command (lit "stop") true)).bind (fun state => (state.step .next).bind
      fun state => (state.step .next).bind fun state => (state.step .next).bind some) = _
    rw [first, Option.bind_some, second, Option.bind_some, third, Option.bind_some]
    rfl
  · intro ownOnly
    have reached : Process.unrelated ∈ state.signalled ++ (state.processes pid).toList := by
      rw [reused]
      exact List.mem_append_right _ (List.mem_singleton_self _)
    have isEngine := ownOnly .unrelated reached
    contradiction

/-! ### A pid that is given away -/

/-- A start and a stop of an engine. -/
def startAndStop : List DaemonAction :=
  [.command (lit "start") true, .fork 501, .next, .next, .idle, .command (lit "stop") true, .next,
    .next, .next, .next, .next, .next]

/-- The engine ends between the two commands, and its pid is given away. -/
def stopAfterReuse : List DaemonAction :=
  [.command (lit "start") true, .fork 501, .next, .next, .exits 501, .unrelated 501,
    .command (lit "stop") true, .next, .next, .next, .next]

instance : ∀ point pid, Decidable (Holds point pid)
  | .recording child, pid => inferInstanceAs (Decidable (pid = child))
  | .terminating currentPid, pid | .killing currentPid, pid =>
      inferInstanceAs (Decidable (pid = currentPid))
  | .loop, _ | .starting, _ | .confirming, _ | .abandoning, _ | .stopping, _ | .reading, _
  | .removing, _ | .cleaning, _ => isFalse not_false

instance (state : Daemon) (pid : Pid) : Decidable (state.Recorded pid) :=
  inferInstanceAs (Decidable (state.pidFile = some pid ∨ Holds state.point pid))

instance (state : Daemon) : ∀ action, Decidable (state.NotReused action)
  | .unrelated pid => inferInstanceAs (Decidable (¬ state.Recorded pid))
  | .command _ _ | .idle | .fork _ | .next | .restart | .exits _ => isTrue trivial

theorem start_and_stop_signals_engine :
    Always Daemon.step OwnOnly (installed fun _ => false) startAndStop ∧
      (run Daemon.step (installed fun _ => false) startAndStop).map Daemon.signalled =
        some [.engine, .engine] := by
  have notReused : Meets Daemon.step NotReused (installed fun _ => false) startAndStop := by
    decide +kernel
  exact ⟨only_engines_signalled _ notReused, by decide +kernel⟩

theorem unrelated_signalled_after_reuse : ∃ final,
    run Daemon.step (installed fun _ => false) stopAfterReuse = some final ∧
      final.signalled = [.unrelated, .unrelated] ∧ ¬ final.OwnOnly := by
  have signalled : (run Daemon.step (installed fun _ => false) stopAfterReuse).map
      Daemon.signalled = some [.unrelated, .unrelated] := by
    decide +kernel
  obtain ⟨final, reached, same⟩ := Option.map_eq_some_iff.mp signalled
  refine ⟨final, reached, same, ?_⟩
  intro ownOnly
  have isEngine := ownOnly .unrelated (same ▸ List.mem_cons_self)
  contradiction

end Daemon

end Gecit.Macos
