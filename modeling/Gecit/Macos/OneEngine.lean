import Gecit.Macos.Daemon

/-!
Contract: at most one engine, and the pid file knows it.

A command starts an engine only when the pid file names no process, and on the way through a
command the daemon holds the engine's pid in a variable whenever the file does not. So there
is at every point one pid that an engine can have.

Owns that pid, the runs in which the daemon is restarted between commands, and what is left
after a stop. Does not own which processes are signalled.
-/

namespace Gecit.Macos

open Gecit.Foundation
open Gecit.Go

namespace Daemon

/-- The script is not ended inside a command. -/
def RestartsBetween (state : Daemon) : DaemonAction → Prop
  | .restart => state.point = .loop
  | .command _ _ | .idle | .fork _ | .next | .exits _ | .unrelated _ => True

def EngineAt (state : Daemon) (pid : Pid) : Prop := state.processes pid = some .engine

/-- At most one engine is alive, and between commands the pid file holds its pid. -/
structure OneEngine (state : Daemon) : Prop where
  atMostOne : ∀ first second, state.EngineAt first → state.EngineAt second → first = second
  inFile : state.point = .loop → ∀ pid, state.EngineAt pid → state.pidFile = some pid

/-- The command line is handled by `stop_gecit`. -/
def Stops (line : Bytes) : Prop :=
  handleCommand line = some .stop ∨ handleCommand line = some .cleanup

/-- No `start` is handled. -/
def NoStart : DaemonAction → Prop
  | .command line _ => ∀ parts, handleCommand line ≠ some (.start parts)
  | .idle | .fork _ | .next | .restart | .exits _ | .unrelated _ => True

/-! ### The only pid an engine can have -/

/-- By file or by variable. -/
def held (state : Daemon) : Option Pid :=
  match state.point with
  | .loop | .confirming | .stopping | .reading => state.pidFile
  | .recording child => some child
  | .terminating currentPid | .killing currentPid => some currentPid
  | .starting | .abandoning | .removing | .cleaning => none

/-- Every engine has the held pid. -/
def Kept (state : Daemon) : Prop := ∀ pid, state.EngineAt pid → state.held = some pid

variable {state next : Daemon}

theorem Kept.oneEngine (kept : state.Kept) : state.OneEngine where
  atMostOne := by
    intro first second firstEngine secondEngine
    have heldFirst := kept first firstEngine
    rw [kept second secondEngine] at heldFirst
    exact (Option.some.inj heldFirst).symm
  inFile := by
    intro atLoop pid isEngine
    have heldPid := kept pid isEngine
    unfold held at heldPid
    rw [atLoop] at heldPid
    exact heldPid

theorem kept_installed (others : Pid → Bool) : (installed others).Kept := by
  intro pid isEngine
  simp only [EngineAt, installed] at isEngine
  split at isEngine
  · contradiction
  · contradiction

/-- A step that starts no engine and keeps the pid. -/
theorem Kept.of_frame (kept : state.Kept)
    (processes : ∀ pid, next.EngineAt pid → state.EngineAt pid) (held : next.held = state.held) :
    next.Kept := by
  intro pid isEngine
  rw [held]
  exact kept pid (processes pid isEngine)

/-- Where no pid is held, no engine is alive. -/
theorem Kept.none_alive (kept : state.Kept) (noPid : state.held = none) (pid : Pid) :
    ¬ state.EngineAt pid := by
  intro isEngine
  have heldPid := kept pid isEngine
  rw [noPid] at heldPid
  contradiction

/-- `is_running` sees the process whose pid is in the file. -/
theorem isRunning_of_engine {pid : Pid} (inFile : state.pidFile = some pid)
    (isEngine : state.EngineAt pid) : state.isRunning = true := by
  simp only [isRunning, inFile]
  rw [isEngine]
  rfl

/-- `is_running` fails while the pid is in the file, so there is no engine. -/
theorem Kept.none_running (kept : state.Kept) (byFile : state.held = state.pidFile)
    (dead : state.isRunning = false) (pid : Pid) : ¬ state.EngineAt pid := by
  intro isEngine
  have inFile := kept pid isEngine
  rw [byFile] at inFile
  rw [isRunning_of_engine inFile isEngine] at dead
  contradiction

theorem kept_of_none (noEngine : ∀ pid, ¬ state.EngineAt pid) : state.Kept := by
  intro pid isEngine
  exact absurd isEngine (noEngine pid)

/-! ### One step -/

/-- A start has found no process under the pid in the file. -/
theorem Kept.command (kept : state.Kept) (atLoop : state.point = .loop) (line : Bytes)
    (executable : Bool) : (state.command line executable).Kept := by
  have byFile : state.held = state.pidFile := by
    unfold held
    rw [atLoop]
  have commanded := @commands state line executable
  generalize state.command line executable = next at commanded ⊢
  cases commanded with
  | ends | stops => exact kept.of_frame (fun _ isEngine => isEngine) byFile.symm
  | finds | misses | refuses => exact kept.of_frame (fun _ isEngine => isEngine) rfl
  | starts parts isStart dead => exact kept_of_none (kept.none_running byFile dead)

theorem Kept.advance (kept : state.Kept) (stepped : state.advance = some next) : next.Kept := by
  cases advances stepped with
  | records _ here | finds here | terminates _ here =>
      refine kept.of_frame (fun _ isEngine => isEngine) ?_
      simp only [held, here]
  | confirms here running =>
      refine kept.of_frame (fun _ isEngine => isEngine) ?_
      simp only [held, here]
      rfl
  | givesUp here dead | misses here dead =>
      apply kept_of_none
      apply kept.none_running ?_ dead
      simp only [held, here]
  | abandons here | removes here | cleans here =>
      apply kept_of_none
      apply kept.none_alive
      simp only [held, here]
  | readsNothing here noFile =>
      apply kept_of_none
      apply kept.none_alive
      simp only [held, here, noFile]
  | reads pid here inFile =>
      refine kept.of_frame (fun _ isEngine => isEngine) ?_
      simp only [held, here, inFile]
  | kills pid here =>
      -- An engine has the pid that is killed, so none is left.
      apply kept_of_none
      intro other isEngine
      by_cases killed : other = pid
      · subst killed
        have gone : Function.update state.processes other none other = some .engine := isEngine
        rw [Function.update_self] at gone
        contradiction
      · have alive : Function.update state.processes pid none other = some .engine := isEngine
        rw [Function.update_of_ne killed] at alive
        have same := kept other alive
        simp only [held, here] at same
        exact killed (Option.some.inj same).symm

/-- A process that ends, or comes and is no engine. -/
theorem engineAt_of_update {changed pid : Pid} {process : Option Process}
    (notEngine : process ≠ some .engine)
    (isEngine : Function.update state.processes changed process pid = some .engine) :
    state.EngineAt pid := by
  by_cases same : pid = changed
  · subst same
    rw [Function.update_self] at isEngine
    exact absurd isEngine notEngine
  · rw [Function.update_of_ne same] at isEngine
    exact isEngine

theorem Kept.step {action : DaemonAction} (kept : state.Kept)
    (restarts : state.RestartsBetween action) (stepped : state.step action = some next) :
    next.Kept := by
  cases action with
  | command line executable =>
      obtain ⟨atLoop, rfl⟩ := guarded_eq_some stepped
      exact kept.command atLoop line executable
  | idle =>
      obtain ⟨atLoop, rfl⟩ := guarded_eq_some stepped
      split
      · exact kept.of_frame (fun _ isEngine => isEngine) rfl
      · exact kept
  | fork child =>
      obtain ⟨⟨here, free⟩, rfl⟩ := guarded_eq_some stepped
      have noEngine := kept.none_alive (by simp only [held, here])
      intro pid isEngine
      by_cases same : pid = child
      · exact congrArg some same.symm
      · have alive : Function.update state.processes child (some .engine) pid = some .engine :=
          isEngine
        rw [Function.update_of_ne same] at alive
        exact absurd alive (noEngine pid)
  | next => exact kept.advance stepped
  | restart =>
      obtain rfl := Option.some.inj stepped
      refine kept.of_frame (fun _ isEngine => isEngine) ?_
      have atLoop : state.point = .loop := restarts
      unfold held
      rw [atLoop]
      rfl
  | exits pid =>
      obtain ⟨_, rfl⟩ := guarded_eq_some stepped
      exact kept.of_frame (fun _ => engineAt_of_update (Option.some_ne_none _).symm) rfl
  | unrelated pid =>
      obtain ⟨_, rfl⟩ := guarded_eq_some stepped
      refine kept.of_frame (fun _ => engineAt_of_update ?_) rfl
      decide

/-! ### After a stop -/

/-- Inside `stop_gecit`, or past it with no engine left. -/
def Stopping (state : Daemon) : Prop :=
  match state.point with
  | .stopping | .reading | .terminating _ | .killing _ | .removing | .cleaning => True
  | .loop => ∀ pid, ¬ state.EngineAt pid
  | .starting | .recording _ | .confirming | .abandoning => False

theorem Stopping.command (stopping : state.Stopping) (atLoop : state.point = .loop)
    {line : Bytes} {executable : Bool} (noStart : NoStart (.command line executable)) :
    (state.command line executable).Stopping := by
  have noEngine : ∀ pid, ¬ state.EngineAt pid := by
    simpa only [Stopping, atLoop] using stopping
  have commanded := @commands state line executable
  generalize state.command line executable = next at commanded ⊢
  cases commanded with
  | ends => exact noEngine
  | finds | misses | refuses =>
      simp only [Stopping, writeStatus, atLoop]
      exact noEngine
  | starts parts isStart dead => exact absurd isStart (noStart parts)
  | stops => trivial

theorem Stopping.advance (stopping : state.Stopping) (kept : state.Kept)
    (stepped : state.advance = some next) : next.Stopping := by
  cases advances stepped with
  | records child here => simp only [Stopping, here] at stopping
  | confirms here | givesUp here | abandons here => simp only [Stopping, here] at stopping
  | finds | misses | readsNothing | reads | terminates | kills | removes => trivial
  | cleans here =>
      apply kept.none_alive
      simp only [held, here]

theorem Stopping.of_frame (stopping : state.Stopping) (point : next.point = state.point)
    (processes : ∀ pid, next.EngineAt pid → state.EngineAt pid) : next.Stopping := by
  cases here : state.point with
  | loop =>
      have noEngine : ∀ pid, ¬ state.EngineAt pid := by
        simpa only [Stopping, here] using stopping
      simp only [Stopping, point, here]
      exact fun pid isEngine => noEngine pid (processes pid isEngine)
  | stopping | reading | terminating | killing | removing | cleaning =>
      simp only [Stopping, point, here]
  | starting | recording | confirming | abandoning =>
      simp only [Stopping, here] at stopping

theorem Stopping.step {action : DaemonAction} (stopping : state.Stopping) (kept : state.Kept)
    (restarts : state.RestartsBetween action) (noStart : NoStart action)
    (stepped : state.step action = some next) : next.Stopping := by
  cases action with
  | command line executable =>
      obtain ⟨atLoop, rfl⟩ := guarded_eq_some stepped
      exact stopping.command atLoop noStart
  | idle =>
      obtain ⟨atLoop, rfl⟩ := guarded_eq_some stepped
      split
      · exact stopping.of_frame rfl fun _ isEngine => isEngine
      · exact stopping
  | fork child =>
      obtain ⟨⟨here, _⟩, _⟩ := guarded_eq_some stepped
      simp only [Stopping, here] at stopping
  | next => exact stopping.advance kept stepped
  | restart =>
      obtain rfl := Option.some.inj stepped
      have atLoop : state.point = .loop := restarts
      exact stopping.of_frame atLoop.symm fun _ isEngine => isEngine
  | exits pid =>
      obtain ⟨_, rfl⟩ := guarded_eq_some stepped
      exact stopping.of_frame rfl fun _ => engineAt_of_update (Option.some_ne_none _).symm
  | unrelated pid =>
      obtain ⟨_, rfl⟩ := guarded_eq_some stepped
      refine stopping.of_frame rfl fun _ => engineAt_of_update ?_
      decide

/-- The command that is handled leads into `stop_gecit`. -/
theorem stopping_of_stop {line : Bytes} (isStop : Stops line) (executable : Bool) :
    (state.command line executable).Stopping := by
  unfold Daemon.command
  rcases isStop with stop | cleanup
  · rw [stop]
    trivial
  · rw [cleanup]
    trivial

theorem run_kept (others : Pid → Bool) {schedule : List DaemonAction}
    (reached : run Daemon.step (installed others) schedule = some state)
    (restarts : Meets Daemon.step RestartsBetween (installed others) schedule) : state.Kept := by
  apply run_meeting ?_ (kept_installed others) reached restarts
  intro current action next kept allowed stepped
  exact kept.step allowed stepped

/-- Whatever the order of commands, exits, reused pids and restarts between commands: at most
one engine is alive, between commands the pid file holds its pid, and once a stop or a cleanup
was handled no engine is alive until the next start. -/
theorem at_most_one_engine (others : Pid → Bool) {schedule : List DaemonAction} {state : Daemon}
    (reached : run Daemon.step (installed others) schedule = some state)
    (restarts : Meets Daemon.step RestartsBetween (installed others) schedule) :
    state.OneEngine ∧
      ∀ past line executable rest, schedule = past ++ .command line executable :: rest →
        Stops line → (∀ action ∈ rest, NoStart action) → state.point = .loop →
          ∀ pid, ¬ state.EngineAt pid := by
  refine ⟨(run_kept others reached restarts).oneEngine, ?_⟩
  intro past line executable rest split isStop noStart atLoop
  subst split
  obtain ⟨before, reachedBefore, onwards⟩ := run_append_eq_some reached
  obtain ⟨asked, stepped, reachedState⟩ := run_cons_eq_some onwards
  have keptBefore := run_kept others reachedBefore restarts.before
  have restartsOnwards := restarts.after reachedBefore
  have keptAsked := keptBefore.step restartsOnwards.1 stepped
  have stoppingAsked : asked.Stopping := by
    obtain ⟨_, rfl⟩ := guarded_eq_some stepped
    exact stopping_of_stop isStop executable
  have carried := @run_meeting Daemon DaemonAction Daemon.step
    (fun current => current.Stopping ∧ current.Kept)
    (fun current action => current.RestartsBetween action ∧ NoStart action)
  have final : state.Stopping ∧ state.Kept := by
    apply carried ?_ ⟨stoppingAsked, keptAsked⟩ reachedState
    · exact (restartsOnwards.2 asked stepped).and (meets_of_forall noStart asked)
    · intro current action next both allowed moved
      exact ⟨both.1.step both.2 allowed.1 allowed.2 moved, both.2.step allowed.1 moved⟩
  simpa only [Stopping, atLoop] using final.1

/-- The first engine ends after a restart, its pid is given away for a while, and a second
engine is started. -/
def twoEngines : List DaemonAction :=
  [.command (lit "start") true, .fork 501, .next, .next, .restart, .exits 501, .unrelated 501,
    .exits 501, .command (lit "start") true, .fork 502, .next, .next]

/-- `stop_gecit` with an engine. -/
def stopSteps : List DaemonAction := [.next, .next, .next, .next, .next, .next]

instance (state : Daemon) : ∀ action, Decidable (state.RestartsBetween action)
  | .restart => inferInstanceAs (Decidable (state.point = .loop))
  | .command _ _ | .idle | .fork _ | .next | .exits _ | .unrelated _ => isTrue trivial

theorem at_most_one_engine_after_stop : ∃ state,
    run Daemon.step (installed fun _ => false)
        (twoEngines ++ .command (lit "stop") true :: stopSteps) = some state ∧
      state.OneEngine ∧ ∀ pid, ¬ state.EngineAt pid := by
  let schedule := twoEngines ++ .command (lit "stop") true :: stopSteps
  have atLoop : (run Daemon.step (installed fun _ => false) schedule).map Daemon.point =
      some .loop := by
    decide +kernel
  have restarts : Meets Daemon.step RestartsBetween (installed fun _ => false) schedule := by
    decide +kernel
  have isStop : handleCommand (lit "stop") = some .stop := by decide +kernel
  obtain ⟨state, reached, here⟩ := Option.map_eq_some_iff.mp atLoop
  obtain ⟨oneEngine, stopped⟩ := at_most_one_engine (fun _ => false) reached restarts
  refine ⟨state, reached, oneEngine, stopped twoEngines _ true stopSteps rfl (.inl isStop) ?_ here⟩
  intro action there
  obtain rfl : action = .next := by simpa [stopSteps] using there
  trivial

end Daemon

end Gecit.Macos
