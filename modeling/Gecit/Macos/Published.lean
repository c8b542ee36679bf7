import Gecit.Macos.Daemon

/-!
Contract: what `status.json` says after a round of the main loop.

A round with a command writes the status on every branch. A round without one writes it only
for a running engine, so what an earlier round wrote stays after the engine has ended.

Owns the rounds of a run and the runs in which no round leaves an ended engine running in the
file. Does not own the pid and the message in the file.
-/

namespace Gecit.Macos

open Gecit.Foundation
open Gecit.Go

namespace Daemon

/-- The main loop looks at the command file. -/
def BeginsRound : DaemonAction → Prop
  | .command _ _ | .idle => True
  | .fork _ | .next | .restart | .exits _ | .unrelated _ => False

/-- The action belongs to the round that was begun. -/
def InRound : DaemonAction → Prop
  | .fork _ | .next | .exits _ | .unrelated _ => True
  | .command _ _ | .idle | .restart => False

/-- What the round `first :: rest` owes to a reader of the status. -/
structure Truthful (before : Daemon) (first : DaemonAction) (rest : List DaemonAction)
    (after : Daemon) : Prop where
  dead : Always Daemon.step (fun state => state.isRunning = false) before (first :: rest) →
    after.status.state ≠ .running ∧ after.status.state ≠ .starting
  alive : Always Daemon.step (fun state => state.isRunning = true) before (first :: rest) →
    first = .idle → after.status.state = .running

/-- Every round of the run is truthful from the moment its last statement is done. -/
def PublishesTruth (initial : Daemon) (schedule : List DaemonAction) : Prop :=
  ∀ past first rest later before after, schedule = past ++ (first :: rest) ++ later →
    run Daemon.step initial past = some before →
      run Daemon.step before (first :: rest) = some after → BeginsRound first →
        (∀ action ∈ rest, InRound action) → after.point = .loop →
          Truthful before first rest after

/-- A round without a command does not find a status of an engine that has ended. -/
def NotStale (state : Daemon) : DaemonAction → Prop
  | .idle => state.isRunning = false → state.status.state ≠ .running
  | .command _ _ | .fork _ | .next | .restart | .exits _ | .unrelated _ => True

/-- Between commands no start is announced. -/
def Settled (state : Daemon) : Prop := state.point = .loop → state.status.state ≠ .starting

/-- Between commands no engine is announced at all. -/
def Silent (state : Daemon) : Prop :=
  state.point = .loop → state.status.state ≠ .running ∧ state.status.state ≠ .starting

variable {state next : Daemon}

theorem stopped_silent : RuntimeState.stopped ≠ .running ∧ RuntimeState.stopped ≠ .starting := by
  decide

theorem error_silent : RuntimeState.error ≠ .running ∧ RuntimeState.error ≠ .starting := by decide

/-! ### One step -/

theorem settled_installed (others : Pid → Bool) : (installed others).Settled := by
  intro _
  exact fun same => by contradiction

theorem Settled.step {action : DaemonAction} (settled : state.Settled)
    (stepped : state.step action = some next) : next.Settled := by
  intro atLoop starting
  cases action with
  | command line executable =>
      obtain ⟨here, rfl⟩ := guarded_eq_some stepped
      have commanded := @commands state line executable
      generalize state.command line executable = next at commanded atLoop starting
      cases commanded with
      | ends | finds | misses | refuses => contradiction
      | starts | stops => contradiction
  | idle =>
      obtain ⟨here, rfl⟩ := guarded_eq_some stepped
      split at starting
      · contradiction
      · exact settled here starting
  | fork child =>
      obtain ⟨_, rfl⟩ := guarded_eq_some stepped
      contradiction
  | next =>
      cases advances stepped with
      | confirms | abandons | cleans => contradiction
      | records | givesUp | finds | misses | readsNothing | reads | terminates | kills
      | removes => contradiction
  | restart =>
      obtain rfl := Option.some.inj stepped
      contradiction
  | exits pid =>
      obtain ⟨_, rfl⟩ := guarded_eq_some stepped
      exact settled atLoop starting
  | unrelated pid =>
      obtain ⟨_, rfl⟩ := guarded_eq_some stepped
      exact settled atLoop starting

/-- The status an idle round leaves behind. -/
theorem silent_idle (settled : state.Settled) (notStale : state.NotStale .idle)
    (dead : state.isRunning = false) (stepped : state.step .idle = some next) : next.Silent := by
  obtain ⟨here, rfl⟩ := guarded_eq_some stepped
  rw [dead]
  intro _
  exact ⟨notStale dead, settled here⟩

theorem silent_command (dead : state.isRunning = false) {line : Bytes} {executable : Bool}
    (stepped : state.step (.command line executable) = some next) : next.Silent := by
  obtain ⟨_, rfl⟩ := guarded_eq_some stepped
  have commanded := @commands state line executable
  generalize state.command line executable = next at commanded
  intro atLoop
  cases commanded with
  | ends | misses => exact stopped_silent
  | refuses => exact error_silent
  | finds running =>
      rw [dead] at running
      contradiction
  | starts | stops => contradiction

/-- While `is_running` fails, no statement of a command announces an engine at its end. -/
theorem Silent.step {action : DaemonAction} (silent : state.Silent)
    (dead : state.isRunning = false) (inRound : InRound action)
    (stepped : state.step action = some next) : next.Silent := by
  intro atLoop
  cases action with
  | command | idle | restart => exact inRound.elim
  | fork child =>
      obtain ⟨_, rfl⟩ := guarded_eq_some stepped
      contradiction
  | next =>
      cases advances stepped with
      | confirms here running =>
          rw [dead] at running
          contradiction
      | abandons => exact error_silent
      | cleans => exact stopped_silent
      | records | givesUp | finds | misses | readsNothing | reads | terminates | kills
      | removes => contradiction
  | exits pid =>
      obtain ⟨_, rfl⟩ := guarded_eq_some stepped
      exact silent atLoop
  | unrelated pid =>
      obtain ⟨_, rfl⟩ := guarded_eq_some stepped
      exact silent atLoop

/-- The rest of a round without a command changes processes only. -/
theorem idle_rest {action : DaemonAction} (inRound : InRound action)
    (here : state.point = .loop ∧ state.status.state = .running)
    (stepped : state.step action = some next) :
    next.point = .loop ∧ next.status.state = .running := by
  obtain ⟨atLoop, running⟩ := here
  cases action with
  | command | idle | restart => exact inRound.elim
  | fork child =>
      obtain ⟨⟨starting, _⟩, _⟩ := guarded_eq_some stepped
      rw [atLoop] at starting
      contradiction
  | next =>
      simp only [Daemon.step, Daemon.advance, atLoop] at stepped
      contradiction
  | exits pid =>
      obtain ⟨_, rfl⟩ := guarded_eq_some stepped
      exact ⟨atLoop, running⟩
  | unrelated pid =>
      obtain ⟨_, rfl⟩ := guarded_eq_some stepped
      exact ⟨atLoop, running⟩

/-! ### One round -/

variable {before after : Daemon} {first : DaemonAction} {rest : List DaemonAction}

theorem truthful_dead (settled : before.Settled) (notStale : before.NotStale first)
    (begins : BeginsRound first) (inRound : ∀ action ∈ rest, InRound action)
    (reached : run Daemon.step before (first :: rest) = some after) (atLoop : after.point = .loop)
    (dead : Always Daemon.step (fun state => state.isRunning = false) before (first :: rest)) :
    after.status.state ≠ .running ∧ after.status.state ≠ .starting := by
  obtain ⟨begun, stepped, onwards⟩ := run_cons_eq_some reached
  have silentBegun : begun.Silent := by
    cases first with
    | command line executable => exact silent_command dead.here stepped
    | idle => exact silent_idle settled notStale dead.here stepped
    | fork | next | restart | exits | unrelated => exact begins.elim
  have meets := (dead.2 begun stepped).meets.and (meets_of_forall inRound begun)
  have silent : after.Silent := by
    apply run_meeting ?_ silentBegun onwards meets
    intro current action next silentCurrent allowed moved
    exact silentCurrent.step allowed.1 allowed.2 moved
  exact silent atLoop

theorem truthful_alive (inRound : ∀ action ∈ rest, InRound action)
    (reached : run Daemon.step before (.idle :: rest) = some after)
    (alive : Always Daemon.step (fun state => state.isRunning = true) before (.idle :: rest)) :
    after.status.state = .running := by
  obtain ⟨begun, stepped, onwards⟩ := run_cons_eq_some reached
  obtain ⟨atLoop, rfl⟩ := guarded_eq_some stepped
  have running : before.isRunning = true := alive.here
  rw [if_pos running] at onwards
  have meets := @meets_of_forall Daemon DaemonAction Daemon.step InRound rest inRound
    (before.writeStatus .running)
  have final : after.point = .loop ∧ after.status.state = .running := by
    apply run_meeting ?_ ⟨atLoop, rfl⟩ onwards meets
    intro current action next here allowed moved
    exact idle_rest allowed here moved
  exact final.2

/-- A stale status is what the round leaves behind. -/
theorem stale_after_idle (atLoop : state.point = .loop) (dead : state.isRunning = false) :
    run Daemon.step state [.idle] = some state ∧
      Always Daemon.step (fun state => state.isRunning = false) state [.idle] := by
  have stays : state.step .idle = some state := by
    show (if state.point = .loop then
      some (if state.isRunning then state.writeStatus .running else state) else none) = some state
    rw [if_pos atLoop, dead]
    rfl
  constructor
  · rw [run, List.foldlM_cons, stays]
    rfl
  · refine ⟨dead, ?_⟩
    intro next stepped
    rw [stays] at stepped
    obtain rfl := Option.some.inj stepped
    exact dead

/-- Every round of a run is truthful if and only if no round without a command finds the
status of an engine that has ended. -/
theorem published_iff_notStale (others : Pid → Bool) {schedule : List DaemonAction}
    {final : Daemon} (reached : run Daemon.step (installed others) schedule = some final) :
    PublishesTruth (installed others) schedule ↔
      Meets Daemon.step NotStale (installed others) schedule := by
  constructor
  · intro publishes
    apply meets_of_prefixes
    intro past action rest before split reachedBefore
    cases action with
    | command | fork | next | restart | exits | unrelated => trivial
    | idle =>
        intro dead stale
        subst split
        obtain ⟨middle, reachedMiddle, onwards⟩ := run_append_eq_some reached
        rw [reachedBefore] at reachedMiddle
        obtain rfl := Option.some.inj reachedMiddle
        obtain ⟨begun, stepped, _⟩ := run_cons_eq_some onwards
        obtain ⟨atLoop, _⟩ := guarded_eq_some stepped
        obtain ⟨stays, alwaysDead⟩ := stale_after_idle atLoop dead
        have truthful := publishes past .idle [] rest before before
          (by rw [List.append_assoc]; rfl) reachedBefore stays trivial
          (fun action there => absurd there List.not_mem_nil) atLoop
        exact (truthful.dead alwaysDead).1 stale
  · intro notStale past first rest later before after split reachedBefore reachedAfter begins
      inRound atLoop
    subst split
    rw [List.append_assoc] at notStale
    have settled : before.Settled :=
      run_invariant (fun _ _ _ settled stepped => settled.step stepped) (settled_installed others)
        reachedBefore
    refine ⟨?_, ?_⟩
    · exact truthful_dead settled (notStale.after reachedBefore).1 begins inRound reachedAfter atLoop
    · intro alive isIdle
      subst isIdle
      exact truthful_alive inRound reachedAfter alive

instance (state : Daemon) : ∀ action, Decidable (state.NotStale action)
  | .idle => inferInstanceAs (Decidable (state.isRunning = false → state.status.state ≠ .running))
  | .command _ _ | .fork _ | .next | .restart | .exits _ | .unrelated _ => isTrue trivial

theorem start_and_stop_published : ∃ final,
    run Daemon.step (installed fun _ => false) startAndStop = some final ∧
      PublishesTruth (installed fun _ => false) startAndStop := by
  have runs : (run Daemon.step (installed fun _ => false) startAndStop).isSome = true := by
    decide +kernel
  obtain ⟨final, reached⟩ := Option.isSome_iff_exists.mp runs
  have notStale : Meets Daemon.step NotStale (installed fun _ => false) startAndStop := by
    decide +kernel
  exact ⟨final, reached, (published_iff_notStale _ reached).mpr notStale⟩

/-- The engine is up, then it ends on its own. -/
def engineEnds : List DaemonAction :=
  [.command (lit "start") true, .fork 501, .next, .next, .exits 501]

theorem ended_engine_published_running :
    ¬ PublishesTruth (installed fun _ => false) (engineEnds ++ [.idle]) := by
  intro publishes
  have stale : (run Daemon.step (installed fun _ => false) engineEnds).map
      (fun state => (state.point, state.isRunning, state.status.state)) =
        some (.loop, false, .running) := by
    decide +kernel
  obtain ⟨before, reached, same⟩ := Option.map_eq_some_iff.mp stale
  obtain ⟨atLoop, dead, running⟩ : before.point = .loop ∧ before.isRunning = false ∧
      before.status.state = .running := by
    simpa using same
  obtain ⟨stays, alwaysDead⟩ := stale_after_idle atLoop dead
  have truthful := publishes engineEnds .idle [] [] before before rfl reached stays trivial
    (fun action there => absurd there List.not_mem_nil) atLoop
  exact (truthful.dead alwaysDead).1 running

end Daemon

end Gecit.Macos
