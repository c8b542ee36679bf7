import Gecit.Macos.StartCommand
import Gecit.Macos.Survival

/-!
Contract: what the helper daemon does to the machine in the whole of its life.

Before a round any process of the console user may put anything into the command file and into
the pid file. The script runs as root, and it may end in the middle of a round.

Owns the rounds with such interference, where each call of the engine's binary comes from, and
which processes are signalled and published. Does not own what a round changes in its files.
-/

namespace Gecit.Macos

open Gecit.Foundation
open Gecit.Go
open Gecit.Shell
open HelperScript

/-- What the files hold when a round begins. -/
structure Interference where
  commandFile : Bytes
  pidFile : Option Bytes

namespace Interference

/-- The line that the round hands to `handle_command`. -/
def line (found : Interference) : Bytes := readCommand found.commandFile

/-- `current_pid` -/
def currentPid (found : Interference) : Bytes := substitution (found.pidFile.getD [])

/-- The files are replaced. -/
def put (found : Interference) (helper : Helper) : Helper :=
  { helper with commandFile := found.commandFile, pidFile := found.pidFile }

end Interference

/-- The rounds of the main loop, as far as the script gets. -/
def life (system : System) : List Interference → Script Helper Unit
  | [] => pure ()
  | found :: later => do
      modify found.put
      mainLoop system
      life system later

/-- The script from its first status on. -/
def daemon (system : System) (found : List Interference) : Script Helper Unit := do
  writeStatus system .stopped (lit "Hazır")
  life system found

/-! ### What a round may do -/

/-- The words of the line ask for this call. -/
inductive Asked (line : Bytes) : List Bytes → Prop where
  | cleanup (isStop : IsStop (firstWord line)) : Asked line [lit "cleanup"]
  | run (tokens : List Bytes) (isStart : words line = lit "start" :: tokens)
      (clean : ∀ token ∈ tokens, Whitelisted token ∨ Oversized token) :
      Asked line ([lit "run", lit "-v"] ++ tokens)

/-- At most one call, and its line asked for it. -/
def OneAskedCall (found : Interference) (calls : List (List Bytes)) : Prop :=
  calls = [] ∨ ∃ call, calls = [call] ∧ Asked found.line call

/-- A process had the pid when `kill -0` tested it. -/
def Answered (system : System) (pid : Bytes) : Prop := pid ≠ [] ∧ ∃ n, system.alive n pid = true

/-- `TERM`, then `KILL`, for the process in the pid file, in a stop. -/
def StopSignals (system : System) (found : Interference) (signals : List (Signal × Bytes)) : Prop :=
  signals = [] ∨ IsStop (firstWord found.line) ∧ Answered system found.currentPid ∧
    signals <+: [(.term, found.currentPid), (.kill, found.currentPid)]

/-- The pid that is published names no process, or one of these that answered. -/
def Honest (system : System) (pids : List Bytes) (announcement : Announcement) : Prop :=
  announcement.pid = lit "null" ∨ announcement.pid ∈ pids ∧ Answered system announcement.pid

/-- The pid in the file, or the one of an engine that was started in this round. -/
def HonestStatuses (system : System) (found : Interference) (statuses : List Announcement) : Prop :=
  ∀ announcement ∈ statuses, Honest system [found.currentPid, substitution system.child] announcement

variable {system : System} {helper : Helper}

/-! ### Calls -/

theorem killEngine_calls :
    Leaves (killEngine system) (fun _ after => after.calls = helper.calls) helper := by
  have kills : ∀ (signal : Signal) (pid : Bytes) (before : Helper),
      Leaves (kill system signal pid) (fun _ after => after.calls = before.calls) before := by
    intro signal pid before
    unfold kill
    rw [leaves_bind, leaves_modify]
    dsimp only
    split <;> rfl
  apply leaves_bind.mpr
  apply (isRunning_calls helper).leaves
  intro running tested same
  dsimp only
  split
  · rw [leaves_bind, leaves_get]
    apply (kills _ _ tested).bind
    · intro _ signalled sameSignalled
      apply (kills _ _ signalled).mono
      intro _ after sameAfter
      exact (sameAfter.trans sameSignalled).trans same
    · intro after sameAfter
      exact sameAfter.trans same
  · exact same

/-- The script may have signalled itself before the engine's binary was called. -/
theorem stopGecit_calls : Leaves (stopGecit system) (fun _ after =>
    after.calls = helper.calls ∨ after.calls = helper.calls ++ [[lit "cleanup"]]) helper := by
  apply leaves_bind.mpr
  apply (writeStatus_calls _ _ helper).leaves
  intro _ announced same
  apply killEngine_calls.bind
  · intro _ signalled sameSignalled
    have cleans : GoesOn (cleanUp system)
        (fun _ after => after.calls = signalled.calls ++ [[lit "cleanup"]]) signalled := by
      unfold cleanUp removePidFile call
      rw [goesOn_bind, goesOn_modify, goesOn_bind, goesOn_modify]
      exact writeStatus_calls _ _ _
    apply cleans.leaves
    intro _ after called
    rw [called, sameSignalled, same]
    exact .inr rfl
  · intro after sameAfter
    exact .inl (sameAfter.trans same)

theorem mem_calls_startGecit {running executable : Bool} {parts args : List Bytes}
    (called : args ∈ (Macos.startGecit running executable parts).calls) :
    (Macos.startGecit running executable parts).calls = [args] ∧
      args = [lit "run", lit "-v"] ++ parts.tail ∧
      ∀ token ∈ parts.tail, Whitelisted token ∨ Oversized token := by
  unfold Macos.startGecit at called ⊢
  cases sanitized : Macos.sanitizeStartArgs parts.tail with
  | none =>
      rw [sanitized] at called
      contradiction
  | some safeArgs =>
      obtain ⟨rfl, clean⟩ := sanitizeStartArgs_eq_some_iff.mp sanitized
      rw [sanitized] at called
      dsimp only at called ⊢
      split_ifs at called ⊢
      · contradiction
      · contradiction
      · obtain rfl := List.mem_singleton.mp called
        exact ⟨rfl, rfl, clean⟩

/-- The calls that `start_gecit` chooses for the words of a line. -/
theorem oneAskedCall_start {found : Interference} {tokens : List Bytes}
    (isStart : words found.line = lit "start" :: tokens) (running executable : Bool) :
    OneAskedCall found (Macos.startGecit running executable (lit "start" :: tokens)).calls := by
  cases chosen : (Macos.startGecit running executable (lit "start" :: tokens)).calls with
  | nil => exact .inl rfl
  | cons args rest =>
      have called : args ∈ (Macos.startGecit running executable (lit "start" :: tokens)).calls := by
        rw [chosen]
        exact List.mem_cons_self
      obtain ⟨one, same, clean⟩ := mem_calls_startGecit called
      refine .inr ⟨args, chosen.symm.trans one, ?_⟩
      rw [same]
      exact .run tokens isStart clean

/-- What a round leaves, with what it has added to a list. -/
def Adds {ε : Type} (trace : Helper → List ε) (allowed : List ε → Prop) (before after : Helper) :
    Prop :=
  ∃ added, trace after = trace before ++ added ∧ allowed added

theorem Adds.none {ε : Type} {trace : Helper → List ε} {allowed : List ε → Prop}
    {before after : Helper} (same : trace after = trace before) (idle : allowed []) :
    Adds trace allowed before after :=
  ⟨[], same.trans (List.append_nil _).symm, idle⟩

theorem leaves_enter {branch : HelperCommand} {body : Script Helper Unit}
    {post : Option Unit → Helper → Prop} : Leaves (enter branch >>= fun _ => body) post helper ↔
      Leaves body post { helper with branches := helper.branches ++ [branch] } := by
  unfold enter
  rw [leaves_bind, leaves_modify]

theorem handleCommand_calls {found : Interference} :
    Leaves (HelperScript.handleCommand system found.line)
      (fun _ => Adds Helper.calls (OneAskedCall found) helper) helper := by
  have idle : OneAskedCall found [] := .inl rfl
  have quietly : ∀ {branch : HelperCommand} {body : Script Helper Unit},
      Keeps Helper.calls body → Leaves (enter branch >>= fun _ => body)
        (fun _ => Adds Helper.calls (OneAskedCall found) helper) helper := by
    intro branch body keeps
    apply leaves_enter.mpr
    apply (keeps _).leaves
    intro _ after same
    exact .none same idle
  have stops : ∀ branch, IsStop (firstWord found.line) →
      Leaves (enter branch >>= fun _ => stopGecit system)
        (fun _ => Adds Helper.calls (OneAskedCall found) helper) helper := by
    intro branch isStop
    apply leaves_enter.mpr
    apply Leaves.mono stopGecit_calls
    intro _ after either
    rcases either with same | called
    · exact .none same idle
    · exact ⟨_, called, .inr ⟨_, rfl, .cleanup isStop⟩⟩
  unfold HelperScript.handleCommand
  rw [leaves_bind, leaves_expand]
  cases isLine : words found.line with
  | nil => exact .none rfl idle
  | cons command tokens =>
      have first : firstWord found.line = some command := congrArg List.head? isLine
      dsimp only [List.head?_cons]
      split_ifs with isStart isStop isCleanup isStatus
      · subst isStart
        apply leaves_enter.mpr
        unfold expandAll
        rw [leaves_bind, if_neg (List.cons_ne_nil _ _), leaves_pure]
        apply (goesOn_startGecit (lit "start" :: tokens) _).leaves
        intro _ after started
        obtain ⟨running, called⟩ := started
        exact ⟨_, called, oneAskedCall_start isLine running system.executable⟩
      · apply stops
        rw [first, isStop]
        exact .inl rfl
      · apply stops
        rw [first, isCleanup]
        exact .inr rfl
      · exact quietly (isRunning_calls.bind fun _ =>
          Keeps.ite (writeStatus_calls _ _) (writeStatus_calls _ _))
      · exact quietly (writeStatus_calls _ _)

theorem mainLoop_calls {found : Interference} : Leaves (mainLoop system)
    (fun _ => Adds Helper.calls (OneAskedCall found) helper) (found.put helper) := by
  unfold mainLoop
  rw [leaves_bind, leaves_get]
  dsimp only
  split
  next nonempty => exact leaves_bind.mpr handleCommand_calls
  next empty =>
    have keeps : Keeps Helper.calls (idle system) :=
      isRunning_calls.bind fun _ => Keeps.ite (writeStatus_calls _ _) (Keeps.pure ())
    apply (keeps (found.put helper)).leaves
    intro _ after same
    exact .none same (.inl rfl)

/-! ### Signals and statuses -/

/-- No process was signalled, and each pid that was published is honest. -/
structure Reports (system : System) (pids : List Bytes) (before after : Helper) : Prop where
  signals : after.signals = before.signals
  statuses : Adds Helper.statuses (fun added => ∀ announcement ∈ added,
    Honest system pids announcement) before after

section Reports

variable {pids : List Bytes} {before between after : Helper}

theorem Adds.trans {ε : Type} {trace : Helper → List ε} {allowed : ε → Prop}
    (first : Adds trace (fun added => ∀ entry ∈ added, allowed entry) before between)
    (second : Adds trace (fun added => ∀ entry ∈ added, allowed entry) between after) :
    Adds trace (fun added => ∀ entry ∈ added, allowed entry) before after := by
  obtain ⟨added, grown, each⟩ := first
  obtain ⟨later, grownFurther, eachLater⟩ := second
  refine ⟨added ++ later, ?_, ?_⟩
  · rw [grownFurther, grown, List.append_assoc]
  · intro entry there
    rcases List.mem_append.mp there with early | late
    · exact each entry early
    · exact eachLater entry late

theorem Reports.trans (first : Reports system pids before between)
    (second : Reports system pids between after) : Reports system pids before after :=
  ⟨second.signals.trans first.signals, first.statuses.trans second.statuses⟩

/-- What is reported. -/
def reported (helper : Helper) : List (Signal × Bytes) × List Announcement × Option Bytes :=
  (helper.signals, helper.statuses, helper.pidFile)

theorem Reports.of_silent (signals : after.signals = before.signals)
    (statuses : after.statuses = before.statuses) : Reports system pids before after := by
  refine ⟨signals, .none statuses ?_⟩
  intro _ there
  contradiction

/-- Nothing was reported before. -/
theorem Reports.after_silent (later : Reports system pids between after)
    (signals : between.signals = before.signals) (statuses : between.statuses = before.statuses) :
    Reports system pids before after :=
  (Reports.of_silent signals statuses).trans later

theorem Honest.among {pid : Bytes} {announcement : Announcement}
    (honest : Honest system [pid] announcement) (known : pid = [] ∨ pid ∈ pids) :
    Honest system pids announcement := by
  rcases honest with noProcess | ⟨same, answered⟩
  · exact .inl noProcess
  · obtain same := List.mem_singleton.mp same
    rcases known with isEmpty | there
    · exact absurd (same.trans isEmpty) answered.1
    · exact .inr ⟨same ▸ there, answered⟩

end Reports

theorem goesOn_isRunning_answered : GoesOn (isRunning system) (fun running after =>
    reported after = reported helper ∧ (running = true → Answered system helper.currentPid))
    helper := by
  unfold isRunning killZero
  rw [goesOn_bind, goesOn_get]
  split
  next => exact goesOn_pure.mpr ⟨rfl, fun impossible => absurd impossible Bool.false_ne_true⟩
  next =>
    split
    next => exact goesOn_pure.mpr ⟨rfl, fun impossible => absurd impossible Bool.false_ne_true⟩
    next somePid =>
      rw [goesOn_bind, goesOn_get, goesOn_bind, goesOn_modify, goesOn_pure]
      exact ⟨rfl, fun alive => ⟨somePid, helper.tests, alive⟩⟩

theorem currentPid_of_reported {after : Helper} (same : reported after = reported helper) :
    after.currentPid = helper.currentPid :=
  currentPid_congr (congrArg (fun seen => seen.2.2) same)

/-- The pid is published only if it answered. -/
theorem goesOn_writeStatus (state : RuntimeState) (message : Bytes) :
    GoesOn (writeStatus system state message) (fun _ after =>
      Reports system [helper.currentPid] helper after ∧ after.pidFile = helper.pidFile) helper := by
  apply goesOn_isRunning_answered.bind
  intro running tested known
  obtain ⟨same, answers⟩ := known
  rw [goesOn_modify]
  refine ⟨⟨congrArg Prod.fst same, ?_⟩, congrArg (fun seen => seen.2.2) same⟩
  refine ⟨[_], congrArg (· ++ [_]) (congrArg (fun seen => seen.2.1) same), ?_⟩
  intro announcement there
  obtain rfl := List.mem_singleton.mp there
  cases running with
  | false => exact .inl rfl
  | true =>
      refine .inr ⟨List.mem_singleton.mpr (currentPid_of_reported same), ?_⟩
      show Answered system tested.currentPid
      rw [currentPid_of_reported same]
      exact answers rfl

/-- The pid in the file is one of these, if there is one. -/
def Known (pids : List Bytes) (helper : Helper) : Prop :=
  helper.currentPid = [] ∨ helper.currentPid ∈ pids

section Known

variable {pids : List Bytes}

theorem Known.congr {after : Helper} (known : Known pids helper)
    (same : after.pidFile = helper.pidFile) : Known pids after := by
  unfold Known
  rw [currentPid_congr same]
  exact known

theorem reports_writeStatus (known : Known pids helper) (state : RuntimeState) (message : Bytes) :
    GoesOn (writeStatus system state message) (fun _ after =>
      Reports system pids helper after ∧ after.pidFile = helper.pidFile) helper := by
  apply (goesOn_writeStatus state message).mono
  intro _ after both
  obtain ⟨⟨signals, added, grown, honest⟩, samePid⟩ := both
  refine ⟨⟨signals, added, grown, ?_⟩, samePid⟩
  intro announcement there
  exact (honest announcement there).among known

/-- A test, then one of two statuses. -/
theorem reports_either (known : Known pids helper) {yes no : Script Helper Unit}
    (ifYes : ∀ tested, Known pids tested →
      GoesOn yes (fun _ after => Reports system pids tested after) tested)
    (ifNo : ∀ tested, Known pids tested →
      GoesOn no (fun _ after => Reports system pids tested after) tested) :
    GoesOn (isRunning system >>= fun running => if running then yes else no)
      (fun _ after => Reports system pids helper after) helper := by
  apply goesOn_isRunning_answered.bind
  intro running tested both
  obtain ⟨same, _⟩ := both
  have knownStill : Known pids tested := known.congr (congrArg (fun seen => seen.2.2) same)
  have silent : Reports system pids helper tested :=
    .of_silent (congrArg Prod.fst same) (congrArg (fun seen => seen.2.1) same)
  split
  · exact (ifYes tested knownStill).mono fun _ _ reports => silent.trans reports
  · exact (ifNo tested knownStill).mono fun _ _ reports => silent.trans reports

theorem reports_status (known : Known pids helper) (state : RuntimeState) (message : Bytes) :
    GoesOn (writeStatus system state message) (fun _ after => Reports system pids helper after)
      helper :=
  (reports_writeStatus known state message).mono fun _ _ both => both.1

theorem reports_reportStatus (known : Known pids helper) : GoesOn (reportStatus system)
    (fun _ after => Reports system pids helper after) helper :=
  reports_either known (fun _ still => reports_status still _ _) fun _ still =>
    reports_status still _ _

theorem reports_idle (known : Known pids helper) : GoesOn (idle system)
    (fun _ after => Reports system pids helper after) helper :=
  reports_either known (fun _ still => reports_status still _ _) fun _ _ =>
    goesOn_pure.mpr (.of_silent rfl rfl)

/-! ### A start and a stop -/

theorem substitution_child (pid : Bytes) : substitution (pid ++ [newline]) = substitution pid := by
  unfold substitution
  rw [List.filter_append, List.filter_cons_of_pos (by decide), List.filter_nil,
    List.rdropWhile_concat_pos _ _ _ (by decide)]

theorem known_of_removed (helper : Helper) : Known pids { helper with pidFile := none } :=
  .inl rfl

theorem sanitizeLoop_reported (tokens : List Bytes) : Keeps reported (sanitizeLoop tokens) := by
  induction tokens with
  | nil => exact Keeps.pure true
  | cons token rest inductionHypothesis =>
      apply Keeps.ite
      · exact Keeps.bind (Keeps.change fun _ => rfl) fun _ => inductionHypothesis
      · exact Keeps.pure false

/-- From the call on the pid file holds the new engine's pid. -/
theorem reports_launch (known : Known pids helper) (child : substitution system.child ∈ pids) :
    GoesOn (launch system) (fun _ after => Reports system pids helper after) helper := by
  have confirms : ∀ spawned, Known pids spawned → GoesOn (do
      let running ← isRunning system
      if running then writeStatus system .running (lit "Gecit çalışıyor")
      else do
        removePidFile
        writeStatus system .error (lit "Gecit başlatılamadı"))
      (fun _ after => Reports system pids spawned after) spawned := by
    intro spawned knownChild
    apply reports_either knownChild
    · exact fun _ still => reports_status still _ _
    · intro tested _
      unfold removePidFile
      rw [goesOn_bind, goesOn_modify]
      apply (reports_status (known_of_removed tested) _ _).mono
      exact fun _ _ reports => reports.after_silent rfl rfl
  apply (reports_writeStatus known _ _).bind
  intro _ announced both
  apply goesOn_engineArgs.bind
  intro args unchanged bothArgs
  obtain ⟨_, rfl⟩ := bothArgs
  rw [goesOn_bind, call, goesOn_modify, goesOn_bind, goesOn_modify]
  have knownChild : ∀ spawned : Helper, spawned.pidFile = some (system.child ++ [newline]) →
      Known pids spawned := by
    intro spawned inFile
    right
    unfold Helper.currentPid
    rw [inFile, Option.getD_some, substitution_child]
    exact child
  apply (confirms _ (knownChild _ rfl)).mono
  intro _ after reports
  exact both.1.trans (reports.after_silent rfl rfl)

theorem reports_startGecit (known : Known pids helper)
    (child : substitution system.child ∈ pids) (parts : List Bytes) :
    GoesOn (HelperScript.startGecit system parts)
      (fun _ after => Reports system pids helper after) helper := by
  have silently : Keeps reported (HelperScript.sanitizeStartArgs parts.tail) :=
    Keeps.bind (Keeps.change fun _ => rfl) fun _ => sanitizeLoop_reported _
  apply (silently helper).bind
  intro accepted sanitized same
  have knownStill : Known pids sanitized := known.congr (congrArg (fun seen => seen.2.2) same)
  have silent : Reports system pids helper sanitized :=
    .of_silent (congrArg Prod.fst same) (congrArg (fun seen => seen.2.1) same)
  refine GoesOn.mono ?_ fun _ _ reports => silent.trans reports
  split
  · exact reports_status knownStill _ _
  · apply reports_either knownStill
    · exact fun _ still => reports_status still _ _
    · intro tested still
      split
      · exact reports_status still _ _
      · exact reports_launch still child

end Known

/-- What a stop signals: nothing, or the process that answered. -/
def SignalsOf (system : System) (pid : Bytes) (signals : List (Signal × Bytes)) : Prop :=
  signals = [] ∨ Answered system pid ∧ signals <+: [(.term, pid), (.kill, pid)]

/-- The second signal is sent only if the first one left the script running. -/
theorem leaves_killEngine : Leaves (killEngine system) (fun _ after =>
    Adds Helper.signals (SignalsOf system helper.currentPid) helper after ∧
      after.statuses = helper.statuses) helper := by
  apply leaves_bind.mpr
  apply goesOn_isRunning_answered.leaves
  intro running tested both
  obtain ⟨same, answers⟩ := both
  have signals : tested.signals = helper.signals := congrArg Prod.fst same
  have statuses : tested.statuses = helper.statuses := congrArg (fun seen => seen.2.1) same
  dsimp only
  split
  next isAlive =>
    have answered := answers isAlive
    rw [leaves_bind, leaves_get]
    dsimp only
    rw [currentPid_of_reported same]
    unfold kill
    simp only [leaves_bind, leaves_modify]
    have sent : ∀ sent : List (Signal × Bytes),
        sent <+: [(.term, helper.currentPid), (.kill, helper.currentPid)] → ∀ after : Helper,
        after.signals = tested.signals ++ sent → after.statuses = tested.statuses →
        Adds Helper.signals (SignalsOf system helper.currentPid) helper after ∧
          after.statuses = helper.statuses := by
      intro sent isPrefix after grown unchanged
      refine ⟨⟨sent, ?_, .inr ⟨answered, isPrefix⟩⟩, unchanged.trans statuses⟩
      rw [grown, signals]
    split
    next => exact sent [_] ⟨[_], rfl⟩ _ rfl rfl
    next =>
      simp only [leaves_pure]
      split
      · exact sent [_, _] ⟨[], rfl⟩ _ (List.append_assoc _ _ _) rfl
      · exact sent [_, _] ⟨[], rfl⟩ _ (List.append_assoc _ _ _) rfl
  next => exact ⟨.none signals (.inl rfl), statuses⟩


theorem leaves_stopGecit : Leaves (stopGecit system) (fun _ after =>
    Adds Helper.signals (SignalsOf system helper.currentPid) helper after ∧
      Adds Helper.statuses (fun added => ∀ announcement ∈ added,
        Honest system [helper.currentPid] announcement) helper after) helper := by
  have known : Known [helper.currentPid] helper := .inr (List.mem_singleton.mpr rfl)
  apply leaves_bind.mpr
  apply (reports_writeStatus known _ _).leaves
  intro _ announced both
  obtain ⟨⟨signals, statuses⟩, samePid⟩ := both
  dsimp only
  have kills := @leaves_killEngine system announced
  rw [currentPid_congr samePid] at kills
  apply kills.bind
  · intro _ signalled both
    obtain ⟨⟨sent, grown, isSent⟩, unchanged⟩ := both
    have cleans : GoesOn (cleanUp system)
        (fun _ after => Reports system [helper.currentPid] signalled after) signalled := by
      unfold cleanUp removePidFile call
      rw [goesOn_bind, goesOn_modify, goesOn_bind, goesOn_modify]
      apply (reports_status (.inl rfl) _ _).mono
      exact fun _ _ reports => reports.after_silent rfl rfl
    apply cleans.leaves
    intro _ after reports
    refine ⟨⟨sent, ?_, isSent⟩, ?_⟩
    · rw [reports.signals, grown, signals]
    · exact (statuses.trans (.none unchanged fun _ there => absurd there List.not_mem_nil)).trans
        reports.statuses
  · intro after both
    obtain ⟨⟨sent, grown, isSent⟩, unchanged⟩ := both
    refine ⟨⟨sent, ?_, isSent⟩, ?_⟩
    · rw [grown, signals]
    · exact statuses.trans (.none unchanged fun _ there => absurd there List.not_mem_nil)

/-- What a round of these files may add to what is signalled and published. -/
def RoundReports (system : System) (found : Interference) (before after : Helper) : Prop :=
  Adds Helper.signals (StopSignals system found) before after ∧
    Adds Helper.statuses (HonestStatuses system found) before after

theorem RoundReports.of_reports {found : Interference} {before after : Helper}
    (reports : Reports system [found.currentPid, substitution system.child] before after) :
    RoundReports system found before after :=
  ⟨.none reports.signals (.inl rfl), reports.statuses⟩

theorem handleCommand_reports {found : Interference} (same : helper.pidFile = found.pidFile) :
    Leaves (HelperScript.handleCommand system found.line)
      (fun _ => RoundReports system found helper) helper := by
  have samePid : helper.currentPid = found.currentPid := by
    unfold Helper.currentPid Interference.currentPid
    rw [same]
  have known : Known [found.currentPid, substitution system.child] helper := by
    right
    rw [samePid]
    exact List.mem_cons_self
  have child : substitution system.child ∈ [found.currentPid, substitution system.child] :=
    List.mem_cons_of_mem _ (List.mem_singleton.mpr rfl)
  have entered : ∀ {branch : HelperCommand} {body : Script Helper Unit},
      (∀ entered : Helper, Known [found.currentPid, substitution system.child] entered →
        GoesOn body (fun _ => Reports system [found.currentPid, substitution system.child] entered)
          entered) →
      Leaves (enter branch >>= fun _ => body) (fun _ => RoundReports system found helper) helper := by
    intro branch body reports
    apply leaves_enter.mpr
    apply (reports { helper with branches := helper.branches ++ [branch] } (known.congr rfl)).leaves
    intro _ after reported
    exact .of_reports (reported.after_silent rfl rfl)
  have stops : ∀ branch, IsStop (firstWord found.line) →
      Leaves (enter branch >>= fun _ => stopGecit system)
        (fun _ => RoundReports system found helper) helper := by
    intro branch isStop
    apply leaves_enter.mpr
    apply Leaves.mono leaves_stopGecit
    intro _ after both
    obtain ⟨⟨sent, grown, isSent⟩, added, announced, honest⟩ := both
    refine ⟨⟨sent, grown, ?_⟩, added, announced, ?_⟩
    · refine isSent.imp id fun answered => ?_
      exact ⟨isStop, samePid ▸ answered.1, samePid ▸ answered.2⟩
    · intro announcement there
      exact (honest announcement there).among (known.congr rfl)
  unfold HelperScript.handleCommand
  rw [leaves_bind, leaves_expand]
  cases isLine : words found.line with
  | nil => exact .of_reports (.of_silent rfl rfl)
  | cons command tokens =>
      have first : firstWord found.line = some command := congrArg List.head? isLine
      dsimp only [List.head?_cons]
      split_ifs with isStart isStop isCleanup isStatus
      · apply entered
        intro entered still
        rw [goesOn_bind, goesOn_expandAll]
        exact ⟨List.cons_ne_nil _ _, reports_startGecit still child _⟩
      · apply stops
        rw [first, isStop]
        exact .inl rfl
      · apply stops
        rw [first, isCleanup]
        exact .inr rfl
      · exact entered fun _ still => reports_reportStatus still
      · exact entered fun _ still => reports_status still _ _

theorem mainLoop_reports {found : Interference} : Leaves (mainLoop system)
    (fun _ => RoundReports system found helper) (found.put helper) := by
  unfold mainLoop
  rw [leaves_bind, leaves_get]
  dsimp only
  split
  next nonempty => exact leaves_bind.mpr (handleCommand_reports rfl)
  next empty =>
    have known : Known [found.currentPid, substitution system.child] (found.put helper) :=
      .inr List.mem_cons_self
    apply (reports_idle known).leaves
    intro _ after reports
    exact .of_reports (reports.after_silent rfl rfl)

/-! ### A life -/

/-- What each round that began may have added, whether or not it came to its end. -/
theorem life_adds {ε : Type} {trace : Helper → List ε} {allowed : Interference → List ε → Prop}
    (round : ∀ found helper,
      Leaves (mainLoop system) (fun _ => Adds trace (allowed found) helper) (found.put helper))
    (found : List Interference) (helper : Helper) :
    Leaves (life system found) (fun _ after => ∃ added,
      List.Forall₂ allowed (found.take added.length) added ∧
        trace after = trace helper ++ added.flatten) helper := by
  induction found generalizing helper with
  | nil => exact ⟨[], .nil, (List.append_nil _).symm⟩
  | cons first later inductionHypothesis =>
      unfold life
      rw [leaves_bind, leaves_modify]
      apply (round first helper).bind
      · intro _ between adds
        obtain ⟨added, grown, isAllowed⟩ := adds
        apply (inductionHypothesis between).mono
        intro _ after lived
        obtain ⟨rest, eachAllowed, grownFurther⟩ := lived
        refine ⟨added :: rest, .cons isAllowed eachAllowed, ?_⟩
        rw [grownFurther, grown, List.append_assoc, List.flatten_cons]
      · intro after adds
        obtain ⟨added, grown, isAllowed⟩ := adds
        refine ⟨[added], .cons isAllowed .nil, ?_⟩
        rw [grown, List.flatten_singleton]

/-- The binary is called for one reason: the command of a round asked for it, once, and a start
brings the words of that command, each of which passed. -/
theorem every_call_asked (system : System) (found : List Interference) (helper : Helper) :
    Leaves (daemon system found) (fun _ after => ∃ calls : List (List (List Bytes)),
      List.Forall₂ OneAskedCall (found.take calls.length) calls ∧
        after.calls = helper.calls ++ calls.flatten) helper := by
  apply leaves_bind.mpr
  apply (writeStatus_calls _ _ helper).leaves
  intro _ announced same
  dsimp only
  rw [← same]
  exact life_adds (fun _ _ => mainLoop_calls) found announced

end Gecit.Macos
