import Gecit.App.CleanupDarwin
import Gecit.App.StartDarwin

/-!
Contract: the DNS settings of a Mac over engine runs and cleanups in any order.

Calls of `networksetup` and steps of a run may fail, and a process may end between two steps. The
servers that are in force, in the breadcrumb and in memory are the user's, gecit's own or none:
a machine of these three values follows the settings, whatever the user's servers are.

Owns that machine, that the settings refine it, and what any cleanup and any session leave. Does
not own calls of `cleanup` that fail, nor services other than Wi-Fi.
-/

namespace Gecit.App.Darwin

open Gecit.Foundation
open Gecit.Go
open Gecit.Dns Networksetup
open Gecit.Dns.Darwin

/-- How the steps of one run go. -/
structure Conditions extends Failures where
  dohEnabled : Bool
  /-- `networksetup` fails when the servers are set back. -/
  restore : Bool
deriving DecidableEq

inductive EngineStep where
  | dnsStart
  | restoreBreadcrumb
  | saveCurrent
  | setLoopback
  | mgrStart
  | restoreServers
  | removeBreadcrumb
  | dnsStop
  | mgrStop
deriving DecidableEq

namespace Conditions

/-- `SetSystemDNS`, between the server's start and what follows. -/
def takeOver : List EngineStep := [.dnsStart, .restoreBreadcrumb, .saveCurrent, .setLoopback]

/-- `RestoreSystemDNS`, and the server's stop. -/
def giveBack : List EngineStep := [.restoreServers, .removeBreadcrumb, .dnsStop]

/-- `tunEngine.Start`: the steps that it takes, and whether it succeeds. -/
def start (conditions : Conditions) : List EngineStep × Bool :=
  if conditions.dohEnabled then
    if conditions.dnsStart then ([.dnsStart], false)
    else if conditions.setdnsservers then (takeOver ++ [.dnsStop], false)
    else if conditions.mgrStart then (takeOver ++ [.mgrStart] ++ giveBack, false)
    else (takeOver ++ [.mgrStart], true)
  else ([.mgrStart], !conditions.mgrStart)

/-- `tunEngine.Stop` -/
def stop (conditions : Conditions) : List EngineStep :=
  [.mgrStop] ++ if conditions.dohEnabled then giveBack else []

/-- `runEngine`, up to its end. -/
def steps (conditions : Conditions) : List EngineStep :=
  conditions.start.1 ++ if conditions.start.2 then conditions.stop else []

variable (tool : Networksetup)

def take (conditions : Conditions) (state : State) : EngineStep → State
  | .restoreBreadcrumb =>
      { machine := restoreBreadcrumb tool state.machine wiFi
        process := { state.process with savedService := wiFi } }
  | .saveCurrent =>
      if conditions.getdnsservers then state else saveCurrent tool state.machine wiFi
  | .setLoopback =>
      if conditions.setdnsservers then state
      else { state with machine := tool.setdnsservers state.machine wiFi [loopback] }
  | .restoreServers =>
      if conditions.restore then state
      else
        let svc := if state.process.savedService = [] then wiFi else state.process.savedService
        { state with
          machine := tool.setdnsservers state.machine svc (restoreArgs state.process.savedDNS) }
  | .removeBreadcrumb => { state with machine := { state.machine with breadcrumb := none } }
  | .dnsStart | .mgrStart | .dnsStop | .mgrStop => state

end Conditions

inductive Event where
  /-- A run that returns, or ends behind so many steps. -/
  | run (conditions : Conditions) (crash : Option Nat)
  | cleanup

/-- The steps that are taken. -/
def takenSteps (conditions : Conditions) : Option Nat → List EngineStep
  | none => conditions.steps
  | some count => conditions.steps.take count

variable (tool : Networksetup)

def Event.exec (machine : Machine) : Event → Machine
  | .run conditions crash =>
      ((takenSteps conditions crash).foldl (conditions.take tool) ⟨machine, .fresh⟩).machine
  | .cleanup => (platformCleanup tool machine).1

/-! ### The calls of the source -/

variable {tool}

/-- The steps of `SetSystemDNS`, when they fail as `trySetSystemDNS` has it. -/
theorem takeOver_eq (conditions : Conditions) (state : State) :
    Conditions.takeOver.foldl (conditions.take tool) state =
      (trySetSystemDNS tool conditions.toFailures [] state).1 := by
  simp only [Conditions.takeOver, List.foldl_cons, List.foldl_nil, Conditions.take,
    trySetSystemDNS, serviceName]
  split <;> split <;> rfl

/-- The steps of `RestoreSystemDNS`, when none fails. -/
theorem giveBack_eq {conditions : Conditions} (works : conditions.restore = false) (state : State) :
    Conditions.giveBack.foldl (conditions.take tool) state = restoreSystemDNS tool [] state := by
  simp only [Conditions.giveBack, List.foldl_cons, List.foldl_nil, Conditions.take,
    restoreSystemDNS, serviceName, works]
  rfl

/-! ### Three values -/

/-- What servers can be: those that the user has set, none, or gecit's own address. -/
inductive Servers where
  | user
  | none
  | own
deriving DecidableEq

def Servers.config (user : List GoString) : Servers → List GoString
  | .user => user
  | .none => []
  | .own => [loopback]

/-- The settings by their values; memory is empty until the servers are saved. -/
structure Tracked where
  dns : Servers
  breadcrumb : Option Servers
  memory : Option Servers
deriving DecidableEq

namespace Tracked

/-- The user's settings, and no trace of gecit. -/
def whole : Tracked := ⟨.user, Option.none, Option.none⟩

def take (conditions : Conditions) (tracked : Tracked) : EngineStep → Tracked
  | .saveCurrent =>
      if conditions.getdnsservers then tracked
      else ⟨tracked.dns, some tracked.dns, some tracked.dns⟩
  | .setLoopback => if conditions.setdnsservers then tracked else { tracked with dns := .own }
  | .restoreServers =>
      if conditions.restore then tracked
      else { tracked with dns := tracked.memory.getD .none }
  | .removeBreadcrumb => { tracked with breadcrumb := Option.none }
  | .dnsStart | .restoreBreadcrumb | .mgrStart | .dnsStop | .mgrStop => tracked

/-- A run of another process. -/
def run (tracked : Tracked) (conditions : Conditions) (crash : Option Nat) : Tracked :=
  (takenSteps conditions crash).foldl (take conditions) { tracked with memory := Option.none }

/-- The breadcrumb of more than one server is misread; gecit's own address is taken away. -/
def cleanup (short : Bool) (tracked : Tracked) : Tracked :=
  let restored := match tracked.breadcrumb with
    | Option.none => tracked.dns
    | some servers => if servers = .user ∧ short = false then tracked.dns else servers
  ⟨if restored = .own then .none else restored, Option.none, Option.none⟩

def exec (short : Bool) (tracked : Tracked) : Event → Tracked
  | .run conditions crash => tracked.run conditions crash
  | .cleanup => tracked.cleanup short

end Tracked

section Refinement

variable {user : List GoString} {tracked : Tracked}

/-- The settings have these values. -/
structure Follows (tool : Networksetup) (user : List GoString) (tracked : Tracked)
    (machine : Machine) : Prop where
  dns : machine.dns wiFi = tracked.dns.config user
  breadcrumb : machine.breadcrumb =
    tracked.breadcrumb.map fun servers => recordText tool wiFi (servers.config user)

/-- The memory of the process, too. -/
structure FollowsProcess (tool : Networksetup) (user : List GoString) (tracked : Tracked)
    (state : State) : Prop where
  machine : Follows tool user tracked state.machine
  savedDNS : state.process.savedDNS = (tracked.memory.map fun servers =>
    trimSpace (tool.printed wiFi (servers.config user))).getD []
  savedService : state.process.savedService = [] ∨ state.process.savedService = wiFi

theorem Servers.config_valid (valid : tool.Valid user) (servers : Servers) :
    tool.Valid (servers.config user) := by
  cases servers with
  | user => exact valid
  | none => exact fun _ member => absurd member List.not_mem_nil
  | own => exact valid_loopback

theorem not_address_wiFi : tool.isAddress wiFi = false := by
  rw [Bool.eq_false_iff]
  intro isAddress
  exact absurd ((tool.address_bytes wiFi isAddress).2 87 (by decide)) (by decide)

/-- The words of a breadcrumb are refused, as the service's name is among them. -/
theorem resulting_recordText {config : List GoString} (valid : tool.Valid config)
    (inForce : List GoString) :
    tool.resulting inForce (fields (trimSpace (recordText tool wiFi config))) = inForce := by
  have words : fields (trimSpace (recordText tool wiFi config)) = argsOf config ++ [wiFi] :=
    (fields_recordText wiFi valid).trans (congrArg (argsOf config ++ ·) (by decide))
  have noEmptyWord : argsOf config ++ [wiFi] ≠ [empty] := by
    intro same
    have last := congrArg List.getLast? same
    rw [List.getLast?_concat] at last
    exact absurd last (by decide)
  have refused : tool.accepts (argsOf config ++ [wiFi]) = false := by
    unfold accepts
    rw [decide_eq_false noEmptyWord, List.all_append]
    simp [@not_address_wiFi tool]
  rw [words, resulting, if_neg noEmptyWord, refused]
  rfl

/-- What the breadcrumb of a crashed run restores: nothing. -/
theorem Follows.restoreBreadcrumb {machine : Machine} (valid : tool.Valid user)
    (follows : Follows tool user tracked machine) :
    Follows tool user tracked (restoreBreadcrumb tool machine wiFi) := by
  unfold Dns.Darwin.restoreBreadcrumb
  cases recorded : tracked.breadcrumb with
  | none =>
      have noFile := follows.breadcrumb
      rw [recorded] at noFile
      rw [noFile]
      exact follows
  | some servers =>
      have file := follows.breadcrumb
      rw [recorded] at file
      rw [file]
      dsimp only [Option.map_some]
      split
      · refine ⟨?_, file.trans ?_⟩
        · rw [setdnsservers_dns, resulting_recordText (servers.config_valid valid)]
          exact follows.dns
        · rw [recorded]
      · exact follows

/-- The servers that are set back are those in memory. -/
theorem resulting_restoreArgs {state : State} (valid : tool.Valid user)
    (follows : FollowsProcess tool user tracked state) (inForce : List GoString) :
    tool.resulting inForce (restoreArgs state.process.savedDNS) =
      (tracked.memory.getD .none).config user := by
  rw [follows.savedDNS]
  cases tracked.memory with
  | none => rfl
  | some servers =>
      have validServers := servers.config_valid valid
      have recognized := @contains_printed tool wiFi _ validServers
      dsimp only [Option.map_some, Option.getD_some]
      unfold restoreArgs
      by_cases noServers : servers.config user = []
      · rw [if_neg fun saved => absurd (recognized.mpr noServers) (by rw [saved.2]; decide),
          noServers]
        rfl
      · have words := fields_printed wiFi validServers noServers
        have notBlank : trimSpace (tool.printed wiFi (servers.config user)) ≠ [] := by
          intro blank
          rw [blank] at words
          exact noServers words.symm
        rw [if_pos ⟨notBlank, Bool.eq_false_iff.mpr fun found => noServers (recognized.mp found)⟩,
          words, resulting_of_valid noServers validServers]

theorem FollowsProcess.take {state : State} (valid : tool.Valid user)
    (follows : FollowsProcess tool user tracked state) (conditions : Conditions)
    (step : EngineStep) :
    FollowsProcess tool user (tracked.take conditions step) (conditions.take tool state step) := by
  cases step with
  | dnsStart | mgrStart | dnsStop | mgrStop => exact follows
  | restoreBreadcrumb =>
      exact ⟨follows.machine.restoreBreadcrumb valid, follows.savedDNS, .inr rfl⟩
  | saveCurrent =>
      unfold Tracked.take Conditions.take
      dsimp only
      split
      · exact follows
      · have saved : tool.getdnsservers state.machine wiFi =
            tool.printed wiFi (tracked.dns.config user) :=
          congrArg (tool.printed wiFi) follows.machine.dns
        refine ⟨⟨follows.machine.dns, ?_⟩, ?_, .inr rfl⟩
        · unfold saveCurrent
          rw [saved]
          rfl
        · unfold saveCurrent
          rw [saved]
          rfl
  | setLoopback =>
      unfold Tracked.take Conditions.take
      dsimp only
      split
      · exact follows
      · refine ⟨⟨?_, follows.machine.breadcrumb⟩, follows.savedDNS, follows.savedService⟩
        rw [setdnsservers_dns, resulting_of_valid (List.cons_ne_nil _ _) valid_loopback]
        rfl
  | restoreServers =>
      have service : (if state.process.savedService = [] then wiFi
          else state.process.savedService) = wiFi := by
        rcases follows.savedService with none | named
        · exact if_pos none
        · rw [named, ite_self]
      unfold Tracked.take Conditions.take
      dsimp only
      split
      · exact follows
      · refine ⟨⟨?_, follows.machine.breadcrumb⟩, follows.savedDNS, follows.savedService⟩
        rw [service, setdnsservers_dns, resulting_restoreArgs valid follows]
  | removeBreadcrumb =>
      exact ⟨⟨follows.machine.dns, rfl⟩, follows.savedDNS, follows.savedService⟩

theorem FollowsProcess.steps {state : State} (valid : tool.Valid user)
    (follows : FollowsProcess tool user tracked state) (conditions : Conditions)
    (steps : List EngineStep) :
    FollowsProcess tool user (steps.foldl (Tracked.take conditions) tracked)
      (steps.foldl (conditions.take tool) state) := by
  induction steps generalizing tracked state with
  | nil => exact follows
  | cons step rest inductionHypothesis =>
      exact inductionHypothesis (follows.take valid conditions step)

/-- A further line, then whatever follows it. -/
theorem exists_tail (server : GoString) (rest : List GoString) (after : GoString) :
    ∃ tail, join (server :: rest) ++ newline :: after = server ++ newline :: tail := by
  cases rest with
  | nil =>
      refine ⟨after, congrArg (· ++ newline :: after) ?_⟩
      simp [join, List.intercalate]
  | cons next rest =>
      refine ⟨join (next :: rest) ++ newline :: after, ?_⟩
      rw [join_cons (List.cons_ne_nil _ _), List.append_assoc, List.cons_append]

theorem newline_notMem_address {server : GoString} (isAddress : tool.isAddress server = true) :
    newline ∉ server := fun member =>
  (address_word isAddress).2 newline member [newline] newline_code rfl

/-- More than one server: the second is taken for the service. -/
theorem cleanupCommand_service {config : List GoString} (valid : tool.Valid config)
    (long : 2 ≤ config.length) : (cleanupCommand (recordText tool wiFi config)).1 ≠ wiFi := by
  match config, long with
  | server :: next :: rest, _ =>
      have isAddress := valid next (by simp)
      obtain ⟨nonempty, spaceFree⟩ := address_word isAddress
      have servers : server :: next :: rest ≠ [] := List.cons_ne_nil _ _
      have saved : trimSpace (tool.printed wiFi (server :: next :: rest)) =
          server ++ newline :: join (next :: rest) := by
        rw [printed, if_neg servers, trimSpace_lines servers
          (fun word member => address_word (valid word member)), join_cons (List.cons_ne_nil _ _)]
      have notSentence : ¬ contains (trimSpace (tool.printed wiFi (server :: next :: rest)))
          arentAny = true := fun found => servers ((contains_printed wiFi valid).mp found)
      obtain ⟨tail, lines⟩ := exists_tail next rest (wiFi ++ [newline])
      have split : splitN 3 (recordText tool wiFi (server :: next :: rest)) =
          [server, next, tail] := by
        rw [recordText, breadcrumbText, if_neg notSentence, saved, List.append_assoc,
          List.cons_append, lines,
          splitN_line (newline_notMem_address (valid server List.mem_cons_self)) 1,
          splitN_line (newline_notMem_address isAddress) 0, splitN]
      have second : trimSpace next = next := trimSpace_eq_self spaceFree.trimmed
      have service : (cleanupCommand (recordText tool wiFi (server :: next :: rest))).1 = next := by
        have atSecond : [server, next, tail].getD 1 [] = next := rfl
        have named : (if [server, next, tail].length ≥ 2 ∧
            trimSpace ([server, next, tail].getD 1 []) ≠ [] then
              trimSpace ([server, next, tail].getD 1 []) else wiFi) = next := by
          rw [atSecond, second]
          exact if_pos ⟨by simp, nonempty⟩
        unfold cleanupCommand
        rw [split]
        dsimp only
        split <;> exact named
      rw [service]
      rintro rfl
      rw [not_address_wiFi] at isAddress
      contradiction

/-- The settings behind the command that is issued for the breadcrumb. -/
theorem dns_runCleanupCommand (valid : tool.Valid user) (machine : Machine) (servers : Servers) :
    (runCleanupCommand tool machine (recordText tool wiFi (servers.config user))).dns wiFi =
      if servers = .user ∧ decide (user.length ≤ 1) = false then machine.dns wiFi
      else servers.config user := by
  have validServers := servers.config_valid valid
  unfold runCleanupCommand
  split
  next long =>
    obtain ⟨rfl, notShort⟩ := long
    have many : 2 ≤ (Servers.user.config user).length := by
      have more := of_decide_eq_false notShort
      show 2 ≤ user.length
      omega
    exact setdnsservers_other tool _ _ (cleanupCommand_service validServers many).symm
  next notLong =>
    have short : (servers.config user).length ≤ 1 := by
      cases servers with
      | user =>
          by_contra more
          exact notLong ⟨rfl, decide_eq_false more⟩
      | none => exact Nat.zero_le 1
      | own => exact le_rfl
    rw [cleanupCommand_short (by decide) (by decide) (by decide) validServers short,
      setdnsservers_dns, resulting_argsOf validServers]

/-- Only gecit's own address is taken for a leftover. -/
theorem leftover_iff (valid : tool.Valid user) (notOwn : user ≠ [loopback]) {machine : Machine}
    {servers : Servers} (dns : machine.dns wiFi = servers.config user) :
    trimSpace (tool.getdnsservers machine wiFi) = loopback ↔ servers = .own := by
  unfold getdnsservers
  rw [dns, trimSpace_printed_eq_loopback_iff wiFi (servers.config_valid valid)]
  cases servers with
  | user => exact iff_of_false notOwn (by decide)
  | none => exact iff_of_false (by decide : ([] : List GoString) ≠ [loopback]) (by decide)
  | own => exact iff_of_true rfl rfl

theorem Follows.cleanup {machine : Machine} (valid : tool.Valid user) (notOwn : user ≠ [loopback])
    (follows : Follows tool user tracked machine) :
    Follows tool user (tracked.cleanup (decide (user.length ≤ 1)))
      (platformCleanup tool machine).1 := by
  have resets : ∀ {restored : Machine} {cleaned : Bool} {servers : Servers},
      restored.dns wiFi = servers.config user → restored.breadcrumb = none →
      Follows tool user ⟨if servers = .own then .none else servers, none, none⟩
        (if trimSpace (tool.getdnsservers restored wiFi) = loopback then
          (tool.setdnsservers restored wiFi [empty], true)
        else (restored, cleaned)).1 := by
    intro restored cleaned servers dns noFile
    by_cases own : servers = .own
    · rw [if_pos ((leftover_iff valid notOwn dns).mpr own), if_pos own]
      exact ⟨setdnsservers_dns tool _ _ _, noFile⟩
    · rw [if_neg fun leftover => own ((leftover_iff valid notOwn dns).mp leftover), if_neg own]
      exact ⟨dns, noFile⟩
  unfold platformCleanup Tracked.cleanup
  cases recorded : tracked.breadcrumb with
  | none =>
      have noFile := follows.breadcrumb
      rw [recorded] at noFile
      rw [noFile]
      exact resets follows.dns noFile
  | some servers =>
      have file := follows.breadcrumb
      rw [recorded] at file
      rw [file]
      dsimp only [Option.map_some]
      apply resets
      · rw [dns_runCleanupCommand valid]
        split
        · exact follows.dns
        · rfl
      · rfl

/-- The settings refine the machine of three values. -/
theorem Follows.exec {machine : Machine} (valid : tool.Valid user) (notOwn : user ≠ [loopback])
    (follows : Follows tool user tracked machine) (event : Event) :
    Follows tool user (tracked.exec (decide (user.length ≤ 1)) event)
      (event.exec tool machine) := by
  cases event with
  | run conditions crash =>
      have fresh : FollowsProcess tool user { tracked with memory := none } ⟨machine, .fresh⟩ :=
        ⟨⟨follows.dns, follows.breadcrumb⟩, rfl, .inl rfl⟩
      exact (fresh.steps valid conditions _).machine
  | cleanup => exact follows.cleanup valid notOwn

theorem follows_events {machine : Machine} (valid : tool.Valid user) (notOwn : user ≠ [loopback])
    (follows : Follows tool user tracked machine) (events : List Event) :
    Follows tool user (events.foldl (Tracked.exec (decide (user.length ≤ 1))) tracked)
      (events.foldl (Event.exec tool) machine) := by
  induction events generalizing tracked machine with
  | nil => exact follows
  | cons event later inductionHypothesis =>
      exact inductionHypothesis (follows.exec valid notOwn event)

end Refinement

/-! ### Sessions -/

def EngineStep.isOfSettings (step : EngineStep) : Bool :=
  step = .saveCurrent || step = .setLoopback || step = .restoreServers || step = .removeBreadcrumb

/-- The servers are saved, replaced, set back and forgotten, in this order. -/
theorem settingsSteps (conditions : Conditions) :
    conditions.steps.filter EngineStep.isOfSettings <+:
      if conditions.setdnsservers then [.saveCurrent, .setLoopback]
      else [.saveCurrent, .setLoopback, .restoreServers, .removeBreadcrumb] := by
  unfold Conditions.steps Conditions.start Conditions.stop
  cases conditions.dohEnabled <;> cases conditions.dnsStart <;>
    cases conditions.setdnsservers <;> cases conditions.mgrStart <;> decide

theorem takenSteps_initial (conditions : Conditions) (crash : Option Nat) :
    takenSteps conditions crash <+: conditions.steps := by
  cases crash with
  | none => exact List.prefix_rfl
  | some count => exact List.take_prefix _ _

/-- Gecit's address is set, and the servers are not set back before the end. -/
def HoldsServers (conditions : Conditions) (crash : Option Nat) : Prop :=
  .setLoopback ∈ takenSteps conditions crash ∧ conditions.setdnsservers = false ∧
    .restoreServers ∉ takenSteps conditions crash

instance (conditions : Conditions) (crash : Option Nat) :
    Decidable (HoldsServers conditions crash) := by
  unfold HoldsServers
  infer_instance

/-- Only the steps of the settings change their values. -/
theorem foldl_settings (conditions : Conditions) (steps : List EngineStep) (tracked : Tracked) :
    steps.foldl (Tracked.take conditions) tracked =
      (steps.filter EngineStep.isOfSettings).foldl (Tracked.take conditions) tracked := by
  induction steps generalizing tracked with
  | nil => rfl
  | cons step rest inductionHypothesis =>
      refine Eq.trans (inductionHypothesis (tracked.take conditions step)) ?_
      cases step <;> rfl

theorem mem_takenSteps_iff (conditions : Conditions) (crash : Option Nat) {step : EngineStep}
    (isOfSettings : step.isOfSettings = true) : step ∈ takenSteps conditions crash ↔
      step ∈ (takenSteps conditions crash).filter EngineStep.isOfSettings := by
  rw [List.mem_filter]
  exact (and_iff_left isOfSettings).symm

theorem holdsServers_iff (conditions : Conditions) (crash : Option Nat) :
    HoldsServers conditions crash ↔
      .setLoopback ∈ (takenSteps conditions crash).filter EngineStep.isOfSettings ∧
        conditions.setdnsservers = false ∧
          .restoreServers ∉ (takenSteps conditions crash).filter EngineStep.isOfSettings := by
  unfold HoldsServers
  rw [mem_takenSteps_iff conditions crash (by decide),
    mem_takenSteps_iff conditions crash (by decide)]

/-- Settings that have been read back, or never left. -/
theorem cleanup_kept (short : Bool) {servers : Servers} (notOwn : servers ≠ .own)
    {breadcrumb memory : Option Servers} (recorded : breadcrumb = none ∨ breadcrumb = some servers) :
    Tracked.cleanup short ⟨servers, breadcrumb, memory⟩ = ⟨servers, none, none⟩ := by
  unfold Tracked.cleanup
  rcases recorded with rfl | rfl
  · dsimp only
    rw [if_neg notOwn]
  · dsimp only
    rw [ite_self, if_neg notOwn]

/-- Gecit's address is taken away; what comes instead depends on the breadcrumb's reader. -/
theorem cleanup_held (short : Bool) {servers : Servers} (notOwn : servers ≠ .own)
    (memory : Option Servers) : Tracked.cleanup short ⟨.own, some servers, memory⟩ =
      ⟨if servers = .user ∧ short = false then .none else servers, none, none⟩ := by
  unfold Tracked.cleanup
  dsimp only
  by_cases misread : servers = .user ∧ short = false
  · rw [if_pos misread, if_pos misread, if_pos rfl]
  · rw [if_neg misread, if_neg misread, if_neg notOwn]

/-- What a run and a cleanup make of settings without a trace of gecit. -/
theorem session_eq {conditions : Conditions} (crash : Option Nat) (short : Bool)
    {servers : Servers} (notOwn : servers ≠ .own) (getWorks : conditions.getdnsservers = false)
    (restoreWorks : conditions.restore = false) :
    ((Tracked.run ⟨servers, none, none⟩ conditions crash).cleanup short) =
      ⟨if HoldsServers conditions crash ∧ servers = .user ∧ short = false then .none else servers,
        none, none⟩ := by
  have before : (takenSteps conditions crash).filter EngineStep.isOfSettings <+: _ :=
    ((takenSteps_initial conditions crash).filter _).trans (settingsSteps conditions)
  have save : ∀ tracked : Tracked, tracked.take conditions .saveCurrent =
      ⟨tracked.dns, some tracked.dns, some tracked.dns⟩ :=
    fun _ => if_neg (Bool.eq_false_iff.mp getWorks)
  have restore : ∀ tracked : Tracked, tracked.take conditions .restoreServers =
      { tracked with dns := tracked.memory.getD .none } :=
    fun _ => if_neg (Bool.eq_false_iff.mp restoreWorks)
  have remove : ∀ tracked : Tracked, tracked.take conditions .removeBreadcrumb =
      { tracked with breadcrumb := none } := fun _ => rfl
  have holds := holdsServers_iff conditions crash
  unfold Tracked.run
  rw [foldl_settings]
  generalize (takenSteps conditions crash).filter EngineStep.isOfSettings = taken at before holds ⊢
  rw [← List.mem_inits] at before
  cases setFails : conditions.setdnsservers with
  | true =>
      have set : ∀ tracked : Tracked, tracked.take conditions .setLoopback = tracked :=
        fun _ => if_pos setFails
      rw [if_neg fun held => absurd ((holds.mp held.1).2.1.symm.trans setFails) Bool.noConfusion]
      rw [setFails, if_pos rfl] at before
      simp only [List.inits, List.mem_cons, List.map_cons, List.map_nil, List.not_mem_nil,
        or_false] at before
      rcases before with rfl | rfl | rfl
      · exact cleanup_kept short notOwn (.inl rfl)
      · simp only [List.foldl_cons, List.foldl_nil, save]
        exact cleanup_kept short notOwn (.inr rfl)
      · simp only [List.foldl_cons, List.foldl_nil, save, set]
        exact cleanup_kept short notOwn (.inr rfl)
  | false =>
      have set : ∀ tracked : Tracked, tracked.take conditions .setLoopback =
          { tracked with dns := .own } := fun _ => if_neg (Bool.eq_false_iff.mp setFails)
      rw [setFails, if_neg Bool.false_ne_true] at before
      simp only [List.inits, List.mem_cons, List.map_cons, List.map_nil, List.not_mem_nil,
        or_false] at before
      rcases before with rfl | rfl | rfl | rfl | rfl
      · rw [if_neg fun held => absurd (holds.mp held.1).1 (by decide)]
        exact cleanup_kept short notOwn (.inl rfl)
      · rw [if_neg fun held => absurd (holds.mp held.1).1 (by decide)]
        simp only [List.foldl_cons, List.foldl_nil, save]
        exact cleanup_kept short notOwn (.inr rfl)
      · simp only [List.foldl_cons, List.foldl_nil, save, set]
        rw [cleanup_held short notOwn]
        have held : HoldsServers conditions crash := holds.mpr ⟨by decide, setFails, by decide⟩
        simp only [held, true_and]
      · rw [if_neg fun held => absurd (holds.mp held.1).2.2 (by decide)]
        simp only [List.foldl_cons, List.foldl_nil, save, set, restore]
        exact cleanup_kept short notOwn (.inr rfl)
      · rw [if_neg fun held => absurd (holds.mp held.1).2.2 (by decide)]
        simp only [List.foldl_cons, List.foldl_nil, save, set, restore, remove]
        exact cleanup_kept short notOwn (.inl rfl)

/-- A run, and the cleanup behind it. -/
structure Session where
  conditions : Conditions
  crash : Option Nat

namespace Session

/-- The servers can be read, and can be set back. -/
def Works (session : Session) : Prop :=
  session.conditions.getdnsservers = false ∧ session.conditions.restore = false

def Holds (session : Session) : Prop := HoldsServers session.conditions session.crash

instance (session : Session) : Decidable session.Holds :=
  inferInstanceAs (Decidable (HoldsServers session.conditions session.crash))

def exec (tool : Networksetup) (machine : Machine) (session : Session) : Machine :=
  (platformCleanup tool ((Event.run session.conditions session.crash).exec tool machine)).1

def track (short : Bool) (tracked : Tracked) (session : Session) : Tracked :=
  (tracked.run session.conditions session.crash).cleanup short

end Session

theorem track_sessions (short : Bool) {sessions : List Session}
    (work : ∀ session ∈ sessions, session.Works) {servers : Servers} (notOwn : servers ≠ .own) :
    sessions.foldl (Session.track short) ⟨servers, none, none⟩ =
      ⟨if servers = .user ∧ short = false ∧ ∃ session ∈ sessions, session.Holds then .none
        else servers, none, none⟩ := by
  induction sessions generalizing servers with
  | nil => exact congrArg (Tracked.mk · none none) (if_neg (by simp)).symm
  | cons session later inductionHypothesis =>
      obtain ⟨works, laterWork⟩ := List.forall_mem_cons.mp work
      have once : Session.track short ⟨servers, none, none⟩ session =
          ⟨if session.Holds ∧ servers = .user ∧ short = false then .none else servers,
            none, none⟩ :=
        session_eq session.crash short notOwn works.1 works.2
      rw [List.foldl_cons, once]
      by_cases lost : session.Holds ∧ servers = .user ∧ short = false
      · rw [if_pos lost, inductionHypothesis laterWork (by decide), if_neg (by simp),
          if_pos ⟨lost.2.1, lost.2.2, session, List.mem_cons_self, lost.1⟩]
      · rw [if_neg lost, inductionHypothesis laterWork notOwn]
        congr 2
        rw [List.exists_mem_cons_iff, eq_iff_iff]
        refine ⟨fun held => ⟨held.1, held.2.1, .inr held.2.2⟩, fun held => ?_⟩
        exact ⟨held.1, held.2.1, held.2.2.resolve_left fun now => lost ⟨now, held.1, held.2.1⟩⟩

theorem cleanup_ne_own (short : Bool) (tracked : Tracked) :
    (tracked.cleanup short).dns ≠ .own := by
  have noOwn : ∀ servers : Servers,
      (if servers = .own then Servers.none else servers) ≠ .own := by
    intro servers
    cases servers <;> decide
  exact noOwn _

theorem config_of_ne_own (user : List GoString) {servers : Servers} (notOwn : servers ≠ .own) :
    servers.config user = user ∨ servers.config user = [] := by
  cases servers with
  | user => exact .inl rfl
  | none => exact .inr rfl
  | own => exact absurd rfl notOwn

theorem Follows.sessions {user : List GoString} {tracked : Tracked} {machine : Machine}
    (valid : tool.Valid user) (notOwn : user ≠ [loopback])
    (follows : Follows tool user tracked machine) (sessions : List Session) :
    Follows tool user (sessions.foldl (Session.track (decide (user.length ≤ 1))) tracked)
      (sessions.foldl (Session.exec tool) machine) := by
  induction sessions generalizing tracked machine with
  | nil => exact follows
  | cons session later inductionHypothesis =>
      apply inductionHypothesis
      exact (follows.exec valid notOwn (.run session.conditions session.crash)).cleanup valid notOwn

section Settings

variable {machine : Machine}

theorem follows_whole (clean : machine.breadcrumb = none) :
    Follows tool (machine.dns wiFi) .whole machine :=
  ⟨rfl, clean⟩

end Settings

/-- Encrypted DNS, and nothing fails. -/
def smooth : Conditions := ⟨⟨false, false, false, false⟩, true, false⟩

/-- The user's servers, and no trace of gecit. -/
def withServers (servers : List GoString) : Machine := ⟨fun _ => servers, none⟩

/-- Two runs without a cleanup between them, the first of which crashes. -/
def crashedOnce : List Event := [.run smooth (some 5), .run smooth none]

/-- A session that is stopped, and one that crashes. -/
def twoSessions : List Session := [⟨smooth, none⟩, ⟨smooth, some 5⟩]

end Gecit.App.Darwin
