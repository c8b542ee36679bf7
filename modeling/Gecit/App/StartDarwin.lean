import Gecit.Foundation.Startup
import Gecit.Dns.SystemDarwin

/-!
Contract: `tunEngine.Start` on macOS and what it leaves behind when it fails.

The DNS server, the `networksetup` calls of `SetSystemDNS` and the manager may each fail. A call
that fails changes no setting; the call of `RestoreSystemDNS` is not among them.

Owns the exits of `Start` and exactly which failures leave the system as it was. Does not own the
pause of mDNSResponder, nor what the manager itself leaves behind.
-/

namespace Gecit.App.Darwin

open Gecit.Foundation
open Gecit.Go
open Gecit.Dns Networksetup
open Gecit.Dns.Darwin

/-- What fails on the way through `Start`. -/
structure Failures where
  dnsStart : Bool
  getdnsservers : Bool
  setdnsservers : Bool
  mgrStart : Bool
deriving DecidableEq, Repr

structure System where
  state : State
  /-- The DNS server listens. -/
  listening : Bool

/-- A new process on a machine. -/
def System.fresh (machine : Machine) : System := ⟨⟨machine, .fresh⟩, false⟩

variable (tool : Networksetup)

/-- `SetSystemDNS` with calls that may fail. -/
def trySetSystemDNS (fails : Failures) (networkService : List GoString) (state : State) :
    State × Option DNSError :=
  let svc := serviceName wiFi networkService
  let machine := restoreBreadcrumb tool state.machine svc
  let saved :=
    if fails.getdnsservers then ⟨machine, { state.process with savedService := svc }⟩
    else saveCurrent tool machine svc
  if fails.setdnsservers then (saved, some .setDNS)
  else ({ saved with machine := tool.setdnsservers saved.machine svc [loopback] }, none)

/-- The part of `Start` behind `e.dohEnabled`. -/
def startDNS (fails : Failures) (system : System) : System × Bool :=
  if fails.dnsStart then (system, false)
  else
    match trySetSystemDNS tool fails [] system.state with
    -- `e.dns.Stop()`
    | (state, some _) => (⟨state, false⟩, false)
    | (state, none) => (⟨state, true⟩, true)

/-- The system when `Start` returns, and whether it succeeds. -/
def start (dohEnabled : Bool) (fails : Failures) (system : System) : System × Bool :=
  ifErr (if dohEnabled then startDNS tool fails system else (system, true)) id fun system =>
    if fails.mgrStart then
      if dohEnabled then (⟨restoreSystemDNS tool [] system.state, false⟩, false)
      else (system, false)
    else (system, true)

/-- What a failed start must leave of the machine it found. -/
structure AsBefore (machine : Machine) (system : System) : Prop where
  dns : system.state.machine.dns wiFi = machine.dns wiFi
  breadcrumb : system.state.machine.breadcrumb = none
  stopped : system.listening = false

def FailsCleanly (dohEnabled : Bool) (fails : Failures) (machine : Machine) : Prop :=
  (start tool dohEnabled fails (.fresh machine)).2 = false →
    AsBefore machine (start tool dohEnabled fails (.fresh machine)).1

/-- The servers were saved, but not replaced. -/
def Failures.LeavesBreadcrumb (fails : Failures) : Prop :=
  fails.dnsStart = false ∧ fails.getdnsservers = false ∧ fails.setdnsservers = true

/-- The servers were replaced without having been saved, and the manager failed. -/
def Failures.LosesServers (fails : Failures) : Prop :=
  fails.dnsStart = false ∧ fails.getdnsservers = true ∧ fails.setdnsservers = false ∧
    fails.mgrStart = true

variable {tool} {fails : Failures} {machine : Machine}

/-! ### The exits -/

/-- When no call fails, this is `SetSystemDNS` as the crash law has it. -/
theorem trySetSystemDNS_eq (getWorks : fails.getdnsservers = false)
    (setWorks : fails.setdnsservers = false) (networkService : List GoString) (state : State) :
    trySetSystemDNS tool fails networkService state =
      setSystemDNS tool networkService state := by
  have accepted : tool.accepts [loopback] = true := by
    simp [accepts, tool.loopback_address]
  simp [trySetSystemDNS, setSystemDNS, getWorks, setWorks, accepted]

theorem start_disabled (system : System) :
    start tool false fails system = (system, !fails.mgrStart) := by
  cases failed : fails.mgrStart <;> simp [start, ifErr, failed]

theorem start_dnsFails (failed : fails.dnsStart = true) (system : System) :
    start tool true fails system = (system, false) := by
  simp [start, startDNS, ifErr, failed]

/-- The address could not be set: the settings are those before, and so is the breadcrumb unless
the servers were saved. -/
theorem start_setFails (started : fails.dnsStart = false) (failed : fails.setdnsservers = true)
    (clean : machine.breadcrumb = none) :
    start tool true fails (.fresh machine) =
      (⟨if fails.getdnsservers then ⟨machine, ⟨[], wiFi⟩⟩ else saveCurrent tool machine wiFi,
        false⟩, false) := by
  simp only [start, startDNS, trySetSystemDNS, ifErr, started, failed, System.fresh]
  cases fails.getdnsservers <;> simp [restoreBreadcrumb, clean, serviceName, Process.fresh]

theorem start_set (started : fails.dnsStart = false) (set : fails.setdnsservers = false) :
    start tool true fails (.fresh machine) =
      if fails.mgrStart then
        (⟨restoreSystemDNS tool [] (trySetSystemDNS tool fails [] ⟨machine, .fresh⟩).1, false⟩,
          false)
      else (⟨(trySetSystemDNS tool fails [] ⟨machine, .fresh⟩).1, true⟩, true) := by
  cases failed : fails.mgrStart <;>
    simp [start, startDNS, trySetSystemDNS, ifErr, started, set, failed, System.fresh]

/-- `RestoreSystemDNS` after servers that were saved. -/
theorem restore_saved (clean : machine.breadcrumb = none)
    (valid : tool.Valid (machine.dns wiFi)) (getWorks : fails.getdnsservers = false)
    (setWorks : fails.setdnsservers = false) :
    (restoreSystemDNS tool []
      (trySetSystemDNS tool fails [] ⟨machine, .fresh⟩).1).machine.dns wiFi = machine.dns wiFi := by
  rw [trySetSystemDNS_eq getWorks setWorks]
  have setTo := setTo_setSystemDNS tool [] ⟨machine, .fresh⟩
  simp only [restoreBreadcrumb, clean] at setTo
  exact restoreSystemDNS_setTo valid (by decide) setTo

/-- `RestoreSystemDNS` with nothing saved asks for DHCP. -/
theorem restore_unsaved (getFails : fails.getdnsservers = true)
    (setWorks : fails.setdnsservers = false) :
    (restoreSystemDNS tool []
      (trySetSystemDNS tool fails [] ⟨machine, .fresh⟩).1).machine.dns wiFi = [] := by
  have args : restoreArgs [] = [empty] := rfl
  simp [restoreSystemDNS, trySetSystemDNS, getFails, setWorks, Process.fresh, serviceName, args,
    resulting]

/-! ### Every failure -/

/-- A start that fails leaves the settings, the breadcrumb and the listener as they were, unless
encrypted DNS is enabled and either the servers were saved but could not be replaced, or they were
replaced unsaved and the manager failed. -/
theorem failsCleanly_iff (dohEnabled : Bool) (fails : Failures) (machine : Machine)
    (clean : machine.breadcrumb = none) (valid : tool.Valid (machine.dns wiFi)) :
    FailsCleanly tool dohEnabled fails machine ↔ ¬ (dohEnabled = true ∧
      (fails.LeavesBreadcrumb ∨ fails.LosesServers ∧ machine.dns wiFi ≠ [])) := by
  unfold FailsCleanly Failures.LeavesBreadcrumb Failures.LosesServers
  cases dohEnabled with
  | false =>
      rw [start_disabled]
      exact iff_of_true (fun _ => ⟨rfl, clean, rfl⟩) nofun
  | true =>
      cases started : fails.dnsStart with
      | true =>
          rw [start_dnsFails started]
          refine iff_of_true (fun _ => ⟨rfl, clean, rfl⟩) ?_
          simp
      | false =>
          cases set : fails.setdnsservers with
          | true =>
              rw [start_setFails started set clean]
              cases getFails : fails.getdnsservers with
              | true =>
                  refine iff_of_true (fun _ => ⟨rfl, clean, rfl⟩) ?_
                  simp
              | false =>
                  refine iff_of_false (fun cleanly => ?_) (by simp)
                  have gone := (cleanly rfl).breadcrumb
                  contradiction
          | false =>
              rw [start_set started set]
              cases failed : fails.mgrStart with
              | false =>
                  refine iff_of_true (fun error => ?_) ?_
                  · contradiction
                  · simp
              | true =>
                  cases getFails : fails.getdnsservers with
                  | false =>
                      have restored := restore_saved clean valid getFails set
                      exact iff_of_true (fun _ => ⟨restored, rfl, rfl⟩) (by simp)
                  | true =>
                      have emptied := @restore_unsaved tool fails machine getFails set
                      constructor
                      · intro cleanly ⟨_, leaves⟩
                        have same := (cleanly rfl).dns
                        rcases leaves with ⟨_, getWorks, _⟩ | ⟨_, servers⟩
                        · contradiction
                        · exact servers (same.symm.trans emptied)
                      · intro kept _
                        have dhcp : machine.dns wiFi = [] := by
                          by_contra servers
                          exact kept ⟨rfl, .inr ⟨⟨rfl, rfl, rfl, rfl⟩, servers⟩⟩
                        exact ⟨emptied.trans dhcp.symm, rfl, rfl⟩

/-- The user has one server, and the manager fails. -/
theorem failsCleanly_iff_mgrStart :
    let machine : Machine := ⟨fun _ => [lit "8.8.8.8"], none⟩
    let fails : Failures := ⟨false, false, false, true⟩
    FailsCleanly documented true fails machine ↔ ¬ (true = true ∧
      (fails.LeavesBreadcrumb ∨ fails.LosesServers ∧ machine.dns wiFi ≠ [])) :=
  failsCleanly_iff true _ _ rfl (by unfold Valid; decide)

/-- The same user; the address cannot be set, or the servers cannot be read and the manager
fails. -/
theorem failed_start_leaves_traces :
    let machine : Machine := ⟨fun _ => [lit "8.8.8.8"], none⟩
    ¬ FailsCleanly documented true ⟨false, false, true, false⟩ machine ∧
      ¬ FailsCleanly documented true ⟨false, true, false, true⟩ machine := by
  constructor
  · intro cleanly
    have gone := (cleanly rfl).breadcrumb
    contradiction
  · intro cleanly
    have same := (cleanly rfl).dns
    revert same
    decide

end Gecit.App.Darwin
