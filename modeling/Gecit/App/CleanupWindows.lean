import Gecit.Dns.SystemWindows

/-!
Contract: the Windows `cleanup` command and the runs that end in it.

The command deletes routes that a crashed run left, then sets what the breadcrumb says, as
`RestoreSystemDNS` does. Both put back one server at most, so a run of the engine restores an
interface exactly when the breadcrumb could hold its configuration.

Owns the command and the law of repeated crashes. Does not own the breadcrumb's format.
-/

namespace Gecit.App.Windows

open Gecit.Go
open Gecit.Net
open Gecit.Dns.Windows

def ethernet : GoString := lit "Ethernet"

def tunAddress : GoString := lit "10.0.85.1"

/-- The destinations of the `route delete` commands, the first two with a mask. -/
def staleRoutes : List (GoString × Option GoString) :=
  [(lit "0.0.0.0", some (lit "128.0.0.0")), (lit "128.0.0.0", some (lit "128.0.0.0")),
    (lit "1.1.1.1", none), (lit "8.8.8.8", none)]

structure Cleanup where
  machine : Machine
  deletedRoutes : List (GoString × Option GoString)
  cleaned : Bool

/-- `routes` is the output of `route print 0.0.0.0`, none when it fails. -/
def platformCleanup (routes : Option GoString) (machine : Machine) : Cleanup :=
  let stale := routes.any fun out => contains out tunAddress
  let deleted := if stale then staleRoutes else []
  match machine.breadcrumb with
  | none => ⟨machine, deleted, stale⟩
  | some data => ⟨setPrevious machine (readBreadcrumb data ethernet), deleted, true⟩

/-- How a sequence of crashed runs is ended. -/
inductive Ending where
  /-- By a run that stops through `RestoreSystemDNS`. -/
  | stopped (interfaces : Option GoString)
  /-- By the cleanup command. -/
  | cleanup (routes : Option GoString)

variable (tool : Netsh)

def Ending.exec : Ending → Machine → Machine
  | .stopped interfaces, machine => stoppedRun tool machine interfaces
  | .cleanup routes, machine => (platformCleanup routes machine).machine

/-- The runs take over the interface `iface`, which stays the first connected one. -/
def Ending.Detects (iface : GoString) : Ending → Prop
  | .stopped interfaces => detectWindowsInterface interfaces = .ok iface
  | .cleanup _ => True

def Ending.isCleanup : Ending → Bool
  | .stopped _ => false
  | .cleanup _ => true

/-- After crashed runs, one for each output of `netsh interface show interface` in `crashes`, and
the ending, the interface has the configuration it had before. -/
def Restores (iface : GoString) (machine : Machine) (crashes : List (Option GoString))
    (ending : Ending) : Prop :=
  (ending.exec tool (crashes.foldl (crashedRun tool) machine)).dns iface = machine.dns iface

variable {tool}

/-- The ending puts the configuration in force that the first run recorded. -/
theorem exec_dns {iface : GoString} (prints : tool.Prints iface) {machine : Machine}
    {crashes : List (Option GoString)} {ending : Ending} (clean : machine.breadcrumb = none)
    (valid : (machine.dns iface).Valid)
    (detected : ∀ table ∈ crashes, detectWindowsInterface table = .ok iface)
    (detects : ending.Detects iface) (takenOver : ¬ (crashes = [] ∧ ending.isCleanup = true)) :
    (ending.exec tool (crashes.foldl (crashedRun tool) machine)).dns iface =
      configOf (tool.recorded iface (machine.dns iface)) := by
  have crashed := crashedRuns_leftBehind prints valid (.inl ⟨clean, rfl⟩) detected
  cases ending with
  | stopped interfaces =>
      apply stoppedRun_dns prints detects valid
      rcases crashed with rfl | left
      · exact .inl ⟨clean, rfl⟩
      · exact .inr left
  | cleanup routes =>
      rcases crashed with none | left
      · exact absurd ⟨none, rfl⟩ takenOver
      · obtain ⟨table, rest, rfl⟩ := List.exists_cons_of_ne_nil fun none => takenOver ⟨none, rfl⟩
        obtain ⟨trimmed, named⟩ := detectWindowsInterface_trimmed (detected table (by simp))
        rw [LeftBehind] at left
        simp only [Ending.exec, platformCleanup, left]
        exact setPrevious_leftBehind (recorded_isRecord _) trimmed named _ _

/-- The runs restore the interface exactly when it was on DHCP without servers of its own to
print, or had a single static server, or when nothing was ever taken over. -/
theorem windows_restores_iff {iface : GoString} (prints : tool.Prints iface) {machine : Machine}
    {crashes : List (Option GoString)} {ending : Ending} (clean : machine.breadcrumb = none)
    (valid : (machine.dns iface).Valid)
    (detected : ∀ table ∈ crashes, detectWindowsInterface table = .ok iface)
    (detects : ending.Detects iface) :
    Restores tool iface machine crashes ending ↔
      (crashes = [] ∧ ending.isCleanup = true) ∨ tool.Recordable iface (machine.dns iface) := by
  rw [Restores]
  by_cases takenOver : crashes = [] ∧ ending.isCleanup = true
  · obtain ⟨rfl, isCleanup⟩ := takenOver
    cases ending with
    | stopped interfaces => contradiction
    | cleanup routes =>
        apply iff_of_true
        · simp only [Ending.exec, platformCleanup, List.foldl_nil, clean]
        · exact .inl ⟨rfl, rfl⟩
  · rw [exec_dns prints clean valid detected detects takenOver,
      configOf_recorded_iff valid]
    exact ⟨.inr, fun either => either.resolve_left takenOver⟩

/-- Output of `netsh interface show interface` with one connected interface. -/
def oneInterface : GoString :=
  lit "\nAdmin State    State          Type             Interface Name\n" ++
    lit "-------------------------------------------------------------------------\n" ++
    lit "Enabled        Connected      Dedicated        Ethernet\n"

theorem detects_ethernet : detectWindowsInterface (some oneInterface) = .ok ethernet := by
  decide +kernel

theorem documented_prints_ethernet : (documented [] (by simp)).Prints ethernet := by
  apply documented_prints
  intro config
  cases config with
  | dhcp => decide
  | static servers =>
      have sameLabel : label (.static servers) = label (.static []) := rfl
      rw [sameLabel]
      decide +kernel

/-- A machine whose interface `Ethernet` uses `config`. -/
def machineWith (config : Config) : Machine := ⟨fun _ => config, none⟩

/-- One static server, one crash, then the cleanup command. -/
theorem windows_restores_iff_one_server :
    Restores (documented [] (by simp)) ethernet (machineWith (.static [lit "8.8.8.8"]))
        [some oneInterface] (.cleanup none) ↔
      ([some oneInterface] = [] ∧ (Ending.cleanup none).isCleanup = true) ∨
        (documented [] (by simp)).Recordable ethernet (.static [lit "8.8.8.8"]) :=
  windows_restores_iff documented_prints_ethernet rfl (by simp [machineWith, Config.Valid]; decide)
    (by simpa using detects_ethernet) trivial

/-- Two static servers: a single run without a crash loses the second. -/
theorem second_server_lost :
    ¬ ∀ (tool : Netsh) (iface : GoString) (machine : Machine) (crashes : List (Option GoString))
        (ending : Ending), tool.Prints iface → machine.breadcrumb = none →
      (machine.dns iface).Valid →
      (∀ table ∈ crashes, detectWindowsInterface table = .ok iface) → ending.Detects iface →
        Restores tool iface machine crashes ending := by
  intro restores
  have valid : (Config.static [lit "8.8.8.8", lit "8.8.4.4"]).Valid := by
    simp [Config.Valid]
    decide
  have lost := restores (documented [] (by simp)) ethernet
    (machineWith (.static [lit "8.8.8.8", lit "8.8.4.4"])) [] (.stopped (some oneInterface))
    documented_prints_ethernet rfl valid (by simp) detects_ethernet
  have recorded := @exec_dns _ _ documented_prints_ethernet
    (machineWith (.static [lit "8.8.8.8", lit "8.8.4.4"])) [] (.stopped (some oneInterface)) rfl
    valid (by simp) detects_ethernet fun cleanedUp => absurd cleanedUp.2 Bool.false_ne_true
  have recordable := (configOf_recorded_iff valid).mp (recorded.symm.trans lost)
  exact absurd recordable (by simp [Netsh.Recordable])

end Gecit.App.Windows
