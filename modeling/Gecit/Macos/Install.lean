import Gecit.Foundation.Json
import Gecit.Foundation.Transition
import Gecit.Macos.RuntimeStore
import Gecit.Shell.Script

/-!
Contract: the installation of the helper, by a script that ends at the first command that fails.

The script runs as root under `set -e`. It copies three files, writes the version by which the app
recognises an installation, prepares the shared directory and only then exchanges the daemon. The
app offers an installation while it shows the helper as missing.

Owns the script, `isInstalled`, `installHelper`, and what an attempt that ends early is taken for
afterwards. Does not own the daemon, nor what the files contain.
-/

namespace Gecit.Macos

open Gecit.Foundation
open Gecit.Go
open Gecit.Net
open Gecit.Shell

/-! ### What is installed -/

def helperVersion : Bytes := lit "5"

def onboardingVersion : Text := lit "1"

/-- The files that the app renders or ships. -/
structure Build where
  daemonScript : Bytes
  binary : Bytes
  plist : Bytes
deriving DecidableEq

inductive SharedPath where
  | directory
  | commandFile
  | logFile
  | statusFile
  | pidFile
deriving DecidableEq

structure Access where
  owner : Bytes
  mode : Nat
deriving DecidableEq

structure Machine where
  helperScript : Option Bytes
  installedBinary : Option Bytes
  helperPlist : Option Bytes
  helperVersion : Option Bytes
  shared : SharedPath → Option Access
  /-- The script that launchd runs as the daemon. -/
  job : Option Bytes

namespace Machine

/-- The text that `isInstalled` compares, if the file is there and is UTF-8. -/
def version (machine : Machine) : Option Bytes :=
  (machine.helperVersion.filter Json.isUtf8).map trimSpace

/-- The version file names this app's version. -/
def Marked (machine : Machine) : Prop := machine.version = some Macos.helperVersion

instance (machine : Machine) : Decidable machine.Marked :=
  inferInstanceAs (Decidable (machine.version = some Macos.helperVersion))

def isInstalled (machine : Machine) : Bool :=
  machine.helperScript.isSome && machine.helperPlist.isSome && machine.installedBinary.isSome &&
    decide machine.Marked

end Machine

/-! ### The script -/

inductive InstallCommand where
  | mkdirSupport
  | installScript
  | installBinary
  | installPlist
  | writeVersion
  | mkdirShared
  | touchShared
  | chmodDirectory
  | chmodFiles
  | chownShared
  | chmodPid
  | chownPid
  | bootstrap
  | kickstart
deriving DecidableEq

/-- What a command that fails may leave of the files it writes. -/
def InstallCommand.damage (command : InstallCommand) (left machine : Machine) : Machine :=
  match command with
  | .mkdirSupport | .bootstrap | .kickstart => machine
  | .installScript => { machine with helperScript := left.helperScript }
  | .installBinary => { machine with installedBinary := left.installedBinary }
  | .installPlist => { machine with helperPlist := left.helperPlist }
  | .writeVersion => { machine with helperVersion := left.helperVersion }
  | .mkdirShared | .touchShared | .chmodDirectory | .chmodFiles | .chownShared | .chmodPid |
    .chownPid => { machine with shared := left.shared }

/-- What an attempt meets. -/
structure Attempt where
  /-- What `install` throws before the script runs, the refusal of the administrator included. -/
  refused : Option Text
  /-- `stat -f %Su /dev/console` -/
  ownerUser : Bytes
  /-- `launchctl bootout` unloads the job. -/
  bootsOut : Bool
  /-- The command that fails, and what it leaves. -/
  failing : Option (InstallCommand × Machine)
  /-- What the script prints. -/
  output : Text

namespace InstallScript

variable (build : Build) (attempt : Attempt)

/-- A command under `set -e`. -/
def command (name : InstallCommand) (work : Machine → Machine) : Script Machine Unit :=
  match attempt.failing with
  | none => modify work
  | some (failing, left) =>
      if failing = name then do
        modify (name.damage left)
        failure
      else modify work

def update (machine : Machine) (paths : List SharedPath)
    (change : Option Access → Option Access) : Machine :=
  { machine with
    shared := fun path =>
      if path ∈ paths then change (machine.shared path) else machine.shared path }

/-- `mkdir -p` and `touch` leave what is there. -/
def create (mode : Nat) (access : Option Access) : Option Access :=
  some (access.getD ⟨lit "root", mode⟩)

def chmod (mode : Nat) (access : Option Access) : Option Access :=
  access.map fun access => { access with mode := mode }

def chown (access : Option Access) : Option Access :=
  access.map fun access => { access with owner := attempt.ownerUser }

def files : List SharedPath := [.commandFile, .logFile, .statusFile]

def copyFiles : Script Machine Unit := do
  command attempt .mkdirSupport id
  command attempt .installScript fun machine =>
    { machine with helperScript := some build.daemonScript }
  command attempt .installBinary fun machine =>
    { machine with installedBinary := some build.binary }
  command attempt .installPlist fun machine => { machine with helperPlist := some build.plist }

/-- `echo` ends the line. -/
def mark : Script Machine Unit :=
  command attempt .writeVersion fun machine =>
    { machine with helperVersion := some (helperVersion ++ [newline]) }

def preparePid : Script Machine Unit := do
  let machine ← get
  if (machine.shared .pidFile).isSome then do
    command attempt .chmodPid fun machine => update machine [.pidFile] (chmod 0o600)
    command attempt .chownPid fun machine => update machine [.pidFile] (chown attempt)
  else pure ()

def prepareShared : Script Machine Unit := do
  command attempt .mkdirShared fun machine => update machine [.directory] (create 0o755)
  command attempt .touchShared fun machine => update machine files (create 0o644)
  command attempt .chmodDirectory fun machine => update machine [.directory] (chmod 0o700)
  command attempt .chmodFiles fun machine => update machine files (chmod 0o600)
  command attempt .chownShared fun machine =>
    update machine (.directory :: files) (chown attempt)
  preparePid attempt

/-- `bootout` may fail; `bootstrap` runs the script that is installed. -/
def exchangeDaemon : Script Machine Unit := do
  modify fun machine => { machine with job := if attempt.bootsOut then none else machine.job }
  command attempt .bootstrap fun machine => { machine with job := machine.helperScript }
  command attempt .kickstart id

def script : Script Machine Unit :=
  if attempt.ownerUser = [] ∨ attempt.ownerUser = lit "root" then failure
  else do
    copyFiles build attempt
    mark attempt
    prepareShared attempt
    exchangeDaemon attempt

/-- `GecitHelperInstaller.install`: the machine it leaves, and what it throws. -/
def install (machine : Machine) : Machine × Option Text :=
  match attempt.refused with
  | some error => (machine, some error)
  | none =>
      match outcome (script build attempt) machine with
      | (some _, after) => (after, none)
      | (none, after) =>
          (after, some (if attempt.output = [] then lit "Yönetici onayı başarısız oldu"
            else attempt.output))

end InstallScript

/-! ### The app -/

structure App where
  store : RuntimeStore
  onboardingCompleted : Bool
  /-- In `UserDefaults`. -/
  storedOnboardingVersion : Option Text
deriving DecidableEq

structure Mac where
  app : App
  machine : Machine

inductive InstallAction where
  /-- `installHelper`, with the status that the refresh at its end reads. -/
  | install (attempt : Attempt) (nextStatus : GecitStatus)
  | refresh (nextStatus : GecitStatus)
  /-- A new process of the app, whose `init` refreshes. -/
  | launch (nextStatus : GecitStatus)

namespace Mac

def shouldShowOnboardingOnLaunch (mac : Mac) : Bool :=
  !mac.app.store.helperInstalled || mac.app.storedOnboardingVersion != some onboardingVersion

def refresh (mac : Mac) (nextStatus : GecitStatus) : Mac :=
  { mac with
    app.store := mac.app.store.refreshStatus mac.machine.isInstalled nextStatus }

/-- `RuntimeStore.init` -/
def launch (mac : Mac) (nextStatus : GecitStatus) : Mac :=
  let helperInstalled := mac.machine.isInstalled
  refresh
    { mac with
      app.store := .created helperInstalled
      app.onboardingCompleted :=
        helperInstalled && mac.app.storedOnboardingVersion == some onboardingVersion } nextStatus

def unfinished : Text :=
  lit "Kurulum tamamlanmadı. Yönetici onayı penceresi kapanmış olabilir."

def installHelper (build : Build) (mac : Mac) (attempt : Attempt) (nextStatus : GecitStatus) :
    Mac :=
  match InstallScript.install build attempt mac.machine with
  | (machine, some error) => { mac with machine, app.store.installError := some error }
  | (machine, none) =>
      if machine.isInstalled then
        refresh
          { machine
            app :=
              { store := { mac.app.store with helperInstalled := true, installError := none }
                onboardingCompleted := true
                storedOnboardingVersion := some onboardingVersion } } nextStatus
      else
        { machine
          app :=
            { mac.app with
              store :=
                { mac.app.store with helperInstalled := false, installError := some unfinished }
              onboardingCompleted := false } }

/-- The buttons call `installHelper` only while the helper is shown as missing. -/
def step (build : Build) (mac : Mac) : InstallAction → Option Mac
  | .install attempt nextStatus =>
      if mac.app.store.helperInstalled = false then
        some (installHelper build mac attempt nextStatus)
      else none
  | .refresh nextStatus => some (mac.refresh nextStatus)
  | .launch nextStatus => some (mac.launch nextStatus)

end Mac

/-! ### What the version stands for -/

/-- Of a file that the app installs there is nothing else. -/
def OnlyNew (new : Bytes) (file : Option Bytes) : Prop := ∀ found ∈ file, found = new

/-- If the version is there, each file is this app's or missing, and the daemon runs its script. -/
structure TrueVersion (build : Build) (machine : Machine) : Prop where
  helperScript : machine.Marked → OnlyNew build.daemonScript machine.helperScript
  installedBinary : machine.Marked → OnlyNew build.binary machine.installedBinary
  helperPlist : machine.Marked → OnlyNew build.plist machine.helperPlist
  job : machine.Marked → machine.job = some build.daemonScript

/-- Everything that the app ships is in place, and runs. -/
structure Complete (build : Build) (machine : Machine) : Prop where
  helperScript : machine.helperScript = some build.daemonScript
  installedBinary : machine.installedBinary = some build.binary
  helperPlist : machine.helperPlist = some build.plist
  job : machine.job = some build.daemonScript

/-- What an attempt may leave where it ends. -/
def EndsWell (build : Build) (attempt : Attempt) (machine : Machine) : Prop :=
  attempt.refused = none → ¬ (attempt.ownerUser = [] ∨ attempt.ownerUser = lit "root") →
    match attempt.failing with
    | none | some (.mkdirSupport, _) | some (.kickstart, _) => True
    | some (.installScript, left) => machine.Marked → OnlyNew build.daemonScript left.helperScript
    | some (.installBinary, left) => machine.Marked → OnlyNew build.binary left.installedBinary
    | some (.installPlist, left) => machine.Marked → OnlyNew build.plist left.helperPlist
    | some (.writeVersion, left) => left.Marked → machine.job = some build.daemonScript
    | some (.mkdirShared, _) | some (.touchShared, _) | some (.chmodDirectory, _)
    | some (.chmodFiles, _) | some (.chownShared, _) => machine.job = some build.daemonScript
    | some (.chmodPid, _) | some (.chownPid, _) =>
        (machine.shared .pidFile).isSome = true → machine.job = some build.daemonScript
    | some (.bootstrap, _) =>
        attempt.bootsOut = false ∧ machine.job = some build.daemonScript

variable {build : Build} {attempt : Attempt} {machine : Machine}

theorem marked_written : Machine.Marked { machine with
    helperVersion := some (helperVersion ++ [newline]) } := by
  have read : ((some (helperVersion ++ [newline])).filter Json.isUtf8).map trimSpace =
      some helperVersion := by decide
  exact read

theorem TrueVersion.complete (honest : TrueVersion build machine)
    (installed : machine.isInstalled = true) : Complete build machine := by
  simp only [Machine.isInstalled, Bool.and_eq_true, decide_eq_true_eq] at installed
  obtain ⟨⟨⟨script, plist⟩, binary⟩, marked⟩ := installed
  obtain ⟨_, isScript⟩ := Option.isSome_iff_exists.mp script
  obtain ⟨_, isPlist⟩ := Option.isSome_iff_exists.mp plist
  obtain ⟨_, isBinary⟩ := Option.isSome_iff_exists.mp binary
  refine ⟨?_, ?_, ?_, honest.job marked⟩
  · rw [isScript, honest.helperScript marked _ isScript]
  · rw [isBinary, honest.installedBinary marked _ isBinary]
  · rw [isPlist, honest.helperPlist marked _ isPlist]

/-- An unmarked machine promises nothing. -/
theorem TrueVersion.of_unmarked (unmarked : ¬ machine.Marked) : TrueVersion build machine :=
  ⟨fun marked => absurd marked unmarked, fun marked => absurd marked unmarked,
    fun marked => absurd marked unmarked, fun marked => absurd marked unmarked⟩

theorem Complete.trueVersion (complete : Complete build machine) : TrueVersion build machine := by
  have only : ∀ {new : Bytes} {file : Option Bytes}, file = some new → OnlyNew new file := by
    intro new file isFile found member
    rw [isFile] at member
    exact (Option.some.inj member).symm
  exact ⟨fun _ => only complete.helperScript, fun _ => only complete.installedBinary,
    fun _ => only complete.helperPlist, fun _ => complete.job⟩

def Attempt.failsAt (attempt : Attempt) (name : InstallCommand) : Bool :=
  attempt.failing.any fun failing => failing.1 == name

theorem Attempt.failsAt_none {attempt : Attempt} (none : attempt.failing = none)
    (name : InstallCommand) : attempt.failsAt name = false := by
  rw [Attempt.failsAt, none]
  rfl

theorem Attempt.failsAt_some {attempt : Attempt} {command : InstallCommand} {left : Machine}
    (failed : attempt.failing = some (command, left)) (name : InstallCommand) :
    attempt.failsAt name = (command == name) := by
  rw [Attempt.failsAt, failed]
  rfl

/-- The script ends in the shared directory. -/
def Attempt.endsShared (attempt : Attempt) (pidThere : Bool) : Bool :=
  attempt.failsAt .mkdirShared || (attempt.failsAt .touchShared ||
    (attempt.failsAt .chmodDirectory || (attempt.failsAt .chmodFiles ||
      (attempt.failsAt .chownShared ||
        pidThere && (attempt.failsAt .chmodPid || attempt.failsAt .chownPid)))))

namespace InstallScript

theorem outcome_modify (work : Machine → Machine) :
    outcome (modify work : Script Machine Unit) machine = (some (), work machine) := rfl

/-- The script with its first failing command, if that is one of these. -/
theorem outcome_command (name : InstallCommand) (work : Machine → Machine) :
    outcome (command attempt name work) machine =
      match attempt.failing with
      | none => (some (), work machine)
      | some (failing, left) =>
          if failing = name then (none, name.damage left machine) else (some (), work machine) := by
  unfold command
  cases attempt.failing with
  | none => rfl
  | some failing =>
      obtain ⟨failing, left⟩ := failing
      dsimp only
      split
      · rw [outcome_bind, outcome_modify]
        rfl
      · rfl

/-- All three files are this app's. -/
def copied (build : Build) (machine : Machine) : Machine :=
  { machine with
    helperScript := some build.daemonScript, installedBinary := some build.binary
    helperPlist := some build.plist }

theorem outcome_copyFiles : outcome (copyFiles build attempt) machine =
    match attempt.failing with
    | some (.mkdirSupport, _) => (none, machine)
    | some (.installScript, left) => (none, { machine with helperScript := left.helperScript })
    | some (.installBinary, left) =>
        (none, { machine with
          helperScript := some build.daemonScript, installedBinary := left.installedBinary })
    | some (.installPlist, left) =>
        (none, { copied build machine with helperPlist := left.helperPlist })
    | _ => (some (), copied build machine) := by
  simp only [copyFiles, outcome_bind, outcome_command]
  cases attempt.failing with
  | none => rfl
  | some failing =>
      obtain ⟨command, left⟩ := failing
      cases command <;> rfl

/-- A part of the script that changes nothing but the shared directory, and ends there or not; a
pid file is neither made nor removed. -/
def TouchesShared (ends : Bool) (part : Script Machine Unit) (machine : Machine) : Prop :=
  ∃ shared,
    outcome part machine = (if ends then none else some (), { machine with shared := shared }) ∧
      (ends = false → (shared .pidFile).isSome = (machine.shared .pidFile).isSome)

theorem TouchesShared.bind {ends endsLater : Bool} {part : Script Machine Unit}
    {later : Unit → Script Machine Unit} (first : TouchesShared ends part machine)
    (second : ∀ shared, (shared .pidFile).isSome = (machine.shared .pidFile).isSome →
      TouchesShared endsLater (later ()) { machine with shared := shared }) :
    TouchesShared (ends || endsLater) (part >>= later) machine := by
  obtain ⟨shared, reached, samePid⟩ := first
  unfold TouchesShared
  rw [outcome_bind, reached]
  cases ends with
  | true => exact ⟨shared, rfl, Bool.noConfusion⟩
  | false =>
      obtain ⟨sharedLater, reachedLater, sameLater⟩ := second shared (samePid rfl)
      refine ⟨sharedLater, reachedLater, ?_⟩
      intro goesOn
      rw [sameLater goesOn]
      exact samePid rfl

theorem touchesShared_command {name : InstallCommand} (isShared : ∀ left machine : Machine,
      name.damage left machine = { machine with shared := left.shared })
    {paths : List SharedPath} {change : Option Access → Option Access}
    (keepsPid : ∀ access, .pidFile ∈ paths → (change access).isSome = access.isSome) :
    TouchesShared (attempt.failsAt name) (command attempt name fun machine =>
      update machine paths change) machine := by
  have updated : ((update machine paths change).shared .pidFile).isSome =
      (machine.shared .pidFile).isSome := by
    unfold update
    dsimp only
    split
    next there => exact keepsPid _ there
    next => rfl
  unfold TouchesShared
  rw [outcome_command]
  cases failed : attempt.failing with
  | none =>
      rw [Attempt.failsAt_none failed]
      exact ⟨_, rfl, fun _ => updated⟩
  | some failing =>
      obtain ⟨failing, left⟩ := failing
      have failsIf := Attempt.failsAt_some failed name
      dsimp only
      by_cases here : failing = name
      · rw [if_pos here, isShared, failsIf.trans (beq_iff_eq.mpr here)]
        exact ⟨_, rfl, Bool.noConfusion⟩
      · rw [if_neg here, failsIf.trans (beq_eq_false_iff_ne.mpr here)]
        exact ⟨_, rfl, fun _ => updated⟩

theorem touchesShared_preparePid : TouchesShared ((machine.shared .pidFile).isSome &&
    (attempt.failsAt .chmodPid || attempt.failsAt .chownPid)) (preparePid attempt) machine := by
  have changes : ∀ name (change : Access → Access), (∀ left machine : Machine,
      name.damage left machine = { machine with shared := left.shared }) → ∀ machine,
        TouchesShared (attempt.failsAt name) (command attempt name fun machine =>
          update machine [.pidFile] (Option.map change)) machine :=
    fun name change isShared machine => touchesShared_command isShared fun _ _ => Option.isSome_map
  have decides : ∀ ends, TouchesShared ends (if (machine.shared .pidFile).isSome then do
      command attempt .chmodPid fun machine => update machine [.pidFile] (chmod 0o600)
      command attempt .chownPid fun machine => update machine [.pidFile] (chown attempt)
    else pure ()) machine → TouchesShared ends (preparePid attempt) machine :=
    fun _ touches => touches
  apply decides
  by_cases there : (machine.shared .pidFile).isSome = true
  · rw [if_pos there, Bool.and_eq_right_iff_imp.mpr fun _ => there]
    apply TouchesShared.bind (changes .chmodPid _ (fun _ _ => rfl) machine)
    intro shared _
    exact changes .chownPid _ (fun _ _ => rfl) _
  · rw [if_neg there, Bool.eq_false_iff.mpr there, Bool.false_and]
    exact ⟨machine.shared, rfl, fun _ => rfl⟩

theorem touchesShared_prepareShared :
    TouchesShared (attempt.endsShared (machine.shared .pidFile).isSome) (prepareShared attempt)
      machine := by
  have noPid : ∀ {paths : List SharedPath} {change : Option Access → Option Access},
      .pidFile ∉ paths → ∀ access, .pidFile ∈ paths → (change access).isSome = access.isSome :=
    fun absent _ there => absurd there absent
  apply (touchesShared_command (fun _ _ => rfl) (noPid (by decide))).bind
  intro first samePid
  apply (touchesShared_command (fun _ _ => rfl) (noPid (by decide))).bind
  intro second samePidSecond
  apply (touchesShared_command (fun _ _ => rfl) (noPid (by decide))).bind
  intro third samePidThird
  apply (touchesShared_command (fun _ _ => rfl) (noPid (by decide))).bind
  intro fourth samePidFourth
  apply (touchesShared_command (fun _ _ => rfl) (noPid (by decide))).bind
  intro fifth samePidFifth
  rw [← samePid, ← samePidSecond, ← samePidThird, ← samePidFourth, ← samePidFifth]
  exact touchesShared_preparePid

theorem outcome_exchangeDaemon : outcome (exchangeDaemon attempt) machine =
    match attempt.failing with
    | some (.bootstrap, _) =>
        (none, { machine with job := if attempt.bootsOut then none else machine.job })
    | some (.kickstart, _) => (none, { machine with job := machine.helperScript })
    | _ => (some (), { machine with job := machine.helperScript }) := by
  simp only [exchangeDaemon, outcome_bind, outcome_modify, outcome_command]
  cases attempt.failing with
  | none => rfl
  | some failing =>
      obtain ⟨command, left⟩ := failing
      cases command <;> rfl


/-- The machine when the version is written. -/
def marked (build : Build) (machine : Machine) : Machine :=
  { copied build machine with helperVersion := some (helperVersion ++ [newline]) }

/-- The script up to the version, and then what follows it. -/
theorem outcome_script (owned : ¬ (attempt.ownerUser = [] ∨ attempt.ownerUser = lit "root")) :
    outcome (script build attempt) machine =
      match attempt.failing with
      | some (.mkdirSupport, _) => (none, machine)
      | some (.installScript, left) => (none, { machine with helperScript := left.helperScript })
      | some (.installBinary, left) =>
          (none, { machine with
            helperScript := some build.daemonScript, installedBinary := left.installedBinary })
      | some (.installPlist, left) =>
          (none, { copied build machine with helperPlist := left.helperPlist })
      | some (.writeVersion, left) =>
          (none, { copied build machine with helperVersion := left.helperVersion })
      | _ => outcome (prepareShared attempt >>= fun _ => exchangeDaemon attempt)
          (marked build machine) := by
  rw [script, if_neg owned, outcome_bind, outcome_copyFiles]
  cases failed : attempt.failing with
  | none =>
      dsimp only
      rw [outcome_bind, mark, outcome_command, failed]
      rfl
  | some failing =>
      obtain ⟨command, left⟩ := failing
      cases command with
      | mkdirSupport | installScript | installBinary | installPlist => rfl
      | writeVersion | mkdirShared | touchShared | chmodDirectory | chmodFiles | chownShared
      | chmodPid | chownPid | bootstrap | kickstart =>
          dsimp only
          rw [outcome_bind, mark, outcome_command, failed]
          rfl

/-- What follows the version. -/
theorem outcome_behind : ∃ shared,
    outcome (prepareShared attempt >>= fun _ => exchangeDaemon attempt) machine =
      if attempt.endsShared (machine.shared .pidFile).isSome then
        (none, { machine with shared := shared })
      else
        match attempt.failing with
        | some (.bootstrap, _) => (none, { machine with
            shared := shared, job := if attempt.bootsOut then none else machine.job })
        | some (.kickstart, _) =>
            (none, { machine with shared := shared, job := machine.helperScript })
        | _ => (some (), { machine with shared := shared, job := machine.helperScript }) := by
  obtain ⟨shared, prepared, _⟩ := @touchesShared_prepareShared attempt machine
  refine ⟨shared, ?_⟩
  rw [outcome_bind, prepared]
  cases attempt.endsShared (machine.shared .pidFile).isSome with
  | true => rfl
  | false => exact outcome_exchangeDaemon

/-! ### Where an attempt ends -/

theorem trueVersion_iff : TrueVersion build machine ↔ (machine.Marked →
    OnlyNew build.daemonScript machine.helperScript ∧ OnlyNew build.binary machine.installedBinary ∧
      OnlyNew build.plist machine.helperPlist ∧ machine.job = some build.daemonScript) := by
  constructor
  · intro honest isMarked
    exact ⟨honest.helperScript isMarked, honest.installedBinary isMarked,
      honest.helperPlist isMarked, honest.job isMarked⟩
  · intro all
    exact ⟨fun isMarked => (all isMarked).1, fun isMarked => (all isMarked).2.1,
      fun isMarked => (all isMarked).2.2.1, fun isMarked => (all isMarked).2.2.2⟩

theorem onlyNew_some (new : Bytes) : OnlyNew new (some new) := fun _ same =>
  (Option.some.inj same).symm

/-- With the files of this app the daemon decides. -/
theorem trueVersion_copied_iff {version : Option Bytes} : TrueVersion build
    { copied build machine with helperVersion := version } ↔
      (Machine.Marked { machine with helperVersion := version } →
        machine.job = some build.daemonScript) := by
  rw [trueVersion_iff]
  constructor
  · exact fun all isMarked => (all isMarked).2.2.2
  · exact fun job isMarked => ⟨onlyNew_some _, onlyNew_some _, onlyNew_some _, job isMarked⟩

theorem trueVersion_marked_iff {shared : SharedPath → Option Access} {job : Option Bytes} :
    TrueVersion build { marked build machine with shared := shared, job := job } ↔
      job = some build.daemonScript := by
  have iff := @trueVersion_copied_iff build { machine with shared, job }
    (some (helperVersion ++ [newline]))
  have isMarked := @marked_written { machine with shared, job }
  rw [forall_prop_of_true isMarked] at iff
  exact iff

/-- An attempt leaves a version that is true exactly if it ends well. -/
theorem trueVersion_install_iff (honest : TrueVersion build machine) :
    TrueVersion build (install build attempt machine).1 ↔ EndsWell build attempt machine := by
  unfold install EndsWell
  cases attempt.refused with
  | some error => exact iff_of_true honest nofun
  | none =>
      by_cases noOwner : attempt.ownerUser = [] ∨ attempt.ownerUser = lit "root"
      · have ended : outcome (script build attempt) machine = (none, machine) := by
          rw [script, if_pos noOwner]
          rfl
        rw [ended]
        exact iff_of_true honest fun _ owner => absurd noOwner owner
      · rw [forall_prop_of_true rfl, forall_prop_of_true noOwner, outcome_script noOwner]
        obtain ⟨shared, behind⟩ := @outcome_behind attempt (marked build machine)
        have pid : ((marked build machine).shared .pidFile).isSome =
            (machine.shared .pidFile).isSome := rfl
        rw [pid, Attempt.endsShared] at behind
        cases failed : attempt.failing with
        | none =>
            simp only [failed, Attempt.failsAt_none failed, Bool.or_self, Bool.and_false,
              Bool.false_eq_true, if_false] at behind
            rw [behind]
            exact iff_of_true (trueVersion_marked_iff.mpr rfl) trivial
        | some failing =>
            obtain ⟨command, left⟩ := failing
            have fails := Attempt.failsAt_some failed
            simp only [failed, fails] at behind
            cases command with
            | mkdirSupport => exact iff_of_true honest trivial
            | installScript =>
                rw [trueVersion_iff]
                constructor
                · exact fun all isMarked => (all isMarked).1
                · exact fun new isMarked => ⟨new isMarked, honest.installedBinary isMarked,
                    honest.helperPlist isMarked, honest.job isMarked⟩
            | installBinary =>
                rw [trueVersion_iff]
                constructor
                · exact fun all isMarked => (all isMarked).2.1
                · exact fun new isMarked => ⟨onlyNew_some _, new isMarked,
                    honest.helperPlist isMarked, honest.job isMarked⟩
            | installPlist =>
                rw [trueVersion_iff]
                constructor
                · exact fun all isMarked => (all isMarked).2.2.1
                · exact fun new isMarked => ⟨onlyNew_some _, onlyNew_some _, new isMarked,
                    honest.job isMarked⟩
            | writeVersion => exact trueVersion_copied_iff
            | mkdirShared | touchShared | chmodDirectory | chmodFiles | chownShared =>
                dsimp only
                rw [behind]
                exact trueVersion_marked_iff
            | chmodPid | chownPid =>
                dsimp only
                rw [behind]
                cases (machine.shared .pidFile).isSome with
                | false => exact iff_of_true (trueVersion_marked_iff.mpr rfl) nofun
                | true =>
                    rw [forall_prop_of_true rfl]
                    exact trueVersion_marked_iff
            | bootstrap =>
                dsimp only
                rw [behind]
                cases attempt.bootsOut with
                | false =>
                    rw [and_iff_right rfl]
                    cases (machine.shared .pidFile).isSome <;> exact trueVersion_marked_iff
                | true =>
                    have unloaded : ¬ ((none : Option Bytes) = some build.daemonScript) := nofun
                    apply iff_of_false
                    · cases (machine.shared .pidFile).isSome <;>
                        exact fun honest => unloaded (trueVersion_marked_iff.mp honest)
                    · exact fun both => Bool.noConfusion both.1
            | kickstart =>
                dsimp only
                rw [behind]
                cases (machine.shared .pidFile).isSome <;>
                  exact iff_of_true (trueVersion_marked_iff.mpr rfl) trivial

end InstallScript

/-! ### The life of the app -/

/-- What each action may meet. -/
def EndsWellAt (build : Build) (mac : Mac) : InstallAction → Prop
  | .install attempt _ => EndsWell build attempt mac.machine
  | .refresh _ | .launch _ => True

theorem installHelper_machine (mac : Mac) (nextStatus : GecitStatus) :
    (mac.installHelper build attempt nextStatus).machine =
      (InstallScript.install build attempt mac.machine).1 := by
  unfold Mac.installHelper
  split
  next installed => rw [installed]
  next installed =>
    rw [installed]
    split <;> rfl

/-- In every life of the app the version is true to what is installed exactly as long as each
attempt ends well; then whatever is recognised as installed is complete and runs. -/
theorem version_true_iff (build : Build) {initial final : Mac} {schedule : List InstallAction}
    (honest : TrueVersion build initial.machine)
    (reached : run (Mac.step build) initial schedule = some final) :
    (Always (Mac.step build) (fun mac => TrueVersion build mac.machine) initial schedule ↔
      Meets (Mac.step build) (EndsWellAt build) initial schedule) ∧
    (Meets (Mac.step build) (EndsWellAt build) initial schedule →
      Always (Mac.step build) (fun mac => mac.machine.isInstalled = true →
        Complete build mac.machine) initial schedule) := by
  have exact_ : ∀ mac action next, TrueVersion build mac.machine →
      Mac.step build mac action = some next →
        (TrueVersion build next.machine ↔ EndsWellAt build mac action) := by
    intro mac action next honestBefore stepped
    cases action with
    | install attempt nextStatus =>
        obtain ⟨_, rfl⟩ := guarded_eq_some stepped
        rw [installHelper_machine]
        exact InstallScript.trueVersion_install_iff honestBefore
    | refresh nextStatus | launch nextStatus =>
        obtain rfl := Option.some.inj stepped
        exact iff_of_true honestBefore trivial
  constructor
  · have everywhere : ∀ mac action next, True → TrueVersion build mac.machine →
        Mac.step build mac action = some next →
          (TrueVersion build next.machine ↔ EndsWellAt build mac action) :=
      fun mac action next _ => exact_ mac action next
    exact always_iff_meets (fun _ _ _ _ _ => trivial) everywhere trivial honest reached
  · have kept : ∀ mac action next, TrueVersion build (Mac.machine mac) →
        EndsWellAt build mac action → Mac.step build mac action = some next →
          TrueVersion build next.machine :=
      fun mac action next before endsWell stepped =>
        (exact_ mac action next before stepped).mpr endsWell
    exact always_of_meets kept (fun _ honest => honest.complete) honest

/-- The app shows what is installed, and onboarding is where it was. -/
structure Displayed (machine : Machine) (stored : Option Text) (mac : Mac) : Prop where
  machine : mac.machine = machine
  shown : mac.app.store.helperInstalled = true
  stored : mac.app.storedOnboardingVersion = stored

theorem refreshStatus_helperInstalled (store : RuntimeStore) (isInstalled : Bool)
    (nextStatus : GecitStatus) :
    (store.refreshStatus isInstalled nextStatus).helperInstalled = isInstalled := by
  unfold RuntimeStore.refreshStatus
  dsimp only
  split <;> split <;> rfl

/-- With an installation on display nothing is installed any more. -/
theorem Displayed.step {stored : Option Text} {mac next : Mac} {action : InstallAction}
    (settled : Displayed machine stored mac) (installed : machine.isInstalled = true)
    (stepped : Mac.step build mac action = some next) : Displayed machine stored next := by
  have refreshed : ∀ store nextStatus, (RuntimeStore.refreshStatus store mac.machine.isInstalled
      nextStatus).helperInstalled = true := by
    intro store nextStatus
    rw [refreshStatus_helperInstalled, settled.machine]
    exact installed
  cases action with
  | install attempt nextStatus =>
      obtain ⟨missing, _⟩ := guarded_eq_some stepped
      exact absurd (settled.shown.symm.trans missing) (by decide)
  | refresh nextStatus =>
      obtain rfl := Option.some.inj stepped
      exact ⟨settled.machine, refreshed _ _, settled.stored⟩
  | launch nextStatus =>
      obtain rfl := Option.some.inj stepped
      exact ⟨settled.machine, refreshed _ _, settled.stored⟩

theorem installHelper_stored (mac : Mac) (nextStatus : GecitStatus)
    (installed : (InstallScript.install build attempt mac.machine).1.isInstalled = true) :
    (mac.installHelper build attempt nextStatus).app.storedOnboardingVersion =
      if (InstallScript.install build attempt mac.machine).2 = none then some onboardingVersion
      else mac.app.storedOnboardingVersion := by
  unfold Mac.installHelper
  cases left : InstallScript.install build attempt mac.machine with
  | mk after error =>
      rw [left] at installed
      cases error with
      | some error => rfl
      | none =>
          dsimp only at installed ⊢
          rw [if_pos installed]
          rfl

def emptyMac : Mac where
  app := ⟨.created false, false, none⟩
  machine := ⟨none, none, none, none, fun _ => none, none⟩

def attemptWith (failing : Option (InstallCommand × Machine)) : Attempt :=
  ⟨none, lit "ada", true, failing, []⟩

def someBuild : Build := ⟨lit "while true", [0xcf, 0xfa], lit "<plist>"⟩

/-- The disk is full in the first attempt, and the second one comes to its end. -/
def twoAttempts : List InstallAction :=
  [.install (attemptWith (some (.installPlist, emptyMac.machine))) .empty,
    .install (attemptWith none) .empty, .launch .empty]

theorem version_true_iff_twoAttempts :
    (Always (Mac.step someBuild) (fun mac => TrueVersion someBuild mac.machine) emptyMac
        twoAttempts ↔
      Meets (Mac.step someBuild) (EndsWellAt someBuild) emptyMac twoAttempts) ∧
    (Meets (Mac.step someBuild) (EndsWellAt someBuild) emptyMac twoAttempts →
      Always (Mac.step someBuild) (fun mac => mac.machine.isInstalled = true →
        Complete someBuild mac.machine) emptyMac twoAttempts) :=
  @version_true_iff someBuild emptyMac _ twoAttempts (.of_unmarked (by decide)) rfl

end Gecit.Macos
