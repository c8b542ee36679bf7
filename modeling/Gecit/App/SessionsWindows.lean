import Mathlib.Data.List.GetD
import Gecit.App.CleanupWindows

/-!
Contract: the DNS servers of every interface of a Windows machine over engine runs and cleanups.

A process may end behind any step, and the next run may find another interface connected. The
breadcrumb then still names the interface that was taken over last, which is set back before a
further one is taken.

Owns the steps, the interface that is held, and what is left of each interface's configuration.
Does not own calls of `netsh` that fail, nor a breadcrumb that cannot be written.
-/

namespace Gecit.App.Windows

open Gecit.Go
open Gecit.Net
open Gecit.Dns.Windows

/-! ### The machine behind each step -/

/-- Before `SetSystemDNS`, and behind each of its steps. -/
def setStates (tool : Netsh) (machine : Machine) (iface : GoString) : List Machine :=
  let replayed := replayBreadcrumb machine
  let currentDNS := getCurrentDNS (tool.showDNS iface (replayed.dns iface))
  let recorded := { replayed with
    breadcrumb := some (currentDNS ++ newline :: (iface ++ [newline])) }
  [machine, replayed, recorded, recorded.setStatic iface loopbackServer]

/-- Before a breadcrumb is given back, behind the call of `netsh`, and behind the removal. -/
def giveBackStates (machine : Machine) (data savedInterface : GoString) : List Machine :=
  let after := setPrevious machine (readBreadcrumb data savedInterface)
  [machine, { after with breadcrumb := machine.breadcrumb }, after]

def restoreStates (interfaces : Option GoString) (state : State) : List Machine :=
  match state.machine.breadcrumb with
  | none => [state.machine, (restoreSystemDNS interfaces state).machine]
  | some data => giveBackStates state.machine data state.savedInterface

/-- A run; without an interface it fails before its first step. -/
def runStates (tool : Netsh) (interfaces : Option GoString) (machine : Machine) : List Machine :=
  match detectWindowsInterface interfaces with
  | .error _ => [machine]
  | .ok iface => setStates tool machine iface ++
      restoreStates interfaces (setSystemDNS tool interfaces ⟨machine, []⟩).1

def cleanupStates (machine : Machine) : List Machine :=
  match machine.breadcrumb with
  | none => [machine]
  | some data => giveBackStates machine data ethernet

inductive Event where
  /-- `interfaces` is the output of `netsh interface show interface`. -/
  | run (interfaces : Option GoString)
  | cleanup
deriving DecidableEq

def Event.states (tool : Netsh) (machine : Machine) : Event → List Machine
  | .run interfaces => runStates tool interfaces machine
  | .cleanup => cleanupStates machine

/-- An event, and behind how many steps its process ends, if not on its own. -/
structure Session where
  event : Event
  ends : Option Nat
deriving DecidableEq

def Session.exec (tool : Netsh) (machine : Machine) (session : Session) : Machine :=
  let states := session.event.states tool machine
  match session.ends with
  | none => states.getLastD machine
  | some steps => states.getD steps (states.getLastD machine)

def Event.Finds (iface : GoString) : Event → Prop
  | .run interfaces => detectWindowsInterface interfaces = .ok iface
  | .cleanup => False

/-- The run gets as far as its breadcrumb for the interface. -/
def Session.Takes (session : Session) (iface : GoString) : Prop :=
  session.event.Finds iface ∧ ∀ steps ∈ session.ends, 2 ≤ steps

/-- The process does its whole work. -/
def Session.Returns (session : Session) : Prop :=
  session.ends = none ∧ (session.event = .cleanup ∨ ∃ iface, session.event.Finds iface)

/-! ### The calls of the source -/

/-- A run that is killed once its interface is taken over. -/
theorem exec_crashed (tool : Netsh) (machine : Machine) {interfaces : Option GoString}
    {iface : GoString} (detected : detectWindowsInterface interfaces = .ok iface) :
    Session.exec tool machine ⟨.run interfaces, some 3⟩ = crashedRun tool machine interfaces := by
  simp only [Session.exec, Event.states, runStates, crashedRun, setSystemDNS, detected]
  rfl

/-- A run that ends on its own. -/
theorem exec_stopped (tool : Netsh) (machine : Machine) {interfaces : Option GoString}
    {iface : GoString} (detected : detectWindowsInterface interfaces = .ok iface) :
    Session.exec tool machine ⟨.run interfaces, none⟩ = stoppedRun tool machine interfaces := by
  simp only [Session.exec, Event.states, runStates, stoppedRun, detected]
  generalize (setSystemDNS tool interfaces ⟨machine, []⟩).1 = state
  unfold restoreStates restoreSystemDNS
  cases state.machine.breadcrumb <;> rfl

theorem exec_cleanup (tool : Netsh) (machine : Machine) (routes : Option GoString) :
    Session.exec tool machine ⟨.cleanup, none⟩ = (platformCleanup routes machine).machine := by
  simp only [Session.exec, Event.states, cleanupStates, platformCleanup]
  cases machine.breadcrumb <;> rfl

/-! ### The held interface -/

/-- The configuration that the record of the user's stands for. -/
def given (tool : Netsh) (user : GoString → Config) (iface : GoString) : Config :=
  configOf (tool.recorded iface (user iface))

/-- Every interface that was taken over has been given back but the held one, and the breadcrumb is
the record of that one. -/
structure Kept (tool : Netsh) (user : GoString → Config) (taken : GoString → Prop)
    (held : Option GoString) (machine : Machine) : Prop where
  breadcrumb : machine.breadcrumb =
    held.map fun iface => recordText (tool.recorded iface (user iface)) iface
  names : ∀ iface ∈ held, taken iface ∧ Trimmed iface ∧ iface ≠ []
  given : ∀ iface, taken iface → iface ∉ held → machine.dns iface = given tool user iface
  untouched : ∀ iface, ¬ taken iface → machine.dns iface = user iface

variable {tool : Netsh} {user : GoString → Config} {taken : GoString → Prop}
  {held : Option GoString} {machine : Machine} {iface : GoString}

/-- No interface is held any more, whatever the breadcrumb says. -/
structure Settled (tool : Netsh) (user : GoString → Config) (taken : GoString → Prop)
    (machine : Machine) : Prop where
  given : ∀ iface, taken iface → machine.dns iface = given tool user iface
  untouched : ∀ iface, ¬ taken iface → machine.dns iface = user iface

theorem Settled.valid (settled : Settled tool user taken machine) (valid : (user iface).Valid) :
    (machine.dns iface).Valid := by
  by_cases isTaken : taken iface
  · rw [settled.given iface isTaken]
    exact configOf_valid (recorded_isRecord _)
  · rw [settled.untouched iface isTaken]
    exact valid

/-- What was given back has the same record as the user's configuration. -/
theorem Settled.recorded (settled : Settled tool user taken machine) (valid : (user iface).Valid) :
    tool.recorded iface (machine.dns iface) = tool.recorded iface (user iface) := by
  by_cases isTaken : taken iface
  · rw [settled.given iface isTaken]
    exact recorded_configOf_recorded valid
  · rw [settled.untouched iface isTaken]

theorem Settled.kept (settled : Settled tool user taken machine)
    (breadcrumb : machine.breadcrumb =
      held.map fun iface => recordText (tool.recorded iface (user iface)) iface)
    (names : ∀ iface ∈ held, taken iface ∧ Trimmed iface ∧ iface ≠ []) :
    Kept tool user taken held machine :=
  ⟨breadcrumb, names, fun iface isTaken _ => settled.given iface isTaken, settled.untouched⟩

theorem Kept.settled (kept : Kept tool user taken none machine) :
    Settled tool user taken machine :=
  ⟨fun iface isTaken => kept.given iface isTaken (by simp), kept.untouched⟩

theorem setStatic_other {other : GoString} (different : other ≠ iface) (machine : Machine)
    (server : GoString) : (machine.setStatic iface server).dns other = machine.dns other := by
  rw [Machine.setStatic]
  split
  · exact Function.update_of_ne different _ _
  · rfl

theorem setDHCP_other {other : GoString} (different : other ≠ iface) (machine : Machine) :
    (machine.setDHCP iface).dns other = machine.dns other :=
  Function.update_of_ne different _ _

theorem setStatic_breadcrumb (machine : Machine) (iface server : GoString) :
    (machine.setStatic iface server).breadcrumb = machine.breadcrumb := by
  rw [Machine.setStatic]
  split <;> rfl

/-- Setting a breadcrumb's configuration leaves the other interfaces alone. -/
theorem setPrevious_other {other : GoString} (different : other ≠ iface) (machine : Machine)
    (prev : GoString) : (setPrevious machine (prev, iface)).dns other = machine.dns other := by
  simp only [setPrevious]
  split
  · exact setDHCP_other different machine
  · exact setStatic_other different machine prev

/-- A step that sets the held interface as its record says. -/
theorem Kept.giveBack (kept : Kept tool user taken (some iface) machine) {next : Machine}
    (own : next.dns iface = configOf (tool.recorded iface (user iface)))
    (others : ∀ other, other ≠ iface → next.dns other = machine.dns other) :
    Settled tool user taken next := by
  have isTaken := (kept.names iface rfl).1
  refine ⟨?_, ?_⟩
  · intro any anyTaken
    by_cases same : any = iface
    · subst same
      exact own
    · rw [others any same]
      exact kept.given any anyTaken (by simpa using Ne.symm same)
  · intro any notTaken
    have different : any ≠ iface := by
      rintro rfl
      exact notTaken isTaken
    rw [others any different]
    exact kept.untouched any notTaken

/-- Replaying the breadcrumb gives the held interface back; the file stays. -/
theorem Kept.replay (kept : Kept tool user taken held machine) :
    (replayBreadcrumb machine).breadcrumb = machine.breadcrumb ∧
      Settled tool user taken (replayBreadcrumb machine) := by
  cases held with
  | none =>
      have fresh : replayBreadcrumb machine = machine := by
        rw [replayBreadcrumb, kept.breadcrumb]
        rfl
      rw [fresh]
      exact ⟨rfl, kept.settled⟩
  | some iface =>
      have left : LeftBehind (tool.recorded iface (user iface)) iface machine := kept.breadcrumb
      have isRecord := @recorded_isRecord tool iface (user iface)
      obtain ⟨_, trimmed, named⟩ := kept.names iface rfl
      have own := replayBreadcrumb_dns isRecord trimmed named left
      have rest : (replayBreadcrumb machine).breadcrumb = machine.breadcrumb ∧
          ∀ other, other ≠ iface → (replayBreadcrumb machine).dns other = machine.dns other := by
        rw [LeftBehind] at left
        simp only [replayBreadcrumb, left, splitN_recordText isRecord,
          trimSpace_append_newline trimmed named]
        split
        · split
          · exact ⟨left, fun other different => setDHCP_other different machine⟩
          · exact ⟨(setStatic_breadcrumb _ _ _).trans left,
              fun other different => setStatic_other different machine _⟩
        · exact ⟨left, fun _ _ => rfl⟩
      exact ⟨rest.1, kept.giveBack own rest.2⟩

/-! ### Steps -/

/-- The interfaces that are taken over once this one is. -/
def andTaken (taken : GoString → Prop) (iface : GoString) : GoString → Prop :=
  fun any => taken any ∨ any = iface

/-- Behind the breadcrumb the interface is held, whatever its servers are. -/
theorem Settled.take (settled : Settled tool user taken machine) (trimmed : Trimmed iface)
    (named : iface ≠ []) {next : Machine}
    (breadcrumb : next.breadcrumb = some (recordText (tool.recorded iface (user iface)) iface))
    (others : ∀ other, other ≠ iface → next.dns other = machine.dns other) :
    Kept tool user (andTaken taken iface) (some iface) next := by
  refine ⟨breadcrumb, ?_, ?_, ?_⟩
  · intro any isHeld
    obtain rfl := Option.some.inj isHeld
    exact ⟨.inr rfl, trimmed, named⟩
  · intro any isTaken notHeld
    have different : any ≠ iface := by
      rintro rfl
      exact notHeld rfl
    rw [others any different]
    exact settled.given any (isTaken.resolve_right different)
  · intro any notTaken
    obtain ⟨earlier, different⟩ := not_or.mp notTaken
    rw [others any different]
    exact settled.untouched any earlier

/-- Before its breadcrumb a run holds what was held, and from then on its own interface. -/
theorem Kept.set (kept : Kept tool user taken held machine) (valid : (user iface).Valid)
    (prints : tool.Prints iface) (trimmed : Trimmed iface) (named : iface ≠ []) :
    ∀ after ∈ (setStates tool machine iface).drop 2,
      Kept tool user (andTaken taken iface) (some iface) after := by
  obtain ⟨_, settled⟩ := kept.replay
  have record := getCurrentDNS_showDNS prints (servers_parsed (settled.valid valid))
  rw [settled.recorded valid] at record
  intro after there
  rcases List.mem_cons.mp there with rfl | there
  · refine settled.take trimmed named ?_ fun _ _ => rfl
    rw [record]
    rfl
  obtain rfl := List.mem_singleton.mp there
  refine settled.take trimmed named ?_ ?_
  · rw [setStatic_breadcrumb, record]
    rfl
  · intro other different
    rw [setStatic_other different]

/-- Giving a breadcrumb back ends with no interface held. -/
theorem Kept.givenBack (kept : Kept tool user taken held machine) {data : GoString}
    (there : machine.breadcrumb = some data) (saved : GoString) :
    (∀ after ∈ giveBackStates machine data saved, ∃ next, Kept tool user taken next after) ∧
      Kept tool user taken none (setPrevious machine (readBreadcrumb data saved)) := by
  cases held with
  | none =>
      rw [kept.breadcrumb] at there
      contradiction
  | some iface =>
      obtain ⟨_, trimmed, named⟩ := kept.names iface rfl
      have isRecord := @recorded_isRecord tool iface (user iface)
      obtain rfl : recordText (tool.recorded iface (user iface)) iface = data :=
        Option.some.inj (kept.breadcrumb.symm.trans there)
      have own := setPrevious_leftBehind isRecord trimmed named machine saved
      have read := readBreadcrumb_recordText isRecord trimmed named saved
      have others : ∀ other, other ≠ iface →
          (setPrevious machine (readBreadcrumb (recordText (tool.recorded iface (user iface)) iface)
            saved)).dns other = machine.dns other := by
        intro other different
        rw [read]
        exact setPrevious_other different machine _
      have settled := kept.giveBack own others
      have removed := @Settled.kept _ _ _ none _ settled rfl (by simp)
      refine ⟨?_, removed⟩
      intro after there
      rcases List.mem_cons.mp there with rfl | there
      · exact ⟨some iface, kept⟩
      rcases List.mem_cons.mp there with rfl | there
      · exact ⟨some iface, kept.breadcrumb, kept.names,
          fun any isTaken _ => settled.given any isTaken, settled.untouched⟩
      obtain rfl := List.mem_singleton.mp there
      exact ⟨none, removed⟩

/-- The whole run of a process that finds the interface. -/
theorem Kept.run (kept : Kept tool user taken held machine) (valid : (user iface).Valid)
    {interfaces : Option GoString} (prints : tool.Prints iface)
    (detected : detectWindowsInterface interfaces = .ok iface) :
    (∀ after ∈ (runStates tool interfaces machine).drop 2,
      ∃ next, Kept tool user (andTaken taken iface) next after) ∧
        ∀ last ∈ (runStates tool interfaces machine).getLast?,
          Kept tool user (andTaken taken iface) none last := by
  obtain ⟨trimmed, named⟩ := detectWindowsInterface_trimmed detected
  have set := kept.set valid prints trimmed named
  have isSet := set (setSystemDNS tool interfaces ⟨machine, []⟩).1.machine (by
    simp only [setSystemDNS, detected]
    exact List.mem_cons_of_mem _ List.mem_cons_self)
  obtain ⟨whileRestoring, restored⟩ := isSet.givenBack isSet.breadcrumb
    (setSystemDNS tool interfaces ⟨machine, []⟩).1.savedInterface
  have restores : restoreStates interfaces (setSystemDNS tool interfaces ⟨machine, []⟩).1 =
      giveBackStates (setSystemDNS tool interfaces ⟨machine, []⟩).1.machine
        (recordText (tool.recorded iface (user iface)) iface)
        (setSystemDNS tool interfaces ⟨machine, []⟩).1.savedInterface := by
    rw [restoreStates, isSet.breadcrumb]
    rfl
  have states : runStates tool interfaces machine = setStates tool machine iface ++
      restoreStates interfaces (setSystemDNS tool interfaces ⟨machine, []⟩).1 := by
    rw [runStates, detected]
  rw [states, restores]
  refine ⟨?_, ?_⟩
  · intro after there
    rcases List.mem_append.mp (show after ∈ (setStates tool machine iface).drop 2 ++ _ from there)
      with setting | restoring
    · exact ⟨some iface, set after setting⟩
    · exact whileRestoring after restoring
  · intro last isLast
    rw [List.getLast?_append] at isLast
    obtain rfl := Option.some.inj isLast
    exact restored

/-- The cleanup command. -/
theorem Kept.cleanup (kept : Kept tool user taken held machine) :
    (∀ after ∈ cleanupStates machine, ∃ next, Kept tool user taken next after) ∧
      ∀ last ∈ (cleanupStates machine).getLast?, Kept tool user taken none last := by
  cases file : machine.breadcrumb with
  | none =>
      have nothing : cleanupStates machine = [machine] := by
        rw [cleanupStates, file]
      obtain rfl : held = none := Option.map_eq_none_iff.mp (kept.breadcrumb.symm.trans file)
      rw [nothing]
      refine ⟨?_, ?_⟩
      · intro after there
        obtain rfl := List.mem_singleton.mp there
        exact ⟨none, kept⟩
      · intro last isLast
        obtain rfl := Option.some.inj isLast
        exact kept
  | some data =>
      obtain ⟨any, removed⟩ := kept.givenBack file ethernet
      have states : cleanupStates machine = giveBackStates machine data ethernet := by
        rw [cleanupStates, file]
      rw [states]
      refine ⟨any, ?_⟩
      intro last isLast
      obtain rfl := Option.some.inj isLast
      exact removed

/-! ### Sessions in any order -/

/-- The machine that a process leaves, when it ends behind so many steps or later. -/
theorem Session.exec_mem (tool : Netsh) (machine : Machine) {session : Session} {steps : Nat}
    (long : steps < (session.event.states tool machine).length)
    (reached : ∀ ended ∈ session.ends, steps ≤ ended) :
    session.exec tool machine ∈ (session.event.states tool machine).drop steps := by
  have isLast : (session.event.states tool machine).getLastD machine ∈
      (session.event.states tool machine).drop steps := by
    have nonempty : (session.event.states tool machine).drop steps ≠ [] := by
      simpa [List.drop_eq_nil_iff] using long
    have same : ((session.event.states tool machine).drop steps).getLast? =
        (session.event.states tool machine).getLast? := by
      rw [List.getLast?_drop, if_neg (by omega)]
    rw [List.getLastD_eq_getLast?, ← same, List.getLast?_eq_some_getLast nonempty,
      Option.getD_some]
    exact List.getLast_mem nonempty
  rw [Session.exec]
  split
  · exact isLast
  next ended ends =>
    have behind := reached ended ends
    by_cases inside : ended < (session.event.states tool machine).length
    · rw [List.getD_eq_getElem _ _ inside, List.mem_drop_iff_getElem]
      exact ⟨ended - steps, by omega, by congr 1; omega⟩
    · rw [List.getD_eq_default _ _ (Nat.le_of_not_lt inside)]
      exact isLast

/-- What a session adds to the interfaces that were taken over. -/
def takenBy (taken : GoString → Prop) (session : Session) : GoString → Prop :=
  fun any => taken any ∨ session.Takes any

theorem Session.exec_getLast (tool : Netsh) (machine : Machine) {session : Session}
    (whole : session.ends = none) (long : 0 < (session.event.states tool machine).length) :
    session.exec tool machine ∈ (session.event.states tool machine).getLast? := by
  have nonempty := List.ne_nil_of_length_pos long
  rw [Session.exec, whole, List.getLastD_eq_getLast?, List.getLast?_eq_some_getLast nonempty,
    Option.getD_some]
  exact Option.mem_some_self _

/-- A run that ends before its breadcrumb takes nothing over. -/
theorem Kept.early (kept : Kept tool user taken held machine) {interfaces : Option GoString}
    (detected : detectWindowsInterface interfaces = .ok iface) {steps : Nat} (early : steps < 2) :
    Kept tool user taken held (Session.exec tool machine ⟨.run interfaces, some steps⟩) := by
  obtain ⟨file, settled⟩ := kept.replay
  have states : runStates tool interfaces machine = setStates tool machine iface ++
      restoreStates interfaces (setSystemDNS tool interfaces ⟨machine, []⟩).1 := by
    rw [runStates, detected]
  simp only [Session.exec, Event.states, states]
  match steps, early with
  | 0, _ => exact kept
  | 1, _ => exact settled.kept (file.trans kept.breadcrumb) kept.names

theorem takenBy_eq {session : Session} {added : GoString → Prop}
    (adds : ∀ any, session.Takes any ↔ added any) :
    takenBy taken session = fun any => taken any ∨ added any := by
  funext any
  rw [takenBy, adds]

/-- A session that takes nothing over. -/
theorem takenBy_none {session : Session} (takesNone : ∀ any, ¬ session.Takes any) :
    takenBy taken session = taken := by
  funext any
  rw [takenBy, eq_false (takesNone any), or_false]

/-- A process that ends behind any step leaves at most one interface held; one that does its whole
work leaves none. -/
theorem Kept.session (kept : Kept tool user taken held machine) (valid : ∀ any, (user any).Valid)
    {session : Session} (prints : ∀ iface, session.Takes iface → tool.Prints iface) :
    ∃ next, Kept tool user (takenBy taken session) next (session.exec tool machine) ∧
      (session.Returns → next = none) := by
  obtain ⟨event, ends⟩ := session
  cases event with
  | cleanup =>
      have takesNone : ∀ any, ¬ Session.Takes ⟨.cleanup, ends⟩ any := fun _ takes => takes.1
      have long : 0 < (Event.states tool machine .cleanup).length := by
        rw [Event.states, cleanupStates]
        split <;> exact Nat.succ_pos _
      obtain ⟨any, last⟩ := kept.cleanup
      have there := @Session.exec_mem tool machine ⟨.cleanup, ends⟩ 0 long fun _ _ => Nat.zero_le _
      rw [takenBy_none takesNone]
      cases ends with
      | none =>
          have isLast := @Session.exec_getLast tool machine ⟨.cleanup, none⟩ rfl long
          exact ⟨none, last _ isLast, fun _ => rfl⟩
      | some steps =>
          obtain ⟨next, keptNext⟩ := any _ there
          exact ⟨next, keptNext, fun returns => absurd returns.1 (by simp)⟩
  | run interfaces =>
      cases detected : detectWindowsInterface interfaces with
      | error reason =>
          have takesNone : ∀ any, ¬ Session.Takes ⟨.run interfaces, ends⟩ any := by
            rintro any ⟨finds, -⟩
            rw [Event.Finds, detected] at finds
            contradiction
          have fails : Session.exec tool machine ⟨.run interfaces, ends⟩ = machine := by
            have states : runStates tool interfaces machine = [machine] := by
              rw [runStates, detected]
            simp only [Session.exec, Event.states, states]
            cases ends with
            | none => rfl
            | some steps => cases steps <;> rfl
          rw [takenBy_none takesNone, fails]
          refine ⟨held, kept, ?_⟩
          rintro ⟨-, impossible | ⟨iface, finds⟩⟩
          · contradiction
          · rw [Event.Finds, detected] at finds
            contradiction
      | ok iface =>
          have found : ∀ any, Event.Finds any (.run interfaces) ↔ any = iface := by
            intro any
            rw [Event.Finds, detected, Except.ok.injEq, eq_comm]
          by_cases reached : ∀ steps ∈ ends, 2 ≤ steps
          · have adds : ∀ any, Session.Takes ⟨.run interfaces, ends⟩ any ↔ any = iface :=
              fun any => (and_iff_left reached).trans (found any)
            have printsIface := prints iface ((adds iface).mpr rfl)
            obtain ⟨any, last⟩ := kept.run (valid iface) printsIface detected
            have long : 2 < (Event.states tool machine (.run interfaces)).length := by
              rw [Event.states, runStates, detected]
              simp only [setStates, List.length_append, List.length_cons, List.length_nil]
              omega
            rw [takenBy_eq adds]
            cases ends with
            | none =>
                have isLast := @Session.exec_getLast tool machine ⟨.run interfaces, none⟩ rfl
                  (Nat.zero_lt_of_lt long)
                exact ⟨none, last _ isLast, fun _ => rfl⟩
            | some steps =>
                obtain ⟨next, keptNext⟩ := any _
                  (@Session.exec_mem tool machine ⟨.run interfaces, some steps⟩ 2 long reached)
                exact ⟨next, keptNext, fun returns => absurd returns.1 (by simp)⟩
          · have takesNone : ∀ any, ¬ Session.Takes ⟨.run interfaces, ends⟩ any :=
              fun _ takes => reached takes.2
            obtain ⟨steps, rfl, early⟩ : ∃ steps, ends = some steps ∧ steps < 2 := by
              cases ends with
              | none => simp at reached
              | some steps => exact ⟨steps, rfl, by simpa using reached⟩
            rw [takenBy_none takesNone]
            exact ⟨held, kept.early detected early, fun returns => absurd returns.1 (by simp)⟩

/-- Some session took the interface over. -/
def takenIn (sessions : List Session) : GoString → Prop :=
  fun iface => ∃ session ∈ sessions, session.Takes iface

/-- `netsh` prints the servers of the interfaces that are taken over. -/
def PrintsTaken (tool : Netsh) (sessions : List Session) : Prop :=
  ∀ iface, takenIn sessions iface → tool.Prints iface

theorem takenIn_cons (session : Session) (rest : List Session) (iface : GoString) :
    takenIn (session :: rest) iface ↔ session.Takes iface ∨ takenIn rest iface := by
  simp only [takenIn, List.mem_cons, exists_eq_or_imp]

theorem Kept.sessions (kept : Kept tool user taken held machine) (valid : ∀ any, (user any).Valid)
    {sessions : List Session} (prints : PrintsTaken tool sessions) :
    ∃ next, Kept tool user (fun any => taken any ∨ takenIn sessions any) next
      (sessions.foldl (Session.exec tool) machine) := by
  induction sessions generalizing taken held machine with
  | nil =>
      have same : (fun any => taken any ∨ takenIn [] any) = taken := by
        funext any
        simp [takenIn]
      rw [same]
      exact ⟨held, kept⟩
  | cons session rest inductionHypothesis =>
      have own : ∀ iface, session.Takes iface → tool.Prints iface :=
        fun iface takes => prints iface ((takenIn_cons session rest iface).mpr (.inl takes))
      have others : PrintsTaken tool rest :=
        fun iface later => prints iface ((takenIn_cons session rest iface).mpr (.inr later))
      obtain ⟨next, keptNext, -⟩ := kept.session valid own
      obtain ⟨last, keptLast⟩ := inductionHypothesis keptNext others
      have same : (fun any => takenBy taken session any ∨ takenIn rest any) =
          fun any => taken any ∨ takenIn (session :: rest) any := by
        funext any
        rw [takenBy, takenIn_cons, or_assoc]
      rw [same] at keptLast
      exact ⟨last, keptLast⟩

/-- What sessions leave of the configurations of `user`. -/
structure GivenBack (tool : Netsh) (user : GoString → Config) (sessions : List Session)
    (final : Machine) : Prop where
  breadcrumb : final.breadcrumb = none
  untouched : ∀ iface, ¬ takenIn sessions iface → final.dns iface = user iface
  taken : ∀ iface, takenIn sessions iface →
    (final.dns iface = user iface ↔ tool.Recordable iface (user iface))
  notOwn : ∀ iface, final.dns iface ≠ .static [loopbackServer]

def wirelessConnected : GoString :=
  lit "\nEnabled        Disconnected   Dedicated        Ethernet\n" ++
    lit "Enabled        Connected      Dedicated        Wi-Fi\n"

def wireless : GoString := lit "Wi-Fi"

theorem detects_wireless : detectWindowsInterface (some wirelessConnected) = .ok wireless := by
  decide

theorem documented_prints_wireless : (documented [] (by simp)).Prints wireless := by
  apply documented_prints
  intro config
  cases config with
  | dhcp => decide
  | static servers =>
      have sameLabel : label (.static servers) = label (.static []) := rfl
      rw [sameLabel]
      decide

/-- Two runs are killed, the second one on another interface, before the cleanup. -/
def killedTwice : List Session :=
  [⟨.run (some oneInterface), some 3⟩, ⟨.run (some wirelessConnected), some 3⟩]

end Gecit.App.Windows
