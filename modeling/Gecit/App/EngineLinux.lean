import Gecit.Dns.SystemLinux
import Gecit.Ebpf.Manager

/-!
Contract: whole runs of the Linux engine, and the `resolv.conf` that many of them leave.

Any step of a run may fail, the file may be refused, and the process may end between two steps.
What it holds is then given up by the kernel; the file stays as it is.

Owns the steps of `ebpfEngine` with their effects, and the file behind any sequence of runs. Does
not own a write that is cut short, nor changes of the file by other programs.
-/

namespace Gecit.App.Linux

open Gecit.Dns
open Gecit.Dns.Linux
open Gecit.Ebpf
open Gecit.Foundation
open Gecit.Go

/-- How the steps of one run go. -/
structure Conditions where
  dohEnabled : Bool
  /-- The address of the DNS server is taken. -/
  dnsStartFails : Bool
  /-- `SetSystemDNS` cannot read the file, or not write it. -/
  setFails : Bool
  restoreFails : Bool
  mgrFails : Manager.StartStep → Bool

/-- What the engine changes. -/
structure Host where
  resolvConf : GoString
  listening : Bool
  mgr : Manager

inductive EngineStep where
  | dnsStart
  | setSystemDNS
  | mgrStart
  | restoreSystemDNS
  | dnsStop
  | mgrStop
deriving DecidableEq

namespace Conditions

/-- `ebpfEngine.Start`: the steps that it takes, and whether it succeeds. -/
def start (conditions : Conditions) : List EngineStep × Bool :=
  let mgrStarts := (Manager.start conditions.mgrFails).2
  if conditions.dohEnabled then
    if conditions.dnsStartFails then ([.dnsStart], false)
    else if conditions.setFails then ([.dnsStart, .setSystemDNS, .dnsStop], false)
    else if mgrStarts then ([.dnsStart, .setSystemDNS, .mgrStart], true)
    else ([.dnsStart, .setSystemDNS, .mgrStart, .restoreSystemDNS, .dnsStop], false)
  else ([.mgrStart], mgrStarts)

/-- `ebpfEngine.Stop` -/
def stop (conditions : Conditions) : List EngineStep :=
  (if conditions.dohEnabled then [.restoreSystemDNS, .dnsStop] else []) ++ [.mgrStop]

/-- `runEngine`, up to its end. -/
def steps (conditions : Conditions) : List EngineStep :=
  conditions.start.1 ++ if conditions.start.2 then conditions.stop else []

def take (conditions : Conditions) (host : Host) : EngineStep → Host
  | .dnsStart => { host with listening := !conditions.dnsStartFails }
  | .setSystemDNS =>
      if conditions.setFails then host
      else { host with resolvConf := setContent host.resolvConf }
  | .mgrStart => { host with mgr := (Manager.start conditions.mgrFails).1 }
  | .restoreSystemDNS =>
      if conditions.restoreFails then host
      else { host with resolvConf := restoreContent host.resolvConf }
  | .dnsStop => { host with listening := false }
  | .mgrStop => { host with mgr := host.mgr.stop }

/-- The host after these steps. -/
def after (conditions : Conditions) (steps : List EngineStep) (host : Host) : Host :=
  steps.foldl conditions.take host

end Conditions

/-- A run: it returns, or it ends behind so many steps. -/
structure Run where
  conditions : Conditions
  crash : Option Nat

/-- The steps that were taken. -/
def Run.taken (run : Run) : List EngineStep :=
  match run.crash with
  | none => run.conditions.steps
  | some count => run.conditions.steps.take count

/-- The file behind a run. -/
def Run.exec (run : Run) (content : GoString) : GoString :=
  (run.conditions.after run.taken ⟨content, false, Manager.newManager⟩).resolvConf

def execAll (runs : List Run) (content : GoString) : GoString :=
  runs.foldl (fun content run => run.exec content) content

/-- The run has written its nameserver, and not given the file back. -/
def Run.LeavesFile (run : Run) : Prop :=
  .setSystemDNS ∈ run.taken ∧ run.conditions.setFails = false ∧
    (.restoreSystemDNS ∈ run.taken → run.conditions.restoreFails = true)

instance (run : Run) : Decidable run.LeavesFile := by
  unfold Run.LeavesFile
  infer_instance

/-! ### The file behind one run -/

def EngineStep.isOfFile (step : EngineStep) : Bool :=
  step = .setSystemDNS || step = .restoreSystemDNS

/-- What a step makes of the file. -/
def Conditions.write (conditions : Conditions) (content : GoString) : EngineStep → GoString
  | .setSystemDNS => if conditions.setFails then content else setContent content
  | .restoreSystemDNS => if conditions.restoreFails then content else restoreContent content
  | .dnsStart | .mgrStart | .dnsStop | .mgrStop => content

theorem resolvConf_take (conditions : Conditions) (host : Host) (step : EngineStep) :
    (conditions.take host step).resolvConf = conditions.write host.resolvConf step := by
  cases step with
  | setSystemDNS =>
      unfold Conditions.take Conditions.write
      dsimp only
      split <;> rfl
  | restoreSystemDNS =>
      unfold Conditions.take Conditions.write
      dsimp only
      split <;> rfl
  | dnsStart | mgrStart | dnsStop | mgrStop => rfl

/-- Only two steps touch the file. -/
theorem resolvConf_after (conditions : Conditions) (steps : List EngineStep) (host : Host) :
    (conditions.after steps host).resolvConf =
      (steps.filter EngineStep.isOfFile).foldl conditions.write host.resolvConf := by
  induction steps generalizing host with
  | nil => rfl
  | cons step rest inductionHypothesis =>
      have later := inductionHypothesis (conditions.take host step)
      rw [resolvConf_take] at later
      refine Eq.trans later ?_
      cases step <;> rfl

/-- The file is given back behind the step that has taken it over, and only then. -/
theorem fileSteps (conditions : Conditions) :
    conditions.steps.filter EngineStep.isOfFile <+:
      if conditions.setFails then [.setSystemDNS] else [.setSystemDNS, .restoreSystemDNS] := by
  unfold Conditions.steps Conditions.start Conditions.stop
  dsimp only
  cases conditions.dohEnabled <;> cases conditions.dnsStartFails <;> cases conditions.setFails <;>
    cases (Manager.start conditions.mgrFails).2 <;> decide

theorem taken_initial (run : Run) : run.taken <+: run.conditions.steps := by
  unfold Run.taken
  split
  · exact List.prefix_rfl
  · exact List.take_prefix _ _

theorem mem_taken_iff (run : Run) {step : EngineStep} (isOfFile : step.isOfFile = true) :
    step ∈ run.taken ↔ step ∈ run.taken.filter EngineStep.isOfFile := by
  rw [List.mem_filter]
  exact (and_iff_left isOfFile).symm

/-- A run leaves the file alone, takes it over, or takes it over and gives it back. -/
theorem exec_eq (run : Run) (content : GoString) :
    run.LeavesFile ∧ run.exec content = setContent content ∨
      ¬ run.LeavesFile ∧ (run.exec content = content ∨
        run.exec content = restoreContent (setContent content)) := by
  have before : run.taken.filter EngineStep.isOfFile <+: _ :=
    ((taken_initial run).filter EngineStep.isOfFile).trans (fileSteps run.conditions)
  have file : run.exec content = (run.taken.filter EngineStep.isOfFile).foldl
      run.conditions.write content := resolvConf_after _ _ _
  unfold Run.LeavesFile
  rw [mem_taken_iff run (by decide), mem_taken_iff run (by decide), file]
  generalize run.taken.filter EngineStep.isOfFile = fileSteps at before ⊢
  cases setFails : run.conditions.setFails with
  | true =>
      rw [setFails, if_pos rfl, List.prefix_cons_iff] at before
      refine .inr ⟨fun leaves => absurd leaves.2.1 Bool.noConfusion, .inl ?_⟩
      rcases before with rfl | ⟨rest, rfl, none⟩
      · rfl
      · obtain rfl := List.prefix_nil.mp none
        exact if_pos setFails
  | false =>
      have set : run.conditions.write content .setSystemDNS = setContent content :=
        if_neg (Bool.eq_false_iff.mp setFails)
      rw [setFails, if_neg Bool.false_ne_true, List.prefix_cons_iff] at before
      rcases before with rfl | ⟨rest, rfl, restores⟩
      · exact .inr ⟨fun leaves => List.not_mem_nil leaves.1, .inl rfl⟩
      · rw [List.foldl_cons, set]
        rcases List.prefix_cons_iff.mp restores with rfl | ⟨others, rfl, none⟩
        · exact .inl ⟨⟨List.mem_cons_self, rfl, fun restored => absurd restored (by decide)⟩, rfl⟩
        · obtain rfl := List.prefix_nil.mp none
          cases restoreFails : run.conditions.restoreFails with
          | true =>
              exact .inl ⟨⟨List.mem_cons_self, rfl, fun _ => rfl⟩, if_pos restoreFails⟩
          | false =>
              refine .inr ⟨?_, .inr (if_neg (Bool.eq_false_iff.mp restoreFails))⟩
              intro leaves
              exact absurd (leaves.2.2 (by decide)) Bool.noConfusion

/-! ### The lines behind many runs -/

/-- What is left when gecit's nameserver stands in the place of all others. -/
def takenOver (lines : List GoString) : List GoString :=
  loopbackLine :: lines.filter fun line => !isNameserverLine line

theorem takenOver_takenOver (lines : List GoString) :
    takenOver (takenOver lines) = takenOver lines := by
  have own : isNameserverLine loopbackLine = true := by decide
  have others : ∀ lines : List GoString,
      (loopbackLine :: lines).filter (fun line => !isNameserverLine line) =
        lines.filter fun line => !isNameserverLine line :=
    fun _ => List.filter_cons_of_neg (by rw [own]; decide)
  unfold takenOver
  rw [others, List.filter_filter]
  simp only [Bool.and_self]

theorem userLine_userLine {line kept : GoString} (isKept : userLine line = some kept) :
    userLine kept = some kept := by
  unfold userLine at isKept ⊢
  dsimp only at isKept ⊢
  split at isKept
  next => contradiction
  next user =>
    split at isKept
    next isNameserver =>
      obtain rfl := Option.some.inj isKept
      rw [trimSpace_trimSpace, if_neg user, if_pos isNameserver]
    next other =>
      obtain rfl := Option.some.inj isKept
      rw [if_neg user, if_neg other]

/-- A nameserver becomes a comment, any other line is still the user's. -/
theorem userLine_setLine (line : GoString) :
    (setLine line).bind userLine = (userLine line).filter fun line => !isNameserverLine line := by
  unfold setLine userLine isNameserverLine
  dsimp only
  by_cases dropped : trimSpace line = [] ∨ hasPrefix (trimSpace line) gecitMark = true
  · rw [if_pos dropped, if_pos dropped]
    rfl
  · rw [if_neg dropped, if_neg dropped]
    by_cases isNameserver : hasPrefix (trimSpace line) nameserver = true
    · have saved := trimSpace_eq_self (trimmed_saved (trimmed_trimSpace line) isNameserver)
      have marked : hasPrefix (savedMark ++ trimSpace line) gecitMark = true := rfl
      rw [if_pos isNameserver, if_pos isNameserver, Option.bind_some, saved,
        if_pos (.inr marked), Option.filter_some_neg]
      rw [trimSpace_trimSpace, isNameserver]
      decide
    · rw [if_neg isNameserver, if_neg isNameserver, Option.bind_some, if_neg dropped,
        if_neg isNameserver, Option.filter_some_pos]
      rw [Bool.eq_false_iff.mpr isNameserver]
      rfl

theorem userLines_setContent (content : GoString) :
    userLines (setContent content) = takenOver (userLines content) := by
  have ownLines : [marker, loopbackLine].filterMap userLine = [loopbackLine] := by decide
  have lastLine : [([] : GoString)].filterMap userLine = [] := by decide
  unfold takenOver userLines
  rw [setContent, split_join_newline (setLines_clear content) (by simp [setLines]), setLines,
    List.filterMap_append, List.filterMap_append, List.filterMap_filterMap, ownLines, lastLine,
    List.append_nil, List.singleton_append, List.filter_filterMap]
  simp only [userLine_setLine]

theorem userLines_cycle {content : GoString} (present : userLines content ≠ []) :
    userLines (restoreContent (setContent content)) = userLines content := by
  have lastLine : [([] : GoString)].filterMap userLine = [] := by decide
  have kept : (userLines content).filterMap userLine = userLines content := by
    unfold userLines
    rw [List.filterMap_filterMap]
    apply List.filterMap_congr
    intro line _
    cases isKept : userLine line with
    | none => rfl
    | some line => exact userLine_userLine isKept
  rw [restoreContent, restoreLines_setContent present]
  show (split (join (userLines content) ++ [newline])).filterMap userLine = _
  rw [split_join_newline (fun _ member => userLine_clear member) present, List.filterMap_append,
    kept, lastLine, List.append_nil]

theorem takenOver_ne_nil (lines : List GoString) : takenOver lines ≠ [] := List.cons_ne_nil _ _

/-- The user's lines behind one run. -/
theorem userLines_exec (run : Run) {content : GoString} (present : userLines content ≠ []) :
    userLines (run.exec content) =
      if run.LeavesFile then takenOver (userLines content) else userLines content := by
  rcases exec_eq run content with ⟨leaves, same⟩ | ⟨keeps, same | same⟩
  · rw [if_pos leaves, same, userLines_setContent]
  · rw [if_neg keeps, same]
  · rw [if_neg keeps, same, userLines_cycle present]

/-- Nothing fails. -/
def smooth : Conditions := ⟨true, false, false, false, fun _ => false⟩

/-- A run that ends while the engine is up, and one that is stopped. -/
def crashedOnce : List Run := [⟨smooth, some 3⟩, ⟨smooth, none⟩]

/-- The manager is started, and the program is the first thing that it does not find. -/
def Conditions.LeaksCollection (conditions : Conditions) : Prop :=
  .mgrStart ∈ conditions.steps ∧
    firstFailing Manager.order conditions.mgrFails = some .program

/-- What a run that returns leaves. -/
structure Releases (conditions : Conditions) (before after : Host) : Prop where
  closed : after.listening = false
  balanced : after.mgr.ledger.Balanced ↔ ¬ conditions.LeaksCollection
  file : after.resolvConf =
    if .setSystemDNS ∈ conditions.steps ∧ conditions.setFails = false then
      if conditions.restoreFails then setContent before.resolvConf
      else restoreContent (setContent before.resolvConf)
    else before.resolvConf

theorem balanced_started (mgrFails : Manager.StartStep → Bool)
    (succeeds : (Manager.start mgrFails).2 = true) :
    (Manager.start mgrFails).1.stop.ledger.Balanced ↔
      firstFailing Manager.order mgrFails ≠ some .program := by
  rw [← Manager.balances_iff]
  cases reached : Manager.start mgrFails with
  | mk started success =>
      rw [reached] at succeeds
      obtain rfl : success = true := succeeds
      exact Iff.rfl

theorem balanced_failed (mgrFails : Manager.StartStep → Bool)
    (fails : (Manager.start mgrFails).2 = false) :
    (Manager.start mgrFails).1.ledger.Balanced ↔
      firstFailing Manager.order mgrFails ≠ some .program := by
  rw [← Manager.balances_iff]
  cases reached : Manager.start mgrFails with
  | mk left success =>
      rw [reached] at fails
      obtain rfl : success = false := fails
      exact Iff.rfl

/-- A run that returns has closed the DNS server and released what the manager acquired, but for
one exit of `Manager.Start`; the file is given back unless that fails. -/
theorem returned_run_releases (conditions : Conditions) (host : Host)
    (idle : host.listening = false) (fresh : host.mgr = Manager.newManager) :
    Releases conditions host (conditions.after conditions.steps host) := by
  have nothing : host.mgr.ledger.Balanced := by
    rw [fresh]
    decide
  obtain ⟨dohEnabled, dnsStartFails, setFails, restoreFails, mgrFails⟩ := conditions
  have released := balanced_started mgrFails
  have left := balanced_failed mgrFails
  -- one case for each exit of `Start`, and one for `Stop`
  cases dohEnabled with
  | false =>
      cases success : (Manager.start mgrFails).2 with
      | false =>
          have steps : Conditions.steps ⟨false, dnsStartFails, setFails, restoreFails, mgrFails⟩ =
              [.mgrStart] := by
            simp [Conditions.steps, Conditions.start, success]
          constructor <;> simp [Conditions.LeaksCollection, steps, Conditions.after,
            Conditions.take, idle, left success]
      | true =>
          have steps : Conditions.steps ⟨false, dnsStartFails, setFails, restoreFails, mgrFails⟩ =
              [.mgrStart, .mgrStop] := by
            simp [Conditions.steps, Conditions.start, Conditions.stop, success]
          constructor <;> simp [Conditions.LeaksCollection, steps, Conditions.after,
            Conditions.take, idle, released success]
  | true =>
      cases dnsStartFails with
      | true =>
          have steps : Conditions.steps ⟨true, true, setFails, restoreFails, mgrFails⟩ =
              [.dnsStart] := by
            simp [Conditions.steps, Conditions.start]
          constructor <;> simp [Conditions.LeaksCollection, steps, Conditions.after,
            Conditions.take, nothing]
      | false =>
          cases setFails with
          | true =>
              have steps : Conditions.steps ⟨true, false, true, restoreFails, mgrFails⟩ =
                  [.dnsStart, .setSystemDNS, .dnsStop] := by
                simp [Conditions.steps, Conditions.start]
              constructor <;> simp [Conditions.LeaksCollection, steps, Conditions.after,
                Conditions.take, nothing]
          | false =>
              cases success : (Manager.start mgrFails).2 with
              | false =>
                  have steps : Conditions.steps ⟨true, false, false, restoreFails, mgrFails⟩ =
                      [.dnsStart, .setSystemDNS, .mgrStart, .restoreSystemDNS, .dnsStop] := by
                    simp [Conditions.steps, Conditions.start, success]
                  cases restoreFails <;> constructor <;> simp [Conditions.LeaksCollection, steps,
                    Conditions.after, Conditions.take, left success]
              | true =>
                  have steps : Conditions.steps ⟨true, false, false, restoreFails, mgrFails⟩ =
                      [.dnsStart, .setSystemDNS, .mgrStart, .restoreSystemDNS, .dnsStop,
                        .mgrStop] := by
                    simp [Conditions.steps, Conditions.start, Conditions.stop, success]
                  cases restoreFails <;> constructor <;> simp [Conditions.LeaksCollection, steps,
                    Conditions.after, Conditions.take, released success]

theorem returned_run_releases_smooth :
    Releases smooth ⟨lit "nameserver 9.9.9.9\n", false, Manager.newManager⟩
      (smooth.after smooth.steps ⟨lit "nameserver 9.9.9.9\n", false, Manager.newManager⟩) :=
  returned_run_releases _ _ rfl rfl

end Gecit.App.Linux
