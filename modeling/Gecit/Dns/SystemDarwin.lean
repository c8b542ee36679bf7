import Gecit.Dns.Networksetup

/-!
Contract: the macOS takeover of a network service's DNS servers.

`setSystemDNS` first tries to restore what a crashed run left in the breadcrumb
file, then saves the servers in force to memory and to the breadcrumb, then sets
127.0.0.1. `restoreSystemDNS` sets the servers saved in memory.

Owns the two functions, the breadcrumb text and the crash law of repeated runs.
Does not own `networksetup` itself or the separate cleanup command.
-/

namespace Gecit.Dns.Darwin

open Gecit.Go
open Gecit.Dns Networksetup

def wiFi : GoString := lit "Wi-Fi"

/-- The package variables of one process. -/
structure Process where
  savedDNS : GoString
  savedService : GoString
deriving DecidableEq, Repr

def Process.fresh : Process := ⟨[], []⟩

structure State where
  machine : Machine
  process : Process

inductive DNSError where
  | setDNS
deriving DecidableEq, Repr

/-- The optional `networkService` argument over a default. -/
def serviceName (default : GoString) (networkService : List GoString) : GoString :=
  match networkService with
  | [] => default
  | first :: _ => if first ≠ [] then first else default

/-- The breadcrumb's text for the servers `savedDNS` of the service `svc`. -/
def breadcrumbText (savedDNS svc : GoString) : GoString :=
  (if contains savedDNS arentAny then empty else savedDNS) ++ newline :: (svc ++ [newline])

variable (tool : Networksetup)

/-- If a breadcrumb exists from a previous crash, restore first. -/
def restoreBreadcrumb (machine : Machine) (svc : GoString) : Machine :=
  match machine.breadcrumb with
  | none => machine
  | some data =>
      let prev := trimSpace data
      if prev ≠ [] ∧ prev ≠ loopback then tool.setdnsservers machine svc (fields prev)
      else machine

/-- Save the current servers to the breadcrumb file and to memory. -/
def saveCurrent (machine : Machine) (svc : GoString) : State :=
  let savedDNS := trimSpace (tool.getdnsservers machine svc)
  { machine := { machine with breadcrumb := some (breadcrumbText savedDNS svc) }
    process := { savedDNS := savedDNS, savedService := svc } }

def setSystemDNS (networkService : List GoString) (state : State) : State × Option DNSError :=
  let svc := serviceName wiFi networkService
  let saved := saveCurrent tool (restoreBreadcrumb tool state.machine svc) svc
  ({ saved with machine := tool.setdnsservers saved.machine svc [loopback] },
    if tool.accepts [loopback] then none else some .setDNS)

/-- The arguments by which `RestoreSystemDNS` sets the saved servers. -/
def restoreArgs (savedDNS : GoString) : List GoString :=
  if savedDNS ≠ [] ∧ contains savedDNS arentAny = false then fields savedDNS else [empty]

def restoreSystemDNS (networkService : List GoString) (state : State) : State :=
  let saved := if state.process.savedService = [] then wiFi else state.process.savedService
  let svc := serviceName saved networkService
  let machine := tool.setdnsservers state.machine svc (restoreArgs state.process.savedDNS)
  { state with machine := { machine with breadcrumb := none } }

/-! ### Runs of the engine -/

/-- The machine after a run that crashed behind `SetSystemDNS`. -/
def crashedRun (networkService : List GoString) (machine : Machine) : Machine :=
  (setSystemDNS tool networkService ⟨machine, .fresh⟩).1.machine

/-- The machine after a run that ended in `RestoreSystemDNS`. -/
def stoppedRun (networkService : List GoString) (machine : Machine) : Machine :=
  (restoreSystemDNS tool [] (setSystemDNS tool networkService ⟨machine, .fresh⟩).1).machine

/-- gecit's own address stands in memory or in the breadcrumb as the user's
configuration. -/
def RecordsOwn (state : State) : Prop :=
  state.process.savedDNS = loopback ∨
    state.machine.breadcrumb = some (breadcrumbText loopback state.process.savedService)

/-- After `count` crashed runs, a run that stops gives the service its servers
back, and on the way gecit's own address was never recorded. -/
def CrashSafe (networkService : List GoString) (machine : Machine) (count : Nat) : Prop :=
  let svc := serviceName wiFi networkService
  (stoppedRun tool networkService ((crashedRun tool networkService)^[count] machine)).dns svc =
      machine.dns svc ∧
    ∀ earlier ≤ count, ¬ RecordsOwn (setSystemDNS tool networkService
      ⟨(crashedRun tool networkService)^[earlier] machine, .fresh⟩).1

/-! ### What a Set records -/

/-- The breadcrumb for a service in the configuration `config`. -/
def recordText (svc : GoString) (config : List GoString) : GoString :=
  breadcrumbText (trimSpace (tool.printed svc config)) svc

/-- The state `SetSystemDNS` leaves when it found the service in `config`. -/
structure SetTo (svc : GoString) (config : List GoString) (state : State) : Prop where
  dns : state.machine.dns svc = [loopback]
  breadcrumb : state.machine.breadcrumb = some (recordText tool svc config)
  savedDNS : state.process.savedDNS = trimSpace (tool.printed svc config)
  savedService : state.process.savedService = svc

theorem serviceName_ne_nil (networkService : List GoString) :
    serviceName wiFi networkService ≠ [] := by
  unfold serviceName
  split
  · decide
  · split
    · assumption
    · decide

theorem setTo_setSystemDNS (networkService : List GoString) (state : State) :
    SetTo tool (serviceName wiFi networkService)
      ((restoreBreadcrumb tool state.machine (serviceName wiFi networkService)).dns
        (serviceName wiFi networkService))
      (setSystemDNS tool networkService state).1 where
  dns := by
    simp only [setSystemDNS, setdnsservers_dns]
    exact resulting_of_valid (by simp) valid_loopback
  breadcrumb := rfl
  savedDNS := rfl
  savedService := rfl

variable {tool}

/-- The words of a breadcrumb: the saved servers, then the service's name. -/
theorem fields_recordText (svc : GoString) {config : List GoString} (valid : tool.Valid config) :
    fields (trimSpace (recordText tool svc config)) = argsOf config ++ fields svc := by
  have lastLine : fields (svc ++ [newline]) = fields svc := by
    rw [fields_append_newline]
    simp [fields, fieldsFrom, flush]
  rw [fields_trimSpace, recordText, breadcrumbText, fields_append_newline, lastLine]
  congr 1
  by_cases dhcp : config = []
  · rw [if_pos ((contains_printed svc valid).mpr dhcp), argsOf, if_pos dhcp]
    decide
  · rw [if_neg fun found => dhcp ((contains_printed svc valid).mp found), argsOf, if_neg dhcp]
    exact fields_printed svc valid dhcp

/-- The configuration in force after a Set read the breadcrumb for `config`
back: the service's name stands among the arguments. -/
def reattempt (tool : Networksetup) (svc : GoString) (config : List GoString) : List GoString :=
  tool.resulting [loopback] (argsOf config ++ fields svc)

theorem reattempt_valid (svc : GoString) (config : List GoString) :
    tool.Valid (reattempt tool svc config) :=
  resulting_valid valid_loopback

theorem restoreBreadcrumb_setTo {svc : GoString} {config : List GoString} {state : State}
    (valid : tool.Valid config) (setTo : SetTo tool svc config state) :
    (restoreBreadcrumb tool state.machine svc).dns svc = reattempt tool svc config := by
  have words := fields_recordText svc valid
  simp only [restoreBreadcrumb, setTo.breadcrumb]
  split
  next =>
    rw [setdnsservers_dns, setTo.dns, words, reattempt]
  next skipped =>
    have notBlank : trimSpace (recordText tool svc config) ≠ [] := by
      intro blank
      rw [blank] at words
      have noWords : fields [] = [] := by decide
      rw [noWords] at words
      by_cases dhcp : config = [] <;> simp [argsOf, dhcp] at words
    have ownAddress : trimSpace (recordText tool svc config) = loopback := by
      by_contra other
      exact skipped ⟨notBlank, other⟩
    have ownWords : argsOf config ++ fields svc = [loopback] := by
      rw [← words, ownAddress]
      decide
    rw [setTo.dns, reattempt, ownWords, resulting_of_valid (by simp) valid_loopback]

/-- The `count`-th run after a clean start records the configuration that
`count` readings of the breadcrumb make of the user's. -/
theorem setTo_crashed (networkService : List GoString) {machine : Machine}
    (clean : machine.breadcrumb = none)
    (valid : tool.Valid (machine.dns (serviceName wiFi networkService))) (count : Nat) :
    SetTo tool (serviceName wiFi networkService)
        ((reattempt tool (serviceName wiFi networkService))^[count]
          (machine.dns (serviceName wiFi networkService)))
        (setSystemDNS tool networkService
          ⟨(crashedRun tool networkService)^[count] machine, .fresh⟩).1 ∧
      tool.Valid ((reattempt tool (serviceName wiFi networkService))^[count]
        (machine.dns (serviceName wiFi networkService))) := by
  induction count with
  | zero =>
      refine ⟨?_, valid⟩
      have first := setTo_setSystemDNS tool networkService ⟨machine, .fresh⟩
      simp only [restoreBreadcrumb, clean] at first
      exact first
  | succ count inductionHypothesis =>
      obtain ⟨setTo, validBefore⟩ := inductionHypothesis
      rw [Function.iterate_succ_apply', Function.iterate_succ_apply']
      refine ⟨?_, reattempt_valid _ _⟩
      rw [← restoreBreadcrumb_setTo validBefore setTo]
      exact setTo_setSystemDNS tool networkService
        ⟨crashedRun tool networkService ((crashedRun tool networkService)^[count] machine), .fresh⟩

/-- `RestoreSystemDNS` in the same process brings the recorded servers back. -/
theorem restoreSystemDNS_setTo {svc : GoString} {config : List GoString} {state : State}
    (valid : tool.Valid config) (named : svc ≠ []) (setTo : SetTo tool svc config state) :
    (restoreSystemDNS tool [] state).machine.dns svc = config := by
  have args : restoreArgs state.process.savedDNS = argsOf config := by
    rw [setTo.savedDNS, restoreArgs, argsOf]
    by_cases dhcp : config = []
    · have found := (contains_printed svc valid).mpr dhcp
      simp [dhcp] at found ⊢
      simp [found]
    · have notFound : contains (trimSpace (tool.printed svc config)) arentAny = false := by
        rw [Bool.eq_false_iff]
        exact fun found => dhcp ((contains_printed svc valid).mp found)
      have words := fields_printed svc valid dhcp
      have notBlank : trimSpace (tool.printed svc config) ≠ [] := by
        intro blank
        rw [blank] at words
        exact dhcp words.symm
      rw [if_pos ⟨notBlank, notFound⟩, if_neg dhcp, words]
  simp only [restoreSystemDNS, setTo.savedService, if_neg named, serviceName, args,
    setdnsservers_dns]
  exact resulting_argsOf valid

theorem not_recordsOwn {svc : GoString} {config : List GoString} {state : State}
    (valid : tool.Valid config) (setTo : SetTo tool svc config state)
    (notOwn : config ≠ [loopback]) : ¬ RecordsOwn state := by
  have notLoopback : trimSpace (tool.printed svc config) ≠ loopback := fun own =>
    notOwn ((trimSpace_printed_eq_loopback_iff svc valid).mp own)
  rintro (inMemory | inFile)
  · exact notLoopback (setTo.savedDNS.symm.trans inMemory)
  · rw [setTo.breadcrumb, setTo.savedService, Option.some_inj, recordText, breadcrumbText,
      breadcrumbText, List.append_left_inj] at inFile
    have notFound : contains loopback arentAny = false := by decide
    simp only [notFound, Bool.false_eq_true, if_false] at inFile
    split at inFile
    · exact absurd inFile (by decide)
    · exact notLoopback inFile

/-! ### The crash law -/

/-- A service with a blank name leaves no word among the arguments, so the
breadcrumb reads back as it was written. -/
theorem reattempt_blank {svc : GoString} {config : List GoString} (valid : tool.Valid config)
    (blank : fields svc = []) : reattempt tool svc config = config := by
  rw [reattempt, blank, List.append_nil, resulting_argsOf valid]

/-- The words of a service's name either make the arguments unacceptable, which
keeps gecit's own address, or stay behind as servers. -/
theorem reattempt_grows {svc : GoString} {config : List GoString}
    (named : fields svc ≠ []) : reattempt tool svc config = [loopback] ∨
      (reattempt tool svc config = config ++ fields svc ∧
        config.length < (config ++ fields svc).length) := by
  have positive : 0 < (fields svc).length := List.length_pos_of_ne_nil named
  have long : argsOf config ++ fields svc ≠ [empty] := by
    intro equal
    have lengths := congrArg List.length equal
    by_cases dhcp : config = []
    · simp [argsOf, dhcp] at lengths
      exact named lengths
    · have configPositive := List.length_pos_of_ne_nil dhcp
      simp [argsOf, dhcp] at lengths
      omega
  by_cases accepted : tool.accepts (argsOf config ++ fields svc) = true
  · right
    have allAddresses : (argsOf config ++ fields svc).all tool.isAddress = true := by
      simp only [accepts, long, decide_false, Bool.false_or, Bool.and_eq_true] at accepted
      exact accepted.2
    have servers : config ≠ [] := by
      rintro rfl
      have emptyAddress := List.all_eq_true.mp allAddresses empty (by simp [argsOf])
      rw [empty_not_address] at emptyAddress
      contradiction
    have args : argsOf config = config := if_neg servers
    refine ⟨?_, by rw [List.length_append]; omega⟩
    rw [args] at long accepted
    rw [reattempt, args, resulting, if_neg long, if_pos accepted]
  · left
    rw [reattempt, resulting, if_neg long, if_neg accepted]

theorem iterate_reattempt_ne {svc : GoString} {config : List GoString}
    (notOwn : loopback ∉ config) (named : fields svc ≠ []) (count : Nat) :
    (reattempt tool svc)^[count + 1] config ≠ config := by
  -- What is recorded holds gecit's own address, or is longer than the user's list.
  have spoiled : ∀ steps, loopback ∈ (reattempt tool svc)^[steps + 1] config ∨
      config.length < ((reattempt tool svc)^[steps + 1] config).length := by
    intro steps
    induction steps with
    | zero =>
        rcases @reattempt_grows tool svc config named with own | ⟨grown, longer⟩
        · exact Or.inl (by simp [own])
        · exact Or.inr (by simpa [grown] using longer)
    | succ steps inductionHypothesis =>
        rw [Function.iterate_succ_apply']
        rcases @reattempt_grows tool svc ((reattempt tool svc)^[steps + 1] config) named with
          own | ⟨grown, longer⟩
        · rw [own]
          exact Or.inl (List.mem_singleton_self loopback)
        · rw [grown]
          rcases inductionHypothesis with own | long
          · exact Or.inl (List.mem_append_left _ own)
          · exact Or.inr (long.trans longer)
  intro equal
  rcases spoiled count with own | longer
  · rw [equal] at own
    exact notOwn own
  · rw [equal] at longer
    exact lt_irrefl _ longer

/-- Repeated runs of the macOS engine are crash safe exactly when no run
crashed before the last one, or when the service's name is blank. -/
theorem crashSafe_iff (networkService : List GoString) (machine : Machine) (count : Nat)
    (clean : machine.breadcrumb = none)
    (valid : tool.Valid (machine.dns (serviceName wiFi networkService)))
    (notOwn : loopback ∉ machine.dns (serviceName wiFi networkService)) :
    CrashSafe tool networkService machine count ↔
      count = 0 ∨ fields (serviceName wiFi networkService) = [] := by
  have setTo := setTo_crashed networkService clean valid
  have final : (stoppedRun tool networkService
      ((crashedRun tool networkService)^[count] machine)).dns (serviceName wiFi networkService) =
        (reattempt tool (serviceName wiFi networkService))^[count]
          (machine.dns (serviceName wiFi networkService)) :=
    restoreSystemDNS_setTo (setTo count).2 (serviceName_ne_nil networkService) (setTo count).1
  simp only [CrashSafe, final]
  constructor
  · rintro ⟨restored, -⟩
    by_contra neither
    rw [not_or] at neither
    obtain ⟨steps, rfl⟩ := Nat.exists_eq_succ_of_ne_zero neither.1
    exact iterate_reattempt_ne notOwn neither.2 steps restored
  · intro safe
    have unchanged : ∀ earlier ≤ count,
        (reattempt tool (serviceName wiFi networkService))^[earlier]
          (machine.dns (serviceName wiFi networkService)) =
            machine.dns (serviceName wiFi networkService) := by
      intro earlier le
      rcases safe with rfl | blank
      · rw [Nat.le_zero.mp le]
        rfl
      · exact Function.iterate_fixed (reattempt_blank valid blank) earlier
    refine ⟨unchanged count le_rfl, fun earlier le => ?_⟩
    apply not_recordsOwn (setTo earlier).2 (setTo earlier).1
    rw [unchanged earlier le]
    intro own
    exact notOwn (by simp [own])

/-- The engine's calls name no service; the user runs one server and the first
run crashes. -/
theorem crashSafe_iff_one_crash :
    let machine : Machine := ⟨fun _ => [lit "8.8.8.8"], none⟩
    CrashSafe documented [] machine 1 ↔ 1 = 0 ∨ fields (serviceName wiFi []) = [] :=
  crashSafe_iff [] _ 1 rfl (by unfold Valid; decide) (by decide)

/-- One crash loses a DHCP configuration: the next `SetSystemDNS` passes the
service's name along with the servers, fails, and records gecit's own address. -/
theorem crash_loses_configuration :
    ¬ CrashSafe documented [] ⟨fun _ => [], none⟩ 1 := by
  rintro ⟨restored, -⟩
  have outcome : (stoppedRun documented [] ((crashedRun documented [])^[1]
      ⟨fun _ => [], none⟩)).dns wiFi = [loopback] := by
    decide
  exact absurd (outcome.symm.trans restored) (by decide)

end Gecit.Dns.Darwin
