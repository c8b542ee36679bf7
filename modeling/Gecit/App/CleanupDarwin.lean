import Gecit.Dns.SystemDarwin

/-!
Contract: the macOS `cleanup` command and the breadcrumb it reads.

`platformCleanup` lives in another package than the writer of the breadcrumb. It
takes the first line for the servers and the second for the service, while the
writer puts one server on each line and the service on the last one.

Owns the reader, the command it issues and the exact lists on which reader and
writer agree. Does not own the writer.
-/

namespace Gecit.App.Darwin

open Gecit.Go
open Gecit.Dns Networksetup
open Gecit.Dns.Darwin

/-- The service and the arguments of the `-setdnsservers` command issued for the
breadcrumb `data`. -/
def cleanupCommand (data : GoString) : GoString × List GoString :=
  let lines := splitN 3 data
  let second := trimSpace (lines.getD 1 [])
  let svc := if lines.length ≥ 2 ∧ second ≠ [] then second else wiFi
  let prev := trimSpace (lines.getD 0 [])
  if prev = [] ∨ prev = empty ∨ contains prev arentAny then (svc, [empty])
  else (svc, fields prev)

variable (tool : Networksetup)

def runCleanupCommand (machine : Machine) (data : GoString) : Machine :=
  tool.setdnsservers machine (cleanupCommand data).1 (cleanupCommand data).2

/-- The machine after cleanup, and whether anything was cleaned. -/
def platformCleanup (machine : Machine) : Machine × Bool :=
  let (restored, cleaned) := match machine.breadcrumb with
    | none => (machine, false)
    | some data => ({ runCleanupCommand tool machine data with breadcrumb := none }, true)
  if trimSpace (tool.getdnsservers restored wiFi) = loopback then
    (tool.setdnsservers restored wiFi [empty], true)
  else (restored, cleaned)

/-- Cleanup after a crash behind `SetSystemDNS` names the service and the
configuration `SetSystemDNS` found, and puts that configuration in force. -/
def CleanupRestores (svc : GoString) (config : List GoString) (crashed : Machine) : Prop :=
  ∃ data, crashed.breadcrumb = some data ∧ cleanupCommand data = (svc, argsOf config) ∧
    (runCleanupCommand tool crashed data).dns svc = config

variable {tool}

/-- The breadcrumb of at most one server is read back as written. -/
theorem cleanupCommand_short {svc : GoString} {config : List GoString}
    (oneLine : newline ∉ svc) (nonblank : svc ≠ []) (trimmed : trimSpace svc = svc)
    (valid : tool.Valid config) (short : config.length ≤ 1) :
    cleanupCommand (recordText tool svc config) = (svc, argsOf config) := by
  have lines : ∀ first, newline ∉ first →
      splitN 3 (first ++ newline :: (svc ++ [newline])) = [first, svc, []] := by
    intro first clear
    rw [splitN_line clear 1, splitN_line oneLine 0, splitN]
  have found := @contains_printed tool svc config valid
  rw [recordText, breadcrumbText]
  cases config with
  | nil =>
      rw [if_pos (found.mpr rfl), cleanupCommand, lines empty (by decide)]
      have emptyTrimmed : trimSpace empty = empty := by decide
      simp [nonblank, trimmed, emptyTrimmed, argsOf]
  | cons server rest =>
      obtain rfl : rest = [] := by simpa using short
      obtain ⟨serverNonempty, serverSpaceFree⟩ := address_word (valid server (by simp))
      have saved : trimSpace (tool.printed svc [server]) = server := by
        have printedLines := trimSpace_lines (List.cons_ne_nil server [])
          (fun word member => address_word (valid word member))
        simpa [printed, join, List.intercalate] using printedLines
      have notSentence : contains server arentAny = false := by
        rw [Bool.eq_false_iff]
        intro inServer
        rw [saved] at found
        exact absurd (found.mp inServer) (by simp)
      have notEmptyWord : server ≠ empty := by
        rintro rfl
        exact absurd (valid empty (by simp)) (by simp [empty_not_address])
      have clear : newline ∉ server := fun member =>
        serverSpaceFree newline member [newline] newline_code rfl
      have word := fields_word serverNonempty serverSpaceFree
      rw [saved, if_neg (by simp [notSentence]), cleanupCommand, lines server clear]
      simp [nonblank, trimmed, trimSpace_eq_self serverSpaceFree.trimmed, serverNonempty,
        notEmptyWord, notSentence, word, argsOf]

/-- From two servers on, the reader sees only the first of them. -/
theorem cleanupCommand_long {svc : GoString} {config : List GoString}
    (valid : tool.Valid config) (long : 2 ≤ config.length) :
    (cleanupCommand (recordText tool svc config)).2.length ≤ 1 := by
  match config, long with
  | server :: next :: rest, _ =>
      obtain ⟨serverNonempty, serverSpaceFree⟩ := address_word (valid server (by simp))
      have servers : server :: next :: rest ≠ [] := by simp
      have saved : trimSpace (tool.printed svc (server :: next :: rest)) =
          server ++ newline :: join (next :: rest) := by
        rw [printed, if_neg servers, trimSpace_lines servers
          (fun word member => address_word (valid word member)), join_cons (by simp)]
      have notSentence : ¬ contains (trimSpace (tool.printed svc (server :: next :: rest)))
          arentAny = true := fun found => servers ((contains_printed svc valid).mp found)
      have clear : newline ∉ server := fun member =>
        serverSpaceFree newline member [newline] newline_code rfl
      rw [recordText, breadcrumbText, if_neg notSentence, saved, List.append_assoc,
        List.cons_append, cleanupCommand, splitN_line clear 1]
      simp only [List.getD_cons_zero, trimSpace_eq_self serverSpaceFree.trimmed,
        fields_word serverNonempty serverSpaceFree]
      split <;> simp

/-- The breadcrumb written by `SetSystemDNS` and read by `platformCleanup` after
a crash restores the service exactly when it had at most one server. -/
theorem cleanup_restores_iff {svc : GoString} {config : List GoString} {state : State}
    (oneLine : newline ∉ svc) (nonblank : svc ≠ []) (trimmed : trimSpace svc = svc)
    (found : (restoreBreadcrumb tool state.machine svc).dns svc = config)
    (valid : tool.Valid config) :
    CleanupRestores tool svc config (setSystemDNS tool [svc] state).1.machine ↔
      config.length ≤ 1 := by
  have named : serviceName wiFi [svc] = svc := by simp [serviceName, nonblank]
  have setTo := setTo_setSystemDNS tool [svc] state
  rw [named, found] at setTo
  constructor
  · rintro ⟨data, isData, command, -⟩
    rw [setTo.breadcrumb, Option.some_inj] at isData
    subst isData
    by_contra long
    have short := @cleanupCommand_long tool svc config valid (by omega)
    have servers : config ≠ [] := by
      rintro rfl
      simp at long
    rw [command, argsOf, if_neg servers] at short
    exact long short
  · intro short
    have command := cleanupCommand_short oneLine nonblank trimmed valid short
    refine ⟨_, setTo.breadcrumb, command, ?_⟩
    rw [runCleanupCommand, command, setdnsservers_dns]
    exact resulting_argsOf valid

/-- Unless the saved configuration was 127.0.0.1 itself, which the last step
takes for a leftover, the whole cleanup leaves the restored service alone. -/
theorem platformCleanup_dns {svc : GoString} {config : List GoString} {crashed : Machine}
    (valid : tool.Valid config) (notOwn : config ≠ [loopback])
    (restores : CleanupRestores tool svc config crashed) :
    (platformCleanup tool crashed).1.dns svc = config := by
  obtain ⟨data, isData, -, restored⟩ := restores
  simp only [platformCleanup, isData]
  split
  next leftover =>
    by_cases isWiFi : svc = wiFi
    · subst isWiFi
      change trimSpace (tool.printed wiFi ((runCleanupCommand tool crashed data).dns wiFi)) =
        loopback at leftover
      rw [restored, trimSpace_printed_eq_loopback_iff wiFi valid] at leftover
      exact absurd leftover notOwn
    · rw [setdnsservers_other tool _ _ isWiFi]
      exact restored
  next => exact restored

/-- A service with one server. -/
theorem cleanup_restores_iff_one_server :
    CleanupRestores documented wiFi [lit "8.8.8.8"]
        (setSystemDNS documented [wiFi] ⟨⟨fun _ => [lit "8.8.8.8"], none⟩, .fresh⟩).1.machine ↔
      [lit "8.8.8.8"].length ≤ 1 :=
  cleanup_restores_iff (by decide) (by decide) (by decide) rfl (by unfold Valid; decide)

/-- Of two servers cleanup takes the second for the service. -/
theorem cleanup_misreads_two_servers :
    ¬ CleanupRestores documented wiFi [lit "8.8.8.8", lit "8.8.4.4"]
      (setSystemDNS documented [wiFi]
        ⟨⟨fun _ => [lit "8.8.8.8", lit "8.8.4.4"], none⟩, .fresh⟩).1.machine := by
  rintro ⟨data, isData, command, -⟩
  have written : (setSystemDNS documented [wiFi]
      ⟨⟨fun _ => [lit "8.8.8.8", lit "8.8.4.4"], none⟩, .fresh⟩).1.machine.breadcrumb =
        some (lit "8.8.8.8\n8.8.4.4\nWi-Fi\n") := by
    decide
  rw [written, Option.some_inj] at isData
  subst isData
  exact absurd command (by decide)

end Gecit.App.Darwin
