import Gecit.Go.Strings
import Gecit.Foundation.Takeover

/-!
Contract: the Linux takeover of `/etc/resolv.conf`.

`setSystemDNS` comments the nameserver lines out and puts gecit's own line in
front; `restoreSystemDNS` undoes it. Both rewrite the file line by line, so each
is a `filterMap` over the lines between a `Split` and a `Join`.

Owns the two rewrites, their effect on the trimmed lines of the file, the
refinement of `Takeover` and the crash law of repeated runs.

Does not own the DNS server or the engine around the two calls.
-/

namespace Gecit.Dns.Linux

open Gecit.Go
open Gecit.Foundation

/-! ### The two rewrites -/

def marker : GoString := lit "# gecit: DoH DNS active — original lines commented below"

def loopbackLine : GoString := lit "nameserver 127.0.0.1"

def fallbackLine : GoString := lit "nameserver 8.8.8.8"

def gecitMark : GoString := lit "# gecit"

def savedMark : GoString := lit "# gecit-saved: "

def nameserver : GoString := lit "nameserver"

/-- Loop body of `SetSystemDNS`: the line kept for `line`, if any. -/
def setLine (line : GoString) : Option GoString :=
  let trimmed := trimSpace line
  if trimmed = [] ∨ hasPrefix trimmed gecitMark then none
  else if hasPrefix trimmed nameserver then some (savedMark ++ trimmed)
  else some line

def setLines (orig : GoString) : List GoString :=
  [marker, loopbackLine] ++ (split orig).filterMap setLine

/-- The content `SetSystemDNS` writes for the content `orig` it read. -/
def setContent (orig : GoString) : GoString := join (setLines orig) ++ [newline]

/-- Loop body of `RestoreSystemDNS`. -/
def restoreLine (line : GoString) : Option GoString :=
  let trimmed := trimSpace line
  if hasPrefix trimmed savedMark then some (trimPrefix trimmed savedMark)
  else if hasPrefix trimmed gecitMark then none
  else if trimmed = loopbackLine then none
  else if trimmed ≠ [] then some line
  else none

def restoreLines (data : GoString) : List GoString :=
  let lines := (split data).filterMap restoreLine
  if lines.length = 0 then [fallbackLine] else lines

/-- The content `RestoreSystemDNS` writes for the content `data` it read. -/
def restoreContent (data : GoString) : GoString := join (restoreLines data) ++ [newline]

inductive DNSError where
  | read
deriving DecidableEq, Repr

/-- `SetSystemDNS` on `/etc/resolv.conf`; `none` is a file that cannot be read. -/
def setSystemDNS : Option GoString → Except DNSError GoString
  | none => .error .read
  | some orig => .ok (setContent orig)

def restoreSystemDNS : Option GoString → Except DNSError GoString
  | none => .error .read
  | some data => .ok (restoreContent data)

/-! ### Trimmed lines -/

/-- The lines of a file as both rewrites and the resolver look at them. -/
def trimmedLines (content : GoString) : List GoString := (split content).map trimSpace

/-- The uncommented nameserver lines, trimmed, in order. -/
def nameserverLines (content : GoString) : List GoString :=
  (trimmedLines content).filter (hasPrefix · nameserver)

/-- The text behind a saved mark. -/
def savedText (trimmed : GoString) : Option GoString :=
  if hasPrefix trimmed savedMark then some (trimPrefix trimmed savedMark) else none

/-- The lines recorded for giving back, in order. -/
def savedLines (content : GoString) : List GoString :=
  (trimmedLines content).filterMap savedText

theorem trimmedLines_join {lines : List GoString} (clear : ∀ line ∈ lines, newline ∉ line)
    (nonempty : lines ≠ []) :
    trimmedLines (join lines ++ [newline]) = lines.map trimSpace ++ [[]] := by
  rw [trimmedLines, split_join_newline clear nonempty]
  simp [trimSpace, trimLeft, trimRight, strip, stripFrom]

/-- A nameserver line carries no gecit mark. -/
theorem not_gecit_of_nameserver {line : GoString} (isNameserver : hasPrefix line nameserver) :
    hasPrefix line gecitMark = false := by
  obtain ⟨rest, rfl⟩ := hasPrefix_iff.mp isNameserver
  rfl

theorem not_saved_of_not_gecit (line : GoString) (notGecit : hasPrefix line gecitMark = false) :
    hasPrefix line savedMark = false := by
  rw [Bool.eq_false_iff] at notGecit ⊢
  intro isSaved
  apply notGecit
  rw [hasPrefix_iff] at isSaved ⊢
  exact List.IsPrefix.trans (by decide) isSaved

/-- Commenting a nameserver line out leaves a trimmed line. -/
theorem trimmed_saved {line : GoString} (trimmed : Trimmed line)
    (isNameserver : hasPrefix line nameserver) : Trimmed (savedMark ++ line) := by
  have long : 3 ≤ line.length := by
    have prefixLength := (hasPrefix_iff.mp isNameserver).length_le
    have nameserverLength : nameserver.length = 10 := by decide
    omega
  exact Trimmed.cons_append 35 savedMark.tail (by decide) long trimmed

/-! ### Effect on the trimmed lines -/

/-- `setLine` as it looks after trimming. -/
def setTrimmed (trimmed : GoString) : Option GoString :=
  if trimmed = [] ∨ hasPrefix trimmed gecitMark then none
  else if hasPrefix trimmed nameserver then some (savedMark ++ trimmed)
  else some trimmed

theorem setLine_trimmed (line : GoString) :
    (setLine line).map trimSpace = setTrimmed (trimSpace line) := by
  simp only [setLine, setTrimmed]
  split
  · rfl
  · split
    next isNameserver =>
      simp [trimSpace_eq_self (trimmed_saved (trimmed_trimSpace line) isNameserver)]
    next => rfl

theorem setLines_clear (orig : GoString) : ∀ line ∈ setLines orig, newline ∉ line := by
  intro line member
  simp only [setLines, List.cons_append, List.nil_append, List.mem_cons,
    List.mem_filterMap] at member
  rcases member with rfl | rfl | ⟨raw, rawMember, kept⟩
  · decide
  · decide
  · have rawClear := newline_notMem_of_mem_split rawMember
    simp only [setLine] at kept
    split at kept
    · contradiction
    · split at kept <;> obtain rfl := Option.some.inj kept
      · have markClear : newline ∉ savedMark := by decide
        rw [List.mem_append]
        rintro (inMark | inText)
        · exact markClear inMark
        · exact rawClear (mem_of_mem_trimSpace inText)
      · exact rawClear

theorem trimmedLines_setContent (orig : GoString) :
    trimmedLines (setContent orig) =
      [marker, loopbackLine] ++ (trimmedLines orig).filterMap setTrimmed ++ [[]] := by
  rw [setContent, trimmedLines_join (setLines_clear orig) (by simp [setLines])]
  have trimmedMarker : trimSpace marker = marker := trimSpace_eq_self (by decide)
  have trimmedLoopback : trimSpace loopbackLine = loopbackLine := trimSpace_eq_self (by decide)
  simp only [setLines, List.cons_append, List.nil_append, List.map_cons, trimmedMarker,
    trimmedLoopback, List.map_filterMap, setLine_trimmed, trimmedLines, List.filterMap_map]
  rfl

/-- After `SetSystemDNS` gecit's line is the only uncommented nameserver line. -/
theorem nameserverLines_setContent (orig : GoString) :
    nameserverLines (setContent orig) = [loopbackLine] := by
  have noneLeft : ∀ trimmed kept, setTrimmed trimmed = some kept →
      hasPrefix kept nameserver = false := by
    intro trimmed kept isKept
    simp only [setTrimmed] at isKept
    split at isKept
    · contradiction
    · split at isKept <;> obtain rfl := Option.some.inj isKept
      · rfl
      next notNameserver => simpa using notNameserver
  have cleared : ((trimmedLines orig).filterMap setTrimmed).filter (hasPrefix · nameserver) =
      [] := by
    rw [List.filter_eq_nil_iff]
    intro kept member
    obtain ⟨trimmed, -, isKept⟩ := List.mem_filterMap.mp member
    simp [noneLeft trimmed kept isKept]
  rw [nameserverLines, trimmedLines_setContent, List.filter_append, List.filter_append, cleared]
  decide

/-- After `SetSystemDNS` the recorded lines are the former nameserver lines. -/
theorem savedLines_setContent (orig : GoString) :
    savedLines (setContent orig) = nameserverLines orig := by
  have recorded : ∀ trimmed, (setTrimmed trimmed).bind savedText =
      if hasPrefix trimmed nameserver then some trimmed else none := by
    intro trimmed
    by_cases isNameserver : hasPrefix trimmed nameserver
    · have notGecit := not_gecit_of_nameserver isNameserver
      have nonempty : trimmed ≠ [] := by
        rintro rfl
        exact absurd isNameserver (by decide)
      simp [setTrimmed, nonempty, notGecit, isNameserver, savedText]
    · by_cases dropped : trimmed = [] ∨ hasPrefix trimmed gecitMark
      · simp [setTrimmed, dropped, isNameserver]
      · have notSaved := not_saved_of_not_gecit trimmed (by simp_all)
        simp [setTrimmed, dropped, isNameserver, savedText, notSaved]
  rw [savedLines, trimmedLines_setContent, List.filterMap_append, List.filterMap_append,
    List.filterMap_filterMap, nameserverLines, ← List.filterMap_eq_filter]
  have ownLines : [marker, loopbackLine].filterMap savedText = [] := by decide
  have lastLine : [([] : GoString)].filterMap savedText = [] := by decide
  rw [ownLines, lastLine, List.nil_append, List.append_nil]
  refine List.filterMap_congr fun trimmed _ => ?_
  rw [recorded]
  rfl

/-! ### Refinement of the abstract takeover -/

/-- The file seen as a taken-over setting: the nameservers in force and the
recorded ones. -/
def takeover (content : GoString) : Takeover (List GoString) where
  live := nameserverLines content
  saved := savedLines content

theorem takeover_setContent (orig : GoString) :
    takeover (setContent orig) = (takeover orig).take [loopbackLine] := by
  rw [takeover, nameserverLines_setContent, savedLines_setContent]
  rfl

theorem takeover_iterate_setContent (orig : GoString) (count : Nat) :
    takeover (setContent^[count] orig) = (Takeover.take [loopbackLine])^[count] (takeover orig) :=
  Function.Semiconj.iterate_right takeover_setContent count orig

/-! ### Giving back -/

/-- What one cycle keeps of a line: blank and gecit lines go, a nameserver line
loses the white space around it, any other line stays as it is. -/
def userLine (line : GoString) : Option GoString :=
  let trimmed := trimSpace line
  if trimmed = [] ∨ hasPrefix trimmed gecitMark then none
  else if hasPrefix trimmed nameserver then some trimmed
  else some line

def userLines (content : GoString) : List GoString := (split content).filterMap userLine

theorem restoreLine_setLine (line : GoString) :
    (setLine line).bind restoreLine = userLine line := by
  by_cases dropped : trimSpace line = [] ∨ hasPrefix (trimSpace line) gecitMark
  · simp [setLine, userLine, dropped]
  · by_cases isNameserver : hasPrefix (trimSpace line) nameserver
    · have keptTrimmed := trimSpace_eq_self (trimmed_saved (trimmed_trimSpace line) isNameserver)
      simp [setLine, userLine, dropped, isNameserver, restoreLine, keptTrimmed]
    · have notSaved := not_saved_of_not_gecit (trimSpace line) (by simp_all)
      have notOwn : trimSpace line ≠ loopbackLine := by
        intro equal
        apply isNameserver
        rw [equal]
        decide
      simp only [not_or] at dropped
      simp [setLine, userLine, dropped, isNameserver, restoreLine, notSaved, notOwn]

theorem userLine_clear {content line : GoString} (member : line ∈ userLines content) :
    newline ∉ line := by
  obtain ⟨raw, rawMember, kept⟩ := List.mem_filterMap.mp member
  have rawClear := newline_notMem_of_mem_split rawMember
  simp only [userLine] at kept
  split at kept
  · contradiction
  · split at kept <;> obtain rfl := Option.some.inj kept
    · exact fun inText => rawClear (mem_of_mem_trimSpace inText)
    · exact rawClear

/-- `RestoreSystemDNS` after `SetSystemDNS` brings the user's lines back. -/
theorem restoreLines_setContent {orig : GoString} (present : userLines orig ≠ []) :
    restoreLines (setContent orig) = userLines orig := by
  have kept : (split (setContent orig)).filterMap restoreLine = userLines orig := by
    rw [setContent, split_join_newline (setLines_clear orig) (by simp [setLines]), setLines,
      List.filterMap_append, List.filterMap_append, List.filterMap_filterMap]
    have ownLines : [marker, loopbackLine].filterMap restoreLine = [] := by decide
    have lastLine : [([] : GoString)].filterMap restoreLine = [] := by decide
    rw [ownLines, lastLine, List.nil_append, List.append_nil]
    exact List.filterMap_congr fun line _ => restoreLine_setLine line
  simp [restoreLines, kept, present]

theorem filter_userLines (content : GoString) :
    ((userLines content).map trimSpace).filter (hasPrefix · nameserver) =
      nameserverLines content := by
  have lineEffect : ∀ line, ((userLine line).map trimSpace).filter (hasPrefix · nameserver) =
      (some (trimSpace line)).filter (hasPrefix · nameserver) := by
    intro line
    by_cases isNameserver : hasPrefix (trimSpace line) nameserver
    · have notGecit := not_gecit_of_nameserver isNameserver
      have nonempty : trimSpace line ≠ [] := by
        intro empty
        rw [empty] at isNameserver
        exact absurd isNameserver (by decide)
      simp [userLine, nonempty, notGecit, isNameserver]
    · by_cases dropped : trimSpace line = [] ∨ hasPrefix (trimSpace line) gecitMark
      · simp [userLine, dropped, isNameserver, Option.filter]
      · simp [userLine, dropped, isNameserver]
  rw [userLines, nameserverLines, trimmedLines, List.map_filterMap,
    List.filter_filterMap]
  rw [← List.filterMap_eq_filter, List.filterMap_map]
  refine List.filterMap_congr fun line _ => ?_
  rw [lineEffect]
  simp [Option.filter, Option.guard]

theorem nameserverLines_restore_set {orig : GoString} (present : nameserverLines orig ≠ []) :
    nameserverLines (restoreContent (setContent orig)) = nameserverLines orig := by
  have somePresent : userLines orig ≠ [] := by
    intro none
    apply present
    rw [← filter_userLines, none]
    rfl
  have lastLine : [([] : GoString)].filter (hasPrefix · nameserver) = [] := by decide
  rw [restoreContent, restoreLines_setContent somePresent, nameserverLines,
    trimmedLines_join (fun _ member => userLine_clear member) somePresent, List.filter_append,
    lastLine, List.append_nil, filter_userLines]

/-! ### Runs of the engine -/

/-- A run that took the file over: it crashed, or stopped through
`RestoreSystemDNS`. -/
inductive Run where
  | crashed
  | stopped
deriving DecidableEq, Repr

/-- The file behind one of the two calls; a failed call leaves it unchanged. -/
def fileAfter (call : Option GoString → Except DNSError GoString)
    (file : Option GoString) : Option GoString :=
  match call file with
  | .ok content => some content
  | .error _ => file

def Run.exec : Run → Option GoString → Option GoString
  | .crashed, file => fileAfter setSystemDNS file
  | .stopped, file => fileAfter restoreSystemDNS (fileAfter setSystemDNS file)

/-- The file after a sequence of runs. -/
def execRuns (runs : List Run) (file : Option GoString) : Option GoString :=
  runs.foldl (fun current run => run.exec current) file

theorem execRuns_crashed (count : Nat) (content : GoString) :
    execRuns (List.replicate count .crashed) (some content) =
      some (setContent^[count] content) := by
  induction count generalizing content with
  | zero => rfl
  | succ count inductionHypothesis =>
      rw [List.replicate_succ, Function.iterate_succ_apply]
      exact inductionHypothesis (setContent content)

/-- Repeated runs on an unrestored file: the last one gives the user's
nameservers back exactly when no run crashed before it, or when gecit's own
line was all there was to lose. -/
theorem nameservers_survive_crashes_iff (content : GoString) (count : Nat)
    (present : nameserverLines content ≠ []) :
    ((execRuns (List.replicate count .crashed ++ [.stopped]) (some content)).map
        nameserverLines = some (nameserverLines content)) ↔
      count = 0 ∨ nameserverLines content = [loopbackLine] := by
  have crashed := takeover_iterate_setContent content count
  have crashedLines : nameserverLines (setContent^[count] content) =
      ((Takeover.take [loopbackLine])^[count] (takeover content)).live :=
    congrArg Takeover.live crashed
  have stillPresent : nameserverLines (setContent^[count] content) ≠ [] := by
    rw [crashedLines, Takeover.iterate_take_live]
    split
    · exact present
    · simp
  have finalFile : execRuns (List.replicate count .crashed ++ [.stopped]) (some content) =
      some (restoreContent (setContent (setContent^[count] content))) := by
    rw [execRuns, List.foldl_append]
    exact congrArg Run.stopped.exec (execRuns_crashed count content)
  have abstractRun := Takeover.release_take_iterate_iff [loopbackLine] (takeover content) count
  rw [finalFile, Option.map_some, nameserverLines_restore_set stillPresent, Option.some_inj,
    crashedLines]
  exact abstractRun

/-- The user runs one server; the first run crashes. -/
theorem nameservers_survive_crashes_iff_one_server :
    nameserverLines (lit "nameserver 8.8.8.8\n") ≠ [] ∧
      (((execRuns (List.replicate 1 .crashed ++ [.stopped])
          (some (lit "nameserver 8.8.8.8\n"))).map nameserverLines =
            some (nameserverLines (lit "nameserver 8.8.8.8\n"))) ↔
        1 = 0 ∨ nameserverLines (lit "nameserver 8.8.8.8\n") = [loopbackLine]) :=
  ⟨by decide, nameservers_survive_crashes_iff (lit "nameserver 8.8.8.8\n") 1 (by decide)⟩

/-- One crash loses the user's server: the second `SetSystemDNS` drops the saved
line and records gecit's own in its place. -/
theorem crash_loses_nameserver :
    ¬ ∀ (content : GoString) (count : Nat), nameserverLines content ≠ [] →
      (∀ line ∈ trimmedLines content, hasPrefix line gecitMark = false) →
      (execRuns (List.replicate count .crashed ++ [.stopped]) (some content)).map
        nameserverLines = some (nameserverLines content) := by
  intro safe
  have run := safe (lit "nameserver 8.8.8.8\n") 1 (by decide) (by decide)
  have outcome : (execRuns (List.replicate 1 .crashed ++ [.stopped])
      (some (lit "nameserver 8.8.8.8\n"))).map nameserverLines = some [loopbackLine] := by
    decide +kernel
  rw [outcome] at run
  exact absurd run (by decide +kernel)

/-! ### One cycle -/

/-- Neither blank nor, once trimmed, a gecit line. -/
def isUserLine (line : GoString) : Bool :=
  trimSpace line ≠ [] && !hasPrefix (trimSpace line) gecitMark

/-- Not blank, and not starting with a gecit mark as it stands in the file. -/
def isUnmarkedLine (line : GoString) : Bool := trimSpace line ≠ [] && !hasPrefix line gecitMark

def isNameserverLine (line : GoString) : Bool := hasPrefix (trimSpace line) nameserver

/-- A nameserver line without the white space around it, any other line as it is. -/
def normalLine (line : GoString) : GoString := if isNameserverLine line then trimSpace line else line

/-- `SetSystemDNS` leaves gecit's own nameserver line alone, and `RestoreSystemDNS` behind it
writes the lines that `kept` selects. -/
def CycleKeeps (kept : GoString → Bool) (orig : GoString) : Prop :=
  ∃ written, setSystemDNS (some orig) = .ok written ∧
    (split written).filter isNameserverLine = [loopbackLine] ∧
      restoreSystemDNS (some written) =
        .ok (join (((split orig).filter kept).map normalLine) ++ [newline])

theorem userLine_eq (line : GoString) :
    userLine line = if isUserLine line then some (normalLine line) else none := by
  unfold userLine isUserLine normalLine isNameserverLine
  by_cases blank : trimSpace line = []
  · simp [blank]
  · by_cases marked : hasPrefix (trimSpace line) gecitMark
    · simp [marked]
    · by_cases isNameserver : hasPrefix (trimSpace line) nameserver <;>
        simp [blank, marked, isNameserver]

theorem userLines_eq (content : GoString) :
    userLines content = ((split content).filter isUserLine).map normalLine := by
  rw [userLines, ← List.filterMap_eq_map, ← List.filterMap_eq_filter, List.filterMap_filterMap]
  refine List.filterMap_congr fun line _ => ?_
  rw [userLine_eq, Option.guard]
  split <;> rfl

/-- What is commented out or kept starts with no nameserver. -/
theorem setLine_not_nameserver {line kept : GoString} (isKept : setLine line = some kept) :
    isNameserverLine kept = false := by
  simp only [setLine] at isKept
  split at isKept
  · contradiction
  · split at isKept <;> obtain rfl := Option.some.inj isKept
    next isNameserver =>
      rw [isNameserverLine, trimSpace_eq_self (trimmed_saved (trimmed_trimSpace line) isNameserver)]
      rfl
    next notNameserver => simpa [isNameserverLine] using notNameserver

theorem filter_isNameserverLine_setContent (orig : GoString) :
    (split (setContent orig)).filter isNameserverLine = [loopbackLine] := by
  have cleared : ((split orig).filterMap setLine).filter isNameserverLine = [] := by
    rw [List.filter_eq_nil_iff]
    intro kept member
    obtain ⟨line, -, isKept⟩ := List.mem_filterMap.mp member
    rw [setLine_not_nameserver isKept]
    decide
  rw [setContent, split_join_newline (setLines_clear orig) (by simp [setLines]), setLines,
    List.filter_append, List.filter_append, cleared]
  decide

/-- A cycle of `SetSystemDNS` and `RestoreSystemDNS` gives the user's lines back, whatever they
contain. -/
theorem set_restore_cycle (orig : GoString) (present : ∃ line ∈ split orig, isUserLine line) :
    CycleKeeps isUserLine orig := by
  refine ⟨setContent orig, rfl, filter_isNameserverLine_setContent orig, ?_⟩
  have somePresent : userLines orig ≠ [] := by
    obtain ⟨line, member, kept⟩ := present
    rw [userLines_eq]
    intro none
    have inLines := List.mem_filter.mpr ⟨member, kept⟩
    rw [List.map_eq_nil_iff.mp none] at inLines
    contradiction
  rw [restoreSystemDNS, restoreContent, restoreLines_setContent somePresent, userLines_eq]

/-- The user commented gecit's own server line out. -/
theorem set_restore_cycle_commented :
    CycleKeeps isUserLine (lit "#nameserver 127.0.0.1\n  nameserver 127.0.0.1\n") :=
  set_restore_cycle _ ⟨lit "#nameserver 127.0.0.1", by decide, by decide⟩

/-- An indented line with the mark does not start with it, and is dropped all the same. -/
theorem indented_mark_dropped :
    ¬ ∀ orig, (∃ line ∈ split orig, isUnmarkedLine line) → CycleKeeps isUnmarkedLine orig := by
  intro keeps
  obtain ⟨written, set, -, restored⟩ := keeps (lit " # gecit\n") ⟨lit " # gecit", by decide, by decide⟩
  obtain rfl := Except.ok.inj set
  have outcome : restoreSystemDNS (some (setContent (lit " # gecit\n"))) =
      .ok (fallbackLine ++ [newline]) := by
    decide +kernel
  rw [outcome] at restored
  exact absurd (Except.ok.inj restored) (by decide +kernel)

end Gecit.Dns.Linux
