import Gecit.Foundation.Json
import Gecit.Macos.HelperLife
import Gecit.Macos.RuntimeStore

/-!
Contract: `status.json` between the helper that writes it and the app that reads it.

`write_status` empties the file and writes a here-document in which nothing is escaped. The app
reads at any time and decodes what it finds, or else shows the empty status; it may find the
beginning of a status.

Owns the here-document, the decoder, and that of the beginnings of a status only the complete one
is shown. Does not own which statuses are due.
-/

namespace Gecit.Macos

open Gecit.Foundation
open Gecit.Go
open Gecit.Net
open Gecit.Shell
open HelperScript

/-! ### The two sides -/

/-- `$state` -/
def RuntimeState.name : RuntimeState → Bytes
  | .stopped => lit "stopped"
  | .starting => lit "starting"
  | .running => lit "running"
  | .stopping => lit "stopping"
  | .error => lit "error"

/-- The here-document of `write_status`. -/
def statusText (announcement : Announcement) (date : Bytes) : Bytes :=
  lit "\x7b\"state\":\"" ++ announcement.state.name ++ lit "\",\"pid\":" ++ announcement.pid ++
    lit ",\"message\":\"" ++ announcement.message ++ lit "\",\"updatedAt\":\"" ++ date ++
      lit "\"\x7d\n"

def GecitRuntimeState.all : List GecitRuntimeState :=
  [.onboarding, .stopped, .starting, .running, .stopping, .error]

/-- `GecitRuntimeState(rawValue:)` -/
def GecitRuntimeState.ofRawValue (raw : Text) : Option GecitRuntimeState :=
  GecitRuntimeState.all.find? fun state => state.rawValue == raw

/-- `decode(String.self, forKey:)` -/
def decodeString (members : List (Bytes × Json.Value)) (key : Bytes) : Option Text :=
  match members.lookup key with
  | some (.string text) => some text
  | _ => none

/-- `decodeIfPresent(Int.self, forKey:)` -/
def decodeIntIfPresent (members : List (Bytes × Json.Value)) (key : Bytes) : Option (Option Int) :=
  match members.lookup key with
  | none | some .null => some none
  | some (.number text) =>
      match Json.integral text with
      | none => none
      | some value => if - 2 ^ 63 ≤ value ∧ value < 2 ^ 63 then some (some value) else none
  | _ => none

/-- `JSONDecoder().decode(GecitStatus.self, from: data)` -/
def decodeStatus (data : Bytes) : Option GecitStatus :=
  match Json.read data with
  | some (.object members) => do
      let raw ← decodeString members (lit "state")
      let state ← GecitRuntimeState.ofRawValue raw
      let pid ← decodeIntIfPresent members (lit "pid")
      let message ← decodeString members (lit "message")
      let updatedAt ← decodeString members (lit "updatedAt")
      pure ⟨state, pid, message, updatedAt⟩
  | _ => none

/-! ### What is published -/

def RuntimeState.shown : RuntimeState → GecitRuntimeState
  | .stopped => .stopped
  | .starting => .starting
  | .running => .running
  | .stopping => .stopping
  | .error => .error

/-- The status that the announcement is meant to show. -/
def Announcement.status (announcement : Announcement) (date : Bytes) : GecitStatus where
  state := announcement.state.shown
  pid := if announcement.pid = lit "null" then none else some (decimal announcement.pid)
  message := announcement.message
  updatedAt := date

/-- A pid as `$!` expands to it. -/
def IsPid (pid : Bytes) : Prop := Canonical pid ∧ decimal pid < 2 ^ 63

/-- `date -u +%FT%TZ` -/
def IsTimestamp (date : Bytes) : Prop := ∀ b ∈ date, isDigit b = true ∨ b ∈ lit "-:TZ"

/-- Text that stands for itself between the quotes. -/
def isPlainText (text : Bytes) : Bool := text.all Json.isPlain && Json.isUtf8 text

structure Readable (announcement : Announcement) : Prop where
  pid : announcement.pid = lit "null" ∨ IsPid announcement.pid
  message : isPlainText announcement.message = true

/-- What the app shows while the file is written: the empty status, until at most the newline is
missing. -/
def ReadWhole (announcement : Announcement) (date : Bytes) : Prop :=
  ∀ part, part <+: statusText announcement date →
    readStatus decodeStatus (some part) =
      if part.length + 1 < (statusText announcement date).length then .empty
      else announcement.status date

variable {announcement : Announcement} {date : Bytes}

/-! ### Reading a status -/

/-- The value of the pid field. -/
def pidValue (pid : Bytes) : Json.Value := if pid = lit "null" then .null else .number pid

/-- The members in the order of the here-document. -/
def statusMembers (announcement : Announcement) (date : Bytes) : List (Bytes × Json.Value) :=
  [(lit "state", .string announcement.state.name), (lit "pid", pidValue announcement.pid),
    (lit "message", .string announcement.message), (lit "updatedAt", .string date)]

/-- The here-document without its newline, cut behind each value. -/
theorem statusText_eq (announcement : Announcement) (date : Bytes) : statusText announcement date =
    lit "\x7b\"state\":\"" ++ ((announcement.state.name ++ [Json.quote]) ++ (lit ",\"pid\":" ++
      ((announcement.pid ++ lit ",\"message\":\"") ++ ((announcement.message ++ [Json.quote]) ++
        (lit ",\"updatedAt\":\"" ++ ((date ++ [Json.quote]) ++ lit "\x7d")))))) ++ [newline] := by
  have quoted : lit "\",\"pid\":" = [Json.quote] ++ lit ",\"pid\":" := rfl
  have dated : lit "\",\"updatedAt\":\"" = [Json.quote] ++ lit ",\"updatedAt\":\"" := rfl
  have closed : lit "\"\x7d\n" = [Json.quote] ++ (lit "\x7d" ++ [newline]) := rfl
  rw [statusText, quoted, dated, closed]
  simp only [List.append_assoc]

theorem plain_name (state : RuntimeState) : isPlainText state.name = true := by
  cases state <;> decide

theorem plain_timestamp (isTimestamp : IsTimestamp date) : isPlainText date = true := by
  have each : ∀ b ∈ date, Json.isPlain b = true ∧ b < 0x80 := by
    intro b member
    rcases isTimestamp b member with digit | mark
    · have bounds := isDigit_iff.mp digit
      have notQuote : b ≠ Json.quote := by
        rintro rfl
        exact absurd digit (by decide)
      have notSolidus : b ≠ Json.reverseSolidus := by
        rintro rfl
        exact absurd digit (by decide)
      have large : (32 : UInt8) ≤ b := UInt8.le_iff_toNat_le.mpr (by
        rw [show (32 : UInt8).toNat = 32 from rfl]
        omega)
      refine ⟨?_, UInt8.lt_iff_toNat_lt.mpr (by
        rw [show (0x80 : UInt8).toNat = 128 from rfl]
        omega)⟩
      rw [Json.isPlain, bne_iff_ne.mpr notQuote, bne_iff_ne.mpr notSolidus, decide_eq_true large]
      rfl
    · have marks : ∀ other ∈ lit "-:TZ", Json.isPlain other = true ∧ other < 0x80 := by
        decide +kernel
      exact marks b mark
  rw [isPlainText, Json.isUtf8_of_ascii fun b member => (each b member).2, Bool.and_true,
    List.all_eq_true]
  exact fun b member => (each b member).1

/-- A quoted text is read as itself. -/
theorem run_quoted {text : Bytes} (plain : isPlainText text = true) (stack : List Json.Frame) :
    run Json.step ⟨stack, .text .empty⟩ (text ++ [Json.quote]) =
      some ⟨stack, .behind (.string text)⟩ := by
  obtain ⟨each, utf8⟩ := Bool.and_eq_true_iff.mp plain
  exact Json.run_string (List.all_eq_true.mp each) utf8 stack

theorem isPid_cons {pid : Bytes} (isPid : IsPid pid) : ∃ first digits, pid = first :: digits ∧
    first ≠ 48 ∧ ∀ b ∈ first :: digits, Json.isDigit b = true := by
  obtain ⟨⟨nonempty, digits, noLeadingZero⟩, _⟩ := isPid
  cases pid with
  | nil => contradiction
  | cons first rest =>
      refine ⟨first, rest, rfl, ?_, digits⟩
      rintro rfl
      exact noLeadingZero rfl

theorem isPid_ne_null {pid : Bytes} (isPid : IsPid pid) : pid ≠ lit "null" := by
  rintro rfl
  exact absurd (isPid.1.digits (byteOf 'n') (by decide)) (by decide)

/-- The pid, up to the text of the message. -/
theorem run_pid {pid : Bytes} (readable : pid = lit "null" ∨ IsPid pid)
    (members : List (Bytes × Json.Value)) :
    run Json.step ⟨[.object members (lit "pid")], .value⟩ (pid ++ lit ",\"message\":\"") =
      some ⟨[.object (members ++ [(lit "pid", pidValue pid)]) (lit "message")], .text .empty⟩ := by
  rw [run_append]
  rcases readable with rfl | isPid
  · rfl
  · obtain ⟨first, digits, rfl, nonzero, each⟩ := isPid_cons isPid
    rw [Json.run_decimal nonzero each, Option.bind_some, pidValue, if_neg (isPid_ne_null isPid)]
    rfl

/-- The here-document without its newline is an object with four members. -/
theorem read_body (readable : Readable announcement) (isTimestamp : IsTimestamp date) :
    ∃ body, statusText announcement date = body ++ [newline] ∧
      body.getLast? = some (byteOf '}') ∧
      Json.read body = some (.object (statusMembers announcement date)) := by
  refine ⟨_, statusText_eq announcement date, ?_, ?_⟩
  · simp only [List.getLast?_append]
    rfl
  · have opened : run Json.step Json.start (lit "\x7b\"state\":\"") =
        some ⟨[.object [] (lit "state")], .text .empty⟩ := rfl
    have toPid : ∀ value, run Json.step ⟨[.object [] (lit "state")], .behind value⟩
        (lit ",\"pid\":") = some ⟨[.object [(lit "state", value)] (lit "pid")], .value⟩ :=
      fun _ => rfl
    have toDate : ∀ members value,
        run Json.step ⟨[.object members (lit "message")], .behind value⟩ (lit ",\"updatedAt\":\"") =
          some ⟨[.object (members ++ [(lit "message", value)]) (lit "updatedAt")], .text .empty⟩ :=
      fun _ _ => rfl
    have closed : ∀ members value,
        run Json.step ⟨[.object members (lit "updatedAt")], .behind value⟩ (lit "\x7d") =
          some ⟨[], .behind (.object (members ++ [(lit "updatedAt", value)]))⟩ := fun _ _ => rfl
    rw [Json.read, run_append, opened, Option.bind_some, run_append,
      run_quoted (plain_name _), Option.bind_some, run_append, toPid, Option.bind_some, run_append,
      run_pid readable.pid, Option.bind_some, run_append, run_quoted readable.message,
      Option.bind_some, run_append, toDate, Option.bind_some, run_append,
      run_quoted (plain_timestamp isTimestamp), Option.bind_some, closed]
    rfl

theorem ofRawValue_name (state : RuntimeState) :
    GecitRuntimeState.ofRawValue state.name = some state.shown := by
  cases state <;> decide

theorem decodeInt_pid (readable : announcement.pid = lit "null" ∨ IsPid announcement.pid) :
    decodeIntIfPresent (statusMembers announcement date) (lit "pid") =
      some (announcement.status date).pid := by
  have found : (statusMembers announcement date).lookup (lit "pid") =
      some (pidValue announcement.pid) := rfl
  rw [decodeIntIfPresent, found, Announcement.status, pidValue]
  rcases readable with isNull | isPid
  · rw [isNull]
    rfl
  · obtain ⟨first, digits, same, _, each⟩ := isPid_cons isPid
    have value : Json.integral announcement.pid = some (decimal announcement.pid : Int) := by
      rw [same]
      exact Json.integral_digits each
    have small := isPid.2
    rw [if_neg (isPid_ne_null isPid), if_neg (isPid_ne_null isPid)]
    dsimp only
    rw [value]
    dsimp only
    rw [if_pos (by omega)]

/-- What was announced is what is decoded. -/
theorem decode_members (readable : Readable announcement) {data : Bytes}
    (isRead : Json.read data = some (.object (statusMembers announcement date))) :
    decodeStatus data = some (announcement.status date) := by
  have state : decodeString (statusMembers announcement date) (lit "state") =
      some announcement.state.name := rfl
  have message : decodeString (statusMembers announcement date) (lit "message") =
      some announcement.message := rfl
  have updatedAt : decodeString (statusMembers announcement date) (lit "updatedAt") =
      some date := rfl
  rw [decodeStatus, isRead]
  dsimp only
  rw [state, decodeInt_pid readable.pid, message, updatedAt, Option.bind_eq_bind, Option.bind_some,
    ofRawValue_name]
  rfl

/-- A beginning that does not close the object. -/
theorem decode_beginning {part more : Bytes}
    (open_ : (more.all Json.isSpace) = false)
    (isRead : ∃ members, Json.read (part ++ more) = some (.object members)) :
    decodeStatus part = none := by
  obtain ⟨members, isRead⟩ := isRead
  unfold decodeStatus
  split
  next found readPart =>
    have longer := Json.read_append readPart id more
    rw [isRead, open_] at longer
    contradiction
  next => rfl

/-- A status is shown when it is complete but for its newline, and never in part. -/
theorem readWhole (readable : Readable announcement) (isTimestamp : IsTimestamp date) :
    ReadWhole announcement date := by
  obtain ⟨body, isText, last, isRead⟩ := @read_body announcement date readable isTimestamp
  intro part beginning
  rw [isText] at beginning ⊢
  rw [List.length_append, List.length_singleton]
  rcases List.prefix_concat_iff.mp beginning with rfl | inBody
  · have whole := Json.read_append isRead id [newline]
    rw [List.length_append, List.length_singleton, if_neg (by omega), readStatus, Option.bind_some,
      decode_members readable whole]
    rfl
  · obtain ⟨more, rfl⟩ := inBody
    cases more with
    | nil =>
        rw [List.append_nil] at isRead ⊢
        rw [if_neg (by omega), readStatus, Option.bind_some, decode_members readable isRead]
        rfl
    | cons b rest =>
        have open_ : (b :: rest).all Json.isSpace = false := by
          rw [List.getLast?_append_of_ne_nil _ (List.cons_ne_nil b rest)] at last
          rw [Bool.eq_false_iff, ne_eq, List.all_eq_true]
          intro space
          exact absurd (space _ (List.mem_of_getLast? last)) (by decide)
        rw [List.length_append, List.length_cons, if_pos (by omega), readStatus, Option.bind_some,
          decode_beginning open_ ⟨_, isRead⟩]
        rfl

/-! ### The statuses of a life -/

/-- Every status that the script publishes has a text that stands for itself. -/
def SpeaksPlainly {α : Type} (script : Script Helper α) : Prop :=
  ∀ helper, Leaves script (fun _ => Adds Helper.statuses (fun added =>
    ∀ announcement ∈ added, isPlainText announcement.message = true) helper) helper

namespace SpeaksPlainly

variable {α β : Type} {system : System}

/-- A script that publishes nothing. -/
theorem of_keeps {script : Script Helper α} (keeps : Keeps Helper.statuses script) :
    SpeaksPlainly script := by
  intro helper
  apply (keeps helper).leaves
  intro _ after same
  exact .none same fun _ there => absurd there List.not_mem_nil

theorem ends : SpeaksPlainly (failure : Script Helper α) := fun _ =>
  .none rfl fun _ there => absurd there List.not_mem_nil

theorem bind {script : Script Helper β} {next : β → Script Helper α}
    (first : SpeaksPlainly script) (second : ∀ value, SpeaksPlainly (next value)) :
    SpeaksPlainly (script >>= next) := by
  intro helper
  apply (first helper).bind
  · intro value between adds
    apply (second value between).mono
    intro _ after further
    exact adds.trans further
  · exact fun _ adds => adds

theorem ite {condition : Prop} [Decidable condition] {yes no : Script Helper α}
    (speaksYes : SpeaksPlainly yes) (speaksNo : SpeaksPlainly no) :
    SpeaksPlainly (if condition then yes else no) := by
  split
  · exact speaksYes
  · exact speaksNo

theorem get : SpeaksPlainly (MonadState.get : Script Helper Helper) := of_keeps Keeps.get

theorem pure (value : α) : SpeaksPlainly (Pure.pure value) := of_keeps (Keeps.pure value)

theorem change {change : Helper → Helper}
    (same : ∀ helper, (change helper).statuses = helper.statuses) :
    SpeaksPlainly (modify change) :=
  of_keeps (Keeps.change same)

theorem expand (value : Option α) : SpeaksPlainly (Shell.expand value) := by
  cases value with
  | none => exact ends
  | some value => exact pure value

theorem expandAll (values : List α) : SpeaksPlainly (Shell.expandAll values) :=
  ite ends (pure values)

theorem isRunning : SpeaksPlainly (isRunning system) := by
  apply get.bind
  intro helper
  apply ite (pure _)
  apply ite (pure _)
  apply get.bind
  intro tested
  exact bind (change fun _ => rfl) fun _ => pure _

theorem writeStatus (state : RuntimeState) {message : Bytes}
    (plain : isPlainText message = true) :
    SpeaksPlainly (HelperScript.writeStatus system state message) := by
  apply isRunning.bind
  intro running helper
  refine ⟨_, rfl, ?_⟩
  intro announcement there
  obtain rfl := List.mem_singleton.mp there
  exact plain

theorem kill (signal : Signal) (pid : Bytes) : SpeaksPlainly (kill system signal pid) :=
  bind (change fun _ => rfl) fun _ => ite ends (pure ())

theorem sanitizeLoop (tokens : List Bytes) : SpeaksPlainly (sanitizeLoop tokens) :=
  of_keeps fun helper => (sanitizeLoop_reported tokens helper).mono fun _ _ same =>
    congrArg (·.2.1) same

theorem engineArgs : SpeaksPlainly engineArgs := by
  apply get.bind
  intro helper
  exact ite ((expandAll _).bind fun _ => pure _) (pure _)

theorem launch : SpeaksPlainly (launch system) := by
  apply (writeStatus _ (by decide)).bind
  intro _
  apply engineArgs.bind
  intro args
  refine bind (change fun _ => rfl) ?_
  intro _
  refine bind (change fun _ => rfl) ?_
  intro _
  apply isRunning.bind
  intro running
  apply ite (writeStatus _ (by decide))
  exact bind (change fun _ => rfl) fun _ => writeStatus _ (by decide)

theorem startGecit (parts : List Bytes) :
    SpeaksPlainly (HelperScript.startGecit system parts) := by
  have sanitized : SpeaksPlainly (HelperScript.sanitizeStartArgs parts.tail) :=
    bind (change fun _ => rfl) fun _ => sanitizeLoop _
  apply sanitized.bind
  intro accepted
  apply ite (writeStatus _ (by decide))
  apply isRunning.bind
  intro running
  apply ite (writeStatus _ (by decide))
  exact ite (writeStatus _ (by decide)) launch

theorem stopGecit : SpeaksPlainly (stopGecit system) := by
  have killed : SpeaksPlainly (killEngine system) :=
    isRunning.bind fun _ => ite (get.bind fun _ => (kill _ _).bind fun _ => kill _ _) (pure ())
  apply (writeStatus _ (by decide)).bind
  intro _
  apply killed.bind
  intro _
  refine bind (change fun _ => rfl) ?_
  intro _
  exact bind (change fun _ => rfl) fun _ => writeStatus _ (by decide)

theorem handleCommand (line : Bytes) : SpeaksPlainly (HelperScript.handleCommand system line) := by
  have enters : ∀ branch, SpeaksPlainly (enter branch) := fun _ => change fun _ => rfl
  apply (expand _).bind
  intro command
  apply ite
  · exact (enters _).bind fun _ => (expandAll _).bind fun _ => startGecit _
  apply ite
  · exact (enters _).bind fun _ => stopGecit
  apply ite
  · exact (enters _).bind fun _ => stopGecit
  apply ite
  · apply (enters _).bind
    intro _
    exact isRunning.bind fun _ => ite (writeStatus _ (by decide)) (writeStatus _ (by decide))
  · exact (enters _).bind fun _ => writeStatus _ (by decide)

/-- Every round. -/
theorem mainLoop : SpeaksPlainly (mainLoop system) := by
  apply get.bind
  intro helper
  apply ite
  · exact bind (change fun _ => rfl) fun _ => handleCommand _
  · exact isRunning.bind fun _ => ite (writeStatus _ (by decide)) (pure ())

end SpeaksPlainly

variable {system : System}

/-- What one round publishes: a text that stands for itself, with an honest pid. -/
def PlainlyHonest (system : System) (found : Interference) (statuses : List Announcement) : Prop :=
  ∀ announcement ∈ statuses, isPlainText announcement.message = true ∧
    Honest system [found.currentPid, substitution system.child] announcement

theorem mainLoop_plainlyHonest (found : Interference) (helper : Helper) : Leaves (mainLoop system)
    (fun _ => Adds Helper.statuses (PlainlyHonest system found) helper) (found.put helper) := by
  obtain ⟨added, grown, plain⟩ := @SpeaksPlainly.mainLoop system (found.put helper)
  obtain ⟨_, other, sameGrown, honest⟩ := @mainLoop_reports system helper found
  obtain rfl : added = other := List.append_cancel_left (grown.symm.trans sameGrown)
  refine ⟨added, grown, ?_⟩
  exact fun announcement there => ⟨plain announcement there, honest announcement there⟩

/-- The texts that may be published as a pid. -/
def pidTexts (system : System) (helper : Helper) (found : List Interference) : List Bytes :=
  helper.currentPid :: substitution system.child :: found.map Interference.currentPid

theorem readable_of_honest {pids : List Bytes} (plain : isPlainText announcement.message = true)
    (honest : Honest system pids announcement)
    (isPid : ∀ pid ∈ pids, Answered system pid → IsPid pid) : Readable announcement := by
  refine ⟨?_, plain⟩
  rcases honest with isNull | ⟨member, answered⟩
  · exact .inl isNull
  · exact .inr (isPid _ member answered)

theorem mem_of_forall₂ {found : List Interference} {statuses : List (List Announcement)}
    (each : List.Forall₂ (PlainlyHonest system) found statuses)
    (there : announcement ∈ statuses.flatten) : ∃ round ∈ found,
      isPlainText announcement.message = true ∧
        Honest system [round.currentPid, substitution system.child] announcement := by
  induction each with
  | nil => contradiction
  | cons first _ inductionHypothesis =>
      rw [List.flatten_cons, List.mem_append] at there
      rcases there with here | later
      · exact ⟨_, List.mem_cons_self, first announcement here⟩
      · obtain ⟨round, member, both⟩ := inductionHypothesis later
        exact ⟨round, List.mem_cons_of_mem _ member, both⟩

/-- One process runs, and it is the engine that a start brings up. -/
def oneProcess : System where
  alive _ pid := pid == lit "731"
  reaches _ _ := false
  reaches_nil _ := rfl
  alive_of_reaches reaches := Bool.noConfusion reaches
  executable := true
  child := lit "731"

def bareHelper : Helper := ⟨[], none, [], [], [], [], 0, []⟩

end Gecit.Macos
