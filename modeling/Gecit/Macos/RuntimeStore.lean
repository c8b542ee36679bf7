import Gecit.Macos.StartCommand

/-!
Contract: the status that the macOS app shows, beside the one the helper has published.

`start` and `stop` put a status of their own on display. `refreshStatus` replaces it only if the
status in the file has another signature than the one read before, and neither `start` nor `stop`
touches that signature.

Owns the store's status and the runs in which every refresh shows what the file says. Does not own
the logs, the command file, or the JSON decoder.
-/

namespace Gecit.Macos

open Gecit.Foundation
open Gecit.Go
open Gecit.Net

/-- A Swift string, in the normal form in which strings are compared. -/
abbrev Text := Bytes

inductive GecitRuntimeState where
  | onboarding
  | stopped
  | starting
  | running
  | stopping
  | error
deriving DecidableEq, Repr

def GecitRuntimeState.rawValue : GecitRuntimeState → Text
  | .onboarding => lit "onboarding"
  | .stopped => lit "stopped"
  | .starting => lit "starting"
  | .running => lit "running"
  | .stopping => lit "stopping"
  | .error => lit "error"

structure GecitStatus where
  state : GecitRuntimeState
  pid : Option Int
  message : Text
  updatedAt : Text
deriving DecidableEq, Repr

namespace GecitStatus

def empty : GecitStatus := ⟨.onboarding, none, lit "Hazırlanıyor", []⟩

/-- What `start` puts on display. -/
def starting (status : GecitStatus) : GecitStatus :=
  ⟨.starting, status.pid, lit "Gecit başlatılıyor", status.updatedAt⟩

/-- What `stop` puts on display. -/
def stopping (status : GecitStatus) : GecitStatus :=
  ⟨.stopping, status.pid, lit "Gecit durduruluyor", status.updatedAt⟩

end GecitStatus

def intText (n : Int) : Text :=
  if 0 ≤ n then decimalText n.toNat else byteOf '-' :: decimalText n.natAbs

/-- A missing pid is written as -1. -/
def signature (status : GecitStatus) : Text :=
  status.state.rawValue ++ lit "|" ++ intText (status.pid.getD (-1)) ++ lit "|" ++ status.message ++
    lit "|" ++ status.updatedAt

/-- The fields that `refreshStatus` reads or writes. -/
structure RuntimeStore where
  helperInstalled : Bool
  status : GecitStatus
  installError : Option Text
  lastStatusSignature : Text
deriving DecidableEq, Repr

namespace RuntimeStore

/-- Before the refresh at the end of `init`. -/
def created (isInstalled : Bool) : RuntimeStore where
  helperInstalled := isInstalled
  status := .empty
  installError := none
  lastStatusSignature := []

def start (store : RuntimeStore) : RuntimeStore := { store with status := store.status.starting }

def stop (store : RuntimeStore) : RuntimeStore := { store with status := store.status.stopping }

/-- Only sends a command. -/
def cleanup (store : RuntimeStore) : RuntimeStore := store

def updatedHelper : Text :=
  lit "Helper güncellendi. Bir kez daha 'Yeniden Kur' ile kurulumu tazele."

def refreshStatus (store : RuntimeStore) (isInstalled : Bool) (nextStatus : GecitStatus) :
    RuntimeStore :=
  let store := { store with helperInstalled := isInstalled }
  let store :=
    if store.helperInstalled = false ∧ nextStatus.state = .error ∧
        nextStatus.message = lit "Gecit başlatılamadı" then
      { store with installError := some updatedHelper }
    else store
  if signature nextStatus ≠ store.lastStatusSignature then
    { store with lastStatusSignature := signature nextStatus, status := nextStatus }
  else store

end RuntimeStore

/-! ### The app and the file -/

inductive StoreAction where
  | start
  | stop
  | cleanup
  /-- By the timer, after a command or an installation, or when a view appears. -/
  | refresh (isInstalled : Bool)
  /-- The helper, or anyone else, writes or removes `status.json`. -/
  | changeFile (contents : Option Bytes)
deriving DecidableEq

structure MenuApp where
  store : RuntimeStore
  statusFile : Option Bytes
deriving DecidableEq

-- `JSONDecoder`, on any file.
variable (decode : Bytes → Option GecitStatus)

def readStatus (statusFile : Option Bytes) : GecitStatus := (statusFile.bind decode).getD .empty

namespace MenuApp

def step (app : MenuApp) : StoreAction → MenuApp
  | .start => { app with store := app.store.start }
  | .stop => { app with store := app.store.stop }
  | .cleanup => { app with store := app.store.cleanup }
  | .refresh isInstalled =>
      { app with store := app.store.refreshStatus isInstalled (readStatus decode app.statusFile) }
  | .changeFile contents => { app with statusFile := contents }

/-- The app after `init`, which ends in a refresh. -/
def launched (isInstalled : Bool) (statusFile : Option Bytes) : MenuApp :=
  step decode ⟨.created isInstalled, statusFile⟩ (.refresh isInstalled)

/-- The store shows the status that is in the file. -/
def Shows (app : MenuApp) : Prop := app.store.status = readStatus decode app.statusFile

instance (app : MenuApp) : Decidable (app.Shows decode) := by
  unfold Shows
  infer_instance

/-- Every refresh shows the status it has read, that of `init` included. -/
def ShowsPublished (app : MenuApp) (schedule : List StoreAction) : Prop :=
  app.Shows decode ∧
    ∀ past isInstalled rest, schedule = past ++ .refresh isInstalled :: rest →
      ((past.foldl (step decode) app).step decode (.refresh isInstalled)).Shows decode

end MenuApp

/-! ### What a refresh can notice -/

def IsRefresh : StoreAction → Prop
  | .refresh _ => True
  | .start | .stop | .cleanup | .changeFile _ => False

/-- A moment at which a refresh has just been made. -/
def Refreshed (earlier : List StoreAction) : Prop :=
  earlier = [] ∨ ∃ past isInstalled, earlier = past ++ [.refresh isInstalled]

/-- The file after the actions. -/
def fileAfter (statusFile : Option Bytes) (schedule : List StoreAction) : Option Bytes :=
  schedule.foldl (fun statusFile action =>
    match action with
    | .changeFile contents => contents
    | .start | .stop | .cleanup | .refresh _ => statusFile) statusFile

/-- A status with what the app itself announces. -/
def announce (status : GecitStatus) : StoreAction → GecitStatus
  | .start => status.starting
  | .stop => status.stopping
  | .cleanup | .refresh _ | .changeFile _ => status

/-- At each refresh the file has another signature than at the refresh before, or it says what the
app shows anyway: the status of that refresh with what was announced since. -/
def Noticed (statusFile : Option Bytes) (schedule : List StoreAction) : Prop :=
  ∀ earlier recent isInstalled rest,
    schedule = earlier ++ recent ++ .refresh isInstalled :: rest → Refreshed earlier →
      (∀ action ∈ recent, ¬ IsRefresh action) →
        let last := readStatus decode (fileAfter statusFile earlier)
        let published := readStatus decode (fileAfter statusFile (earlier ++ recent))
        signature published ≠ signature last ∨ published = recent.foldl announce last

variable {decode}

namespace RuntimeStore

variable (store : RuntimeStore) (isInstalled : Bool) (nextStatus : GecitStatus)

theorem refreshStatus_status : (store.refreshStatus isInstalled nextStatus).status =
    if signature nextStatus ≠ store.lastStatusSignature then nextStatus else store.status := by
  unfold refreshStatus
  dsimp only
  split
  next =>
    dsimp only
    split <;> rfl
  next => split <;> rfl

/-- The signature is that of the status read last, whether it was shown or not. -/
theorem refreshStatus_signature :
    (store.refreshStatus isInstalled nextStatus).lastStatusSignature = signature nextStatus := by
  have kept : ∀ other : RuntimeStore, ¬ signature nextStatus ≠ other.lastStatusSignature →
      other.lastStatusSignature = signature nextStatus := fun _ same => (not_not.mp same).symm
  unfold refreshStatus
  dsimp only
  split
  next =>
    dsimp only
    split
    next => rfl
    next same => exact kept store same
  next =>
    split
    next => rfl
    next same => exact kept store same

end RuntimeStore

theorem signature_ne_nil (status : GecitStatus) : signature status ≠ [] := by
  simp [signature, lit]

/-- A schedule splits at its last refresh. -/
theorem exists_refreshed (schedule : List StoreAction) : ∃ earlier recent,
    schedule = earlier ++ recent ∧ Refreshed earlier ∧ ∀ action ∈ recent, ¬ IsRefresh action := by
  induction schedule using List.reverseRecOn with
  | nil => exact ⟨[], [], rfl, .inl rfl, by simp⟩
  | append_singleton past action inductionHypothesis =>
      by_cases isRefresh : IsRefresh action
      · cases action with
        | refresh isInstalled =>
            refine ⟨past ++ [.refresh isInstalled], [], by simp, .inr ⟨past, isInstalled, rfl⟩, ?_⟩
            simp
        | start | stop | cleanup | changeFile => exact isRefresh.elim
      · obtain ⟨earlier, recent, split, refreshed, noRefresh⟩ := inductionHypothesis
        refine ⟨earlier, recent ++ [action], ?_, refreshed, ?_⟩
        · rw [split, List.append_assoc]
        · intro other there
          rcases List.mem_append.mp there with inRecent | last
          · exact noRefresh other inRecent
          · rwa [List.mem_singleton.mp last]

namespace MenuApp

theorem statusFile_foldl (app : MenuApp) (schedule : List StoreAction) :
    (schedule.foldl (step decode) app).statusFile = fileAfter app.statusFile schedule := by
  induction schedule generalizing app with
  | nil => rfl
  | cons action rest inductionHypothesis =>
      rw [List.foldl_cons, inductionHypothesis, fileAfter, fileAfter, List.foldl_cons]
      cases action <;> rfl

/-- Between two refreshes the store shows what it announces, and the signature stays. -/
theorem foldl_noRefresh (app : MenuApp) {recent : List StoreAction}
    (noRefresh : ∀ action ∈ recent, ¬ IsRefresh action) :
    (recent.foldl (step decode) app).store.status = recent.foldl announce app.store.status ∧
      (recent.foldl (step decode) app).store.lastStatusSignature =
        app.store.lastStatusSignature := by
  induction recent generalizing app with
  | nil => exact ⟨rfl, rfl⟩
  | cons action rest inductionHypothesis =>
      obtain ⟨here, later⟩ := List.forall_mem_cons.mp noRefresh
      obtain ⟨shown, kept⟩ := inductionHypothesis (app.step decode action) later
      rw [List.foldl_cons, List.foldl_cons, shown, kept]
      cases action with
      | refresh => exact (here trivial).elim
      | start | stop | cleanup | changeFile => exact ⟨rfl, rfl⟩

/-- What a refresh leaves for the next one: what it has read, and the signature of that. -/
structure UpToDate (app : MenuApp) (read : GecitStatus) : Prop where
  status : app.store.status = read
  lastSignature : app.store.lastStatusSignature = signature read

theorem shows_refresh_iff (app : MenuApp) (isInstalled : Bool) :
    (app.step decode (.refresh isInstalled)).Shows decode ↔
      signature (readStatus decode app.statusFile) ≠ app.store.lastStatusSignature ∨
        readStatus decode app.statusFile = app.store.status := by
  show (app.store.refreshStatus isInstalled _).status = readStatus decode app.statusFile ↔ _
  rw [RuntimeStore.refreshStatus_status]
  split
  next fresh => exact iff_of_true rfl (.inl fresh)
  next same =>
    constructor
    · exact fun shown => .inr shown.symm
    · exact fun either => (either.resolve_left same).symm

/-- A refresh that shows what it has read is up to date. -/
theorem upToDate_refresh {app : MenuApp} {isInstalled : Bool}
    (shows_ : (app.step decode (.refresh isInstalled)).Shows decode) :
    (app.step decode (.refresh isInstalled)).UpToDate (readStatus decode app.statusFile) :=
  ⟨shows_, RuntimeStore.refreshStatus_signature ..⟩

theorem launched_shows (isInstalled : Bool) (statusFile : Option Bytes) :
    (launched decode isInstalled statusFile).Shows decode :=
  (shows_refresh_iff _ isInstalled).mpr (.inl (signature_ne_nil _))

section Run

variable {isInstalled : Bool} {statusFile : Option Bytes}

/-- The refreshes before a moment have all shown what they read; the last of them is up to date. -/
theorem upToDate_of_showsPublished {earlier : List StoreAction} (refreshed : Refreshed earlier)
    (shown : ShowsPublished decode (launched decode isInstalled statusFile) earlier) :
    (earlier.foldl (step decode) (launched decode isInstalled statusFile)).UpToDate
      (readStatus decode (fileAfter statusFile earlier)) := by
  rcases refreshed with rfl | ⟨past, installed, rfl⟩
  · exact upToDate_refresh (launched_shows isInstalled statusFile)
  · have upToDate := upToDate_refresh (shown.2 past installed [] rfl)
    rw [statusFile_foldl] at upToDate
    rw [List.foldl_append, fileAfter, List.foldl_append]
    exact upToDate

/-- If the refreshes so far have shown what they read, the next one does exactly when it can
notice what has changed. -/
theorem shows_next_iff {earlier recent : List StoreAction} (refreshed : Refreshed earlier)
    (noRefresh : ∀ action ∈ recent, ¬ IsRefresh action)
    (shown : ShowsPublished decode (launched decode isInstalled statusFile) earlier)
    (installed : Bool) :
    let last := readStatus decode (fileAfter statusFile earlier)
    let published := readStatus decode (fileAfter statusFile (earlier ++ recent))
    (((earlier ++ recent).foldl (step decode) (launched decode isInstalled statusFile)).step decode
        (.refresh installed)).Shows decode ↔
      signature published ≠ signature last ∨ published = recent.foldl announce last := by
  intro last published
  obtain ⟨status, lastSignature⟩ := upToDate_of_showsPublished refreshed shown
  have between := @foldl_noRefresh decode
    (earlier.foldl (step decode) (launched decode isInstalled statusFile)) recent noRefresh
  rw [← List.foldl_append, status, lastSignature] at between
  rw [shows_refresh_iff, between.1, between.2, statusFile_foldl]
  rfl

theorem ShowsPublished.before {app : MenuApp} {earlier later : List StoreAction}
    (shown : ShowsPublished decode app (earlier ++ later)) : ShowsPublished decode app earlier := by
  refine ⟨shown.1, ?_⟩
  intro past installed rest split
  apply shown.2 past installed (rest ++ later)
  rw [split, List.append_assoc, List.cons_append]

/-- A longer run shows what is published if the run before does, and its last action. -/
theorem ShowsPublished.append {app : MenuApp} {earlier : List StoreAction} {action : StoreAction}
    (shown : ShowsPublished decode app earlier)
    (last : ∀ installed, action = .refresh installed →
      ((earlier.foldl (step decode) app).step decode (.refresh installed)).Shows decode) :
    ShowsPublished decode app (earlier ++ [action]) := by
  refine ⟨shown.1, ?_⟩
  intro past installed rest split
  rcases List.eq_nil_or_concat rest with rfl | ⟨inner, final, rfl⟩
  · obtain ⟨rfl, same⟩ := List.append_inj' split rfl
    exact last installed (List.cons.inj same).1
  · rw [List.concat_eq_append, ← List.cons_append, ← List.append_assoc] at split
    obtain ⟨rfl, -⟩ := List.append_inj' split rfl
    exact shown.2 past installed inner rfl

end Run

end MenuApp

/-- In a run every refresh shows the status it has read exactly when each can notice what has
changed since the one before. -/
theorem shows_published_iff (isInstalled : Bool) (statusFile : Option Bytes)
    (schedule : List StoreAction) :
    (MenuApp.launched decode isInstalled statusFile).ShowsPublished decode schedule ↔
      Noticed decode statusFile schedule := by
  constructor
  · intro shown earlier recent installed rest split refreshed noRefresh
    have shownEarlier : MenuApp.ShowsPublished decode (.launched decode isInstalled statusFile)
        earlier := by
      rw [split, List.append_assoc] at shown
      exact shown.before
    have here := shown.2 (earlier ++ recent) installed rest split
    exact (MenuApp.shows_next_iff refreshed noRefresh shownEarlier installed).mp here
  · intro noticed
    induction schedule using List.reverseRecOn with
    | nil =>
        refine ⟨MenuApp.launched_shows isInstalled statusFile, ?_⟩
        intro past installed rest split
        simp at split
    | append_singleton past action inductionHypothesis =>
        have shown := inductionHypothesis (by
          intro earlier recent installed rest split
          apply noticed earlier recent installed (rest ++ [action])
          rw [split, List.append_assoc, List.cons_append])
        apply shown.append
        rintro installed rfl
        obtain ⟨earlier, recent, rfl, refreshed, noRefresh⟩ := exists_refreshed past
        apply (MenuApp.shows_next_iff refreshed noRefresh shown.before installed).mpr
        exact noticed earlier recent installed [] rfl refreshed noRefresh

/-- The status of a helper that has just come up. -/
def readyStatus : GecitStatus := ⟨.stopped, none, lit "Hazır", lit "2025-11-02T09:00:00Z"⟩

def readyFile : Bytes :=
  lit "\x7b\"state\":\"stopped\",\"pid\":null,\"message\":\"Hazır\"," ++
    lit "\"updatedAt\":\"2025-11-02T09:00:00Z\"\x7d\n"

/-- The helper does not take the command; the app goes on showing that it starts. -/
theorem start_stays_on_display : ¬ ∀ decode isInstalled statusFile schedule,
    (MenuApp.launched decode isInstalled statusFile).ShowsPublished decode schedule := by
  intro shows_
  let decode := fun file => if file = readyFile then some readyStatus else none
  have shown := (shows_ decode true (some readyFile) [.start, .refresh true]).2 [.start] true [] rfl
  exact absurd shown (by decide +kernel)

end Gecit.Macos
