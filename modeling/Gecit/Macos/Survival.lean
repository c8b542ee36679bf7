import Gecit.Macos.HelperScript

/-!
Contract: which command files the helper daemon survives.

A file of blanks and line ends only has no first word: the expansion of `${parts[0]}` ends the
script. With a first word a round goes into the branch of that word and comes back, unless the
branch is a stop and the pid file names the script itself.

Owns the exact condition, for every content of the command file and every state of the daemon.
Does not own what the app writes.
-/

namespace Gecit.Macos

open Gecit.Foundation
open Gecit.Go
open Gecit.Shell
open HelperScript

/-- The file holds a byte besides blanks, line ends and NUL bytes. -/
def HasWord (file : Bytes) : Prop := ∃ b ∈ file, isSpecial b = false

/-- `${parts[0]}`, if it is set. -/
def firstWord (line : Bytes) : Option Bytes := (words line).head?

/-- The branch of this word is `stop_gecit`. -/
def IsStop (word : Option Bytes) : Prop := word = some (lit "stop") ∨ word = some (lit "cleanup")

/-- The pid file names the script itself. -/
def NamesItself (system : System) (helper : Helper) : Prop :=
  ∃ signal, system.reaches signal helper.currentPid = true

/-- The command is no stop, or the pid file does not name the script. -/
def SparesItself (system : System) (helper : Helper) : Prop :=
  IsStop (firstWord (readCommand helper.commandFile)) → ¬ NamesItself system helper

/-- The file is empty, and one branch was entered: the one of the command. -/
structure Handled (before after : Helper) : Prop where
  consumed : after.commandFile = []
  oneBranch : ∃ branch, handleCommand (readCommand before.commandFile) = some branch ∧
    after.branches = before.branches ++ [branch]

theorem hasWord_iff {file : Bytes} : HasWord file ↔ words (readCommand file) ≠ [] := by
  constructor
  · intro hasWord
    obtain ⟨b, there, clear⟩ := hasWord
    obtain ⟨notDropped, notBlank⟩ := Bool.or_eq_false_iff.mp clear
    have kept : b ∈ readCommand file := List.mem_filter.mpr ⟨there, by rw [notDropped]; rfl⟩
    exact words_ne_nil kept notBlank
  · intro someWord
    obtain ⟨word, isWord⟩ := List.exists_mem_of_ne_nil _ someWord
    have nonempty : word ≠ [] := of_decide_eq_true (List.mem_filter.mp isWord).2
    obtain ⟨b, inWord⟩ := List.exists_mem_of_ne_nil _ nonempty
    have inFile := (List.mem_filter.mp (mem_words isWord b inWord).2).1
    exact ⟨b, inFile, clear_of_mem_words isWord b inWord⟩

section Rounds

variable {system : System} {helper : Helper}

/-! ### A stop -/

theorem goesOn_kill {signal : Signal} {currentPid : Bytes} {post : Unit → Helper → Prop} :
    GoesOn (kill system signal currentPid) post helper ↔
      system.reaches signal currentPid = false ∧
        post () { helper with signals := helper.signals ++ [(signal, currentPid)] } := by
  unfold kill
  rw [goesOn_bind, goesOn_modify]
  cases system.reaches signal currentPid with
  | true => exact iff_of_false goesOn_failure fun both => Bool.noConfusion both.1
  | false => exact goesOn_pure.trans (and_iff_right rfl).symm

/-- The script finds itself alive. -/
theorem goesOn_isRunning (names : NamesItself system helper) :
    GoesOn (isRunning system) (fun running _ => running = true) helper := by
  obtain ⟨signal, reached⟩ := names
  have somePid : helper.currentPid ≠ [] := by
    intro noPid
    rw [noPid, system.reaches_nil] at reached
    contradiction
  have someFile : ¬ helper.pidFile.isNone = true := by
    intro noFile
    apply somePid
    rw [Helper.currentPid, Option.isNone_iff_eq_none.mp noFile]
    rfl
  unfold isRunning killZero
  rw [goesOn_bind, goesOn_get, if_neg someFile, if_neg somePid, goesOn_bind, goesOn_get,
    goesOn_bind, goesOn_modify, goesOn_pure]
  exact system.alive_of_reaches reached _

theorem currentPid_congr {after : Helper} (same : after.pidFile = helper.pidFile) :
    after.currentPid = helper.currentPid := by
  rw [Helper.currentPid, Helper.currentPid, same]

theorem namesItself_congr {after : Helper} (same : after.pidFile = helper.pidFile) :
    NamesItself system after ↔ NamesItself system helper := by
  rw [NamesItself, NamesItself, currentPid_congr same]

theorem pidFile_of_settled {after : Helper} (same : settled after = settled helper) :
    after.pidFile = helper.pidFile := congrArg Prod.fst same

/-- Another process is signalled. -/
theorem goesOn_killEngine (other : ¬ NamesItself system helper) :
    GoesOn (killEngine system) (fun _ after => progress after = progress helper) helper := by
  have spared : ∀ signal, system.reaches signal helper.currentPid = false := by
    intro signal
    exact Bool.eq_false_iff.mpr fun reached => other ⟨signal, reached⟩
  apply (keeps_isRunning helper).bind
  intro running tested same
  split
  · rw [goesOn_bind, goesOn_get, goesOn_bind, currentPid_congr (pidFile_of_settled same),
      goesOn_kill, goesOn_kill]
    exact ⟨spared _, spared _, congrArg Prod.snd same⟩
  · exact goesOn_pure.mpr (congrArg Prod.snd same)

/-- One of the two signals ends the script. -/
theorem not_goesOn_killEngine (names : NamesItself system helper) {post : Unit → Helper → Prop} :
    ¬ GoesOn (killEngine system) post helper := by
  intro goesOn
  have both := ((goesOn_bind.mp goesOn).and (goesOn_isRunning names)).and (keeps_isRunning helper)
  obtain ⟨running, tested, _, ⟨reached, alive⟩, same⟩ := both
  rw [if_pos alive, goesOn_bind, goesOn_get, goesOn_bind, goesOn_kill, goesOn_kill,
    currentPid_congr (pidFile_of_settled same)] at reached
  obtain ⟨notTerm, notKill, _⟩ := reached
  obtain ⟨signal, reached⟩ := names
  cases signal with
  | term =>
      rw [notTerm] at reached
      contradiction
  | kill =>
      rw [notKill] at reached
      contradiction

/-- A stop of another process comes back. -/
theorem goesOn_stopGecit (other : ¬ NamesItself system helper) :
    GoesOn (stopGecit system) (fun _ after => progress after = progress helper) helper := by
  apply (keeps_writeStatus _ _ helper).bind
  intro _ announced same
  have otherStill := mt (namesItself_congr (pidFile_of_settled same)).mp other
  apply (goesOn_killEngine otherStill).bind
  intro _ signalled sameSignalled
  apply (keeps_cleanUp signalled).mono
  intro _ after sameCleaned
  exact (sameCleaned.trans sameSignalled).trans (congrArg Prod.snd same)

/-- A stop of the script itself does not. -/
theorem not_goesOn_stopGecit (names : NamesItself system helper) {post : Unit → Helper → Prop} :
    ¬ GoesOn (stopGecit system) post helper := by
  intro goesOn
  have both := (goesOn_bind.mp goesOn).and (keeps_writeStatus _ _ helper)
  obtain ⟨_, announced, _, reached, same⟩ := both
  have namesStill := (namesItself_congr (pidFile_of_settled same)).mpr names
  exact not_goesOn_killEngine namesStill (goesOn_bind.mp reached)

/-! ### A command -/

/-- The branch is recorded, and what follows changes no more of the progress. -/
theorem goesOn_enter {branch : HelperCommand} {body : Script Helper Unit}
    (comesBack : ∀ entered : Helper, entered.pidFile = helper.pidFile →
      GoesOn body (fun _ after => progress after = progress entered) entered) :
    GoesOn (enter branch >>= fun _ => body) (fun _ after =>
      progress after = (helper.commandFile, helper.branches ++ [branch])) helper := by
  rw [goesOn_bind]
  unfold enter
  rw [goesOn_modify]
  exact comesBack _ rfl

theorem goesOn_handleCommand {line : Bytes} {branch : HelperCommand}
    (chosen : handleCommand line = some branch)
    (other : IsStop (firstWord line) → ¬ NamesItself system helper) :
    GoesOn (HelperScript.handleCommand system line) (fun _ after =>
      progress after = (helper.commandFile, helper.branches ++ [branch])) helper := by
  unfold handleCommand at chosen
  unfold firstWord at other
  unfold HelperScript.handleCommand
  rw [goesOn_bind, goesOn_expand]
  generalize words line = parts at chosen other ⊢
  cases parts with
  | nil => contradiction
  | cons command rest =>
      refine ⟨command, rfl, ?_⟩
      have stopGoesOn : command = lit "stop" ∨ command = lit "cleanup" → ∀ entered : Helper,
          entered.pidFile = helper.pidFile → GoesOn (stopGecit system)
            (fun _ after => progress after = progress entered) entered := by
        intro isStop entered samePid
        apply goesOn_stopGecit
        rw [namesItself_congr samePid]
        exact other (isStop.imp (congrArg some) (congrArg some))
      dsimp only at chosen
      split_ifs at chosen ⊢ with isStart isStop isCleanup isStatus
      · obtain rfl := Option.some.inj chosen
        apply goesOn_enter
        intro entered _
        rw [goesOn_bind, goesOn_expandAll]
        exact ⟨List.cons_ne_nil _ _, keeps_startGecit _ entered⟩
      · obtain rfl := Option.some.inj chosen
        exact goesOn_enter (stopGoesOn (.inl isStop))
      · obtain rfl := Option.some.inj chosen
        exact goesOn_enter (stopGoesOn (.inr isCleanup))
      · obtain rfl := Option.some.inj chosen
        apply goesOn_enter
        intro entered _
        exact (keeps_reportStatus.coarsen Prod.snd) entered
      · obtain rfl := Option.some.inj chosen
        apply goesOn_enter
        intro entered _
        exact ((keeps_writeStatus _ _).coarsen Prod.snd) entered

/-- Without a word the array has no first element. -/
theorem not_goesOn_blank {line : Bytes} (blank : words line = []) {post : Unit → Helper → Prop} :
    ¬ GoesOn (HelperScript.handleCommand system line) post helper := by
  intro goesOn
  unfold HelperScript.handleCommand at goesOn
  rw [goesOn_bind, goesOn_expand, blank] at goesOn
  obtain ⟨_, impossible, _⟩ := goesOn
  contradiction

theorem not_goesOn_stop {line : Bytes} (isStop : IsStop (firstWord line))
    (names : NamesItself system helper) {post : Unit → Helper → Prop} :
    ¬ GoesOn (HelperScript.handleCommand system line) post helper := by
  intro goesOn
  have notStart : ∀ word, some word = some (lit "stop") ∨ some word = some (lit "cleanup") →
      word ≠ lit "start" := by
    intro word stops isStart
    subst isStart
    exact absurd stops (by decide)
  unfold HelperScript.handleCommand at goesOn
  rw [goesOn_bind, goesOn_expand] at goesOn
  obtain ⟨command, first, goesOn⟩ := goesOn
  rw [firstWord, first] at isStop
  rw [if_neg (notStart command isStop)] at goesOn
  split_ifs at goesOn with stops cleans reports
  · rw [goesOn_bind, enter, goesOn_modify] at goesOn
    refine not_goesOn_stopGecit ?_ goesOn
    exact (namesItself_congr rfl).mpr names
  · rw [goesOn_bind, enter, goesOn_modify] at goesOn
    refine not_goesOn_stopGecit ?_ goesOn
    exact (namesItself_congr rfl).mpr names
  · rcases isStop with same | same
    · exact stops (Option.some.inj same)
    · exact cleans (Option.some.inj same)
  · rcases isStop with same | same
    · exact stops (Option.some.inj same)
    · exact cleans (Option.some.inj same)

/-! ### A round -/

theorem mainLoop_of_empty (empty : helper.commandFile = []) :
    GoesOn (mainLoop system) (fun _ after => progress after = progress helper) helper := by
  unfold mainLoop
  rw [goesOn_bind, goesOn_get, if_neg (not_not.mpr empty)]
  exact (keeps_idle.coarsen Prod.snd) helper

theorem goesOn_mainLoop_of_nonempty (nonempty : helper.commandFile ≠ [])
    {post : Unit → Helper → Prop} : GoesOn (mainLoop system) post helper ↔
      GoesOn (HelperScript.handleCommand system (readCommand helper.commandFile)) post
        { helper with commandFile := [] } := by
  unfold mainLoop
  rw [goesOn_bind, goesOn_get, if_pos nonempty, goesOn_bind, goesOn_modify]

theorem HasWord.nonempty {file : Bytes} (hasWord : HasWord file) : file ≠ [] := by
  obtain ⟨b, there, _⟩ := hasWord
  exact List.ne_nil_of_mem there

theorem handled_of_hasWord (hasWord : HasWord helper.commandFile)
    (spares : SparesItself system helper) :
    GoesOn (mainLoop system) (fun _ after => Handled helper after) helper := by
  have someWord := hasWord_iff.mp hasWord
  obtain ⟨branch, chosen⟩ : ∃ branch,
      handleCommand (readCommand helper.commandFile) = some branch := by
    unfold handleCommand
    split
    next noWord => exact absurd noWord someWord
    next => split_ifs <;> exact ⟨_, rfl⟩
  rw [goesOn_mainLoop_of_nonempty hasWord.nonempty]
  have comesBack : GoesOn (HelperScript.handleCommand system (readCommand helper.commandFile))
      (fun _ after => progress after = ([], helper.branches ++ [branch]))
      { helper with commandFile := [] } :=
    goesOn_handleCommand chosen fun isStop names =>
      spares isStop ((namesItself_congr rfl).mp names)
  apply comesBack.mono
  intro _ after reached
  exact ⟨congrArg Prod.fst reached, branch, chosen, congrArg Prod.snd reached⟩

theorem spared_of_goesOn {post : Unit → Helper → Prop}
    (goesOn : GoesOn (mainLoop system) post helper) :
    (helper.commandFile = [] ∨ HasWord helper.commandFile) ∧ SparesItself system helper := by
  by_cases empty : helper.commandFile = []
  · refine ⟨.inl empty, ?_⟩
    intro isStop
    rw [empty] at isStop
    rcases isStop with impossible | impossible <;> contradiction
  · rw [goesOn_mainLoop_of_nonempty empty] at goesOn
    refine ⟨.inr (hasWord_iff.mpr fun blank => not_goesOn_blank blank goesOn), ?_⟩
    intro isStop names
    refine not_goesOn_stop isStop ?_ goesOn
    exact (namesItself_congr rfl).mpr names

/-- An empty file enters no branch. -/
theorem handled_iff : GoesOn (mainLoop system) (fun _ after => Handled helper after) helper ↔
    HasWord helper.commandFile ∧ SparesItself system helper := by
  constructor
  · intro goesOn
    obtain ⟨either, spares⟩ := spared_of_goesOn goesOn
    refine ⟨either.resolve_left ?_, spares⟩
    intro empty
    obtain ⟨_, after, _, handled, same⟩ := goesOn.and (mainLoop_of_empty empty)
    obtain ⟨branch, _, entered⟩ := handled.oneBranch
    have lengths := congrArg List.length (entered.symm.trans (congrArg Prod.snd same))
    rw [List.length_append, List.length_singleton] at lengths
    exact absurd lengths (Nat.succ_ne_self _)
  · intro both
    exact handled_of_hasWord both.1 both.2

theorem comesBack_iff : GoesOn (mainLoop system) (fun _ after => after.commandFile = []) helper ↔
    (helper.commandFile = [] ∨ HasWord helper.commandFile) ∧ SparesItself system helper := by
  constructor
  · exact spared_of_goesOn
  · intro both
    rcases both.1 with empty | hasWord
    · apply (mainLoop_of_empty empty).mono
      intro _ after same
      exact (congrArg Prod.fst same).trans empty
    · exact (handled_of_hasWord hasWord both.2).mono fun _ _ handled => handled.consumed

/-! ### A life -/

/-- Before each round the app has put a text into the file, or nothing. -/
def rounds (system : System) : List Bytes → Script Helper Unit
  | [] => pure ()
  | file :: later => do
      modify fun helper => { helper with commandFile := file }
      mainLoop system
      rounds system later

/-- A script that never signals itself lives until the first file without a word. -/
theorem rounds_iff (elsewhere : ∀ signal pid, system.reaches signal pid = false)
    {files : List Bytes} : GoesOn (rounds system files) (fun _ _ => True) helper ↔
      ∀ file ∈ files, file = [] ∨ HasWord file := by
  have spares : ∀ helper, SparesItself system helper := by
    intro helper _ names
    obtain ⟨signal, reached⟩ := names
    rw [elsewhere] at reached
    contradiction
  induction files generalizing helper with
  | nil =>
      apply iff_of_true (goesOn_pure.mpr trivial)
      exact fun _ missing => absurd missing List.not_mem_nil
  | cons file later inductionHypothesis =>
      unfold rounds
      rw [goesOn_bind, goesOn_modify, goesOn_bind, List.forall_mem_cons]
      constructor
      · intro goesOn
        refine ⟨(spared_of_goesOn goesOn).1, ?_⟩
        obtain ⟨_, after, _, goesOn⟩ := goesOn
        exact inductionHypothesis.mp goesOn
      · intro both
        apply (comesBack_iff.mpr ⟨both.1, spares _⟩).mono
        intro _ after _
        exact inductionHypothesis.mpr both.2

end Rounds

/-- A round handles one command exactly if there is a word in the file and no stop hits the
script itself. An empty file is no command: then the round comes back without a branch. -/
theorem round_survives_iff (system : System) (helper : Helper) :
    (GoesOn (mainLoop system) (fun _ after => Handled helper after) helper ↔
      HasWord helper.commandFile ∧ SparesItself system helper) ∧
    (GoesOn (mainLoop system) (fun _ after => after.commandFile = []) helper ↔
      (helper.commandFile = [] ∨ HasWord helper.commandFile) ∧ SparesItself system helper) :=
  ⟨handled_iff, comesBack_iff⟩

/-- No pid has a process. -/
def quietSystem : System where
  alive _ _ := false
  reaches _ _ := false
  reaches_nil := fun _ => rfl
  alive_of_reaches := fun reached => absurd reached Bool.false_ne_true
  executable := true
  child := lit "501"

/-- A freshly started daemon finds this file. -/
def started (file : Bytes) : Helper := ⟨file, none, [], [], [], [], 0, []⟩

theorem blank_line_ends_script :
    (outcome (mainLoop quietSystem) (started (lit " \n"))).1 = none ∧
      ¬ ∀ system helper, GoesOn (mainLoop system) (fun _ after => Handled helper after) helper := by
  have ends : (outcome (mainLoop quietSystem) (started (lit " \n"))).1 = none := by decide +kernel
  refine ⟨ends, ?_⟩
  intro survives
  exact not_goesOn_of_outcome ends (survives quietSystem _)

end Gecit.Macos
