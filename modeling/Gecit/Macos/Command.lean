import Gecit.Macos.StartArgs

/-!
Contract: one command on its way from the app to the helper daemon.

The app writes a line to the command file; the daemon removes carriage returns and newlines
from the whole file, cuts the rest into words, and looks at the first one.

Owns the file's text and the daemon's reading of it. Does not own when the file is written or
read.
-/

namespace Gecit.Macos

open Gecit.Foundation
open Gecit.Go
open Gecit.Net
open Gecit.Shell

def allowedPrefixes : List Bytes := [lit "start", lit "stop", lit "cleanup", lit "status"]

/-- The text that `send` writes, or `none` if it throws. -/
def send (command : Bytes) : Option Bytes :=
  if allowedPrefixes.any (hasPrefix command) then some (command ++ [newline]) else none

/-- What `tr` deletes, and the byte that a command substitution cannot hold. -/
def isDropped (b : UInt8) : Bool := b = 13 || b = newline || b = 0

/-- `$(tr -d '\r' < "$CMD_FILE" | tr -d '\n')` -/
def readCommand (file : Bytes) : Bytes := file.filter fun b => !isDropped b

inductive HelperCommand where
  /-- With the words of the command. -/
  | start (parts : List Bytes)
  | stop
  | cleanup
  | status
  | unknown
deriving DecidableEq

/-- `handle_command`; without a first word `set -u` ends the script. -/
def handleCommand (line : Bytes) : Option HelperCommand :=
  match words line with
  | [] => none
  | command :: rest =>
      if command = lit "start" then some (.start (command :: rest))
      else if command = lit "stop" then some .stop
      else if command = lit "cleanup" then some .cleanup
      else if command = lit "status" then some .status
      else some .unknown

/-! ### Lines joined with blanks -/

theorem readCommand_append (front back : Bytes) :
    readCommand (front ++ back) = readCommand front ++ readCommand back := List.filter_append ..

/-- A space is kept, so the parts of a line are read one by one. -/
theorem words_readCommand_intercalate (parts : List Bytes) :
    words (readCommand ([byteOf ' '].intercalate parts)) =
      parts.flatMap fun part => words (readCommand part) := by
  have joined : readCommand ([byteOf ' '].intercalate parts) =
      [byteOf ' '].intercalate (parts.map readCommand) := by
    induction parts with
    | nil => rfl
    | cons part rest inductionHypothesis =>
        cases rest with
        | nil => simp
        | cons next others =>
            have front : [byteOf ' '].intercalate (part :: next :: others) =
                part ++ [byteOf ' '] ++ [byteOf ' '].intercalate (next :: others) := by
              simp [List.intercalate]
            rw [front, readCommand_append, readCommand_append, inductionHypothesis]
            simp [List.intercalate, readCommand, isDropped, newline, byteOf]
  rw [joined, words_intercalate rfl, List.flatMap_map]

/-- A byte that is lost on the way or cuts a word. -/
def isSpecial (b : UInt8) : Bool := isDropped b || isBlank b

theorem words_readCommand_of_clear {part : Bytes} (nonempty : part ≠ [])
    (clear : ∀ b ∈ part, isSpecial b = false) : words (readCommand part) = [part] := by
  have kept : readCommand part = part := by
    apply List.filter_eq_self.mpr
    intro b there
    rw [(Bool.or_eq_false_iff.mp (clear b there)).1]
    rfl
  rw [kept, words_of_clear fun b there => (Bool.or_eq_false_iff.mp (clear b there)).2,
    if_neg nonempty]

theorem clear_of_mem_words {part word : Bytes} (member : word ∈ words (readCommand part)) :
    ∀ b ∈ word, isSpecial b = false := by
  intro b there
  obtain ⟨noBlank, kept⟩ := mem_words member b there
  have notDropped := (List.mem_filter.mp kept).2
  rw [Bool.not_eq_true'] at notDropped
  exact Bool.or_eq_false_iff.mpr ⟨notDropped, noBlank⟩

/-- A command that the app sends has a first word. -/
theorem handleCommand_ne_none {command text : Bytes} (sent : send command = some text) :
    handleCommand (readCommand text) ≠ none := by
  have letters : ∀ pre ∈ allowedPrefixes,
      pre.any (fun b => !isDropped b && !isBlank b) = true := by
    decide
  obtain ⟨allowed, same⟩ := Option.ite_none_right_eq_some.mp sent
  obtain rfl := Option.some.inj same
  obtain ⟨pre, member, matching⟩ := List.any_eq_true.mp allowed
  obtain ⟨b, inPrefix, both⟩ := List.any_eq_true.mp (letters pre member)
  rw [Bool.and_eq_true, Bool.not_eq_true', Bool.not_eq_true'] at both
  obtain ⟨notDropped, notBlank⟩ := both
  have there : b ∈ readCommand (command ++ [newline]) := by
    refine List.mem_filter.mpr ⟨?_, by rw [notDropped]; rfl⟩
    exact List.mem_append_left _ ((hasPrefix_iff.mp matching).subset inPrefix)
  unfold handleCommand
  split
  next noWords => exact absurd noWords (words_ne_nil there notBlank)
  next => split_ifs <;> exact Option.some_ne_none _

end Gecit.Macos
