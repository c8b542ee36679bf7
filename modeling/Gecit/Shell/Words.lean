import Mathlib.Data.List.Induction
import Gecit.Net.Address

/-!
Contract: words and numbers as bash reads them from byte strings.

`read -r -a` cuts a line at blanks; an unquoted expansion with a separator that is no blank
keeps inner empty fields. `[ -gt ]` compares machine integers and fails for larger ones.

Owns word splitting, decimals without leading zero and the integer test. Does not own any
script.
-/

namespace Gecit.Shell

open Gecit.Foundation
open Gecit.Go
open Gecit.Net

/-! ### Words -/

def isBlank (b : UInt8) : Bool := b = byteOf ' ' || b = 9 || b = newline

/-- `read -r -a` of one line. -/
def words (line : Bytes) : List Bytes := (line.splitOnP isBlank).filter (· ≠ [])

theorem words_append_blank (front back : Bytes) {blank : UInt8} (separates : isBlank blank = true) :
    words (front ++ blank :: back) = words front ++ words back := by
  rw [words, List.splitOnP_append_cons front back separates, List.filter_append]
  rfl

/-- Words separated by single blanks. -/
theorem words_intercalate {blank : UInt8} (separates : isBlank blank = true) (parts : List Bytes) :
    words ([blank].intercalate parts) = parts.flatMap words := by
  induction parts with
  | nil => rfl
  | cons part rest inductionHypothesis =>
      cases rest with
      | nil => simp
      | cons next others =>
          have joined : [blank].intercalate (part :: next :: others) =
              part ++ blank :: [blank].intercalate (next :: others) := by
            simp [List.intercalate]
          rw [joined, words_append_blank _ _ separates, inductionHypothesis]
          rfl

theorem words_of_clear {word : Bytes} (clear : ∀ b ∈ word, isBlank b = false) :
    words word = if word = [] then [] else [word] := by
  rw [words, List.splitOnP_eq_singleton clear]
  by_cases empty : word = [] <;> simp [empty]

theorem splitOnP_clear {p : UInt8 → Bool} (line : Bytes) :
    ∀ part ∈ line.splitOnP p, ∀ b ∈ part, p b = false ∧ b ∈ line := by
  induction line with
  | nil =>
      intro part member b there
      rw [List.splitOnP_nil, List.mem_singleton] at member
      subst member
      contradiction
  | cons first rest inductionHypothesis =>
      have later : ∀ part ∈ rest.splitOnP p, ∀ b ∈ part, p b = false ∧ b ∈ first :: rest := by
        intro part member b there
        obtain ⟨clear, inRest⟩ := inductionHypothesis part member b there
        exact ⟨clear, List.mem_cons_of_mem _ inRest⟩
      obtain ⟨head, others, parts⟩ := List.exists_cons_of_ne_nil (List.splitOnP_ne_nil p rest)
      rw [parts] at later
      intro part member b there
      rw [List.splitOnP_cons_eq_if_modifyHead, parts, List.modifyHead_cons] at member
      split at member
      next separates =>
        rcases List.mem_cons.mp member with rfl | other
        · contradiction
        · exact later part other b there
      next ordinary =>
        rcases List.mem_cons.mp member with rfl | other
        · rcases List.mem_cons.mp there with rfl | inHead
          · exact ⟨Bool.eq_false_iff.mpr ordinary, List.mem_cons_self⟩
          · exact later head List.mem_cons_self b inHead
        · exact later part (List.mem_cons_of_mem _ other) b there

/-- Every byte is a separator or in a part. -/
theorem mem_splitOnP_of_mem (p : UInt8 → Bool) {b : UInt8} {line : Bytes} (there : b ∈ line) :
    p b = true ∨ ∃ part ∈ line.splitOnP p, b ∈ part := by
  induction line with
  | nil => contradiction
  | cons first rest inductionHypothesis =>
      rw [List.splitOnP_cons_eq_if_modifyHead]
      obtain ⟨head, others, parts⟩ := List.exists_cons_of_ne_nil (List.splitOnP_ne_nil p rest)
      rw [parts] at inductionHypothesis ⊢
      rw [List.modifyHead_cons]
      split
      next separates =>
        rcases List.mem_cons.mp there with rfl | later
        · exact .inl separates
        · refine (inductionHypothesis later).imp_right ?_
          intro inPart
          obtain ⟨part, member, inside⟩ := inPart
          exact ⟨part, List.mem_cons_of_mem _ member, inside⟩
      next =>
        rcases List.mem_cons.mp there with rfl | later
        · exact .inr ⟨_, List.mem_cons_self, List.mem_cons_self⟩
        · refine (inductionHypothesis later).imp_right ?_
          intro inPart
          obtain ⟨part, member, inside⟩ := inPart
          rcases List.mem_cons.mp member with rfl | other
          · exact ⟨_, List.mem_cons_self, List.mem_cons_of_mem _ inside⟩
          · exact ⟨part, List.mem_cons_of_mem _ other, inside⟩

/-- A word has no blank, and its bytes are from the line. -/
theorem mem_words {line word : Bytes} (member : word ∈ words line) :
    ∀ b ∈ word, isBlank b = false ∧ b ∈ line :=
  splitOnP_clear line word (List.mem_filter.mp member).1

theorem words_ne_nil {line : Bytes} {b : UInt8} (there : b ∈ line) (notBlank : isBlank b = false) :
    words line ≠ [] := by
  rcases mem_splitOnP_of_mem isBlank there with blank | ⟨part, member, inside⟩
  · rw [notBlank] at blank
    contradiction
  · have isWord : part ∈ words line :=
      List.mem_filter.mpr ⟨member, decide_eq_true (List.ne_nil_of_mem inside)⟩
    exact List.ne_nil_of_mem isWord

/-- An unquoted expansion with the separator as IFS: an empty field at the end is dropped. -/
def splitIFS (separator : UInt8) (value : Bytes) : List Bytes :=
  let fields := value.splitOn separator
  if fields.getLast? = some [] then fields.dropLast else fields

/-- An empty field comes from an empty value, from a separator at either end, or from two
separators in a row. -/
theorem nil_mem_splitOn_iff {separator : UInt8} {value : Bytes} :
    [] ∈ value.splitOn separator ↔ value = [] ∨ value.head? = some separator ∨
      value.getLast? = some separator ∨ [separator, separator] <:+: value := by
  constructor
  · intro member
    induction lengthIs : value.length using Nat.strong_induction_on generalizing value with
    | _ length inductionHypothesis =>
        by_cases there : separator ∈ value
        · obtain ⟨front, back, rfl, clear⟩ := List.eq_append_cons_of_mem there
          rw [List.splitOn_append_cons_self_of_not_mem clear] at member
          rcases List.mem_cons.mp member with noFront | later
          · subst noFront
            exact .inr (.inl rfl)
          · have shorter : back.length < length := by
              rw [← lengthIs, List.length_append, List.length_cons]
              omega
            have gap := inductionHypothesis back.length shorter later rfl
            rcases gap with empty | first | last | double
            · subst empty
              exact .inr (.inr (.inl (by simp)))
            · obtain ⟨rest, rfl⟩ := List.head?_eq_some_iff.mp first
              exact .inr (.inr (.inr ⟨front, rest, by simp⟩))
            · obtain ⟨rest, rfl⟩ := List.getLast?_eq_some_iff.mp last
              have ends : front ++ separator :: (rest ++ [separator]) =
                  (front ++ separator :: rest) ++ [separator] := by
                simp
              exact .inr (.inr (.inl (List.getLast?_eq_some_iff.mpr ⟨_, ends⟩)))
            · obtain ⟨before, behind, same⟩ := double
              refine .inr (.inr (.inr ⟨front ++ separator :: before, behind, ?_⟩))
              rw [← same]
              simp
        · rw [List.splitOn_eq_singleton there, List.mem_singleton] at member
          exact .inl member.symm
  · rintro (empty | first | last | double)
    · subst empty
      exact List.mem_singleton_self []
    · obtain ⟨rest, rfl⟩ := List.head?_eq_some_iff.mp first
      exact List.splitOn_append_cons_self [] rest ▸ List.mem_cons_self
    · obtain ⟨front, rfl⟩ := List.getLast?_eq_some_iff.mp last
      rw [List.splitOn_append_cons_self]
      exact List.mem_append_right _ (List.mem_singleton_self [])
    · obtain ⟨before, behind, rfl⟩ := double
      have doubled : before ++ [separator, separator] ++ behind =
          before ++ separator :: ([] ++ separator :: behind) := by
        simp
      rw [doubled, List.splitOn_append_cons_self, List.splitOn_append_cons_self]
      exact List.mem_append_right _ List.mem_cons_self

theorem mem_splitOn_of_mem {separator b : UInt8} {value : Bytes} (there : b ∈ value) :
    b = separator ∨ ∃ field ∈ value.splitOn separator, b ∈ field := by
  rw [List.splitOn_eq_splitOnP]
  exact (mem_splitOnP_of_mem (· == separator) there).imp_left eq_of_beq

theorem splitIFS_eq {separator : UInt8} {value : Bytes} (noGap : [] ∉ value.splitOn separator) :
    splitIFS separator value = value.splitOn separator := by
  unfold splitIFS
  apply if_neg
  intro emptyLast
  exact noGap (List.mem_of_getLast? emptyLast)

/-! ### Numbers -/

/-- A decimal of digits that is not empty and has no leading zero. -/
structure Canonical (value : Bytes) : Prop where
  nonempty : value ≠ []
  digits : ∀ b ∈ value, isDigit b = true
  noLeadingZero : value.head? ≠ some (byteOf '0')

theorem decimal_concat (front : Bytes) (last : UInt8) :
    decimal (front ++ [last]) = decimal front * 10 + (last.toNat - 48) := by
  rw [decimal, List.foldl_append]
  rfl

theorem isDigit_iff {b : UInt8} : isDigit b = true ↔ 48 ≤ b.toNat ∧ b.toNat ≤ 57 := by
  rw [isDigit, Bool.and_eq_true, decide_eq_true_iff, decide_eq_true_iff]
  exact Iff.rfl

theorem decimal_lt {value : Bytes} (digits : ∀ b ∈ value, isDigit b = true) :
    decimal value < 10 ^ value.length := by
  induction value using List.reverseRecOn with
  | nil => decide
  | append_singleton front last inductionHypothesis =>
      have small := inductionHypothesis fun b there => digits b (List.mem_append_left _ there)
      have digit := isDigit_iff.mp (digits last (List.mem_append_right _ (List.mem_singleton_self _)))
      rw [decimal_concat, List.length_append, List.length_singleton, pow_succ]
      omega

/-- A decimal without leading zero is as large as its length says. -/
theorem Canonical.le_decimal {value : Bytes} (canonical : Canonical value) :
    10 ^ (value.length - 1) ≤ decimal value := by
  induction value using List.reverseRecOn with
  | nil => exact absurd rfl canonical.nonempty
  | append_singleton front last inductionHypothesis =>
      rw [decimal_concat, List.length_append, List.length_singleton, Nat.add_sub_cancel]
      by_cases single : front = []
      · subst single
        have digit := isDigit_iff.mp (canonical.digits last (by simp))
        have notZero : last.toNat ≠ 48 := by
          intro zero
          apply canonical.noLeadingZero
          show some last = some (byteOf '0')
          rw [← UInt8.ofNat_toNat (x := last), zero]
          rfl
        show 1 ≤ 0 * 10 + (last.toNat - 48)
        omega
      · have noZero := canonical.noLeadingZero
        rw [List.head?_append_of_ne_nil _ single] at noZero
        have large := inductionHypothesis
          ⟨single, fun b there => canonical.digits b (List.mem_append_left _ there), noZero⟩
        have grown : 10 ^ front.length = 10 ^ (front.length - 1) * 10 := by
          rw [← pow_succ, Nat.sub_add_cancel (List.length_pos_iff.mpr single)]
        omega

theorem Canonical.one_le {value : Bytes} (canonical : Canonical value) : 1 ≤ decimal value :=
  (Nat.one_le_two_pow.trans (Nat.pow_le_pow_left (by decide) _)).trans canonical.le_decimal

/-- Exit status of `[ "$value" -gt bound ]` for a value of digits: an error if the value does not
fit a 64-bit integer. -/
def testGt (value : Bytes) (bound : Nat) : Nat :=
  if value ≠ [] ∧ value.all isDigit ∧ decimal value < 2 ^ 63 then
    if bound < decimal value then 0 else 1
  else 2

theorem testGt_eq_zero_iff {value : Bytes} {bound : Nat} (canonical : Canonical value) :
    testGt value bound = 0 ↔ bound < decimal value ∧ decimal value < 2 ^ 63 := by
  have allDigits : value.all isDigit = true := List.all_eq_true.mpr canonical.digits
  rw [testGt]
  split
  next number =>
    split
    next larger => exact iff_of_true rfl ⟨larger, number.2.2⟩
    next notLarger => exact iff_of_false Nat.one_ne_zero fun both => notLarger both.1
  next noNumber =>
    apply iff_of_false (by decide)
    intro both
    exact noNumber ⟨canonical.nonempty, allDigits, both.2⟩

end Gecit.Shell
