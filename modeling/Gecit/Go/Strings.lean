import Mathlib.Data.List.Infix
import Mathlib.Tactic.Common

/-!
Contract: the functions of Go's `strings` package on byte strings.

A Go string is an arbitrary byte sequence, not a sequence of characters.
`strings.TrimSpace` and `strings.Fields` decode runes on the way; because UTF-8
is self-synchronizing, the white-space runes they find are exactly the byte
sequences of `spaceCodes`, so both functions are stated on bytes.

Owns: prefix tests, `TrimSpace`, `Split`, `SplitN`, `Join`, `Fields`, `Contains`
and the laws by which texts built with `Join` are read back.

Does not own: the texts of any particular file or command.
-/

namespace Gecit.Go

/-- A Go string: arbitrary bytes. -/
abbrev GoString := List UInt8

/-- The bytes of a string literal. -/
def lit (text : String) : GoString :=
  text.toList.flatMap String.utf8EncodeChar

/-- The newline byte. -/
def newline : UInt8 := 10

/-- The runes of `unicode.IsSpace`. -/
def spaceRunes : List Nat :=
  [0x09, 0x0A, 0x0B, 0x0C, 0x0D, 0x20, 0x85, 0xA0, 0x1680, 0x2000, 0x2001, 0x2002, 0x2003,
    0x2004, 0x2005, 0x2006, 0x2007, 0x2008, 0x2009, 0x200A, 0x2028, 0x2029, 0x202F, 0x205F,
    0x3000]

/-- The UTF-8 encodings of the white-space runes. -/
def spaceCodes : List GoString :=
  spaceRunes.map fun rune => String.utf8EncodeChar (Char.ofNat rune)

/-! ### Prefixes -/

def hasPrefix (s pre : GoString) : Bool := pre.isPrefixOf s

def trimPrefix (s pre : GoString) : GoString :=
  if hasPrefix s pre then s.drop pre.length else s

/-- `strings.TrimSuffix` -/
def trimSuffix (s suffix : GoString) : GoString :=
  if suffix.isSuffixOf s then s.take (s.length - suffix.length) else s

theorem hasPrefix_iff {s pre : GoString} : hasPrefix s pre = true ↔ pre <+: s := by
  simp [hasPrefix]

@[simp] theorem hasPrefix_append (pre rest : GoString) : hasPrefix (pre ++ rest) pre = true := by
  simp [hasPrefix_iff]

@[simp] theorem trimPrefix_append (pre rest : GoString) : trimPrefix (pre ++ rest) pre = rest := by
  simp [trimPrefix]

/-! ### Stripping codes

Both ends of `TrimSpace` strip codewords as long as one is found. The recursion
carries the number of bytes still to be skipped, which keeps it structural. -/

/-- The first code that `s` begins with. -/
def leadingCode (codes : List GoString) (s : GoString) : Option GoString :=
  codes.find? fun code => hasPrefix s code

def stripFrom (codes : List GoString) : Nat → GoString → GoString
  | _, [] => []
  | skip + 1, _ :: s => stripFrom codes skip s
  | 0, b :: s =>
      match leadingCode codes (b :: s) with
      | some code => stripFrom codes (code.length - 1) s
      | none => b :: s

def strip (codes : List GoString) (s : GoString) : GoString := stripFrom codes 0 s

def trimLeft (s : GoString) : GoString := strip spaceCodes s

def trimRight (s : GoString) : GoString :=
  (strip (spaceCodes.map List.reverse) s.reverse).reverse

/-- `strings.TrimSpace`. -/
def trimSpace (s : GoString) : GoString := trimRight (trimLeft s)

/-- No code is a prefix of `s`. -/
def StartsClear (codes : List GoString) (s : GoString) : Prop :=
  ∀ code ∈ codes, ¬ code <+: s

instance (codes : List GoString) (s : GoString) : Decidable (StartsClear codes s) := by
  unfold StartsClear
  infer_instance

theorem leadingCode_eq_none_iff {codes : List GoString} {s : GoString} :
    leadingCode codes s = none ↔ StartsClear codes s := by
  simp [leadingCode, StartsClear, hasPrefix_iff]

theorem leadingCode_some {codes : List GoString} {s code : GoString}
    (found : leadingCode codes s = some code) : code ∈ codes ∧ code <+: s := by
  refine ⟨List.mem_of_find?_eq_some found, ?_⟩
  simpa [hasPrefix_iff] using List.find?_some found

theorem stripFrom_suffix (codes : List GoString) (skip : Nat) (s : GoString) :
    stripFrom codes skip s <:+ s := by
  fun_induction stripFrom codes skip s with
  | case1 skip => exact List.suffix_refl _
  | case2 skip b s inductionHypothesis => exact inductionHypothesis.trans (List.suffix_cons b s)
  | case3 b s code found inductionHypothesis =>
      exact inductionHypothesis.trans (List.suffix_cons b s)
  | case4 b s clear => exact List.suffix_refl _

theorem stripFrom_clear {codes : List GoString} (nonempty : [] ∉ codes) (skip : Nat)
    (s : GoString) : StartsClear codes (stripFrom codes skip s) := by
  fun_induction stripFrom codes skip s with
  | case1 skip =>
      intro code member isPrefix
      exact nonempty (by simpa [List.prefix_nil.mp isPrefix] using member)
  | case2 skip b s inductionHypothesis => exact inductionHypothesis
  | case3 b s code found inductionHypothesis => exact inductionHypothesis
  | case4 b s clear => exact leadingCode_eq_none_iff.mp clear

theorem strip_eq_self {codes : List GoString} {s : GoString} (clear : StartsClear codes s) :
    strip codes s = s := by
  cases s with
  | nil => rfl
  | cons b s => simp [strip, stripFrom, leadingCode_eq_none_iff.mpr clear]

theorem spaceCodes_nonempty : [] ∉ spaceCodes := by decide

/-! ### Trimmed strings -/

/-- Neither end of `s` is white space. -/
structure Trimmed (s : GoString) : Prop where
  start : StartsClear spaceCodes s
  stop : ∀ code ∈ spaceCodes, ¬ code <:+ s

instance (s : GoString) : Decidable (Trimmed s) :=
  decidable_of_iff (StartsClear spaceCodes s ∧ ∀ code ∈ spaceCodes, ¬ code <:+ s)
    ⟨fun both => ⟨both.1, both.2⟩, fun trimmed => ⟨trimmed.start, trimmed.stop⟩⟩

theorem reversed_startsClear_iff {s : GoString} :
    StartsClear (spaceCodes.map List.reverse) s.reverse ↔ ∀ code ∈ spaceCodes, ¬ code <:+ s := by
  simp only [StartsClear, List.forall_mem_map, List.reverse_prefix]

theorem isPrefix_trimRight (s : GoString) : trimRight s <+: s := by
  have suffix := stripFrom_suffix (spaceCodes.map List.reverse) 0 s.reverse
  rw [← List.reverse_prefix, List.reverse_reverse] at suffix
  exact suffix

theorem trimLeft_suffix (s : GoString) : trimLeft s <:+ s := stripFrom_suffix spaceCodes 0 s

theorem trimSpace_eq_self {s : GoString} (trimmed : Trimmed s) : trimSpace s = s := by
  unfold trimSpace trimLeft trimRight
  rw [strip_eq_self trimmed.start, strip_eq_self (reversed_startsClear_iff.mpr trimmed.stop),
    List.reverse_reverse]

theorem trimmed_trimSpace (s : GoString) : Trimmed (trimSpace s) where
  start := by
    intro code member isPrefix
    have clear := stripFrom_clear spaceCodes_nonempty 0 s
    exact clear code member (isPrefix.trans (isPrefix_trimRight (trimLeft s)))
  stop := by
    rw [← reversed_startsClear_iff]
    unfold trimSpace trimRight
    rw [List.reverse_reverse]
    exact stripFrom_clear (by decide) 0 _

@[simp] theorem trimSpace_trimSpace (s : GoString) : trimSpace (trimSpace s) = trimSpace s :=
  trimSpace_eq_self (trimmed_trimSpace s)

theorem isInfix_trimSpace (s : GoString) : trimSpace s <:+: s :=
  (isPrefix_trimRight (trimLeft s)).isInfix.trans (trimLeft_suffix s).isInfix

theorem mem_of_mem_trimSpace {s : GoString} {b : UInt8} (member : b ∈ trimSpace s) : b ∈ s :=
  (isInfix_trimSpace s).subset member

theorem spaceCodes_length_le : ∀ code ∈ spaceCodes, code.length ≤ 3 := by decide

/-- A clear first byte in front of a trimmed text of at least three bytes
leaves a trimmed text. -/
theorem Trimmed.cons_append (b : UInt8) (pre : GoString) {text : GoString}
    (first : ∀ code ∈ spaceCodes, code.head? ≠ some b) (long : 3 ≤ text.length)
    (trimmed : Trimmed text) : Trimmed (b :: pre ++ text) where
  start := by
    rintro code member ⟨rest, equal⟩
    cases code with
    | nil => exact spaceCodes_nonempty member
    | cons c code =>
        have heads : c = b := by simpa using congrArg List.head? equal
        exact first _ member (by simp [heads])
  stop := by
    intro code member isSuffix
    have short := spaceCodes_length_le code member
    exact trimmed.stop code member
      (List.suffix_of_suffix_length_le isSuffix (List.suffix_append _ _) (by omega))

/-! ### Lines -/

/-- `strings.Split(s, "\n")`. -/
def split (s : GoString) : List GoString := s.splitOn newline

/-- `strings.Join(parts, "\n")`. -/
def join (parts : List GoString) : GoString := [newline].intercalate parts

theorem split_cons (b : UInt8) (s : GoString) :
    split (b :: s) = if b == newline then [] :: split s else (split s).modifyHead (b :: ·) :=
  List.splitOn_cons_eq_if_modifyHead b s

theorem split_ne_nil (s : GoString) : split s ≠ [] := List.splitOn_ne_nil newline s

/-- No part of a split contains the separator. -/
theorem newline_notMem_of_mem_split {s part : GoString} (member : part ∈ split s) :
    newline ∉ part := by
  induction s generalizing part with
  | nil => simp [split] at member; simp [member]
  | cons b s inductionHypothesis =>
      rw [split_cons] at member
      split at member
      next isNewline =>
        rcases List.mem_cons.mp member with rfl | inRest
        · simp
        · exact inductionHypothesis inRest
      next notNewline =>
        obtain ⟨first, rest, parts⟩ := List.exists_cons_of_ne_nil (split_ne_nil s)
        rw [parts, List.modifyHead_cons] at member
        rcases List.mem_cons.mp member with rfl | inRest
        · have clear := @inductionHypothesis first (by simp [parts])
          have different : ¬ newline = b := fun equal => notNewline (by simp [equal])
          simp [different, clear]
        · exact inductionHypothesis (by simp [parts, inRest])

theorem split_join {parts : List GoString} (clear : ∀ part ∈ parts, newline ∉ part)
    (nonempty : parts ≠ []) : split (join parts) = parts :=
  List.splitOn_intercalate newline clear nonempty

theorem join_concat_nil {parts : List GoString} (nonempty : parts ≠ []) :
    join parts ++ [newline] = join (parts ++ [[]]) := by
  induction parts with
  | nil => contradiction
  | cons part rest inductionHypothesis =>
      cases rest with
      | nil => simp [join, List.intercalate]
      | cons next rest =>
          have tail := inductionHypothesis (by simp)
          simp only [join, List.intercalate, List.intersperse_cons_cons, List.flatten_cons,
            List.append_assoc, List.cons_append] at tail ⊢
          rw [tail]

/-- A text written as joined lines and a final newline splits into these lines
and an empty last one. -/
theorem split_join_newline {parts : List GoString} (clear : ∀ part ∈ parts, newline ∉ part)
    (nonempty : parts ≠ []) : split (join parts ++ [newline]) = parts ++ [[]] := by
  rw [join_concat_nil nonempty]
  apply split_join
  · intro part member
    rcases List.mem_append.mp member with inParts | isLast
    · exact clear part inParts
    · simp [List.mem_singleton.mp isLast]
  · simp

end Gecit.Go
