import Gecit.Go.Fields

/-!
Contract: the words that `strings.Fields` finds.

A word is a text without a space code anywhere in it. `Fields` finds only words, leaves a
word alone, and may be applied line by line; words joined by blanks make a trimmed text.
-/

namespace Gecit.Go

/-- A field: not empty, and without a space code inside. -/
structure Word (s : GoString) : Prop where
  nonempty : s ≠ []
  unbroken : ∀ code ∈ spaceCodes, ¬ code <:+: s

theorem SpaceFree.word {s : GoString} (spaceFree : SpaceFree s) (nonempty : s ≠ []) : Word s where
  nonempty := nonempty
  unbroken := by
    intro code member isInfix
    cases code with
    | nil => exact spaceCodes_nonempty member
    | cons b code => exact spaceFree b (isInfix.subset (by simp)) _ member rfl

theorem Word.trimmed {s : GoString} (word : Word s) : Trimmed s where
  start := fun code member isPrefix => word.unbroken code member isPrefix.isInfix
  stop := fun code member isSuffix => word.unbroken code member isSuffix.isInfix

theorem Word.newline_notMem {s : GoString} (word : Word s) : newline ∉ s := by
  intro member
  obtain ⟨before, after, rfl⟩ := List.append_of_mem member
  exact word.unbroken [newline] newline_code ⟨before, after, by simp⟩

/-! ### Fields are words -/

/-- No space code begins inside `word` when `s` follows it. -/
def ClearBefore (word s : GoString) : Prop :=
  ∀ tail, tail ≠ [] → tail <:+ word → StartsClear spaceCodes (tail ++ s)

theorem ClearBefore.snoc {word s : GoString} {b : UInt8} (clear : ClearBefore word (b :: s))
    (here : StartsClear spaceCodes (b :: s)) : ClearBefore (word ++ [b]) s := by
  intro tail nonempty isSuffix
  rcases List.suffix_concat_iff.mp isSuffix with rfl | ⟨shorter, rfl, inWord⟩
  · exact absurd rfl nonempty
  · rw [List.append_assoc, List.singleton_append]
    by_cases empty : shorter = []
    · rw [empty]
      exact here
    · exact clear shorter empty inWord

theorem ClearBefore.flush {word s : GoString} (clear : ClearBefore word s) :
    ∀ found ∈ flush word, Word found := by
  intro found member
  rw [Go.flush] at member
  split at member
  · contradiction
  next nonempty =>
    obtain rfl := List.mem_singleton.mp member
    refine ⟨nonempty, ?_⟩
    rintro code isCode ⟨before, after, whole⟩
    have inWord : code ++ after <:+ found := ⟨before, by rw [← whole, List.append_assoc]⟩
    have codeNonempty : code ≠ [] := fun empty => spaceCodes_nonempty (empty ▸ isCode)
    have clearThere := clear (code ++ after) (by simp [codeNonempty]) inWord
    exact clearThere code isCode ⟨after ++ s, by rw [List.append_assoc]⟩

theorem word_of_mem_fieldsFrom (skip : Nat) (word s : GoString) (clear : ClearBefore word s) :
    ∀ found ∈ fieldsFrom skip word s, skip = 0 ∨ word = [] → Word found := by
  fun_induction fieldsFrom skip word s with
  | case1 skip word => exact fun found member _ => clear.flush found member
  | case2 skip word b s inductionHypothesis =>
      intro found member start
      obtain rfl : word = [] := by simpa using start
      have fresh : ClearBefore [] s := fun tail nonempty isSuffix =>
        absurd (List.suffix_nil.mp isSuffix) nonempty
      exact inductionHypothesis fresh found member (.inr rfl)
  | case3 word b s code found inductionHypothesis =>
      intro other member _
      rcases List.mem_append.mp member with inWord | later
      · exact clear.flush other inWord
      · have fresh : ClearBefore [] s := fun tail nonempty isSuffix =>
          absurd (List.suffix_nil.mp isSuffix) nonempty
        exact inductionHypothesis fresh other later (.inr rfl)
  | case4 word b s none inductionHypothesis =>
      intro found member _
      have here := leadingCode_eq_none_iff.mp none
      exact inductionHypothesis (clear.snoc here) found member (.inl rfl)

theorem word_of_mem_fields {s found : GoString} (member : found ∈ fields s) : Word found := by
  have fresh : ClearBefore [] s := fun tail nonempty isSuffix =>
    absurd (List.suffix_nil.mp isSuffix) nonempty
  exact word_of_mem_fieldsFrom 0 [] s fresh found member (.inl rfl)

/-- A word is its own only field. -/
theorem Word.fields {s : GoString} (word : Word s) : fields s = [s] := by
  have general : ∀ rest before, rest <:+ s → fieldsFrom 0 before rest = flush (before ++ rest) := by
    intro rest
    induction rest with
    | nil => simp [fieldsFrom]
    | cons b rest inductionHypothesis =>
        intro before isSuffix
        have clear : StartsClear spaceCodes (b :: rest) := fun code member isPrefix =>
          word.unbroken code member (isPrefix.isInfix.trans isSuffix.isInfix)
        simp only [fieldsFrom, leadingCode_eq_none_iff.mpr clear]
        rw [inductionHypothesis (before ++ [b]) ((List.suffix_cons b rest).trans isSuffix),
          List.append_assoc, List.singleton_append]
  have whole := general s [] (List.suffix_refl s)
  rw [Go.fields, whole, List.nil_append, flush, if_neg word.nonempty]

/-! ### Line by line -/

theorem fields_join {parts : List GoString} (nonempty : parts ≠ []) :
    fields (join parts) = parts.flatMap fields := by
  induction parts with
  | nil => contradiction
  | cons part rest inductionHypothesis =>
      by_cases single : rest = []
      · simp [single, join, List.intercalate]
      · rw [join_cons single, fields_append_newline, inductionHypothesis single, List.flatMap_cons]

theorem join_split (s : GoString) : join (split s) = s := List.intercalate_splitOn newline

/-- Trimming the lines of a text and reading their fields reads the fields of the text. -/
theorem flatMap_fields_split (s : GoString) :
    ((split s).flatMap fun line => fields (trimSpace line)) = fields s := by
  have trimmed : (fun line => fields (trimSpace line)) = fields := funext fields_trimSpace
  rw [trimmed, ← fields_join (split_ne_nil s), join_split]

/-! ### Words joined by blanks -/

/-- `strings.Join(words, " ")` -/
def joinBlank (words : List GoString) : GoString := [32].intercalate words

theorem joinBlank_cons {word : GoString} {words : List GoString} (nonempty : words ≠ []) :
    joinBlank (word :: words) = word ++ 32 :: joinBlank words := by
  obtain ⟨next, rest, rfl⟩ := List.exists_cons_of_ne_nil nonempty
  simp [joinBlank, List.intercalate, List.intersperse_cons_cons]

theorem joinBlank_ne_nil {words : List GoString} (nonempty : words ≠ [])
    (areWords : ∀ word ∈ words, Word word) : joinBlank words ≠ [] := by
  obtain ⟨first, rest, rfl⟩ := List.exists_cons_of_ne_nil nonempty
  by_cases single : rest = []
  · simpa [single, joinBlank, List.intercalate] using (areWords first (by simp)).nonempty
  · simp [joinBlank_cons single]

theorem trimmed_joinBlank {words : List GoString} (nonempty : words ≠ [])
    (areWords : ∀ word ∈ words, Word word) : Trimmed (joinBlank words) := by
  induction words with
  | nil => contradiction
  | cons word words inductionHypothesis =>
      have first := areWords word (by simp)
      by_cases single : words = []
      · simpa [single, joinBlank, List.intercalate] using first.trimmed
      · have rest := fun other member => areWords other (List.mem_cons_of_mem word member)
        rw [joinBlank_cons single]
        exact Trimmed.append_blank (by decide) (by decide) first.trimmed first.nonempty
          (inductionHypothesis single rest) (joinBlank_ne_nil single rest)

end Gecit.Go
