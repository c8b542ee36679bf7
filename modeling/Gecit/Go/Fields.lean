import Gecit.Go.Strings
import Mathlib.Data.List.Find

/-!
Contract: `strings.Fields`, `strings.SplitN` and `strings.Contains`.

The space codes are self-synchronizing: the first byte of a code never occurs
inside another one. Splitting a text at a code therefore splits its fields,
whatever bytes stand around it, and trimming a text changes none of them.
-/

namespace Gecit.Go

/-! ### Contains and SplitN -/

def contains (s sub : GoString) : Bool := s.tails.any (hasPrefix · sub)

theorem contains_iff {s sub : GoString} : contains s sub = true ↔ sub <:+: s := by
  simp only [contains, List.any_eq_true, List.mem_tails, hasPrefix_iff,
    List.infix_iff_prefix_suffix]
  exact ⟨fun ⟨tail, suffix, isPrefix⟩ => ⟨tail, isPrefix, suffix⟩,
    fun ⟨tail, isPrefix, suffix⟩ => ⟨tail, suffix, isPrefix⟩⟩

/-- `strings.SplitN(s, "\\n", n)` for positive `n`: at most `n` parts, the last
one unsplit. -/
def splitN : Nat → GoString → List GoString
  | 0, _ => []
  | 1, s => [s]
  | count + 2, s =>
      if newline ∈ s then
        s.takeWhile (· ≠ newline) :: splitN (count + 1) ((s.dropWhile (· ≠ newline)).drop 1)
      else [s]

theorem splitN_line {line rest : GoString} (clear : newline ∉ line) (count : Nat) :
    splitN (count + 2) (line ++ newline :: rest) = line :: splitN (count + 1) rest := by
  have keep : ∀ b ∈ line, decide (b ≠ newline) = true := by
    intro b member
    simp only [decide_eq_true_eq]
    rintro rfl
    exact clear member
  rw [splitN, if_pos (by simp), List.takeWhile_append_of_pos keep,
    List.dropWhile_append_of_pos keep]
  simp

/-! ### Fields -/

/-- The field ended by a space, unless it is empty. -/
def flush (word : GoString) : List GoString := if word = [] then [] else [word]

/-- `word` is the field read so far, `skip` the bytes left of the current space. -/
def fieldsFrom : Nat → GoString → GoString → List GoString
  | _, word, [] => flush word
  | skip + 1, word, _ :: s => fieldsFrom skip word s
  | 0, word, b :: s =>
      match leadingCode spaceCodes (b :: s) with
      | some code => flush word ++ fieldsFrom (code.length - 1) [] s
      | none => fieldsFrom 0 (word ++ [b]) s

/-- `strings.Fields`. -/
def fields (s : GoString) : List GoString := fieldsFrom 0 [] s

/-- The first byte of a space code occurs nowhere behind the first byte of one. -/
theorem spaceCodes_sync : ∀ code ∈ spaceCodes, ∀ other ∈ spaceCodes,
    ∀ b ∈ other.tail, code.head? ≠ some b := by
  have checked : (spaceCodes.all fun code => spaceCodes.all fun other => other.tail.all fun b =>
      decide (code.head? ≠ some b)) = true := by
    decide
  intro code isCode other isOther b there
  have ofCode := List.all_eq_true.mp checked code isCode
  have ofOther := List.all_eq_true.mp ofCode other isOther
  exact of_decide_eq_true (List.all_eq_true.mp ofOther b there)

theorem prefix_append_code_iff {code other a : GoString} (isCode : code ∈ spaceCodes)
    (otherCode : other ∈ spaceCodes) (nonempty : a ≠ []) (b : GoString) :
    other <+: a ++ (code ++ b) ↔ other <+: a := by
  constructor
  · rintro ⟨rest, equal⟩
    rcases List.append_eq_append_iff.mp equal with ⟨beyond, inside, -⟩ | ⟨overlap, across, tail⟩
    · exact ⟨beyond, inside.symm⟩
    · cases overlap with
      | nil => simp [across]
      | cons c overlap =>
          -- `other` would reach into `code` and contain its first byte.
          have sameHead : code.head? = some c := by
            cases code with
            | nil => exact absurd isCode spaceCodes_nonempty
            | cons d code => simpa using congrArg List.head? tail
          have inTail : c ∈ other.tail := by
            obtain ⟨first, a, rfl⟩ := List.exists_cons_of_ne_nil nonempty
            simp [across]
          exact absurd sameHead (spaceCodes_sync code isCode other otherCode c inTail)
  · exact fun isPrefix => isPrefix.trans (List.prefix_append _ _)

theorem leadingCode_append_code {code a : GoString} (isCode : code ∈ spaceCodes)
    (nonempty : a ≠ []) (b : GoString) :
    leadingCode spaceCodes (a ++ (code ++ b)) = leadingCode spaceCodes a := by
  refine List.find?_congr fun other member => ?_
  rw [Bool.eq_iff_iff, hasPrefix_iff, hasPrefix_iff]
  exact prefix_append_code_iff isCode member nonempty b

/-- A code is the leading code of everything it begins. -/
theorem leadingCode_code {code : GoString} (isCode : code ∈ spaceCodes) (b : GoString) :
    leadingCode spaceCodes (code ++ b) = some code := by
  have unique : ∀ first ∈ spaceCodes, ∀ other ∈ spaceCodes, other <+: first → other = first := by
    decide
  have nonempty : code ≠ [] := fun empty => spaceCodes_nonempty (empty ▸ isCode)
  obtain ⟨found, isFound⟩ : ∃ found, leadingCode spaceCodes (code ++ b) = some found := by
    rw [← Option.ne_none_iff_exists', ne_eq, leadingCode_eq_none_iff]
    exact fun clear => clear code isCode (List.prefix_append _ _)
  obtain ⟨foundCode, foundPrefix⟩ := leadingCode_some isFound
  rw [isFound]
  rcases List.prefix_or_prefix_of_prefix foundPrefix (List.prefix_append code b) with
    inside | outside
  · rw [unique code isCode found foundCode inside]
  · rw [unique found foundCode code isCode outside]

theorem fieldsFrom_drop (skip : Nat) (word s : GoString) :
    fieldsFrom skip word s = fieldsFrom 0 word (s.drop skip) := by
  induction skip generalizing s with
  | zero => simp
  | succ skip inductionHypothesis =>
      cases s with
      | nil => simp [fieldsFrom]
      | cons b s => simpa [fieldsFrom] using inductionHypothesis s

theorem fieldsFrom_code {code : GoString} (isCode : code ∈ spaceCodes) (word b : GoString) :
    fieldsFrom 0 word (code ++ b) = flush word ++ fields b := by
  cases code with
  | nil => exact absurd isCode spaceCodes_nonempty
  | cons c code =>
      have found := leadingCode_code isCode b
      rw [List.cons_append] at found ⊢
      simp only [fieldsFrom, found]
      rw [fieldsFrom_drop]
      simp [fields]

/-- A space code splits the fields of a text. -/
theorem fields_append_code {code : GoString} (isCode : code ∈ spaceCodes) (a b : GoString) :
    fields (a ++ (code ++ b)) = fields a ++ fields b := by
  have general : ∀ skip word, skip ≤ a.length →
      fieldsFrom skip word (a ++ (code ++ b)) = fieldsFrom skip word a ++ fields b := by
    induction a with
    | nil =>
        intro skip word short
        obtain rfl : skip = 0 := by simpa using short
        simpa [fieldsFrom] using fieldsFrom_code isCode word b
    | cons c a inductionHypothesis =>
        intro skip word short
        cases skip with
        | succ skip =>
            simpa [fieldsFrom] using inductionHypothesis skip word (by simpa using short)
        | zero =>
            have same := leadingCode_append_code isCode (a := c :: a) (by simp) b
            rw [List.cons_append] at same ⊢
            simp only [fieldsFrom, same]
            split
            next other found =>
              have inside := (leadingCode_some found).2.length_le
              rw [inductionHypothesis (other.length - 1) [] (by simp at inside; omega),
                List.append_assoc]
            next => exact inductionHypothesis 0 (word ++ [c]) (Nat.zero_le _)
  exact general 0 [] (Nat.zero_le _)

theorem newline_code : [newline] ∈ spaceCodes := by decide

theorem fields_append_newline (a b : GoString) :
    fields (a ++ newline :: b) = fields a ++ fields b :=
  fields_append_code newline_code a b

/-- No byte of `s` begins a space code. -/
def SpaceFree (s : GoString) : Prop := ∀ b ∈ s, ∀ code ∈ spaceCodes, code.head? ≠ some b

theorem SpaceFree.startsClear {s : GoString} (spaceFree : SpaceFree s) :
    StartsClear spaceCodes s := by
  intro code member isPrefix
  cases code with
  | nil => exact spaceCodes_nonempty member
  | cons b code => exact spaceFree b (isPrefix.subset (by simp)) _ member rfl

theorem SpaceFree.trimmed {s : GoString} (spaceFree : SpaceFree s) : Trimmed s where
  start := spaceFree.startsClear
  stop := by
    intro code member isSuffix
    cases code with
    | nil => exact spaceCodes_nonempty member
    | cons b code => exact spaceFree b (isSuffix.subset (by simp)) _ member rfl

/-- A word without spaces is its own only field. -/
theorem fields_word {s : GoString} (nonempty : s ≠ []) (spaceFree : SpaceFree s) :
    fields s = [s] := by
  have general : ∀ word, fieldsFrom 0 word s = flush (word ++ s) := by
    clear nonempty
    induction s with
    | nil => simp [fieldsFrom]
    | cons b s inductionHypothesis =>
        intro word
        have clear := leadingCode_eq_none_iff.mpr spaceFree.startsClear
        have rest := inductionHypothesis (fun c member => spaceFree c (by simp [member]))
        simp only [fieldsFrom, clear]
        rw [rest, List.append_assoc, List.singleton_append]
  simpa [fields, flush, nonempty] using general []

/-- The fields of words written one per line are the words. -/
theorem fields_lines {words : List GoString}
    (isWord : ∀ word ∈ words, word ≠ [] ∧ SpaceFree word) :
    fields (words.flatMap (· ++ [newline])) = words := by
  induction words with
  | nil => rfl
  | cons word words inductionHypothesis =>
      have first := isWord word (by simp)
      have rest := inductionHypothesis (fun other member => isWord other (by simp [member]))
      rw [List.flatMap_cons, List.append_assoc, List.singleton_append, fields_append_newline,
        fields_word first.1 first.2, rest]
      rfl

/-! ### Trimming keeps the fields -/

theorem stripFrom_drop (codes : List GoString) (skip : Nat) (s : GoString) :
    stripFrom codes skip s = strip codes (s.drop skip) := by
  induction skip generalizing s with
  | zero => rfl
  | succ skip inductionHypothesis =>
      cases s with
      | nil => simp [strip, stripFrom]
      | cons b s => simpa [stripFrom] using inductionHypothesis s

theorem strip_of_leadingCode {codes : List GoString} (nonempty : [] ∉ codes)
    {code s : GoString} (found : leadingCode codes s = some code) :
    strip codes s = strip codes (s.drop code.length) := by
  obtain ⟨isCode, rest, rfl⟩ := leadingCode_some found
  cases code with
  | nil => exact absurd isCode nonempty
  | cons c code =>
      rw [List.cons_append] at found ⊢
      conv_lhs => rw [strip]
      simp only [stripFrom, found]
      rw [stripFrom_drop]
      simp

/-- What `strip` removes is a sequence of codes. -/
theorem strip_decompose {codes : List GoString} (nonempty : [] ∉ codes) (s : GoString) :
    ∃ parts : List GoString, (∀ part ∈ parts, part ∈ codes) ∧
      s = parts.flatten ++ strip codes s := by
  induction length : s.length using Nat.strong_induction_on generalizing s with
  | _ count inductionHypothesis =>
      cases found : leadingCode codes s with
      | none =>
          rw [strip_eq_self (leadingCode_eq_none_iff.mp found)]
          exact ⟨[], by simp⟩
      | some code =>
          rw [strip_of_leadingCode nonempty found]
          obtain ⟨isCode, rest, rfl⟩ := leadingCode_some found
          have positive : 0 < code.length :=
            List.length_pos_of_ne_nil fun empty => nonempty (empty ▸ isCode)
          have shorter : rest.length < count := by
            rw [← length, List.length_append]
            omega
          obtain ⟨parts, areCodes, equal⟩ := inductionHypothesis _ shorter rest rfl
          refine ⟨code :: parts, ?_, ?_⟩
          · intro part member
            rcases List.mem_cons.mp member with rfl | inParts
            · exact isCode
            · exact areCodes part inParts
          · rw [List.drop_left, List.flatten_cons, List.append_assoc, ← equal]

theorem fields_codes_append {parts : List GoString} (areCodes : ∀ part ∈ parts, part ∈ spaceCodes)
    (s : GoString) : fields (parts.flatten ++ s) = fields s := by
  induction parts with
  | nil => rfl
  | cons part parts inductionHypothesis =>
      rw [List.flatten_cons, List.append_assoc]
      calc fields (part ++ (parts.flatten ++ s))
          = fields (parts.flatten ++ s) := fieldsFrom_code (areCodes part (by simp)) [] _
        _ = fields s := inductionHypothesis fun other member => areCodes other (by simp [member])

theorem fields_append_codes {parts : List GoString} (areCodes : ∀ part ∈ parts, part ∈ spaceCodes)
    (s : GoString) : fields (s ++ parts.flatten) = fields s := by
  cases parts with
  | nil => simp
  | cons part parts =>
      have tail := fields_codes_append
        (fun other member => areCodes other (List.mem_cons_of_mem part member)) []
      rw [List.append_nil] at tail
      rw [List.flatten_cons, fields_append_code (areCodes part (by simp)), tail]
      simp [fields, fieldsFrom, flush]

theorem trimLeft_decompose (s : GoString) :
    ∃ parts : List GoString, (∀ part ∈ parts, part ∈ spaceCodes) ∧
      s = parts.flatten ++ trimLeft s :=
  strip_decompose spaceCodes_nonempty s

theorem trimRight_decompose (s : GoString) :
    ∃ parts : List GoString, (∀ part ∈ parts, part ∈ spaceCodes) ∧
      s = trimRight s ++ parts.flatten := by
  obtain ⟨parts, areCodes, equal⟩ :=
    strip_decompose (show [] ∉ spaceCodes.map List.reverse by decide) s.reverse
  refine ⟨(parts.map List.reverse).reverse, ?_, ?_⟩
  · intro part member
    obtain ⟨reversed, inParts, rfl⟩ := List.mem_map.mp (List.mem_reverse.mp member)
    obtain ⟨code, isCode, rfl⟩ := List.mem_map.mp (areCodes reversed inParts)
    rwa [List.reverse_reverse]
  · have mirrored := congrArg List.reverse equal
    rwa [List.reverse_reverse, List.reverse_append, List.reverse_flatten] at mirrored

theorem fields_trimSpace (s : GoString) : fields (trimSpace s) = fields s := by
  obtain ⟨left, leftCodes, leftEqual⟩ := trimLeft_decompose s
  obtain ⟨right, rightCodes, rightEqual⟩ := trimRight_decompose (trimLeft s)
  calc fields (trimSpace s)
      = fields (trimRight (trimLeft s) ++ right.flatten) :=
        (fields_append_codes rightCodes _).symm
    _ = fields (trimLeft s) := by rw [← rightEqual]
    _ = fields (left.flatten ++ trimLeft s) := (fields_codes_append leftCodes _).symm
    _ = fields s := by rw [← leftEqual]

/-! ### Trimming keeps a text that neither starts nor ends with space -/

theorem infix_of_codes_append {parts : List GoString} {first : UInt8} {sub s : GoString}
    (areCodes : ∀ part ∈ parts, part ∈ spaceCodes)
    (clear : ∀ code ∈ spaceCodes, first ∉ code) (isInfix : first :: sub <:+: parts.flatten ++ s) :
    first :: sub <:+: s := by
  obtain ⟨before, after, equal⟩ := isInfix
  rw [List.append_assoc] at equal
  rcases List.append_eq_append_iff.mp equal with ⟨overlap, inside, across⟩ | ⟨beyond, -, tail⟩
  · cases overlap with
    | nil => exact ⟨[], after, by simpa using across⟩
    | cons c overlap =>
        have same : c = first := by simpa using (congrArg List.head? across).symm
        obtain ⟨code, inParts, inCode⟩ := List.mem_flatten.mp
          (show first ∈ parts.flatten by simp [inside, same])
        exact absurd inCode (clear code (areCodes code inParts))
  · exact ⟨beyond, after, by rw [tail, List.append_assoc]⟩

theorem infix_of_append_codes {parts : List GoString} {last : UInt8} {sub s : GoString}
    (areCodes : ∀ part ∈ parts, part ∈ spaceCodes)
    (clear : ∀ code ∈ spaceCodes, last ∉ code) (isInfix : sub ++ [last] <:+: s ++ parts.flatten) :
    sub ++ [last] <:+: s := by
  obtain ⟨before, after, equal⟩ := isInfix
  rcases List.append_eq_append_iff.mp equal with ⟨beyond, inside, -⟩ | ⟨overlap, across, tail⟩
  · exact ⟨before, beyond, inside.symm⟩
  · rcases List.eq_nil_or_concat overlap with rfl | ⟨overlap, c, rfl⟩
    · exact ⟨before, [], by simpa using across⟩
    · have same : last = c := by simpa using congrArg List.getLast? across
      obtain ⟨code, inParts, inCode⟩ := List.mem_flatten.mp
        (show last ∈ parts.flatten by simp [tail, same])
      exact absurd inCode (clear code (areCodes code inParts))

/-- Trimming keeps every infix whose ends occur in no space code. -/
theorem infix_trimSpace {s sub : GoString} {first last : UInt8}
    (firstClear : ∀ code ∈ spaceCodes, first ∉ code)
    (lastClear : ∀ code ∈ spaceCodes, last ∉ code)
    (isInfix : first :: sub ++ [last] <:+: s) : first :: sub ++ [last] <:+: trimSpace s := by
  obtain ⟨left, leftCodes, leftEqual⟩ := trimLeft_decompose s
  obtain ⟨right, rightCodes, rightEqual⟩ := trimRight_decompose (trimLeft s)
  rw [leftEqual] at isInfix
  have inLeft : first :: sub ++ [last] <:+: trimLeft s :=
    infix_of_codes_append leftCodes firstClear isInfix
  rw [rightEqual] at inLeft
  exact infix_of_append_codes rightCodes lastClear inLeft

/-- A trimmed text in front of a newline is what trimming finds there. -/
theorem trimSpace_append_newline {text : GoString} (trimmed : Trimmed text)
    (nonempty : text ≠ []) : trimSpace (text ++ [newline]) = text := by
  have startClear : StartsClear spaceCodes (text ++ ([newline] ++ [])) := by
    intro code member isPrefix
    exact trimmed.start code member
      ((prefix_append_code_iff newline_code member nonempty []).mp isPrefix)
  have stopClear := reversed_startsClear_iff.mpr trimmed.stop
  rw [List.append_nil] at startClear
  have found : leadingCode (spaceCodes.map List.reverse) (newline :: text.reverse) =
      some [newline] := by
    simp [leadingCode, spaceCodes, spaceRunes, hasPrefix, newline, String.utf8EncodeChar]
  unfold trimSpace trimLeft trimRight
  rw [strip_eq_self startClear, List.reverse_append, List.reverse_singleton,
    List.singleton_append, strip_of_leadingCode (by decide) found]
  simp only [List.length_singleton, List.drop_one, List.tail_cons]
  rw [strip_eq_self stopClear, List.reverse_reverse]

/-- Trimmed texts with a blank between them are a trimmed text. -/
theorem Trimmed.append_blank {blank : UInt8} {first rest : GoString}
    (isCode : [blank] ∈ spaceCodes)
    (alone : (spaceCodes.all fun code => blank ∉ code || code = [blank]) = true)
    (firstTrimmed : Trimmed first) (firstNonempty : first ≠ []) (restTrimmed : Trimmed rest)
    (restNonempty : rest ≠ []) : Trimmed (first ++ blank :: rest) where
  start := by
    intro code member isPrefix
    exact firstTrimmed.start code member
      ((prefix_append_code_iff isCode member firstNonempty rest).mp isPrefix)
  stop := by
    intro code member isSuffix
    rcases List.suffix_or_suffix_of_suffix isSuffix
        ((List.suffix_cons blank rest).trans (List.suffix_append first _)) with inside | outside
    · exact restTrimmed.stop code member inside
    · obtain ⟨across, rfl⟩ := outside
      rcases List.eq_nil_or_concat across with rfl | ⟨across, c, rfl⟩
      · exact restTrimmed.stop rest (by simpa using member) (List.suffix_refl rest)
      · -- The byte in front of `rest` is the blank, so the code is the blank alone.
        have isBlank : c = blank := by
          obtain ⟨before, equal⟩ := isSuffix
          have whole : before ++ across ++ [c] ++ rest = first ++ [blank] ++ rest := by
            simpa using equal
          simpa using congrArg List.getLast? (List.append_cancel_right whole)
        have ofCode := List.all_eq_true.mp alone _ member
        have single : across.concat c ++ rest = [blank] := by simpa [isBlank] using ofCode
        have lengths := congrArg List.length single
        have positive := List.length_pos_of_ne_nil restNonempty
        simp at lengths
        omega

/-- Lines of trimmed words stay trimmed when they are put under each other. -/
theorem Trimmed.append_newline {first rest : GoString} (firstTrimmed : Trimmed first)
    (firstNonempty : first ≠ []) (restTrimmed : Trimmed rest) (restNonempty : rest ≠ []) :
    Trimmed (first ++ newline :: rest) :=
  Trimmed.append_blank newline_code (by decide) firstTrimmed firstNonempty restTrimmed restNonempty

theorem join_cons {part : GoString} {parts : List GoString} (nonempty : parts ≠ []) :
    join (part :: parts) = part ++ newline :: join parts := by
  obtain ⟨next, rest, rfl⟩ := List.exists_cons_of_ne_nil nonempty
  simp [join, List.intercalate, List.intersperse_cons_cons]

theorem join_ne_nil {words : List GoString} (nonempty : words ≠ [])
    (isWord : ∀ word ∈ words, word ≠ []) : join words ≠ [] := by
  obtain ⟨first, rest, rfl⟩ := List.exists_cons_of_ne_nil nonempty
  by_cases single : rest = []
  · simpa [single, join, List.intercalate] using isWord first (by simp)
  · simp [join_cons single]

theorem trimmed_join {words : List GoString} (nonempty : words ≠ [])
    (isWord : ∀ word ∈ words, word ≠ [] ∧ SpaceFree word) : Trimmed (join words) := by
  induction words with
  | nil => contradiction
  | cons word words inductionHypothesis =>
      have first := isWord word (by simp)
      by_cases single : words = []
      · simpa [single, join, List.intercalate] using first.2.trimmed
      · have rest := fun other member => isWord other (List.mem_cons_of_mem word member)
        rw [join_cons single]
        exact Trimmed.append_newline first.2.trimmed first.1 (inductionHypothesis single rest)
          (join_ne_nil single fun other member => (rest other member).1)

theorem flatMap_newline {words : List GoString} (nonempty : words ≠ []) :
    words.flatMap (· ++ [newline]) = join words ++ [newline] := by
  induction words with
  | nil => contradiction
  | cons word words inductionHypothesis =>
      by_cases single : words = []
      · simp [single, join, List.intercalate]
      · rw [List.flatMap_cons, inductionHypothesis single, join_cons single]
        simp

/-- Words written one per line, trimmed. -/
theorem trimSpace_lines {words : List GoString} (nonempty : words ≠ [])
    (isWord : ∀ word ∈ words, word ≠ [] ∧ SpaceFree word) :
    trimSpace (words.flatMap (· ++ [newline])) = join words := by
  rw [flatMap_newline nonempty]
  exact trimSpace_append_newline (trimmed_join nonempty isWord)
    (join_ne_nil nonempty fun word member => (isWord word member).1)

end Gecit.Go
