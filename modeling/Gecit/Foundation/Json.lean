import Mathlib.Data.List.TakeWhile
import Gecit.Foundation.BigEndian
import Gecit.Foundation.Transition

/-!
Contract: JSON texts, read byte by byte with a stack of what is open.

The reader is a partial step function; a text is read when no byte is refused and one value
is complete in the end. A number is kept as it is written, since only what follows ends it.

Owns the grammar, the bytes of strings, and what a longer text says about the value that was
read from its beginning. Does not own what the members of an object mean.
-/

namespace Gecit.Foundation.Json

inductive Value where
  | null
  | bool (flag : Bool)
  | number (text : Bytes)
  | string (text : Bytes)
  | array (items : List Value)
  | object (members : List (Bytes × Value))

def quote : UInt8 := 34

def reverseSolidus : UInt8 := 92

def isSpace (b : UInt8) : Bool := b == 32 || b == 9 || b == 10 || b == 13

def isDigit (b : UInt8) : Bool := 48 ≤ b && b ≤ 57

/-! ### Strings -/

/-- How many bytes of a character are to come, and the range of the next one. -/
abbrev Utf8 := Nat × UInt8 × UInt8

def utf8Start : Utf8 := (0, 0x80, 0xBF)

def utf8Step : Utf8 → UInt8 → Option Utf8
  | (0, _, _), b =>
      if b < 0x80 then some utf8Start
      else if 0xC2 ≤ b ∧ b ≤ 0xDF then some (1, 0x80, 0xBF)
      else if b = 0xE0 then some (2, 0xA0, 0xBF)
      else if b = 0xED then some (2, 0x80, 0x9F)
      else if 0xE1 ≤ b ∧ b ≤ 0xEF then some (2, 0x80, 0xBF)
      else if b = 0xF0 then some (3, 0x90, 0xBF)
      else if 0xF1 ≤ b ∧ b ≤ 0xF3 then some (3, 0x80, 0xBF)
      else if b = 0xF4 then some (3, 0x80, 0x8F)
      else none
  | (left + 1, low, high), b => if low ≤ b ∧ b ≤ high then some (left, 0x80, 0xBF) else none

def isUtf8 (text : Bytes) : Bool := (run utf8Step utf8Start text).map Prod.fst == some 0

/-- Where a string stands behind a reverse solidus. -/
inductive Escape where
  | none
  | solidus
  /-- In the four digits of a code unit, behind the first unit of a pair if there is one. -/
  | hex (first : Option Nat) (code left : Nat)
  | secondSolidus (first : Nat)
  | secondU (first : Nat)
deriving DecidableEq

structure Text where
  text : Bytes
  escape : Escape
deriving DecidableEq

def Text.empty : Text := ⟨[], .none⟩

def simpleEscape (b : UInt8) : Option UInt8 :=
  [(34, 34), (92, 92), (47, 47), (98, 8), (102, 12), (110, 10), (114, 13), (116, 9)].lookup b

def hexDigit (b : UInt8) : Option Nat :=
  if isDigit b then some (b.toNat - 48)
  else if 97 ≤ b ∧ b ≤ 102 then some (b.toNat - 87)
  else if 65 ≤ b ∧ b ≤ 70 then some (b.toNat - 55)
  else none

/-- A character by its number. -/
def Text.character (text : Text) (code : Nat) : Text :=
  ⟨text.text ++ String.utf8EncodeChar (Char.ofNat code), .none⟩

/-- A code unit: of the basic plane, or one of a surrogate pair. -/
def Text.unit (text : Text) (first : Option Nat) (code : Nat) : Option Text :=
  match first with
  | none =>
      if 0xD800 ≤ code ∧ code < 0xDC00 then some { text with escape := .secondSolidus code }
      else if 0xDC00 ≤ code ∧ code < 0xE000 then none
      else some (text.character code)
  | some first =>
      if 0xDC00 ≤ code ∧ code < 0xE000 then
        some (text.character (0x10000 + (first - 0xD800) * 0x400 + (code - 0xDC00)))
      else none

/-- A byte of a string, but for the quote that ends it. -/
def Text.step (text : Text) (b : UInt8) : Option Text :=
  match text.escape with
  | .none =>
      if b = reverseSolidus then some { text with escape := .solidus }
      else if b < 32 then none
      else some { text with text := text.text ++ [b] }
  | .solidus =>
      if b = 117 then some { text with escape := .hex none 0 4 }
      else (simpleEscape b).map fun plain => ⟨text.text ++ [plain], .none⟩
  | .hex first code left =>
      match hexDigit b with
      | none => none
      | some digit =>
          if left ≤ 1 then text.unit first (code * 16 + digit)
          else some { text with escape := .hex first (code * 16 + digit) (left - 1) }
  | .secondSolidus first =>
      if b = reverseSolidus then some { text with escape := .secondU first } else none
  | .secondU first => if b = 117 then some { text with escape := .hex (some first) 0 4 } else none

def Text.closes (text : Text) (b : UInt8) : Bool := text.escape == .none && b == quote

/-! ### Numbers -/

inductive NumberPart where
  | minus
  | zero
  | whole
  | point
  | fraction
  | e
  | sign
  | exponent
deriving DecidableEq

namespace NumberPart

def isE (b : UInt8) : Bool := b == 101 || b == 69

def next (part : NumberPart) (b : UInt8) : Option NumberPart :=
  match part with
  | minus => if b = 48 then some zero else if isDigit b then some whole else none
  | zero => if b = 46 then some point else if isE b then some e else none
  | whole =>
      if isDigit b then some whole
      else if b = 46 then some point
      else if isE b then some e
      else none
  | point => if isDigit b then some fraction else none
  | fraction => if isDigit b then some fraction else if isE b then some e else none
  | e =>
      if isDigit b then some exponent
      else if b = 43 ∨ b = 45 then some sign
      else none
  | sign | exponent => if isDigit b then some exponent else none

def complete (part : NumberPart) : Bool :=
  part == zero || part == whole || part == fraction || part == exponent

end NumberPart

def natural (digits : Bytes) : Nat :=
  digits.foldl (fun value b => value * 10 + (b.toNat - 48)) 0

/-- The exponent that is written behind its letter. -/
def exponentOf (text : Bytes) : Int :=
  match text with
  | [] => 0
  | sign :: digits =>
      if sign = 45 then - natural digits
      else if sign = 43 then natural digits
      else natural text

/-- Digits with a power of ten, if that is a natural number. -/
def scaled (digits : Nat) (exponent : Int) : Option Nat :=
  let scale := 10 ^ exponent.natAbs
  if 0 ≤ exponent then some (digits * scale)
  else if digits % scale = 0 then some (digits / scale)
  else none

/-- The value of a number without its sign. -/
def magnitude (unsigned : Bytes) : Option Nat :=
  let mantissa := unsigned.takeWhile fun b => !NumberPart.isE b
  let power := (unsigned.dropWhile fun b => !NumberPart.isE b).tail
  let whole := mantissa.takeWhile fun b => b != 46
  let fraction := (mantissa.dropWhile fun b => b != 46).tail
  scaled (natural (whole ++ fraction)) (exponentOf power - fraction.length)

/-- The integer that a number denotes, if it denotes one. -/
def integral (text : Bytes) : Option Int :=
  match text with
  | [] => none
  | first :: rest =>
      if first = 45 then (magnitude rest).map fun value => - (value : Int)
      else (magnitude text).map fun value => (value : Int)

/-! ### Texts -/

/-- What is open around a value. -/
inductive Frame where
  | array (items : List Value)
  | object (members : List (Bytes × Value)) (key : Bytes)

inductive Mode where
  | value
  | firstItem
  | firstKey
  | key (members : List (Bytes × Value))
  | keyText (members : List (Bytes × Value)) (text : Text)
  | colon (members : List (Bytes × Value)) (key : Bytes)
  | text (text : Text)
  | literal (left : Bytes) (value : Value)
  | number (text : Bytes) (part : NumberPart)
  /-- A value is complete. -/
  | behind (value : Value)

structure Scan where
  stack : List Frame
  mode : Mode

def start : Scan := ⟨[], .value⟩

/-- The first byte of a value. -/
def begins (stack : List Frame) (b : UInt8) : Option Scan :=
  if b = quote then some ⟨stack, .text .empty⟩
  else if b = 91 then some ⟨stack, .firstItem⟩
  else if b = 123 then some ⟨stack, .firstKey⟩
  else if b = 110 then some ⟨stack, .literal [117, 108, 108] .null⟩
  else if b = 116 then some ⟨stack, .literal [114, 117, 101] (.bool true)⟩
  else if b = 102 then some ⟨stack, .literal [97, 108, 115, 101] (.bool false)⟩
  else if b = 45 then some ⟨stack, .number [b] .minus⟩
  else if b = 48 then some ⟨stack, .number [b] .zero⟩
  else if isDigit b then some ⟨stack, .number [b] .whole⟩
  else none

/-- A byte behind a value. -/
def follows (stack : List Frame) (value : Value) (b : UInt8) : Option Scan :=
  if isSpace b then some ⟨stack, .behind value⟩
  else
    match stack with
    | [] => none
    | .array items :: outer =>
        if b = 44 then some ⟨.array (items ++ [value]) :: outer, .value⟩
        else if b = 93 then some ⟨outer, .behind (.array (items ++ [value]))⟩
        else none
    | .object members key :: outer =>
        if b = 44 then some ⟨outer, .key (members ++ [(key, value)])⟩
        else if b = 125 then some ⟨outer, .behind (.object (members ++ [(key, value)]))⟩
        else none

def step (scan : Scan) (b : UInt8) : Option Scan :=
  match scan.mode with
  | .value => if isSpace b then some scan else begins scan.stack b
  | .firstItem =>
      if isSpace b then some scan
      else if b = 93 then some ⟨scan.stack, .behind (.array [])⟩
      else begins (.array [] :: scan.stack) b
  | .firstKey =>
      if isSpace b then some scan
      else if b = 125 then some ⟨scan.stack, .behind (.object [])⟩
      else if b = quote then some ⟨scan.stack, .keyText [] .empty⟩
      else none
  | .key members =>
      if isSpace b then some scan
      else if b = quote then some ⟨scan.stack, .keyText members .empty⟩
      else none
  | .keyText members text =>
      if text.closes b then
        if isUtf8 text.text then some ⟨scan.stack, .colon members text.text⟩ else none
      else (text.step b).map fun text => ⟨scan.stack, .keyText members text⟩
  | .colon members key =>
      if isSpace b then some scan
      else if b = 58 then some ⟨.object members key :: scan.stack, .value⟩
      else none
  | .text text =>
      if text.closes b then
        if isUtf8 text.text then some ⟨scan.stack, .behind (.string text.text)⟩ else none
      else (text.step b).map fun text => ⟨scan.stack, .text text⟩
  | .literal left value =>
      match left with
      | [] => none
      | [last] => if b = last then some ⟨scan.stack, .behind value⟩ else none
      | next :: more => if b = next then some ⟨scan.stack, .literal more value⟩ else none
  | .number text part =>
      match part.next b with
      | some further => some ⟨scan.stack, .number (text ++ [b]) further⟩
      | none => if part.complete then follows scan.stack (.number text) b else none
  | .behind value => follows scan.stack value b

/-- The value that is complete at the end of a text. -/
def Scan.value (scan : Scan) : Option Value :=
  match scan with
  | ⟨[], .behind value⟩ => some value
  | ⟨[], .number text part⟩ => if part.complete then some (.number text) else none
  | _ => none

def read (text : Bytes) : Option Value := (run step start text).bind Scan.value

def Value.IsNumber : Value → Prop
  | .number _ => True
  | _ => False

/-! ### The end of a text -/

/-- Behind the value of a text only space is read. -/
theorem run_behind (value : Value) (more : Bytes) : run step ⟨[], .behind value⟩ more =
    if more.all isSpace then some ⟨[], .behind value⟩ else none := by
  induction more with
  | nil => rfl
  | cons b more inductionHypothesis =>
      rw [run, List.foldlM_cons, List.all_cons]
      have first : step ⟨[], .behind value⟩ b =
          if isSpace b then some ⟨[], .behind value⟩ else none := rfl
      rw [first]
      cases space : isSpace b with
      | false => rfl
      | true =>
          rw [Bool.true_and, ← inductionHypothesis]
          rfl

/-- A value that was read from the beginning of a text. -/
theorem read_append {part : Bytes} {value : Value} (readPart : read part = some value)
    (delimited : ¬ value.IsNumber) (more : Bytes) :
    read (part ++ more) = if more.all isSpace then some value else none := by
  obtain ⟨⟨stack, mode⟩, reached, isValue⟩ := Option.bind_eq_some_iff.mp readPart
  unfold Scan.value at isValue
  split at isValue
  next complete closed =>
    obtain ⟨rfl, rfl⟩ := Scan.mk.inj closed
    obtain rfl := Option.some.inj isValue
    rw [read, run_append, reached, Option.bind_some, run_behind]
    split <;> rfl
  next text part closed =>
    obtain ⟨_, same⟩ := Option.ite_none_right_eq_some.mp isValue
    obtain rfl := Option.some.inj same
    exact absurd trivial delimited
  next => contradiction

/-! ### What is written plainly -/

/-- A byte that stands for itself in a string. -/
def isPlain (b : UInt8) : Bool := b != quote && b != reverseSolidus && 32 ≤ b

theorem step_plain {b : UInt8} (plain : isPlain b = true) (stack : List Frame) (text : Bytes) :
    step ⟨stack, .text ⟨text, .none⟩⟩ b = some ⟨stack, .text ⟨text ++ [b], .none⟩⟩ := by
  simp only [isPlain, Bool.and_eq_true, bne_iff_ne, decide_eq_true_eq] at plain
  obtain ⟨⟨notQuote, notSolidus⟩, printable⟩ := plain
  have notClosed : Text.closes ⟨text, .none⟩ b = false := by
    rw [Text.closes, beq_eq_false_iff_ne.mpr notQuote, Bool.and_false]
  have taken : Text.step ⟨text, .none⟩ b = some ⟨text ++ [b], .none⟩ := by
    rw [Text.step]
    dsimp only
    rw [if_neg notSolidus, if_neg (UInt8.not_lt.mpr printable)]
  rw [step]
  dsimp only
  rw [if_neg (by rw [notClosed]; decide), taken, Option.map_some]

theorem run_plain {plain : Bytes} (each : ∀ b ∈ plain, isPlain b = true) (stack : List Frame)
    (text : Bytes) : run step ⟨stack, .text ⟨text, .none⟩⟩ plain =
      some ⟨stack, .text ⟨text ++ plain, .none⟩⟩ := by
  induction plain generalizing text with
  | nil =>
      rw [List.append_nil]
      rfl
  | cons b plain inductionHypothesis =>
      obtain ⟨first, rest⟩ := List.forall_mem_cons.mp each
      rw [run, List.foldlM_cons, step_plain first]
      have further := inductionHypothesis rest (text ++ [b])
      rw [List.append_assoc, List.singleton_append] at further
      exact further

/-- A string without escapes. -/
theorem run_string {plain : Bytes} (each : ∀ b ∈ plain, isPlain b = true)
    (utf8 : isUtf8 plain = true) (stack : List Frame) :
    run step ⟨stack, .text .empty⟩ (plain ++ [quote]) = some ⟨stack, .behind (.string plain)⟩ := by
  rw [run_append, Text.empty, run_plain each, Option.bind_some, List.nil_append]
  have last : step ⟨stack, .text ⟨plain, .none⟩⟩ quote =
      if isUtf8 plain then some ⟨stack, .behind (.string plain)⟩ else none := rfl
  rw [run, List.foldlM_cons, last, if_pos utf8]
  rfl

theorem isUtf8_of_ascii {text : Bytes} (ascii : ∀ b ∈ text, b < 0x80) : isUtf8 text = true := by
  have steps : run utf8Step utf8Start text = some utf8Start := by
    induction text with
    | nil => rfl
    | cons b text inductionHypothesis =>
        obtain ⟨first, rest⟩ := List.forall_mem_cons.mp ascii
        have same : utf8Step utf8Start b = some utf8Start := if_pos first
        rw [run, List.foldlM_cons, same]
        exact inductionHypothesis rest
  rw [isUtf8, steps]
  rfl

/-- More digits of a number. -/
theorem run_digits {digits : Bytes} (each : ∀ b ∈ digits, isDigit b = true) (stack : List Frame)
    (text : Bytes) : run step ⟨stack, .number text .whole⟩ digits =
      some ⟨stack, .number (text ++ digits) .whole⟩ := by
  induction digits generalizing text with
  | nil =>
      rw [List.append_nil]
      rfl
  | cons b digits inductionHypothesis =>
      obtain ⟨first, rest⟩ := List.forall_mem_cons.mp each
      have further : NumberPart.next .whole b = some .whole := if_pos first
      have taken : step ⟨stack, .number text .whole⟩ b =
          some ⟨stack, .number (text ++ [b]) .whole⟩ := by
        rw [step]
        dsimp only
        rw [further]
      rw [run, List.foldlM_cons, taken]
      have rested := inductionHypothesis rest (text ++ [b])
      rw [List.append_assoc, List.singleton_append] at rested
      exact rested

theorem begins_digit {b : UInt8} (digit : isDigit b = true) (nonzero : b ≠ 48)
    (stack : List Frame) : step ⟨stack, .value⟩ b = some ⟨stack, .number [b] .whole⟩ := by
  have bounds := digit
  simp only [isDigit, Bool.and_eq_true, decide_eq_true_eq, UInt8.le_iff_toNat_le] at bounds
  have apart : ∀ other : UInt8, ¬ (48 ≤ other.toNat ∧ other.toNat ≤ 57) → b ≠ other := by
    intro other outside same
    rw [same] at bounds
    exact outside bounds
  have noSpace : isSpace b = false := by
    unfold isSpace
    rw [beq_eq_false_iff_ne.mpr (apart 32 (by decide)), beq_eq_false_iff_ne.mpr (apart 9 (by decide)),
      beq_eq_false_iff_ne.mpr (apart 10 (by decide)), beq_eq_false_iff_ne.mpr (apart 13 (by decide))]
    rfl
  rw [step]
  dsimp only
  rw [noSpace, if_neg Bool.false_ne_true, begins, if_neg (apart quote (by decide)),
    if_neg (apart 91 (by decide)), if_neg (apart 123 (by decide)), if_neg (apart 110 (by decide)),
    if_neg (apart 116 (by decide)), if_neg (apart 102 (by decide)), if_neg (apart 45 (by decide)),
    if_neg nonzero, if_pos digit]

/-- A decimal without sign and without leading zero. -/
theorem run_decimal {first : UInt8} {digits : Bytes} (nonzero : first ≠ 48)
    (each : ∀ b ∈ first :: digits, isDigit b = true) (stack : List Frame) :
    run step ⟨stack, .value⟩ (first :: digits) =
      some ⟨stack, .number (first :: digits) .whole⟩ := by
  obtain ⟨digit, rest⟩ := List.forall_mem_cons.mp each
  rw [run, List.foldlM_cons, begins_digit digit nonzero]
  exact run_digits rest stack [first]

theorem integral_digits {first : UInt8} {digits : Bytes}
    (each : ∀ b ∈ first :: digits, isDigit b = true) :
    integral (first :: digits) = some (natural (first :: digits) : Int) := by
  have apart : ∀ other : UInt8, ¬ (48 ≤ other.toNat ∧ other.toNat ≤ 57) →
      ∀ b ∈ first :: digits, b ≠ other := by
    intro other outside b member same
    have digit := each b member
    simp only [isDigit, Bool.and_eq_true, decide_eq_true_eq, UInt8.le_iff_toNat_le, same] at digit
    exact outside digit
  have noE : ∀ b ∈ first :: digits, (!NumberPart.isE b) = true := by
    intro b member
    rw [NumberPart.isE, beq_eq_false_iff_ne.mpr (apart 101 (by decide) b member),
      beq_eq_false_iff_ne.mpr (apart 69 (by decide) b member)]
    rfl
  have noPoint : ∀ b ∈ first :: digits, (b != 46) = true := fun b member =>
    bne_iff_ne.mpr (apart 46 (by decide) b member)
  have unscaled : magnitude (first :: digits) = scaled (natural (first :: digits)) 0 := by
    unfold magnitude
    rw [List.takeWhile_eq_self_iff.mpr noE, List.dropWhile_eq_nil_iff.mpr noE]
    dsimp only
    rw [List.takeWhile_eq_self_iff.mpr noPoint, List.dropWhile_eq_nil_iff.mpr noPoint,
      List.tail_nil, List.append_nil]
    rfl
  rw [integral, if_neg (apart 45 (by decide) first List.mem_cons_self), unscaled]
  simp [scaled]

end Gecit.Foundation.Json
