import Gecit.Foundation.BigEndian

/-!
Contract: one's-complement sums of 16-bit words, and the Internet checksum.

The sum of the big-endian words, an odd last byte padded with zero, is an exact natural
number; its one's-complement sum is the representative modulo 65535 that is zero only for
zero. Adding the words with end-around carry gives the same. The checksum is the complement,
and a zero field that is overwritten with the checksum makes the checksum of the whole zero.

Does not own any accumulator width or folding loop.
-/

namespace Gecit.Foundation

def wordSum : Bytes → Nat
  | [] => 0
  | [b] => b.toNat * 256
  | high :: low :: rest => high.toNat * 256 + low.toNat + wordSum rest

/-- The residue modulo 65535, taken as 65535 for its non-zero multiples. -/
def representative (sum : Nat) : Nat := if sum = 0 then 0 else (sum - 1) % 65535 + 1

def internetChecksum (bytes : Bytes) : Nat := 65535 - representative (wordSum bytes)

theorem wordSum_append : ∀ {left : Bytes} (right : Bytes), left.length % 2 = 0 →
    wordSum (left ++ right) = wordSum left + wordSum right
  | [], right, _ => by simp [wordSum]
  | [b], right, even => by simp at even
  | high :: low :: rest, right, even => by
      have shorter : rest.length % 2 = 0 := by
        simp only [List.length_cons] at even
        omega
      have tail := wordSum_append right shorter
      rw [List.cons_append, List.cons_append, wordSum, wordSum, tail]
      omega

/-- Each word is below 65536. -/
theorem wordSum_le : ∀ bytes : Bytes, wordSum bytes ≤ 65535 * ((bytes.length + 1) / 2)
  | [] => by simp [wordSum]
  | [b] => by
      have byte := b.toNat_lt
      simp only [wordSum, List.length_cons, List.length_nil]
      omega
  | high :: low :: rest => by
      have highByte := high.toNat_lt
      have lowByte := low.toNat_lt
      have tail := wordSum_le rest
      simp only [wordSum, List.length_cons]
      omega

theorem wordSum_encode {value : Nat} (fits : value < 256 ^ 2) (right : Bytes) :
    wordSum (BigEndian.encode 2 value ++ right) = value + wordSum right := by
  have high : (UInt8.ofNat (value / 256 ^ 1)).toNat = value / 256 := by
    rw [UInt8.toNat_ofNat', pow_one]
    exact Nat.mod_eq_of_lt (by omega)
  have low : (UInt8.ofNat (value / 256 ^ 0)).toNat = value % 256 := by
    rw [UInt8.toNat_ofNat', pow_zero, Nat.div_one]
  change (UInt8.ofNat (value / 256 ^ 1)).toNat * 256 + (UInt8.ofNat (value / 256 ^ 0)).toNat +
    wordSum right = _
  rw [high, low]
  omega

theorem representative_le (sum : Nat) : representative sum ≤ 65535 := by
  unfold representative
  split <;> omega

theorem representative_eq_self {sum : Nat} (small : sum ≤ 65535) : representative sum = sum := by
  unfold representative
  split <;> omega

/-- Adding the high half to the low half keeps the representative. -/
theorem representative_fold (sum : Nat) :
    representative (sum % 65536 + sum / 65536) = representative sum := by
  unfold representative
  split <;> split <;> omega

theorem representative_add_complement (sum : Nat) :
    representative (sum + (65535 - representative sum)) = 65535 := by
  unfold representative
  split <;> split <;> omega

theorem internetChecksum_lt (bytes : Bytes) : internetChecksum bytes < 256 ^ 2 := by
  rw [internetChecksum]
  omega

/-- A field at an even offset, zero when the checksum is taken, then set to it. -/
theorem internetChecksum_field {left : Bytes} (even : left.length % 2 = 0) (right : Bytes) :
    internetChecksum (left ++ (BigEndian.encode 2
      (internetChecksum (left ++ (BigEndian.encode 2 0 ++ right))) ++ right)) = 0 := by
  have zeroField : wordSum (left ++ (BigEndian.encode 2 0 ++ right)) =
      wordSum left + wordSum right := by
    rw [wordSum_append _ even, wordSum_encode (by decide), Nat.zero_add]
  rw [internetChecksum, wordSum_append _ even, wordSum_encode (internetChecksum_lt _),
    internetChecksum, zeroField]
  have regroup : wordSum left + (65535 - representative (wordSum left + wordSum right) +
      wordSum right) = wordSum left + wordSum right +
        (65535 - representative (wordSum left + wordSum right)) := by omega
  rw [regroup, representative_add_complement]

/-! ### End-around carry -/

/-- The words that are added. -/
def words16 : Bytes → List Nat
  | [] => []
  | [b] => [b.toNat * 256]
  | high :: low :: rest => (high.toNat * 256 + low.toNat) :: words16 rest

/-- Addition of 16-bit words; the carry is added at the low end. -/
def addCarry (a b : Nat) : Nat := (a + b) % 65536 + (a + b) / 65536

def onesComplementSum (words : List Nat) : Nat := words.foldl addCarry 0

theorem sum_words16 : ∀ bytes : Bytes, (words16 bytes).sum = wordSum bytes
  | [] => rfl
  | [b] => by simp [words16, wordSum]
  | high :: low :: rest => by rw [words16, List.sum_cons, sum_words16 rest, wordSum]

theorem lt_of_mem_words16 : ∀ {bytes : Bytes} {word : Nat}, word ∈ words16 bytes → word < 65536
  | [b], word, member => by
      have byte := b.toNat_lt
      obtain rfl := List.mem_singleton.mp member
      omega
  | high :: low :: rest, word, member => by
      have highByte := high.toNat_lt
      have lowByte := low.toNat_lt
      rcases List.mem_cons.mp member with rfl | later
      · omega
      · exact lt_of_mem_words16 later

/-- A carry that comes around is the step from one representative to the next. -/
theorem addCarry_representative (sum : Nat) {word : Nat} (fits : word < 65536) :
    addCarry (representative sum) word = representative (sum + word) := by
  unfold addCarry representative
  split <;> split <;> omega

theorem foldl_addCarry (sum : Nat) {words : List Nat} (fit : ∀ word ∈ words, word < 65536) :
    words.foldl addCarry (representative sum) = representative (sum + words.sum) := by
  induction words generalizing sum with
  | nil => rfl
  | cons word words inductionHypothesis =>
      obtain ⟨fits, later⟩ := List.forall_mem_cons.mp fit
      rw [List.foldl_cons, addCarry_representative sum fits, inductionHypothesis _ later,
        List.sum_cons, Nat.add_assoc]

theorem onesComplementSum_words16 (bytes : Bytes) :
    onesComplementSum (words16 bytes) = representative (wordSum bytes) := by
  have folded := foldl_addCarry 0 fun word => @lt_of_mem_words16 bytes word
  rw [sum_words16, Nat.zero_add] at folded
  exact folded

/-! ### The two zeros -/

theorem representative_mod (sum : Nat) : representative sum % 65535 = sum % 65535 := by
  unfold representative
  split <;> omega

theorem representative_eq_zero_iff {sum : Nat} : representative sum = 0 ↔ sum = 0 := by
  unfold representative
  split <;> omega

theorem wordSum_eq_zero_iff : ∀ {bytes : Bytes}, wordSum bytes = 0 ↔ ∀ b ∈ bytes, b = 0
  | [] => by simp [wordSum]
  | [b] => by
      rw [wordSum, List.forall_mem_singleton, ← UInt8.toNat_inj, UInt8.toNat_zero]
      omega
  | high :: low :: rest => by
      have tail := @wordSum_eq_zero_iff rest
      rw [List.forall_mem_cons, List.forall_mem_cons, ← tail, ← UInt8.toNat_inj,
        ← UInt8.toNat_inj, UInt8.toNat_zero, wordSum]
      omega

end Gecit.Foundation
