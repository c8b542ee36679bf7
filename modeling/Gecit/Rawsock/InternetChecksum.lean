import Mathlib.Logic.Function.Iterate
import Gecit.Rawsock.Packet

/-!
Contract: what `Checksum` computes, as far as its accumulator reaches.

At 131074 bytes the largest sum is 2^32 - 1, so no addition of the loop wraps. From there
two rounds of folding are enough. The result is the complement of the one's-complement sum,
where zero stands for an all-zero input only.

Owns the loop's additions and its rounds, and a zero field that is set to the checksum.
Does not own the packets whose fields are set.
-/

namespace Gecit.Rawsock

open Gecit.Foundation

/-! ### Additions -/

/-- Every addition of the loop, and that of an odd last byte, stays below 2^32. -/
def NeverWraps : UInt32 → Bytes → Prop
  | _, [] => True
  | sum, [b] => sum.toNat + (b.toUInt32 <<< 8).toNat < 2 ^ 32
  | sum, high :: low :: rest =>
      sum.toNat + (high.toUInt32 <<< 8 ||| low.toUInt32).toNat < 2 ^ 32 ∧
        NeverWraps (sum + (high.toUInt32 <<< 8 ||| low.toUInt32)) rest

/-- What is left to add is part of the bound. -/
theorem neverWraps : ∀ {data : Bytes} {sum : UInt32}, sum.toNat + wordSum data < 2 ^ 32 →
    NeverWraps sum data
  | [], _, _ => trivial
  | [b], sum, fits => by
      rw [NeverWraps, lastWord_toNat]
      exact fits
  | high :: low :: rest, sum, fits => by
      rw [wordSum, ← Nat.add_assoc] at fits
      have sumFits := Nat.lt_of_le_of_lt (Nat.le_add_right _ _) fits
      refine ⟨word_toNat high low ▸ sumFits, neverWraps ?_⟩
      rw [UInt32.toNat_add, word_toNat, Nat.mod_eq_of_lt sumFits]
      exact fits

/-- The largest sum of 65537 words is the largest value of the accumulator. -/
theorem wordSum_lt {data : Bytes} (fits : data.length ≤ 131074) : wordSum data < 2 ^ 32 := by
  have bound := wordSum_le data
  omega

/-! ### Rounds -/

/-- `sum = (sum & 0xFFFF) + (sum >> 16)` -/
def foldStep (sum : UInt32) : UInt32 := (sum &&& (0xFFFF : UInt32)) + (sum >>> 16)

/-- The loop ends after so many rounds: no earlier test fails, and the last one does. -/
structure FoldsIn (rounds : Nat) (sum : UInt32) : Prop where
  goesOn : ∀ n < rounds, (foldStep^[n] sum) >>> 16 ≠ 0
  ends : (foldStep^[rounds] sum) >>> 16 = 0
  value : foldSum sum = foldStep^[rounds] sum

theorem foldsIn_zero {sum : UInt32} (noCarry : sum >>> 16 = 0) : FoldsIn 0 sum where
  goesOn := fun n below => absurd below n.not_lt_zero
  ends := noCarry
  value := by
    rw [foldSum, dif_neg (not_not.mpr noCarry)]
    rfl

theorem foldsIn_succ {rounds : Nat} {sum : UInt32} (carries : sum >>> 16 ≠ 0)
    (later : FoldsIn rounds (foldStep sum)) : FoldsIn (rounds + 1) sum where
  goesOn := by
    intro n below
    cases n with
    | zero => exact carries
    | succ n =>
        rw [Function.iterate_succ_apply]
        exact later.goesOn n (by omega)
  ends := by
    rw [Function.iterate_succ_apply]
    exact later.ends
  value := by
    rw [Function.iterate_succ_apply, ← later.value, foldSum, dif_pos carries]
    rfl

theorem highHalf_eq_zero {sum : UInt32} (small : sum.toNat < 65536) : sum >>> 16 = 0 := by
  by_contra carries
  have large := highHalf_ne_zero.mp carries
  omega

/-- The first round leaves at most one carry, and the second none. -/
theorem foldsIn_two (sum : UInt32) : ∃ rounds ≤ 2, FoldsIn rounds sum := by
  have below := sum.toNat_lt
  by_cases carries : sum >>> 16 = 0
  · exact ⟨0, by omega, foldsIn_zero carries⟩
  have once : (foldStep sum).toNat = sum.toNat % 65536 + sum.toNat / 65536 := fold_toNat sum
  by_cases carriesAgain : foldStep sum >>> 16 = 0
  · exact ⟨1, by omega, foldsIn_succ carries (foldsIn_zero carriesAgain)⟩
  have twice : (foldStep (foldStep sum)).toNat =
      (foldStep sum).toNat % 65536 + (foldStep sum).toNat / 65536 := fold_toNat (foldStep sum)
  have large := highHalf_ne_zero.mp carriesAgain
  have noCarry := @highHalf_eq_zero (foldStep (foldStep sum)) (by omega)
  exact ⟨2, le_rfl, foldsIn_succ carries (foldsIn_succ carriesAgain (foldsIn_zero noCarry))⟩

/-! ### The result -/

theorem foldSum_sumWords {data : Bytes} (fits : data.length ≤ 131074) :
    (foldSum (sumWords 0 data)).toNat = onesComplementSum (words16 data) := by
  have exactSum := @sumWords_toNat data 0
  rw [UInt32.toNat_zero, Nat.zero_add] at exactSum
  rw [foldSum_toNat, exactSum (wordSum_lt fits), onesComplementSum_words16]

theorem checksum_eq {data : Bytes} (fits : data.length ≤ 131074) :
    checksum data = ~~~ UInt16.ofNat (onesComplementSum (words16 data)) := by
  have folded : (foldSum (sumWords 0 data)).toUInt16 =
      UInt16.ofNat (onesComplementSum (words16 data)) := by
    rw [← foldSum_sumWords fits]
    rfl
  rw [checksum, folded]

theorem onesComplementSum_le (data : Bytes) : onesComplementSum (words16 data) ≤ 65535 := by
  rw [onesComplementSum_words16]
  exact representative_le _

theorem onesComplementSum_mod (data : Bytes) :
    onesComplementSum (words16 data) % 65535 = (words16 data).sum % 65535 := by
  rw [onesComplementSum_words16, sum_words16]
  exact representative_mod _

theorem onesComplementSum_eq_zero_iff {data : Bytes} :
    onesComplementSum (words16 data) = 0 ↔ ∀ b ∈ data, b = 0 := by
  rw [onesComplementSum_words16, representative_eq_zero_iff]
  exact wordSum_eq_zero_iff

/-! ### A field that is set -/

theorem split_zeroField {data : Bytes} {offset : Nat} (high : data[offset]? = some 0)
    (low : data[offset + 1]? = some 0) :
    data = data.take offset ++ (BigEndian.encode 2 0 ++ data.drop (offset + 2)) := by
  obtain ⟨highInside, highZero⟩ := List.getElem?_eq_some_iff.mp high
  obtain ⟨lowInside, lowZero⟩ := List.getElem?_eq_some_iff.mp low
  have dropped : data.drop offset = 0 :: 0 :: data.drop (offset + 2) := by
    rw [List.drop_eq_getElem_cons highInside, highZero, List.drop_eq_getElem_cons lowInside,
      lowZero]
  calc data = data.take offset ++ data.drop offset := (List.take_append_drop offset data).symm
    _ = data.take offset ++ (0 :: 0 :: data.drop (offset + 2)) := by rw [dropped]

/-- The field's own words are zero while the checksum is taken. -/
theorem checksum_putChecksum {data : Bytes} (fits : data.length ≤ 131074) {offset : Nat}
    (even : offset % 2 = 0) (high : data[offset]? = some 0) (low : data[offset + 1]? = some 0) :
    checksum (putChecksum data offset (checksum data)) = 0 := by
  obtain ⟨inside, -⟩ := List.getElem?_eq_some_iff.mp high
  have start : (data.take offset).length = offset := by
    rw [List.length_take]
    omega
  have fields := split_zeroField high low
  have result := checksum_toNat fits
  generalize data.take offset = left, data.drop (offset + 2) = right at start fields
  subst fields
  rw [putChecksum_append left right start, result]
  apply UInt16.toNat_inj.mp
  rw [checksum_toNat, internetChecksum_field (by omega) right]
  · rfl
  · simp only [List.length_append, BigEndian.encode_length] at fits ⊢
    omega

/-- The Internet checksum of the bytes, taken without a wrap and in a bounded number of
rounds. -/
structure ExactChecksum (data : Bytes) : Prop where
  accumulator : NeverWraps 0 data
  rounds : ∃ rounds ≤ 2, FoldsIn rounds (sumWords 0 data)
  complement : checksum data = ~~~ UInt16.ofNat (onesComplementSum (words16 data))
  small : onesComplementSum (words16 data) ≤ 65535
  residue : onesComplementSum (words16 data) % 65535 = (words16 data).sum % 65535
  zero : onesComplementSum (words16 data) = 0 ↔ ∀ b ∈ data, b = 0
  field : ∀ offset, offset % 2 = 0 → data[offset]? = some 0 → data[offset + 1]? = some 0 →
    checksum (putChecksum data offset (checksum data)) = 0

theorem exactChecksum {data : Bytes} (fits : data.length ≤ 131074) : ExactChecksum data where
  accumulator := by
    apply neverWraps
    rw [UInt32.toNat_zero, Nat.zero_add]
    exact wordSum_lt fits
  rounds := foldsIn_two _
  complement := checksum_eq fits
  small := onesComplementSum_le data
  residue := onesComplementSum_mod data
  zero := onesComplementSum_eq_zero_iff
  field := fun _ even high low => checksum_putChecksum fits even high low

/-- The test's vector. -/
theorem exactChecksum_knownVector :
    ExactChecksum [0x00, 0x01, 0xf2, 0x03, 0xf4, 0xf5, 0xf6, 0xf7] ∧
      (checksum [0x00, 0x01, 0xf2, 0x03, 0xf4, 0xf5, 0xf6, 0xf7]).toNat = 0x220d := by
  have short : [0x00, 0x01, 0xf2, 0x03, 0xf4, 0xf5, 0xf6, 0xf7].length ≤ 131074 := by decide
  refine ⟨exactChecksum short, ?_⟩
  rw [checksum_toNat short]
  decide

end Gecit.Rawsock
