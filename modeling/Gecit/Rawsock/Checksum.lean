import Mathlib.Data.Nat.Bitwise
import Gecit.Foundation.OnesComplement

/-!
Contract: `Checksum`, with its 32-bit accumulator.

The words are added modulo 2^32, the sum is folded until its high half is zero, and the
low half is complemented.

Owns the function and its equality with the Internet checksum on every input that the
accumulator can hold. Does not own any packet.
-/

namespace Gecit.Rawsock

open Gecit.Foundation

/-- The loop over pairs of bytes, and the odd last byte. -/
def sumWords : UInt32 → Bytes → UInt32
  | sum, [] => sum
  | sum, [b] => sum + b.toUInt32 <<< 8
  | sum, high :: low :: rest => sumWords (sum + (high.toUInt32 <<< 8 ||| low.toUInt32)) rest

theorem fold_toNat (sum : UInt32) :
    ((sum &&& (0xFFFF : UInt32)) + (sum >>> 16)).toNat = sum.toNat % 65536 + sum.toNat / 65536 := by
  have below := sum.toNat_lt
  have lowHalf : (sum &&& (0xFFFF : UInt32)).toNat = sum.toNat % 65536 := by
    rw [UInt32.toNat_and]
    exact Nat.and_two_pow_sub_one_eq_mod sum.toNat 16
  have highHalf : (sum >>> 16).toNat = sum.toNat / 65536 := by
    rw [UInt32.toNat_shiftRight]
    exact Nat.shiftRight_eq_div_pow sum.toNat 16
  rw [UInt32.toNat_add, lowHalf, highHalf]
  omega

theorem highHalf_ne_zero {sum : UInt32} : sum >>> 16 ≠ 0 ↔ 65536 ≤ sum.toNat := by
  have highHalf : (sum >>> 16).toNat = sum.toNat / 65536 := by
    rw [UInt32.toNat_shiftRight]
    exact Nat.shiftRight_eq_div_pow sum.toNat 16
  rw [ne_eq, ← UInt32.toNat_inj, highHalf]
  show ¬ sum.toNat / 65536 = 0 ↔ _
  omega

/-- `for sum>>16 != 0` -/
def foldSum (sum : UInt32) : UInt32 :=
  if _carries : sum >>> 16 ≠ 0 then foldSum ((sum &&& (0xFFFF : UInt32)) + (sum >>> 16)) else sum
termination_by sum.toNat
decreasing_by
  have large := highHalf_ne_zero.mp _carries
  rw [fold_toNat]
  omega

def checksum (data : Bytes) : UInt16 := ~~~ (foldSum (sumWords 0 data)).toUInt16

theorem lastWord_toNat (b : UInt8) : (b.toUInt32 <<< 8).toNat = b.toNat * 256 := by
  have byte := b.toNat_lt
  rw [UInt32.toNat_shiftLeft, UInt8.toNat_toUInt32]
  show b.toNat <<< 8 % 2 ^ 32 = _
  rw [Nat.shiftLeft_eq]
  omega

theorem word_toNat (high low : UInt8) :
    (high.toUInt32 <<< 8 ||| low.toUInt32).toNat = high.toNat * 256 + low.toNat := by
  rw [UInt32.toNat_or, lastWord_toNat, UInt8.toNat_toUInt32]
  have disjoint := Nat.shiftLeft_add_eq_or_of_lt low.toNat_lt high.toNat
  rw [Nat.shiftLeft_eq] at disjoint
  exact disjoint.symm

theorem sumWords_toNat : ∀ {data : Bytes} {sum : UInt32}, sum.toNat + wordSum data < 2 ^ 32 →
    (sumWords sum data).toNat = sum.toNat + wordSum data
  | [], sum, _ => rfl
  | [b], sum, fits => by
      rw [wordSum] at fits
      rw [sumWords, wordSum, UInt32.toNat_add, lastWord_toNat, Nat.mod_eq_of_lt fits]
  | high :: low :: rest, sum, fits => by
      rw [wordSum, ← Nat.add_assoc] at fits
      have sumFits : sum.toNat + (high.toNat * 256 + low.toNat) < 2 ^ 32 :=
        Nat.lt_of_le_of_lt (Nat.le_add_right _ _) fits
      have added : (sum + (high.toUInt32 <<< 8 ||| low.toUInt32)).toNat =
          sum.toNat + (high.toNat * 256 + low.toNat) := by
        rw [UInt32.toNat_add, word_toNat, Nat.mod_eq_of_lt sumFits]
      rw [← added] at fits
      rw [sumWords, sumWords_toNat fits, added, wordSum, Nat.add_assoc]

theorem foldSum_toNat (sum : UInt32) : (foldSum sum).toNat = representative sum.toNat := by
  induction sum using foldSum.induct with
  | case1 sum carries inductionHypothesis =>
      rw [foldSum, dif_pos carries, inductionHypothesis, fold_toNat, representative_fold]
  | case2 sum noCarry =>
      have small : ¬ 65536 ≤ sum.toNat := fun large => noCarry (highHalf_ne_zero.mpr large)
      rw [foldSum, dif_neg noCarry, representative_eq_self (by omega)]

/-- Up to 131074 bytes the accumulator does not wrap, and the result is exact. -/
theorem checksum_toNat {data : Bytes} (fits : data.length ≤ 131074) :
    (checksum data).toNat = internetChecksum data := by
  have bound := wordSum_le data
  have sum : (sumWords 0 data).toNat = wordSum data := by
    have exact_ := @sumWords_toNat data 0
    rw [UInt32.toNat_zero, Nat.zero_add] at exact_
    apply exact_
    omega
  have small := representative_le (wordSum data)
  rw [checksum, UInt16.toNat_not, UInt32.toNat_toUInt16, foldSum_toNat, sum, internetChecksum,
    Nat.mod_eq_of_lt (by omega)]
  rfl

end Gecit.Rawsock
