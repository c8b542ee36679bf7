import Mathlib.Data.Nat.Bitwise
import Gecit.Foundation.BigEndian

/-!
Contract: Go's byte slices with their run-time checks.

Indexing and slicing outside a slice panic; here they are errors of the result, so that
a function without panics is one that is always `ok`. Slicing is checked against the
length, which is stricter than Go's check against the capacity.

Owns the checked accesses and the integer reads built from them.
-/

namespace Gecit.Go

open Gecit.Foundation

inductive Fault where
  | index
  | slice
  /-- A loop went on for longer than its input. -/
  | loop
deriving DecidableEq, Repr

abbrev Checked := Except Fault

def index (data : Bytes) (i : Nat) : Checked UInt8 :=
  match data[i]? with
  | some b => .ok b
  | none => .error .index

/-- `data[low:high]` -/
def subslice (data : Bytes) (low high : Nat) : Checked Bytes :=
  if low ≤ high ∧ high ≤ data.length then .ok (slice data low (high - low)) else .error .slice

/-- `int(data[i])` -/
def uint8At (data : Bytes) (i : Nat) : Checked Nat := do
  let b ← index data i
  return b.toNat

/-- `int(data[i])<<8 | int(data[i+1])` -/
def uint16At (data : Bytes) (i : Nat) : Checked Nat := do
  let high ← index data i
  let low ← index data (i + 1)
  return high.toNat <<< 8 ||| low.toNat

/-- `int(data[i])<<16 | int(data[i+1])<<8 | int(data[i+2])` -/
def uint24At (data : Bytes) (i : Nat) : Checked Nat := do
  let high ← index data i
  let middle ← index data (i + 1)
  let low ← index data (i + 2)
  return high.toNat <<< 16 ||| middle.toNat <<< 8 ||| low.toNat

@[simp] theorem ok_bind {α β : Type} (value : α) (rest : α → Checked β) :
    (Except.ok value : Checked α) >>= rest = rest value := rfl

theorem index_eq {data : Bytes} {i : Nat} (inside : i < data.length) :
    index data i = .ok data[i] := by
  rw [index, List.getElem?_eq_getElem inside]

theorem subslice_eq {data : Bytes} {low count : Nat} (inside : low + count ≤ data.length) :
    subslice data low (low + count) = .ok (slice data low count) := by
  rw [subslice, if_pos ⟨Nat.le_add_right low count, inside⟩, Nat.add_sub_cancel_left]

theorem number_one {data : Bytes} {i : Nat} (inside : i < data.length) :
    number data i 1 = (data[i]).toNat := by
  rw [number_succ (by omega)]
  simp [number, slice, BigEndian.decode]

theorem uint8At_eq {data : Bytes} {i : Nat} (inside : i + 1 ≤ data.length) :
    uint8At data i = .ok (number data i 1) := by
  rw [uint8At, index_eq inside, number_one inside]
  rfl

/-- The bytes of a shift-and-or read do not overlap. -/
theorem shiftLeft_or_eq (high : Nat) {low : Nat} (byte : low < 2 ^ 8) :
    high <<< 8 ||| low = high * 256 + low := by
  rw [← Nat.shiftLeft_add_eq_or_of_lt byte, Nat.shiftLeft_eq]

theorem uint16At_eq {data : Bytes} {i : Nat} (inside : i + 2 ≤ data.length) :
    uint16At data i = .ok (number data i 2) := by
  have value : (data[i]).toNat <<< 8 ||| (data[i + 1]).toNat = number data i 2 := by
    rw [shiftLeft_or_eq _ (data[i + 1]).toNat_lt, number_succ (by omega), number_one (by omega)]
    rfl
  rw [uint16At, index_eq (by omega), index_eq (by omega)]
  exact congrArg Except.ok value

theorem uint24At_eq {data : Bytes} {i : Nat} (inside : i + 3 ≤ data.length) :
    uint24At data i = .ok (number data i 3) := by
  have regroup : (data[i]).toNat <<< 16 ||| (data[i + 1]).toNat <<< 8 =
      ((data[i]).toNat <<< 8 ||| (data[i + 1]).toNat) <<< 8 := by
    rw [Nat.shiftLeft_or_distrib, ← Nat.shiftLeft_add]
  have value : (data[i]).toNat <<< 16 ||| (data[i + 1]).toNat <<< 8 ||| (data[i + 2]).toNat =
      number data i 3 := by
    rw [regroup, shiftLeft_or_eq _ (data[i + 2]).toNat_lt, shiftLeft_or_eq _ (data[i + 1]).toNat_lt,
      number_succ (by omega), number_succ (by omega), number_one (by omega)]
    ring
  rw [uint24At, index_eq (by omega), index_eq (by omega), index_eq (by omega)]
  exact congrArg Except.ok value

end Gecit.Go
