import Mathlib.Data.List.Basic
import Mathlib.Tactic.Ring
import Mathlib.Algebra.Order.Group.Nat

/-!
Contract: unsigned integers in network byte order, and slices of byte strings.

`encode width value` writes the low `width` bytes of a number, most significant
byte first; `decode` reads any byte string back. Fixed-width codecs for machine
words are the instances at widths one, two and four.

Does not own any packet or message layout.
-/

namespace Gecit.Foundation

abbrev Bytes := List UInt8

namespace BigEndian

def encode : Nat → Nat → Bytes
  | 0, _ => []
  | width + 1, value => UInt8.ofNat (value / 256 ^ width) :: encode width value

def decode : Bytes → Nat
  | [] => 0
  | b :: rest => b.toNat * 256 ^ rest.length + decode rest

@[simp] theorem encode_length (width value : Nat) : (encode width value).length = width := by
  induction width with
  | zero => rfl
  | succ width inductionHypothesis => simp [encode, inductionHypothesis]

theorem decode_lt (bytes : Bytes) : decode bytes < 256 ^ bytes.length := by
  induction bytes with
  | nil => simp [decode]
  | cons b rest inductionHypothesis =>
      have byte := b.toNat_lt
      rw [decode, List.length_cons, pow_succ]
      calc b.toNat * 256 ^ rest.length + decode rest
          < b.toNat * 256 ^ rest.length + 256 ^ rest.length := by omega
        _ = (b.toNat + 1) * 256 ^ rest.length := by ring
        _ ≤ 256 * 256 ^ rest.length := Nat.mul_le_mul_right _ (by omega)
        _ = 256 ^ rest.length * 256 := by ring

theorem decode_encode_mod (width value : Nat) :
    decode (encode width value) = value % 256 ^ width := by
  induction width with
  | zero => simp [encode, decode, Nat.mod_one]
  | succ width inductionHypothesis =>
      have byte : (UInt8.ofNat (value / 256 ^ width)).toNat = value / 256 ^ width % 256 :=
        UInt8.toNat_ofNat'
      rw [encode, decode, encode_length, inductionHypothesis, byte, Nat.mod_pow_succ]
      ring

theorem decode_encode {width value : Nat} (fits : value < 256 ^ width) :
    decode (encode width value) = value := by
  rw [decode_encode_mod, Nat.mod_eq_of_lt fits]

theorem encode_mod (width value : Nat) : encode width (value % 256 ^ width) = encode width value := by
  have general : ∀ more, encode width (value % 256 ^ (width + more)) = encode width value := by
    induction width with
    | zero => exact fun _ => rfl
    | succ width inductionHypothesis =>
        intro more
        have tail := inductionHypothesis (more + 1)
        have widths : width + (more + 1) = width + 1 + more := by omega
        rw [widths] at tail
        rw [encode, tail, encode]
        congr 1
        apply UInt8.toNat_inj.mp
        simp only [UInt8.toNat_ofNat']
        have split : 256 ^ (width + 1 + more) = 256 ^ width * (256 * 256 ^ more) := by ring
        rw [split, Nat.mod_mul_right_div_self]
        exact Nat.mod_mul_right_mod _ _ _
  simpa using general 0

theorem encode_decode (bytes : Bytes) : encode bytes.length (decode bytes) = bytes := by
  induction bytes with
  | nil => rfl
  | cons b rest inductionHypothesis =>
      have below := decode_lt rest
      have positive : 0 < 256 ^ rest.length := Nat.pow_pos (by decide)
      rw [List.length_cons, encode, decode]
      congr 1
      · have quotient : (b.toNat * 256 ^ rest.length + decode rest) / 256 ^ rest.length =
            b.toNat := by
          rw [Nat.mul_comm, Nat.mul_add_div positive, Nat.div_eq_of_lt below, Nat.add_zero]
        rw [quotient]
        simp
      · rw [← encode_mod, Nat.mul_add_mod_self_right, Nat.mod_eq_of_lt below]
        exact inductionHypothesis

end BigEndian

/-! ### Slices -/

/-- The `count` bytes from `offset` on. -/
def slice (bytes : Bytes) (offset count : Nat) : Bytes := (bytes.drop offset).take count

theorem slice_length {bytes : Bytes} {offset count : Nat} (inside : offset + count ≤ bytes.length) :
    (slice bytes offset count).length = count := by
  simp only [slice, List.length_take, List.length_drop]
  omega

theorem slice_slice (bytes : Bytes) {offset count inner width : Nat}
    (inside : inner + width ≤ count) :
    slice (slice bytes offset count) inner width = slice bytes (offset + inner) width := by
  simp only [slice, List.drop_take, List.drop_drop, List.take_take]
  rw [Nat.min_eq_left (by omega)]

theorem slice_append_left {left : Bytes} (right : Bytes) {offset count : Nat}
    (inside : offset + count ≤ left.length) :
    slice (left ++ right) offset count = slice left offset count := by
  simp only [slice]
  rw [List.drop_append_of_le_length (by omega), List.take_append_of_le_length (by simp; omega)]

theorem slice_succ {bytes : Bytes} {offset : Nat} (inside : offset < bytes.length) (count : Nat) :
    slice bytes offset (count + 1) = bytes[offset] :: slice bytes (offset + 1) count := by
  rw [slice, List.drop_eq_getElem_cons inside, List.take_succ_cons]
  rfl

theorem slice_drop (bytes : Bytes) (start offset count : Nat) :
    slice (bytes.drop start) offset count = slice bytes (start + offset) count := by
  rw [slice, List.drop_drop, slice]

theorem drop_eq_slice_append (bytes : Bytes) (offset count : Nat) :
    bytes.drop offset = slice bytes offset count ++ bytes.drop (offset + count) := by
  rw [slice, ← List.drop_drop, List.take_append_drop]

theorem slice_at {left field right : Bytes} {offset : Nat} (start : left.length = offset) :
    slice (left ++ (field ++ right)) offset field.length = field := by
  rw [slice, List.drop_left' start, List.take_left]

/-- The bytes with `field` written over them from `offset` on. -/
def put (bytes : Bytes) (offset : Nat) (field : Bytes) : Bytes :=
  bytes.take offset ++ (field ++ bytes.drop (offset + field.length))

theorem put_append {left middle field : Bytes} (right : Bytes) {offset : Nat}
    (start : left.length = offset) (same : field.length = middle.length) :
    put (left ++ (middle ++ right)) offset field = left ++ (field ++ right) := by
  rw [put, List.take_left' start, same, ← List.drop_drop, List.drop_left' start, List.drop_left]

/-! ### Numbers in place -/

/-- The big-endian number in the `width` bytes from `offset` on. -/
def number (bytes : Bytes) (offset width : Nat) : Nat :=
  BigEndian.decode (slice bytes offset width)

theorem number_lt (bytes : Bytes) (offset width : Nat) :
    number bytes offset width < 256 ^ width := by
  have below := BigEndian.decode_lt (slice bytes offset width)
  have short : (slice bytes offset width).length ≤ width := by
    simp [slice]
  exact lt_of_lt_of_le below (Nat.pow_le_pow_right (by decide) short)

theorem number_slice (bytes : Bytes) {offset count inner width : Nat}
    (inside : inner + width ≤ count) :
    number (slice bytes offset count) inner width = number bytes (offset + inner) width := by
  rw [number, slice_slice bytes inside, number]

theorem number_drop (bytes : Bytes) (start offset width : Nat) :
    number (bytes.drop start) offset width = number bytes (start + offset) width := by
  rw [number, slice_drop, number]

theorem number_succ {bytes : Bytes} {offset width : Nat}
    (inside : offset + (width + 1) ≤ bytes.length) :
    number bytes offset (width + 1) =
      (bytes[offset]).toNat * 256 ^ width + number bytes (offset + 1) width := by
  rw [number, slice_succ (by omega), BigEndian.decode, slice_length (by omega)]
  rfl

theorem number_append_left {left : Bytes} (right : Bytes) {offset width : Nat}
    (inside : offset + width ≤ left.length) :
    number (left ++ right) offset width = number left offset width := by
  rw [number, slice_append_left right inside, number]

theorem number_encode {width value : Nat} (fits : value < 256 ^ width) (rest : Bytes) :
    number (BigEndian.encode width value ++ rest) 0 width = value := by
  have whole : slice (BigEndian.encode width value) 0 width = BigEndian.encode width value := by
    rw [slice, List.drop_zero, List.take_of_length_le (by simp)]
  rw [number_append_left rest (by simp), number, whole, BigEndian.decode_encode fits]

end Gecit.Foundation
