import Gecit.Foundation.BigEndian

/-!
Contract: C structs of unsigned scalars in the memory of a little-endian host.

A compiler places each scalar at the next multiple of its width and ends the struct at a
multiple of the widest; a marshaller writes the scalars one after the other. Both agree
where no padding is needed.

Does not own any struct.
-/

namespace Gecit.Foundation

namespace LittleEndian

def encode (width value : Nat) : Bytes := (BigEndian.encode width value).reverse

def decode (bytes : Bytes) : Nat := BigEndian.decode bytes.reverse

@[simp] theorem encode_length (width value : Nat) : (encode width value).length = width := by
  rw [encode, List.length_reverse, BigEndian.encode_length]

theorem decode_encode {width value : Nat} (fits : value < 256 ^ width) :
    decode (encode width value) = value := by
  rw [decode, encode, List.reverse_reverse, BigEndian.decode_encode fits]

theorem encode_decode (bytes : Bytes) : encode bytes.length (decode bytes) = bytes := by
  rw [encode, decode, ← List.length_reverse, BigEndian.encode_decode, List.reverse_reverse]

theorem decode_lt (bytes : Bytes) : decode bytes < 256 ^ bytes.length := by
  rw [decode, ← List.length_reverse]
  exact BigEndian.decode_lt bytes.reverse

theorem decode_four (a b c d : UInt8) : decode [a, b, c, d] =
    a.toNat + b.toNat * 2 ^ 8 + c.toNat * 2 ^ 16 + d.toNat * 2 ^ 24 := by
  simp only [decode, List.reverse_cons, List.reverse_nil, List.nil_append, List.cons_append,
    BigEndian.decode, List.length_cons, List.length_nil]
  ring

/-- A shifted number above one that fits below it. -/
theorem or_shiftLeft {low : Nat} (high : Nat) {width : Nat} (below : low < 2 ^ width) :
    low ||| high <<< width = low + high * 2 ^ width := by
  rw [Nat.or_comm, ← Nat.shiftLeft_add_eq_or_of_lt below, Nat.shiftLeft_eq, Nat.add_comm]

end LittleEndian

/-! ### Layout -/

/-- The least multiple of `width` from `offset` on. -/
def alignUp (offset width : Nat) : Nat := (offset + (width - 1)) / width * width

theorem le_alignUp (offset : Nat) {width : Nat} (positive : 0 < width) :
    offset ≤ alignUp offset width := by
  have split := Nat.div_add_mod (offset + (width - 1)) width
  have below := Nat.mod_lt (offset + (width - 1)) positive
  rw [alignUp, Nat.mul_comm]
  omega

structure Scalar where
  /-- In bytes; also its alignment. -/
  width : Nat
  value : Nat
  positive : 0 < width
  fits : value < 256 ^ width

namespace Scalar

def u8 (value : UInt8) : Scalar := ⟨1, value.toNat, by decide, value.toNat_lt⟩

def u16 (value : UInt16) : Scalar := ⟨2, value.toNat, by decide, value.toNat_lt⟩

def u32 (value : UInt32) : Scalar := ⟨4, value.toNat, by decide, value.toNat_lt⟩

end Scalar

/-- The offsets of scalars of these widths, where `free` bytes are taken. -/
def offsets : Nat → List Nat → List Nat
  | _, [] => []
  | free, width :: rest => alignUp free width :: offsets (alignUp free width + width) rest

/-- The scalars in memory from offset `free` on; `pad` fills the gaps. -/
def image (pad : UInt8) : Nat → List Scalar → Bytes
  | _, [] => []
  | free, scalar :: rest =>
      List.replicate (alignUp free scalar.width - free) pad ++
        (LittleEndian.encode scalar.width scalar.value ++
          image pad (alignUp free scalar.width + scalar.width) rest)

/-- `sizeof` of a struct of these scalars. -/
def sizeof (widths : List Nat) : Nat :=
  let last := widths.foldl (fun free width => alignUp free width + width) 0
  alignUp last (widths.foldl max 1)

/-- The scalars one after the other. -/
def packed (scalars : List Scalar) : Bytes :=
  scalars.flatMap fun scalar => LittleEndian.encode scalar.width scalar.value

/-- The scalars need no padding. -/
def dense : Nat → List Nat → Bool
  | _, [] => true
  | free, width :: rest => alignUp free width = free && dense (free + width) rest

/-- The number in the `width` bytes from `offset` on. -/
def load (bytes : Bytes) (offset width : Nat) : Nat := LittleEndian.decode (slice bytes offset width)

/-- Every scalar is read back at its offset. -/
theorem load_image (pad : UInt8) (scalars : List Scalar) {front : Bytes} {free : Nat}
    (start : front.length = free) (tail : Bytes) :
    ∀ place ∈ (offsets free (scalars.map Scalar.width)).zip scalars,
      load (front ++ (image pad free scalars ++ tail)) place.1 place.2.width = place.2.value := by
  induction scalars generalizing front free with
  | nil => exact fun _ missing => nomatch missing
  | cons scalar rest inductionHypothesis =>
      have room := le_alignUp free scalar.positive
      have gap : (front ++ List.replicate (alignUp free scalar.width - free) pad).length =
          alignUp free scalar.width := by
        rw [List.length_append, List.length_replicate]
        omega
      intro place mem
      rw [image, List.append_assoc, List.append_assoc, ← List.append_assoc front]
      rcases List.mem_cons.mp mem with rfl | later
      · have field := @slice_at _ (LittleEndian.encode scalar.width scalar.value)
          (image pad (alignUp free scalar.width + scalar.width) rest ++ tail) _ gap
        rw [LittleEndian.encode_length] at field
        rw [load, field, LittleEndian.decode_encode scalar.fits]
      · rw [← List.append_assoc]
        apply inductionHypothesis ?_ place later
        rw [List.length_append, gap, LittleEndian.encode_length]

theorem image_of_dense (pad : UInt8) (scalars : List Scalar) {free : Nat}
    (noGap : dense free (scalars.map Scalar.width) = true) :
    image pad free scalars = packed scalars := by
  induction scalars generalizing free with
  | nil => rfl
  | cons scalar rest inductionHypothesis =>
      obtain ⟨aligned, later⟩ := (Bool.and_eq_true _ _).mp noGap
      rw [image, of_decide_eq_true aligned, Nat.sub_self, inductionHypothesis later]
      rfl

theorem packed_length (scalars : List Scalar) :
    (packed scalars).length = (scalars.map Scalar.width).sum := by
  induction scalars with
  | nil => rfl
  | cons scalar rest inductionHypothesis =>
      rw [packed, List.flatMap_cons, List.length_append, LittleEndian.encode_length, List.map_cons,
        List.sum_cons, ← inductionHypothesis]
      rfl

end Gecit.Foundation
