import Gecit.Foundation.BigEndian

/-!
Contract: byte strings behind their own length, and lists of keyed ones.

`vector width payload` is the length in `width` bytes, then the payload; `takeVector`
splits one off the front and accepts nothing else. An item is a key and a vector, and
`findItem` returns the payload of the first item under a key.

Does not own any message built from them.
-/

namespace Gecit.Foundation

def vector (width : Nat) (payload : Bytes) : Bytes :=
  BigEndian.encode width payload.length ++ payload

/-- The vector at the front and what is behind it. -/
def takeVector (width : Nat) (bytes : Bytes) : Option (Bytes × Bytes) :=
  let count := number bytes 0 width
  if width + count ≤ bytes.length then
    some (slice bytes width count, bytes.drop (width + count))
  else none

theorem vector_length (width : Nat) (payload : Bytes) :
    (vector width payload).length = width + payload.length := by
  simp [vector]

theorem takeVector_vector {width : Nat} {payload : Bytes} (fits : payload.length < 256 ^ width)
    (rest : Bytes) : takeVector width (vector width payload ++ rest) = some (payload, rest) := by
  have count : number (vector width payload ++ rest) 0 width = payload.length := by
    rw [vector, List.append_assoc, number_encode fits]
  have inside : width + payload.length ≤ (vector width payload ++ rest).length := by
    simp [vector_length]
  have behind : (vector width payload ++ rest).drop (width + payload.length) = rest := by
    rw [← vector_length, List.drop_left]
  have framed : slice (vector width payload ++ rest) width payload.length = payload := by
    rw [slice, vector, List.append_assoc, List.drop_left' (BigEndian.encode_length ..),
      List.take_left]
  simp only [takeVector, count]
  rw [if_pos inside, framed, behind]

theorem takeVector_exact {width : Nat} {bytes payload rest : Bytes}
    (taken : takeVector width bytes = some (payload, rest)) :
    bytes = vector width payload ++ rest ∧ payload.length < 256 ^ width := by
  simp only [takeVector] at taken
  split at taken
  next inside =>
    have widthLength : (slice bytes 0 width).length = width := slice_length (by omega)
    have payloadLength : (slice bytes width (number bytes 0 width)).length =
        number bytes 0 width := slice_length inside
    have prefixBytes : BigEndian.encode width (number bytes 0 width) = slice bytes 0 width := by
      have encoded := BigEndian.encode_decode (slice bytes 0 width)
      rwa [widthLength] at encoded
    cases taken
    refine ⟨?_, ?_⟩
    · rw [vector, payloadLength, prefixBytes, List.append_assoc, ← drop_eq_slice_append]
      have split := drop_eq_slice_append bytes 0 width
      rwa [List.drop_zero, Nat.zero_add] at split
    · rw [payloadLength]
      exact number_lt bytes 0 width
  next => contradiction

/-- Taking a vector at a position, in terms of positions. -/
theorem takeVector_drop {width : Nat} (positive : 0 < width) (bytes : Bytes) (pos : Nat) :
    takeVector width (bytes.drop pos) =
      if pos + width + number bytes pos width ≤ bytes.length then
        some (slice bytes (pos + width) (number bytes pos width),
          bytes.drop (pos + (width + number bytes pos width)))
      else none := by
  simp only [takeVector, number_drop, slice_drop, List.drop_drop, Nat.add_zero, List.length_drop]
  by_cases inside : pos + width + number bytes pos width ≤ bytes.length
  · rw [if_pos inside, if_pos (by omega)]
  · rw [if_neg inside, if_neg (by omega)]

/-! ### Keyed items -/

structure Item where
  key : Nat
  payload : Bytes
deriving DecidableEq, Repr

/-- Bytes of a key in `keyWidth` bytes and a 16-bit-length payload. -/
def Item.encode (keyWidth : Nat) (item : Item) : Bytes :=
  BigEndian.encode keyWidth item.key ++ vector 2 item.payload

def Item.Fits (keyWidth : Nat) (item : Item) : Prop :=
  item.key < 256 ^ keyWidth ∧ item.payload.length < 256 ^ 2

def encodeItems (keyWidth : Nat) (items : List Item) : Bytes :=
  items.flatMap (Item.encode keyWidth)

def takeItem (keyWidth : Nat) (bytes : Bytes) : Option (Item × Bytes) :=
  (takeVector 2 (bytes.drop keyWidth)).map fun taken =>
    (⟨number bytes 0 keyWidth, taken.1⟩, taken.2)

theorem takeItem_encode {keyWidth : Nat} {item : Item} (fits : item.Fits keyWidth) (rest : Bytes) :
    takeItem keyWidth (item.encode keyWidth ++ rest) = some (item, rest) := by
  have behind : (item.encode keyWidth ++ rest).drop keyWidth = vector 2 item.payload ++ rest := by
    rw [Item.encode, List.append_assoc, List.drop_left' (BigEndian.encode_length ..)]
  have key : number (item.encode keyWidth ++ rest) 0 keyWidth = item.key := by
    rw [Item.encode, List.append_assoc, number_encode fits.1]
  rw [takeItem, behind, takeVector_vector fits.2, Option.map_some, key]

theorem takeItem_exact {keyWidth : Nat} {bytes rest : Bytes} {item : Item}
    (taken : takeItem keyWidth bytes = some (item, rest)) :
    bytes = item.encode keyWidth ++ rest ∧ item.Fits keyWidth := by
  obtain ⟨⟨payload, behind⟩, vectorTaken, same⟩ := Option.map_eq_some_iff.mp taken
  cases same
  obtain ⟨split, payloadFits⟩ := takeVector_exact vectorTaken
  have long : keyWidth ≤ bytes.length := by
    have lengths := congrArg List.length split
    simp only [List.length_drop, List.length_append, vector_length] at lengths
    omega
  have keyLength : (slice bytes 0 keyWidth).length = keyWidth := slice_length (by omega)
  have keyBytes : BigEndian.encode keyWidth (number bytes 0 keyWidth) = slice bytes 0 keyWidth := by
    have encoded := BigEndian.encode_decode (slice bytes 0 keyWidth)
    rwa [keyLength] at encoded
  refine ⟨?_, number_lt bytes 0 keyWidth, payloadFits⟩
  have front := drop_eq_slice_append bytes 0 keyWidth
  rw [List.drop_zero, Nat.zero_add, split] at front
  rw [Item.encode, keyBytes, List.append_assoc]
  exact front

theorem Item.encode_length (keyWidth : Nat) (item : Item) :
    (item.encode keyWidth).length = keyWidth + (2 + item.payload.length) := by
  simp [Item.encode, vector_length]

theorem takeItem_shorter {keyWidth : Nat} {bytes rest : Bytes} {item : Item}
    (taken : takeItem keyWidth bytes = some (item, rest)) : rest.length < bytes.length := by
  obtain ⟨rfl, _⟩ := takeItem_exact taken
  rw [List.length_append, Item.encode_length]
  omega

/-- The payload of the first item under `wanted`; the scan ends at bytes that hold no
item. -/
def findItem (keyWidth wanted : Nat) (bytes : Bytes) : Option Bytes :=
  match taken : takeItem keyWidth bytes with
  | none => none
  | some (item, rest) =>
      have _shorter : rest.length < bytes.length := takeItem_shorter taken
      if item.key = wanted then some item.payload else findItem keyWidth wanted rest
termination_by bytes.length

theorem findItem_of_none {keyWidth wanted : Nat} {bytes : Bytes}
    (noItem : takeItem keyWidth bytes = none) : findItem keyWidth wanted bytes = none := by
  rw [findItem]
  split
  next => rfl
  next item rest taken =>
    rw [noItem] at taken
    contradiction

theorem findItem_of_some {keyWidth wanted : Nat} {bytes rest : Bytes} {item : Item}
    (taken : takeItem keyWidth bytes = some (item, rest)) :
    findItem keyWidth wanted bytes =
      if item.key = wanted then some item.payload else findItem keyWidth wanted rest := by
  rw [findItem]
  split
  next noItem =>
    rw [taken] at noItem
    contradiction
  next otherItem otherRest otherTaken =>
    rw [taken] at otherTaken
    cases otherTaken
    rfl

theorem findItem_encode {keyWidth wanted : Nat} {before : List Item} {payload : Bytes}
    (others : ∀ item ∈ before, item.key ≠ wanted ∧ item.Fits keyWidth)
    (fits : Item.Fits keyWidth ⟨wanted, payload⟩) (rest : Bytes) :
    findItem keyWidth wanted
      (encodeItems keyWidth before ++ (Item.encode keyWidth ⟨wanted, payload⟩ ++ rest)) =
        some payload := by
  induction before with
  | nil =>
      change findItem keyWidth wanted (Item.encode keyWidth ⟨wanted, payload⟩ ++ rest) = some payload
      rw [findItem_of_some (takeItem_encode fits rest), if_pos rfl]
  | cons item before inductionHypothesis =>
      obtain ⟨other, itemFits⟩ := others item List.mem_cons_self
      have later := inductionHypothesis fun item member =>
        others item (List.mem_cons_of_mem _ member)
      have front : encodeItems keyWidth (item :: before) =
          item.encode keyWidth ++ encodeItems keyWidth before := rfl
      rw [front, List.append_assoc, findItem_of_some (takeItem_encode itemFits _), if_neg other,
        later]

theorem findItem_exact {keyWidth wanted : Nat} {bytes payload : Bytes}
    (found : findItem keyWidth wanted bytes = some payload) :
    ∃ before rest, bytes =
        encodeItems keyWidth before ++ (Item.encode keyWidth ⟨wanted, payload⟩ ++ rest) ∧
      (∀ item ∈ before, item.key ≠ wanted ∧ item.Fits keyWidth) ∧
        Item.Fits keyWidth ⟨wanted, payload⟩ := by
  induction bytes using findItem.induct keyWidth wanted with
  | case1 bytes noItem =>
      rw [findItem_of_none noItem] at found
      contradiction
  | case2 bytes item rest taken _ isWanted =>
      rw [findItem_of_some taken, if_pos isWanted] at found
      obtain rfl := Option.some.inj found
      obtain ⟨split, itemFits⟩ := takeItem_exact taken
      subst isWanted
      exact ⟨[], rest, split, fun item member => by contradiction, itemFits⟩
  | case3 bytes item rest taken _ other inductionHypothesis =>
      rw [findItem_of_some taken, if_neg other] at found
      obtain ⟨split, itemFits⟩ := takeItem_exact taken
      obtain ⟨before, after, restSplit, others, fits⟩ := inductionHypothesis found
      refine ⟨item :: before, after, ?_, ?_, fits⟩
      · have front : encodeItems keyWidth (item :: before) =
            item.encode keyWidth ++ encodeItems keyWidth before := rfl
        rw [split, restSplit, front, List.append_assoc]
      · intro current member
        rcases List.mem_cons.mp member with rfl | old
        · exact ⟨other, itemFits⟩
        · exact others current old

end Gecit.Foundation
