import Gecit.Fake.ClientHello
import Gecit.Go.Checked

/-!
Contract: `ParseSNI`, the offset-driven parser of a ClientHello.

Every index and every slice is checked, so a run without a fault is one in which none is
out of range. Each part of the function is shown to compute the sequential reader of the
grammar; acceptance follows from the reader's.

Owns the parser and what it accepts. Does not own the grammar.
-/

namespace Gecit.Fake

open Gecit.Foundation
open Gecit.Go

/-- The loop over extensions and over names: the payload of the first item with key
zero. Both items are a key, a 16-bit length and a payload. -/
def scanItems (keyWidth : Nat) (readKey : Bytes → Checked Nat) :
    Nat → Bytes → Checked (Option Bytes)
  | 0, _ => .error .loop
  | fuel + 1, items =>
      if items.length < keyWidth + 2 then return none
      else do
        let key ← readKey items
        let size ← uint16At items keyWidth
        if keyWidth + 2 + size > items.length then return none
        else if key = 0 then do
          let payload ← subslice items (keyWidth + 2) (keyWidth + 2 + size)
          return some payload
        else do
          let rest ← subslice items (keyWidth + 2 + size) items.length
          scanItems keyWidth readKey fuel rest

/-- `for len(exts) >= 4`, up to the first extension of type 0. -/
def scanExtensions (exts : Bytes) : Checked (Option Bytes) :=
  scanItems 2 (uint16At · 0) (exts.length + 1) exts

/-- `for len(entries) >= 3`, up to the first entry of type host_name. -/
def scanEntries (entries : Bytes) : Checked (Option Bytes) :=
  scanItems 1 (uint8At · 0) (entries.length + 1) entries

def parseSNIExtension (data : Bytes) : Checked GoString :=
  if data.length < 2 then return []
  else do
    let listLen ← uint16At data 0
    if 2 + listLen > data.length then return []
    else do
      let entries ← subslice data 2 (2 + listLen)
      let found ← scanEntries entries
      return found.getD []

/-- `data` up to `hs`. -/
def parseRecord (data : Bytes) : Checked (Option Bytes) :=
  if data.length < 5 then return none
  else do
    let kind ← index data 0
    if kind ≠ 0x16 then return none
    else do
      let recordLen ← uint16At data 3
      if data.length < 5 + recordLen then return none
      else do
        let hs ← subslice data 5 (5 + recordLen)
        return some hs

/-- `hs` up to `body`. -/
def parseHandshake (hs : Bytes) : Checked (Option Bytes) :=
  if hs.length < 4 then return none
  else do
    let kind ← index hs 0
    if kind ≠ 0x01 then return none
    else do
      let hsLen ← uint24At hs 1
      if hs.length < 4 + hsLen then return none
      else do
        let body ← subslice hs 4 (4 + hsLen)
        return some body

/-- `body` up to `exts`. -/
def parseBody (body : Bytes) : Checked (Option Bytes) :=
  if body.length < 34 then return none
  else if 34 ≥ body.length then return none
  else do
    let sessionLen ← uint8At body 34
    let pos := 34 + (1 + sessionLen)
    if pos + 2 > body.length then return none
    else do
      let csLen ← uint16At body pos
      let pos := pos + (2 + csLen)
      if pos ≥ body.length then return none
      else do
        let compressionLen ← uint8At body pos
        let pos := pos + (1 + compressionLen)
        if pos + 2 > body.length then return none
        else do
          let extLen ← uint16At body pos
          let pos := pos + 2
          if pos + extLen > body.length then return none
          else do
            let exts ← subslice body pos (pos + extLen)
            return some exts

def parseSNI (data : Bytes) : Checked GoString := do
  match ← parseRecord data with
  | none => return []
  | some hs =>
      match ← parseHandshake hs with
      | none => return []
      | some body =>
          match ← parseBody body with
          | none => return []
          | some exts =>
              match ← scanExtensions exts with
              | none => return []
              | some extension => parseSNIExtension extension

/-! ### The parser computes the sequential reader -/

theorem takeItem_at {keyWidth : Nat} (items : Bytes) : takeItem keyWidth items =
    if keyWidth + 2 + number items keyWidth 2 ≤ items.length then
      some (⟨number items 0 keyWidth,
        slice items (keyWidth + 2) (number items keyWidth 2)⟩,
        items.drop (keyWidth + 2 + number items keyWidth 2))
    else none := by
  rw [takeItem, takeVector_drop (by decide)]
  split
  · rw [Option.map_some, Nat.add_assoc]
  · rfl

theorem scanItems_eq {keyWidth : Nat} {readKey : Bytes → Checked Nat}
    (reads : ∀ items, keyWidth ≤ items.length → readKey items = .ok (number items 0 keyWidth))
    {fuel : Nat} {items : Bytes} (enough : items.length < fuel) :
    scanItems keyWidth readKey fuel items = .ok (findItem keyWidth 0 items) := by
  induction fuel generalizing items with
  | zero => omega
  | succ fuel inductionHypothesis =>
      have item := @takeItem_at keyWidth items
      rw [scanItems]
      by_cases short : items.length < keyWidth + 2
      · rw [if_neg (by omega)] at item
        rw [if_pos short, findItem_of_none item]
        rfl
      · rw [if_neg short, reads items (by omega), ok_bind, uint16At_eq (by omega), ok_bind]
        by_cases inside : keyWidth + 2 + number items keyWidth 2 ≤ items.length
        · rw [if_pos inside] at item
          rw [if_neg (by omega), findItem_of_some item]
          by_cases wanted : number items 0 keyWidth = 0
          · rw [if_pos wanted, if_pos wanted, subslice_eq inside]
            rfl
          · have remaining : subslice items (keyWidth + 2 + number items keyWidth 2) items.length =
                .ok (items.drop (keyWidth + 2 + number items keyWidth 2)) := by
              rw [subslice, if_pos ⟨inside, Nat.le_refl _⟩, slice, List.take_of_length_le (by simp)]
            rw [if_neg wanted, if_neg wanted, remaining, ok_bind]
            apply inductionHypothesis
            rw [List.length_drop]
            omega
        · rw [if_neg inside] at item
          rw [if_pos (by omega), findItem_of_none item]
          rfl

theorem scanExtensions_eq (exts : Bytes) : scanExtensions exts = .ok (findItem 2 0 exts) :=
  scanItems_eq (fun _ long => uint16At_eq long) (Nat.lt_succ_self _)

theorem scanEntries_eq (entries : Bytes) : scanEntries entries = .ok (findItem 1 0 entries) :=
  scanItems_eq (fun _ long => uint8At_eq long) (Nat.lt_succ_self _)

theorem parseSNIExtension_eq (data : Bytes) :
    parseSNIExtension data = .ok (((takeNames data).bind (findItem 1 0)).getD []) := by
  have names := @takeVector_drop 2 (by decide) data 0
  rw [List.drop_zero, Nat.zero_add] at names
  rw [parseSNIExtension, takeNames, names]
  by_cases short : data.length < 2
  · rw [if_pos short, if_neg (by omega)]
    rfl
  · rw [if_neg short, uint16At_eq (by omega), ok_bind]
    by_cases inside : 2 + number data 0 2 ≤ data.length
    · rw [if_neg (by omega), if_pos inside, subslice_eq inside, ok_bind, scanEntries_eq, ok_bind]
      rfl
    · rw [if_pos (by omega), if_neg inside]
      rfl

/-- The first byte against a constant, as a number. -/
theorem first_byte {data : Bytes} (nonempty : 0 < data.length) (b : UInt8) :
    data[0] = b ↔ number data 0 1 = b.toNat := by
  rw [number_one nonempty, UInt8.toNat_inj]

theorem parseRecord_eq (data : Bytes) : parseRecord data = .ok (takeHandshake data) := by
  have payload := @takeVector_drop 2 (by decide) data 3
  rw [parseRecord, takeHandshake, payload]
  by_cases short : data.length < 5
  · rw [if_pos short, if_neg (by omega : ¬ 3 + 2 + number data 3 2 ≤ data.length), Option.map_none,
      ite_self]
    rfl
  · rw [if_neg short, index_eq (by omega), ok_bind]
    by_cases isHandshake : number data 0 1 = 0x16
    · have kind := (first_byte (by omega) 0x16).mpr isHandshake
      rw [if_neg (not_not_intro kind), if_pos isHandshake, uint16At_eq (by omega), ok_bind]
      by_cases inside : 3 + 2 + number data 3 2 ≤ data.length
      · rw [if_neg (by omega), if_pos inside, subslice_eq inside]
        rfl
      · rw [if_pos (by omega), if_neg inside]
        rfl
    · have kind : data[0] ≠ 0x16 := fun same => isHandshake ((first_byte (by omega) 0x16).mp same)
      rw [if_pos kind, if_neg isHandshake]
      rfl

theorem parseHandshake_eq (hs : Bytes) : parseHandshake hs = .ok (takeBody hs) := by
  have payload := @takeVector_drop 3 (by decide) hs 1
  rw [parseHandshake, takeBody, payload]
  by_cases short : hs.length < 4
  · rw [if_pos short, if_neg (by omega : ¬ 1 + 3 + number hs 1 3 ≤ hs.length), Option.map_none,
      ite_self]
    rfl
  · rw [if_neg short, index_eq (by omega), ok_bind]
    by_cases isClientHello : number hs 0 1 = 0x01
    · have kind := (first_byte (by omega) 0x01).mpr isClientHello
      rw [if_neg (not_not_intro kind), if_pos isClientHello, uint24At_eq (by omega), ok_bind]
      by_cases inside : 1 + 3 + number hs 1 3 ≤ hs.length
      · rw [if_neg (by omega), if_pos inside, subslice_eq inside]
        rfl
      · rw [if_pos (by omega), if_neg inside]
        rfl
    · have kind : hs[0] ≠ 0x01 := fun same => isClientHello ((first_byte (by omega) 0x01).mp same)
      rw [if_pos kind, if_neg isClientHello]
      rfl

section Positions

variable {width : Nat} (positive : 0 < width) {bytes : Bytes} {pos : Nat}

include positive

theorem takeVector_inside (inside : pos + width + number bytes pos width ≤ bytes.length) :
    takeVector width (bytes.drop pos) = some (slice bytes (pos + width) (number bytes pos width),
      bytes.drop (pos + (width + number bytes pos width))) := by
  rw [takeVector_drop positive, if_pos inside]

theorem takeVector_short (short : bytes.length < pos + width + number bytes pos width) :
    takeVector width (bytes.drop pos) = none := by
  rw [takeVector_drop positive, if_neg (by omega)]

/-- Reading on behind a vector fails when the vector does not fit, or what is needed
next does not. -/
theorem takeVector_bind_none {next : Bytes × Bytes → Option Bytes}
    (stops : next (slice bytes (pos + width) (number bytes pos width),
      bytes.drop (pos + (width + number bytes pos width))) = none) :
    (takeVector width (bytes.drop pos)).bind next = none := by
  by_cases inside : pos + width + number bytes pos width ≤ bytes.length
  · rw [takeVector_inside positive inside, Option.bind_some, stops]
  · rw [takeVector_short positive (by omega), Option.bind_none]

end Positions

theorem parseBody_eq (body : Bytes) : parseBody body = .ok (takeExtensions body) := by
  rw [parseBody, takeExtensions]
  by_cases short : body.length < 34
  · rw [if_pos short, takeVector_short (by decide) (by omega)]
    rfl
  by_cases noSession : 34 ≥ body.length
  · rw [if_neg short, if_pos noSession, takeVector_short (by decide) (by omega)]
    rfl
  rw [if_neg short, if_neg noSession, uint8At_eq (by omega), ok_bind]
  by_cases noCiphers : 34 + (1 + number body 34 1) + 2 > body.length
  · rw [if_pos noCiphers, takeVector_bind_none (by decide)]
    · rfl
    · rw [takeVector_short (by decide) (by omega), Option.bind_none]
  rw [if_neg noCiphers, uint16At_eq (by omega), ok_bind,
    takeVector_inside (by decide) (by omega), Option.bind_some]
  generalize 34 + (1 + number body 34 1) = pos at *
  by_cases noCompression : pos + (2 + number body pos 2) ≥ body.length
  · rw [if_pos noCompression, takeVector_bind_none (by decide)]
    · rfl
    · rw [takeVector_short (by decide) (by omega), Option.bind_none]
  rw [if_neg noCompression, uint8At_eq (by omega), ok_bind,
    takeVector_inside (by decide) (by omega), Option.bind_some]
  generalize pos + (2 + number body pos 2) = pos at *
  by_cases noExtensions : pos + (1 + number body pos 1) + 2 > body.length
  · rw [if_pos noExtensions, takeVector_bind_none (by decide)]
    · rfl
    · rw [takeVector_short (by decide) (by omega), Option.map_none]
  rw [if_neg noExtensions, uint16At_eq (by omega), ok_bind,
    takeVector_inside (by decide) (by omega), Option.bind_some]
  generalize pos + (1 + number body pos 1) = pos at *
  by_cases inside : pos + 2 + number body pos 2 ≤ body.length
  · rw [if_neg (by omega), takeVector_inside (by decide) inside, subslice_eq inside]
    rfl
  · rw [if_pos (by omega), takeVector_short (by decide) (by omega)]
    rfl

theorem parseSNI_eq (data : Bytes) : parseSNI data = .ok ((takeHostName data).getD []) := by
  rw [parseSNI, takeHostName, parseRecord_eq, ok_bind]
  cases takeHandshake data with
  | none => rfl
  | some hs =>
      simp only [Option.bind_some, parseHandshake_eq, ok_bind]
      cases takeBody hs with
      | none => rfl
      | some body =>
          simp only [Option.bind_some, parseBody_eq, ok_bind]
          cases takeExtensions body with
          | none => rfl
          | some exts =>
              simp only [Option.bind_some, scanExtensions_eq, ok_bind]
              cases findItem 2 0 exts with
              | none => rfl
              | some extension => exact parseSNIExtension_eq extension

/-- No access is out of range, the non-empty results are exactly the host names of the
grammar, and every message gives back its host name, the fake one among them. -/
theorem parseSNI_accepts_grammar :
    (∀ data, ∃ s, parseSNI data = .ok s) ∧
      (∀ data s, s ≠ [] →
        (parseSNI data = .ok s ↔ ∃ hello : ClientHello, hello.encode = data ∧ hello.name = s)) ∧
      (∀ hello : ClientHello, parseSNI hello.encode = .ok hello.name) ∧
      ∃ hello : ClientHello, hello.encode = TLSClientHello ∧ hello.name = lit "www.google.com" := by
  refine ⟨fun data => ⟨_, parseSNI_eq data⟩, ?_, ?_, googleHello, googleHello_encode, rfl⟩
  · intro data s nonempty
    rw [parseSNI_eq, ← takeHostName_eq_some_iff, Except.ok.injEq]
    cases takeHostName data with
    | none => simp [nonempty.symm]
    | some name => simp
  · intro hello
    rw [parseSNI_eq, takeHostName_encode, Option.getD_some]

theorem parseSNI_accepts_grammar_google :
    parseSNI TLSClientHello = .ok (lit "www.google.com") :=
  (parseSNI_accepts_grammar.2.1 TLSClientHello _ (by decide)).mpr
    ⟨googleHello, googleHello_encode, rfl⟩

end Gecit.Fake
