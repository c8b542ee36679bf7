import Mathlib.Data.List.Induction

/-!
Contract: a value that is fetched again once it is older than a lifetime.

A use takes the stored value while it is fresh. Else it fetches: what it finds is stored with the
time, and a failure leaves what was stored.

Owns where served values come from, and how far apart they are fetched. Does not own the fetch.
-/

namespace Gecit.Foundation

variable {α ε : Type}

structure Stamped (α : Type) where
  value : α
  storedAt : Nat
deriving DecidableEq, Repr

/-- A use of the value, with what a fetch would find then. -/
structure Use (ε α : Type) where
  begins : Nat
  fetched : Except ε α
  /-- When the fetched value would be stored. -/
  ends : Nat
  ordered : begins ≤ ends

section Serve

variable (lifetime : Nat)

def Stamped.isFresh (now : Nat) (stamped : Stamped α) : Bool := now - stamped.storedAt < lifetime

/-- What the use gets, and what is stored afterwards. -/
def serve (stored : Option (Stamped α)) (use : Use ε α) : Except ε α × Option (Stamped α) :=
  match stored.filter (Stamped.isFresh lifetime use.begins) with
  | some stamped => (.ok stamped.value, stored)
  | none =>
      match use.fetched with
      | .ok value => (.ok value, some ⟨value, use.ends⟩)
      | .error err => (.error err, stored)

/-- What is stored after some uses, from nothing. -/
def storedAfter (past : List (Use ε α)) : Option (Stamped α) :=
  past.foldl (fun stored use => (serve lifetime stored use).2) none

end Serve

variable {lifetime : Nat} {stored : Option (Stamped α)} {use : Use ε α} {past : List (Use ε α)}

theorem storedAfter_concat (past : List (Use ε α)) (use : Use ε α) :
    storedAfter lifetime (past ++ [use]) = (serve lifetime (storedAfter lifetime past) use).2 := by
  unfold storedAfter
  rw [List.foldl_append]
  rfl

/-- The stored value is served, or this use fetches. -/
theorem serve_eq_ok {value : α} (served : (serve lifetime stored use).1 = .ok value) :
    (∃ stamped ∈ stored, stamped.value = value ∧ use.begins - stamped.storedAt < lifetime) ∨
      use.fetched = .ok value := by
  unfold serve at served
  split at served
  next stamped fresh =>
    obtain ⟨there, isFresh⟩ := Option.filter_eq_some_iff.mp fresh
    exact .inl ⟨stamped, there, Except.ok.inj served, of_decide_eq_true isFresh⟩
  next =>
    right
    split at served
    next found fetched => exact fetched.trans served
    next => contradiction

/-- A use fails with its own fetch, if nothing that is stored is fresh. -/
theorem serve_eq_error_iff {err : ε} : (serve lifetime stored use).1 = .error err ↔
    use.fetched = .error err ∧ ∀ stamped ∈ stored, lifetime ≤ use.begins - stamped.storedAt := by
  unfold serve
  split
  next stamped fresh =>
    obtain ⟨there, isFresh⟩ := Option.filter_eq_some_iff.mp fresh
    apply iff_of_false
    · intro impossible
      contradiction
    · intro both
      exact absurd (of_decide_eq_true isFresh) (Nat.not_lt.mpr (both.2 stamped there))
  next nothing =>
    have stale : ∀ stamped ∈ stored, lifetime ≤ use.begins - stamped.storedAt := by
      intro stamped there
      have old := Option.filter_eq_none_iff.mp nothing stamped there
      rw [Stamped.isFresh, decide_eq_true_iff] at old
      exact Nat.not_lt.mp old
    rw [and_iff_left stale]
    split
    next value fetched => rw [fetched]
    next found fetched => rw [fetched]

/-- What is stored after a use was stored before, or was fetched by the use. -/
theorem mem_serve {stamped : Stamped α} (there : stamped ∈ (serve lifetime stored use).2) :
    stamped ∈ stored ∨ use.fetched = .ok stamped.value ∧ stamped.storedAt = use.ends := by
  unfold serve at there
  split at there
  next => exact .inl there
  next =>
    split at there
    next value fetched =>
      obtain rfl := Option.mem_some_iff.mp there
      exact .inr ⟨fetched, rfl⟩
    next => exact .inl there

/-- The stored value was fetched by one of the uses. -/
theorem mem_storedAfter {stamped : Stamped α} (there : stamped ∈ storedAfter lifetime past) :
    ∃ origin ∈ past, origin.fetched = .ok stamped.value ∧ stamped.storedAt = origin.ends := by
  induction past using List.reverseRecOn with
  | nil => contradiction
  | append_singleton past use inductionHypothesis =>
      rw [storedAfter_concat] at there
      rcases mem_serve there with before | fetched
      · obtain ⟨origin, member, found⟩ := inductionHypothesis before
        exact ⟨origin, List.mem_append_left _ member, found⟩
      · exact ⟨use, List.mem_append_right _ List.mem_cons_self, fetched⟩

/-- Whatever is served was fetched less than the lifetime before, by this use or an earlier one. -/
theorem served_recently {value : α} (positive : 0 < lifetime)
    (served : (serve lifetime (storedAfter lifetime past) use).1 = .ok value) :
    ∃ origin ∈ past ++ [use], origin.fetched = .ok value ∧ use.begins < origin.ends + lifetime := by
  rcases serve_eq_ok served with ⟨stamped, there, rfl, fresh⟩ | fetched
  · obtain ⟨origin, member, found, time⟩ := mem_storedAfter there
    refine ⟨origin, List.mem_append_left _ member, found, ?_⟩
    omega
  · refine ⟨use, List.mem_append_right _ List.mem_cons_self, fetched, ?_⟩
    have ordered := use.ordered
    omega

/-- A use leaves what was stored, or finds it a lifetime old and stores something new. -/
theorem serve_renews {stamped : Stamped α} (positive : 0 < lifetime) (there : stamped ∈ stored) :
    ∃ after ∈ (serve lifetime stored use).2,
      after = stamped ∨ stamped.storedAt + lifetime ≤ after.storedAt := by
  obtain rfl := Option.mem_def.mp there
  unfold serve
  split
  next => exact ⟨stamped, rfl, .inl rfl⟩
  next stale =>
    split
    next value fetched =>
      refine ⟨_, rfl, .inr ?_⟩
      have old := Option.filter_eq_none_iff.mp stale stamped rfl
      rw [Stamped.isFresh, decide_eq_true_iff] at old
      have ordered := use.ordered
      show stamped.storedAt + lifetime ≤ use.ends
      omega
    next => exact ⟨stamped, rfl, .inl rfl⟩

/-- Two different stored values were fetched at least a lifetime apart. -/
theorem stored_spaced {stamped : Stamped α} (positive : 0 < lifetime)
    (there : stamped ∈ storedAfter lifetime past) (later : List (Use ε α)) :
    ∃ after ∈ storedAfter lifetime (past ++ later),
      after = stamped ∨ stamped.storedAt + lifetime ≤ after.storedAt := by
  induction later using List.reverseRecOn with
  | nil =>
      rw [List.append_nil]
      exact ⟨stamped, there, .inl rfl⟩
  | append_singleton later use inductionHypothesis =>
      obtain ⟨between, isStored, apart⟩ := inductionHypothesis
      rw [← List.append_assoc, storedAfter_concat]
      obtain ⟨after, isAfter, renewed⟩ := @serve_renews _ _ _ _ use _ positive isStored
      refine ⟨after, isAfter, ?_⟩
      rcases renewed with rfl | renewed
      · exact apart
      · rcases apart with rfl | apart
        · exact .inr renewed
        · exact .inr (by omega)

end Gecit.Foundation
