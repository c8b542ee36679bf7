import Mathlib.Data.List.Basic

/-!
Contract: searches of a list that stop at the first match.

A loop that returns from inside is a `find?` or a `findSome?`; `FirstWith` says what it returns by
the order of the list. A loop that reads an entry, tests it and answers is a search of the entries.

Does not own any particular list.
-/

namespace Gecit.Foundation

variable {A B C : Type*}

/-- The element passes the test, and none in front of it does. -/
def FirstWith (test : A → Bool) (list : List A) (x : A) : Prop :=
  test x = true ∧ ∃ before after, list = before ++ x :: after ∧ ∀ y ∈ before, test y = false

theorem find?_eq_some_iff_firstWith {test : A → Bool} {list : List A} {x : A} :
    list.find? test = some x ↔ FirstWith test list x := by
  rw [List.find?_eq_some_iff_append, FirstWith]
  simp

namespace FirstWith

variable {test : A → Bool} {list : List A} {x y : A}

theorem unique (first : FirstWith test list x) (other : FirstWith test list y) : x = y := by
  have sameSearch := (find?_eq_some_iff_firstWith.mpr first).symm.trans
    (find?_eq_some_iff_firstWith.mpr other)
  exact Option.some.inj sameSearch

theorem mem (first : FirstWith test list x) : x ∈ list :=
  List.mem_of_find?_eq_some (find?_eq_some_iff_firstWith.mpr first)

end FirstWith

/-- A search that answers with the element and what it has read from it. -/
theorem findSome?_pair_iff {read : A → Option B} {list : List A} {x : A} :
    (∃ y, list.findSome? (fun x => (read x).map (x, ·)) = some (x, y)) ↔
      FirstWith (fun x => (read x).isSome) list x := by
  have skipped : ∀ x, (read x).map (x, ·) = none ↔ (read x).isSome = false := by
    intro x
    rw [Option.map_eq_none_iff, Option.isSome_eq_false_iff, Option.isNone_iff_eq_none]
  constructor
  · rintro ⟨y, answered⟩
    obtain ⟨before, _, after, split, here, passed⟩ := List.findSome?_eq_some_iff.mp answered
    obtain ⟨_, isRead, same⟩ := Option.map_eq_some_iff.mp here
    obtain ⟨rfl, rfl⟩ := Prod.mk.inj same
    refine ⟨?_, before, after, split, fun other there => (skipped other).mp (passed other there)⟩
    exact Option.isSome_iff_exists.mpr ⟨_, isRead⟩
  · rintro ⟨some_, before, after, split, passed⟩
    obtain ⟨y, isRead⟩ := Option.isSome_iff_exists.mp some_
    refine ⟨y, List.findSome?_eq_some_iff.mpr ⟨before, x, after, split, ?_, ?_⟩⟩
    · rw [isRead, Option.map_some]
    · exact fun other there => (skipped other).mpr (passed other there)

/-- A search that reads an entry, tests it and answers: the first entry with the property is
answered. -/
theorem findSome?_eq_map_find? {search : A → Option C} {entry : A → Option B} {test : B → Bool}
    {answer : B → C} (each : ∀ x, search x = ((entry x).filter test).map answer) (list : List A) :
    list.findSome? search = ((list.filterMap entry).find? test).map answer := by
  induction list with
  | nil => rfl
  | cons x list inductionHypothesis =>
      rw [List.findSome?_cons, each, inductionHypothesis]
      cases isEntry : entry x with
      | none =>
          rw [List.filterMap_cons_none isEntry]
          rfl
      | some y =>
          rw [List.filterMap_cons_some isEntry]
          cases passes : test y <;> simp [Option.filter, passes]

end Gecit.Foundation
