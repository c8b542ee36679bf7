import Mathlib.Logic.Function.Conjugate
import Mathlib.Logic.Function.Iterate

/-!
Contract: a program that takes over a user's setting and gives it back.

`take own` puts the program's own value in place and records what was there;
`release` puts the record back. The record has one slot, so a second `take`
without a `release` in between overwrites it: this module states exactly when a
user's value survives takes that are never released.

Owns the abstract machine and its crash law. Does not own any representation of
the setting or of the record.
-/

namespace Gecit.Foundation

universe u

/-- A setting in force and the value recorded for giving back. -/
@[ext] structure Takeover (Setting : Type u) where
  live : Setting
  saved : Setting
deriving DecidableEq, Repr

namespace Takeover

variable {Setting : Type u}

/-- Record the setting in force and put `own` in its place. -/
def take (own : Setting) (takeover : Takeover Setting) : Takeover Setting where
  live := own
  saved := takeover.live

/-- Put the recorded setting back. -/
def release (takeover : Takeover Setting) : Takeover Setting where
  live := takeover.saved
  saved := takeover.saved

@[simp] theorem take_live (own : Setting) (takeover : Takeover Setting) :
    (takeover.take own).live = own := rfl

@[simp] theorem take_saved (own : Setting) (takeover : Takeover Setting) :
    (takeover.take own).saved = takeover.live := rfl

@[simp] theorem release_live (takeover : Takeover Setting) :
    takeover.release.live = takeover.saved := rfl

/-- The setting in force after `count` takes that were never released. -/
theorem iterate_take_live (own : Setting) (takeover : Takeover Setting) (count : Nat) :
    ((take own)^[count] takeover).live = if count = 0 then takeover.live else own := by
  cases count with
  | zero => rfl
  | succ count => simp [Function.iterate_succ_apply']

/-- A take and a release after `count` unreleased takes give the user's value
back exactly when there were none, or when the value was the program's own. -/
theorem release_take_iterate_iff (own : Setting) (takeover : Takeover Setting) (count : Nat) :
    (((take own)^[count] takeover).take own).release.live = takeover.live ↔
      count = 0 ∨ takeover.live = own := by
  rw [release_live, take_saved, iterate_take_live]
  by_cases first : count = 0
  · simp [first]
  · simp [first, eq_comm]

end Takeover

end Gecit.Foundation
