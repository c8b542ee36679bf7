import Gecit.Tun.FakeTtl

/-!
Contract: a fake bounded by an observed hop limit dies in front of the server.

The hop limit of the SYN-ACK tells the length of the return path only up to the server's
initial value, which is guessed. A wrong guess is a smaller usual value, so it shortens the
measured distance and never lengthens it.

Owns the measured distance, its bound by the return path and what becomes of the fake on a
forward path. Does not own the packet.
-/

namespace Gecit.Tun

open Gecit.Foundation
open Gecit.Rawsock

/-- The hop limits that servers start with. -/
def initialHopLimits : List Nat := [64, 128, 255]

/-- The initial hop limit that `fakeTTL` takes `observed` to come from. -/
def guessedInitial (observed : UInt8) : Int :=
  if 128 < observed then 255 else if 64 < observed then 128 else 64

def distance (observed : UInt8) : Int := guessedInitial observed - observed.toNat

/-- A packet reaches the server behind `routers` routers if they leave it a hop. -/
def Reaches (hopLimit : Int) (routers : Nat) : Prop := routers < hopLimit

/-- `observed` is what a SYN-ACK that started with `initial` has left behind `routers`
routers. -/
structure ReturnPath (initial routers : Nat) (observed : UInt8) : Prop where
  usual : initial ∈ initialHopLimits
  left : (observed.toNat : Int) = initial - routers
  known : 1 ≤ observed.toNat

theorem fakeTTL_eq {observed : UInt8} (known : observed ≠ 0) (configured : Int) :
    fakeTTL configured observed = min configured (max 1 (distance observed - hopMargin)) := by
  unfold fakeTTL distance guessedInitial
  rw [if_neg known]
  dsimp only
  split_ifs <;> omega

/-- The guess is the smallest usual value that `observed` can come from. -/
theorem guessedInitial_le {initial : Nat} {observed : UInt8} (usual : initial ∈ initialHopLimits)
    (below : observed.toNat ≤ initial) : guessedInitial observed ≤ initial := by
  have aboveHalf : 128 < observed ↔ 128 < observed.toNat := UInt8.lt_iff_toNat_lt
  have aboveQuarter : 64 < observed ↔ 64 < observed.toNat := UInt8.lt_iff_toNat_lt
  unfold guessedInitial
  simp only [aboveHalf, aboveQuarter]
  simp only [initialHopLimits, List.mem_cons, List.not_mem_nil, or_false] at usual
  split_ifs <;> omega

namespace ReturnPath

variable {initial routers : Nat} {observed : UInt8}

theorem ne_zero (path : ReturnPath initial routers observed) : observed ≠ 0 := by
  rintro rfl
  exact absurd path.known (by decide)

/-- A wrong guess never makes the server seem farther than it is. -/
theorem distance_le (path : ReturnPath initial routers observed) :
    distance observed ≤ routers := by
  have left := path.left
  have guessed := @guessedInitial_le initial observed path.usual (by omega)
  unfold distance
  omega

end ReturnPath

/-- The fake of a bounded TTL stays in front of the server on every forward path that is at
most `hopMargin` routers shorter than the return path; the packet carries that TTL. -/
theorem fake_dies_before_server {configured : Int} {initial returnRouters forwardRouters : Nat}
    {observed : UInt8} (positive : 1 ≤ configured)
    (path : ReturnPath initial returnRouters observed)
    (far : max 1 ((returnRouters : Int) - hopMargin) ≤ forwardRouters) :
    distance observed ≤ returnRouters ∧
      1 ≤ fakeTTL configured observed ∧ fakeTTL configured observed ≤ configured ∧
        fakeTTL configured observed ≤ forwardRouters ∧
          ¬ Reaches (fakeTTL configured observed) forwardRouters ∧
            ∀ platform conn payload, ∃ ttl : UInt8,
              hopLimitByte (buildPacket platform conn payload (fakeTTL configured observed)) =
                  some ttl ∧
                ttl.toNat = fakeTTL configured observed ∧ ¬ Reaches ttl.toNat forwardRouters := by
  have near := path.distance_le
  obtain ⟨atMost, inside, _⟩ := @fakeTTL_observed configured observed path.ne_zero
  obtain ⟨atLeast, oneByte⟩ := inside positive
  have short : fakeTTL configured observed ≤ forwardRouters := by
    rw [fakeTTL_eq path.ne_zero]
    omega
  have dies : ¬ Reaches (fakeTTL configured observed) forwardRouters := not_lt.mpr short
  refine ⟨near, atLeast, atMost, short, dies, ?_⟩
  intro platform conn payload
  have carried := (@byte_toNat_eq_iff (fakeTTL configured observed)).mpr ⟨by omega, by omega⟩
  refine ⟨byte (fakeTTL configured observed), hopLimitByte_buildPacket .., carried, ?_⟩
  rw [carried]
  exact dies

/-- A SYN-ACK from 100 routers away, started with 128: the 28 left are taken to come from 64. -/
theorem fake_dies_behind_wrong_guess :
    distance 28 ≤ 100 ∧ 1 ≤ fakeTTL 8 28 ∧ fakeTTL 8 28 ≤ 8 ∧ fakeTTL 8 28 ≤ 97 ∧
      ¬ Reaches (fakeTTL 8 28) 97 ∧
        ∀ platform conn payload, ∃ ttl : UInt8,
          hopLimitByte (buildPacket platform conn payload (fakeTTL 8 28)) = some ttl ∧
            ttl.toNat = fakeTTL 8 28 ∧ ¬ Reaches ttl.toNat 97 :=
  @fake_dies_before_server 8 128 100 97 28 (by decide) ⟨by decide, by decide, by decide⟩ (by decide)

end Gecit.Tun
