import Gecit.Ebpf.Inject

/-!
Contract: the TTL of a fake from the flag to the packet.

The flag is any integer; a manager replaces zero by a default. The TUN engine bounds the TTL
by the distance to the server where that was observed, the Linux engine takes the configured
value. The packet builder keeps the low eight bits.

Owns the choice of the TTL and exactly which flags reach the wire as they were decided. Does
not own the rest of the packet.
-/

namespace Gecit.Tun

open Gecit.Foundation
open Gecit.Rawsock
open Gecit.Ebpf

/-- How many hops short of the measured distance the fake dies. -/
def hopMargin : Int := 3

/-- `observed` is zero when the platform does not report it. -/
def fakeTTL (configured : Int) (observed : UInt8) : Int :=
  if observed = 0 then configured
  else
    let initial : Int := if 128 < observed then 255 else if 64 < observed then 128 else 64
    let ttl := initial - observed.toNat - hopMargin
    let ttl := if ttl < 1 then 1 else ttl
    if configured < ttl then configured else ttl

/-- The default of both `NewManager` functions. -/
def newManagerTTL (fakeTTL : Int) : Int := if fakeTTL = 0 then 8 else fakeTTL

/-- The TTL of an IPv4 packet, the hop limit of an IPv6 one. -/
def hopLimitByte (packet : Bytes) : Option UInt8 :=
  packet[0]?.bind fun (first : UInt8) => if first >>> 4 = 6 then packet[7]? else packet[8]?

/-- The packet carries the TTL that was chosen, within what was configured. -/
def OnWire (packet : Bytes) (chosen configured : Int) : Prop :=
  ∃ ttl, hopLimitByte packet = some ttl ∧ (ttl.toNat : Int) = chosen ∧ 1 ≤ ttl.toNat ∧
    (ttl.toNat : Int) ≤ configured

/-! ### The packet -/

theorem hopLimitByte_ipv4 (platform : Platform) (conn : ConnInfo) (ttl : Int) (payloadLen : Nat)
    (segment : Bytes) :
    hopLimitByte (buildIPv4Header platform conn ttl payloadLen ++ segment) = some (byte ttl) := by
  cases platform <;> rfl

theorem hopLimitByte_ipv6 (conn : ConnInfo) (ttl : Int) (payloadLen : Nat) (segment : Bytes) :
    hopLimitByte (buildIPv6Header conn ttl payloadLen ++ segment) = some (byte ttl) := rfl

theorem hopLimitByte_buildPacket (platform : Platform) (conn : ConnInfo) (payload : Bytes)
    (ttl : Int) : hopLimitByte (buildPacket platform conn payload ttl) = some (byte ttl) := by
  simp only [buildPacket, segment_eq]
  split
  · rw [putChecksum_segment, hopLimitByte_ipv4]
  · rw [putChecksum_segment, hopLimitByte_ipv6]

/-- The low eight bits are the TTL when it fits. -/
theorem byte_toNat_eq_iff {ttl : Int} : ((byte ttl).toNat : Int) = ttl ↔ 0 ≤ ttl ∧ ttl ≤ 255 := by
  constructor
  · intro same
    have small := (byte ttl).toNat_lt
    omega
  · rintro ⟨nonNegative, small⟩
    exact byte_toNat nonNegative small

theorem onWire_iff (platform : Platform) (conn : ConnInfo) (payload : Bytes)
    {chosen configured : Int} :
    OnWire (buildPacket platform conn payload chosen) chosen configured ↔
      1 ≤ chosen ∧ chosen ≤ 255 ∧ chosen ≤ configured := by
  rw [OnWire, hopLimitByte_buildPacket]
  constructor
  · rintro ⟨ttl, isByte, same, positive, bounded⟩
    obtain rfl := Option.some.inj isByte
    have small := (byte_toNat_eq_iff.mp same).2
    omega
  · rintro ⟨positive, small, bounded⟩
    have same := byte_toNat_eq_iff.mpr ⟨by omega, small⟩
    exact ⟨byte chosen, rfl, same, by omega, by omega⟩

theorem injectFake_pkt (ttl : Int) (evt : ConnEvent) :
    (injectFake ttl evt).pkt = buildPacket .linux evt.connInfo Fake.TLSClientHello ttl := rfl

/-! ### The choice -/

theorem fakeTTL_unknown (configured : Int) : fakeTTL configured 0 = configured := rfl

/-- An observed hop limit keeps the TTL below the largest initial one. -/
theorem fakeTTL_observed {configured : Int} {observed : UInt8} (known : observed ≠ 0) :
    fakeTTL configured observed ≤ configured ∧
      (1 ≤ configured → 1 ≤ fakeTTL configured observed ∧ fakeTTL configured observed ≤ 252) ∧
        (configured < 1 → fakeTTL configured observed = configured) := by
  have nonzero : observed.toNat ≠ 0 := by
    intro zero
    exact known (UInt8.toNat_inj.mp zero)
  unfold fakeTTL
  rw [if_neg known]
  dsimp only [hopMargin]
  split_ifs <;> omega

theorem newManagerTTL_pos_iff {flag : Int} : 1 ≤ newManagerTTL flag ↔ 0 ≤ flag := by
  unfold newManagerTTL
  split_ifs <;> omega

theorem newManagerTTL_le_iff {flag : Int} : newManagerTTL flag ≤ 255 ↔ flag ≤ 255 := by
  unfold newManagerTTL
  split_ifs <;> omega

/-- The flags with which the wire carries the chosen TTL: on Linux those of one byte, on the
TUN engine also larger ones where the hop limit was observed. -/
theorem wire_ttl_iff (flag : Int) (evt : ConnEvent) (platform : Platform) (conn : ConnInfo) :
    (OnWire (injectFake (newManagerTTL flag) evt).pkt (newManagerTTL flag) (newManagerTTL flag) ↔
        0 ≤ flag ∧ flag ≤ 255) ∧
      (OnWire (buildPacket platform conn Fake.TLSClientHello
            (fakeTTL (newManagerTTL flag) conn.HopLimit))
          (fakeTTL (newManagerTTL flag) conn.HopLimit) (newManagerTTL flag) ↔
        0 ≤ flag ∧ (conn.HopLimit = 0 → flag ≤ 255)) := by
  have positive := @newManagerTTL_pos_iff flag
  have small := @newManagerTTL_le_iff flag
  constructor
  · rw [injectFake_pkt, onWire_iff, positive, small]
    exact ⟨fun both => ⟨both.1, both.2.1⟩, fun both => ⟨both.1, both.2, le_refl _⟩⟩
  · rw [onWire_iff]
    by_cases unknown : conn.HopLimit = 0
    · rw [unknown, fakeTTL_unknown, positive, small]
      exact ⟨fun both => ⟨both.1, fun _ => both.2.1⟩, fun both => ⟨both.1, both.2 rfl, le_refl _⟩⟩
    · obtain ⟨bounded, inside, wrapped⟩ := @fakeTTL_observed (newManagerTTL flag) _ unknown
      constructor
      · rintro ⟨atLeast, -, -⟩
        refine ⟨positive.mp ?_, fun zero => absurd zero unknown⟩
        by_contra below
        rw [wrapped (by omega)] at atLeast
        exact below atLeast
      · rintro ⟨nonNegative, -⟩
        obtain ⟨atLeast, atMost⟩ := inside (positive.mpr nonNegative)
        exact ⟨atLeast, by omega, bounded⟩

/-- The server is nine hops away. -/
def webConnInfo : ConnInfo := { (webConnEvent webConn).connInfo with HopLimit := 55 }

/-- The flag 300 is sent as 44 by the Linux engine, and -1 as 255 by the TUN engine. -/
theorem wrapped_ttl :
    hopLimitByte (injectFake (newManagerTTL 300) (webConnEvent webConn)).pkt = some 44 ∧
      ¬ OnWire (injectFake (newManagerTTL 300) (webConnEvent webConn)).pkt (newManagerTTL 300)
        (newManagerTTL 300) ∧
        hopLimitByte (buildPacket .darwin webConnInfo Fake.TLSClientHello
          (fakeTTL (newManagerTTL (-1)) webConnInfo.HopLimit)) = some 255 ∧
          ¬ OnWire (buildPacket .darwin webConnInfo Fake.TLSClientHello
              (fakeTTL (newManagerTTL (-1)) webConnInfo.HopLimit))
            (fakeTTL (newManagerTTL (-1)) webConnInfo.HopLimit) (newManagerTTL (-1)) := by
  refine ⟨?_, ?_, ?_, ?_⟩
  · rw [injectFake_pkt, hopLimitByte_buildPacket]
    decide
  · rw [injectFake_pkt, onWire_iff]
    decide
  · rw [hopLimitByte_buildPacket]
    decide
  · rw [onWire_iff]
    decide

end Gecit.Tun
