import Gecit.Net.Wire

/-!
Contract: the part of the capture filter language used to select TCP segments.

The language is the one of the `pcap-filter` manual. A byte access outside the
packet rejects it. `tcp[...]` reaches into IPv4 packets only, `ip6[...]` counts
from the start of the IPv6 header, and `tcp src port` covers both families.

Owns the expressions, their meaning on a frame, and what they say on a frame that
decodes. Does not own any particular filter.
-/

namespace Gecit.Net

open Gecit.Foundation

inductive Filter where
  | ip
  | ip6
  | tcpSrcPort (port : UInt16)
  /-- `ip6[offset] & mask = mask` -/
  | ip6Bits (offset mask : Nat)
  /-- `tcp[tcpflags] & mask = mask` -/
  | tcpFlags (mask : Nat)
  | and (left right : Filter)
  | or (left right : Filter)
deriving DecidableEq, Repr

namespace Filter

/-- A packet load; outside the packet the program ends and rejects. -/
def load (frame : Frame) (offset width : Nat) : Option Nat :=
  if offset + width ≤ frame.packet.length then some (number frame.packet offset width) else none

def hasBits (mask value : Nat) : Bool := value &&& mask = mask

/-- A test on the TCP header of an IPv4 packet; false on later fragments and on
other protocols. -/
def ipv4TCP (frame : Frame) (offset width : Nat) (test : Nat → Bool) : Option Bool :=
  (load frame 9 1).bind fun protocol =>
    if protocol ≠ 6 then some false
    else (load frame 6 2).bind fun fragment =>
      if fragment % 2 ^ 13 ≠ 0 then some false
      else (load frame 0 1).bind fun versionAndIHL =>
        (load frame (4 * (versionAndIHL % 16) + offset) width).map test

/-- A test on the TCP header right behind an IPv6 header. -/
def ipv6TCP (frame : Frame) (offset width : Nat) (test : Nat → Bool) : Option Bool :=
  (load frame 6 1).bind fun nextHeader =>
    if nextHeader ≠ 6 then some false else (load frame (40 + offset) width).map test

def eval (frame : Frame) : Filter → Option Bool
  | ip => some (frame.etherType = etherTypeIPv4)
  | ip6 => some (frame.etherType = etherTypeIPv6)
  | tcpSrcPort port =>
      if frame.etherType = etherTypeIPv4 then ipv4TCP frame 0 2 (· = port.toNat)
      else if frame.etherType = etherTypeIPv6 then ipv6TCP frame 0 2 (· = port.toNat)
      else some false
  | ip6Bits offset mask =>
      if frame.etherType = etherTypeIPv6 then (load frame offset 1).map (hasBits mask)
      else some false
  | tcpFlags mask =>
      if frame.etherType = etherTypeIPv4 then ipv4TCP frame 13 1 (hasBits mask) else some false
  | and left right => (eval frame left).bind fun holds =>
      if holds then eval frame right else some false
  | or left right => (eval frame left).bind fun holds =>
      if holds then some true else eval frame right

def accepts (filter : Filter) (frame : Frame) : Bool := eval frame filter = some true

/-! ### Meaning on decoded frames -/

theorem load_eq {frame : Frame} {offset width : Nat}
    (inside : offset + width ≤ frame.packet.length) :
    load frame offset width = some (number frame.packet offset width) := by
  rw [load, if_pos inside]

theorem eval_and {frame : Frame} {left right : Filter} {leftHolds rightHolds : Bool}
    (leftDefined : eval frame left = some leftHolds)
    (rightDefined : eval frame right = some rightHolds) :
    eval frame (and left right) = some (leftHolds && rightHolds) := by
  show ((eval frame left).bind fun holds => if holds then eval frame right else some false) = _
  rw [leftDefined, Option.bind_some, rightDefined]
  cases leftHolds <;> rfl

theorem eval_or {frame : Frame} {left right : Filter} {leftHolds rightHolds : Bool}
    (leftDefined : eval frame left = some leftHolds)
    (rightDefined : eval frame right = some rightHolds) :
    eval frame (or left right) = some (leftHolds || rightHolds) := by
  show ((eval frame left).bind fun holds => if holds then some true else eval frame right) = _
  rw [leftDefined, Option.bind_some, rightDefined]
  cases leftHolds <;> rfl

section Decoded

variable {frame : Frame} {tcp : TCPSegment}

theorem ipv4TCP_eq {header : IPv4Packet} (decoded : decode frame = some ⟨.ipv4 header, tcp⟩)
    {offset width : Nat} (inHeader : offset + width ≤ 20) (test : Nat → Bool) :
    ipv4TCP frame offset width test =
      some (test (number frame.packet (ihlBytes frame.packet + offset) width)) := by
  obtain ⟨_, protocol, fragment, header, _, _⟩ := decode_ipv4 decoded
  have unfragmented : number frame.packet 6 2 % 2 ^ 13 = 0 := by omega
  rw [ipv4TCP, load_eq (by omega), Option.bind_some, protocol, if_neg (by decide),
    load_eq (by omega), Option.bind_some, unfragmented, if_neg (by decide), load_eq (by omega),
    Option.bind_some]
  show (load frame (ihlBytes frame.packet + offset) width).map test = _
  rw [load_eq (by omega), Option.map_some]

theorem ipv6TCP_eq {header : IPv6Packet} (decoded : decode frame = some ⟨.ipv6 header, tcp⟩)
    {offset width : Nat} (inHeader : offset + width ≤ 20) (test : Nat → Bool) :
    ipv6TCP frame offset width test = some (test (number frame.packet (40 + offset) width)) := by
  obtain ⟨_, nextHeader, header, _, _⟩ := decode_ipv6 decoded
  rw [ipv6TCP, load_eq (by omega), Option.bind_some, nextHeader, if_neg (by decide),
    load_eq (by omega), Option.map_some]

variable {network : Network} (decoded : decode frame = some ⟨network, tcp⟩)

include decoded

theorem eval_ip : eval frame ip = some network.isIPv4 := by
  show some (decide (frame.etherType = etherTypeIPv4)) = _
  rw [decode_etherType decoded]
  cases network.isIPv4 <;> rfl

theorem eval_ip6 : eval frame ip6 = some (!network.isIPv4) := by
  show some (decide (frame.etherType = etherTypeIPv6)) = _
  rw [decode_etherType decoded]
  cases network.isIPv4 <;> rfl

/-- `tcp src port` compares the decoded source port, over both families. -/
theorem eval_tcpSrcPort (port : UInt16) :
    eval frame (tcpSrcPort port) = some (decide (tcp.srcPort = port)) := by
  have compares : decide (tcp.srcPort.toNat = port.toNat) = decide (tcp.srcPort = port) := by
    simp only [UInt16.toNat_inj]
  show (if frame.etherType = etherTypeIPv4 then ipv4TCP frame 0 2 (· = port.toNat)
    else if frame.etherType = etherTypeIPv6 then ipv6TCP frame 0 2 (· = port.toNat)
    else some false) = _
  rw [decode_etherType decoded]
  cases network with
  | ipv4 header =>
      obtain ⟨_, _, _, tcpAt⟩ := decode_ipv4 decoded
      show ipv4TCP frame 0 2 _ = _
      rw [ipv4TCP_eq decoded (by decide), Nat.add_zero, tcpAt.srcPort, compares]
  | ipv6 header =>
      obtain ⟨_, _, tcpAt⟩ := decode_ipv6 decoded
      show ipv6TCP frame 0 2 _ = _
      rw [ipv6TCP_eq decoded (by decide), Nat.add_zero, tcpAt.srcPort, compares]

/-- `tcp[tcpflags]` sees the flags of IPv4 segments only. -/
theorem eval_tcpFlags (mask : Nat) :
    eval frame (tcpFlags mask) = some (network.isIPv4 && hasBits mask tcp.flags.toNat) := by
  show (if frame.etherType = etherTypeIPv4 then ipv4TCP frame 13 1 (hasBits mask)
    else some false) = _
  rw [decode_etherType decoded]
  cases network with
  | ipv4 header =>
      obtain ⟨_, _, _, tcpAt⟩ := decode_ipv4 decoded
      show ipv4TCP frame 13 1 _ = _
      rw [ipv4TCP_eq decoded (by decide), tcpAt.flags]
      rfl
  | ipv6 header => rfl

/-- Byte 53 of an IPv6 packet holds the flags of its segment. -/
theorem eval_ip6Bits (mask : Nat) :
    eval frame (ip6Bits 53 mask) = some (!network.isIPv4 && hasBits mask tcp.flags.toNat) := by
  show (if frame.etherType = etherTypeIPv6 then (load frame 53 1).map (hasBits mask)
    else some false) = _
  rw [decode_etherType decoded]
  cases network with
  | ipv4 header => rfl
  | ipv6 header =>
      obtain ⟨_, _, tcpAt⟩ := decode_ipv6 decoded
      have inside := tcpAt.header
      show (load frame 53 1).map _ = _
      rw [load_eq (by omega), Option.map_some, tcpAt.flags]
      rfl

omit decoded

end Decoded

/-- The mask of `tcp-syn|tcp-ack` picks exactly the segments with both flags. -/
theorem hasBits_synAck (tcp : TCPSegment) :
    hasBits 0x12 tcp.flags.toNat = (tcp.syn && tcp.ackFlag) := by
  have everyByte : ∀ flags < 256, hasBits 0x12 flags =
      (decide (flags &&& 0x02 ≠ 0) && decide (flags &&& 0x10 ≠ 0)) := by decide +kernel
  exact everyByte _ tcp.flags.toNat_lt

end Filter

end Gecit.Net
