import Gecit.Foundation.BigEndian

/-!
Contract: a standard receiver of IPv4, IPv6 and TCP.

The parsers take a packet apart by the published header layouts: version, header
length, total or payload length, addresses, hop limit, protocol; ports, sequence
numbers, data offset, flags. A packet whose lengths do not fit is rejected.

Owns the header views and the decoding of a link-layer frame to its network and
TCP layers. Does not own checksums, options or extension headers.
-/

namespace Gecit.Net

open Gecit.Foundation

structure IPv4Packet where
  totalLength : Nat
  /-- More-fragments flag and fragment offset; zero for a whole datagram. -/
  fragment : Nat
  ttl : UInt8
  protocol : UInt8
  src : Bytes
  dst : Bytes
  payload : Bytes
deriving DecidableEq, Repr

structure IPv6Packet where
  payloadLength : Nat
  nextHeader : UInt8
  hopLimit : UInt8
  src : Bytes
  dst : Bytes
  payload : Bytes
deriving DecidableEq, Repr

structure TCPSegment where
  srcPort : UInt16
  dstPort : UInt16
  seq : UInt32
  ack : UInt32
  flags : UInt8
  payload : Bytes
deriving DecidableEq, Repr

/-- Length of an IPv4 header by its IHL field. -/
def ihlBytes (packet : Bytes) : Nat := 4 * (number packet 0 1 % 16)

def parseIPv4 (packet : Bytes) : Option IPv4Packet :=
  let totalLength := number packet 2 2
  if 20 ≤ packet.length ∧ number packet 0 1 / 16 = 4 ∧ 20 ≤ ihlBytes packet ∧
      ihlBytes packet ≤ totalLength ∧ totalLength ≤ packet.length then
    some
      { totalLength := totalLength
        fragment := number packet 6 2 % 2 ^ 14
        ttl := UInt8.ofNat (number packet 8 1)
        protocol := UInt8.ofNat (number packet 9 1)
        src := slice packet 12 4
        dst := slice packet 16 4
        payload := slice packet (ihlBytes packet) (totalLength - ihlBytes packet) }
  else none

def parseIPv6 (packet : Bytes) : Option IPv6Packet :=
  let payloadLength := number packet 4 2
  if 40 + payloadLength ≤ packet.length ∧ number packet 0 1 / 16 = 6 then
    some
      { payloadLength := payloadLength
        nextHeader := UInt8.ofNat (number packet 6 1)
        hopLimit := UInt8.ofNat (number packet 7 1)
        src := slice packet 8 16
        dst := slice packet 24 16
        payload := slice packet 40 payloadLength }
  else none

def parseTCP (segment : Bytes) : Option TCPSegment :=
  let headerLength := 4 * (number segment 12 1 / 16)
  if 20 ≤ headerLength ∧ headerLength ≤ segment.length then
    some
      { srcPort := UInt16.ofNat (number segment 0 2)
        dstPort := UInt16.ofNat (number segment 2 2)
        seq := UInt32.ofNat (number segment 4 4)
        ack := UInt32.ofNat (number segment 8 4)
        flags := UInt8.ofNat (number segment 13 1)
        payload := segment.drop headerLength }
  else none

def protocolTCP : UInt8 := 6

/-- What the TCP checksum of an IPv4 packet covers in front of the segment. -/
def IPv4Packet.pseudoHeader (packet : IPv4Packet) : Bytes :=
  packet.src ++ (packet.dst ++ (0 :: packet.protocol :: BigEndian.encode 2 packet.payload.length))

/-- The same for IPv6. -/
def IPv6Packet.pseudoHeader (packet : IPv6Packet) : Bytes :=
  packet.src ++ (packet.dst ++
    (BigEndian.encode 4 packet.payload.length ++ [0, 0, 0, packet.nextHeader]))

namespace TCPSegment

def syn (segment : TCPSegment) : Bool := segment.flags.toNat &&& 0x02 ≠ 0

def ackFlag (segment : TCPSegment) : Bool := segment.flags.toNat &&& 0x10 ≠ 0

end TCPSegment

/-! ### Frames -/

def etherTypeIPv4 : Nat := 0x0800

def etherTypeIPv6 : Nat := 0x86dd

/-- A link-layer frame: the type of its payload and the payload. -/
structure Frame where
  etherType : Nat
  packet : Bytes
deriving DecidableEq, Repr

inductive Network where
  | ipv4 (packet : IPv4Packet)
  | ipv6 (packet : IPv6Packet)
deriving DecidableEq, Repr

namespace Network

def isIPv4 : Network → Bool
  | ipv4 _ => true
  | ipv6 _ => false

def src : Network → Bytes
  | ipv4 packet => packet.src
  | ipv6 packet => packet.src

def dst : Network → Bytes
  | ipv4 packet => packet.dst
  | ipv6 packet => packet.dst

/-- The TTL of IPv4, the hop limit of IPv6. -/
def hopLimit : Network → UInt8
  | ipv4 packet => packet.ttl
  | ipv6 packet => packet.hopLimit

end Network

/-- A frame whose network layer carries one TCP segment. -/
structure Decoded where
  network : Network
  tcp : TCPSegment
deriving DecidableEq, Repr

/-- The network and TCP layers of a frame; `none` when a layer is missing, when
an IPv4 datagram is a fragment, or when an IPv6 packet has extension headers. -/
def decode (frame : Frame) : Option Decoded :=
  if frame.etherType = etherTypeIPv4 then
    (parseIPv4 frame.packet).bind fun packet =>
      if packet.protocol = protocolTCP ∧ packet.fragment = 0 then
        (parseTCP packet.payload).map fun tcp => ⟨.ipv4 packet, tcp⟩
      else none
  else if frame.etherType = etherTypeIPv6 then
    (parseIPv6 frame.packet).bind fun packet =>
      if packet.nextHeader = protocolTCP then
        (parseTCP packet.payload).map fun tcp => ⟨.ipv6 packet, tcp⟩
      else none
  else none

/-! ### Reading fields through the layers -/

/-- A TCP header starts at `start`, and its port and flags are those of `tcp`. -/
structure TCPAt (packet : Bytes) (start : Nat) (tcp : TCPSegment) : Prop where
  header : start + 20 ≤ packet.length
  srcPort : number packet start 2 = tcp.srcPort.toNat
  flags : number packet (start + 13) 1 = tcp.flags.toNat

theorem parseTCP_at {bytes : Bytes} {start count : Nat} {tcp : TCPSegment}
    (inside : start + count ≤ bytes.length)
    (parsed : parseTCP (slice bytes start count) = some tcp) : TCPAt bytes start tcp := by
  have sliceLength := slice_length inside
  simp only [parseTCP] at parsed
  split at parsed
  next fits =>
    obtain rfl := Option.some.inj parsed
    have long : 20 ≤ count := by omega
    have portBelow : number bytes start 2 < 2 ^ 16 := number_lt bytes start 2
    have flagsBelow : number bytes (start + 13) 1 < 2 ^ 8 := number_lt bytes (start + 13) 1
    refine ⟨by omega, ?_, ?_⟩
    · show number bytes start 2 = (UInt16.ofNat (number (slice bytes start count) 0 2)).toNat
      rw [number_slice bytes (by omega), Nat.add_zero, UInt16.toNat_ofNat',
        Nat.mod_eq_of_lt portBelow]
    · show number bytes (start + 13) 1 =
        (UInt8.ofNat (number (slice bytes start count) 13 1)).toNat
      rw [number_slice bytes (by omega), UInt8.toNat_ofNat', Nat.mod_eq_of_lt flagsBelow]
  next => contradiction

/-- A one-byte field that reads as the number of TCP. -/
theorem number_eq_six {packet : Bytes} {offset : Nat}
    (reads : UInt8.ofNat (number packet offset 1) = protocolTCP) : number packet offset 1 = 6 := by
  have below : number packet offset 1 < 2 ^ 8 := number_lt packet offset 1
  have value := congrArg UInt8.toNat reads
  rw [UInt8.toNat_ofNat', Nat.mod_eq_of_lt below] at value
  exact value

theorem decode_ipv4 {frame : Frame} {header : IPv4Packet} {tcp : TCPSegment}
    (decoded : decode frame = some ⟨.ipv4 header, tcp⟩) :
    frame.etherType = etherTypeIPv4 ∧ number frame.packet 9 1 = 6 ∧
      number frame.packet 6 2 % 2 ^ 14 = 0 ∧
      TCPAt frame.packet (ihlBytes frame.packet) tcp := by
  simp only [decode] at decoded
  split at decoded
  next isIPv4 =>
    obtain ⟨packet, parsed, rest⟩ := Option.bind_eq_some_iff.mp decoded
    split at rest
    next carries =>
      obtain ⟨segment, segmentParsed, same⟩ := Option.map_eq_some_iff.mp rest
      cases same
      simp only [parseIPv4] at parsed
      split at parsed
      next fits =>
        obtain rfl := Option.some.inj parsed
        exact ⟨isIPv4, number_eq_six carries.1, carries.2,
          parseTCP_at (by omega) segmentParsed⟩
      next => contradiction
    next => contradiction
  next =>
    split at decoded
    next =>
      obtain ⟨packet, parsed, rest⟩ := Option.bind_eq_some_iff.mp decoded
      split at rest
      · simp at rest
      · contradiction
    next => contradiction

theorem decode_ipv6 {frame : Frame} {header : IPv6Packet} {tcp : TCPSegment}
    (decoded : decode frame = some ⟨.ipv6 header, tcp⟩) :
    frame.etherType = etherTypeIPv6 ∧ number frame.packet 6 1 = 6 ∧
      TCPAt frame.packet 40 tcp := by
  simp only [decode] at decoded
  split at decoded
  next =>
    obtain ⟨packet, parsed, rest⟩ := Option.bind_eq_some_iff.mp decoded
    split at rest
    · simp at rest
    · contradiction
  next =>
    split at decoded
    next isIPv6 =>
      obtain ⟨packet, parsed, rest⟩ := Option.bind_eq_some_iff.mp decoded
      split at rest
      next carries =>
        obtain ⟨segment, segmentParsed, same⟩ := Option.map_eq_some_iff.mp rest
        cases same
        simp only [parseIPv6] at parsed
        split at parsed
        next fits =>
          obtain rfl := Option.some.inj parsed
          exact ⟨isIPv6, number_eq_six carries, parseTCP_at (by omega) segmentParsed⟩
        next => contradiction
      next => contradiction
    next => contradiction

theorem decode_etherType {frame : Frame} {network : Network} {tcp : TCPSegment}
    (decoded : decode frame = some ⟨network, tcp⟩) :
    frame.etherType = if network.isIPv4 then etherTypeIPv4 else etherTypeIPv6 := by
  cases network with
  | ipv4 header => exact (decode_ipv4 decoded).1
  | ipv6 header => exact (decode_ipv6 decoded).1

end Gecit.Net
