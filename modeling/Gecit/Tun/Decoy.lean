import Gecit.Rawsock.Ethernet
import Gecit.Rawsock.RawOutput
import Gecit.Tun.Distance
import Gecit.Tun.Injection

/-!
Contract: what is on the wire when the macOS engine answers a SYN-ACK with a fake.

The connection record repeats the header of the captured packet, and `SendFake` takes its path by
the family: through the raw socket for IPv4, in a frame of its own for IPv6. Either way a receiver
reads a segment that goes on where the SYN-ACK has left the connection.

Owns the way from the captured frame to the received decoy. Does not own the run that leads to it.
-/

namespace Gecit.Tun

open Gecit.Foundation
open Gecit.Net
open Gecit.Rawsock
open Proxy (mirrors)

/-! ### The addresses of a captured packet -/

theorem parseIPv4_lengths {packet : Bytes} {header : IPv4Packet}
    (parsed : parseIPv4 packet = some header) : header.src.length = 4 ∧ header.dst.length = 4 := by
  simp only [parseIPv4] at parsed
  obtain ⟨accepted, rfl⟩ := guarded_eq_some parsed
  exact ⟨slice_length (by omega), slice_length (by omega)⟩

theorem parseIPv6_lengths {packet : Bytes} {header : IPv6Packet}
    (parsed : parseIPv6 packet = some header) : header.src.length = 16 ∧ header.dst.length = 16 := by
  simp only [parseIPv6] at parsed
  obtain ⟨accepted, rfl⟩ := guarded_eq_some parsed
  exact ⟨slice_length (by omega), slice_length (by omega)⟩

/-- The network layer was read by the parser of its family. -/
theorem parsed_of_decode {frame : Frame} {packet : Decoded} (decoded : decode frame = some packet) :
    match packet.network with
    | .ipv4 header => parseIPv4 frame.packet = some header
    | .ipv6 header => parseIPv6 frame.packet = some header := by
  unfold decode at decoded
  split_ifs at decoded
  · obtain ⟨header, parsed, rest⟩ := Option.bind_eq_some_iff.mp decoded
    obtain ⟨_, carried⟩ := Option.ite_none_right_eq_some.mp rest
    obtain ⟨tcp, _, rfl⟩ := Option.map_eq_some_iff.mp carried
    exact parsed
  · obtain ⟨header, parsed, rest⟩ := Option.bind_eq_some_iff.mp decoded
    obtain ⟨_, carried⟩ := Option.ite_none_right_eq_some.mp rest
    obtain ⟨tcp, _, rfl⟩ := Option.map_eq_some_iff.mp carried
    exact parsed

/-! ### The decoy -/

/-- The segment that goes on where the SYN-ACK has left the connection. -/
def answer (synAck : TCPSegment) : TCPSegment where
  srcPort := synAck.dstPort
  dstPort := synAck.srcPort
  seq := synAck.ack
  ack := synAck.seq + 1
  flags := 0x18
  payload := Fake.TLSClientHello

/-- The TTL that the handler gives to `SendFake`. -/
def decoyTTL (configured : Int) (packet : Decoded) : Int :=
  fakeTTL configured packet.network.hopLimit

/-- A decoy for a captured packet: how it leaves the machine, and what arrives. -/
structure DecoyReceived (resolved : Option (Bytes × Bytes)) (configured : Int) (packet : Decoded) :
    Prop where
  /-- IPv4 goes to the raw socket, to the server's address. -/
  ipv4 : ∀ header, packet.network = .ipv4 header → ∃ pkt,
    Darwin.sendFake resolved (mirrors packet) Fake.TLSClientHello (decoyTTL configured packet) =
        .sendto pkt header.src ∧
      ∀ wire, RawOutput pkt wire → ∃ ip, IPv4Delivery wire header.dst header.src
        (decoyTTL configured packet) (answer packet.tcp) ip
  /-- IPv6 goes out in a frame between the resolved link-layer addresses. -/
  ipv6 : ∀ header, packet.network = .ipv6 header → to4 header.src = none → to4 header.dst = none →
    ∀ srcMAC dstMAC, resolved = some (srcMAC, dstMAC) → srcMAC.length = 6 → dstMAC.length = 6 →
      ∃ frame, Darwin.sendFake resolved (mirrors packet) Fake.TLSClientHello
          (decoyTTL configured packet) = .frame frame ∧
        frame.take 12 = dstMAC ++ srcMAC ∧ number frame 12 2 = etherTypeIPv6 ∧
          ∃ ip, IPv6Delivery (frame.drop etherHeaderLen) header.dst header.src
            (decoyTTL configured packet) (answer packet.tcp) ip
  /-- It ends in front of a server that is not much nearer on the way there. -/
  dies : ∀ initial returnRouters forwardRouters : Nat,
    ReturnPath initial returnRouters packet.network.hopLimit →
      max 1 ((returnRouters : Int) - hopMargin) ≤ forwardRouters →
        ¬ Reaches (decoyTTL configured packet) forwardRouters

variable {frame : Frame} {packet : Decoded} {configured : Int}

theorem decoyTTL_bounds (known : packet.network.hopLimit ≠ 0) (positive : 1 ≤ configured) :
    0 ≤ decoyTTL configured packet ∧ decoyTTL configured packet ≤ 255 := by
  obtain ⟨_, inside, _⟩ := @fakeTTL_observed configured packet.network.hopLimit known
  obtain ⟨atLeast, atMost⟩ := inside positive
  unfold decoyTTL
  omega

theorem to4_of_length {ip : IP} (four : ip.length = 4) : to4 ip = some ip := if_pos four

/-- A SYN-ACK is answered by a decoy that a receiver takes for the next segment of its connection,
and that dies in front of the server. -/
theorem decoy_received (decoded : decode frame = some packet)
    (known : packet.network.hopLimit ≠ 0) (positive : 1 ≤ configured)
    (resolved : Option (Bytes × Bytes)) : DecoyReceived resolved configured packet := by
  obtain ⟨nonNegative, small⟩ := decoyTTL_bounds known positive
  have parsed := parsed_of_decode decoded
  obtain ⟨network, tcp⟩ := packet
  refine ⟨?_, ?_, ?_⟩
  · intro header isIPv4
    obtain rfl : network = .ipv4 header := isIPv4
    obtain ⟨srcLength, dstLength⟩ := parseIPv4_lengths parsed
    have toServer : to4 header.src = some header.src := to4_of_length srcLength
    have fromUs : to4 header.dst = some header.dst := to4_of_length dstLength
    refine ⟨buildPacket .darwin (mirrors ⟨.ipv4 header, tcp⟩) Fake.TLSClientHello
      (decoyTTL configured ⟨.ipv4 header, tcp⟩), ?_, ?_⟩
    · unfold Darwin.sendFake
      rw [show (mirrors ⟨.ipv4 header, tcp⟩).DstIP = header.src from rfl, toServer]
    · intro wire output
      exact darwin_delivers fromUs toServer (by decide) nonNegative small output
  · intro header isIPv6 srcNotIPv4 dstNotIPv4 srcMAC dstMAC isResolved srcSix dstSix
    obtain rfl : network = .ipv6 header := isIPv6
    obtain ⟨srcLength, dstLength⟩ := parseIPv6_lengths parsed
    obtain ⟨ip, delivered⟩ := @ipv6Delivery .darwin (mirrors ⟨.ipv6 header, tcp⟩) dstNotIPv4 dstLength
      srcLength Fake.TLSClientHello (by decide) (decoyTTL configured ⟨.ipv6 header, tcp⟩) nonNegative
      small
    have version : ipVersion (buildPacket .darwin (mirrors ⟨.ipv6 header, tcp⟩) Fake.TLSClientHello
        (decoyTTL configured ⟨.ipv6 header, tcp⟩)) = some 6 := by
      rw [ipVersion_buildPacket, show (mirrors ⟨.ipv6 header, tcp⟩).SrcIP = header.dst from rfl,
        dstNotIPv4]
      rfl
    generalize built : buildPacket .darwin (mirrors ⟨.ipv6 header, tcp⟩) Fake.TLSClientHello
      (decoyTTL configured ⟨.ipv6 header, tcp⟩) = pkt at delivered version
    have framed := framed_buildEthernetFrame srcSix dstSix (.inr version)
    refine ⟨buildEthernetFrame srcMAC dstMAC pkt, ?_, ?_, ?_, ip, ?_⟩
    · unfold Darwin.sendFake Darwin.send
      rw [show (mirrors ⟨.ipv6 header, tcp⟩).DstIP = header.src from rfl, srcNotIPv4, isResolved,
        ← built]
    · have twelve : (dstMAC ++ srcMAC).length = 12 := by rw [List.length_append, srcSix, dstSix]
      rw [buildEthernetFrame_eq srcSix dstSix, ← List.append_assoc]
      exact List.take_left' twelve
    · rcases framed.etherType with ⟨four, _⟩ | ⟨_, six⟩
      · rw [version] at four
        exact absurd four (by decide)
      · exact six
    · rw [framed.stripped]
      exact delivered
  · intro initial returnRouters forwardRouters path far
    have short := path.distance_le
    unfold decoyTTL Reaches
    rw [fakeTTL_eq path.ne_zero]
    omega

/-- The SYN-ACK of a web server, 11 routers away. -/
theorem decoy_received_webServer : ∃ packet,
    decode (Capture.synAckFrame [1, 1, 1, 1] 443 76) = some packet ∧ DecoyReceived none 8 packet := by
  refine ⟨_, rfl, ?_⟩
  exact @decoy_received (Capture.synAckFrame [1, 1, 1, 1] 443 76) _ 8 rfl (by decide) (by decide) none

end Gecit.Tun
