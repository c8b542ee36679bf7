import Gecit.Net.PcapFilter
import Gecit.Rawsock.ConnInfo

/-!
Contract: SYN-ACK detection by packet capture.

`NewCapture` installs a kernel filter and remembers the configured ports;
`processPacket` checks the ports again and builds the event. The macOS filter has
one branch for each address family, the Windows filter reaches IPv4 only, and both
name port 443 whatever ports were configured.

Owns the two pipelines, filter and callback together, and the exact segments that
reach the callback. Does not own opening the device or the snapshot length.
-/

namespace Gecit.Capture

open Gecit.Foundation
open Gecit.Net
open Gecit.Rawsock

abbrev ConnectionEvent := ConnInfo

structure PcapCapture where
  platform : Platform
  filter : Filter
  ports : UInt16 → Bool

/-- `(ip6 and tcp src port P and ip6[53] & 0x12 = 0x12) or
(ip and tcp src port P and tcp[tcpflags] & (tcp-syn|tcp-ack) = (tcp-syn|tcp-ack))` -/
def synAckFilter (port : UInt16) : Filter :=
  .or (.and (.and .ip6 (.tcpSrcPort port)) (.ip6Bits 53 0x12))
    (.and (.and .ip (.tcpSrcPort port)) (.tcpFlags 0x12))

/-- `tcp src port 443 and tcp[tcpflags] & (tcp-syn|tcp-ack) = (tcp-syn|tcp-ack)` -/
def windowsFilter : Filter := .and (.tcpSrcPort 443) (.tcpFlags 0x12)

def portMap (ports : List UInt16) : UInt16 → Bool :=
  ports.foldl (fun map port => Function.update map port true) fun _ => false

/-- The detector, once the device is open; Linux has none. -/
def newCapture (platform : Platform) (ports : List UInt16) : Option PcapCapture :=
  match platform with
  | .linux => none
  | .darwin => some ⟨.darwin, synAckFilter 443, portMap ports⟩
  | .windows => some ⟨.windows, windowsFilter, portMap ports⟩

/-- The part of `processPacket` that both platforms share; `event` is none where
the network layer has no case. -/
def processPacketWith (event : Decoded → Option ConnectionEvent) (ports : UInt16 → Bool)
    (packet : Decoded) : Option ConnectionEvent :=
  if ¬ (packet.tcp.syn ∧ packet.tcp.ackFlag) then none
  else if ¬ ports packet.tcp.srcPort then none
  else event packet

namespace Darwin

/-- Seen from our end: the server's acknowledgement is our next sequence number. -/
def event (packet : Decoded) : Option ConnectionEvent :=
  let (srcIP, dstIP, hopLimit) := match packet.network with
    | .ipv4 header => (bytesOf (to4 header.dst), bytesOf (to4 header.src), header.ttl)
    | .ipv6 header => (bytesOf (to16 header.dst), bytesOf (to16 header.src), header.hopLimit)
  some
    { SrcIP := srcIP
      DstIP := dstIP
      SrcPort := packet.tcp.dstPort
      DstPort := packet.tcp.srcPort
      Seq := packet.tcp.ack
      Ack := packet.tcp.seq + 1
      HopLimit := hopLimit }

def processPacket : (UInt16 → Bool) → Decoded → Option ConnectionEvent := processPacketWith event

/-- The numbers of an event are those of the segment, seen from our end. -/
theorem event_numbers (packet : Decoded) : ∃ evt, event packet = some evt ∧
    evt.Seq = packet.tcp.ack ∧ evt.Ack = packet.tcp.seq + 1 ∧
      evt.HopLimit = packet.network.hopLimit := by
  obtain ⟨network, tcp⟩ := packet
  cases network <;> exact ⟨_, rfl, rfl, rfl, rfl⟩

end Darwin

namespace Windows

def event (packet : Decoded) : Option ConnectionEvent :=
  match packet.network with
  | .ipv6 _ => none
  | .ipv4 header => some
    { SrcIP := bytesOf (to4 header.dst)
      DstIP := bytesOf (to4 header.src)
      SrcPort := packet.tcp.dstPort
      DstPort := packet.tcp.srcPort
      Seq := packet.tcp.ack
      Ack := packet.tcp.seq + 1
      HopLimit := 0 }

def processPacket : (UInt16 → Bool) → Decoded → Option ConnectionEvent := processPacketWith event

end Windows

def processPacket (capture : PcapCapture) (packet : Decoded) : Option ConnectionEvent :=
  match capture.platform with
  | .windows => Windows.processPacket capture.ports packet
  | _ => Darwin.processPacket capture.ports packet

/-- The kernel filter, then `processPacket`: the event given to the callback. -/
def handle (capture : PcapCapture) (frame : Frame) : Option ConnectionEvent :=
  if capture.filter.accepts frame then (decode frame).bind (processPacket capture) else none

/-! ### The two callbacks -/

namespace Windows

/-- The Windows event is the macOS one of an IPv4 segment, without the hop limit. -/
theorem event_eq (packet : Decoded) : event packet =
    if packet.network.isIPv4 then
      (Darwin.event packet).map fun evt => { evt with HopLimit := 0 }
    else none := by
  obtain ⟨network, tcp⟩ := packet
  cases network <;> rfl

theorem event_agrees_iff (packet : Decoded) :
    event packet = Darwin.event packet ↔
      packet.network.isIPv4 = true ∧ packet.network.hopLimit = 0 := by
  obtain ⟨built, isBuilt, -, -, hopLimit⟩ := Darwin.event_numbers packet
  rw [event_eq, isBuilt, ← hopLimit]
  by_cases isIPv4 : packet.network.isIPv4 = true
  · rw [if_pos isIPv4, Option.map_some, Option.some_inj]
    constructor
    · intro same
      exact ⟨isIPv4, (congrArg ConnInfo.HopLimit same).symm⟩
    · rintro ⟨-, zero⟩
      cases built
      exact congrArg (ConnInfo.mk _ _ _ _ _ _) zero.symm
  · rw [if_neg isIPv4]
    simp [isIPv4]

end Windows

theorem processPacketWith_eq_iff (first second : Decoded → Option ConnectionEvent)
    (ports : UInt16 → Bool) (packet : Decoded) :
    processPacketWith first ports packet = processPacketWith second ports packet ↔
      (packet.tcp.syn ∧ packet.tcp.ackFlag → ports packet.tcp.srcPort = true →
        first packet = second packet) := by
  unfold processPacketWith
  by_cases synAck : packet.tcp.syn ∧ packet.tcp.ackFlag
  · by_cases configured : ports packet.tcp.srcPort = true <;> simp [synAck, configured]
  · simp [synAck]

/-- The two implementations agree on the segments that both ignore, and on the IPv4 ones whose
hop limit is zero. -/
theorem processPacket_agrees_iff (ports : UInt16 → Bool) (packet : Decoded) :
    Windows.processPacket ports packet = Darwin.processPacket ports packet ↔
      (packet.tcp.syn ∧ packet.tcp.ackFlag → ports packet.tcp.srcPort = true →
        packet.network.isIPv4 = true ∧ packet.network.hopLimit = 0) := by
  rw [Windows.processPacket, Darwin.processPacket, processPacketWith_eq_iff,
    Windows.event_agrees_iff]

theorem handle_darwin {capture : PcapCapture} (onDarwin : capture.platform = .darwin)
    {frame : Frame} {evt : ConnectionEvent} (captured : handle capture frame = some evt) :
    ∃ packet, decode frame = some packet ∧ evt.Seq = packet.tcp.ack ∧
      evt.Ack = packet.tcp.seq + 1 ∧ evt.HopLimit = packet.network.hopLimit := by
  rw [handle] at captured
  split at captured
  next =>
    obtain ⟨packet, decoded, built⟩ := Option.bind_eq_some_iff.mp captured
    rw [processPacket, onDarwin] at built
    change processPacketWith Darwin.event capture.ports packet = some evt at built
    rw [processPacketWith] at built
    split at built
    · contradiction
    · split at built
      · contradiction
      · obtain ⟨numbered, same, numbers⟩ := Darwin.event_numbers packet
        rw [same] at built
        obtain rfl := Option.some.inj built
        exact ⟨packet, decoded, numbers⟩
  next => contradiction

theorem portMap_eq_true_iff (ports : List UInt16) (port : UInt16) :
    portMap ports port = true ↔ port ∈ ports := by
  have general : ∀ map : UInt16 → Bool,
      ports.foldl (fun map port => Function.update map port true) map port = true ↔
        port ∈ ports ∨ map port = true := by
    induction ports with
    | nil => simp
    | cons head rest inductionHypothesis =>
        intro map
        rw [List.foldl_cons, inductionHypothesis, List.mem_cons]
        by_cases same : port = head
        · simp [same]
        · simp [same]
  rw [portMap, general]
  simp

/-! ### What reaches the callback -/

section Segment

variable {frame : Frame} {packet : Decoded} (decoded : decode frame = some packet)
  (synAck : packet.tcp.syn ∧ packet.tcp.ackFlag)

include decoded synAck

/-- The macOS filter looks at the source port only, over both families. -/
theorem synAckFilter_accepts (port : UInt16) :
    (synAckFilter port).accepts frame = decide (packet.tcp.srcPort = port) := by
  have bits : Filter.hasBits 0x12 packet.tcp.flags.toNat = true := by
    rw [Filter.hasBits_synAck, synAck.1, synAck.2, Bool.and_self]
  have portTest := Filter.eval_tcpSrcPort decoded port
  have ipv6Branch := Filter.eval_and (Filter.eval_and (Filter.eval_ip6 decoded) portTest)
    (Filter.eval_ip6Bits decoded 0x12)
  have ipv4Branch := Filter.eval_and (Filter.eval_and (Filter.eval_ip decoded) portTest)
    (Filter.eval_tcpFlags decoded 0x12)
  rw [Filter.accepts, synAckFilter, Filter.eval_or ipv6Branch ipv4Branch, bits]
  cases packet.network.isIPv4 <;> simp

/-- The Windows filter takes IPv4 segments from port 443. -/
theorem windowsFilter_accepts :
    windowsFilter.accepts frame = (decide (packet.tcp.srcPort = 443) && packet.network.isIPv4) := by
  have bits : Filter.hasBits 0x12 packet.tcp.flags.toNat = true := by
    rw [Filter.hasBits_synAck, synAck.1, synAck.2, Bool.and_self]
  have wholeFilter := Filter.eval_and (Filter.eval_tcpSrcPort decoded 443)
    (Filter.eval_tcpFlags decoded 0x12)
  rw [Filter.accepts, windowsFilter, wholeFilter, bits]
  cases packet.network.isIPv4 <;> simp

omit decoded in
theorem processPacketWith_isSome (event : Decoded → Option ConnectionEvent) (ports : List UInt16) :
    (processPacketWith event (portMap ports) packet).isSome ↔
      packet.tcp.srcPort ∈ ports ∧ (event packet).isSome := by
  rw [processPacketWith, if_neg (not_not_intro synAck), ← portMap_eq_true_iff]
  by_cases configured : portMap ports packet.tcp.srcPort = true
  · rw [if_neg (not_not_intro configured)]
    simp [configured]
  · rw [if_pos configured]
    simp [configured]

/-- The callback fires for configured segments from port 443, and on Windows for
IPv4 ones only. -/
theorem handle_isSome_iff {platform : Platform} {ports : List UInt16} {capture : PcapCapture}
    (installed : newCapture platform ports = some capture) :
    (handle capture frame).isSome ↔ packet.tcp.srcPort ∈ ports ∧ packet.tcp.srcPort = 443 ∧
      (platform = .darwin ∨ packet.network.isIPv4) := by
  rw [handle, decoded, Option.bind_some]
  cases platform with
  | linux => contradiction
  | darwin =>
      obtain rfl := Option.some.inj installed
      have accepted := synAckFilter_accepts decoded synAck 443
      have checked := processPacketWith_isSome synAck Darwin.event ports
      show (if (synAckFilter 443).accepts frame then
        processPacketWith Darwin.event (portMap ports) packet else none).isSome ↔ _
      rw [accepted]
      by_cases https : packet.tcp.srcPort = 443
      · rw [if_pos (decide_eq_true https), checked]
        simp [https, Darwin.event]
      · simp [https]
  | windows =>
      obtain rfl := Option.some.inj installed
      have accepted := windowsFilter_accepts decoded synAck
      have checked := processPacketWith_isSome synAck Windows.event ports
      show (if windowsFilter.accepts frame then
        processPacketWith Windows.event (portMap ports) packet else none).isSome ↔ _
      rw [accepted]
      have built : (Windows.event packet).isSome = packet.network.isIPv4 := by
        rw [Windows.event]
        cases packet.network <;> rfl
      by_cases selected : packet.tcp.srcPort = 443 ∧ packet.network.isIPv4
      · rw [if_pos (by simpa using selected), checked, built]
        simp [selected]
      · rw [if_neg (by simpa using selected)]
        constructor
        · intro fired
          contradiction
        · rintro ⟨_, https, onDarwin | overIPv4⟩
          · contradiction
          · exact absurd ⟨https, overIPv4⟩ selected

/-- The pipeline fires for exactly the configured ports on the segments whose
source port, if configured, is 443, over a family the platform's filter reaches. -/
theorem capture_covers_port_iff {platform : Platform} {ports : List UInt16}
    {capture : PcapCapture} (installed : newCapture platform ports = some capture) :
    ((handle capture frame).isSome ↔ packet.tcp.srcPort ∈ ports) ↔
      (packet.tcp.srcPort ∈ ports →
        packet.tcp.srcPort = 443 ∧ (platform = .darwin ∨ packet.network.isIPv4)) := by
  rw [handle_isSome_iff decoded synAck installed]
  tauto

end Segment

/-- An IPv4 SYN-ACK to port 51234 of 192.168.1.103. -/
def synAckFrame (server : IP) (serverPort : UInt16) (seq : Nat) : Frame where
  etherType := etherTypeIPv4
  packet := [0x45, 0, 0, 40, 0, 0, 0, 0, 53, 6, 0, 0] ++ server ++ [192, 168, 1, 103] ++
    BigEndian.encode 2 serverPort.toNat ++ BigEndian.encode 2 51234 ++
    BigEndian.encode 4 seq ++ BigEndian.encode 4 77 ++ [0x50, 0x12, 0xff, 0xff, 0, 0, 0, 0]

theorem capture_covers_port_iff_443 : ∃ capture packet,
    newCapture .darwin [443] = some capture ∧
      decode (synAckFrame [108, 138, 192, 108] 443 76) = some packet ∧
        ((handle capture (synAckFrame [108, 138, 192, 108] 443 76)).isSome ↔
          packet.tcp.srcPort ∈ [(443 : UInt16)]) := by
  refine ⟨_, _, rfl, rfl, ?_⟩
  apply (@capture_covers_port_iff (synAckFrame [108, 138, 192, 108] 443 76) _ rfl (by decide)
    .darwin [443] _ rfl).mpr
  decide

/-- A detector configured for port 8443 misses a SYN-ACK from it. -/
theorem capture_misses_configured_port : ¬ ∀ platform ports capture frame packet,
    newCapture platform ports = some capture → decode frame = some packet →
      packet.tcp.syn ∧ packet.tcp.ackFlag →
        ((handle capture frame).isSome ↔ packet.tcp.srcPort ∈ ports) := by
  intro covers
  have missed := covers .darwin [8443] _ (synAckFrame [108, 138, 192, 108] 8443 76) _ rfl rfl
    (by decide)
  exact absurd missed (by decide)

/-- The hop limit 53 of an IPv4 SYN-ACK reaches the event on macOS only. -/
theorem windows_loses_hop_limit :
    ¬ ∀ ports packet, Windows.processPacket ports packet = Darwin.processPacket ports packet := by
  intro agrees
  obtain ⟨packet, decoded⟩ : ∃ packet,
      decode (synAckFrame [108, 138, 192, 108] 443 76) = some packet := ⟨_, rfl⟩
  have same := agrees (portMap [443]) packet
  have checked : (decode (synAckFrame [108, 138, 192, 108] 443 76)).any (fun packet =>
      decide (Windows.processPacket (portMap [443]) packet =
        Darwin.processPacket (portMap [443]) packet)) = false := by
    decide
  rw [decoded, Option.any_some, decide_eq_false_iff_not] at checked
  exact checked same

end Gecit.Capture
