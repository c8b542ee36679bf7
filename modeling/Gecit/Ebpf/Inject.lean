import Gecit.Ebpf.Layout
import Gecit.Ebpf.Sockops
import Gecit.Fake.ClientHello
import Gecit.Rawsock.Received

/-!
Contract: the way of a connection's event from the program to the wire.

The program outputs the event from the IPv4 fields of the context, whatever the family of the
socket; the manager decodes the sample and sends one fake on an IPv4 raw socket.

Owns the events of an establishment, `injectFake`, and what is sent for a connection. Does
not own when it is sent.
-/

namespace Gecit.Ebpf

open Gecit.Foundation
open Gecit.Net
open Gecit.Rawsock

/-! ### The sender -/

/-- What `Sendto` is given. -/
structure Sent where
  pkt : Bytes
  /-- `addr.Addr` -/
  addr : Bytes
deriving DecidableEq

/-- `SendFake` of the Linux raw socket. -/
def sendFake (conn : ConnInfo) (payload : Bytes) (ttl : Int) : Sent where
  pkt := buildPacket .linux conn payload ttl
  addr := put (List.replicate 4 0) 0 ((bytesOf (to4 conn.DstIP)).take 4)

/-- The `conn` of `injectFake`. -/
def ConnEvent.connInfo (evt : ConnEvent) : ConnInfo where
  SrcIP := uint32ToIP evt.srcIp
  DstIP := uint32ToIP evt.dstIp
  SrcPort := evt.srcPort
  DstPort := evt.dstPort
  Seq := evt.seq
  Ack := evt.ack
  HopLimit := 0

def injectFake (fakeTTL : Int) (evt : ConnEvent) : Sent :=
  sendFake evt.connInfo Fake.TLSClientHello fakeTTL

/-! ### The connection -/

namespace Connection

def isIPv4 : Connection → Bool
  | ipv4 _ => true
  | ipv6 _ _ _ => false

def src : Connection → Bytes
  | ipv4 conn => conn.src
  | ipv6 conn _ _ => conn.src

def dst : Connection → Bytes
  | ipv4 conn => conn.dst
  | ipv6 conn _ _ => conn.dst

def srcPort : Connection → UInt16
  | ipv4 conn => conn.srcPort
  | ipv6 conn _ _ => conn.srcPort

def dstPort : Connection → UInt16
  | ipv4 conn => conn.dstPort
  | ipv6 conn _ _ => conn.dstPort

def sndNxt : Connection → UInt32
  | ipv4 conn => conn.sndNxt
  | ipv6 conn _ _ => conn.sndNxt

def rcvNxt : Connection → UInt32
  | ipv4 conn => conn.rcvNxt
  | ipv6 conn _ _ => conn.rcvNxt

end Connection

def Call.event : Call → Option ConnEvent
  | .connEvent evt => some evt
  | .mss _ | .normalMss _ | .cbFlags _ => none

variable {Socket : Type*} [DecidableEq Socket] (cookie : Socket → UInt64)

/-- The events that the establishment of a connection outputs. -/
def emitted (kernel : Kernel Socket) (s : Socket) (conn : Connection) : List ConnEvent :=
  let after := gecitSockops cookie s (conn.context .activeEstablishedCb 0) kernel
  ((after.calls s).drop (kernel.calls s).length).filterMap Call.event

/-- The socket is an IPv4 one. -/
def Sent.frame (sent : Sent) : Frame := ⟨etherTypeIPv4, sent.pkt⟩

/-- What is sent is a segment of this connection. -/
structure BelongsTo (sent : Sent) (conn : Connection) (network : Network) (tcp : TCPSegment) :
    Prop where
  decoded : decode sent.frame = some ⟨network, tcp⟩
  src : network.src = conn.src
  dst : network.dst = conn.dst
  addr : sent.addr = conn.dst
  srcPort : tcp.srcPort = conn.srcPort
  dstPort : tcp.dstPort = conn.dstPort
  seq : tcp.seq = conn.sndNxt
  ack : tcp.ack = conn.rcvNxt

variable {cookie} {kernel : Kernel Socket} {s : Socket} {conn : Connection} {evt : ConnEvent}

/-- Only a lowered connection outputs an event, made from its context. -/
theorem connEvent_of_emitted (emits : evt ∈ emitted cookie kernel s conn) :
    evt = (conn.context .activeEstablishedCb 0).connEvent := by
  rw [emitted] at emits
  have effect := @gecitSockops_effect _ _ cookie s (conn.context .activeEstablishedCb 0) kernel
  generalize gecitSockops cookie s (conn.context .activeEstablishedCb 0) kernel = next
    at effect emits
  cases effect with
  | idle =>
      have noneNew : (kernel.calls s).drop (kernel.calls s).length = [] := List.drop_length
      rw [noneNew] at emits
      contradiction
  | lowers lowering =>
      have calls : (kernel.lowered (cookie s) s (conn.context .activeEstablishedCb 0)).calls s =
          kernel.calls s ++ _ := Function.update_self s _ _
      rw [calls, List.drop_left] at emits
      simpa [Kernel.opening, Call.event, eq_comm] using emits
  | counts state enabled segment | restores state enabled segment =>
      rw [op_context] at segment
      contradiction

theorem uint32ToIP_length (n : UInt32) : (uint32ToIP n).length = 4 := LittleEndian.encode_length 4 _

theorem to4_uint32ToIP (n : UInt32) : to4 (uint32ToIP n) = some (uint32ToIP n) :=
  if_pos (uint32ToIP_length n)

/-- A packet built for IPv4 addresses decodes to them, whatever its hop limit. -/
theorem decode_buildPacket {conn : ConnInfo} {src dst : Bytes} (srcIPv4 : to4 conn.SrcIP = some src)
    (dstIPv4 : to4 conn.DstIP = some dst) {payload : Bytes} (fits : 40 + payload.length < 2 ^ 16)
    (ttl : Int) :
    ∃ ip, decode ⟨etherTypeIPv4, buildPacket .linux conn payload ttl⟩ =
        some ⟨.ipv4 ip, sentSegment conn payload⟩ ∧ ip.src = src ∧ ip.dst = dst := by
  have networkOrder : Platform.linux ≠ .darwin := by decide
  rw [buildPacket_ipv4 .linux srcIPv4 dstIPv4, buildIPv4Header_eq networkOrder srcIPv4 dstIPv4]
  generalize (checksum (ipv4PseudoHeader src dst (20 + payload.length) ++
    tcpSegment conn payload 0)).toNat = cs
  generalize internetChecksum (ipv4Front ttl (20 + (20 + payload.length)) ++
    (BigEndian.encode 2 0 ++ (src ++ dst))) = headerChecksum
  have total : 20 + (20 + payload.length) = 20 + (tcpSegment conn payload cs).length := by
    rw [tcpSegment_length]
  have parsed := parseIPv4_layout (to4_length srcIPv4) (to4_length dstIPv4) ttl headerChecksum total
    (by omega)
  refine ⟨⟨20 + (20 + payload.length), 0, byte ttl, protocolTCP, src, dst,
    tcpSegment conn payload cs⟩, ?_, rfl, rfl⟩
  rw [decode, if_pos rfl, parsed, Option.bind_some, if_pos ⟨rfl, rfl⟩, parseTCP_tcpSegment,
    Option.map_some]

/-- The socket address is the destination of the event. -/
theorem injectFake_addr (fakeTTL : Int) (evt : ConnEvent) :
    (injectFake fakeTTL evt).addr = uint32ToIP evt.dstIp := by
  have dst : bytesOf (to4 evt.connInfo.DstIP) = uint32ToIP evt.dstIp := by
    rw [ConnEvent.connInfo, to4_uint32ToIP]
    rfl
  have whole : (uint32ToIP evt.dstIp).take 4 = uint32ToIP evt.dstIp :=
    List.take_of_length_le (uint32ToIP_length evt.dstIp).le
  have written := @put_append [] (List.replicate 4 0) (uint32ToIP evt.dstIp) [] 0 rfl
    (uint32ToIP_length evt.dstIp)
  rw [List.append_nil, List.append_nil, List.nil_append, List.nil_append] at written
  rw [injectFake, sendFake, dst, whole]
  exact written

/-- A fake belongs to its connection exactly when the connection is IPv4: then it carries the
connection's addresses, ports and numbers, and otherwise it is an IPv4 packet all the same. -/
theorem fake_belongs_iff (emits : evt ∈ emitted cookie kernel s conn) (padding : Bytes)
    (fakeTTL : Int) :
    (∃ decoded network tcp, readEvents (evt.sample padding) = some decoded ∧
      BelongsTo (injectFake fakeTTL decoded) conn network tcp) ↔ conn.isIPv4 = true := by
  have event := connEvent_of_emitted emits
  have fits : 40 + Fake.TLSClientHello.length < 2 ^ 16 := by decide
  have sampled := readEvents_sample evt padding
  constructor
  · rintro ⟨decoded, network, tcp, read, belongs⟩
    cases conn with
    | ipv4 => rfl
    | ipv6 conn =>
        have four := uint32ToIP_length decoded.dstIp
        rw [← injectFake_addr fakeTTL, belongs.addr, Connection.dst, conn.dst.property] at four
        contradiction
  · intro isIPv4
    cases conn with
    | ipv6 => contradiction
    | ipv4 conn =>
        have describes := describes_connEvent conn .activeEstablishedCb 0
        rw [← event] at describes
        obtain ⟨ip, decoded, src, dst⟩ := @decode_buildPacket evt.connInfo _ _ (to4_uint32ToIP evt.srcIp)
          (to4_uint32ToIP evt.dstIp) _ fits fakeTTL
        refine ⟨evt, .ipv4 ip, _, sampled, decoded, ?_, ?_, ?_, ?_, ?_, ?_, ?_⟩
        · exact src.trans describes.src
        · exact dst.trans describes.dst
        · exact (injectFake_addr fakeTTL evt).trans describes.dst
        · exact describes.srcPort
        · exact describes.dstPort
        · exact describes.seq
        · exact describes.ack

/-- Fakes for IPv4 connections to different addresses go to different addresses. -/
theorem injectFake_addr_ne {first second : IPv4Conn} (different : first.dst ≠ second.dst)
    (fakeTTL : Int) {evt other : ConnEvent} (describes : Describes evt first)
    (describesOther : Describes other second) :
    (injectFake fakeTTL evt).addr ≠ (injectFake fakeTTL other).addr := by
  rw [injectFake_addr, injectFake_addr, describes.dst, describesOther.dst]
  exact fun same => different (Subtype.ext same)

/-! ### Both families -/

/-- Attached and filled, port 443. -/
def filledKernel : Kernel UInt64 :=
  { Kernel.loaded fun _ => ⟨1460, 0⟩ with gecitConfig := ⟨40, 0, 600, 1⟩, targetPorts := [443] }

def webConn : Connection :=
  .ipv4 ⟨⟨[10, 0, 0, 2], rfl⟩, ⟨[93, 184, 216, 34], rfl⟩, 51234, 443, 1000, 77⟩

/-- A connection from `fd00::` to the address whose last byte is `host`; both context words
are zero. -/
def webConn6 (host : UInt8) : Connection :=
  .ipv6 ⟨⟨0xfd :: List.replicate 15 0, rfl⟩, ⟨[0x26, 0x06, 0x47] ++ List.replicate 12 0 ++ [host], rfl⟩,
    51234, 443, 1000, 77⟩ 0 0

def webConnEvent (conn : Connection) : ConnEvent := (conn.context .activeEstablishedCb 0).connEvent

theorem fake_belongs_web : ∃ decoded network tcp,
    readEvents ((webConnEvent webConn).sample [0, 0, 0, 0]) = some decoded ∧
      BelongsTo (injectFake 8 decoded) webConn network tcp := by
  have emits : webConnEvent webConn ∈ emitted id filledKernel 7 webConn := by decide +kernel
  exact (fake_belongs_iff emits [0, 0, 0, 0] 8).mpr rfl

/-- Two IPv6 connections to different hosts: both output events, and both fakes go to 0.0.0.0. -/
theorem fakes_for_ipv6 :
    webConnEvent (webConn6 1) ∈ emitted id filledKernel 7 (webConn6 1) ∧
      webConnEvent (webConn6 2) ∈ emitted id filledKernel 9 (webConn6 2) ∧
        (webConn6 1).dst ≠ (webConn6 2).dst ∧
          (∀ host, readEvents ((webConnEvent (webConn6 host)).sample []) =
              some (webConnEvent (webConn6 host)) ∧
            (injectFake 8 (webConnEvent (webConn6 host))).addr = [0, 0, 0, 0] ∧
              ∀ network tcp,
                ¬ BelongsTo (injectFake 8 (webConnEvent (webConn6 host))) (webConn6 host) network tcp) := by
  refine ⟨by decide +kernel, by decide +kernel, by decide, ?_⟩
  intro host
  have addr : (injectFake 8 (webConnEvent (webConn6 host))).addr = [0, 0, 0, 0] := by
    rw [injectFake_addr]
    show uint32ToIP 0 = [0, 0, 0, 0]
    decide
  refine ⟨readEvents_sample _ [], addr, ?_⟩
  intro network tcp belongs
  have sixteen : (webConn6 host).dst.length = 16 := rfl
  rw [← belongs.addr, addr] at sixteen
  contradiction

end Gecit.Ebpf
