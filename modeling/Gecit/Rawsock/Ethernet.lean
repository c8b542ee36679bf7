import Gecit.Rawsock.Packet

/-!
Contract: the Ethernet frames around injected packets.

`BuildEthernetFrame` takes the EtherType from the version of the packet. The macOS injector
uses it; the Windows socket writes a header of its own, with the EtherType of IPv4 always.

Owns the three senders, the layout of a frame, and the connections whose frames match their
packets on both platforms. Does not own the MAC addresses or the packet.
-/

namespace Gecit.Rawsock

open Gecit.Foundation
open Gecit.Net

def etherHeaderLen : Nat := 14

/-- The first byte's high half. -/
def ipVersion (packet : Bytes) : Option UInt8 := packet.head?.map fun (first : UInt8) => first >>> 4

/-- `copy` takes six bytes of an address at most. -/
def buildEthernetFrame (srcMAC dstMAC ipPacket : Bytes) : Bytes :=
  let frame := List.replicate (etherHeaderLen + ipPacket.length) 0
  let frame := put frame 0 (dstMAC.take 6)
  let frame := put frame 6 (srcMAC.take 6)
  let etherType := if ipVersion ipPacket = some 6 then etherTypeIPv6 else etherTypeIPv4
  let frame := put frame 12 (BigEndian.encode 2 etherType)
  put frame etherHeaderLen ipPacket

namespace Windows

/-- The frame that `SendFake` writes. -/
def sendFake (srcMAC dstMAC : Bytes) (conn : ConnInfo) (payload : Bytes) (ttl : Int) : Bytes :=
  let ipTcp := buildPacket .windows conn payload ttl
  let frame := List.replicate (14 + ipTcp.length) 0
  let frame := put frame 0 (dstMAC.take 6)
  let frame := put frame 6 (srcMAC.take 6)
  let frame := put frame 12 [0x08]
  let frame := put frame 13 [0x00]
  put frame 14 ipTcp

end Windows

namespace Darwin

/-- What `SendFake` does: a frame through pcap, a packet through the raw socket, or an error. -/
inductive Sent where
  | frame (bytes : Bytes)
  | sendto (pkt addr : Bytes)
  | failed
deriving DecidableEq, Repr

/-- `ipv6Injector.send`; `resolved` holds the MAC addresses that `resolve` found. -/
def send (resolved : Option (Bytes × Bytes)) (conn : ConnInfo) (payload : Bytes) (ttl : Int) :
    Sent :=
  match resolved with
  | none => .failed
  | some (srcMAC, dstMAC) =>
      .frame (buildEthernetFrame srcMAC dstMAC (buildPacket .darwin conn payload ttl))

def sendFake (resolved : Option (Bytes × Bytes)) (conn : ConnInfo) (payload : Bytes) (ttl : Int) :
    Sent :=
  match to4 conn.DstIP with
  | none => send resolved conn payload ttl
  | some addr => .sendto (buildPacket .darwin conn payload ttl) addr

end Darwin

/-! ### Frames and packets -/

/-- The frame carries the packet behind the header that belongs to it. -/
structure Framed (srcMAC dstMAC packet frame : Bytes) : Prop where
  built : frame = buildEthernetFrame srcMAC dstMAC packet
  etherType : ipVersion packet = some 4 ∧ number frame 12 2 = etherTypeIPv4 ∨
    ipVersion packet = some 6 ∧ number frame 12 2 = etherTypeIPv6
  stripped : frame.drop etherHeaderLen = packet

/-- Both addresses are IPv4 ones, in either form, or neither is. -/
def ConnInfo.OneFamily (conn : ConnInfo) : Prop :=
  (to4 conn.SrcIP).isSome = (to4 conn.DstIP).isSome

/-- The frames of both pcap paths match their packets, and macOS takes its pcap path for the
packets that are IPv6. -/
structure LinkLayerMatches (srcMAC dstMAC : Bytes) (conn : ConnInfo) (payload : Bytes) (ttl : Int) :
    Prop where
  windows : Framed srcMAC dstMAC (buildPacket .windows conn payload ttl)
    (Windows.sendFake srcMAC dstMAC conn payload ttl)
  darwin : ∃ frame, Darwin.send (some (srcMAC, dstMAC)) conn payload ttl = .frame frame ∧
    Framed srcMAC dstMAC (buildPacket .darwin conn payload ttl) frame
  darwinPath : (∃ frame, Darwin.sendFake (some (srcMAC, dstMAC)) conn payload ttl = .frame frame) ↔
    ipVersion (buildPacket .darwin conn payload ttl) = some 6

section Layout

variable {srcMAC dstMAC : Bytes} (srcSix : srcMAC.length = 6) (dstSix : dstMAC.length = 6)

include srcSix dstSix

/-- A frame with both addresses written into it. -/
theorem addresses_layout (count : Nat) :
    put (put (List.replicate (14 + count) 0) 0 (dstMAC.take 6)) 6 (srcMAC.take 6) =
      (dstMAC ++ srcMAC) ++ (List.replicate 2 0 ++ List.replicate count 0) := by
  have zeros : List.replicate (14 + count) (0 : UInt8) = [] ++ (List.replicate 6 0 ++
      (List.replicate 6 0 ++ (List.replicate 2 0 ++ List.replicate count 0))) := by
    rw [List.replicate_add]
    rfl
  have dst := @put_append [] (List.replicate 6 0) dstMAC
    (List.replicate 6 0 ++ (List.replicate 2 0 ++ List.replicate count 0)) 0 rfl dstSix
  have src := @put_append dstMAC (List.replicate 6 0) srcMAC
    (List.replicate 2 0 ++ List.replicate count 0) 6 dstSix srcSix
  rw [List.take_of_length_le dstSix.le, List.take_of_length_le srcSix.le, zeros, dst,
    List.nil_append, src, List.append_assoc]

/-- The packet is written behind the header. -/
theorem packet_layout {etherType : Bytes} (two : etherType.length = 2) (packet : Bytes) :
    put ((dstMAC ++ srcMAC ++ etherType) ++ List.replicate packet.length 0) 14 packet =
      dstMAC ++ (srcMAC ++ (etherType ++ packet)) := by
  have header : (dstMAC ++ srcMAC ++ etherType).length = 14 := by
    rw [List.length_append, List.length_append, srcSix, dstSix, two]
  have written := @put_append (dstMAC ++ srcMAC ++ etherType) (List.replicate packet.length 0) packet
    [] 14 header (by simp)
  rw [List.append_nil] at written
  rw [written, List.append_nil, List.append_assoc, List.append_assoc]

theorem buildEthernetFrame_eq (ipPacket : Bytes) :
    buildEthernetFrame srcMAC dstMAC ipPacket = dstMAC ++ (srcMAC ++ (BigEndian.encode 2
      (if ipVersion ipPacket = some 6 then etherTypeIPv6 else etherTypeIPv4) ++ ipPacket)) := by
  generalize typed : (if ipVersion ipPacket = some 6 then etherTypeIPv6 else etherTypeIPv4) = value
  have twelve : (dstMAC ++ srcMAC).length = 12 := by
    rw [List.length_append, srcSix, dstSix]
  have type := @put_append (dstMAC ++ srcMAC) (List.replicate 2 0) (BigEndian.encode 2 value)
    (List.replicate ipPacket.length 0) 12 twelve (BigEndian.encode_length ..)
  rw [buildEthernetFrame]
  simp only [typed, etherHeaderLen]
  rw [addresses_layout srcSix dstSix, type, ← List.append_assoc (dstMAC ++ srcMAC),
    packet_layout srcSix dstSix (BigEndian.encode_length ..)]

theorem Windows.sendFake_eq (conn : ConnInfo) (payload : Bytes) (ttl : Int) :
    Windows.sendFake srcMAC dstMAC conn payload ttl = dstMAC ++ (srcMAC ++
      (BigEndian.encode 2 etherTypeIPv4 ++ buildPacket .windows conn payload ttl)) := by
  generalize built : buildPacket .windows conn payload ttl = packet
  have twelve : (dstMAC ++ srcMAC).length = 12 := by
    rw [List.length_append, srcSix, dstSix]
  have high := @put_append (dstMAC ++ srcMAC) [0] [0x08] ([0] ++ List.replicate packet.length 0) 12
    twelve rfl
  have low := @put_append ((dstMAC ++ srcMAC) ++ [0x08]) [0] [0x00]
    (List.replicate packet.length 0) 13 (by rw [List.length_append, twelve]; rfl) rfl
  have zeros : List.replicate 2 0 ++ List.replicate packet.length (0 : UInt8) =
      [0] ++ ([0] ++ List.replicate packet.length 0) := rfl
  have value : [0x08] ++ [0x00] = BigEndian.encode 2 etherTypeIPv4 := by decide
  rw [Windows.sendFake]
  simp only [built]
  rw [addresses_layout srcSix dstSix, zeros, high, ← List.append_assoc (dstMAC ++ srcMAC), low,
    ← List.append_assoc ((dstMAC ++ srcMAC) ++ [0x08]), List.append_assoc (dstMAC ++ srcMAC) [0x08],
    value, packet_layout srcSix dstSix (BigEndian.encode_length ..)]

/-- What a frame of this layout says about its packet. -/
theorem number_layout {value : Nat} (fits : value < 256 ^ 2) (packet : Bytes) :
    number (dstMAC ++ (srcMAC ++ (BigEndian.encode 2 value ++ packet))) 12 2 = value ∧
      (dstMAC ++ (srcMAC ++ (BigEndian.encode 2 value ++ packet))).drop etherHeaderLen = packet := by
  have twelve : (dstMAC ++ srcMAC).length = 12 := by
    rw [List.length_append, srcSix, dstSix]
  have behind : (dstMAC ++ (srcMAC ++ (BigEndian.encode 2 value ++ packet))).drop 12 =
      BigEndian.encode 2 value ++ packet := by
    rw [← List.append_assoc]
    exact List.drop_left' twelve
  constructor
  · have inPlace := number_drop (dstMAC ++ (srcMAC ++ (BigEndian.encode 2 value ++ packet))) 12 0 2
    rw [behind, number_encode fits] at inPlace
    exact inPlace.symm
  · have split : etherHeaderLen = 12 + 2 := rfl
    rw [split, ← List.drop_drop, behind]
    exact List.drop_left' (BigEndian.encode_length ..)

end Layout

/-- The version follows the source address. -/
theorem ipVersion_buildPacket (platform : Platform) (conn : ConnInfo) (payload : Bytes) (ttl : Int) :
    ipVersion (buildPacket platform conn payload ttl) =
      if (to4 conn.SrcIP).isSome then some 4 else some 6 := by
  simp only [buildPacket, segment_eq]
  cases to4 conn.SrcIP with
  | some src4 =>
      rw [putChecksum_segment]
      cases platform <;> rfl
  | none =>
      rw [putChecksum_segment]
      rfl

/-- A frame of `BuildEthernetFrame` belongs to its packet, if that is IPv4 or IPv6. -/
theorem framed_buildEthernetFrame {srcMAC dstMAC packet : Bytes} (srcSix : srcMAC.length = 6)
    (dstSix : dstMAC.length = 6) (version : ipVersion packet = some 4 ∨ ipVersion packet = some 6) :
    Framed srcMAC dstMAC packet (buildEthernetFrame srcMAC dstMAC packet) := by
  have layout := buildEthernetFrame_eq srcSix dstSix packet
  refine ⟨rfl, ?_, ?_⟩
  · rw [layout]
    rcases version with four | six
    · rw [four, if_neg (by decide)]
      exact .inl ⟨rfl, (number_layout srcSix dstSix (by decide) packet).1⟩
    · rw [six, if_pos rfl]
      exact .inr ⟨rfl, (number_layout srcSix dstSix (by decide) packet).1⟩
  · rw [layout]
    split
    · exact (number_layout srcSix dstSix (by decide) packet).2
    · exact (number_layout srcSix dstSix (by decide) packet).2

theorem ipVersion_cases (platform : Platform) (conn : ConnInfo) (payload : Bytes) (ttl : Int) :
    ipVersion (buildPacket platform conn payload ttl) = some 4 ∨
      ipVersion (buildPacket platform conn payload ttl) = some 6 := by
  rw [ipVersion_buildPacket]
  split
  · exact .inl rfl
  · exact .inr rfl

/-- The hard-coded EtherType is the packet's for IPv4 sources only. -/
theorem Windows.framed_iff {srcMAC dstMAC : Bytes} (srcSix : srcMAC.length = 6)
    (dstSix : dstMAC.length = 6) (conn : ConnInfo) (payload : Bytes) (ttl : Int) :
    Framed srcMAC dstMAC (buildPacket .windows conn payload ttl)
        (Windows.sendFake srcMAC dstMAC conn payload ttl) ↔ (to4 conn.SrcIP).isSome := by
  have version := ipVersion_buildPacket .windows conn payload ttl
  have typeWritten := (@number_layout srcMAC dstMAC srcSix dstSix etherTypeIPv4 (by decide)
    (buildPacket .windows conn payload ttl)).1
  constructor
  · intro framed
    by_contra notIPv4
    rw [if_neg notIPv4] at version
    rcases framed.etherType with ⟨four, -⟩ | ⟨-, typed⟩
    · rw [version] at four
      exact absurd four (by decide)
    · rw [Windows.sendFake_eq srcSix dstSix, typeWritten] at typed
      exact absurd typed (by decide)
  · intro isIPv4
    rw [if_pos isIPv4] at version
    have same : Windows.sendFake srcMAC dstMAC conn payload ttl =
        buildEthernetFrame srcMAC dstMAC (buildPacket .windows conn payload ttl) := by
      rw [Windows.sendFake_eq srcSix dstSix, buildEthernetFrame_eq srcSix dstSix, version,
        if_neg (by decide)]
    rw [same]
    exact framed_buildEthernetFrame srcSix dstSix (.inl version)

/-- macOS goes through pcap exactly for its IPv6 packets. -/
theorem Darwin.path_iff {conn : ConnInfo} (oneFamily : conn.OneFamily) (srcMAC dstMAC payload : Bytes)
    (ttl : Int) :
    (∃ frame, Darwin.sendFake (some (srcMAC, dstMAC)) conn payload ttl = .frame frame) ↔
      ipVersion (buildPacket .darwin conn payload ttl) = some 6 := by
  rw [ConnInfo.OneFamily] at oneFamily
  rw [ipVersion_buildPacket, oneFamily, Darwin.sendFake]
  cases to4 conn.DstIP with
  | none => simp [Darwin.send]
  | some addr => simp

/-- Frames match packets on both platforms exactly for IPv4 connections. -/
theorem link_layer_matches_iff {srcMAC dstMAC : Bytes} (srcSix : srcMAC.length = 6)
    (dstSix : dstMAC.length = 6) {conn : ConnInfo} (oneFamily : conn.OneFamily) (payload : Bytes)
    (ttl : Int) :
    LinkLayerMatches srcMAC dstMAC conn payload ttl ↔ (to4 conn.SrcIP).isSome := by
  rw [← Windows.framed_iff srcSix dstSix conn payload ttl]
  constructor
  · exact fun matching => matching.windows
  · intro windows
    refine ⟨windows, ⟨_, rfl, ?_⟩, Darwin.path_iff oneFamily srcMAC dstMAC payload ttl⟩
    exact framed_buildEthernetFrame srcSix dstSix (ipVersion_cases ..)

def nicMAC : Bytes := [2, 0, 0, 0, 0, 1]

def gatewayMAC : Bytes := [2, 0, 0, 0, 0, 2]

/-- A connection between the two addresses. -/
def httpsConn (src dst : IP) : ConnInfo := ⟨src, dst, 51234, 443, 1000, 2000, 0⟩

/-- The source is in its IPv4-mapped form. -/
theorem link_layer_matches_mapped :
    LinkLayerMatches nicMAC gatewayMAC (httpsConn (v4InV6Prefix ++ [192, 168, 1, 2]) [1, 1, 1, 1])
        [0x16] 8 ↔
      (to4 (v4InV6Prefix ++ [192, 168, 1, 2])).isSome :=
  @link_layer_matches_iff nicMAC gatewayMAC rfl rfl
    (httpsConn (v4InV6Prefix ++ [192, 168, 1, 2]) [1, 1, 1, 1]) (by unfold ConnInfo.OneFamily; decide)
    [0x16] 8

/-- Windows sends an IPv6 packet under the EtherType of IPv4. -/
theorem windows_mislabels_ipv6 :
    ¬ ∀ srcMAC dstMAC conn payload ttl, srcMAC.length = 6 → dstMAC.length = 6 →
      ConnInfo.OneFamily conn → LinkLayerMatches srcMAC dstMAC conn payload ttl := by
  intro matching
  have framed := (matching nicMAC gatewayMAC
    (httpsConn (0x20 :: List.replicate 15 1) (0x20 :: List.replicate 15 2)) [] 8 rfl rfl
    (by unfold ConnInfo.OneFamily; decide)).windows
  have isIPv4 := (Windows.framed_iff rfl rfl _ _ _).mp framed
  exact absurd isIPv4 (by decide)

end Gecit.Rawsock
