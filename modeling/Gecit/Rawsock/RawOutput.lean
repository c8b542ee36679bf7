import Gecit.Rawsock.Received

/-!
Contract: IPv4 packets that leave a raw socket of macOS.

The builder writes the length and the identification in host order there. The kernel swaps the
length and the fragment field of a packet with `IP_HDRINCL` and computes the header checksum; the
identification stays swapped.

Owns what is assumed of the kernel, and that a receiver takes the packet as it was meant. Does not
own the socket.
-/

namespace Gecit.Rawsock

open Gecit.Foundation
open Gecit.Net

/-- What the kernel puts on the wire for a packet with a header of twenty bytes. -/
structure RawOutput (packet wire : Bytes) : Prop where
  length : wire.length = packet.length
  version : slice wire 0 2 = slice packet 0 2
  totalLength : slice wire 2 2 = (slice packet 2 2).reverse
  identification : slice wire 4 2 = slice packet 4 2
  fragment : slice wire 6 2 = (slice packet 6 2).reverse
  lifetime : slice wire 8 2 = slice packet 8 2
  headerChecksum : internetChecksum (wire.take 20) = 0
  behind : wire.drop 12 = packet.drop 12

/-- The header up to its checksum, in the byte order of the platform. -/
def ipv4FrontOn (platform : Platform) (ttl : Int) (totalLen : Nat) : Bytes :=
  [0x45, 0] ++ (ipHeaderPutUint16 platform (UInt16.ofNat totalLen) ++
    (ipHeaderPutUint16 platform 0x1234 ++ [0, 0, byte ttl, ipprotoTCP]))

theorem buildIPv4Header_layout (platform : Platform) {conn : ConnInfo} {src dst : Bytes}
    (srcIPv4 : to4 conn.SrcIP = some src) (dstIPv4 : to4 conn.DstIP = some dst) (ttl : Int)
    (payloadLen : Nat) : ∃ cs, buildIPv4Header platform conn ttl payloadLen =
      ipv4FrontOn platform ttl (20 + payloadLen) ++ (BigEndian.encode 2 cs ++ (src ++ dst)) := by
  have srcLength := to4_length srcIPv4
  have dstLength := to4_length dstIPv4
  have srcTaken : (bytesOf (to4 conn.SrcIP)).take 4 = src := by
    rw [srcIPv4, bytesOf, Option.getD_some, List.take_of_length_le (by omega)]
  have dstTaken : (bytesOf (to4 conn.DstIP)).take 4 = dst := by
    rw [dstIPv4, bytesOf, Option.getD_some, List.take_of_length_le (by omega)]
  have frontLength : (ipv4FrontOn platform ttl (20 + payloadLen)).length = 10 := by
    cases platform <;> rfl
  have fields : buildIPv4Header platform conn ttl payloadLen =
      let hdr := put (put ((ipv4FrontOn platform ttl (20 + payloadLen) ++ BigEndian.encode 2 0) ++
        (List.replicate 4 0 ++ (List.replicate 4 0 ++ []))) 12 src) 16 dst
      putChecksum hdr 10 (checksum hdr) := by
    rw [← srcTaken, ← dstTaken]
    cases platform <;> rfl
  have withSrc := @put_append (ipv4FrontOn platform ttl (20 + payloadLen) ++ BigEndian.encode 2 0)
    (List.replicate 4 0) src (List.replicate 4 0 ++ []) 12
    (by rw [List.length_append, frontLength]; rfl) srcLength
  have withDst := @put_append ((ipv4FrontOn platform ttl (20 + payloadLen) ++
    BigEndian.encode 2 0) ++ src) (List.replicate 4 0) dst [] 16
    (by rw [List.length_append, List.length_append, frontLength, srcLength]; rfl) dstLength
  have written : ∀ cs : UInt16, putChecksum (ipv4FrontOn platform ttl (20 + payloadLen) ++
      (BigEndian.encode 2 0 ++ (src ++ dst))) 10 cs = ipv4FrontOn platform ttl (20 + payloadLen) ++
        (BigEndian.encode 2 cs.toNat ++ (src ++ dst)) :=
    putChecksum_append _ _ frontLength
  simp only at fields
  rw [withSrc, ← List.append_assoc _ src, withDst, List.append_nil, List.append_assoc,
    List.append_assoc, written] at fields
  exact ⟨_, fields⟩

/-- Two packets that agree on what a receiver reads of the header and behind it. -/
theorem parseIPv4_congr {wire packet : Bytes} (length : wire.length = packet.length)
    (totalLength : slice wire 2 2 = slice packet 2 2) (fragment : slice wire 6 2 = slice packet 6 2)
    (rest : ∀ start count, start + count ≤ 2 ∨ 8 ≤ start ∧ start + count ≤ 10 ∨ 12 ≤ start →
      slice wire start count = slice packet start count) : parseIPv4 wire = parseIPv4 packet := by
  have ihl : ihlBytes wire = ihlBytes packet := by
    rw [ihlBytes, ihlBytes, number, number, rest 0 1 (by omega)]
  unfold parseIPv4
  simp only [number, ihl, length, totalLength, fragment, rest 0 1 (by omega), rest 8 1 (by omega),
    rest 9 1 (by omega), rest 12 4 (by omega), rest 16 4 (by omega)]
  split
  next accepted =>
    rw [rest _ _ (by omega)]
    exact (if_pos accepted).symm
  next refused => exact (if_neg refused).symm

/-- Agreement on three regions is agreement within them. -/
theorem agree_within {packet other : Bytes} (front : slice packet 0 2 = slice other 0 2)
    (middle : slice packet 8 2 = slice other 8 2) (behind : packet.drop 12 = other.drop 12)
    (start count : Nat) (within : start + count ≤ 2 ∨ 8 ≤ start ∧ start + count ≤ 10 ∨ 12 ≤ start) :
    slice packet start count = slice other start count := by
  rcases within with inFront | ⟨inMiddle, short⟩ | inRest
  · have parts := fun bytes => @slice_slice bytes 0 2 start count inFront
    rw [← Nat.zero_add start, ← parts, ← parts, front]
  · have parts := fun bytes => @slice_slice bytes 8 2 (start - 8) count (by omega)
    rw [← Nat.add_sub_cancel' inMiddle, ← parts, ← parts, middle]
  · rw [← Nat.add_sub_cancel' inRest, ← slice_drop, ← slice_drop, behind]

/-- Only the byte order, the identification and the checksum tell the platforms apart. -/
structure SameButOrder (packet other : Bytes) : Prop where
  length : packet.length = other.length
  version : slice packet 0 2 = slice other 0 2
  totalLength : slice packet 2 2 = (slice other 2 2).reverse
  fragment : slice packet 6 2 = (slice other 6 2).reverse
  lifetime : slice packet 8 2 = slice other 8 2
  behind : packet.drop 12 = other.drop 12

theorem sameButOrder {conn : ConnInfo} {src dst : Bytes} (srcIPv4 : to4 conn.SrcIP = some src)
    (dstIPv4 : to4 conn.DstIP = some dst) (payload : Bytes) (ttl : Int) :
    SameButOrder (buildPacket .darwin conn payload ttl) (buildPacket .linux conn payload ttl) := by
  obtain ⟨darwinSum, onDarwin⟩ :=
    buildIPv4Header_layout .darwin srcIPv4 dstIPv4 ttl (20 + payload.length)
  obtain ⟨linuxSum, onLinux⟩ :=
    buildIPv4Header_layout .linux srcIPv4 dstIPv4 ttl (20 + payload.length)
  rw [buildPacket_ipv4 .darwin srcIPv4 dstIPv4, buildPacket_ipv4 .linux srcIPv4 dstIPv4, onDarwin,
    onLinux]
  generalize tcpSegment conn payload _ = segment
  generalize 20 + (20 + payload.length) = total
  refine ⟨?_, rfl, rfl, rfl, rfl, rfl⟩
  simp only [List.length_append, BigEndian.encode_length]
  rfl

/-! ### The packet on the wire -/

variable {conn : ConnInfo} {src dst wire : Bytes} {payload : Bytes} {ttl : Int}

/-- The kernel turns the packet into what the other platforms build, but for identification and
checksum. -/
theorem parseIPv4_wire (srcIPv4 : to4 conn.SrcIP = some src) (dstIPv4 : to4 conn.DstIP = some dst)
    (output : RawOutput (buildPacket .darwin conn payload ttl) wire) :
    parseIPv4 wire = parseIPv4 (buildPacket .linux conn payload ttl) := by
  have same := sameButOrder srcIPv4 dstIPv4 payload ttl
  apply parseIPv4_congr (output.length.trans same.length)
  · rw [output.totalLength, same.totalLength, List.reverse_reverse]
  · rw [output.fragment, same.fragment, List.reverse_reverse]
  · exact agree_within (output.version.trans same.version) (output.lifetime.trans same.lifetime)
      (output.behind.trans same.behind)

/-- On macOS too a standard receiver takes an injected IPv4 packet as it was meant. -/
theorem darwin_delivers (srcIPv4 : to4 conn.SrcIP = some src) (dstIPv4 : to4 conn.DstIP = some dst)
    (fits : 40 + payload.length < 2 ^ 16) (nonNegative : 0 ≤ ttl) (small : ttl ≤ 255)
    (output : RawOutput (buildPacket .darwin conn payload ttl) wire) :
    ∃ ip, IPv4Delivery wire src dst ttl (sentSegment conn payload) ip := by
  obtain ⟨ip, delivered⟩ := @ipv4Delivery .linux (by decide) conn src dst srcIPv4 dstIPv4 payload fits
    ttl nonNegative small
  have same := sameButOrder srcIPv4 dstIPv4 payload ttl
  have ihl : ihlBytes wire = 20 := by
    obtain ⟨_, onDarwin⟩ := buildIPv4Header_layout .darwin srcIPv4 dstIPv4 ttl (20 + payload.length)
    have version := output.version
    rw [buildPacket_ipv4 .darwin srcIPv4 dstIPv4, onDarwin] at version
    have first : slice wire 0 1 = [0x45] := by
      have part := @slice_slice wire 0 2 0 1 (by decide)
      rw [← part, version]
      rfl
    rw [ihlBytes, number, first]
    decide
  refine ⟨ip, ?_, delivered.src, delivered.dst, delivered.ttl, delivered.protocol, delivered.whole,
    ?_, delivered.tcp, ?_, delivered.tcpChecksum⟩
  · rw [parseIPv4_wire srcIPv4 dstIPv4 output]
    exact delivered.parsed
  · rw [delivered.totalLength, output.length, same.length]
  · rw [ihl]
    exact output.headerChecksum

/-- A kernel as it is assumed. -/
def ipOutput (packet : Bytes) : Bytes :=
  let swapped := put (put packet 2 (slice packet 2 2).reverse) 6 (slice packet 6 2).reverse
  let cleared := put swapped 10 [0, 0]
  put cleared 10 (BigEndian.encode 2 (internetChecksum (cleared.take 20)))

theorem ipOutput_rawOutput {packet : Bytes} (long : 20 ≤ packet.length) :
    RawOutput packet (ipOutput packet) := by
  match packet, long with
  | b0 :: b1 :: b2 :: b3 :: b4 :: b5 :: b6 :: b7 :: b8 :: b9 :: b10 :: b11 :: rest, _ =>
      have written : ipOutput (b0 :: b1 :: b2 :: b3 :: b4 :: b5 :: b6 :: b7 :: b8 :: b9 :: b10 ::
          b11 :: rest) = [b0, b1, b3, b2, b4, b5, b7, b6, b8, b9] ++ (BigEndian.encode 2
            (internetChecksum ([b0, b1, b3, b2, b4, b5, b7, b6, b8, b9] ++
              (BigEndian.encode 2 0 ++ rest.take 8))) ++ rest) := rfl
      have even : [b0, b1, b3, b2, b4, b5, b7, b6, b8, b9].length % 2 = 0 := by simp
      have field := internetChecksum_field even (rest.take 8)
      rw [written]
      generalize internetChecksum ([b0, b1, b3, b2, b4, b5, b7, b6, b8, b9] ++
        (BigEndian.encode 2 0 ++ rest.take 8)) = sum at field ⊢
      refine ⟨?_, rfl, rfl, rfl, rfl, rfl, field, rfl⟩
      rw [List.length_append, List.length_append, BigEndian.encode_length]
      simp only [List.length_cons, List.length_nil]
      omega

theorem buildPacket_long (srcIPv4 : to4 conn.SrcIP = some src)
    (dstIPv4 : to4 conn.DstIP = some dst) : 20 ≤ (buildPacket .darwin conn payload ttl).length := by
  rw [buildPacket_ipv4 .darwin srcIPv4 dstIPv4, List.length_append, tcpSegment_length]
  omega

/-- An injection to a server of an odd payload. -/
theorem darwin_delivers_threeBytes : ∃ ip, IPv4Delivery
    (ipOutput (buildPacket .darwin ⟨[10, 0, 0, 1], [93, 184, 216, 34], 50000, 443, 7, 9, 0⟩
      [22, 3, 1] 8)) [10, 0, 0, 1] [93, 184, 216, 34] 8
    (sentSegment ⟨[10, 0, 0, 1], [93, 184, 216, 34], 50000, 443, 7, 9, 0⟩ [22, 3, 1]) ip :=
  darwin_delivers rfl rfl (by decide) (by decide) (by decide)
    (ipOutput_rawOutput (buildPacket_long rfl rfl))

end Gecit.Rawsock
