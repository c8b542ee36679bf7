import Gecit.Rawsock.Packet

/-!
Contract: what a standard receiver makes of a built packet.

The layouts of the packet builder are read back field by field with the receiver's
parsers, for both families; both checksums verify to zero, the header's own and the one
over the pseudo-header and the segment.

Owns the round trip. Does not own the parsers or the builder.
-/

namespace Gecit.Rawsock

open Gecit.Foundation
open Gecit.Net

/-- The segment that carries `payload` with the numbers of `conn`. -/
def sentSegment (conn : ConnInfo) (payload : Bytes) : TCPSegment where
  srcPort := conn.SrcPort
  dstPort := conn.DstPort
  seq := conn.Seq
  ack := conn.Ack
  flags := 0x18
  payload := payload

theorem parseTCP_tcpSegment (conn : ConnInfo) (payload : Bytes) (cs : Nat) :
    parseTCP (tcpSegment conn payload cs) = some (sentSegment conn payload) := by
  have srcPort : number (tcpSegment conn payload cs) 0 2 = conn.SrcPort.toNat :=
    @BigEndian.decode_encode 2 _ conn.SrcPort.toNat_lt
  have dstPort : number (tcpSegment conn payload cs) 2 2 = conn.DstPort.toNat :=
    @BigEndian.decode_encode 2 _ conn.DstPort.toNat_lt
  have seq : number (tcpSegment conn payload cs) 4 4 = conn.Seq.toNat :=
    @BigEndian.decode_encode 4 _ conn.Seq.toNat_lt
  have ack : number (tcpSegment conn payload cs) 8 4 = conn.Ack.toNat :=
    @BigEndian.decode_encode 4 _ conn.Ack.toNat_lt
  have offset : number (tcpSegment conn payload cs) 12 1 = 0x50 := rfl
  have flags : number (tcpSegment conn payload cs) 13 1 = 0x18 := rfl
  have carried : (tcpSegment conn payload cs).drop 20 = payload := rfl
  have inside : 20 ≤ 4 * (0x50 / 16) ∧ 4 * (0x50 / 16) ≤ (tcpSegment conn payload cs).length := by
    rw [tcpSegment_length]
    omega
  rw [parseTCP]
  simp only [offset]
  rw [if_pos inside, srcPort, dstPort, seq, ack, flags]
  simp only [UInt16.ofNat_toNat, UInt32.ofNat_toNat]
  rw [sentSegment]
  congr

/-- A 16-bit length field that holds its value. -/
theorem decode_putUint16 {value : Nat} (fits : value < 2 ^ 16) :
    BigEndian.decode (putUint16 (UInt16.ofNat value)) = value := by
  rw [putUint16, BigEndian.decode_encode (UInt16.ofNat value).toNat_lt, UInt16.toNat_ofNat',
    Nat.mod_eq_of_lt fits]

theorem decode_singleton (b : UInt8) : BigEndian.decode [b] = b.toNat := by
  simp [BigEndian.decode]

theorem parseIPv4_layout {src dst : Bytes} (srcLength : src.length = 4) (dstLength : dst.length = 4)
    (ttl : Int) (cs : Nat) {segment : Bytes} {totalLen : Nat}
    (total : totalLen = 20 + segment.length) (fits : totalLen < 2 ^ 16) :
    parseIPv4 (ipv4Front ttl totalLen ++ (BigEndian.encode 2 cs ++ (src ++ dst)) ++ segment) =
      some
        { totalLength := totalLen
          fragment := 0
          ttl := byte ttl
          protocol := protocolTCP
          src := src
          dst := dst
          payload := segment } := by
  match src, srcLength, dst, dstLength with
  | [s0, s1, s2, s3], _, [d0, d1, d2, d3], _ =>
      generalize packetEq : ipv4Front ttl totalLen ++ (BigEndian.encode 2 cs ++
        ([s0, s1, s2, s3] ++ [d0, d1, d2, d3])) ++ segment = packet
      have length : packet.length = totalLen := by
        rw [← packetEq, total]
        simp only [List.length_append, ipv4Front_length, BigEndian.encode_length, List.length_cons,
          List.length_nil]
      have version : number packet 0 1 = 0x45 := packetEq ▸ rfl
      have lengthField : slice packet 2 2 = putUint16 (UInt16.ofNat totalLen) := packetEq ▸ rfl
      have totalLength : number packet 2 2 = totalLen := by
        rw [number, lengthField, decode_putUint16 fits]
      have fragmentField : slice packet 6 2 = [0, 0] := packetEq ▸ rfl
      have fragment : number packet 6 2 = 0 := by rw [number, fragmentField]; decide
      have lifetime : number packet 8 1 = (byte ttl).toNat := packetEq ▸ decode_singleton (byte ttl)
      have protocol : number packet 9 1 = 6 := packetEq ▸ rfl
      have srcRead : slice packet 12 4 = [s0, s1, s2, s3] := packetEq ▸ rfl
      have dstRead : slice packet 16 4 = [d0, d1, d2, d3] := packetEq ▸ rfl
      have behind : packet.drop 20 = segment := packetEq ▸ rfl
      have ihl : ihlBytes packet = 20 := by
        rw [ihlBytes, version]
      have carried : slice packet (ihlBytes packet) (totalLen - ihlBytes packet) = segment := by
        rw [ihl, total, Nat.add_sub_cancel_left, slice, behind, List.take_length]
      have accepted : 20 ≤ packet.length ∧ number packet 0 1 / 16 = 4 ∧ 20 ≤ ihlBytes packet ∧
          ihlBytes packet ≤ number packet 2 2 ∧ number packet 2 2 ≤ packet.length := by
        rw [version, ihl, totalLength]
        omega
      simp only [parseIPv4]
      rw [if_pos accepted, fragment, lifetime, protocol, srcRead, dstRead, UInt8.ofNat_toNat,
        totalLength, carried]
      rfl

theorem parseIPv6_layout {src dst : Bytes} (srcLength : src.length = 16)
    (dstLength : dst.length = 16) (hopLimit : Int) {segment : Bytes}
    (fits : segment.length < 2 ^ 16) :
    parseIPv6 (ipv6Front hopLimit segment.length ++ (src ++ dst) ++ segment) =
      some
        { payloadLength := segment.length
          nextHeader := protocolTCP
          hopLimit := byte hopLimit
          src := src
          dst := dst
          payload := segment } := by
  have frontLength := ipv6Front_length hopLimit segment.length
  rw [List.append_assoc, List.append_assoc]
  generalize packetEq : ipv6Front hopLimit segment.length ++ (src ++ (dst ++ segment)) = packet
  have length : packet.length = 40 + segment.length := by
    rw [← packetEq]
    simp only [List.length_append, frontLength]
    omega
  have version : number packet 0 1 = 0x60 := packetEq ▸ rfl
  have payloadLength : number packet 4 2 = segment.length := packetEq ▸ decode_putUint16 fits
  have nextHeader : number packet 6 1 = 6 := packetEq ▸ rfl
  have lifetime : number packet 7 1 = (byte hopLimit).toNat :=
    packetEq ▸ decode_singleton (byte hopLimit)
  have srcRead : slice packet 8 16 = src := by
    rw [← packetEq, ← srcLength]
    exact slice_at frontLength
  have dstRead : slice packet 24 16 = dst := by
    have start : (ipv6Front hopLimit segment.length ++ src).length = 24 := by
      rw [List.length_append, frontLength, srcLength]
    rw [← packetEq, ← dstLength, ← List.append_assoc]
    exact slice_at start
  have carried : slice packet 40 segment.length = segment := by
    have start : (ipv6Front hopLimit segment.length ++ (src ++ dst)).length = 40 := by
      simp only [List.length_append, frontLength, srcLength, dstLength]
    rw [← packetEq, ← List.append_assoc src, ← List.append_assoc, slice, List.drop_left' start,
      List.take_length]
  have accepted : 40 + number packet 4 2 ≤ packet.length ∧ number packet 0 1 / 16 = 6 := by
    rw [version, payloadLength]
    omega
  simp only [parseIPv6]
  rw [if_pos accepted, payloadLength, nextHeader, lifetime, srcRead, dstRead, carried,
    UInt8.ofNat_toNat]
  rfl

/-! ### The built packet -/

theorem byte_toNat {n : Int} (nonNegative : 0 ≤ n) (small : n ≤ 255) : ((byte n).toNat : Int) = n := by
  have reduced : (n % 2 ^ 8).toNat = n.toNat := by omega
  rw [byte, UInt8.ofInt, reduced, UInt8.toNat_ofNat']
  omega

/-- `packet` is taken as the IPv4 datagram `ip`: it runs from `src` to `dst` with `ttl` hops left,
fills its length field, carries `segment`, and both its checksums verify. -/
structure IPv4Delivery (packet src dst : Bytes) (ttl : Int) (segment : TCPSegment)
    (ip : IPv4Packet) : Prop where
  parsed : parseIPv4 packet = some ip
  src : ip.src = src
  dst : ip.dst = dst
  ttl : (ip.ttl.toNat : Int) = ttl
  protocol : ip.protocol = protocolTCP
  whole : ip.fragment = 0
  totalLength : ip.totalLength = packet.length
  tcp : parseTCP ip.payload = some segment
  headerChecksum : internetChecksum (packet.take (ihlBytes packet)) = 0
  tcpChecksum : internetChecksum (ip.pseudoHeader ++ ip.payload) = 0

/-- The same for IPv6, whose length field leaves out the header and which has one checksum. -/
structure IPv6Delivery (packet src dst : Bytes) (hopLimit : Int) (segment : TCPSegment)
    (ip : IPv6Packet) : Prop where
  parsed : parseIPv6 packet = some ip
  src : ip.src = src
  dst : ip.dst = dst
  hopLimit : (ip.hopLimit.toNat : Int) = hopLimit
  nextHeader : ip.nextHeader = protocolTCP
  payloadLength : 40 + ip.payloadLength = packet.length
  tcp : parseTCP ip.payload = some segment
  tcpChecksum : internetChecksum (ip.pseudoHeader ++ ip.payload) = 0

theorem ipv4Delivery {platform : Platform} (networkOrder : platform ≠ .darwin) {conn : ConnInfo}
    {src dst : Bytes} (srcIPv4 : to4 conn.SrcIP = some src) (dstIPv4 : to4 conn.DstIP = some dst)
    {payload : Bytes} (fits : 40 + payload.length < 2 ^ 16) {ttl : Int} (nonNegative : 0 ≤ ttl)
    (small : ttl ≤ 255) : ∃ ip, IPv4Delivery (buildPacket platform conn payload ttl) src dst ttl
      (sentSegment conn payload) ip := by
  have srcLength := to4_length srcIPv4
  have dstLength := to4_length dstIPv4
  rw [buildPacket_ipv4 platform srcIPv4 dstIPv4, buildIPv4Header_eq networkOrder srcIPv4 dstIPv4]
  have covered : (ipv4PseudoHeader src dst (20 + payload.length)).length = 12 := by
    simp only [ipv4PseudoHeader, putUint16, List.length_append, BigEndian.encode_length, srcLength,
      dstLength, List.length_cons, List.length_nil]
  have verifies := @tcpSegment_verifies (ipv4PseudoHeader src dst (20 + payload.length))
    (by rw [covered]) conn payload (by omega)
  generalize (checksum (ipv4PseudoHeader src dst (20 + payload.length) ++
    tcpSegment conn payload 0)).toNat = cs at verifies ⊢
  have segmentLength := tcpSegment_length conn payload cs
  have total : 20 + (20 + payload.length) = 20 + (tcpSegment conn payload cs).length := by
    rw [segmentLength]
  have headerField := internetChecksum_field
    (by rw [ipv4Front_length] : (ipv4Front ttl (20 + (20 + payload.length))).length % 2 = 0)
    (src ++ dst)
  generalize internetChecksum (ipv4Front ttl (20 + (20 + payload.length)) ++
    (BigEndian.encode 2 0 ++ (src ++ dst))) = headerChecksum at headerField ⊢
  have headerLength : (ipv4Front ttl (20 + (20 + payload.length)) ++
      (BigEndian.encode 2 headerChecksum ++ (src ++ dst))).length = 20 := by
    simp only [List.length_append, ipv4Front_length, BigEndian.encode_length, srcLength, dstLength]
  have version : number (ipv4Front ttl (20 + (20 + payload.length)) ++
      (BigEndian.encode 2 headerChecksum ++ (src ++ dst)) ++ tcpSegment conn payload cs) 0 1 =
        0x45 := rfl
  refine ⟨_, ⟨parseIPv4_layout srcLength dstLength ttl headerChecksum total (by omega), rfl, rfl,
    byte_toNat nonNegative small, rfl, rfl, ?_, parseTCP_tcpSegment conn payload cs, ?_, ?_⟩⟩
  · rw [List.length_append, headerLength, segmentLength]
  · rw [ihlBytes, version, List.take_left' headerLength]
    exact headerField
  · have sentLength : (UInt16.ofNat (20 + payload.length)).toNat = 20 + payload.length := by
      rw [UInt16.toNat_ofNat']
      omega
    rw [ipv4PseudoHeader, putUint16, sentLength] at verifies
    rw [IPv4Packet.pseudoHeader, segmentLength]
    exact verifies

theorem ipv6Delivery (platform : Platform) {conn : ConnInfo} (notIPv4 : to4 conn.SrcIP = none)
    (srcLength : conn.SrcIP.length = 16) (dstLength : conn.DstIP.length = 16) {payload : Bytes}
    (fits : 20 + payload.length < 2 ^ 16) {hopLimit : Int} (nonNegative : 0 ≤ hopLimit)
    (small : hopLimit ≤ 255) : ∃ ip, IPv6Delivery (buildPacket platform conn payload hopLimit)
      conn.SrcIP conn.DstIP hopLimit (sentSegment conn payload) ip := by
  rw [buildPacket_ipv6 platform notIPv4, buildIPv6Header_eq srcLength dstLength]
  have pseudo : ipv6PseudoHeader conn (20 + payload.length) = conn.SrcIP ++ (conn.DstIP ++
      (putUint32 (UInt32.ofNat (20 + payload.length)) ++ [0, 0, 0, ipprotoTCP])) := by
    rw [ipv6PseudoHeader, to16_of_length srcLength, to16_of_length dstLength]
    rfl
  have covered : (ipv6PseudoHeader conn (20 + payload.length)).length = 40 := by
    simp only [pseudo, putUint32, List.length_append, BigEndian.encode_length, srcLength, dstLength,
      List.length_cons, List.length_nil]
  have verifies := @tcpSegment_verifies (ipv6PseudoHeader conn (20 + payload.length))
    (by rw [covered]) conn payload (by omega)
  generalize (checksum (ipv6PseudoHeader conn (20 + payload.length) ++
    tcpSegment conn payload 0)).toNat = cs at verifies ⊢
  have segmentLength := tcpSegment_length conn payload cs
  rw [← segmentLength]
  refine ⟨_, ⟨parseIPv6_layout srcLength dstLength hopLimit (by omega), rfl, rfl,
    byte_toNat nonNegative small, rfl, ?_, parseTCP_tcpSegment conn payload cs, ?_⟩⟩
  · simp only [List.length_append, ipv6Front_length, srcLength, dstLength]
  · have sentLength : (UInt32.ofNat (20 + payload.length)).toNat = 20 + payload.length := by
      rw [UInt32.toNat_ofNat']
      omega
    rw [pseudo, putUint32, sentLength] at verifies
    rw [IPv6Packet.pseudoHeader, segmentLength]
    exact verifies

theorem buildPacket_delivers (conn : ConnInfo) (payload : Bytes) (ttl : Int) (nonNegative : 0 ≤ ttl)
    (small : ttl ≤ 255) :
    (∀ platform src dst, platform ≠ .darwin → to4 conn.SrcIP = some src →
      to4 conn.DstIP = some dst → 40 + payload.length < 2 ^ 16 →
        ∃ ip, IPv4Delivery (buildPacket platform conn payload ttl) src dst ttl
          (sentSegment conn payload) ip) ∧
    (∀ platform, conn.SrcIP.length = 16 → to4 conn.SrcIP = none → conn.DstIP.length = 16 →
      to4 conn.DstIP = none → 20 + payload.length < 2 ^ 16 →
        ∃ ip, IPv6Delivery (buildPacket platform conn payload ttl) conn.SrcIP conn.DstIP ttl
          (sentSegment conn payload) ip) := by
  constructor
  · intro platform src dst networkOrder srcIPv4 dstIPv4 fits
    exact ipv4Delivery networkOrder srcIPv4 dstIPv4 fits nonNegative small
  · intro platform srcLength srcNotIPv4 dstLength _ fits
    exact ipv6Delivery platform srcNotIPv4 srcLength dstLength fits nonNegative small

/-- A mapped source, a short destination and an odd payload; then two IPv6 addresses. -/
theorem buildPacket_delivers_threeBytes :
    (∃ ip, IPv4Delivery (buildPacket .linux
      ⟨v4InV6Prefix ++ [10, 0, 0, 1], [93, 184, 216, 34], 50000, 443, 7, 9, 0⟩ [22, 3, 1] 8)
      [10, 0, 0, 1] [93, 184, 216, 34] 8
      (sentSegment ⟨v4InV6Prefix ++ [10, 0, 0, 1], [93, 184, 216, 34], 50000, 443, 7, 9, 0⟩
        [22, 3, 1]) ip) ∧
    (∃ ip, IPv6Delivery (buildPacket .darwin
      ⟨List.replicate 16 1, List.replicate 16 2, 50000, 443, 7, 9, 0⟩ [22, 3, 1] 8)
      (List.replicate 16 1) (List.replicate 16 2) 8
      (sentSegment ⟨List.replicate 16 1, List.replicate 16 2, 50000, 443, 7, 9, 0⟩ [22, 3, 1])
      ip) :=
  ⟨(buildPacket_delivers ⟨v4InV6Prefix ++ [10, 0, 0, 1], [93, 184, 216, 34], 50000, 443, 7, 9, 0⟩
      [22, 3, 1] 8 (by decide) (by decide)).1 .linux [10, 0, 0, 1] [93, 184, 216, 34] (by decide)
      (by decide) (by decide) (by decide),
    (buildPacket_delivers ⟨List.replicate 16 1, List.replicate 16 2, 50000, 443, 7, 9, 0⟩
      [22, 3, 1] 8 (by decide) (by decide)).2 .darwin (by decide) (by decide) (by decide)
      (by decide) (by decide)⟩

end Gecit.Rawsock
