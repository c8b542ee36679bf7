import Gecit.Net.Wire
import Gecit.Rawsock.Checksum
import Gecit.Rawsock.ConnInfo

/-!
Contract: `BuildPacket`, from the connection record to the bytes of an IP packet.

A header starts as zeros and gets its fields written over them. The checksum is taken
while its own field is zero, then written.

Owns both address families, the pseudo-headers, and the layout of the result as a
concatenation of its fields. Does not own what a receiver reads.
-/

namespace Gecit.Rawsock

open Gecit.Foundation

/-- `syscall.IPPROTO_TCP` -/
def ipprotoTCP : UInt8 := 6

/-- `byte(n)` -/
def byte (n : Int) : UInt8 := UInt8.ofInt n

def putUint16 (v : UInt16) : Bytes := BigEndian.encode 2 v.toNat

def putUint32 (v : UInt32) : Bytes := BigEndian.encode 4 v.toNat

/-- macOS wants these fields in host order. -/
def ipHeaderPutUint16 (platform : Platform) (v : UInt16) : Bytes :=
  match platform with
  | .darwin => (putUint16 v).reverse
  | .linux | .windows => putUint16 v

/-- `b[i] = byte(cs >> 8); b[i+1] = byte(cs)` -/
def putChecksum (b : Bytes) (i : Nat) (cs : UInt16) : Bytes :=
  put (put b i [(cs >>> 8).toUInt8]) (i + 1) [cs.toUInt8]

def buildTCPHeader (conn : ConnInfo) : Bytes :=
  let hdr := List.replicate 20 0
  let hdr := put hdr 0 (putUint16 conn.SrcPort)
  let hdr := put hdr 2 (putUint16 conn.DstPort)
  let hdr := put hdr 4 (putUint32 conn.Seq)
  let hdr := put hdr 8 (putUint32 conn.Ack)
  let hdr := put hdr 12 [0x50]
  let hdr := put hdr 13 [0x18]
  put hdr 14 (putUint16 502)

def buildIPv4Header (platform : Platform) (conn : ConnInfo) (ttl : Int) (payloadLen : Nat) : Bytes :=
  let totalLen := 20 + payloadLen
  let hdr := List.replicate 20 0
  let hdr := put hdr 0 [0x45]
  let hdr := put hdr 2 (ipHeaderPutUint16 platform (UInt16.ofNat totalLen))
  let hdr := put hdr 4 (ipHeaderPutUint16 platform 0x1234)
  let hdr := put hdr 8 [byte ttl]
  let hdr := put hdr 9 [ipprotoTCP]
  let hdr := put hdr 12 ((bytesOf (to4 conn.SrcIP)).take 4)
  let hdr := put hdr 16 ((bytesOf (to4 conn.DstIP)).take 4)
  putChecksum hdr 10 (checksum hdr)

def buildIPv6Header (conn : ConnInfo) (hopLimit : Int) (payloadLen : Nat) : Bytes :=
  let hdr := List.replicate 40 0
  let hdr := put hdr 0 [0x60]
  let hdr := put hdr 4 (putUint16 (UInt16.ofNat payloadLen))
  let hdr := put hdr 6 [ipprotoTCP]
  let hdr := put hdr 7 [byte hopLimit]
  let hdr := put hdr 8 ((bytesOf (to16 conn.SrcIP)).take 16)
  put hdr 24 ((bytesOf (to16 conn.DstIP)).take 16)

def ipv4PseudoHeader (src dst : Bytes) (segmentLen : Nat) : Bytes :=
  src ++ (dst ++ ([0, ipprotoTCP] ++ putUint16 (UInt16.ofNat segmentLen)))

def ipv6PseudoHeader (conn : ConnInfo) (segmentLen : Nat) : Bytes :=
  bytesOf (to16 conn.SrcIP) ++ (bytesOf (to16 conn.DstIP) ++
    (putUint32 (UInt32.ofNat segmentLen) ++ [0, 0, 0, ipprotoTCP]))

def buildPacket (platform : Platform) (conn : ConnInfo) (payload : Bytes) (ttl : Int) : Bytes :=
  let segment := buildTCPHeader conn ++ payload
  let (ipHdr, pseudoHdr) := match to4 conn.SrcIP with
    | some src4 =>
        (buildIPv4Header platform conn ttl segment.length,
          ipv4PseudoHeader src4 (bytesOf (to4 conn.DstIP)) segment.length)
    | none => (buildIPv6Header conn ttl segment.length, ipv6PseudoHeader conn segment.length)
  putChecksum (ipHdr ++ segment) (ipHdr.length + 16) (checksum (pseudoHdr ++ segment))

/-! ### Layout -/

theorem putChecksum_append (left right : Bytes) {i : Nat} (start : left.length = i) (cs : UInt16) :
    putChecksum (left ++ (BigEndian.encode 2 0 ++ right)) i cs =
      left ++ (BigEndian.encode 2 cs.toNat ++ right) := by
  have below := cs.toNat_lt
  have high : (cs >>> 8).toUInt8 = UInt8.ofNat (cs.toNat / 256 ^ 1) := by
    apply UInt8.toNat_inj.mp
    rw [UInt16.toNat_toUInt8, UInt16.toNat_shiftRight, UInt8.toNat_ofNat']
    show cs.toNat >>> 8 % 2 ^ 8 = _
    rw [Nat.shiftRight_eq_div_pow, pow_one]
  have low : cs.toUInt8 = UInt8.ofNat (cs.toNat / 256 ^ 0) := by
    apply UInt8.toNat_inj.mp
    rw [UInt16.toNat_toUInt8, UInt8.toNat_ofNat', pow_zero, Nat.div_one]
  have first := @put_append left [0] [(cs >>> 8).toUInt8] ([0] ++ right) i start rfl
  have second := @put_append (left ++ [(cs >>> 8).toUInt8]) [0] [cs.toUInt8] right (i + 1)
    (by simp [start]) rfl
  rw [List.append_assoc] at second
  show putChecksum (left ++ ([0] ++ ([0] ++ right))) i cs = _
  rw [putChecksum, first, second, List.append_assoc, high, low]
  rfl

/-- The TCP header up to its checksum. -/
def tcpFront (conn : ConnInfo) : Bytes :=
  putUint16 conn.SrcPort ++ (putUint16 conn.DstPort ++ (putUint32 conn.Seq ++
    (putUint32 conn.Ack ++ ([0x50, 0x18] ++ putUint16 502))))

theorem buildTCPHeader_eq (conn : ConnInfo) :
    buildTCPHeader conn = tcpFront conn ++ (BigEndian.encode 2 0 ++ [0, 0]) := rfl

/-- The IPv4 header up to its checksum, in network byte order. -/
def ipv4Front (ttl : Int) (totalLen : Nat) : Bytes :=
  [0x45, 0] ++ (putUint16 (UInt16.ofNat totalLen) ++ [0x12, 0x34, 0, 0, byte ttl, ipprotoTCP])

theorem ipv4Front_length (ttl : Int) (totalLen : Nat) : (ipv4Front ttl totalLen).length = 10 := rfl

theorem buildIPv4Header_eq {platform : Platform} (networkOrder : platform ≠ .darwin)
    {conn : ConnInfo} {src dst : Bytes} (srcIPv4 : to4 conn.SrcIP = some src)
    (dstIPv4 : to4 conn.DstIP = some dst) (ttl : Int) (payloadLen : Nat) :
    buildIPv4Header platform conn ttl payloadLen =
      ipv4Front ttl (20 + payloadLen) ++ (BigEndian.encode 2
        (internetChecksum (ipv4Front ttl (20 + payloadLen) ++
          (BigEndian.encode 2 0 ++ (src ++ dst)))) ++ (src ++ dst)) := by
  have srcLength := to4_length srcIPv4
  have dstLength := to4_length dstIPv4
  have srcTaken : (bytesOf (to4 conn.SrcIP)).take 4 = src := by
    rw [srcIPv4, bytesOf, Option.getD_some, List.take_of_length_le (by omega)]
  have dstTaken : (bytesOf (to4 conn.DstIP)).take 4 = dst := by
    rw [dstIPv4, bytesOf, Option.getD_some, List.take_of_length_le (by omega)]
  have fields : buildIPv4Header platform conn ttl payloadLen =
      let hdr := put (put ((ipv4Front ttl (20 + payloadLen) ++ BigEndian.encode 2 0) ++
        (List.replicate 4 0 ++ (List.replicate 4 0 ++ []))) 12 src) 16 dst
      putChecksum hdr 10 (checksum hdr) := by
    rw [← srcTaken, ← dstTaken]
    cases platform with
    | darwin => contradiction
    | linux | windows => rfl
  have withSrc := @put_append (ipv4Front ttl (20 + payloadLen) ++ BigEndian.encode 2 0)
    (List.replicate 4 0) src (List.replicate 4 0 ++ []) 12 rfl srcLength
  have withDst := @put_append ((ipv4Front ttl (20 + payloadLen) ++ BigEndian.encode 2 0) ++ src)
    (List.replicate 4 0) dst [] 16
    (by rw [List.length_append, srcLength]; rfl) dstLength
  have frontLength := ipv4Front_length ttl (20 + payloadLen)
  have wholeLength : (ipv4Front ttl (20 + payloadLen) ++
      (BigEndian.encode 2 0 ++ (src ++ dst))).length = 20 := by
    simp [frontLength, srcLength, dstLength]
  rw [fields]
  simp only
  rw [withSrc, ← List.append_assoc _ src, withDst, List.append_nil, List.append_assoc,
    List.append_assoc, putChecksum_append _ _ frontLength, checksum_toNat (by omega)]

/-- The IPv6 header up to its addresses. -/
def ipv6Front (hopLimit : Int) (payloadLen : Nat) : Bytes :=
  [0x60, 0, 0, 0] ++ (putUint16 (UInt16.ofNat payloadLen) ++ [ipprotoTCP, byte hopLimit])

theorem ipv6Front_length (hopLimit : Int) (payloadLen : Nat) :
    (ipv6Front hopLimit payloadLen).length = 8 := rfl

theorem buildIPv6Header_eq {conn : ConnInfo} (srcLength : conn.SrcIP.length = 16)
    (dstLength : conn.DstIP.length = 16) (hopLimit : Int) (payloadLen : Nat) :
    buildIPv6Header conn hopLimit payloadLen =
      ipv6Front hopLimit payloadLen ++ (conn.SrcIP ++ conn.DstIP) := by
  have srcTaken : (bytesOf (to16 conn.SrcIP)).take 16 = conn.SrcIP := by
    rw [to16_of_length srcLength, bytesOf, Option.getD_some, List.take_of_length_le (by omega)]
  have dstTaken : (bytesOf (to16 conn.DstIP)).take 16 = conn.DstIP := by
    rw [to16_of_length dstLength, bytesOf, Option.getD_some, List.take_of_length_le (by omega)]
  have fields : buildIPv6Header conn hopLimit payloadLen =
      put (put (ipv6Front hopLimit payloadLen ++
        (List.replicate 16 0 ++ (List.replicate 16 0 ++ []))) 8
          ((bytesOf (to16 conn.SrcIP)).take 16)) 24 ((bytesOf (to16 conn.DstIP)).take 16) := rfl
  have withSrc := @put_append (ipv6Front hopLimit payloadLen) (List.replicate 16 0) conn.SrcIP
    (List.replicate 16 0 ++ []) 8 rfl srcLength
  have withDst := @put_append (ipv6Front hopLimit payloadLen ++ conn.SrcIP) (List.replicate 16 0)
    conn.DstIP [] 24 (by rw [List.length_append, srcLength]; rfl) dstLength
  rw [fields, srcTaken, dstTaken, withSrc, ← List.append_assoc, withDst, List.append_nil,
    List.append_assoc]

/-- The segment of `conn` with `cs` in its checksum field. -/
def tcpSegment (conn : ConnInfo) (payload : Bytes) (cs : Nat) : Bytes :=
  tcpFront conn ++ (BigEndian.encode 2 cs ++ ([0, 0] ++ payload))

theorem tcpSegment_length (conn : ConnInfo) (payload : Bytes) (cs : Nat) :
    (tcpSegment conn payload cs).length = 20 + payload.length := by
  have front : (tcpFront conn).length = 16 := rfl
  simp only [tcpSegment, List.length_append, front, BigEndian.encode_length, List.length_cons,
    List.length_nil]
  omega

theorem segment_eq (conn : ConnInfo) (payload : Bytes) :
    buildTCPHeader conn ++ payload = tcpSegment conn payload 0 := by
  rw [buildTCPHeader_eq, tcpSegment, List.append_assoc, List.append_assoc]

theorem putChecksum_segment (ipHdr : Bytes) (conn : ConnInfo) (payload : Bytes) (cs : UInt16) :
    putChecksum (ipHdr ++ tcpSegment conn payload 0) (ipHdr.length + 16) cs =
      ipHdr ++ tcpSegment conn payload cs.toNat := by
  have start : (ipHdr ++ tcpFront conn).length = ipHdr.length + 16 := by
    rw [List.length_append]
    rfl
  rw [tcpSegment, ← List.append_assoc ipHdr, putChecksum_append _ _ start, List.append_assoc,
    tcpSegment]

theorem buildPacket_ipv4 (platform : Platform) {conn : ConnInfo} {src dst : Bytes}
    (srcIPv4 : to4 conn.SrcIP = some src) (dstIPv4 : to4 conn.DstIP = some dst) (payload : Bytes)
    (ttl : Int) : buildPacket platform conn payload ttl =
      buildIPv4Header platform conn ttl (20 + payload.length) ++ tcpSegment conn payload
        (checksum (ipv4PseudoHeader src dst (20 + payload.length) ++
          tcpSegment conn payload 0)).toNat := by
  simp only [buildPacket, srcIPv4, segment_eq, tcpSegment_length, putChecksum_segment]
  rw [dstIPv4, bytesOf, Option.getD_some]

theorem buildPacket_ipv6 (platform : Platform) {conn : ConnInfo} (notIPv4 : to4 conn.SrcIP = none)
    (payload : Bytes) (ttl : Int) : buildPacket platform conn payload ttl =
      buildIPv6Header conn ttl (20 + payload.length) ++ tcpSegment conn payload
        (checksum (ipv6PseudoHeader conn (20 + payload.length) ++
          tcpSegment conn payload 0)).toNat := by
  simp only [buildPacket, notIPv4, segment_eq, tcpSegment_length, putChecksum_segment]

/-- A segment with its own checksum verifies against what the checksum was taken over. -/
theorem tcpSegment_verifies {pseudoHdr : Bytes} (even : pseudoHdr.length % 2 = 0) (conn : ConnInfo)
    (payload : Bytes) (fits : pseudoHdr.length + (20 + payload.length) ≤ 131074) :
    internetChecksum (pseudoHdr ++ tcpSegment conn payload
      (checksum (pseudoHdr ++ tcpSegment conn payload 0)).toNat) = 0 := by
  have frontEven : (pseudoHdr ++ tcpFront conn).length % 2 = 0 := by
    have front : (tcpFront conn).length = 16 := rfl
    rw [List.length_append, front]
    omega
  have covered : (pseudoHdr ++ tcpSegment conn payload 0).length ≤ 131074 := by
    rw [List.length_append, tcpSegment_length]
    exact fits
  have field := internetChecksum_field frontEven ([0, 0] ++ payload)
  rw [checksum_toNat covered, tcpSegment, tcpSegment]
  simpa only [List.append_assoc] using field

end Gecit.Rawsock
