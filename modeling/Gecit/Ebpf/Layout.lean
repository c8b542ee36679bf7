import Mathlib.Tactic.IntervalCases
import Gecit.Foundation.CStruct
import Gecit.Ebpf.Maps

/-!
Contract: the bytes that the program and userspace share, on a little-endian host.

The program sees an address as the word whose bytes in memory are the address, and a remote
port as a word in network byte order. The event it outputs is read back by hand-kept offsets;
the configuration is marshalled field by field and read back by the layout of the C struct.

Owns the context of an IPv4 connection, the event and configuration bytes, and the exclude
keys. Does not own what is done with an event.
-/

namespace Gecit.Ebpf

open Gecit.Foundation
open Gecit.Rawsock

/-! ### The context of a connection -/

abbrev IPv4Address := { ip : IP // ip.length = 4 }

abbrev IPv6Address := { ip : IP // ip.length = 16 }

/-- An established outgoing connection. -/
structure Flow (Address : Type) where
  src : Address
  dst : Address
  srcPort : UInt16
  dstPort : UInt16
  sndNxt : UInt32
  rcvNxt : UInt32
deriving DecidableEq

abbrev IPv4Conn := Flow IPv4Address

/-- The IPv4 fields of the context carry the addresses of IPv4 sockets only; what they hold
for an IPv6 socket is left open. -/
inductive Connection where
  | ipv4 (conn : IPv4Conn)
  | ipv6 (conn : Flow IPv6Address) (remoteIp4 localIp4 : UInt32)
deriving DecidableEq

/-- `binary.NativeEndian.Uint32`: the word with these four bytes in memory. -/
def nativeUint32 (bytes : Bytes) : UInt32 := UInt32.ofNat (LittleEndian.decode bytes)

/-- `binary.NativeEndian.Uint16` -/
def nativeUint16 (bytes : Bytes) : UInt16 := UInt16.ofNat (LittleEndian.decode bytes)

/-- `remote_port`: the low half is zero, the high half holds the port in network byte order. -/
def remotePortWord (port : UInt16) : UInt32 := nativeUint32 ([0, 0] ++ BigEndian.encode 2 port.toNat)

def Flow.context {Address : Type} (conn : Flow Address) (remoteIp4 localIp4 : UInt32) (op : SockOp)
    (skbLen : UInt32) : SockOps where
  op := op
  remoteIp4 := remoteIp4
  localIp4 := localIp4
  remotePort := remotePortWord conn.dstPort
  localPort := conn.srcPort.toUInt32
  sndNxt := conn.sndNxt
  rcvNxt := conn.rcvNxt
  skbLen := skbLen

/-- What the kernel shows the program of a connection. -/
def Connection.context (op : SockOp) (skbLen : UInt32) : Connection → SockOps
  | .ipv4 conn => conn.context (nativeUint32 conn.dst) (nativeUint32 conn.src) op skbLen
  | .ipv6 conn remoteIp4 localIp4 => conn.context remoteIp4 localIp4 op skbLen

theorem op_context (conn : Connection) (op : SockOp) (skbLen : UInt32) :
    (conn.context op skbLen).op = op := by
  cases conn <;> rfl

/-! ### The event -/

/-- The members of `struct conn_event`. -/
def ConnEvent.scalars (evt : ConnEvent) : List Scalar :=
  [.u32 evt.srcIp, .u32 evt.dstIp, .u16 evt.srcPort, .u16 evt.dstPort, .u32 evt.seq, .u32 evt.ack]

/-- The sample of a perf event: the struct, then what the ring buffer pads with. -/
def ConnEvent.sample (evt : ConnEvent) (padding : Bytes) : Bytes :=
  image 0 0 evt.scalars ++ padding

/-- One round of `readEvents`: a short sample is skipped. -/
def readEvents (rawSample : Bytes) : Option ConnEvent :=
  if rawSample.length < 20 then none
  else
    some
      { srcIp := nativeUint32 (slice rawSample 0 4)
        dstIp := nativeUint32 (slice rawSample 4 4)
        srcPort := nativeUint16 (slice rawSample 8 2)
        dstPort := nativeUint16 (slice rawSample 10 2)
        seq := nativeUint32 (slice rawSample 12 4)
        ack := nativeUint32 (slice rawSample 16 4) }

def uint32ToIP (n : UInt32) : IP := LittleEndian.encode 4 n.toNat

/-! ### The configuration -/

/-- The fields of `gecitConfig`, `Reserved` included. -/
def GecitConfig.scalars (config : GecitConfig) : List Scalar :=
  [.u16 config.mss, .u16 config.restoreMss, .u32 config.restoreAfterBytes, .u8 config.enabled] ++
    List.replicate 7 (.u8 0)

/-- Field by field, in native byte order, without padding. -/
def GecitConfig.marshal (config : GecitConfig) : Bytes := packed config.scalars

/-- The members of `struct gecit_config_t`, in bytes. -/
def gecitConfigWidths : List Nat := [2, 2, 4, 1] ++ List.replicate 7 1

/-- Member `i` of `struct gecit_config_t`. -/
def gecitConfigMember (bytes : Bytes) (i : Nat) : Nat :=
  load bytes ((offsets 0 gecitConfigWidths).getD i 0) (gecitConfigWidths.getD i 0)

def readGecitConfig (bytes : Bytes) : GecitConfig where
  mss := UInt16.ofNat (gecitConfigMember bytes 0)
  restoreMss := UInt16.ofNat (gecitConfigMember bytes 1)
  restoreAfterBytes := UInt32.ofNat (gecitConfigMember bytes 2)
  enabled := UInt8.ofNat (gecitConfigMember bytes 3)

/-! ### Addresses and ports -/

theorem uint32ToIP_nativeUint32 (ip : IPv4Address) : uint32ToIP (nativeUint32 ip) = ip := by
  have below := LittleEndian.decode_lt ip.val
  rw [ip.property] at below
  have exactly : (nativeUint32 ip).toNat = LittleEndian.decode ip.val :=
    UInt32.toNat_ofNat_of_lt' below
  have whole := LittleEndian.encode_decode ip.val
  rw [ip.property] at whole
  rw [uint32ToIP, exactly, whole]

theorem nativeUint32_inj {first second : IPv4Address} :
    nativeUint32 first = nativeUint32 second ↔ first = second := by
  constructor
  · intro same
    apply Subtype.ext
    rw [← uint32ToIP_nativeUint32 first, same, uint32ToIP_nativeUint32]
  · rintro rfl
    rfl

theorem toNat_shiftLeft_byte (b : UInt8) {shift : UInt32} (small : shift.toNat ≤ 24) :
    (b.toUInt32 <<< shift).toNat = b.toNat <<< shift.toNat := by
  have byte := b.toNat_lt
  have inWord : shift.toNat % 32 = shift.toNat := Nat.mod_eq_of_lt (by omega)
  have fits : b.toNat <<< shift.toNat < 2 ^ 32 := by
    rw [Nat.shiftLeft_eq]
    calc b.toNat * 2 ^ shift.toNat
        < 2 ^ 8 * 2 ^ shift.toNat := Nat.mul_lt_mul_of_pos_right byte (Nat.two_pow_pos _)
      _ ≤ 2 ^ 8 * 2 ^ 24 := Nat.mul_le_mul_left _ (Nat.pow_le_pow_right (by decide) small)
  rw [UInt32.toNat_shiftLeft, inWord, UInt8.toNat_toUInt32, Nat.mod_eq_of_lt fits]

/-- Shifting bytes into place reads them as a little-endian word. -/
theorem shifted_eq_nativeUint32 (a b c d : UInt8) :
    a.toUInt32 ||| b.toUInt32 <<< 8 ||| c.toUInt32 <<< 16 ||| d.toUInt32 <<< 24 =
      nativeUint32 [a, b, c, d] := by
  have first := a.toNat_lt
  have second := b.toNat_lt
  have third := c.toNat_lt
  have last := d.toNat_lt
  have fits : LittleEndian.decode [a, b, c, d] < 256 ^ 4 := LittleEndian.decode_lt [a, b, c, d]
  apply UInt32.toNat_inj.mp
  rw [nativeUint32, UInt32.toNat_ofNat_of_lt' fits, LittleEndian.decode_four]
  rw [UInt32.toNat_or, UInt32.toNat_or, UInt32.toNat_or, toNat_shiftLeft_byte b (by decide),
    toNat_shiftLeft_byte c (by decide), toNat_shiftLeft_byte d (by decide), UInt8.toNat_toUInt32]
  show ((a.toNat ||| b.toNat <<< 8) ||| c.toNat <<< 16) ||| d.toNat <<< 24 = _
  rw [LittleEndian.or_shiftLeft b.toNat first, LittleEndian.or_shiftLeft c.toNat (by omega),
    LittleEndian.or_shiftLeft d.toNat (by omega)]

theorem excludeKey_eq (ip : IPv4Address) : excludeKey ip = nativeUint32 ip := by
  obtain ⟨bytes, four⟩ := ip
  match bytes, four with
  | [a, b, c, d], _ => exact shifted_eq_nativeUint32 a b c d

theorem bpfNtohl_high (high low : UInt8) :
    (bpfNtohl (high.toUInt32 <<< 16 ||| low.toUInt32 <<< 24)).toUInt16 =
      high.toUInt16 <<< 8 ||| low.toUInt16 := by
  apply UInt16.toBitVec_inj.mp
  ext i inRange
  rw [bpfNtohl]
  interval_cases i <;> simp

theorem remotePortWord_eq (port : UInt16) :
    remotePortWord port = (UInt8.ofNat (port.toNat / 256)).toUInt32 <<< 16 |||
      (UInt8.ofNat port.toNat).toUInt32 <<< 24 := by
  have shifted :=
    shifted_eq_nativeUint32 0 0 (UInt8.ofNat (port.toNat / 256)) (UInt8.ofNat port.toNat)
  have bytes : BigEndian.encode 2 port.toNat =
      [UInt8.ofNat (port.toNat / 256), UInt8.ofNat port.toNat] := by
    rw [BigEndian.encode, BigEndian.encode, BigEndian.encode, pow_one, pow_zero, Nat.div_one]
  have zeros : (0 : UInt8).toUInt32 ||| (0 : UInt8).toUInt32 <<< 8 = 0 := rfl
  rw [zeros, UInt32.zero_or] at shifted
  rw [shifted, remotePortWord, bytes]
  rfl

theorem bpfNtohl_remotePortWord (port : UInt16) : (bpfNtohl (remotePortWord port)).toUInt16 = port := by
  have below := port.toNat_lt
  have low : (UInt8.ofNat port.toNat).toUInt16.toNat = port.toNat % 256 := by
    rw [UInt8.toNat_toUInt16, UInt8.toNat_ofNat']
  have high : ((UInt8.ofNat (port.toNat / 256)).toUInt16 <<< 8).toNat = (port.toNat / 256) <<< 8 := by
    have byte : port.toNat / 256 % 2 ^ 8 = port.toNat / 256 := Nat.mod_eq_of_lt (by omega)
    have fits : (port.toNat / 256) <<< 8 < 2 ^ 16 := by
      rw [Nat.shiftLeft_eq]
      omega
    rw [UInt16.toNat_shiftLeft, UInt8.toNat_toUInt16, UInt8.toNat_ofNat', byte]
    exact Nat.mod_eq_of_lt fits
  rw [remotePortWord_eq, bpfNtohl_high]
  apply UInt16.toNat_inj.mp
  rw [UInt16.toNat_or, low, high, Nat.or_comm, LittleEndian.or_shiftLeft _ (by omega)]
  omega

/-! ### Both sides agree -/

theorem ConnEvent.widths (evt : ConnEvent) : evt.scalars.map Scalar.width = [4, 4, 2, 2, 4, 4] := rfl

theorem GecitConfig.widths (config : GecitConfig) :
    config.scalars.map Scalar.width = gecitConfigWidths := rfl

/-- A sample of the program is read back whole. -/
theorem readEvents_sample (evt : ConnEvent) (padding : Bytes) :
    readEvents (evt.sample padding) = some evt := by
  have noGap : dense 0 (evt.scalars.map Scalar.width) = true := by
    rw [evt.widths]
    rfl
  have layout : offsets 0 (evt.scalars.map Scalar.width) = [0, 4, 8, 10, 12, 16] := by
    rw [evt.widths]
    rfl
  have long : ¬ (evt.sample padding).length < 20 := by
    rw [ConnEvent.sample, image_of_dense 0 evt.scalars noGap, List.length_append, packed_length]
    show ¬ 20 + padding.length < 20
    omega
  have members := @load_image 0 evt.scalars [] 0 rfl padding
  rw [layout] at members
  have srcIp := members (0, .u32 evt.srcIp) (by simp [ConnEvent.scalars])
  have dstIp := members (4, .u32 evt.dstIp) (by simp [ConnEvent.scalars])
  have srcPort := members (8, .u16 evt.srcPort) (by simp [ConnEvent.scalars])
  have dstPort := members (10, .u16 evt.dstPort) (by simp [ConnEvent.scalars])
  have seq := members (12, .u32 evt.seq) (by simp [ConnEvent.scalars])
  have ack := members (16, .u32 evt.ack) (by simp [ConnEvent.scalars])
  have word : ∀ {offset : Nat} {value : UInt32}, load (evt.sample padding) offset 4 = value.toNat →
      nativeUint32 (slice (evt.sample padding) offset 4) = value := by
    intro offset value found
    rw [load] at found
    rw [nativeUint32, found, UInt32.ofNat_toNat]
  have half : ∀ {offset : Nat} {value : UInt16}, load (evt.sample padding) offset 2 = value.toNat →
      nativeUint16 (slice (evt.sample padding) offset 2) = value := by
    intro offset value found
    rw [load] at found
    rw [nativeUint16, found, UInt16.ofNat_toNat]
  rw [readEvents, if_neg long, word srcIp, word dstIp, half srcPort, half dstPort, word seq, word ack]

theorem GecitConfig.marshal_eq (config : GecitConfig) : config.marshal = image 0 0 config.scalars := by
  have noGap : dense 0 (config.scalars.map Scalar.width) = true := by
    rw [config.widths]
    rfl
  rw [image_of_dense 0 config.scalars noGap, GecitConfig.marshal]

theorem readGecitConfig_marshal (config : GecitConfig) :
    readGecitConfig config.marshal = config := by
  have layout : offsets 0 (config.scalars.map Scalar.width) =
      [0, 2, 4, 8, 9, 10, 11, 12, 13, 14, 15] := by
    rw [config.widths]
    rfl
  have members := @load_image 0 config.scalars [] 0 rfl []
  rw [layout, List.append_nil, List.nil_append, ← config.marshal_eq] at members
  have mss := members (0, .u16 config.mss) (by simp [GecitConfig.scalars])
  have restoreMss := members (2, .u16 config.restoreMss) (by simp [GecitConfig.scalars])
  have restoreAfterBytes :=
    members (4, .u32 config.restoreAfterBytes) (by simp [GecitConfig.scalars])
  have enabled := members (8, .u8 config.enabled) (by simp [GecitConfig.scalars])
  simp only [Scalar.u8, Scalar.u16, Scalar.u32] at mss restoreMss restoreAfterBytes enabled
  show GecitConfig.mk (UInt16.ofNat (load config.marshal 0 2)) (UInt16.ofNat (load config.marshal 2 2))
    (UInt32.ofNat (load config.marshal 4 4)) (UInt8.ofNat (load config.marshal 8 1)) = config
  rw [mss, restoreMss, restoreAfterBytes, enabled, UInt16.ofNat_toNat, UInt16.ofNat_toNat,
    UInt32.ofNat_toNat, UInt8.ofNat_toNat]

/-- The key of an address is in the map exactly when the address is in the configuration. -/
theorem mem_excludeKeys_iff (cfg : Config) (ip : IPv4Address) :
    nativeUint32 ip ∈ cfg.excludeKeys ↔ ∃ listed ∈ cfg.ExcludeIPs, to4 listed = some ip.val := by
  rw [Config.excludeKeys, List.mem_filterMap]
  constructor
  · rintro ⟨listed, there, key⟩
    obtain ⟨short, isIPv4, sameKey⟩ := Option.map_eq_some_iff.mp key
    rw [excludeKey_eq ⟨short, to4_length isIPv4⟩, nativeUint32_inj] at sameKey
    rw [← sameKey]
    exact ⟨listed, there, isIPv4⟩
  · rintro ⟨listed, there, isIPv4⟩
    refine ⟨listed, there, ?_⟩
    rw [isIPv4, Option.map_some, excludeKey_eq]

theorem image_u32 (key : UInt32) : image 0 0 [.u32 key] = packed [.u32 key] := by
  apply image_of_dense
  show dense 0 [4] = true
  rfl

/-- Keys with the same bytes are the same. -/
theorem packed_u32_inj {first second : UInt32} :
    packed [.u32 first] = packed [.u32 second] ↔ first = second := by
  constructor
  · intro same
    have single : ∀ key : UInt32, LittleEndian.decode (packed [.u32 key]) = key.toNat := by
      intro key
      rw [packed, List.flatMap_singleton]
      exact LittleEndian.decode_encode key.toNat_lt
    rw [← UInt32.toNat_inj, ← single first, ← single second, same]
  · rintro rfl
    rfl

/-- The event says of the connection what is true. -/
structure Describes (evt : ConnEvent) (conn : IPv4Conn) : Prop where
  src : uint32ToIP evt.srcIp = conn.src
  dst : uint32ToIP evt.dstIp = conn.dst
  srcPort : evt.srcPort = conn.srcPort
  dstPort : evt.dstPort = conn.dstPort
  seq : evt.seq = conn.sndNxt
  ack : evt.ack = conn.rcvNxt

theorem describes_connEvent (conn : IPv4Conn) (op : SockOp) (skbLen : UInt32) :
    Describes ((Connection.ipv4 conn).context op skbLen).connEvent conn where
  src := uint32ToIP_nativeUint32 conn.src
  dst := uint32ToIP_nativeUint32 conn.dst
  srcPort := by
    show conn.srcPort.toUInt32.toUInt16 = conn.srcPort
    simp
  dstPort := bpfNtohl_remotePortWord conn.dstPort
  seq := rfl
  ack := rfl

/-- The event of a connection is decoded to that connection; the exclude key of an address is
the word looked up for the connections to it and for no others; and the configuration is read
back as it was written. -/
theorem layouts_agree :
    (∀ (conn : IPv4Conn) (op : SockOp) (skbLen : UInt32) (padding : Bytes),
      ∃ evt, readEvents (((Connection.ipv4 conn).context op skbLen).connEvent.sample padding) = some evt ∧
        Describes evt conn) ∧
    (∀ (conn : IPv4Conn) (op : SockOp) (skbLen : UInt32) (ip : IPv4Address),
      packed [.u32 (excludeKey ip)] =
        image 0 0 [.u32 ((Connection.ipv4 conn).context op skbLen).remoteIp4] ↔ ip = conn.dst) ∧
    (∀ (cfg : Config) (conn : IPv4Conn) (op : SockOp) (skbLen : UInt32),
      ((Connection.ipv4 conn).context op skbLen).remoteIp4 ∈ cfg.excludeKeys ↔
        ∃ listed ∈ cfg.ExcludeIPs, to4 listed = some conn.dst.val) ∧
    (∀ config : GecitConfig, config.marshal.length = sizeof gecitConfigWidths ∧
      readGecitConfig config.marshal = config) := by
  refine ⟨?_, ?_, ?_, ?_⟩
  · intro conn op skbLen padding
    exact ⟨_, readEvents_sample _ padding, describes_connEvent conn op skbLen⟩
  · intro conn op skbLen ip
    rw [image_u32, packed_u32_inj, excludeKey_eq]
    exact nativeUint32_inj
  · intro cfg conn op skbLen
    exact mem_excludeKeys_iff cfg conn.dst
  · intro config
    refine ⟨?_, readGecitConfig_marshal config⟩
    rw [GecitConfig.marshal, packed_length, config.widths]
    rfl

end Gecit.Ebpf
