import Mathlib.Logic.Function.Basic
import Gecit.Foundation.Transition
import Gecit.Rawsock.ConnInfo

/-!
Contract: the BPF maps, what userspace pushes into them, and the kernel helpers.

The kernel state holds the four maps and, for each socket, its TCP_MAXSEG and callback
flags. The helpers that act on a socket also append to its log, which is never cut, so
a call that was made once is seen in every later state.

Owns the map and context records, the pushes of the manager, and the helpers, all of
which succeed. Does not own the program that calls them.
-/

namespace Gecit.Ebpf

open Gecit.Foundation
open Gecit.Rawsock

/-! ### Records of the maps -/

structure GecitConfig where
  mss : UInt16
  restoreMss : UInt16
  restoreAfterBytes : UInt32
  enabled : UInt8
deriving DecidableEq, Repr

structure ConnEvent where
  srcIp : UInt32
  dstIp : UInt32
  srcPort : UInt16
  dstPort : UInt16
  /-- `snd_nxt`: the sequence number of the real ClientHello. -/
  seq : UInt32
  ack : UInt32
deriving DecidableEq, Repr

structure ConnState where
  bytesSent : UInt32
  mssRestored : UInt8
deriving DecidableEq, Repr

/-! ### Userspace -/

/-- The settings of the manager that reach the maps. -/
structure Config where
  MSS : Int
  RestoreMSS : Int
  RestoreAfterBytes : Int
  Ports : List UInt16
  ExcludeIPs : List IP
deriving DecidableEq, Repr

def Config.updateEnabled (cfg : Config) (enabled : Bool) : GecitConfig where
  mss := UInt16.ofInt cfg.MSS
  restoreMss := UInt16.ofInt cfg.RestoreMSS
  restoreAfterBytes := UInt32.ofInt cfg.RestoreAfterBytes
  enabled := if enabled then 1 else 0

def Config.pushConfig (cfg : Config) : GecitConfig where
  mss := UInt16.ofInt cfg.MSS
  restoreMss := UInt16.ofInt cfg.RestoreMSS
  restoreAfterBytes := UInt32.ofInt cfg.RestoreAfterBytes
  enabled := 1

/-- Network byte order, the same as `skops->remote_ip4`. -/
def excludeKey : Bytes → UInt32
  | [a, b, c, d] => a.toUInt32 ||| b.toUInt32 <<< 8 ||| c.toUInt32 <<< 16 ||| d.toUInt32 <<< 24
  | _ => 0

/-- The keys of `pushExcludeIPs`; an address that is not IPv4 is skipped. -/
def Config.excludeKeys (cfg : Config) : List UInt32 :=
  cfg.ExcludeIPs.filterMap fun ip => (to4 ip).map excludeKey

def maxEntries : Nat := 64

/-- An update of a hash map whose values nothing reads; a full map takes no new key. -/
def updateKeys {Key : Type*} [DecidableEq Key] (keys : List Key) (key : Key) : Option (List Key) :=
  if key ∈ keys then some keys
  else if keys.length < maxEntries then some (key :: keys)
  else none

theorem mem_updateKeys {Key : Type*} [DecidableEq Key] {keys next : List Key} {key : Key}
    (updated : updateKeys keys key = some next) (any : Key) :
    any ∈ next ↔ any = key ∨ any ∈ keys := by
  rw [updateKeys] at updated
  split at updated
  next there =>
    obtain rfl := Option.some.inj updated
    constructor
    · exact Or.inr
    · rintro (rfl | mem)
      · exact there
      · exact mem
  next =>
    obtain ⟨_, rfl⟩ := guarded_eq_some updated
    exact List.mem_cons

theorem updateKeys_length {Key : Type*} [DecidableEq Key] {keys next : List Key} {key : Key}
    (updated : updateKeys keys key = some next) (fits : keys.length ≤ maxEntries) :
    next.length ≤ maxEntries := by
  rw [updateKeys] at updated
  split at updated
  next =>
    obtain rfl := Option.some.inj updated
    exact fits
  next =>
    obtain ⟨room, rfl⟩ := guarded_eq_some updated
    rw [List.length_cons]
    omega

/-- The map after updates that all succeed. -/
theorem foldlM_updateKeys {Key : Type*} [DecidableEq Key] {updates keys next : List Key}
    (updated : updates.foldlM updateKeys keys = some next) (fits : keys.length ≤ maxEntries) :
    next.length ≤ maxEntries ∧ ∀ any, any ∈ next ↔ any ∈ keys ∨ any ∈ updates := by
  induction updates generalizing keys with
  | nil =>
      obtain rfl := Option.some.inj updated
      exact ⟨fits, by simp⟩
  | cons key rest inductionHypothesis =>
      rw [List.foldlM_cons] at updated
      obtain ⟨middle, first, others⟩ := Option.bind_eq_some_iff.mp updated
      obtain ⟨small, members⟩ := inductionHypothesis others (updateKeys_length first fits)
      refine ⟨small, ?_⟩
      intro any
      rw [members, mem_updateKeys first, List.mem_cons]
      tauto

/-! ### The context of a callback -/

inductive SockOp where
  | activeEstablishedCb
  | hdrOptLenCb
  | writeHdrOptCb
  | other (op : UInt32)
deriving DecidableEq, Repr

/-- The fields of `struct bpf_sock_ops` that the program reads; the callback flags are the
socket's own. -/
structure SockOps where
  op : SockOp
  remoteIp4 : UInt32
  localIp4 : UInt32
  /-- In network byte order. -/
  remotePort : UInt32
  localPort : UInt32
  sndNxt : UInt32
  rcvNxt : UInt32
  skbLen : UInt32
deriving DecidableEq, Repr

/-- Byte swap: both targets are little-endian. -/
def bpfNtohl (x : UInt32) : UInt32 :=
  x <<< 24 ||| (x &&& (0xff00 : UInt32)) <<< 8 ||| x >>> 8 &&& (0xff00 : UInt32) ||| x >>> 24

def SockOps.dstPort (skops : SockOps) : UInt16 := (bpfNtohl skops.remotePort).toUInt16

/-- The event that `handle_established` outputs. -/
def SockOps.connEvent (skops : SockOps) : ConnEvent where
  srcIp := skops.localIp4
  dstIp := skops.remoteIp4
  srcPort := skops.localPort.toUInt16
  dstPort := skops.dstPort
  seq := skops.sndNxt
  ack := skops.rcvNxt

/-! ### The kernel -/

structure Sock where
  /-- Its TCP_MAXSEG option. -/
  maxseg : Int
  /-- `bpf_sock_ops_cb_flags` -/
  cbFlags : UInt32
deriving DecidableEq, Repr

/-- `BPF_SOCK_OPS_WRITE_HDR_OPT_CB_FLAG` -/
def writeHdrOptCbFlag : UInt32 := 64

/-- A helper call on a socket: TCP_MAXSEG from the variable `mss` or from `normal_mss`, the
perf event, the callback flags. -/
inductive Call where
  | mss (value : Int)
  | normalMss (value : Int)
  | connEvent (evt : ConnEvent)
  | cbFlags (flags : UInt32)
deriving DecidableEq, Repr

namespace Call

def isMss : Call → Bool
  | mss _ => true
  | _ => false

def isNormalMss : Call → Bool
  | normalMss _ => true
  | _ => false

def isConnEvent : Call → Bool
  | connEvent _ => true
  | _ => false

end Call

structure Kernel (Socket : Type*) where
  gecitConfig : GecitConfig
  /-- Keys of `target_ports`. -/
  targetPorts : List UInt16
  /-- Keys of `exclude_ips`. -/
  excludeIps : List UInt32
  /-- Keyed by socket cookie. -/
  connections : UInt64 → Option ConnState
  sockets : Socket → Sock
  /-- Bytes that the last HDR_OPT_LEN callback asked for. -/
  reserved : Socket → Option UInt32
  /-- The helper calls on each socket so far, in order. -/
  calls : Socket → List Call

namespace Kernel

variable {Socket : Type*} [DecidableEq Socket]

/-- The collection as loaded: the array map is zeroed, the hash maps are empty. -/
def loaded (sockets : Socket → Sock) : Kernel Socket where
  gecitConfig := ⟨0, 0, 0, 0⟩
  targetPorts := []
  excludeIps := []
  connections := fun _ => none
  sockets := sockets
  reserved := fun _ => none
  calls := fun _ => []

/-- `bpf_setsockopt(skops, IPPROTO_TCP, TCP_MAXSEG, ..)`; `source` is the variable that holds
the value. -/
def setsockopt (kernel : Kernel Socket) (s : Socket) (source : Int → Call) (value : Int) :
    Kernel Socket :=
  { kernel with
    sockets := Function.update kernel.sockets s { kernel.sockets s with maxseg := value }
    calls := Function.update kernel.calls s (kernel.calls s ++ [source value]) }

/-- `bpf_perf_event_output` -/
def perfEventOutput (kernel : Kernel Socket) (s : Socket) (evt : ConnEvent) : Kernel Socket :=
  { kernel with calls := Function.update kernel.calls s (kernel.calls s ++ [.connEvent evt]) }

/-- `bpf_sock_ops_cb_flags_set` -/
def cbFlagsSet (kernel : Kernel Socket) (s : Socket) (flags : UInt32) : Kernel Socket :=
  { kernel with
    sockets := Function.update kernel.sockets s { kernel.sockets s with cbFlags := flags }
    calls := Function.update kernel.calls s (kernel.calls s ++ [.cbFlags flags]) }

/-- `bpf_reserve_hdr_opt` -/
def reserveHdrOpt (kernel : Kernel Socket) (s : Socket) (len : UInt32) : Kernel Socket :=
  { kernel with reserved := Function.update kernel.reserved s (some len) }

/-- `bpf_map_update_elem` on `connections`, and a store through a looked-up pointer. -/
def mapUpdateElem (kernel : Kernel Socket) (key : UInt64) (state : ConnState) : Kernel Socket :=
  { kernel with connections := Function.update kernel.connections key (some state) }

/-- `bpf_map_delete_elem` on `connections` -/
def mapDeleteElem (kernel : Kernel Socket) (key : UInt64) : Kernel Socket :=
  { kernel with connections := Function.update kernel.connections key none }

end Kernel

end Gecit.Ebpf
