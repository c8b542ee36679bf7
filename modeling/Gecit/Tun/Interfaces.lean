import Mathlib.Data.List.Nodup
import Gecit.Foundation.Search
import Gecit.Rawsock.Neighbor
import Gecit.Tun.Manager

/-!
Contract: which interface the Windows engine injects on, captures on and dials through.

`Start` takes one name, given or detected. The raw socket does not use it: it opens the first
pcap device with an IPv4 address, and takes the source MAC from the first NIC with one. The
capture looks for a pcap device that shares an address with the named interface.

Owns the four routines, the interfaces of a successful `Start`, and exactly when they are one.
Does not own the binding of a socket to a name.
-/

namespace Gecit.Tun.Windows

open Gecit.Foundation
open Gecit.Go
open Gecit.Net
open Gecit.Rawsock

/-- An address of a NIC: `*net.IPNet`, or of another type. -/
inductive Addr where
  | ipNet (ip : IP)
  | other
deriving DecidableEq, Repr

structure NIC where
  name : GoString
  up : Bool
  loopback : Bool
  hardwareAddr : Bytes
  addrs : List Addr
  /-- The path under which pcap knows it. -/
  device : GoString
deriving DecidableEq, Repr

structure PcapDevice where
  name : GoString
  addresses : List IP
deriving DecidableEq, Repr

/-- What `net.Interfaces`, `pcap.FindAllDevs`, `route print` and `arp -a` return. -/
structure Machine where
  ifaces : List NIC
  devs : Option (List PcapDevice)
  routes : Option GoString
  arp : Option GoString

def Machine.devices (machine : Machine) : List PcapDevice := machine.devs.getD []

inductive InterfaceError where
  | findDevices
  | noSuitableInterface
  | interfaceByName (name : GoString)
  | noAddresses (name : GoString)
  | noPcapDevice (name : GoString)
deriving DecidableEq, Repr

/-! ### Addresses that count -/

/-- The address of the TUN device. -/
def tunIPv4 : IP := [10, 0, 85, 1]

/-- An IPv4 address that is neither a loopback one nor that of the TUN device. -/
def usableIPv4 (ip : IP) : Option IP :=
  (to4 ip).filter fun ip4 => !isLoopback ip4 && ip4 != tunIPv4

def Addr.usableIPv4 : Addr → Option IP
  | .ipNet ip => Windows.usableIPv4 ip
  | .other => none

/-- `IP.IsLinkLocalUnicast` -/
def isLinkLocalUnicast (ip : IP) : Bool :=
  match to4 ip with
  | some ip4 => ip4.take 2 = [169, 254]
  | none => ip.length = 16 && ip.head? = some 0xfe && (ip.getD 1 0) &&& 0xc0 = 0x80

/-- An IPv6 address that `detectPhysicalInterface` falls back to. -/
def isGlobalIPv6 (ip : IP) : Bool :=
  (to4 ip).isNone && (to16 ip).any fun ip6 => !isLoopback ip6 && !isLinkLocalUnicast ip6

/-- Some IPv4 address of the NIC can be used. -/
def NIC.hasIPv4 (nic : NIC) : Bool := nic.addrs.any fun addr => addr.usableIPv4.isSome

/-! ### The injection -/

def PcapDevice.hasIPv4 (dev : PcapDevice) : Bool :=
  dev.addresses.any fun ip => (usableIPv4 ip).isSome

def defaultInterface (devs : Option (List PcapDevice)) : Except InterfaceError GoString :=
  match devs with
  | none => .error .findDevices
  | some devs =>
      match devs.find? PcapDevice.hasIPv4 with
      | none => .error .noSuitableInterface
      | some dev => .ok dev.name

/-- The gateway on a line of `route print`, if it is the default route. -/
def defaultRouteOnLine (line : GoString) : Option GoString :=
  match fields (trimSpace line) with
  | destination :: mask :: gateway :: _ =>
      if destination = lit "0.0.0.0" ∧ mask = lit "0.0.0.0" then some gateway else none
  | _ => none

def replaceHyphens (s : GoString) : GoString :=
  s.map fun b => if b = byteOf '-' then byteOf ':' else b

/-- The MAC on a line of `arp -a`, if the line is about the gateway and the MAC is read. -/
def gatewayMACOnLine (gwIP line : GoString) : Option Bytes :=
  match fields (trimSpace line) with
  | address :: physical :: _ =>
      if address = gwIP then parseMAC (replaceHyphens physical) else none
  | _ => none

/-- The address of the NIC is not used. -/
def gatewayMAC (routes arp : Option GoString) (_localIP : IP) : Option Bytes :=
  match routes with
  | none => none
  | some out =>
      let gwIP := ((split out).findSome? defaultRouteOnLine).getD []
      if gwIP = [] then none
      else arp.bind fun out => (split out).findSome? (gatewayMACOnLine gwIP)

/-- The loop body of `discoverMACs`: the address at which it returns. -/
def NIC.sourceIPv4 (nic : NIC) : Option IP :=
  if nic.up = false ∨ nic.loopback = true ∨ nic.hardwareAddr = [] then none
  else nic.addrs.findSome? Addr.usableIPv4

/-- The NIC at which `discoverMACs` returns, and its address. -/
def sourceNIC (ifaces : List NIC) : Option (NIC × IP) :=
  ifaces.findSome? fun nic => nic.sourceIPv4.map (nic, ·)

/-- The source and the destination MAC. -/
def discoverMACs (machine : Machine) : Bytes × Bytes :=
  let zero := List.replicate 6 0
  let broadcast := List.replicate 6 0xff
  match sourceNIC machine.ifaces with
  | none => (zero, broadcast)
  | some (nic, ipv4) =>
      (nic.hardwareAddr, (gatewayMAC machine.routes machine.arp ipv4).getD broadcast)

/-- The device that is opened, and the MACs of the frames. The name is ignored. -/
def new (_iface : GoString) (machine : Machine) :
    Except InterfaceError (GoString × Bytes × Bytes) :=
  (defaultInterface machine.devs).map fun device => (device, discoverMACs machine)

/-! ### The capture -/

/-- The texts of the addresses of an interface. -/
def NIC.ipSet (nic : NIC) : List GoString :=
  nic.addrs.filterMap fun
    | .ipNet ip => some (ipString ip)
    | .other => none

def PcapDevice.sharesAddress (nic : NIC) (dev : PcapDevice) : Bool :=
  dev.addresses.any fun ip => nic.ipSet.contains (ipString ip)

def resolvePcapDevice (machine : Machine) (friendlyName : GoString) :
    Except InterfaceError GoString :=
  match machine.ifaces.find? fun nic => nic.name = friendlyName with
  | none => .error (.interfaceByName friendlyName)
  | some goIface =>
      if goIface.addrs = [] then .error (.noAddresses friendlyName)
      else
        match machine.devs with
        | none => .error .findDevices
        | some devs =>
            match devs.find? (PcapDevice.sharesAddress goIface) with
            | none => .error (.noPcapDevice friendlyName)
            | some dev => .ok dev.name

/-! ### The name -/

def virtualPrefixes : List GoString :=
  [lit "utun", lit "bridge", lit "veth", lit "vmnet", lit "lo"]

/-- `detectPhysicalInterface` looks at its addresses. -/
def NIC.isConsidered (nic : NIC) : Bool :=
  nic.up && !nic.loopback && virtualPrefixes.all (fun pre => !hasPrefix nic.name pre) &&
    nic.name != []

/-- One address of the NIC: its name is returned, as an error, or the fallback is kept or set. -/
def detectAddr (name fallback : GoString) : Addr → Except GoString GoString
  | .other => .ok fallback
  | .ipNet ip =>
      if (usableIPv4 ip).isSome then .error name
      else .ok (if fallback = [] ∧ isGlobalIPv6 ip then name else fallback)

def detectNIC (fallback : GoString) (nic : NIC) : Except GoString GoString :=
  if nic.isConsidered then nic.addrs.foldlM (detectAddr nic.name) fallback else .ok fallback

/-- Empty when there is none. -/
def detectPhysicalInterface (ifaces : List NIC) : GoString :=
  match ifaces.foldlM detectNIC [] with
  | .error name => name
  | .ok fallback => fallback

/-! ### `Start` -/

/-- The interface of each part of the engine. -/
structure Interfaces where
  /-- The name that the connections to the servers are bound to. -/
  bound : GoString
  /-- The device on which `SendFake` writes. -/
  sendDevice : GoString
  srcMAC : Bytes
  dstMAC : Bytes
  /-- None when the sequence tracker is missing. -/
  captureDevice : Option GoString
deriving DecidableEq, Repr

section Start

variable (machine : Machine) (configured : GoString)

/-- `m.cfg.Interface` once `Start` has set it. -/
def cfgInterface : GoString :=
  if configured = [] then detectPhysicalInterface machine.ifaces else configured

/-- The steps that fail: what the selection fails at, and what fails for other reasons. -/
def fails (other : Manager.StartStep → Bool) : Manager.StartStep → Bool
  | .physicalInterface => cfgInterface machine configured = []
  | .newRawSocket =>
      (new (cfgInterface machine configured) machine).toOption.isNone || other .newRawSocket
  | step => other step

/-- The device of the capture, if it can be opened. -/
def captureDevice (captureFails : Bool) : Option GoString :=
  if captureFails then none
  else (resolvePcapDevice machine (cfgInterface machine configured)).toOption

variable (heldFrom : Manager.HeldFrom)

/-- The interfaces of the engine after a `Start` that succeeds. -/
def start (captureFails : Bool) (other : Manager.StartStep → Bool) : Option Interfaces :=
  let capture := captureDevice machine configured captureFails
  match new (cfgInterface machine configured) machine with
  | .error _ => none
  | .ok (device, srcMAC, dstMAC) =>
      if (Manager.start heldFrom capture.isNone (fails machine configured other)).2 then
        some {
          bound := cfgInterface machine configured
          sendDevice := device
          srcMAC := srcMAC
          dstMAC := dstMAC
          captureDevice := capture }
      else none

end Start

/-! ### One interface -/

/-- Names and paths tell the interfaces apart, and every pcap device with an address is the one of
an interface and has addresses of it. -/
structure Matching (machine : Machine) : Prop where
  names : (machine.ifaces.map NIC.name).Nodup
  paths : (machine.ifaces.map NIC.device).Nodup
  devices : (machine.devices.map PcapDevice.name).Nodup
  belongs : ∀ dev ∈ machine.devices, ∀ ip ∈ dev.addresses, ∃ nic ∈ machine.ifaces,
    dev.name = nic.device ∧ ipString ip ∈ nic.ipSet

/-- All parts of the engine are on the same interface. -/
def OneInterface (machine : Machine) (interfaces : Interfaces) : Prop :=
  ∃ nic ∈ machine.ifaces,
    interfaces.bound = nic.name ∧ interfaces.sendDevice = nic.device ∧
      (∃ ipv4, sourceNIC machine.ifaces = some (nic, ipv4)) ∧
        interfaces.srcMAC = nic.hardwareAddr ∧
          ∀ device ∈ interfaces.captureDevice, device = nic.device

/-- `discoverMACs` can take the MAC of the NIC. -/
def NIC.isEligible (nic : NIC) : Bool :=
  nic.up && !nic.loopback && nic.hardwareAddr != [] && nic.hasIPv4

/-- `detectPhysicalInterface` can return its name at once. -/
def NIC.isPhysical (nic : NIC) : Bool := nic.isConsidered && nic.hasIPv4

/-- The NIC that was asked for, or without a name the first physical one. -/
def IsUsed (machine : Machine) (configured : GoString) (nic : NIC) : Prop :=
  if configured = [] then FirstWith NIC.isPhysical machine.ifaces nic else nic.name = configured

/-- The used NIC comes first in each of the lists. -/
structure ComesFirst (machine : Machine) (configured : GoString) (captureFails : Bool)
    (nic : NIC) : Prop where
  used : IsUsed machine configured nic
  source : FirstWith NIC.isEligible machine.ifaces nic
  /-- So does its device, among those with IPv4 and among those that share an address with it. -/
  device : ∃ dev, dev.name = nic.device ∧
    FirstWith PcapDevice.hasIPv4 machine.devices dev ∧
      (captureFails = false → FirstWith (PcapDevice.sharesAddress nic) machine.devices dev)

/-! ### The routines as searches -/

theorem hasIPv4_of_isEligible {nic : NIC} (eligible : nic.isEligible = true) :
    nic.hasIPv4 = true := by
  rw [NIC.isEligible, Bool.and_eq_true] at eligible
  exact eligible.2

theorem sourceIPv4_isSome (nic : NIC) : nic.sourceIPv4.isSome = nic.isEligible := by
  unfold NIC.sourceIPv4 NIC.isEligible
  split
  next skipped => rcases skipped with down | loopback | empty <;> simp [*]
  next considered =>
    rw [not_or, not_or, Bool.not_eq_false, Bool.not_eq_true] at considered
    obtain ⟨up, notLoopback, hardware⟩ := considered
    have reads : (nic.addrs.findSome? Addr.usableIPv4).isSome = nic.hasIPv4 := by
      rw [Bool.eq_iff_iff, List.findSome?_isSome_iff, NIC.hasIPv4, List.any_eq_true]
    rw [reads, up, notLoopback, bne_iff_ne.mpr hardware]
    rfl

/-- `discoverMACs` stops at the first NIC it can take. -/
theorem sourceNIC_iff {ifaces : List NIC} {nic : NIC} :
    (∃ ipv4, sourceNIC ifaces = some (nic, ipv4)) ↔ FirstWith NIC.isEligible ifaces nic := by
  have sameTest : (fun nic : NIC => nic.sourceIPv4.isSome) = NIC.isEligible :=
    funext sourceIPv4_isSome
  rw [← sameTest]
  exact findSome?_pair_iff

theorem toOption_defaultInterface (machine : Machine) :
    (defaultInterface machine.devs).toOption =
      (machine.devices.find? PcapDevice.hasIPv4).map PcapDevice.name := by
  unfold defaultInterface Machine.devices
  split
  next missing => simp [missing, Except.toOption]
  next devs there =>
    rw [there, Option.getD_some]
    cases devs.find? PcapDevice.hasIPv4 <;> rfl

theorem addrs_ne_nil {nic : NIC} (hasIPv4 : nic.hasIPv4 = true) : nic.addrs ≠ [] := by
  intro empty
  simp [NIC.hasIPv4, empty] at hasIPv4

section Named

variable {ifaces : List NIC} {nic : NIC} (names : (ifaces.map NIC.name).Nodup)
  (member : nic ∈ ifaces)

include names member

theorem eq_of_name {other : NIC} (there : other ∈ ifaces) (same : other.name = nic.name) :
    other = nic :=
  List.inj_on_of_nodup_map names there member same

theorem find?_name : (ifaces.find? fun other => other.name = nic.name) = some nic := by
  have found : (ifaces.find? fun other => other.name = nic.name).isSome :=
    List.find?_isSome.mpr ⟨nic, member, by simp⟩
  obtain ⟨other, isOther⟩ := Option.isSome_iff_exists.mp found
  have same : other.name = nic.name := by simpa using List.find?_some isOther
  rw [isOther, eq_of_name names member (List.mem_of_find?_eq_some isOther) same]

end Named

/-- The name leads to its NIC, and that to the first device that shares an address with it. -/
theorem toOption_resolvePcapDevice {machine : Machine} {nic : NIC}
    (names : (machine.ifaces.map NIC.name).Nodup) (member : nic ∈ machine.ifaces)
    (hasIPv4 : nic.hasIPv4 = true) :
    (resolvePcapDevice machine nic.name).toOption =
      (machine.devices.find? (PcapDevice.sharesAddress nic)).map PcapDevice.name := by
  rw [resolvePcapDevice, find?_name names member, Machine.devices]
  dsimp only
  rw [if_neg (addrs_ne_nil hasIPv4)]
  cases machine.devs with
  | none => rfl
  | some devs =>
      dsimp only [Option.getD_some]
      cases devs.find? (PcapDevice.sharesAddress nic) <;> rfl

/-! ### The detection as a search -/

section Detect

variable {name : GoString}

theorem detectAddrs_error {addrs : List Addr} (fallback : GoString)
    (usable : (addrs.any fun addr => addr.usableIPv4.isSome) = true) :
    addrs.foldlM (detectAddr name) fallback = .error name := by
  induction addrs generalizing fallback with
  | nil => contradiction
  | cons addr addrs inductionHypothesis =>
      rw [List.any_cons, Bool.or_eq_true] at usable
      rw [List.foldlM_cons]
      cases addr with
      | other =>
          exact inductionHypothesis fallback (usable.resolve_left (by simp [Addr.usableIPv4]))
      | ipNet ip =>
          rw [detectAddr]
          split
          next => rfl
          next unusable => exact inductionHypothesis _ (usable.resolve_left unusable)

theorem detectAddrs_ok {addrs : List Addr} (fallback : GoString)
    (unusable : (addrs.any fun addr => addr.usableIPv4.isSome) = false) :
    ∃ left, addrs.foldlM (detectAddr name) fallback = .ok left ∧
      (left = fallback ∨ left = name) := by
  induction addrs generalizing fallback with
  | nil => exact ⟨fallback, rfl, .inl rfl⟩
  | cons addr addrs inductionHypothesis =>
      rw [List.any_cons, Bool.or_eq_false_iff] at unusable
      obtain ⟨here, later⟩ := unusable
      rw [List.foldlM_cons]
      cases addr with
      | other => exact inductionHypothesis fallback later
      | ipNet ip =>
          rw [Addr.usableIPv4] at here
          rw [detectAddr, here]
          obtain ⟨left, run, either⟩ :=
            inductionHypothesis (if fallback = [] ∧ isGlobalIPv6 ip then name else fallback) later
          refine ⟨left, run, ?_⟩
          split at either
          · exact either.elim .inr .inr
          · exact either

theorem detectNIC_error {nic : NIC} (fallback : GoString) (physical : nic.isPhysical = true) :
    detectNIC fallback nic = .error nic.name := by
  rw [NIC.isPhysical, Bool.and_eq_true] at physical
  rw [detectNIC, if_pos physical.1]
  exact detectAddrs_error fallback physical.2

theorem detectNIC_ok {nic : NIC} (fallback : GoString) (notPhysical : nic.isPhysical = false) :
    ∃ left, detectNIC fallback nic = .ok left ∧
      (left = fallback ∨ nic.isConsidered = true ∧ left = nic.name) := by
  rw [detectNIC]
  split
  next considered =>
    rw [NIC.isPhysical, considered, Bool.true_and] at notPhysical
    obtain ⟨left, run, either⟩ := detectAddrs_ok fallback notPhysical
    exact ⟨left, run, either.imp_right fun same => ⟨considered, same⟩⟩
  next => exact ⟨fallback, rfl, .inl rfl⟩

theorem detect_found {ifaces : List NIC} {nic : NIC} (fallback : GoString)
    (first : ifaces.find? NIC.isPhysical = some nic) :
    ifaces.foldlM detectNIC fallback = .error nic.name := by
  induction ifaces generalizing fallback with
  | nil => contradiction
  | cons head rest inductionHypothesis =>
      rw [List.foldlM_cons]
      cases physical : head.isPhysical with
      | true =>
          rw [List.find?_cons_of_pos physical] at first
          obtain rfl := Option.some.inj first
          rw [detectNIC_error fallback physical]
          rfl
      | false =>
          rw [List.find?_cons_of_neg (Bool.eq_false_iff.mp physical)] at first
          obtain ⟨left, run, _⟩ := detectNIC_ok fallback physical
          rw [run]
          exact inductionHypothesis left first

/-- Without a physical NIC the name is the fallback, one of a NIC that was looked at. -/
theorem detect_fallback {ifaces : List NIC} (fallback : GoString)
    (none : ifaces.find? NIC.isPhysical = none) :
    ∃ left, ifaces.foldlM detectNIC fallback = .ok left ∧
      (left = fallback ∨ ∃ nic ∈ ifaces, nic.isConsidered = true ∧ left = nic.name) := by
  induction ifaces generalizing fallback with
  | nil => exact ⟨fallback, rfl, .inl rfl⟩
  | cons head rest inductionHypothesis =>
      have notPhysical := List.find?_eq_none.mp none
      obtain ⟨kept, here, fromHead⟩ :=
        detectNIC_ok fallback (Bool.eq_false_iff.mpr (notPhysical head List.mem_cons_self))
      have later : rest.find? NIC.isPhysical = .none :=
        List.find?_eq_none.mpr fun nic there => notPhysical nic (List.mem_cons_of_mem _ there)
      obtain ⟨left, run, fromRest⟩ := inductionHypothesis kept later
      refine ⟨left, ?_, ?_⟩
      · rw [List.foldlM_cons, here]
        exact run
      · rcases fromRest with rfl | ⟨nic, there, considered, same⟩
        · rcases fromHead with same | ⟨considered, same⟩
          · exact .inl same
          · exact .inr ⟨head, List.mem_cons_self, considered, same⟩
        · exact .inr ⟨nic, List.mem_cons_of_mem _ there, considered, same⟩

end Detect

/-- A NIC with IPv4 is detected exactly when it is the first physical one. -/
theorem detectPhysicalInterface_iff {ifaces : List NIC} {nic : NIC}
    (names : (ifaces.map NIC.name).Nodup) (member : nic ∈ ifaces) (hasIPv4 : nic.hasIPv4 = true)
    (named : nic.name ≠ []) :
    detectPhysicalInterface ifaces = nic.name ↔ FirstWith NIC.isPhysical ifaces nic := by
  rw [← find?_eq_some_iff_firstWith, detectPhysicalInterface]
  cases first : ifaces.find? NIC.isPhysical with
  | some other =>
      rw [detect_found [] first, Option.some.injEq]
      have there := List.mem_of_find?_eq_some first
      exact ⟨eq_of_name names member there, congrArg NIC.name⟩
  | none =>
      obtain ⟨left, run, either⟩ := detect_fallback [] first
      rw [run]
      refine iff_of_false ?_ (by simp)
      rintro rfl
      rcases either with empty | ⟨other, there, considered, same⟩
      · exact named empty
      · obtain rfl := eq_of_name names member there same.symm
        have physical : other.isPhysical = true := by
          rw [NIC.isPhysical, considered, hasIPv4, Bool.and_self]
        exact List.find?_eq_none.mp first other there physical

/-! ### A `Start` that succeeds -/

section Started

variable {machine : Machine} {configured : GoString} {captureFails : Bool}

theorem cfgInterface_iff {nic : NIC} (names : (machine.ifaces.map NIC.name).Nodup)
    (member : nic ∈ machine.ifaces) (hasIPv4 : nic.hasIPv4 = true) (named : nic.name ≠ []) :
    cfgInterface machine configured = nic.name ↔ IsUsed machine configured nic := by
  rw [cfgInterface, IsUsed]
  split
  next => exact detectPhysicalInterface_iff names member hasIPv4 named
  next => exact eq_comm

theorem name_ne_nil {nic : NIC} (used : IsUsed machine configured nic) : nic.name ≠ [] := by
  rw [IsUsed] at used
  split at used
  next =>
    have physical := used.1
    rw [NIC.isPhysical, Bool.and_eq_true, NIC.isConsidered, Bool.and_eq_true] at physical
    exact bne_iff_ne.mp physical.1.2
  next given => exact used ▸ given

theorem start_some {heldFrom : Manager.HeldFrom} {other : Manager.StartStep → Bool}
    {interfaces : Interfaces}
    (started : start machine configured heldFrom captureFails other = some interfaces) :
    cfgInterface machine configured ≠ [] ∧ ∃ dev,
      FirstWith PcapDevice.hasIPv4 machine.devices dev ∧ interfaces = {
        bound := cfgInterface machine configured
        sendDevice := dev.name
        srcMAC := (discoverMACs machine).1
        dstMAC := (discoverMACs machine).2
        captureDevice := captureDevice machine configured captureFails } := by
  have found := toOption_defaultInterface machine
  rw [start, new] at started
  cases opened : defaultInterface machine.devs with
  | error error =>
      rw [opened] at started
      contradiction
  | ok device =>
      rw [opened] at started found
      obtain ⟨dev, isDev, rfl⟩ := Option.map_eq_some_iff.mp found.symm
      dsimp only [Except.map] at started
      split at started
      next succeeds =>
        rw [(Manager.start_stopsAtFirst heldFrom _).succeeds, Option.isNone_iff_eq_none] at succeeds
        have passes := List.find?_eq_none.mp succeeds .physicalInterface (by decide)
        refine ⟨?_, dev, find?_eq_some_iff_firstWith.mp isDev, (Option.some.inj started).symm⟩
        simpa [fails] using passes
      next => contradiction

variable {nic : NIC} (matching : Matching machine) (member : nic ∈ machine.ifaces)

include matching member

/-- The device of a NIC with an address shares it with the NIC. -/
theorem sharesAddress_of_path {dev : PcapDevice} (there : dev ∈ machine.devices)
    (path : dev.name = nic.device) (hasIPv4 : dev.hasIPv4 = true) :
    dev.sharesAddress nic = true := by
  obtain ⟨ip, isAddress, _⟩ := List.any_eq_true.mp hasIPv4
  obtain ⟨other, otherThere, otherPath, shared⟩ := matching.belongs dev there ip isAddress
  obtain rfl : other = nic :=
    List.inj_on_of_nodup_map matching.paths otherThere member (otherPath.symm.trans path)
  exact List.any_eq_true.mpr ⟨ip, isAddress, List.contains_iff_mem.mpr shared⟩

/-- The capture, if it comes up, is on the device of the NIC exactly when that device is the first
one that shares an address with the NIC. -/
theorem captureDevice_iff (bound : cfgInterface machine configured = nic.name)
    (hasIPv4 : nic.hasIPv4 = true) {dev : PcapDevice} (there : dev ∈ machine.devices)
    (path : dev.name = nic.device) (devHasIPv4 : dev.hasIPv4 = true) :
    (∀ device ∈ captureDevice machine configured captureFails, device = nic.device) ↔
      (captureFails = false → FirstWith (PcapDevice.sharesAddress nic) machine.devices dev) := by
  have shares := sharesAddress_of_path matching member there path devHasIPv4
  have found : (machine.devices.find? (PcapDevice.sharesAddress nic)).isSome :=
    List.find?_isSome.mpr ⟨dev, there, shares⟩
  obtain ⟨first, isFirst⟩ := Option.isSome_iff_exists.mp found
  rw [captureDevice, bound, toOption_resolvePcapDevice matching.names member hasIPv4, isFirst,
    ← find?_eq_some_iff_firstWith, isFirst, ← path]
  cases captureFails with
  | true => simp
  | false =>
      have same : first.name = dev.name ↔ first = dev :=
        ⟨List.inj_on_of_nodup_map matching.devices (List.mem_of_find?_eq_some isFirst) there,
          congrArg PcapDevice.name⟩
      simp [same]

end Started

/-- After a successful `Start` the engine is on one interface exactly when the interface that was
asked for, or detected, comes first wherever the routines look. -/
theorem one_interface_iff {machine : Machine} (matching : Matching machine) {configured : GoString}
    {heldFrom : Manager.HeldFrom} {captureFails : Bool} {other : Manager.StartStep → Bool}
    {interfaces : Interfaces}
    (started : start machine configured heldFrom captureFails other = some interfaces) :
    OneInterface machine interfaces ↔ ∃ nic, ComesFirst machine configured captureFails nic := by
  obtain ⟨named, dev, isFirst, rfl⟩ := start_some started
  constructor
  · rintro ⟨nic, member, bound, path, source, _, capture⟩
    have eligible := sourceNIC_iff.mp source
    have hasIPv4 := hasIPv4_of_isEligible eligible.1
    dsimp only at bound path capture
    rw [captureDevice_iff matching member bound hasIPv4 isFirst.mem path isFirst.1] at capture
    rw [bound] at named
    exact ⟨nic, (cfgInterface_iff matching.names member hasIPv4 named).mp bound, eligible, dev,
      path, isFirst, capture⟩
  · rintro ⟨nic, used, eligible, first, path, hasDevice, shares⟩
    have member := eligible.mem
    have hasIPv4 := hasIPv4_of_isEligible eligible.1
    obtain rfl := hasDevice.unique isFirst
    have bound : cfgInterface machine configured = nic.name :=
      (cfgInterface_iff matching.names member hasIPv4 (name_ne_nil used)).mpr used
    obtain ⟨ipv4, source⟩ := sourceNIC_iff.mpr eligible
    refine ⟨nic, member, bound, path, ⟨ipv4, source⟩, ?_, ?_⟩
    · dsimp only [discoverMACs]
      rw [source]
    · exact (captureDevice_iff matching member bound hasIPv4 isFirst.mem path isFirst.1).mpr shares

/-! ### Two interfaces -/

def ethernet : NIC where
  name := lit "Ethernet"
  up := true
  loopback := false
  hardwareAddr := [2, 0, 0, 0, 0, 1]
  addrs := [.ipNet [192, 168, 1, 103]]
  device := lit "{3A}"

def wifi : NIC where
  name := lit "Wi-Fi"
  up := true
  loopback := false
  hardwareAddr := [2, 0, 0, 0, 0, 2]
  addrs := [.ipNet [192, 168, 2, 7]]
  device := lit "{7C}"

def ethernetDevice : PcapDevice := ⟨lit "{3A}", [[192, 168, 1, 103]]⟩

def wifiDevice : PcapDevice := ⟨lit "{7C}", [[192, 168, 2, 7]]⟩

def oneNIC : Machine := ⟨[ethernet], some [ethernetDevice], none, none⟩

/-- The two lists are in opposite orders. -/
def twoNICs : Machine := ⟨[ethernet, wifi], some [wifiDevice, ethernetDevice], none, none⟩

theorem matching_oneNIC : Matching oneNIC := by
  constructor <;> decide

theorem matching_twoNICs : Matching twoNICs := by
  constructor <;> decide

def ethernetOnly : Interfaces where
  bound := lit "Ethernet"
  sendDevice := lit "{3A}"
  srcMAC := [2, 0, 0, 0, 0, 1]
  dstMAC := List.replicate 6 0xff
  captureDevice := some (lit "{3A}")

theorem start_oneNIC : start oneNIC [] .start false (fun _ => false) = some ethernetOnly := by
  decide

theorem one_interface_iff_oneNIC : OneInterface oneNIC ethernetOnly := by
  apply (one_interface_iff matching_oneNIC start_oneNIC).mpr
  refine ⟨ethernet, ?_, ⟨by decide, [], [], rfl, by simp⟩, ethernetDevice, rfl, ?_, fun _ => ?_⟩
  · exact ⟨by decide, [], [], rfl, by simp⟩
  · exact ⟨by decide, [], [], rfl, by simp⟩
  · exact ⟨by decide +kernel, [], [], rfl, by simp⟩

/-- Ethernet is detected, and the fakes leave through Wi-Fi with the MAC of Ethernet. -/
theorem fakes_leave_elsewhere : ¬ ∀ machine configured heldFrom captureFails other interfaces,
    Matching machine → start machine configured heldFrom captureFails other = some interfaces →
      OneInterface machine interfaces := by
  intro same
  obtain ⟨nic, member, bound, path, _⟩ := same twoNICs [] .start false (fun _ => false)
    { ethernetOnly with sendDevice := lit "{7C}" } matching_twoNICs (by decide +kernel)
  rcases List.mem_cons.mp member with rfl | later
  · exact absurd path (by decide)
  · obtain rfl := List.mem_singleton.mp later
    exact absurd bound (by decide)

end Gecit.Tun.Windows
