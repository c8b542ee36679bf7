import Mathlib.Data.Finset.Card
import Gecit.Ebpf.Start
import Gecit.Tun.Handler

/-!
Contract: the integers of the command line on their way into the data plane.

`runEngine` narrows the ports to sixteen bits; the Linux manager narrows the three numbers of
the BPF configuration when it pushes them, and again on `UpdateEnabled`. Nothing checks them
before, and a target map that is full stops the engine.

Owns the conversions, the defaults of the Linux manager, the maps after `Start`, and exactly
which flags arrive as they were given. Does not own the flag parser.
-/

namespace Gecit.App

open Gecit.Ebpf
open Gecit.Rawsock

/-- The flags `--ports`, `--mss`, `--restore-mss` and `--restore-after-bytes`. -/
structure Flags where
  ports : List Int
  mss : Int
  restoreMss : Int
  restoreAfterBytes : Int
deriving DecidableEq, Repr

def toUint16Slice (ints : List Int) : List UInt16 := ints.map UInt16.ofInt

/-- What `runEngine` and `newPlatformEngine` hand to the Linux manager. -/
def linuxConfig (flags : Flags) (excludeIPs : List IP) : Ebpf.Config where
  MSS := flags.mss
  RestoreMSS := flags.restoreMss
  RestoreAfterBytes := flags.restoreAfterBytes
  Ports := toUint16Slice flags.ports
  ExcludeIPs := excludeIPs

/-- The defaults of the Linux `NewManager`. -/
def newLinuxManager (cfg : Ebpf.Config) : Ebpf.Config :=
  { cfg with
    MSS := if cfg.MSS = 0 then 40 else cfg.MSS
    RestoreAfterBytes := if cfg.RestoreAfterBytes = 0 then 600 else cfg.RestoreAfterBytes
    Ports := if cfg.Ports = [] then [443] else cfg.Ports }

variable {Socket : Type*}

/-- The maps after the pushes of `Start`; none when one of them fails. -/
def startedMaps (cfg : Ebpf.Config) (sockets : Socket → Sock) :
    Option (Kernel Socket) :=
  cfg.startSteps.foldlM (Startup.push cfg) (.loaded sockets)

def updateEnabled (cfg : Ebpf.Config) (kernel : Kernel Socket) (enabled : Bool) : Kernel Socket :=
  { kernel with gecitConfig := cfg.updateEnabled enabled }

/-! ### What the flags ask for -/

/-- The ports are the integers that were given. -/
def MatchesPorts (ports : List UInt16) (ints : List Int) : Prop :=
  ∀ n : Int, (∃ port ∈ ports, (port.toNat : Int) = n) ↔ n ∈ ints

/-- What the program reads, and the MSS it restores, are the flags with their defaults. -/
structure ReadsFlags (flags : Flags) (cfg : GecitConfig) : Prop where
  mss : (cfg.mss.toNat : Int) = if flags.mss = 0 then 40 else flags.mss
  restoreMss : (cfg.restoreMss.toNat : Int) = flags.restoreMss
  normalMss : normalMss cfg = if flags.restoreMss = 0 then 1460 else flags.restoreMss
  restoreAfterBytes : (cfg.restoreAfterBytes.toNat : Int) =
    if flags.restoreAfterBytes = 0 then 600 else flags.restoreAfterBytes

/-- `Start` fails, or the maps hold the flags, also after any calls of `UpdateEnabled`. -/
def LinuxUsesFlags (flags : Flags) (excludeIPs : List IP)
    (sockets : Socket → Sock) : Prop :=
  let cfg := newLinuxManager (linuxConfig flags excludeIPs)
  ∀ kernel, startedMaps cfg sockets = some kernel → ∀ toggles : List Bool,
    let now := toggles.foldl (updateEnabled cfg) kernel
    MatchesPorts now.targetPorts flags.ports ∧ ReadsFlags flags now.gecitConfig

/-- The target ports of the TUN manager are the flags. -/
def TunUsesFlags (flags : Flags) (ttl : Int) : Prop :=
  MatchesPorts (Tun.newManager (toUint16Slice flags.ports) ttl).targetPorts flags.ports

def fits16 (n : Int) : Prop := 0 ≤ n ∧ n < 2 ^ 16

/-- Some port is given, and all of them are ports. -/
def Flags.PortsFit (flags : Flags) : Prop := flags.ports ≠ [] ∧ ∀ n ∈ flags.ports, fits16 n

def Flags.NumbersFit (flags : Flags) : Prop :=
  fits16 flags.mss ∧ fits16 flags.restoreMss ∧
    0 ≤ flags.restoreAfterBytes ∧ flags.restoreAfterBytes < 2 ^ 32

/-- More ports or excluded addresses than their maps take. -/
def MapsOverflow (cfg : Ebpf.Config) : Prop :=
  maxEntries < cfg.Ports.toFinset.card ∨ maxEntries < cfg.excludeKeys.toFinset.card

/-! ### Narrowing -/

theorem toNat_ofInt16 (n : Int) : ((UInt16.ofInt n).toNat : Int) = n % 2 ^ 16 := by
  rw [UInt16.ofInt, UInt16.toNat_ofNat']
  omega

theorem toNat_ofInt32 (n : Int) : ((UInt32.ofInt n).toNat : Int) = n % 2 ^ 32 := by
  rw [UInt32.ofInt, UInt32.toNat_ofNat']
  omega

theorem toNat_ofInt16_eq_iff {n : Int} : ((UInt16.ofInt n).toNat : Int) = n ↔ fits16 n := by
  rw [toNat_ofInt16, fits16]
  omega

/-- A default in place of zero that fits changes nothing about which numbers fit. -/
theorem default_mod_iff {n default modulus : Int} (positive : 0 < default)
    (small : default < modulus) :
    (if n = 0 then default else n) % modulus = (if n = 0 then default else n) ↔
      0 ≤ n ∧ n < modulus := by
  have modulusPositive : 0 < modulus := positive.trans small
  split
  next zero =>
    rw [Int.emod_eq_of_lt positive.le small]
    exact iff_of_true rfl ⟨zero.ge, zero ▸ modulusPositive⟩
  next =>
    constructor
    · intro same
      rw [← same]
      exact ⟨Int.emod_nonneg n modulusPositive.ne', Int.emod_lt_of_pos n modulusPositive⟩
    · rintro ⟨nonNegative, below⟩
      exact Int.emod_eq_of_lt nonNegative below

theorem mem_toUint16Slice {ints : List Int} {port : UInt16} :
    port ∈ toUint16Slice ints ↔ ∃ n ∈ ints, UInt16.ofInt n = port := List.mem_map

/-- The ports of either manager, its default for an empty slice included. -/
theorem matchesPorts_iff {ints : List Int} {ports : List UInt16}
    (members : ∀ port, port ∈ ports ↔
      port ∈ if toUint16Slice ints = [] then [443] else toUint16Slice ints) :
    MatchesPorts ports ints ↔ ints ≠ [] ∧ ∀ n ∈ ints, fits16 n := by
  by_cases none : ints = []
  · subst none
    have there : (443 : UInt16) ∈ ports := (members 443).mpr (by decide)
    apply iff_of_false
    · intro matching
      exact List.not_mem_nil ((matching 443).mp ⟨443, there, by decide⟩)
    · exact fun fit => fit.1 rfl
  · have some_ : toUint16Slice ints ≠ [] := by simpa [toUint16Slice] using none
    simp only [if_neg some_, mem_toUint16Slice] at members
    constructor
    · intro matching
      refine ⟨none, ?_⟩
      intro n member
      obtain ⟨port, _, same⟩ := (matching n).mpr member
      have below := port.toNat_lt
      rw [fits16]
      omega
    · rintro ⟨_, fit⟩ n
      constructor
      · rintro ⟨port, there, same⟩
        obtain ⟨given, member, rfl⟩ := (members port).mp there
        rw [toNat_ofInt16_eq_iff.mpr (fit given member)] at same
        exact same ▸ member
      · intro member
        exact ⟨UInt16.ofInt n, (members _).mpr ⟨n, member, rfl⟩, toNat_ofInt16_eq_iff.mpr (fit n member)⟩

/-! ### The maps after `Start` -/

/-- A hash map takes updates until its keys are too many. -/
theorem foldlM_updateKeys_isSome_iff {Key : Type*} [DecidableEq Key] {updates keys : List Key}
    (distinct : keys.Nodup) (fits : keys.length ≤ maxEntries) :
    (updates.foldlM updateKeys keys).isSome ↔
      (keys.toFinset ∪ updates.toFinset).card ≤ maxEntries := by
  induction updates generalizing keys with
  | nil =>
      apply iff_of_true rfl
      simpa [List.toFinset_card_of_nodup distinct] using fits
  | cons key rest inductionHypothesis =>
      rw [List.foldlM_cons, updateKeys, List.toFinset_cons]
      by_cases there : key ∈ keys
      · have same : keys.toFinset ∪ insert key rest.toFinset = keys.toFinset ∪ rest.toFinset := by
          rw [Finset.union_insert, Finset.insert_eq_of_mem]
          exact Finset.mem_union_left _ (List.mem_toFinset.mpr there)
        rw [if_pos there, same]
        exact inductionHypothesis distinct fits
      · rw [if_neg there]
        by_cases room : keys.length < maxEntries
        · have same : keys.toFinset ∪ insert key rest.toFinset =
              (key :: keys).toFinset ∪ rest.toFinset := by
            rw [Finset.union_insert, List.toFinset_cons, Finset.insert_union]
          rw [if_pos room, same]
          exact inductionHypothesis (List.nodup_cons.mpr ⟨there, distinct⟩)
            (by rw [List.length_cons]; omega)
        · have full : (insert key keys.toFinset).card = keys.length + 1 := by
            rw [Finset.card_insert_of_notMem (by simpa using there),
              List.toFinset_card_of_nodup distinct]
          have within : insert key keys.toFinset ⊆ keys.toFinset ∪ insert key rest.toFinset := by
            rw [Finset.union_insert]
            exact Finset.insert_subset_insert key Finset.subset_union_left
          have large := Finset.card_le_card within
          rw [if_neg room]
          apply iff_of_false
          · simp
          · omega

section Started

variable {cfg : Ebpf.Config} {sockets : Socket → Sock}

theorem foldlM_pushTargetPort (ports : List UInt16) (kernel : Kernel Socket) :
    (ports.map StartStep.pushTargetPort).foldlM (Startup.push cfg) kernel =
      (ports.foldlM updateKeys kernel.targetPorts).map fun targetPorts =>
        { kernel with targetPorts := targetPorts } := by
  induction ports generalizing kernel with
  | nil => rfl
  | cons port ports inductionHypothesis =>
      rw [List.map_cons, List.foldlM_cons, List.foldlM_cons, Startup.push]
      cases updateKeys kernel.targetPorts port with
      | none => rfl
      | some targetPorts => exact inductionHypothesis { kernel with targetPorts := targetPorts }

theorem foldlM_pushExcludeIP (keys : List UInt32) (kernel : Kernel Socket) :
    (keys.map StartStep.pushExcludeIP).foldlM (Startup.push cfg) kernel =
      (keys.foldlM updateKeys kernel.excludeIps).map fun excludeIps =>
        { kernel with excludeIps := excludeIps } := by
  induction keys generalizing kernel with
  | nil => rfl
  | cons key keys inductionHypothesis =>
      rw [List.map_cons, List.foldlM_cons, List.foldlM_cons, Startup.push]
      cases updateKeys kernel.excludeIps key with
      | none => rfl
      | some excludeIps => exact inductionHypothesis { kernel with excludeIps := excludeIps }

theorem startedMaps_eq (cfg : Ebpf.Config) (sockets : Socket → Sock) :
    startedMaps cfg sockets =
      (cfg.Ports.foldlM updateKeys []).bind fun targetPorts =>
        (cfg.excludeKeys.foldlM updateKeys []).map fun excludeIps =>
          { Kernel.loaded sockets with
            gecitConfig := cfg.pushConfig
            targetPorts := targetPorts
            excludeIps := excludeIps } := by
  have pushed : startedMaps cfg sockets =
      (cfg.Ports.map StartStep.pushTargetPort ++
        cfg.excludeKeys.map StartStep.pushExcludeIP).foldlM (Startup.push cfg)
          { Kernel.loaded sockets with gecitConfig := cfg.pushConfig } := rfl
  rw [pushed, List.foldlM_append, foldlM_pushTargetPort]
  change (Option.map _ (cfg.Ports.foldlM updateKeys [])).bind _ = _
  cases cfg.Ports.foldlM updateKeys [] with
  | none => rfl
  | some targetPorts => exact foldlM_pushExcludeIP cfg.excludeKeys _

/-- `Start` gets its maps filled unless one of them overflows. -/
theorem startedMaps_eq_none_iff : startedMaps cfg sockets = none ↔ MapsOverflow cfg := by
  have ports := @foldlM_updateKeys_isSome_iff UInt16 _ cfg.Ports [] List.nodup_nil (Nat.zero_le _)
  have keys := @foldlM_updateKeys_isSome_iff UInt32 _ cfg.excludeKeys [] List.nodup_nil (Nat.zero_le _)
  rw [List.toFinset_nil, Finset.empty_union] at ports keys
  rw [startedMaps_eq, MapsOverflow, ← not_le, ← not_le, ← ports, ← keys]
  cases cfg.Ports.foldlM updateKeys [] with
  | none => simp
  | some targetPorts => cases cfg.excludeKeys.foldlM updateKeys [] <;> simp

theorem startedMaps_some {kernel : Kernel Socket} (started : startedMaps cfg sockets = some kernel) :
    kernel.gecitConfig = cfg.pushConfig ∧ ∀ port, port ∈ kernel.targetPorts ↔ port ∈ cfg.Ports := by
  rw [startedMaps_eq] at started
  obtain ⟨targetPorts, pushed, rest⟩ := Option.bind_eq_some_iff.mp started
  obtain ⟨excludeIps, _, rfl⟩ := Option.map_eq_some_iff.mp rest
  obtain ⟨_, members⟩ := foldlM_updateKeys pushed (Nat.zero_le _)
  exact ⟨rfl, by simpa using members⟩

/-- `UpdateEnabled` narrows as the first push does, and leaves the ports. -/
theorem foldl_updateEnabled (toggles : List Bool) (kernel : Kernel Socket)
    (pushed : ∃ enabled, kernel.gecitConfig = cfg.updateEnabled enabled) :
    (toggles.foldl (updateEnabled cfg) kernel).targetPorts = kernel.targetPorts ∧
      ∃ enabled, (toggles.foldl (updateEnabled cfg) kernel).gecitConfig = cfg.updateEnabled enabled := by
  induction toggles generalizing kernel with
  | nil => exact ⟨rfl, pushed⟩
  | cons enabled toggles inductionHypothesis =>
      exact inductionHypothesis (updateEnabled cfg kernel enabled) ⟨enabled, rfl⟩

end Started

/-- The numbers arrive exactly when each of them fits its field. -/
theorem readsFlags_iff (flags : Flags) (excludeIPs : List IP) (enabled : Bool) :
    ReadsFlags flags ((newLinuxManager (linuxConfig flags excludeIPs)).updateEnabled enabled) ↔
      flags.NumbersFit := by
  have mss := @default_mod_iff flags.mss 40 (2 ^ 16) (by decide) (by decide)
  have bytes := @default_mod_iff flags.restoreAfterBytes 600 (2 ^ 32) (by decide) (by decide)
  rw [← toNat_ofInt16] at mss
  rw [← toNat_ofInt32] at bytes
  constructor
  · rintro ⟨readMss, readRestoreMss, _, readBytes⟩
    obtain ⟨nonNegative, below⟩ := bytes.mp readBytes
    exact ⟨mss.mp readMss, toNat_ofInt16_eq_iff.mp readRestoreMss, nonNegative, below⟩
  · rintro ⟨fitsMss, fitsRestoreMss, fitsBytes⟩
    have same := toNat_ofInt16_eq_iff.mpr fitsRestoreMss
    refine ⟨mss.mpr fitsMss, same, ?_, bytes.mpr fitsBytes⟩
    rw [normalMss]
    change (if UInt16.ofInt flags.restoreMss ≠ 0 then ((UInt16.ofInt flags.restoreMss).toNat : Int)
      else 1460) = _
    by_cases zero : flags.restoreMss = 0
    · rw [zero]
      decide
    · have nonzero : UInt16.ofInt flags.restoreMss ≠ 0 := by
        intro isZero
        rw [isZero] at same
        exact zero same.symm
      rw [if_pos nonzero, if_neg zero, same]

/-- On Linux the flags arrive exactly when they fit, or when `Start` refuses them. -/
theorem linuxUsesFlags_iff (flags : Flags) (excludeIPs : List IP) (sockets : Socket → Sock) :
    LinuxUsesFlags flags excludeIPs sockets ↔
      MapsOverflow (newLinuxManager (linuxConfig flags excludeIPs)) ∨
        flags.PortsFit ∧ flags.NumbersFit := by
  have refuses := @startedMaps_eq_none_iff _ (newLinuxManager (linuxConfig flags excludeIPs)) sockets
  rw [← refuses, LinuxUsesFlags]
  cases started : startedMaps (newLinuxManager (linuxConfig flags excludeIPs)) sockets with
  | none => simp
  | some kernel =>
      obtain ⟨pushed, ports⟩ := startedMaps_some started
      have arrived := matchesPorts_iff ports
      have afterwards := fun toggles => foldl_updateEnabled toggles kernel ⟨true, pushed⟩
      simp only [Option.some.injEq, forall_eq', reduceCtorEq, false_or]
      constructor
      · intro uses
        obtain ⟨matching, reads⟩ := uses []
        refine ⟨arrived.mp matching, ?_⟩
        rw [List.foldl_nil, pushed] at reads
        exact (readsFlags_iff flags excludeIPs true).mp reads
      · rintro ⟨portsFit, numbersFit⟩ toggles
        obtain ⟨samePorts, enabled, now⟩ := afterwards toggles
        rw [samePorts, now]
        exact ⟨arrived.mpr portsFit, (readsFlags_iff flags excludeIPs enabled).mpr numbersFit⟩

theorem tunUsesFlags_iff (flags : Flags) (ttl : Int) : TunUsesFlags flags ttl ↔ flags.PortsFit := by
  rw [TunUsesFlags, Flags.PortsFit]
  exact matchesPorts_iff fun port => Iff.rfl

/-- The data plane uses the integers it was given exactly when they fit the fields they are
narrowed to. -/
theorem data_plane_uses_flags_iff (flags : Flags) (excludeIPs : List IP) (sockets : Socket → Sock)
    (ttl : Int) :
    (LinuxUsesFlags flags excludeIPs sockets ↔
        MapsOverflow (newLinuxManager (linuxConfig flags excludeIPs)) ∨
          flags.PortsFit ∧ flags.NumbersFit) ∧
      (TunUsesFlags flags ttl ↔ flags.PortsFit) :=
  ⟨linuxUsesFlags_iff flags excludeIPs sockets, tunUsesFlags_iff flags ttl⟩

/-- 65979 is 443 modulo 2^16. -/
def wrappedPort : Flags := ⟨[65979], 40, 0, 600⟩

theorem wrapped_port_matched :
    ¬ ∀ (flags : Flags) (excludeIPs : List IP) (sockets : Unit → Sock) (ttl : Int),
      LinuxUsesFlags flags excludeIPs sockets ∧ TunUsesFlags flags ttl := by
  intro uses
  have linux := (uses wrappedPort [] (fun _ => ⟨1460, 0⟩) 8).1
  obtain ⟨kernel, started, there⟩ : ∃ kernel,
      startedMaps (newLinuxManager (linuxConfig wrappedPort [])) (fun _ : Unit => ⟨1460, 0⟩) =
        some kernel ∧ (443 : UInt16) ∈ kernel.targetPorts :=
    ⟨_, rfl, by decide⟩
  have given := ((linux kernel started []).1 443).mp ⟨443, there, by decide⟩
  exact absurd given (by decide)

end Gecit.App
