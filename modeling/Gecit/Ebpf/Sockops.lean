import Gecit.Ebpf.Maps

/-!
Contract: the `gecit_sockops` program, one callback at a time.

A callback lowers the MSS of the socket it is for, counts a segment, restores the MSS, or
does nothing but reserve header-option space; which of these is decided by the switch, the
maps and the context.

Owns the handlers and the exact effect of a callback. Does not own any order of callbacks.
-/

namespace Gecit.Ebpf

variable {Socket : Type*} [DecidableEq Socket] (cookie : Socket → UInt64)

def handleEstablished (s : Socket) (skops : SockOps) (cfg : GecitConfig) (kernel : Kernel Socket) :
    Kernel Socket :=
  if skops.remoteIp4 ∈ kernel.excludeIps then kernel
  else if skops.dstPort ∉ kernel.targetPorts then kernel
  else
    -- The kernel then fragments outgoing data into tiny segments.
    let kernel := kernel.setsockopt s .mss cfg.mss.toNat
    let kernel := kernel.perfEventOutput s skops.connEvent
    let kernel := kernel.mapUpdateElem (cookie s) { bytesSent := 0, mssRestored := 0 }
    kernel.cbFlagsSet s ((kernel.sockets s).cbFlags ||| writeHdrOptCbFlag)

def handleHdrOptLen (s : Socket) (kernel : Kernel Socket) : Kernel Socket :=
  kernel.reserveHdrOpt s 0

def normalMss (cfg : GecitConfig) : Int := if cfg.restoreMss ≠ 0 then cfg.restoreMss.toNat else 1460

def handleWriteHdrOpt (s : Socket) (skops : SockOps) (cfg : GecitConfig) (kernel : Kernel Socket) :
    Kernel Socket :=
  match kernel.connections (cookie s) with
  | none => kernel
  | some state =>
      if state.mssRestored ≠ 0 then kernel
      else
        let state := { state with bytesSent := state.bytesSent + skops.skbLen }
        let kernel := kernel.mapUpdateElem (cookie s) state
        if cfg.restoreAfterBytes < state.bytesSent then
          let kernel := kernel.setsockopt s .normalMss (normalMss cfg)
          let kernel := kernel.mapUpdateElem (cookie s) { state with mssRestored := 1 }
          let kernel := kernel.cbFlagsSet s ((kernel.sockets s).cbFlags &&& ~~~ writeHdrOptCbFlag)
          kernel.mapDeleteElem (cookie s)
        else kernel

def gecitSockops (s : Socket) (skops : SockOps) (kernel : Kernel Socket) : Kernel Socket :=
  let cfg := kernel.gecitConfig
  if cfg.enabled = 0 then kernel
  else
    match skops.op with
    | .activeEstablishedCb => handleEstablished cookie s skops cfg kernel
    | .hdrOptLenCb => handleHdrOptLen s kernel
    | .writeHdrOptCb => handleWriteHdrOpt cookie s skops cfg kernel
    | .other _ => kernel

/-! ### What one callback does -/

namespace Kernel

/-- The destination is not excluded and its port is a target. -/
def Matches (kernel : Kernel Socket) (skops : SockOps) : Prop :=
  skops.remoteIp4 ∉ kernel.excludeIps ∧ skops.dstPort ∈ kernel.targetPorts

def Enabled (kernel : Kernel Socket) : Prop := kernel.gecitConfig.enabled ≠ 0

/-- The callback finds the switch on and establishes a matching socket. -/
def Lowers (kernel : Kernel Socket) (skops : SockOps) : Prop :=
  kernel.Enabled ∧ skops.op = .activeEstablishedCb ∧ kernel.Matches skops

/-- The callback finds the switch on and a segment of a socket with an entry. -/
def Counts (kernel : Kernel Socket) (key : UInt64) (skops : SockOps) : Prop :=
  kernel.Enabled ∧ skops.op = .writeHdrOptCb ∧
    ∃ state, kernel.connections key = some state ∧ state.mssRestored = 0

/-- The calls that lower the MSS of a socket. -/
def opening (cfg : GecitConfig) (skops : SockOps) (flags : UInt32) : List Call :=
  [.mss cfg.mss.toNat, .connEvent skops.connEvent, .cbFlags (flags ||| writeHdrOptCbFlag)]

/-- The calls that restore it. -/
def closing (cfg : GecitConfig) (flags : UInt32) : List Call :=
  [.normalMss (normalMss cfg), .cbFlags (flags &&& ~~~ writeHdrOptCbFlag)]

def lowered (kernel : Kernel Socket) (key : UInt64) (s : Socket) (skops : SockOps) : Kernel Socket :=
  { kernel with
    connections := Function.update kernel.connections key (some ⟨0, 0⟩)
    sockets := Function.update kernel.sockets s
      ⟨kernel.gecitConfig.mss.toNat, (kernel.sockets s).cbFlags ||| writeHdrOptCbFlag⟩
    calls := Function.update kernel.calls s
      (kernel.calls s ++ opening kernel.gecitConfig skops (kernel.sockets s).cbFlags) }

def counted (kernel : Kernel Socket) (key : UInt64) (state : ConnState) (skops : SockOps) :
    Kernel Socket :=
  { kernel with
    connections := Function.update kernel.connections key
      (some { state with bytesSent := state.bytesSent + skops.skbLen }) }

def restored (kernel : Kernel Socket) (key : UInt64) (s : Socket) : Kernel Socket :=
  { kernel with
    connections := Function.update kernel.connections key none
    sockets := Function.update kernel.sockets s
      ⟨normalMss kernel.gecitConfig, (kernel.sockets s).cbFlags &&& ~~~ writeHdrOptCbFlag⟩
    calls := Function.update kernel.calls s
      (kernel.calls s ++ closing kernel.gecitConfig (kernel.sockets s).cbFlags) }

end Kernel

instance (kernel : Kernel Socket) (skops : SockOps) : Decidable (kernel.Matches skops) :=
  inferInstanceAs
    (Decidable (skops.remoteIp4 ∉ kernel.excludeIps ∧ skops.dstPort ∈ kernel.targetPorts))

instance (kernel : Kernel Socket) (skops : SockOps) : Decidable (kernel.Lowers skops) :=
  inferInstanceAs (Decidable (kernel.gecitConfig.enabled ≠ 0 ∧ skops.op = .activeEstablishedCb ∧
    kernel.Matches skops))

/-- The effects a callback of socket `s` can have. -/
inductive Effect (s : Socket) (skops : SockOps) (kernel : Kernel Socket) : Kernel Socket → Prop where
  | idle (reserved : Socket → Option UInt32) (noLowering : ¬ kernel.Lowers skops)
      (noCount : ¬ kernel.Counts (cookie s) skops) :
      Effect s skops kernel { kernel with reserved := reserved }
  | lowers (lowering : kernel.Lowers skops) :
      Effect s skops kernel (kernel.lowered (cookie s) s skops)
  | counts (state : ConnState) (enabled : kernel.Enabled) (segment : skops.op = .writeHdrOptCb)
      (found : kernel.connections (cookie s) = some state) (notRestored : state.mssRestored = 0)
      (below : ¬ kernel.gecitConfig.restoreAfterBytes < state.bytesSent + skops.skbLen) :
      Effect s skops kernel (kernel.counted (cookie s) state skops)
  | restores (state : ConnState) (enabled : kernel.Enabled) (segment : skops.op = .writeHdrOptCb)
      (found : kernel.connections (cookie s) = some state) (notRestored : state.mssRestored = 0)
      (exceeds : kernel.gecitConfig.restoreAfterBytes < state.bytesSent + skops.skbLen) :
      Effect s skops kernel (kernel.restored (cookie s) s)

variable {cookie} {s : Socket} {skops : SockOps} {kernel : Kernel Socket}

theorem handleEstablished_of_matches (matching : kernel.Matches skops) :
    handleEstablished cookie s skops kernel.gecitConfig kernel =
      kernel.lowered (cookie s) s skops := by
  rw [handleEstablished, if_neg matching.1, if_neg (not_not_intro matching.2)]
  simp [Kernel.setsockopt, Kernel.perfEventOutput, Kernel.mapUpdateElem, Kernel.cbFlagsSet,
    Kernel.lowered, Kernel.opening]

theorem gecitSockops_lowers (lowering : kernel.Lowers skops) :
    gecitSockops cookie s skops kernel = kernel.lowered (cookie s) s skops := by
  simp only [gecitSockops]
  rw [if_neg lowering.1, lowering.2.1]
  exact handleEstablished_of_matches lowering.2.2

theorem handleEstablished_of_not_matches (other : ¬ kernel.Matches skops) :
    handleEstablished cookie s skops kernel.gecitConfig kernel = kernel := by
  rw [handleEstablished]
  split
  · rfl
  · next notExcluded =>
      rw [if_pos fun target => other ⟨notExcluded, target⟩]

omit [DecidableEq Socket] in
theorem not_lowers (other : skops.op ≠ .activeEstablishedCb) : ¬ kernel.Lowers skops :=
  fun lowering => other lowering.2.1

omit [DecidableEq Socket] in
theorem not_counts {key : UInt64} (other : skops.op ≠ .writeHdrOptCb) :
    ¬ kernel.Counts key skops :=
  fun counting => other counting.2.1

theorem handleWriteHdrOpt_effect (enabled : kernel.Enabled) (segment : skops.op = .writeHdrOptCb) :
    Effect cookie s skops kernel (handleWriteHdrOpt cookie s skops kernel.gecitConfig kernel) := by
  have noLowering : ¬ kernel.Lowers skops := by
    apply not_lowers
    rw [segment]
    simp
  rw [handleWriteHdrOpt]
  split
  next missing =>
    apply Effect.idle kernel.reserved noLowering
    rintro ⟨-, -, state, found, -⟩
    rw [missing] at found
    contradiction
  next state found =>
    split
    next isRestored =>
      apply Effect.idle kernel.reserved noLowering
      rintro ⟨-, -, other, otherFound, notRestored⟩
      rw [found] at otherFound
      obtain rfl := Option.some.inj otherFound
      exact isRestored notRestored
    next notRestored =>
      rw [ne_eq, not_not] at notRestored
      dsimp only
      split
      next exceeds =>
        have effect := Effect.restores state enabled segment found notRestored exceeds
        simpa [Kernel.restored, Kernel.closing, Kernel.setsockopt, Kernel.mapUpdateElem,
          Kernel.cbFlagsSet, Kernel.mapDeleteElem] using effect
      next below => exact Effect.counts state enabled segment found notRestored below

theorem gecitSockops_effect (s : Socket) (skops : SockOps) (kernel : Kernel Socket) :
    Effect cookie s skops kernel (gecitSockops cookie s skops kernel) := by
  simp only [gecitSockops]
  split
  next off =>
    exact .idle kernel.reserved (fun lowering => lowering.1 off) fun counting => counting.1 off
  next enabled =>
    split
    next established =>
      by_cases matching : kernel.Matches skops
      · rw [handleEstablished_of_matches matching]
        exact .lowers ⟨enabled, established, matching⟩
      · rw [handleEstablished_of_not_matches matching]
        apply Effect.idle kernel.reserved fun lowering => matching lowering.2.2
        apply not_counts
        rw [established]
        simp
    next optLen =>
      apply Effect.idle _ (not_lowers _) (not_counts _) <;> rw [optLen] <;> simp
    next segment => exact handleWriteHdrOpt_effect enabled segment
    next number otherOp =>
      apply Effect.idle kernel.reserved (not_lowers _) (not_counts _) <;> rw [otherOp] <;> simp

/-! ### What a callback leaves alone -/

theorem Effect.config {next : Kernel Socket} (effect : Effect cookie s skops kernel next) :
    next.gecitConfig = kernel.gecitConfig := by
  cases effect <;> rfl

theorem Effect.keys {next : Kernel Socket} (effect : Effect cookie s skops kernel next) :
    next.targetPorts = kernel.targetPorts ∧ next.excludeIps = kernel.excludeIps := by
  cases effect <;> exact ⟨rfl, rfl⟩

/-- With distinct cookies a callback touches no other socket and no other socket's entry. -/
theorem Effect.others {next : Kernel Socket} (effect : Effect cookie s skops kernel next)
    (distinct : Function.Injective cookie) {other : Socket} (different : other ≠ s) :
    next.calls other = kernel.calls other ∧ next.sockets other = kernel.sockets other ∧
      next.connections (cookie other) = kernel.connections (cookie other) := by
  have otherKey : cookie other ≠ cookie s := fun same => different (distinct same)
  cases effect with
  | idle => exact ⟨rfl, rfl, rfl⟩
  | lowers | restores =>
      exact ⟨Function.update_of_ne different _ _, Function.update_of_ne different _ _,
        Function.update_of_ne otherKey _ _⟩
  | counts => exact ⟨rfl, rfl, Function.update_of_ne otherKey _ _⟩

theorem Effect.calls_other {next : Kernel Socket} (effect : Effect cookie s skops kernel next)
    {other : Socket} (different : other ≠ s) : next.calls other = kernel.calls other := by
  cases effect with
  | idle | counts => rfl
  | lowers | restores => exact Function.update_of_ne different _ _

theorem prefix_update (calls : Socket → List Call) (s any : Socket) (more : List Call) :
    calls any <+: Function.update calls s (calls s ++ more) any := by
  by_cases own : any = s
  · rw [own, Function.update_self]
    exact List.prefix_append _ _
  · have same : Function.update calls s (calls s ++ more) any = calls any :=
      Function.update_of_ne own _ _
    exact same ▸ List.prefix_refl (calls any)

/-- The log of a socket is only ever extended. -/
theorem Effect.calls_grow {next : Kernel Socket} (effect : Effect cookie s skops kernel next)
    (any : Socket) : kernel.calls any <+: next.calls any := by
  cases effect with
  | idle | counts => exact List.prefix_rfl
  | lowers | restores => exact prefix_update kernel.calls s any _

end Gecit.Ebpf
