import Gecit.Ebpf.Lifetime

/-!
Contract: the outgoing segments of the sockets, and what brings the normal MSS back.

A segment of a socket whose callback flag is set asks for header-option space, and only if
it gets some is its second callback made, the one that counts and restores. Between the two
the switch may change and the entry may be evicted.

Owns the segments on top of the callbacks, the bytes each socket has sent, and the exact
condition under which no socket is left with the small MSS. Does not own the program.
-/

namespace Gecit.Ebpf

open Gecit.Foundation

variable {Socket : Type*} [DecidableEq Socket]

structure Traffic (Socket : Type*) where
  kernel : Kernel Socket
  established : List Socket
  /-- Bytes of the segments sent since establishment. -/
  sent : Socket → Nat
  /-- Those of the segments that no callback counted. -/
  missed : Socket → Nat
  /-- The entry was dropped by the LRU map. -/
  evicted : Socket → Bool
  /-- The segment whose second callback is still to come. -/
  writing : Socket → Option SockOps

inductive TrafficAction (Socket : Type*) where
  | establish (s : Socket) (skops : SockOps)
  /-- An outgoing segment up to its HDR_OPT_LEN callback; `grants` tells whether the kernel
  grants the header space that the callback asks for. -/
  | segment (s : Socket) (skops : SockOps) (grants : Bool)
  /-- Its WRITE_HDR_OPT callback. -/
  | write (s : Socket)
  | evict (key : UInt64)
  | pushConfig
  | updateEnabled (enabled : Bool)
  | pushTargetPort (port : UInt16)
  | pushExcludeIP (key : UInt32)

def SockOps.withOp (skops : SockOps) (op : SockOp) : SockOps := { skops with op := op }

def Kernel.wantsHdrOpt (kernel : Kernel Socket) (s : Socket) : Bool :=
  (kernel.sockets s).cbFlags &&& writeHdrOptCbFlag ≠ 0

variable (cookie : Socket → UInt64) (cfg : Config)

/-- The callback calls `bpf_reserve_hdr_opt`. -/
def asksHdrOpt (kernel : Kernel Socket) (s : Socket) (skops : SockOps) : Bool :=
  let cleared := { kernel with reserved := Function.update kernel.reserved s none }
  ((gecitSockops cookie s skops cleared).reserved s).isSome

namespace Traffic

/-- A push from userspace. -/
def push (state : Traffic Socket) (action : Action Socket) : Option (Traffic Socket) :=
  (step cookie cfg state.kernel action).map fun kernel => { state with kernel := kernel }

def establish (state : Traffic Socket) (s : Socket) (skops : SockOps) : Traffic Socket :=
  { state with
    kernel := gecitSockops cookie s (skops.withOp .activeEstablishedCb) state.kernel
    established := s :: state.established }

def segment (state : Traffic Socket) (s : Socket) (skops : SockOps) (grants : Bool) :
    Traffic Socket :=
  let sent := Function.update state.sent s (state.sent s + skops.skbLen.toNat)
  let missed := Function.update state.missed s (state.missed s + skops.skbLen.toNat)
  let optLen := skops.withOp .hdrOptLenCb
  if state.kernel.wantsHdrOpt s then
    let kernel := gecitSockops cookie s optLen state.kernel
    if asksHdrOpt cookie state.kernel s optLen && grants then
      let writing := Function.update state.writing s (some (skops.withOp .writeHdrOptCb))
      { state with kernel := kernel, sent := sent, writing := writing }
    else { state with kernel := kernel, sent := sent, missed := missed }
  else { state with sent := sent, missed := missed }

def write (state : Traffic Socket) (s : Socket) (skops : SockOps) : Traffic Socket :=
  let missed := Function.update state.missed s (state.missed s + skops.skbLen.toNat)
  { state with
    kernel := gecitSockops cookie s skops state.kernel
    missed := if state.kernel.gecitConfig.enabled = 0 then missed else state.missed
    writing := Function.update state.writing s none }

def evict (state : Traffic Socket) (key : UInt64) : Traffic Socket :=
  { state with
    kernel := state.kernel.mapDeleteElem key
    evicted := fun s => state.evicted s || cookie s == key }

def step (state : Traffic Socket) : TrafficAction Socket → Option (Traffic Socket)
  | .establish s skops =>
      if s ∉ state.established then some (state.establish cookie s skops) else none
  | .segment s skops grants =>
      if s ∈ state.established ∧ state.writing s = none then
        some (state.segment cookie s skops grants)
      else none
  | .write s => (state.writing s).map (state.write cookie s)
  | .evict key => if state.kernel.connections key ≠ none then some (state.evict cookie key) else none
  | .pushConfig => state.push cookie cfg .pushConfig
  | .updateEnabled enabled => state.push cookie cfg (.updateEnabled enabled)
  | .pushTargetPort port => state.push cookie cfg (.pushTargetPort port)
  | .pushExcludeIP key => state.push cookie cfg (.pushExcludeIP key)

end Traffic

def quiet (sockets : Socket → Sock) : Traffic Socket where
  kernel := .loaded sockets
  established := []
  sent := fun _ => 0
  missed := fun _ => 0
  evicted := fun _ => false
  writing := fun _ => none

/-! ### The small MSS -/

/-- The program lowered the MSS of `s` and has not restored it. -/
def Kernel.Small (kernel : Kernel Socket) (s : Socket) : Prop :=
  (kernel.calls s).any Call.isMss = true ∧ kernel.restorations s = 0

/-- `restore_after_bytes` as the program compares with it. -/
def Config.threshold (cfg : Config) : Nat := cfg.pushConfig.restoreAfterBytes.toNat

/-- No socket whose segments are all processed has sent more than `restore_after_bytes` and
is left with the small MSS. -/
def Traffic.Restores (cfg : Config) (state : Traffic Socket) : Prop :=
  ∀ s, state.kernel.Small s → cfg.threshold < state.sent s → state.writing s ≠ none

/-- A segment that takes a socket with the small MSS over the limit gets its header space with
the switch on; its second callback finds the switch on and the entry not evicted, and the
bytes counted so far exceed the limit in 32 bits. -/
def Traffic.Counted (cfg : Config) (state : Traffic Socket) : TrafficAction Socket → Prop
  | .segment s skops grants =>
      state.kernel.Small s → cfg.threshold < state.sent s + skops.skbLen.toNat →
        state.kernel.Enabled ∧ grants = true
  | .write s =>
      state.kernel.Small s → cfg.threshold < state.sent s →
        state.kernel.Enabled ∧ state.evicted s = false ∧
          cfg.threshold < (state.sent s - state.missed s) % 2 ^ 32
  | .establish _ _ | .evict _ | .pushConfig | .updateEnabled _ | .pushTargetPort _
  | .pushExcludeIP _ => True

variable {cookie cfg} {sockets : Socket → Sock} {past : List (Action Socket)}
variable {kernel next : Kernel Socket} {s : Socket} {skops : SockOps}

omit [DecidableEq Socket] in
theorem small_of_opened (log : Opened (kernel.calls s)) : kernel.Small s := by
  refine ⟨?_, (events_opened log).2⟩
  obtain ⟨cfg, skops, flags, calls⟩ := log
  rw [calls]
  rfl

omit [DecidableEq Socket] in
theorem Kernel.Small.congr (small : next.Small s) (sameCalls : next.calls s = kernel.calls s) :
    kernel.Small s := by
  rw [Kernel.Small, Kernel.restorations, sameCalls] at small
  exact small

/-! ### The two callbacks of a segment -/

/-- The HDR_OPT_LEN callback only asks for header space. -/
theorem gecitSockops_hdrOptLen (s : Socket) (skops : SockOps) (kernel : Kernel Socket) :
    ∃ reserved, gecitSockops cookie s (skops.withOp .hdrOptLenCb) kernel =
      { kernel with reserved := reserved } := by
  have effect := @gecitSockops_effect _ _ cookie s (skops.withOp .hdrOptLenCb) kernel
  generalize gecitSockops cookie s (skops.withOp .hdrOptLenCb) kernel = next at effect
  cases effect with
  | idle reserved => exact ⟨reserved, rfl⟩
  | lowers lowering => exact absurd lowering.2.1 (by simp [SockOps.withOp])
  | counts _ _ segment | restores _ _ segment => simp [SockOps.withOp] at segment

theorem asksHdrOpt_iff (kernel : Kernel Socket) (s : Socket) (skops : SockOps) :
    asksHdrOpt cookie kernel s (skops.withOp .hdrOptLenCb) = true ↔ kernel.Enabled := by
  simp only [asksHdrOpt, gecitSockops, SockOps.withOp, handleHdrOptLen, Kernel.reserveHdrOpt,
    Kernel.Enabled]
  split
  next off => simp [off]
  next on => simp [on]

theorem or_writeHdrOptCbFlag (flags : UInt32) :
    (flags ||| writeHdrOptCbFlag) &&& writeHdrOptCbFlag = writeHdrOptCbFlag := by
  apply UInt32.toBitVec_inj.mp
  ext i inRange
  simp only [UInt32.toBitVec_and, UInt32.toBitVec_or, BitVec.getElem_and, BitVec.getElem_or]
  grind

theorem wantsHdrOpt_lowered (key : UInt64) :
    (kernel.lowered key s skops).wantsHdrOpt s = true := by
  have flags : ((kernel.lowered key s skops).sockets s).cbFlags =
      (kernel.sockets s).cbFlags ||| writeHdrOptCbFlag := by
    show (Function.update kernel.sockets s _ s).cbFlags = _
    rw [Function.update_self]
  rw [Kernel.wantsHdrOpt, flags, or_writeHdrOptCbFlag]
  rfl

theorem not_small_restored (key : UInt64) : ¬ (kernel.restored key s).Small s := by
  intro small
  have calls : (kernel.restored key s).calls s =
      kernel.calls s ++ Kernel.closing kernel.gecitConfig (kernel.sockets s).cbFlags :=
    Function.update_self s _ _
  have never := small.2
  rw [Kernel.restorations, calls, List.countP_append] at never
  have once : (Kernel.closing kernel.gecitConfig (kernel.sockets s).cbFlags).countP
      Call.isNormalMss = 1 := rfl
  omega

/-- An establishment that leaves the small MSS leaves the flag and an entry. -/
theorem Effect.opens (effect : Effect cookie s skops kernel next)
    (opens : skops.op = .activeEstablishedCb) (calm : Untouched cookie sockets kernel s)
    (small : next.Small s) : next.wantsHdrOpt s = true ∧ next.connections (cookie s) ≠ none := by
  have noSegment : skops.op ≠ .writeHdrOptCb := by
    rw [opens]
    simp
  cases effect with
  | idle =>
      have lowered := small.1
      rw [calm.calls] at lowered
      contradiction
  | lowers =>
      refine ⟨wantsHdrOpt_lowered (cookie s), ?_⟩
      show Function.update kernel.connections (cookie s) _ (cookie s) ≠ none
      rw [Function.update_self]
      simp
  | counts _ _ segment | restores _ _ segment => exact absurd segment noSegment

/-- A second callback that leaves the small MSS leaves the flag, and the entry if there is one. -/
theorem Effect.writes (effect : Effect cookie s skops kernel next)
    (segment : skops.op = .writeHdrOptCb) (small : next.Small s) :
    kernel.Small s ∧ next.wantsHdrOpt s = kernel.wantsHdrOpt s ∧
      (next.connections (cookie s) = none ↔ kernel.connections (cookie s) = none) := by
  cases effect with
  | idle => exact ⟨small, rfl, Iff.rfl⟩
  | lowers lowering =>
      have opens := lowering.2.1
      rw [segment] at opens
      contradiction
  | counts entry _ _ found =>
      refine ⟨small, rfl, ?_⟩
      show Function.update kernel.connections (cookie s) _ (cookie s) = none ↔ _
      rw [Function.update_self, found]
      simp
  | restores => exact absurd small (not_small_restored (cookie s))

/-! ### The ledger of a run -/

/-- Bytes of the segment whose second callback is still to come. -/
def Traffic.pending (state : Traffic Socket) (s : Socket) : Nat :=
  match state.writing s with
  | some skops => skops.skbLen.toNat
  | none => 0

/-- What a run keeps true of one socket. -/
structure Account (cookie : Socket → UInt64) (past : List (Action Socket)) (state : Traffic Socket)
    (s : Socket) : Prop where
  fresh : s ∉ state.established → state.sent s = 0 ∧ state.evicted s = false
  balance : bytesCounted past s + state.missed s + state.pending s = state.sent s
  wants : state.kernel.Small s → state.kernel.wantsHdrOpt s = true
  entry : state.kernel.Small s →
    (state.kernel.connections (cookie s) = none ↔ state.evicted s = true)
  segment : ∀ skops, state.writing s = some skops → skops.op = .writeHdrOptCb

/-- What holds in every state of a run; `past` holds the kernel's own actions. -/
structure Ledger (cookie : Socket → UInt64) (cfg : Config) (sockets : Socket → Sock)
    (past : List (Action Socket)) (state : Traffic Socket) : Prop where
  consistent : Consistent cookie sockets past state.kernel
  limit : state.kernel.Enabled →
    state.kernel.gecitConfig.restoreAfterBytes = cfg.pushConfig.restoreAfterBytes
  begun : ∀ s, s ∈ state.established ↔ s ∈ established past
  accounts : ∀ s, Account cookie past state s

/-- A step leaves alone what the account of `s` is about. -/
structure SameFor (cookie : Socket → UInt64) (s : Socket) (state next : Traffic Socket) : Prop where
  calls : next.kernel.calls s = state.kernel.calls s
  sock : next.kernel.sockets s = state.kernel.sockets s
  entry : next.kernel.connections (cookie s) = state.kernel.connections (cookie s)
  begun : s ∈ next.established ↔ s ∈ state.established
  sent : next.sent s = state.sent s
  missed : next.missed s = state.missed s
  evicted : next.evicted s = state.evicted s
  writing : next.writing s = state.writing s

variable {state after : Traffic Socket} {later : List (Action Socket)}

omit [DecidableEq Socket] in
theorem SameFor.small (same : SameFor cookie s state after) :
    after.kernel.Small s ↔ state.kernel.Small s := by
  rw [Kernel.Small, Kernel.Small, Kernel.restorations, Kernel.restorations, same.calls]

theorem Account.frame (account : Account cookie past state s) (same : SameFor cookie s state after)
    (sameBytes : bytesCounted later s = bytesCounted past s) : Account cookie later after s where
  fresh notBegun := by
    rw [same.sent, same.evicted]
    exact account.fresh fun begun => notBegun (same.begun.mpr begun)
  balance := by
    have samePending : after.pending s = state.pending s := by
      rw [Traffic.pending, Traffic.pending, same.writing]
    rw [sameBytes, same.missed, samePending, same.sent]
    exact account.balance
  wants small := by
    rw [Kernel.wantsHdrOpt, same.sock]
    exact account.wants (same.small.mp small)
  entry small := by
    rw [same.entry, same.evicted]
    exact account.entry (same.small.mp small)
  segment skops writing := account.segment skops (same.writing ▸ writing)

/-! #### What a segment does -/

/-- The segment gets its header space. -/
def Traffic.Gets (state : Traffic Socket) (s : Socket) (grants : Bool) : Prop :=
  state.kernel.wantsHdrOpt s = true ∧ state.kernel.Enabled ∧ grants = true

theorem segment_of_gets {grants : Bool} (gets : state.Gets s grants) (skops : SockOps) :
    ∃ reserved, state.segment cookie s skops grants =
      { state with
        kernel := { state.kernel with reserved := reserved }
        sent := Function.update state.sent s (state.sent s + skops.skbLen.toNat)
        writing := Function.update state.writing s (some (skops.withOp .writeHdrOptCb)) } := by
  obtain ⟨reserved, kernel⟩ := @gecitSockops_hdrOptLen _ _ cookie s skops state.kernel
  have asks := (@asksHdrOpt_iff _ _ cookie state.kernel s skops).mpr gets.2.1
  rw [Traffic.segment, if_pos gets.1, asks, gets.2.2, kernel]
  exact ⟨reserved, rfl⟩

theorem segment_of_not_gets {grants : Bool} (missing : ¬ state.Gets s grants) (skops : SockOps) :
    ∃ reserved, state.segment cookie s skops grants =
      { state with
        kernel := { state.kernel with reserved := reserved }
        sent := Function.update state.sent s (state.sent s + skops.skbLen.toNat)
        missed := Function.update state.missed s (state.missed s + skops.skbLen.toNat) } := by
  obtain ⟨reserved, kernel⟩ := @gecitSockops_hdrOptLen _ _ cookie s skops state.kernel
  rw [Traffic.segment]
  split
  next wants =>
    have refused : ¬ (asksHdrOpt cookie state.kernel s (skops.withOp .hdrOptLenCb) && grants) = true := by
      intro both
      obtain ⟨asks, granted⟩ := (Bool.and_eq_true _ _).mp both
      exact missing ⟨wants, (asksHdrOpt_iff state.kernel s skops).mp asks, granted⟩
    rw [if_neg refused, kernel]
    exact ⟨reserved, rfl⟩
  next => exact ⟨state.kernel.reserved, rfl⟩

/-! #### Other sockets -/

theorem sameFor_establish (distinct : Function.Injective cookie) {other : Socket}
    (different : other ≠ s) (skops : SockOps) :
    SameFor cookie other state (state.establish cookie s skops) := by
  have effect := @gecitSockops_effect _ _ cookie s (skops.withOp .activeEstablishedCb) state.kernel
  obtain ⟨sameCalls, sameSock, sameEntry⟩ := effect.others distinct different
  refine ⟨sameCalls, sameSock, sameEntry, ?_, rfl, rfl, rfl, rfl⟩
  show other ∈ s :: state.established ↔ _
  rw [List.mem_cons, or_iff_right different]

theorem sameFor_segment {other : Socket} (different : other ≠ s) (skops : SockOps) (grants : Bool) :
    SameFor cookie other state (state.segment cookie s skops grants) := by
  by_cases gets : state.Gets s grants
  · obtain ⟨reserved, after⟩ := @segment_of_gets _ _ cookie _ _ _ gets skops
    rw [after]
    exact ⟨rfl, rfl, rfl, Iff.rfl, Function.update_of_ne different _ _, rfl, rfl,
      Function.update_of_ne different _ _⟩
  · obtain ⟨reserved, after⟩ := @segment_of_not_gets _ _ cookie _ _ _ gets skops
    rw [after]
    exact ⟨rfl, rfl, rfl, Iff.rfl, Function.update_of_ne different _ _,
      Function.update_of_ne different _ _, rfl, rfl⟩

theorem sameFor_write (distinct : Function.Injective cookie) {other : Socket}
    (different : other ≠ s) (skops : SockOps) :
    SameFor cookie other state (state.write cookie s skops) := by
  have effect := @gecitSockops_effect _ _ cookie s skops state.kernel
  obtain ⟨sameCalls, sameSock, sameEntry⟩ := effect.others distinct different
  refine ⟨sameCalls, sameSock, sameEntry, Iff.rfl, rfl, ?_, rfl, Function.update_of_ne different _ _⟩
  rw [Traffic.write]
  dsimp only
  split
  · exact Function.update_of_ne different _ _
  · rfl

/-! #### The socket of the step -/

theorem Account.establish (account : Account cookie past state s)
    (life : Life cookie sockets past state.kernel s) (notBegun : s ∉ state.established)
    (fresh : s ∉ established past) (skops : SockOps) :
    Account cookie (past ++ [.callback s (skops.withOp .activeEstablishedCb)])
      (state.establish cookie s skops) s := by
  obtain ⟨noneSent, notEvicted⟩ := account.fresh notBegun
  have calm := life.untouched_of_not_established fresh
  have effect := @gecitSockops_effect _ _ cookie s (skops.withOp .activeEstablishedCb) state.kernel
  have opened := effect.opens rfl calm
  constructor
  · intro notThere
    exact absurd List.mem_cons_self notThere
  · have balance := account.balance
    rw [bytesCounted_established past s rfl]
    show 0 + state.missed s + state.pending s = state.sent s
    omega
  · intro small
    exact (opened small).1
  · intro small
    show _ ↔ state.evicted s = true
    rw [notEvicted]
    exact iff_of_false (opened small).2 Bool.false_ne_true
  · exact account.segment

theorem Account.segment_step (account : Account cookie past state s)
    (begun : s ∈ state.established) (idle : state.writing s = none) (skops : SockOps)
    (grants : Bool) (sameBytes : bytesCounted later s = bytesCounted past s) :
    Account cookie later (state.segment cookie s skops grants) s := by
  have balance := account.balance
  have noPending : state.pending s = 0 := by rw [Traffic.pending, idle]
  by_cases gets : state.Gets s grants
  · obtain ⟨reserved, after⟩ := @segment_of_gets _ _ cookie _ _ _ gets skops
    rw [after]
    refine ⟨fun notThere => absurd begun notThere, ?_, account.wants, account.entry, ?_⟩
    · simp only [Traffic.pending, Function.update_self, SockOps.withOp]
      omega
    · intro other writing
      have own : Function.update state.writing s (some (skops.withOp .writeHdrOptCb)) s =
          some other := writing
      rw [Function.update_self] at own
      obtain rfl := Option.some.inj own
      rfl
  · obtain ⟨reserved, after⟩ := @segment_of_not_gets _ _ cookie _ _ _ gets skops
    rw [after]
    refine ⟨fun notThere => absurd begun notThere, ?_, account.wants, account.entry,
      account.segment⟩
    have pending : ∀ kernel sent missed, Traffic.pending { state with
        kernel := kernel, sent := sent, missed := missed } s = 0 := fun _ _ _ => noPending
    simp only [pending, Function.update_self]
    omega

theorem Account.write (account : Account cookie past state s)
    (switch : (observed past).enabled = true ↔ state.kernel.Enabled)
    (writing : state.writing s = some skops) :
    Account cookie (past ++ [.callback s skops]) (state.write cookie s skops) s := by
  have segment := account.segment skops writing
  have effect := @gecitSockops_effect _ _ cookie s skops state.kernel
  have small := effect.writes segment
  refine ⟨account.fresh, ?_, ?_, ?_, ?_⟩
  · have balance := account.balance
    have pending : state.pending s = skops.skbLen.toNat := by rw [Traffic.pending, writing]
    have done : (state.write cookie s skops).pending s = 0 := by
      simp only [Traffic.pending, Traffic.write, Function.update_self]
    rw [done]
    show _ + Traffic.missed (state.write cookie s skops) s + 0 = state.sent s
    rw [Traffic.write]
    dsimp only
    split
    next off =>
      have offSeen : (observed past).enabled = false := by
        rw [Bool.eq_false_iff, ne_eq, switch]
        exact not_not_intro off
      have same : bytesCounted (past ++ [.callback s skops]) s = bytesCounted past s := by
        rw [bytesCounted, observed_concat, observe, segment]
        simp only [offSeen]
        rfl
      rw [same, Function.update_self]
      omega
    next on =>
      rw [bytesCounted_segment past s segment (switch.mpr on)]
      omega
  · intro smallAfter
    obtain ⟨smallBefore, sameWants, _⟩ := small smallAfter
    exact sameWants.trans (account.wants smallBefore)
  · intro smallAfter
    obtain ⟨smallBefore, _, sameEntry⟩ := small smallAfter
    exact sameEntry.trans (account.entry smallBefore)
  · intro other otherWriting
    have noWriting : (state.write cookie s skops).writing s = none := Function.update_self _ _ _
    rw [noWriting] at otherWriting
    contradiction

theorem Account.evict (account : Account cookie past state s)
    (life : Life cookie sockets past state.kernel s) (begun : s ∈ state.established ↔ s ∈ established past)
    {key : UInt64} (there : state.kernel.connections key ≠ none)
    (sameBytes : bytesCounted later s = bytesCounted past s) :
    Account cookie later (state.evict cookie key) s := by
  refine ⟨?_, ?_, account.wants, ?_, account.segment⟩
  · intro notBegun
    refine ⟨(account.fresh notBegun).1, ?_⟩
    show (state.evicted s || cookie s == key) = false
    have otherKey : cookie s ≠ key := by
      rintro rfl
      obtain ⟨entry, found⟩ := Option.ne_none_iff_exists'.mp there
      exact notBegun (begun.mpr (life.of_entry found).1)
    rw [(account.fresh notBegun).2, Bool.false_or]
    exact beq_false_of_ne otherKey
  · rw [sameBytes]
    exact account.balance
  · intro small
    show Function.update state.kernel.connections key none (cookie s) = none ↔
      (state.evicted s || cookie s == key) = true
    by_cases own : cookie s = key
    · rw [own, Function.update_self]
      simp
    · rw [Function.update_of_ne own, beq_false_of_ne own, Bool.or_false]
      exact account.entry small

/-! ### One step -/

def Action.pushes : Action Socket → Bool
  | .callback _ _ | .evict _ => false
  | .pushConfig | .updateEnabled _ | .pushTargetPort _ | .pushExcludeIP _ => true

theorem push_effect {action : Action Socket} (isPush : action.pushes = true)
    (stepped : Ebpf.step cookie cfg kernel action = some next) :
    next.calls = kernel.calls ∧ next.sockets = kernel.sockets ∧
      next.connections = kernel.connections := by
  cases step_effect stepped with
  | callback | evict => contradiction
  | push => exact ⟨rfl, rfl, rfl⟩

theorem bytesCounted_push {action : Action Socket} (isPush : action.pushes = true)
    (past : List (Action Socket)) (s : Socket) :
    bytesCounted (past ++ [action]) s = bytesCounted past s := by
  rw [bytesCounted, observed_concat]
  cases action with
  | callback | evict => contradiction
  | pushConfig | updateEnabled | pushTargetPort | pushExcludeIP => rfl

omit [DecidableEq Socket] in
theorem establishes_push {action : Action Socket} (isPush : action.pushes = true) :
    action.establishes = none := by
  cases action with
  | callback | evict => contradiction
  | pushConfig | updateEnabled | pushTargetPort | pushExcludeIP => rfl

/-- Both pushes of the configuration write the same limit. -/
theorem limit_step {action : Action Socket}
    (limit : kernel.Enabled →
      kernel.gecitConfig.restoreAfterBytes = cfg.pushConfig.restoreAfterBytes)
    (stepped : Ebpf.step cookie cfg kernel action = some next) :
    next.Enabled → next.gecitConfig.restoreAfterBytes = cfg.pushConfig.restoreAfterBytes := by
  cases action with
  | callback s skops =>
      obtain rfl := Option.some.inj stepped
      rw [Kernel.Enabled, (gecitSockops_effect s skops kernel).config]
      exact limit
  | evict key =>
      obtain ⟨_, rfl⟩ := guarded_eq_some stepped
      exact limit
  | pushConfig | updateEnabled enabled =>
      obtain rfl := Option.some.inj stepped
      exact fun _ => rfl
  | pushTargetPort port =>
      obtain ⟨_, updated⟩ := Option.ite_none_right_eq_some.mp stepped
      obtain ⟨ports, _, rfl⟩ := Option.map_eq_some_iff.mp updated
      exact limit
  | pushExcludeIP key =>
      obtain ⟨_, updated⟩ := Option.ite_none_right_eq_some.mp stepped
      obtain ⟨keys, _, rfl⟩ := Option.map_eq_some_iff.mp updated
      exact limit

/-- The kernel side of a step, and the accounts afterwards. -/
theorem Ledger.extend {action : Action Socket} (ledger : Ledger cookie cfg sockets past state)
    (distinct : Function.Injective cookie)
    (stepped : Ebpf.step cookie cfg state.kernel action = some after.kernel)
    (fresh : ∀ s, action.establishes = some s → s ∉ established past)
    (begun : ∀ s, s ∈ after.established ↔ s ∈ state.established ∨ action.establishes = some s)
    (accounts : ∀ s, Account cookie (past ++ [action]) after s) :
    Ledger cookie cfg sockets (past ++ [action]) after where
  consistent := ledger.consistent.step distinct stepped fresh
  limit := limit_step ledger.limit stepped
  begun s := by
    rw [begun, established_concat, List.mem_append, ledger.begun, Option.mem_toList]
  accounts := accounts

theorem Ledger.push {action : Action Socket} (ledger : Ledger cookie cfg sockets past state)
    (distinct : Function.Injective cookie) (isPush : action.pushes = true)
    (pushed : state.push cookie cfg action = some after) :
    Ledger cookie cfg sockets (past ++ [action]) after := by
  obtain ⟨kernel, stepped, rfl⟩ := Option.map_eq_some_iff.mp pushed
  obtain ⟨sameCalls, sameSocks, sameEntries⟩ := push_effect isPush stepped
  apply ledger.extend distinct stepped
  · intro s establishes
    rw [establishes_push isPush] at establishes
    contradiction
  · intro s
    rw [establishes_push isPush]
    simp
  · intro s
    apply (ledger.accounts s).frame ?_ (bytesCounted_push isPush past s)
    exact ⟨congrFun sameCalls s, congrFun sameSocks s, congrFun sameEntries (cookie s), Iff.rfl,
      rfl, rfl, rfl, rfl⟩

theorem Ledger.establish (ledger : Ledger cookie cfg sockets past state)
    (distinct : Function.Injective cookie) (notBegun : s ∉ state.established) (skops : SockOps) :
    Ledger cookie cfg sockets (past ++ [.callback s (skops.withOp .activeEstablishedCb)])
      (state.establish cookie s skops) := by
  have fresh : s ∉ established past := fun begun => notBegun ((ledger.begun s).mpr begun)
  have establishes : (Action.callback s (skops.withOp .activeEstablishedCb)).establishes = some s := by
    simp [Action.establishes, SockOps.withOp]
  apply ledger.extend distinct rfl
  · intro other opens
    rw [establishes] at opens
    obtain rfl := Option.some.inj opens
    exact fresh
  · intro other
    rw [establishes, Option.some.injEq]
    show other ∈ s :: state.established ↔ _
    rw [List.mem_cons, or_comm, @eq_comm _ s]
  · intro other
    by_cases own : other = s
    · subst own
      exact (ledger.accounts other).establish (ledger.consistent.lives other) notBegun fresh skops
    · exact (ledger.accounts other).frame (sameFor_establish distinct own skops)
        (bytesCounted_other past own _)

theorem Ledger.segment (ledger : Ledger cookie cfg sockets past state)
    (distinct : Function.Injective cookie) (begun : s ∈ state.established)
    (idle : state.writing s = none) (skops : SockOps) (grants : Bool) :
    ∃ more, Ledger cookie cfg sockets (past ++ more) (state.segment cookie s skops grants) := by
  have accounts : ∀ later, (∀ other, bytesCounted later other = bytesCounted past other) →
      ∀ other, Account cookie later (state.segment cookie s skops grants) other := by
    intro later sameBytes other
    by_cases own : other = s
    · subst own
      exact (ledger.accounts other).segment_step begun idle skops grants (sameBytes other)
    · exact (ledger.accounts other).frame (sameFor_segment own skops grants) (sameBytes other)
  by_cases wants : state.kernel.wantsHdrOpt s = true
  · refine ⟨[.callback s (skops.withOp .hdrOptLenCb)], ?_⟩
    have kernel : (state.segment cookie s skops grants).kernel =
        gecitSockops cookie s (skops.withOp .hdrOptLenCb) state.kernel := by
      rw [Traffic.segment, if_pos wants]
      split <;> rfl
    have sameBegun : (state.segment cookie s skops grants).established = state.established := by
      rw [Traffic.segment, if_pos wants]
      split <;> rfl
    have establishes : (Action.callback s (skops.withOp .hdrOptLenCb)).establishes = none := by
      simp [Action.establishes, SockOps.withOp]
    apply ledger.extend distinct
    · rw [kernel]
      rfl
    · intro other opens
      rw [establishes] at opens
      contradiction
    · intro other
      rw [establishes, sameBegun]
      simp
    · apply accounts
      intro other
      rw [bytesCounted, observed_concat]
      rfl
  · refine ⟨[], ?_⟩
    have same : state.segment cookie s skops grants =
        { state with
          sent := Function.update state.sent s (state.sent s + skops.skbLen.toNat)
          missed := Function.update state.missed s (state.missed s + skops.skbLen.toNat) } := by
      rw [Traffic.segment, if_neg wants]
    rw [List.append_nil]
    have carried := accounts past fun _ => rfl
    rw [same] at carried ⊢
    exact ⟨ledger.consistent, ledger.limit, ledger.begun, carried⟩

theorem Ledger.write (ledger : Ledger cookie cfg sockets past state)
    (distinct : Function.Injective cookie) (writing : state.writing s = some skops) :
    Ledger cookie cfg sockets (past ++ [.callback s skops]) (state.write cookie s skops) := by
  have establishes : (Action.callback s skops).establishes = none := by
    rw [Action.establishes, (ledger.accounts s).segment skops writing]
    rfl
  apply ledger.extend distinct rfl
  · intro other opens
    rw [establishes] at opens
    contradiction
  · intro other
    rw [establishes]
    simp [Traffic.write]
  · intro other
    by_cases own : other = s
    · subst own
      exact (ledger.accounts other).write ledger.consistent.switch writing
    · exact (ledger.accounts other).frame (sameFor_write distinct own skops)
        (bytesCounted_other past own skops)

theorem Ledger.evict (ledger : Ledger cookie cfg sockets past state)
    (distinct : Function.Injective cookie) {key : UInt64}
    (there : state.kernel.connections key ≠ none) :
    Ledger cookie cfg sockets (past ++ [.evict key]) (state.evict cookie key) := by
  apply ledger.extend distinct
  · exact if_pos there
  · intro s establishes
    contradiction
  · intro s
    simp [Traffic.evict, Action.establishes]
  · intro s
    apply (ledger.accounts s).evict (ledger.consistent.lives s) (ledger.begun s) there
    rw [bytesCounted, observed_concat]
    rfl

theorem Ledger.step {action : TrafficAction Socket} (ledger : Ledger cookie cfg sockets past state)
    (distinct : Function.Injective cookie)
    (stepped : Traffic.step cookie cfg state action = some after) :
    ∃ later, Ledger cookie cfg sockets later after := by
  cases action with
  | establish s skops =>
      obtain ⟨notBegun, rfl⟩ := guarded_eq_some stepped
      exact ⟨_, ledger.establish distinct notBegun skops⟩
  | segment s skops grants =>
      obtain ⟨⟨begun, idle⟩, rfl⟩ := guarded_eq_some stepped
      obtain ⟨more, extended⟩ := ledger.segment distinct begun idle skops grants
      exact ⟨_, extended⟩
  | write s =>
      obtain ⟨skops, writing, rfl⟩ := Option.map_eq_some_iff.mp stepped
      exact ⟨_, ledger.write distinct writing⟩
  | evict key =>
      obtain ⟨there, rfl⟩ := guarded_eq_some stepped
      exact ⟨_, ledger.evict distinct there⟩
  | pushConfig | updateEnabled | pushTargetPort | pushExcludeIP =>
      exact ⟨_, ledger.push distinct rfl stepped⟩

theorem ledger_quiet (cookie : Socket → UInt64) (cfg : Config) (sockets : Socket → Sock) :
    Ledger cookie cfg sockets [] (quiet sockets) where
  consistent := ⟨iff_of_false Bool.false_ne_true (not_not_intro rfl), fun _ => .untouched ⟨rfl, rfl, rfl⟩⟩
  limit enabled := absurd rfl enabled
  begun _ := Iff.rfl
  accounts s := by
    refine ⟨fun _ => ⟨rfl, rfl⟩, rfl, ?_, ?_, ?_⟩
    · intro small
      exact absurd small.1 Bool.false_ne_true
    · intro small
      exact absurd small.1 Bool.false_ne_true
    · intro skops writing
      contradiction

/-! ### Exactly when every socket gets its MSS back -/

/-- What `Restores` asks of one socket. -/
def Traffic.RestoresOne (cfg : Config) (state : Traffic Socket) (s : Socket) : Prop :=
  state.kernel.Small s → cfg.threshold < state.sent s → state.writing s ≠ none

omit [DecidableEq Socket] in
theorem SameFor.restoresOne (same : SameFor cookie s state after) :
    after.RestoresOne cfg s ↔ state.RestoresOne cfg s := by
  rw [Traffic.RestoresOne, Traffic.RestoresOne, same.small, same.sent, same.writing]

omit [DecidableEq Socket] in
/-- A step of `s` alone is safe exactly when it is safe for `s`. -/
theorem restores_iff_own (safe : state.Restores cfg)
    (others : ∀ other, other ≠ s → SameFor cookie other state after) :
    after.Restores cfg ↔ after.RestoresOne cfg s := by
  constructor
  · intro safeAfter
    exact safeAfter s
  · intro own other
    by_cases same : other = s
    · rw [same]
      exact own
    · exact (others other same).restoresOne.mpr (safe other)

theorem restoresOne_segment (account : Account cookie past state s)
    (idle : state.writing s = none) (grants : Bool) :
    (state.segment cookie s skops grants).RestoresOne cfg s ↔
      state.Counted cfg (.segment s skops grants) := by
  by_cases gets : state.Gets s grants
  · obtain ⟨reserved, same⟩ := @segment_of_gets _ _ cookie _ _ _ gets skops
    have writing : (state.segment cookie s skops grants).writing s ≠ none := by
      rw [same]
      show Function.update state.writing s _ s ≠ none
      rw [Function.update_self]
      simp
    exact iff_of_true (fun _ _ => writing) fun _ _ => gets.2
  · obtain ⟨reserved, same⟩ := @segment_of_not_gets _ _ cookie _ _ _ gets skops
    have sent : (state.segment cookie s skops grants).sent s = state.sent s + skops.skbLen.toNat := by
      rw [same]
      exact Function.update_self _ _ _
    have writing : (state.segment cookie s skops grants).writing s = none := by
      rw [same]
      exact idle
    have small : (state.segment cookie s skops grants).kernel.Small s ↔ state.kernel.Small s := by
      rw [same]
      exact Iff.rfl
    rw [Traffic.RestoresOne, sent, writing, small]
    constructor
    · intro safe isSmall exceeds
      exact absurd rfl (safe isSmall exceeds)
    · intro counted isSmall exceeds
      exact absurd ⟨account.wants isSmall, counted isSmall exceeds⟩ gets

/-- The second callback restores a small MSS exactly when it counts past the limit. -/
theorem small_write (ledger : Ledger cookie cfg sockets past state)
    (writing : state.writing s = some skops) :
    (gecitSockops cookie s skops state.kernel).Small s ↔ state.kernel.Small s ∧
      ¬ (state.kernel.Enabled ∧ state.evicted s = false ∧
        cfg.threshold < (state.sent s - state.missed s) % 2 ^ 32) := by
  have account := ledger.accounts s
  have life := ledger.consistent.lives s
  have segment := account.segment skops writing
  have balance := account.balance
  have pending : state.pending s = skops.skbLen.toNat := by rw [Traffic.pending, writing]
  have entryBytes : ∀ entry : ConnState, state.kernel.Enabled →
      state.kernel.connections (cookie s) = some entry →
        (state.kernel.gecitConfig.restoreAfterBytes < entry.bytesSent + skops.skbLen ↔
          cfg.threshold < (state.sent s - state.missed s) % 2 ^ 32) := by
    intro entry enabled found
    obtain ⟨_, _, bytes⟩ := life.of_entry found
    rw [ledger.limit enabled, UInt32.lt_iff_toNat_lt, UInt32.toNat_add, bytes, Config.threshold]
    have sum : (bytesCounted past s % 2 ^ 32 + skops.skbLen.toNat) % 2 ^ 32 =
        (state.sent s - state.missed s) % 2 ^ 32 := by omega
    rw [sum]
  have effect := @gecitSockops_effect _ _ cookie s skops state.kernel
  generalize gecitSockops cookie s skops state.kernel = next at effect
  cases effect with
  | idle reserved _ noCount =>
      constructor
      · intro small
        refine ⟨small, ?_⟩
        rintro ⟨enabled, notEvicted, _⟩
        have there : state.kernel.connections (cookie s) ≠ none := by
          rw [ne_eq, account.entry small, notEvicted]
          exact Bool.false_ne_true
        obtain ⟨entry, found⟩ := Option.ne_none_iff_exists'.mp there
        apply noCount
        refine ⟨enabled, segment, entry, found, ?_⟩
        cases life with
        | untouched calm =>
            rw [calm.noEntry] at found
            contradiction
        | tracked own _ _ ownEntry notRestored =>
            rw [ownEntry] at found
            obtain rfl := Option.some.inj found
            exact notRestored
        | forgotten _ _ noEntry | restored _ _ noEntry => exact absurd noEntry there
      · rintro ⟨small, _⟩
        exact small
  | lowers lowering =>
      have opens := lowering.2.1
      rw [segment] at opens
      contradiction
  | counts entry enabled _ found _ below =>
      rw [entryBytes entry enabled found] at below
      have small : state.kernel.Small s := small_of_opened (life.of_entry found).2.1
      exact iff_of_true small ⟨small, fun counted => below counted.2.2⟩
  | restores entry enabled _ found _ exceeds =>
      rw [entryBytes entry enabled found] at exceeds
      have small : state.kernel.Small s := small_of_opened (life.of_entry found).2.1
      have notEvicted : state.evicted s = false := by
        rw [Bool.eq_false_iff, ne_eq, ← account.entry small, found]
        simp
      apply iff_of_false (not_small_restored (cookie s))
      rintro ⟨_, notCounted⟩
      exact notCounted ⟨enabled, notEvicted, exceeds⟩

theorem restoresOne_write (ledger : Ledger cookie cfg sockets past state)
    (writing : state.writing s = some skops) :
    (state.write cookie s skops).RestoresOne cfg s ↔ state.Counted cfg (.write s) := by
  have done : (state.write cookie s skops).writing s = none := Function.update_self _ _ _
  rw [Traffic.RestoresOne, done]
  show ((gecitSockops cookie s skops state.kernel).Small s → _) ↔ _
  rw [small_write ledger writing]
  constructor
  · intro safe small exceeds
    by_contra notCounted
    exact safe ⟨small, notCounted⟩ exceeds rfl
  · rintro counted ⟨small, notCounted⟩ exceeds
    exact absurd (counted small exceeds) notCounted

theorem restores_push {action : Action Socket} (safe : state.Restores cfg)
    (isPush : action.pushes = true) (pushed : state.push cookie cfg action = some after) :
    after.Restores cfg := by
  obtain ⟨kernel, stepped, rfl⟩ := Option.map_eq_some_iff.mp pushed
  intro s small
  exact safe s (small.congr (congrFun (push_effect isPush stepped).1 s))

theorem restores_step {action : TrafficAction Socket} (ledger : Ledger cookie cfg sockets past state)
    (distinct : Function.Injective cookie) (safe : state.Restores cfg)
    (stepped : Traffic.step cookie cfg state action = some after) :
    after.Restores cfg ↔ state.Counted cfg action := by
  cases action with
  | establish s skops =>
      obtain ⟨notBegun, rfl⟩ := guarded_eq_some stepped
      rw [restores_iff_own safe fun other different => sameFor_establish distinct different skops]
      apply iff_of_true ?_ trivial
      intro _ exceeds
      have noneSent : (state.establish cookie s skops).sent s = 0 :=
        ((ledger.accounts s).fresh notBegun).1
      rw [noneSent] at exceeds
      exact absurd exceeds (Nat.not_lt_zero _)
  | segment s skops grants =>
      obtain ⟨⟨_, idle⟩, rfl⟩ := guarded_eq_some stepped
      rw [restores_iff_own safe fun other different =>
        @sameFor_segment _ _ cookie _ _ _ different skops grants]
      exact restoresOne_segment (ledger.accounts s) idle grants
  | write s =>
      obtain ⟨skops, writing, rfl⟩ := Option.map_eq_some_iff.mp stepped
      rw [restores_iff_own safe fun other different => sameFor_write distinct different skops]
      exact restoresOne_write ledger writing
  | evict key =>
      obtain ⟨_, rfl⟩ := guarded_eq_some stepped
      exact iff_of_true safe trivial
  | pushConfig | updateEnabled | pushTargetPort | pushExcludeIP =>
      exact iff_of_true (restores_push safe rfl stepped) trivial

instance (kernel : Kernel Socket) (s : Socket) : Decidable (kernel.Small s) :=
  inferInstanceAs
    (Decidable ((kernel.calls s).any Call.isMss = true ∧ kernel.restorations s = 0))

instance (kernel : Kernel Socket) : Decidable kernel.Enabled :=
  inferInstanceAs (Decidable (kernel.gecitConfig.enabled ≠ 0))

instance (cfg : Config) (state : Traffic Socket) :
    ∀ action, Decidable (state.Counted cfg action)
  | .segment s skops grants =>
      inferInstanceAs (Decidable (state.kernel.Small s →
        cfg.threshold < state.sent s + skops.skbLen.toNat → state.kernel.Enabled ∧ grants = true))
  | .write s =>
      inferInstanceAs (Decidable (state.kernel.Small s → cfg.threshold < state.sent s →
        state.kernel.Enabled ∧ state.evicted s = false ∧
          cfg.threshold < (state.sent s - state.missed s) % 2 ^ 32))
  | .establish _ _ | .evict _ | .pushConfig | .updateEnabled _ | .pushTargetPort _
  | .pushExcludeIP _ => isTrue trivial

def webQuiet : Traffic UInt64 := quiet fun _ => ⟨1460, 0⟩

/-- Socket 7 goes to port 443 and sends 700 bytes in one segment. -/
def webTraffic : List (TrafficAction UInt64) :=
  [.pushConfig, .pushTargetPort 443, .establish 7 (webOpens 0xbb010000),
    .segment 7 (webCallback .writeHdrOptCb 0xbb010000 700) true, .write 7]

/-- The same, with the switch off while the segment leaves. -/
def webSwitchedOff : List (TrafficAction UInt64) :=
  [.pushConfig, .pushTargetPort 443, .establish 7 (webOpens 0xbb010000), .updateEnabled false,
    .segment 7 (webCallback .writeHdrOptCb 0xbb010000 700) true]

def webEnd (schedule : List (TrafficAction UInt64)) : Traffic UInt64 :=
  (run (Traffic.step id webConfig) webQuiet schedule).getD webQuiet

end Gecit.Ebpf
