import Mathlib.Data.List.Nodup
import Gecit.Foundation.Transition
import Gecit.Ebpf.Sockops

/-!
Contract: sockets, the program, userspace and the kernel's evictions, in any order.

Each socket lives through at most four stages: untouched, tracked by an entry while its
MSS is small, forgotten by an eviction, restored. An entry belongs to one socket and holds
the bytes of its segments modulo 2^32; the schedule alone tells the unbounded number.

Owns the step relation, the invariant over all sockets, and what a callback can do to its
own socket and to the others. Does not own the order in which userspace fills the maps.
-/

namespace Gecit.Ebpf

open Gecit.Foundation

variable {Socket : Type*} [DecidableEq Socket]

inductive Action (Socket : Type*) where
  | callback (s : Socket) (skops : SockOps)
  /-- The LRU map drops the entry of a key. -/
  | evict (key : UInt64)
  | pushConfig
  | updateEnabled (enabled : Bool)
  | pushTargetPort (port : UInt16)
  | pushExcludeIP (key : UInt32)

variable (cookie : Socket → UInt64) (cfg : Config)

def step (kernel : Kernel Socket) : Action Socket → Option (Kernel Socket)
  | .callback s skops => some (gecitSockops cookie s skops kernel)
  | .evict key => if kernel.connections key ≠ none then some (kernel.mapDeleteElem key) else none
  | .pushConfig => some { kernel with gecitConfig := cfg.pushConfig }
  | .updateEnabled enabled => some { kernel with gecitConfig := cfg.updateEnabled enabled }
  | .pushTargetPort port =>
      if port ∈ cfg.Ports then
        (updateKeys kernel.targetPorts port).map fun ports => { kernel with targetPorts := ports }
      else none
  | .pushExcludeIP key =>
      if key ∈ cfg.excludeKeys then
        (updateKeys kernel.excludeIps key).map fun keys => { kernel with excludeIps := keys }
      else none

/-- What an action can do to the kernel: a callback has its effect, an eviction drops an entry,
and a push reaches neither sockets nor entries. -/
inductive StepEffect (kernel : Kernel Socket) : Action Socket → Kernel Socket → Prop where
  | callback (s : Socket) (skops : SockOps) (next : Kernel Socket)
      (effect : Effect cookie s skops kernel next) : StepEffect kernel (.callback s skops) next
  | evict (key : UInt64) : StepEffect kernel (.evict key) (kernel.mapDeleteElem key)
  | push (action : Action Socket) (config : GecitConfig) (ports : List UInt16) (keys : List UInt32) :
      StepEffect kernel action
        { kernel with gecitConfig := config, targetPorts := ports, excludeIps := keys }

variable {cookie cfg} in
theorem step_effect {kernel next : Kernel Socket} {action : Action Socket}
    (stepped : step cookie cfg kernel action = some next) :
    StepEffect cookie kernel action next := by
  cases action with
  | callback s skops =>
      obtain rfl := Option.some.inj stepped
      exact .callback s skops _ (gecitSockops_effect s skops kernel)
  | evict key =>
      obtain ⟨_, rfl⟩ := guarded_eq_some stepped
      exact .evict key
  | pushConfig | updateEnabled enabled =>
      obtain rfl := Option.some.inj stepped
      exact .push _ _ kernel.targetPorts kernel.excludeIps
  | pushTargetPort port =>
      obtain ⟨_, updated⟩ := Option.ite_none_right_eq_some.mp stepped
      obtain ⟨ports, _, rfl⟩ := Option.map_eq_some_iff.mp updated
      exact .push _ kernel.gecitConfig ports kernel.excludeIps
  | pushExcludeIP key =>
      obtain ⟨_, updated⟩ := Option.ite_none_right_eq_some.mp stepped
      obtain ⟨keys, _, rfl⟩ := Option.map_eq_some_iff.mp updated
      exact .push _ kernel.gecitConfig kernel.targetPorts keys

/-! ### What the schedule shows -/

def Action.establishes : Action Socket → Option Socket
  | .callback s skops => if skops.op = .activeEstablishedCb then some s else none
  | _ => none

def established (past : List (Action Socket)) : List Socket := past.filterMap Action.establishes

/-- No socket is established twice. -/
def EstablishedOnce (schedule : List (Action Socket)) : Prop := (established schedule).Nodup

instance (schedule : List (Action Socket)) : Decidable (EstablishedOnce schedule) :=
  inferInstanceAs (Decidable (established schedule).Nodup)

/-- The switch, and for each socket the bytes of the segments since it was established whose
callback found the switch on. -/
structure Observed (Socket : Type*) where
  enabled : Bool
  bytes : Socket → Nat

def observe (seen : Observed Socket) : Action Socket → Observed Socket
  | .callback s skops =>
      match skops.op with
      | .activeEstablishedCb => { seen with bytes := Function.update seen.bytes s 0 }
      | .writeHdrOptCb =>
          if seen.enabled then
            { seen with bytes := Function.update seen.bytes s (seen.bytes s + skops.skbLen.toNat) }
          else seen
      | .hdrOptLenCb | .other _ => seen
  | .pushConfig => { seen with enabled := true }
  | .updateEnabled enabled => { seen with enabled := enabled }
  | .evict _ | .pushTargetPort _ | .pushExcludeIP _ => seen

def observed (past : List (Action Socket)) : Observed Socket :=
  past.foldl observe ⟨false, fun _ => 0⟩

/-- The bytes counted for `s` since it was established. -/
def bytesCounted (past : List (Action Socket)) (s : Socket) : Nat := (observed past).bytes s

variable {cookie cfg}

theorem observed_concat (past : List (Action Socket)) (action : Action Socket) :
    observed (past ++ [action]) = observe (observed past) action := by
  rw [observed, List.foldl_append]
  rfl

omit [DecidableEq Socket] in
theorem established_concat (past : List (Action Socket)) (action : Action Socket) :
    established (past ++ [action]) = established past ++ action.establishes.toList := by
  rw [established, List.filterMap_append]
  cases found : action.establishes <;> simp [established, found]

omit [DecidableEq Socket] in
/-- An establishment is the only one of its socket. -/
theorem not_established_elsewhere {past rest : List (Action Socket)} {action : Action Socket}
    {s : Socket} (once : EstablishedOnce (past ++ action :: rest))
    (establishes : action.establishes = some s) : s ∉ established past ∧ s ∉ established rest := by
  rw [EstablishedOnce, established, List.filterMap_append, List.filterMap_cons_some establishes,
    List.nodup_middle, List.nodup_cons, List.mem_append, not_or] at once
  exact once.1

/-! ### The life of a socket -/

/-- The program has never acted on `s`. -/
structure Untouched (cookie : Socket → UInt64) (sockets : Socket → Sock) (kernel : Kernel Socket)
    (s : Socket) : Prop where
  calls : kernel.calls s = []
  sock : kernel.sockets s = sockets s
  noEntry : kernel.connections (cookie s) = none

/-- The calls of a socket whose MSS was lowered and not restored. -/
def Opened (calls : List Call) : Prop := ∃ cfg skops flags, calls = Kernel.opening cfg skops flags

/-- The calls of a socket whose MSS was restored. -/
def Closed (calls : List Call) : Prop :=
  ∃ opened cfg flags, Opened opened ∧ calls = opened ++ Kernel.closing cfg flags

inductive Life (cookie : Socket → UInt64) (sockets : Socket → Sock) (past : List (Action Socket))
    (kernel : Kernel Socket) (s : Socket) : Prop where
  | untouched (calm : Untouched cookie sockets kernel s)
  | tracked (state : ConnState) (begun : s ∈ established past) (log : Opened (kernel.calls s))
      (entry : kernel.connections (cookie s) = some state) (notRestored : state.mssRestored = 0)
      (bytes : state.bytesSent.toNat = bytesCounted past s % 2 ^ 32)
  | forgotten (begun : s ∈ established past) (log : Opened (kernel.calls s))
      (noEntry : kernel.connections (cookie s) = none)
  | restored (begun : s ∈ established past) (log : Closed (kernel.calls s))
      (noEntry : kernel.connections (cookie s) = none)

/-- What holds in every state of a run. -/
structure Consistent (cookie : Socket → UInt64) (sockets : Socket → Sock)
    (past : List (Action Socket)) (kernel : Kernel Socket) : Prop where
  switch : (observed past).enabled = true ↔ kernel.Enabled
  lives : ∀ s, Life cookie sockets past kernel s

variable {sockets : Socket → Sock} {past : List (Action Socket)} {kernel next : Kernel Socket}
variable {s : Socket} {skops : SockOps}

theorem Life.untouched_of_not_established (life : Life cookie sockets past kernel s)
    (fresh : s ∉ established past) : Untouched cookie sockets kernel s := by
  cases life with
  | untouched calm => exact calm
  | tracked _ begun | forgotten begun | restored begun => exact absurd begun fresh

theorem Life.of_entry (life : Life cookie sockets past kernel s) {state : ConnState}
    (entry : kernel.connections (cookie s) = some state) :
    s ∈ established past ∧ Opened (kernel.calls s) ∧
      state.bytesSent.toNat = bytesCounted past s % 2 ^ 32 := by
  cases life with
  | untouched calm =>
      rw [calm.noEntry] at entry
      contradiction
  | tracked own begun log ownEntry _ bytes =>
      rw [ownEntry] at entry
      obtain rfl := Option.some.inj entry
      exact ⟨begun, log, bytes⟩
  | forgotten _ _ noEntry | restored _ _ noEntry =>
      rw [noEntry] at entry
      contradiction

/-- An action that leaves alone what the life of a socket is about. -/
theorem Life.frame {action : Action Socket} (life : Life cookie sockets past kernel s)
    (sameCalls : next.calls s = kernel.calls s) (sameSock : next.sockets s = kernel.sockets s)
    (sameEntry : next.connections (cookie s) = kernel.connections (cookie s))
    (sameBytes : ∀ state, kernel.connections (cookie s) = some state → state.mssRestored = 0 →
      bytesCounted (past ++ [action]) s = bytesCounted past s) :
    Life cookie sockets (past ++ [action]) next s := by
  have later : s ∈ established past → s ∈ established (past ++ [action]) := by
    intro begun
    rw [established_concat]
    exact List.mem_append_left _ begun
  cases life with
  | untouched calm =>
      exact .untouched ⟨sameCalls.trans calm.calls, sameSock.trans calm.sock,
        sameEntry.trans calm.noEntry⟩
  | tracked state begun log entry notRestored bytes =>
      rw [← sameCalls] at log
      rw [← sameBytes state entry notRestored] at bytes
      exact .tracked state (later begun) log (sameEntry.trans entry) notRestored bytes
  | forgotten begun log noEntry =>
      rw [← sameCalls] at log
      exact .forgotten (later begun) log (sameEntry.trans noEntry)
  | restored begun log noEntry =>
      rw [← sameCalls] at log
      exact .restored (later begun) log (sameEntry.trans noEntry)

theorem bytesCounted_segment (past : List (Action Socket)) (s : Socket)
    (segment : skops.op = .writeHdrOptCb) (on : (observed past).enabled = true) :
    bytesCounted (past ++ [.callback s skops]) s = bytesCounted past s + skops.skbLen.toNat := by
  rw [bytesCounted, observed_concat, observe, segment]
  simp only
  rw [if_pos on]
  exact Function.update_self s _ _

theorem bytesCounted_established (past : List (Action Socket)) (s : Socket)
    (opens : skops.op = .activeEstablishedCb) :
    bytesCounted (past ++ [.callback s skops]) s = 0 := by
  rw [bytesCounted, observed_concat, observe, opens]
  exact Function.update_self s 0 _

/-- Callbacks of another socket count nothing for `s`. -/
theorem bytesCounted_other (past : List (Action Socket)) {other : Socket} (different : s ≠ other)
    (skops : SockOps) : bytesCounted (past ++ [.callback other skops]) s = bytesCounted past s := by
  rw [bytesCounted, observed_concat, observe]
  split
  · exact Function.update_of_ne different _ _
  · split
    · exact Function.update_of_ne different _ _
    · rfl
  · rfl
  · rfl

/-- A callback that neither lowers nor counts leaves the bytes of a tracked socket alone. -/
theorem bytesCounted_idle (life : Life cookie sockets past kernel s)
    (switch : (observed past).enabled = true ↔ kernel.Enabled)
    (fresh : skops.op = .activeEstablishedCb → s ∉ established past)
    (noCount : ¬ kernel.Counts (cookie s) skops) {state : ConnState}
    (entry : kernel.connections (cookie s) = some state) (notRestored : state.mssRestored = 0) :
    bytesCounted (past ++ [.callback s skops]) s = bytesCounted past s := by
  rw [bytesCounted, observed_concat, observe]
  split
  next opens => exact absurd (life.of_entry entry).1 (fresh opens)
  next segment =>
    split
    next on => exact absurd ⟨switch.mp on, segment, state, entry, notRestored⟩ noCount
    next => rfl
  · rfl
  · rfl

theorem Life.own_callback (life : Life cookie sockets past kernel s)
    (switch : (observed past).enabled = true ↔ kernel.Enabled)
    (fresh : skops.op = .activeEstablishedCb → s ∉ established past)
    (effect : Effect cookie s skops kernel next) :
    Life cookie sockets (past ++ [.callback s skops]) next s := by
  have later : s ∈ established past → s ∈ established (past ++ [.callback s skops]) := by
    intro begun
    rw [established_concat]
    exact List.mem_append_left _ begun
  cases effect with
  | idle reserved _ noCount =>
      exact life.frame rfl rfl rfl fun state entry notRestored =>
        bytesCounted_idle life switch fresh noCount entry notRestored
  | lowers lowering =>
      have calm := life.untouched_of_not_established (fresh lowering.2.1)
      have begun : s ∈ established (past ++ [.callback s skops]) := by
        rw [established_concat, Action.establishes, if_pos lowering.2.1]
        simp
      apply Life.tracked ⟨0, 0⟩ begun
      · refine ⟨kernel.gecitConfig, skops, (kernel.sockets s).cbFlags, ?_⟩
        show Function.update kernel.calls s _ s = _
        rw [Function.update_self, calm.calls, List.nil_append]
      · exact Function.update_self (cookie s) _ _
      · rfl
      · rw [bytesCounted_established past s lowering.2.1]
        rfl
  | counts state enabled segment found notRestored =>
      obtain ⟨begun, log, bytes⟩ := life.of_entry found
      refine .tracked { state with bytesSent := state.bytesSent + skops.skbLen } (later begun) log
        ?_ notRestored ?_
      · exact Function.update_self (cookie s) _ _
      · rw [bytesCounted_segment past s segment (switch.mpr enabled), UInt32.toNat_add, bytes]
        omega
  | restores state enabled segment found notRestored =>
      obtain ⟨begun, log, _⟩ := life.of_entry found
      apply Life.restored (later begun)
      · refine ⟨kernel.calls s, kernel.gecitConfig, (kernel.sockets s).cbFlags, log, ?_⟩
        exact Function.update_self s _ _
      · exact Function.update_self (cookie s) _ _

theorem Life.eviction (life : Life cookie sockets past kernel s) (key : UInt64) :
    Life cookie sockets (past ++ [.evict key]) (kernel.mapDeleteElem key) s := by
  have sameBytes : bytesCounted (past ++ [.evict key]) s = bytesCounted past s := by
    rw [bytesCounted, observed_concat]
    rfl
  by_cases own : cookie s = key
  · have noEntry : (kernel.mapDeleteElem key).connections (cookie s) = none := by
      rw [own]
      exact Function.update_self key _ _
    have later : established (past ++ [.evict key]) = established past := by
      rw [established_concat]
      exact List.append_nil _
    cases life with
    | untouched calm => exact .untouched ⟨calm.calls, calm.sock, noEntry⟩
    | tracked state begun log => exact .forgotten (later ▸ begun) log noEntry
    | forgotten begun log => exact .forgotten (later ▸ begun) log noEntry
    | restored begun log => exact .restored (later ▸ begun) log noEntry
  · have otherEntry : (kernel.mapDeleteElem key).connections (cookie s) =
        kernel.connections (cookie s) := Function.update_of_ne own _ _
    exact life.frame rfl rfl otherEntry fun _ _ _ => sameBytes

/-- A push from userspace reaches no socket. -/
theorem Consistent.push {action : Action Socket} (consistent : Consistent cookie sockets past kernel)
    (sameCalls : next.calls = kernel.calls) (sameSocks : next.sockets = kernel.sockets)
    (sameEntries : next.connections = kernel.connections)
    (sameBytes : (observe (observed past) action).bytes = (observed past).bytes)
    (switch : (observe (observed past) action).enabled = true ↔ next.Enabled) :
    Consistent cookie sockets (past ++ [action]) next := by
  refine ⟨by rwa [observed_concat], ?_⟩
  intro s
  apply (consistent.lives s).frame (congrFun sameCalls s) (congrFun sameSocks s)
    (congrFun sameEntries (cookie s))
  intro _ _ _
  rw [bytesCounted, observed_concat, sameBytes, bytesCounted]

theorem Consistent.callback (consistent : Consistent cookie sockets past kernel)
    (distinct : Function.Injective cookie)
    (fresh : skops.op = .activeEstablishedCb → s ∉ established past)
    (effect : Effect cookie s skops kernel next) :
    Consistent cookie sockets (past ++ [.callback s skops]) next := by
  constructor
  · have sameSwitch : (observed (past ++ [.callback s skops])).enabled = (observed past).enabled := by
      rw [observed_concat, observe]
      split
      · rfl
      · split <;> rfl
      · rfl
      · rfl
    rw [sameSwitch, Kernel.Enabled, effect.config]
    exact consistent.switch
  · intro any
    by_cases own : any = s
    · rw [own]
      exact (consistent.lives s).own_callback consistent.switch fresh effect
    · obtain ⟨sameCalls, sameSock, sameEntry⟩ := effect.others distinct own
      exact (consistent.lives any).frame sameCalls sameSock sameEntry fun _ _ _ =>
        bytesCounted_other past own skops

theorem Consistent.step (consistent : Consistent cookie sockets past kernel)
    (distinct : Function.Injective cookie) {action : Action Socket}
    (stepped : Ebpf.step cookie cfg kernel action = some next)
    (fresh : ∀ s, action.establishes = some s → s ∉ established past) :
    Consistent cookie sockets (past ++ [action]) next := by
  cases action with
  | callback s skops =>
      obtain rfl := Option.some.inj stepped
      apply consistent.callback distinct ?_ (gecitSockops_effect s skops kernel)
      intro opens
      exact fresh s (if_pos opens)
  | evict key =>
      obtain ⟨_, rfl⟩ := guarded_eq_some stepped
      refine ⟨?_, fun s => (consistent.lives s).eviction key⟩
      rw [observed_concat]
      exact consistent.switch
  | pushConfig =>
      obtain rfl := Option.some.inj stepped
      exact consistent.push rfl rfl rfl rfl (iff_of_true rfl (by decide : (1 : UInt8) ≠ 0))
  | updateEnabled enabled =>
      obtain rfl := Option.some.inj stepped
      refine consistent.push rfl rfl rfl rfl ?_
      cases enabled with
      | true => exact iff_of_true rfl (by decide : (1 : UInt8) ≠ 0)
      | false => exact iff_of_false Bool.false_ne_true (not_not_intro rfl)
  | pushTargetPort port =>
      obtain ⟨_, updated⟩ := Option.ite_none_right_eq_some.mp stepped
      obtain ⟨ports, _, rfl⟩ := Option.map_eq_some_iff.mp updated
      exact consistent.push rfl rfl rfl rfl consistent.switch
  | pushExcludeIP key =>
      obtain ⟨_, updated⟩ := Option.ite_none_right_eq_some.mp stepped
      obtain ⟨keys, _, rfl⟩ := Option.map_eq_some_iff.mp updated
      exact consistent.push rfl rfl rfl rfl consistent.switch

/-! ### Runs -/

theorem consistent_run (distinct : Function.Injective cookie) {schedule : List (Action Socket)}
    {final : Kernel Socket}
    (reached : run (step cookie cfg) (.loaded sockets) schedule = some final)
    (once : EstablishedOnce schedule) : Consistent cookie sockets schedule final := by
  have start : Consistent cookie sockets [] (Kernel.loaded sockets) :=
    ⟨iff_of_false Bool.false_ne_true (not_not_intro rfl), fun _ => .untouched ⟨rfl, rfl, rfl⟩⟩
  apply run_history start ?_ reached ?_
  · exact fun past action => ∀ s, action.establishes = some s → s ∉ established past
  · intro past action kernel next consistent stepped fresh
    exact consistent.step distinct stepped fresh
  · intro past action rest split s establishes
    exact (not_established_elsewhere (split ▸ once) establishes).1

/-- Only its own establishment ends the calm of a socket. -/
theorem Untouched.step (calm : Untouched cookie sockets kernel s)
    (distinct : Function.Injective cookie) {action : Action Socket}
    (stepped : Ebpf.step cookie cfg kernel action = some next)
    (notLowered : ∀ skops, action = .callback s skops → ¬ kernel.Lowers skops) :
    Untouched cookie sockets next s := by
  cases step_effect stepped with
  | callback t skops _ effect =>
      by_cases own : s = t
      · subst own
        cases effect with
        | idle => exact ⟨calm.calls, calm.sock, calm.noEntry⟩
        | lowers lowering => exact absurd lowering (notLowered skops rfl)
        | counts _ _ _ found | restores _ _ _ found =>
            rw [calm.noEntry] at found
            contradiction
      · obtain ⟨sameCalls, sameSock, sameEntry⟩ := effect.others distinct own
        exact ⟨sameCalls.trans calm.calls, sameSock.trans calm.sock, sameEntry.trans calm.noEntry⟩
  | evict key =>
      refine ⟨calm.calls, calm.sock, ?_⟩
      show Function.update kernel.connections key none (cookie s) = none
      by_cases own : cookie s = key
      · rw [own, Function.update_self]
      · rw [Function.update_of_ne own]
        exact calm.noEntry
  | push => exact ⟨calm.calls, calm.sock, calm.noEntry⟩

theorem step_calls_grow {action : Action Socket}
    (stepped : step cookie cfg kernel action = some next) (s : Socket) :
    kernel.calls s <+: next.calls s := by
  cases step_effect stepped with
  | callback _ _ _ effect => exact effect.calls_grow s
  | evict | push => exact List.prefix_rfl

theorem calls_grow {schedule : List (Action Socket)} {final : Kernel Socket}
    (reached : run (step cookie cfg) kernel schedule = some final) (s : Socket) :
    kernel.calls s <+: final.calls s := by
  have carried := @run_invariant _ _ (step cookie cfg) fun later => kernel.calls s <+: later.calls s
  apply carried ?_ List.prefix_rfl reached
  intro current action next grown stepped
  exact grown.trans (step_calls_grow stepped s)

theorem untouched_run (distinct : Function.Injective cookie) {schedule : List (Action Socket)}
    {final : Kernel Socket} (calm : Untouched cookie sockets kernel s)
    (reached : run (step cookie cfg) kernel schedule = some final)
    (notEstablished : s ∉ established schedule) : Untouched cookie sockets final s := by
  have carried := @run_history _ _ (step cookie cfg) kernel
    (fun _ later => Untouched cookie sockets later s) (fun _ action => action.establishes ≠ some s)
    calm
  apply carried ?_ reached ?_
  · intro _ action current next calmNow stepped other
    apply calmNow.step distinct stepped
    rintro skops rfl lowering
    exact other (if_pos lowering.2.1)
  · intro past action rest split establishes
    apply notEstablished
    rw [split, established, List.filterMap_append, List.filterMap_cons_some establishes]
    exact List.mem_append_right _ List.mem_cons_self

/-! ### The right socket, and not too early -/

/-- Perf events of a socket so far. -/
def Kernel.events (kernel : Kernel Socket) (s : Socket) : Nat :=
  (kernel.calls s).countP Call.isConnEvent

/-- How often the normal MSS of a socket was set so far. -/
def Kernel.restorations (kernel : Kernel Socket) (s : Socket) : Nat :=
  (kernel.calls s).countP Call.isNormalMss

omit [DecidableEq Socket] in
theorem events_opened (log : Opened (kernel.calls s)) :
    kernel.events s = 1 ∧ kernel.restorations s = 0 := by
  obtain ⟨cfg, skops, flags, calls⟩ := log
  rw [Kernel.events, Kernel.restorations, calls]
  exact ⟨rfl, rfl⟩

omit [DecidableEq Socket] in
theorem events_closed (log : Closed (kernel.calls s)) :
    kernel.events s = 1 ∧ kernel.restorations s = 1 := by
  obtain ⟨_, closeCfg, closeFlags, ⟨cfg, skops, flags, rfl⟩, calls⟩ := log
  rw [Kernel.events, Kernel.restorations, calls]
  exact ⟨rfl, rfl⟩

theorem Life.events (life : Life cookie sockets past kernel s) (acted : kernel.calls s ≠ []) :
    kernel.events s = 1 := by
  cases life with
  | untouched calm => exact absurd calm.calls acted
  | tracked _ _ log | forgotten _ log => exact (events_opened log).1
  | restored _ log => exact (events_closed log).1

theorem Life.restorations (life : Life cookie sockets past kernel s) :
    kernel.restorations s ≤ 1 := by
  cases life with
  | untouched calm =>
      rw [Kernel.restorations, calm.calls]
      exact Nat.zero_le 1
  | tracked _ _ log | forgotten _ log =>
      rw [(events_opened log).2]
      exact Nat.zero_le 1
  | restored _ log => exact (events_closed log).2.le

/-- The normal MSS is set only by a callback of that socket, when its bytes exceed the limit. -/
theorem restoration_step (distinct : Function.Injective cookie)
    (consistent : Consistent cookie sockets past kernel) {action : Action Socket}
    (stepped : step cookie cfg kernel action = some next)
    (restores : kernel.restorations s < next.restorations s) :
    ∃ skops, action = .callback s skops ∧ s ∈ established past ∧
      (next.sockets s).maxseg = normalMss kernel.gecitConfig ∧
        kernel.gecitConfig.restoreAfterBytes.toNat < bytesCounted (past ++ [action]) s := by
  have logChanged : next.calls s ≠ kernel.calls s := by
    intro same
    rw [Kernel.restorations, Kernel.restorations, same] at restores
    exact Nat.lt_irrefl _ restores
  cases step_effect stepped with
  | callback t skops _ effect =>
      have own : s = t := by
        by_contra different
        exact logChanged (effect.others distinct different).1
      subst own
      cases effect with
      | idle | counts => exact absurd rfl logChanged
      | lowers =>
          have noneAdded : (kernel.lowered (cookie s) s skops).restorations s =
              kernel.restorations s := by
            show (Function.update kernel.calls s _ s).countP Call.isNormalMss = _
            rw [Function.update_self, List.countP_append]
            rfl
          omega
      | restores state enabled segment found _ exceeds =>
          obtain ⟨begun, _, bytes⟩ := (consistent.lives s).of_entry found
          have sock : (kernel.restored (cookie s) s).sockets s = ⟨normalMss kernel.gecitConfig, _⟩ :=
            Function.update_self s _ _
          have exceedsNat := UInt32.lt_iff_toNat_lt.mp exceeds
          rw [UInt32.toNat_add, bytes] at exceedsNat
          refine ⟨skops, rfl, begun, by rw [sock], ?_⟩
          rw [bytesCounted_segment past s segment (consistent.switch.mpr enabled)]
          omega
  | evict | push => exact absurd rfl logChanged

section Moment

variable {schedule : List (Action Socket)} {final : Kernel Socket}

theorem consistent_before (distinct : Function.Injective cookie) (once : EstablishedOnce schedule)
    (moment : Occurrence (step cookie cfg) (.loaded sockets) schedule final) :
    Consistent cookie sockets moment.past moment.before := by
  apply consistent_run distinct moment.reached
  rw [moment.split, EstablishedOnce, established, List.filterMap_append] at once
  exact once.of_append_left

theorem opens_once (once : EstablishedOnce schedule)
    (moment : Occurrence (step cookie cfg) (.loaded sockets) schedule final)
    (here : moment.action = .callback s skops) (opens : skops.op = .activeEstablishedCb) :
    s ∉ established moment.past ∧ s ∉ established moment.rest := by
  have establishes : moment.action.establishes = some s := by
    rw [here]
    exact if_pos opens
  rw [moment.split] at once
  exact not_established_elsewhere once establishes

/-- A socket that does not match when it is established is never acted on. -/
theorem untouched_of_not_matches (distinct : Function.Injective cookie)
    (once : EstablishedOnce schedule)
    (moment : Occurrence (step cookie cfg) (.loaded sockets) schedule final)
    (here : moment.action = .callback s skops) (opens : skops.op = .activeEstablishedCb)
    (other : ¬ moment.before.Matches skops) : Untouched cookie sockets final s := by
  obtain ⟨notBefore, notAfter⟩ := opens_once once moment here opens
  have life := (consistent_before distinct once moment).lives s
  have calm := life.untouched_of_not_established notBefore
  have calmAfter : Untouched cookie sockets moment.after s := by
    apply calm.step distinct moment.stepped
    intro context same lowering
    rw [here] at same
    cases same
    exact other lowering.2.2
  exact untouched_run distinct calmAfter moment.finished notAfter

/-- The establishment of a matching socket, seen from right after it and from the end. -/
theorem lowered_once (distinct : Function.Injective cookie) (once : EstablishedOnce schedule)
    (moment : Occurrence (step cookie cfg) (.loaded sockets) schedule final)
    (here : moment.action = .callback s skops) (lowering : moment.before.Lowers skops) :
    moment.after = moment.before.lowered (cookie s) s skops ∧ moment.before.calls s = [] ∧
      moment.before.sockets s = sockets s ∧ final.events s = 1 := by
  have notBefore := (opens_once once moment here lowering.2.1).1
  have life := (consistent_before distinct once moment).lives s
  have calm := life.untouched_of_not_established notBefore
  have after : moment.after = moment.before.lowered (cookie s) s skops := by
    have stepped := moment.stepped
    rw [here] at stepped
    rw [← Option.some.inj stepped, gecitSockops_lowers lowering]
  refine ⟨after, calm.calls, calm.sock, ?_⟩
  have grown := calls_grow moment.finished s
  have opened : moment.after.calls s ≠ [] := by
    rw [after]
    show Function.update moment.before.calls s _ s ≠ []
    rw [Function.update_self, calm.calls]
    exact List.cons_ne_nil _ _
  have acted : final.calls s ≠ [] := fun empty => opened (List.prefix_nil.mp (empty ▸ grown))
  exact ((consistent_run distinct moment.reached_final once).lives s).events acted

/-- At every moment of every run: an unmatched socket is left alone for good; a matching one
gets the small MSS and one event; the normal MSS comes at most once, at a callback of its own
that exceeds the limit; and a callback reaches no other socket's entry. -/
theorem sockops_isolation (distinct : Function.Injective cookie) (once : EstablishedOnce schedule)
    (moment : Occurrence (step cookie cfg) (.loaded sockets) schedule final) :
    (∀ s skops, moment.action = .callback s skops → skops.op = .activeEstablishedCb →
      ¬ moment.before.Matches skops → final.calls s = [] ∧ final.sockets s = sockets s) ∧
    (∀ s skops, moment.action = .callback s skops → moment.before.Lowers skops →
      moment.after.calls s =
          [.mss moment.before.gecitConfig.mss.toNat, .connEvent skops.connEvent,
            .cbFlags ((sockets s).cbFlags ||| writeHdrOptCbFlag)] ∧
        (moment.after.sockets s).maxseg = moment.before.gecitConfig.mss.toNat ∧
          final.events s = 1) ∧
    (∀ s, final.restorations s ≤ 1 ∧
      (moment.before.restorations s < moment.after.restorations s →
        ∃ skops, moment.action = .callback s skops ∧ s ∈ established moment.past ∧
          (moment.after.sockets s).maxseg = normalMss moment.before.gecitConfig ∧
            moment.before.gecitConfig.restoreAfterBytes.toNat <
              bytesCounted (moment.past ++ [moment.action]) s)) ∧
    (∀ s skops other, moment.action = .callback s skops → other ≠ s →
      moment.after.connections (cookie other) = moment.before.connections (cookie other)) := by
  refine ⟨?_, ?_, ?_, ?_⟩
  · intro s skops here opens noMatch
    have calm := untouched_of_not_matches distinct once moment here opens noMatch
    exact ⟨calm.calls, calm.sock⟩
  · intro s skops here lowering
    obtain ⟨after, noCalls, sameSock, events⟩ := lowered_once distinct once moment here lowering
    refine ⟨?_, ?_, events⟩
    · rw [after]
      show Function.update moment.before.calls s _ s = _
      rw [Function.update_self, noCalls, sameSock]
      rfl
    · rw [after]
      show (Function.update moment.before.sockets s _ s).maxseg = _
      rw [Function.update_self]
  · intro s
    have atEnd := consistent_run distinct moment.reached_final once
    refine ⟨(atEnd.lives s).restorations, ?_⟩
    intro restores
    have consistent := consistent_before distinct once moment
    exact restoration_step distinct consistent moment.stepped restores
  · intro s skops other here different
    have stepped := moment.stepped
    rw [here] at stepped
    rw [← Option.some.inj stepped]
    exact ((gecitSockops_effect s skops moment.before).others distinct different).2.2

/-! ### Two sockets -/

/-- Restore after 600 bytes on port 443. -/
def webConfig : Config := ⟨40, 0, 600, [443], []⟩

/-- A callback of a connection to 1.1.1.1; 443 is 0xbb010000 in network byte order. -/
def webCallback (op : SockOp) (remotePort skbLen : UInt32) : SockOps :=
  ⟨op, 0x01010101, 0x6701a8c0, remotePort, 51234, 1000, 77, skbLen⟩

def webOpens (remotePort : UInt32) : SockOps := webCallback .activeEstablishedCb remotePort 0

/-- Socket 7 goes to port 443 and sends 400 and 300 bytes, socket 9 goes to port 80. -/
def webSchedule : List (Action UInt64) :=
  [.pushConfig, .pushTargetPort 443, .callback 7 (webOpens 0xbb010000),
    .callback 9 (webOpens 0x50000000), .callback 7 (webCallback .writeHdrOptCb 0xbb010000 400),
    .callback 7 (webCallback .writeHdrOptCb 0xbb010000 300)]

/-- The kernel after the first `n` actions. -/
def webKernel (n : Nat) : Kernel UInt64 :=
  (run (step id webConfig) (.loaded fun _ => ⟨1460, 0⟩) (webSchedule.take n)).getD
    (.loaded fun _ => ⟨1460, 0⟩)

abbrev WebMoment :=
  Occurrence (step id webConfig) (.loaded fun _ => ⟨1460, 0⟩) webSchedule (webKernel 6)

def webLowers : WebMoment where
  past := webSchedule.take 2
  action := .callback 7 (webOpens 0xbb010000)
  rest := webSchedule.drop 3
  before := webKernel 2
  after := webKernel 3
  split := rfl
  reached := rfl
  stepped := rfl
  finished := rfl

def webIgnores : WebMoment where
  past := webSchedule.take 3
  action := .callback 9 (webOpens 0x50000000)
  rest := webSchedule.drop 4
  before := webKernel 3
  after := webKernel 4
  split := rfl
  reached := rfl
  stepped := rfl
  finished := rfl

def webRestores : WebMoment where
  past := webSchedule.take 5
  action := .callback 7 (webCallback .writeHdrOptCb 0xbb010000 300)
  rest := []
  before := webKernel 5
  after := webKernel 6
  split := rfl
  reached := rfl
  stepped := rfl
  finished := rfl

theorem sockops_isolation_two_sockets :
    (webKernel 6).events 7 = 1 ∧ (webKernel 6).calls 9 = [] ∧
      600 < bytesCounted (webRestores.past ++ [webRestores.action]) 7 := by
  have once : EstablishedOnce webSchedule := by decide
  have injective : Function.Injective (id : UInt64 → UInt64) := Function.injective_id
  refine ⟨?_, ?_, ?_⟩
  · have lowering : webLowers.before.Lowers (webOpens 0xbb010000) := by decide
    exact ((sockops_isolation injective once webLowers).2.1 7 _ rfl lowering).2.2
  · have noMatch : ¬ webIgnores.before.Matches (webOpens 0x50000000) := by decide
    exact ((sockops_isolation injective once webIgnores).1 9 _ rfl rfl noMatch).1
  · have restores : webRestores.before.restorations 7 < webRestores.after.restorations 7 := by decide
    obtain ⟨_, _, _, _, exceeds⟩ :=
      ((sockops_isolation injective once webRestores).2.2.1 7).2 restores
    exact exceeds

end Moment

end Gecit.Ebpf
