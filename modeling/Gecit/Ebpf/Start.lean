import Gecit.Foundation.Transition
import Gecit.Ebpf.Layout
import Gecit.Ebpf.Sockops

/-!
Contract: `Manager.Start`, step by step, among connections that are being established.

From the attachment on, the program runs on every established connection with whatever the
maps hold by then. The configuration goes in first, then the ports, then the excluded
addresses, one entry at a time; a step that fails stops the manager.

Owns the order of the pushes and the exact condition under which no excluded connection is
touched meanwhile. Does not own what the program does later to a connection.
-/

namespace Gecit.Ebpf

open Gecit.Foundation
open Gecit.Rawsock

inductive StartStep where
  | attachCgroup
  | pushConfig
  | pushTargetPort (port : UInt16)
  | pushExcludeIP (key : UInt32)
  /-- `m.Stop()` after a failed push. -/
  | stop
deriving DecidableEq, Repr

/-- The steps of `Start` in the order of the source. -/
def Config.startSteps (cfg : Config) : List StartStep :=
  .attachCgroup :: .pushConfig ::
    (cfg.Ports.map .pushTargetPort ++ cfg.excludeKeys.map .pushExcludeIP)

structure Startup (Socket : Type*) where
  kernel : Kernel Socket
  attached : Bool
  todo : List StartStep
  done : List StartStep
  established : List (Socket × Connection)

inductive StartAction (Socket : Type*) where
  /-- The next step of `Start` succeeds. -/
  | start
  /-- The next step of `Start` returns an error. -/
  | startFails
  | establish (s : Socket) (conn : Connection)

variable {Socket : Type*} [DecidableEq Socket]

def unstarted (cfg : Config) (sockets : Socket → Sock) : Startup Socket where
  kernel := .loaded sockets
  attached := false
  todo := cfg.startSteps
  done := []
  established := []

variable (cookie : Socket → UInt64) (cfg : Config)

namespace Startup

/-- What a step does to the maps; a full map takes no new key. -/
def push (kernel : Kernel Socket) : StartStep → Option (Kernel Socket)
  | .attachCgroup | .stop => some kernel
  | .pushConfig => some { kernel with gecitConfig := cfg.pushConfig }
  | .pushTargetPort port =>
      (updateKeys kernel.targetPorts port).map fun ports => { kernel with targetPorts := ports }
  | .pushExcludeIP key =>
      (updateKeys kernel.excludeIps key).map fun keys => { kernel with excludeIps := keys }

def attachedAfter (attached : Bool) : StartStep → Bool
  | .attachCgroup => true
  | .stop => false
  | .pushConfig | .pushTargetPort _ | .pushExcludeIP _ => attached

/-- The program runs on an established connection once it is attached. -/
def establish (state : Startup Socket) (s : Socket) (conn : Connection) : Startup Socket :=
  { state with
    kernel :=
      if state.attached then
        gecitSockops cookie s (conn.context .activeEstablishedCb 0) state.kernel
      else state.kernel
    established := (s, conn) :: state.established }

def step (state : Startup Socket) : StartAction Socket → Option (Startup Socket)
  | .start =>
      match state.todo with
      | [] => none
      | next :: rest =>
          (push cfg state.kernel next).map fun kernel =>
            { state with
              kernel := kernel
              attached := attachedAfter state.attached next
              todo := rest
              done := next :: state.done }
  | .startFails =>
      match state.todo with
      | [] | .stop :: _ => none
      -- Without a link there is nothing to stop.
      | .attachCgroup :: _ => some { state with todo := [] }
      | .pushConfig :: _ | .pushTargetPort _ :: _ | .pushExcludeIP _ :: _ =>
          some { state with todo := [.stop] }
  | .establish s conn =>
      if s ∉ state.established.map Prod.fst then some (state.establish cookie s conn) else none

end Startup

/-! ### Excluded connections -/

/-- The destination is an IPv4 address in `ExcludeIPs`. -/
def Config.Excludes (cfg : Config) : Connection → Prop
  | .ipv4 conn => ∃ ip ∈ cfg.ExcludeIPs, to4 ip = some conn.dst.val
  | .ipv6 _ _ _ => False

/-- Neither the small MSS nor an event. -/
def Untampered (calls : List Call) : Prop :=
  ∀ call ∈ calls, call.isMss = false ∧ call.isConnEvent = false

/-- No connection to an excluded address was touched. -/
def Startup.SparesExcluded (cfg : Config) (state : Startup Socket) : Prop :=
  ∀ s conn, (s, conn) ∈ state.established → cfg.Excludes conn → Untampered (state.kernel.calls s)

/-- An excluded connection that is established once its port is pushed finds its key pushed. -/
def Startup.InTime (cfg : Config) (state : Startup Socket) : StartAction Socket → Prop
  | .establish _ conn =>
      state.attached = true → cfg.Excludes conn → .pushConfig ∈ state.done →
        .pushTargetPort (conn.context .activeEstablishedCb 0).dstPort ∈ state.done →
          .pushExcludeIP (conn.context .activeEstablishedCb 0).remoteIp4 ∈ state.done
  | .start | .startFails => True

/-- What a run keeps true: the maps hold what was pushed, and only established sockets were
acted on. -/
structure Startup.Pushed (cfg : Config) (state : Startup Socket) : Prop where
  config : state.kernel.Enabled ↔ .pushConfig ∈ state.done
  ports : ∀ port, port ∈ state.kernel.targetPorts ↔ .pushTargetPort port ∈ state.done
  keys : ∀ key, key ∈ state.kernel.excludeIps ↔ .pushExcludeIP key ∈ state.done
  untouched : ∀ s, s ∉ state.established.map Prod.fst → state.kernel.calls s = []

variable {cookie cfg} {state after : Startup Socket} {sockets : Socket → Sock}

omit [DecidableEq Socket] in
/-- A push changes no log, and puts into the maps what it says. -/
theorem push_spec {kernel next : Kernel Socket} {startStep : StartStep} (done : List StartStep)
    (pushed : Startup.push cfg kernel startStep = some next) :
    next.calls = kernel.calls ∧
      ((kernel.Enabled ↔ .pushConfig ∈ done) → (next.Enabled ↔ .pushConfig ∈ startStep :: done)) ∧
      (∀ port, (port ∈ kernel.targetPorts ↔ .pushTargetPort port ∈ done) →
        (port ∈ next.targetPorts ↔ .pushTargetPort port ∈ startStep :: done)) ∧
      ∀ key, (key ∈ kernel.excludeIps ↔ .pushExcludeIP key ∈ done) →
        (key ∈ next.excludeIps ↔ .pushExcludeIP key ∈ startStep :: done) := by
  cases startStep with
  | attachCgroup | stop =>
      obtain rfl := Option.some.inj pushed
      simp
  | pushConfig =>
      obtain rfl := Option.some.inj pushed
      simp [Kernel.Enabled, Config.pushConfig]
  | pushTargetPort port =>
      obtain ⟨ports, updated, rfl⟩ := Option.map_eq_some_iff.mp pushed
      have members := mem_updateKeys updated
      refine ⟨rfl, by simp [Kernel.Enabled], ?_, by simp⟩
      intro other same
      rw [members, List.mem_cons, StartStep.pushTargetPort.injEq, same]
  | pushExcludeIP key =>
      obtain ⟨keys, updated, rfl⟩ := Option.map_eq_some_iff.mp pushed
      have members := mem_updateKeys updated
      refine ⟨rfl, by simp [Kernel.Enabled], by simp, ?_⟩
      intro other same
      rw [members, List.mem_cons, StartStep.pushExcludeIP.injEq, same]

/-! ### One establishment -/

variable {s : Socket} {conn : Connection}

omit [DecidableEq Socket] in
theorem lowers_iff (pushed : state.Pushed cfg) (conn : Connection) :
    state.kernel.Lowers (conn.context .activeEstablishedCb 0) ↔
      .pushConfig ∈ state.done ∧
        .pushExcludeIP (conn.context .activeEstablishedCb 0).remoteIp4 ∉ state.done ∧
          .pushTargetPort (conn.context .activeEstablishedCb 0).dstPort ∈ state.done := by
  rw [Kernel.Lowers, Kernel.Matches, pushed.config, pushed.ports, pushed.keys, op_context]
  simp only [true_and]

/-- The callback of an establishment, with any kernel. -/
theorem effect_establish (s : Socket) (conn : Connection) (kernel : Kernel Socket) :
    Effect cookie s (conn.context .activeEstablishedCb 0) kernel
      (gecitSockops cookie s (conn.context .activeEstablishedCb 0) kernel) :=
  @gecitSockops_effect _ _ cookie s (conn.context .activeEstablishedCb 0) kernel

/-- An establishment leaves the pushed maps and the other sockets alone. -/
theorem establish_frame :
    (state.establish cookie s conn).kernel.gecitConfig = state.kernel.gecitConfig ∧
      (state.establish cookie s conn).kernel.targetPorts = state.kernel.targetPorts ∧
        (state.establish cookie s conn).kernel.excludeIps = state.kernel.excludeIps ∧
          ∀ other, other ≠ s →
            (state.establish cookie s conn).kernel.calls other = state.kernel.calls other := by
  have effect := @effect_establish _ _ cookie s conn state.kernel
  rw [Startup.establish]
  dsimp only
  split
  · exact ⟨effect.config, effect.keys.1, effect.keys.2, fun _ => effect.calls_other⟩
  · exact ⟨rfl, rfl, rfl, fun _ _ => rfl⟩

/-- A new connection is touched exactly when the attached program lowers its MSS. -/
theorem untampered_establish (pushed : state.Pushed cfg)
    (fresh : s ∉ state.established.map Prod.fst) :
    Untampered ((state.establish cookie s conn).kernel.calls s) ↔
      ¬ (state.attached = true ∧ state.kernel.Lowers (conn.context .activeEstablishedCb 0)) := by
  have noCalls := pushed.untouched s fresh
  have untampered : Untampered (state.kernel.calls s) := by
    rw [noCalls]
    intro call missing
    contradiction
  rw [Startup.establish]
  dsimp only
  split
  next attached =>
    by_cases lowering : state.kernel.Lowers (conn.context .activeEstablishedCb 0)
    · rw [gecitSockops_lowers lowering]
      apply iff_of_false ?_ (not_not_intro ⟨attached, lowering⟩)
      intro spared
      have calls : (state.kernel.lowered (cookie s) s (conn.context .activeEstablishedCb 0)).calls s =
          state.kernel.calls s ++ _ := Function.update_self s _ _
      rw [calls, noCalls] at spared
      exact absurd (spared _ List.mem_cons_self).1 (by simp [Call.isMss])
    · apply iff_of_true ?_ fun both => lowering both.2
      have effect := @effect_establish _ _ cookie s conn state.kernel
      generalize gecitSockops cookie s (conn.context .activeEstablishedCb 0) state.kernel = next
        at effect
      cases effect with
      | idle | counts => exact untampered
      | lowers lowers => exact absurd lowers lowering
      | restores _ _ segment =>
          rw [op_context] at segment
          contradiction
  next detached => exact iff_of_true untampered fun both => detached both.1

/-! ### Runs -/

theorem Startup.Pushed.step {action : StartAction Socket} (pushed : state.Pushed cfg)
    (stepped : state.step cookie cfg action = some after) : after.Pushed cfg := by
  cases action with
  | start =>
      rw [Startup.step] at stepped
      split at stepped
      next => contradiction
      next next rest more =>
        obtain ⟨kernel, kernelPushed, rfl⟩ := Option.map_eq_some_iff.mp stepped
        obtain ⟨sameCalls, config, ports, keys⟩ := push_spec state.done kernelPushed
        refine ⟨config pushed.config, fun port => ports port (pushed.ports port),
          fun key => keys key (pushed.keys key), ?_⟩
        intro s fresh
        rw [sameCalls]
        exact pushed.untouched s fresh
  | startFails =>
      rw [Startup.step] at stepped
      split at stepped
      · contradiction
      · contradiction
      all_goals
        obtain rfl := Option.some.inj stepped
        exact ⟨pushed.config, pushed.ports, pushed.keys, pushed.untouched⟩
  | establish s conn =>
      obtain ⟨fresh, rfl⟩ := guarded_eq_some stepped
      obtain ⟨config, ports, keys, calls⟩ := @establish_frame _ _ cookie state s conn
      refine ⟨?_, ?_, ?_, ?_⟩
      · rw [Kernel.Enabled, config]
        exact pushed.config
      · rw [ports]
        exact pushed.ports
      · rw [keys]
        exact pushed.keys
      · intro other notThere
        rw [Startup.establish, List.map_cons, List.mem_cons, not_or] at notThere
        rw [calls other notThere.1]
        exact pushed.untouched other notThere.2

omit [DecidableEq Socket] in
theorem pushed_unstarted (cfg : Config) (sockets : Socket → Sock) :
    (unstarted cfg sockets).Pushed cfg where
  config := iff_of_false (not_not_intro rfl) List.not_mem_nil
  ports _ := iff_of_false List.not_mem_nil List.not_mem_nil
  keys _ := iff_of_false List.not_mem_nil List.not_mem_nil
  untouched _ _ := rfl

theorem sparesExcluded_establish (pushed : state.Pushed cfg) (spares : state.SparesExcluded cfg)
    (fresh : s ∉ state.established.map Prod.fst) :
    (state.establish cookie s conn).SparesExcluded cfg ↔ state.InTime cfg (.establish s conn) := by
  have own := @untampered_establish _ _ cookie cfg state s conn pushed fresh
  rw [lowers_iff pushed] at own
  constructor
  · intro sparesAfter attached excluded config port
    by_contra missing
    have untampered := sparesAfter s conn List.mem_cons_self excluded
    exact own.mp untampered ⟨attached, config, missing, port⟩
  · intro inTime other otherConn there excluded
    rcases List.mem_cons.mp there with same | earlier
    · obtain ⟨rfl, rfl⟩ := Prod.mk.injEq _ _ _ _ ▸ same
      apply own.mpr
      rintro ⟨attached, config, missing, port⟩
      exact missing (inTime attached excluded config port)
    · have different : other ≠ s := by
        rintro rfl
        exact fresh (List.mem_map_of_mem earlier)
      rw [establish_frame.2.2.2 other different]
      exact spares other otherConn earlier excluded

theorem sparesExcluded_step {action : StartAction Socket} (pushed : state.Pushed cfg)
    (spares : state.SparesExcluded cfg) (stepped : state.step cookie cfg action = some after) :
    after.SparesExcluded cfg ↔ state.InTime cfg action := by
  cases action with
  | start =>
      rw [Startup.step] at stepped
      split at stepped
      next => contradiction
      next next rest more =>
        obtain ⟨kernel, kernelPushed, rfl⟩ := Option.map_eq_some_iff.mp stepped
        apply iff_of_true ?_ trivial
        intro s conn there excluded
        rw [(push_spec state.done kernelPushed).1]
        exact spares s conn there excluded
  | startFails =>
      rw [Startup.step] at stepped
      split at stepped
      · contradiction
      · contradiction
      all_goals
        obtain rfl := Option.some.inj stepped
        exact iff_of_true spares trivial
  | establish s conn =>
      obtain ⟨fresh, rfl⟩ := guarded_eq_some stepped
      exact sparesExcluded_establish pushed spares fresh

/-- In every run of `Start` among establishing connections: no connection to an excluded
address is ever touched if and only if none is established between the push of its port and
the push of its own key. -/
theorem excluded_spared_iff (sockets : Socket → Sock) {schedule : List (StartAction Socket)}
    {final : Startup Socket}
    (reached : run (Startup.step cookie cfg) (unstarted cfg sockets) schedule = some final) :
    Always (Startup.step cookie cfg) (Startup.SparesExcluded cfg) (unstarted cfg sockets) schedule ↔
      Meets (Startup.step cookie cfg) (Startup.InTime cfg) (unstarted cfg sockets) schedule := by
  have exactly := @always_iff_meets _ _ (Startup.step cookie cfg) (Startup.Pushed cfg)
    (Startup.SparesExcluded cfg) (Startup.InTime cfg)
  apply exactly ?_ ?_ (pushed_unstarted cfg sockets) ?_ reached
  · intro state action after pushed stepped
    exact pushed.step stepped
  · intro state action after pushed spares stepped
    exact sparesExcluded_step pushed spares stepped
  · intro s conn missing
    exact absurd missing List.not_mem_nil

/-! ### A connection in the gap -/

instance (cfg : Config) : ∀ conn, Decidable (cfg.Excludes conn)
  | .ipv4 conn => inferInstanceAs (Decidable (∃ ip ∈ cfg.ExcludeIPs, to4 ip = some conn.dst.val))
  | .ipv6 _ _ _ => isFalse not_false

instance (cfg : Config) (state : Startup Socket) : ∀ action, Decidable (state.InTime cfg action)
  | .establish _ conn =>
      inferInstanceAs (Decidable (state.attached = true → cfg.Excludes conn →
        .pushConfig ∈ state.done →
          .pushTargetPort (conn.context .activeEstablishedCb 0).dstPort ∈ state.done →
            .pushExcludeIP (conn.context .activeEstablishedCb 0).remoteIp4 ∈ state.done))
  | .start | .startFails => isTrue trivial

/-- Port 443, with the DoH upstream 1.1.1.1 excluded. -/
def dohConfig : Config := ⟨40, 0, 600, [443], [[1, 1, 1, 1]]⟩

def dohConn : Connection :=
  .ipv4 ⟨⟨[192, 168, 1, 103], rfl⟩, ⟨[1, 1, 1, 1], rfl⟩, 51234, 443, 1000, 77⟩

def dohUnstarted : Startup UInt64 := unstarted dohConfig fun _ => ⟨1460, 0⟩

def startupEnd (schedule : List (StartAction UInt64)) : Startup UInt64 :=
  (run (Startup.step id dohConfig) dohUnstarted schedule).getD dohUnstarted

/-- The DoH connection is established after the whole of `Start`. -/
def dohAfterStart : List (StartAction UInt64) :=
  [.start, .start, .start, .start, .establish 7 dohConn]

/-- The DoH connection is established between the last two pushes. -/
def dohInGap : List (StartAction UInt64) := [.start, .start, .start, .establish 7 dohConn, .start]

theorem excluded_spared_after_start :
    Always (Startup.step id dohConfig) (Startup.SparesExcluded dohConfig) dohUnstarted
      dohAfterStart := by
  have reached : run (Startup.step id dohConfig) dohUnstarted dohAfterStart =
      some (startupEnd dohAfterStart) := rfl
  have inTime : Meets (Startup.step id dohConfig) (Startup.InTime dohConfig) dohUnstarted
      dohAfterStart := by
    decide +kernel
  exact (excluded_spared_iff (fun _ => ⟨1460, 0⟩) reached).mpr inTime

/-- All pushes succeed, and the excluded connection has the small MSS and an event. -/
theorem excluded_touched_in_gap : ∃ final,
    run (Startup.step id dohConfig) dohUnstarted dohInGap = some final ∧ final.todo = [] ∧
      dohConfig.Excludes dohConn ∧ (7, dohConn) ∈ final.established ∧
        (final.kernel.sockets 7).maxseg = 40 ∧ final.kernel.calls 7 =
          [.mss 40, .connEvent (dohConn.context .activeEstablishedCb 0).connEvent, .cbFlags 64] ∧
          ¬ final.SparesExcluded dohConfig := by
  have excluded : dohConfig.Excludes dohConn := by decide
  have there : ((7 : UInt64), dohConn) ∈ (startupEnd dohInGap).established := by decide +kernel
  have calls : (startupEnd dohInGap).kernel.calls 7 =
      [.mss 40, .connEvent (dohConn.context .activeEstablishedCb 0).connEvent, .cbFlags 64] := by
    decide +kernel
  refine ⟨startupEnd dohInGap, rfl, rfl, excluded, there, rfl, calls, ?_⟩
  intro spares
  have untampered := spares 7 dohConn there excluded
  rw [calls] at untampered
  exact absurd (untampered _ List.mem_cons_self).1 (by decide)

end Gecit.Ebpf
