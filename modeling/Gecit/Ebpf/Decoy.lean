import Mathlib.Data.List.Nodup
import Gecit.Ebpf.Race
import Gecit.Ebpf.Start

/-!
Contract: which connections get a decoy on Linux, and what a receiver makes of it.

Once `Start` has pushed its settings, connections are established, their events wait for the
reader, and fakes go out, in any order. A fake on the wire is then one that the settings ask for,
made for the connection it was sent for.

Owns where an event comes from in a whole run, and the link from the settings to the packet. Does
not own which of fake and data is first.
-/

namespace Gecit.Ebpf

open Gecit.Foundation
open Gecit.Net
open Gecit.Rawsock

/-- The next segment of the connection, with the fake hello. -/
def decoySegment (conn : IPv4Conn) : TCPSegment where
  srcPort := conn.srcPort
  dstPort := conn.dstPort
  seq := conn.sndNxt
  ack := conn.rcvNxt
  flags := 0x18
  payload := Fake.TLSClientHello

/-- It goes to the server, where it is taken as a segment of the connection. -/
def IsDecoy (fakeTTL : Int) (conn : IPv4Conn) (sent : Sent) : Prop :=
  sent.addr = conn.dst ∧
    ∃ ip, IPv4Delivery sent.pkt conn.src conn.dst fakeTTL (decoySegment conn) ip

/-- The settings ask for a decoy. -/
def Config.Targets (cfg : Config) (conn : IPv4Conn) : Prop :=
  conn.dstPort ∈ cfg.Ports ∧ ¬ cfg.Excludes (.ipv4 conn)

variable {Socket : Type*} [DecidableEq Socket]

/-- The event of the connection is in the ring or with the reader. -/
def Race.Waiting (state : Race Socket) (s : Socket) : Prop :=
  s ∈ state.ring.map Sample.socket ∨ s ∈ state.reading.toList.map Sample.socket

/-- The fakes of a run beside the settings and the connections of the run. -/
structure Race.Decoys (cfg : Config) (fakeTTL : Int) (schedule : List (RaceAction Socket))
    (final : Race Socket) : Prop where
  /-- A fake is for a connection whose event the ring took. -/
  origin : ∀ s ∈ faked final.wire, ∃ conn padding, .establish s conn padding true ∈ schedule
  /-- The settings ask for the fake of an IPv4 connection, and it is the decoy of this one. -/
  own : ∀ s conn padding room sent, .establish s (.ipv4 conn) padding room ∈ schedule →
    (s, .fake sent) ∈ final.wire → cfg.Targets conn ∧ IsDecoy fakeTTL conn sent
  once : (faked final.wire).Nodup
  /-- Whatever the settings ask for is sent or waits, if ring and `Sendto` take everything. -/
  every : ∀ s conn padding, .establish s (.ipv4 conn) padding true ∈ schedule →
    cfg.Targets conn → .injectFake false ∉ schedule → s ∈ faked final.wire ∨ final.Waiting s

/-! ### One decoy -/

theorem isDecoy_injectFake {conn : IPv4Conn} {evt : ConnEvent} (describes : Describes evt conn)
    {fakeTTL : Int} (nonNegative : 0 ≤ fakeTTL) (small : fakeTTL ≤ 255) :
    IsDecoy fakeTTL conn (injectFake fakeTTL evt) := by
  have segment : sentSegment evt.connInfo Fake.TLSClientHello = decoySegment conn := by
    rw [sentSegment, decoySegment, ← describes.srcPort, ← describes.dstPort, ← describes.seq,
      ← describes.ack]
    rfl
  obtain ⟨ip, delivered⟩ := @ipv4Delivery .linux (by decide) evt.connInfo _ _
    (to4_uint32ToIP evt.srcIp) (to4_uint32ToIP evt.dstIp) Fake.TLSClientHello (by decide) fakeTTL
    nonNegative small
  rw [describes.src, describes.dst, segment] at delivered
  exact ⟨(injectFake_addr fakeTTL evt).trans describes.dst, ip, delivered⟩

variable {cookie : Socket → UInt64} {fakeTTL : Int} {kernel : Kernel Socket} {s : Socket}

/-- A connection outputs its event exactly when the program lowers it. -/
theorem emitted_eq [DecidablePred kernel.Lowers] (conn : Connection) :
    emitted cookie kernel s conn =
      if kernel.Lowers (conn.context .activeEstablishedCb 0) then
        [(conn.context .activeEstablishedCb 0).connEvent]
      else [] := by
  rw [emitted]
  split
  next lowering =>
    have calls : (kernel.lowered (cookie s) s (conn.context .activeEstablishedCb 0)).calls s =
        kernel.calls s ++ _ := Function.update_self s _ _
    rw [gecitSockops_lowers lowering, calls, List.drop_left]
    rfl
  next spared =>
    have effect := @effect_establish _ _ cookie s conn kernel
    generalize gecitSockops cookie s (conn.context .activeEstablishedCb 0) kernel = next at effect
    cases effect with
    | idle =>
        have noneNew : (kernel.calls s).drop (kernel.calls s).length = [] := List.drop_length
        rw [noneNew]
        rfl
    | lowers lowering => exact absurd lowering spared
    | counts state enabled segment | restores state enabled segment =>
        rw [op_context] at segment
        contradiction

/-! ### The settings after `Start` -/

/-- How far `Start` is. -/
inductive Startup.Phase (cfg : Config) (state : Startup Socket) : Prop where
  | pushing (ordered : state.done.reverse ++ state.todo = cfg.startSteps)
      (attached : state.attached = true ↔ state.done ≠ [])
  | stopping (todo : state.todo = [.stop])
  | stopped (todo : state.todo = []) (detached : state.attached = false)

theorem stop_notMem_startSteps (cfg : Config) : .stop ∉ cfg.startSteps := by
  simp [Config.startSteps]

/-- The program is attached in the first step only. -/
theorem attachCgroup_split {cfg : Config} {before after : List StartStep}
    (split : before ++ .attachCgroup :: after = cfg.startSteps) : before = [] := by
  cases before with
  | nil => rfl
  | cons first others =>
      rw [List.cons_append] at split
      obtain ⟨-, rest⟩ := List.cons_eq_cons.mp split
      have later : StartStep.attachCgroup ∈ others ++ .attachCgroup :: after := by simp
      rw [rest] at later
      simp at later

variable {cfg : Config} {state after : Startup Socket}

theorem attachedAfter_first {cfg : Config} {startStep : StartStep} {rest : List StartStep}
    (first : startStep :: rest = cfg.startSteps) (attached : Bool) :
    Startup.attachedAfter attached startStep = true := by
  obtain ⟨rfl, -⟩ := List.cons_eq_cons.mp first
  rfl

omit [DecidableEq Socket] in
theorem Startup.Phase.start {startStep : StartStep} {rest : List StartStep}
    (phase : state.Phase cfg) (todo : state.todo = startStep :: rest) (kernel : Kernel Socket) :
    Startup.Phase cfg
      { state with
        kernel := kernel
        attached := attachedAfter state.attached startStep
        todo := rest
        done := startStep :: state.done } := by
  cases phase with
  | pushing ordered attached =>
      rw [todo] at ordered
      refine .pushing ?_ (iff_of_true ?_ (List.cons_ne_nil _ _))
      · rw [List.reverse_cons, List.append_assoc]
        exact ordered
      · cases done : state.done with
        | nil =>
            rw [done] at ordered
            exact attachedAfter_first ordered _
        | cons last others =>
            have isAttached := attached.mpr (by rw [done]; exact List.cons_ne_nil _ _)
            cases startStep with
            | attachCgroup => rfl
            | pushConfig | pushTargetPort | pushExcludeIP => exact isAttached
            | stop =>
                apply absurd _ (stop_notMem_startSteps cfg)
                rw [← ordered]
                exact List.mem_append_right _ List.mem_cons_self
  | stopping stops =>
      obtain ⟨rfl, rfl⟩ := List.cons_eq_cons.mp (todo.symm.trans stops)
      exact .stopped rfl rfl
  | stopped nothing =>
      rw [nothing] at todo
      contradiction

theorem Startup.Phase.step {action : StartAction Socket} (phase : state.Phase cfg)
    (stepped : state.step cookie cfg action = some after) : after.Phase cfg := by
  cases action with
  | start =>
      rw [Startup.step] at stepped
      split at stepped
      next => contradiction
      next startStep rest todo =>
        obtain ⟨kernel, _, rfl⟩ := Option.map_eq_some_iff.mp stepped
        exact phase.start todo kernel
  | startFails =>
      rw [Startup.step] at stepped
      split at stepped
      next => contradiction
      next => contradiction
      next rest todo =>
        obtain rfl := Option.some.inj stepped
        cases phase with
        | pushing ordered attached =>
            rw [todo] at ordered
            have nothing := List.reverse_eq_nil_iff.mp (attachCgroup_split ordered)
            refine .stopped rfl (Bool.eq_false_iff.mpr fun isAttached => ?_)
            exact attached.mp isAttached nothing
        | stopping stops => simp [todo] at stops
        | stopped nothing => simp [todo] at nothing
      all_goals
        obtain rfl := Option.some.inj stepped
        exact .stopping rfl
  | establish s conn =>
      obtain ⟨_, rfl⟩ := guarded_eq_some stepped
      cases phase with
      | pushing ordered attached => exact .pushing ordered attached
      | stopping stops => exact .stopping stops
      | stopped nothing detached => exact .stopped nothing detached

/-- `Start` has returned, and its link is there. -/
structure Startup.Ready (cookie : Socket → UInt64) (cfg : Config) (state : Startup Socket) :
    Prop where
  reached : ∃ sockets schedule,
    run (Startup.step cookie cfg) (unstarted cfg sockets) schedule = some state
  attached : state.attached = true
  todo : state.todo = []

/-- After a complete start the program lowers what the settings say. -/
theorem lowers_iff_targets (ready : state.Ready cookie cfg) (conn : IPv4Conn) :
    state.kernel.Lowers ((Connection.ipv4 conn).context .activeEstablishedCb 0) ↔
      cfg.Targets conn := by
  obtain ⟨⟨sockets, schedule, reached⟩, attached, todo⟩ := ready
  have pushed : state.Pushed cfg :=
    run_invariant (fun _ _ _ pushed stepped => pushed.step stepped) (pushed_unstarted cfg sockets)
      reached
  have phase : state.Phase cfg := by
    apply run_invariant (fun _ _ _ phase stepped => Startup.Phase.step phase stepped) _ reached
    exact .pushing rfl (iff_of_false Bool.false_ne_true (not_not_intro rfl))
  have done : state.done.reverse = cfg.startSteps := by
    cases phase with
    | pushing ordered => rwa [todo, List.append_nil] at ordered
    | stopping stops => simp [todo] at stops
    | stopped _ detached => simp [attached] at detached
  have mem : ∀ startStep, startStep ∈ state.done ↔ startStep ∈ cfg.startSteps := by
    intro startStep
    rw [← done, List.mem_reverse]
  have port : ((Connection.ipv4 conn).context .activeEstablishedCb 0).dstPort = conn.dstPort :=
    (describes_connEvent conn .activeEstablishedCb 0).dstPort
  have key : ((Connection.ipv4 conn).context .activeEstablishedCb 0).remoteIp4 ∈ cfg.excludeKeys ↔
      cfg.Excludes (.ipv4 conn) := mem_excludeKeys_iff cfg conn.dst
  rw [lowers_iff pushed, mem, mem, mem, port, Config.Targets, ← key]
  simp [Config.startSteps, and_comm]

/-! ### Where an event comes from -/

/-- The connection of the socket was established with room in the ring, and the program lowered
it; `evt` is its event. -/
def Traced (kernel : Kernel Socket) (past : List (RaceAction Socket)) (s : Socket)
    (evt : ConnEvent) : Prop :=
  ∃ conn padding, .establish s conn padding true ∈ past ∧
    kernel.Lowers (conn.context .activeEstablishedCb 0) ∧
      evt = (conn.context .activeEstablishedCb 0).connEvent

/-- What a run keeps: the maps, one connection a socket, and where the events are from. -/
structure Race.History (kernel : Kernel Socket) (fakeTTL : Int) (past : List (RaceAction Socket))
    (state : Race Socket) : Prop where
  accounted : state.Accounted
  config : state.kernel.gecitConfig = kernel.gecitConfig
  targetPorts : state.kernel.targetPorts = kernel.targetPorts
  excludeIps : state.kernel.excludeIps = kernel.excludeIps
  established : ∀ s conn padding room, .establish s conn padding room ∈ past →
    s ∈ state.established
  unique : ∀ s conn other padding more room space, .establish s conn padding room ∈ past →
    .establish s other more space ∈ past → conn = other
  targets : ∀ s conn padding, .establish s conn padding true ∈ past →
    kernel.Lowers (conn.context .activeEstablishedCb 0) → s ∈ state.targets ∧ s ∉ state.lost
  samples : ∀ sample, sample ∈ state.ring ∨ state.reading = some sample →
    ∃ evt padding, sample.rawSample = evt.sample padding ∧ Traced kernel past sample.socket evt
  fakes : ∀ s sent, (s, .fake sent) ∈ state.wire →
    ∃ evt, sent = injectFake fakeTTL evt ∧ Traced kernel past s evt
  failed : .injectFake false ∉ past → state.failed = []

namespace Race

variable {past : List (RaceAction Socket)} {conn : Connection} {padding : Bytes} {room : Bool}
  {evt : ConnEvent} {action : RaceAction Socket} {race next : Race Socket}

omit [DecidableEq Socket] in
theorem traced_later (traced : Traced kernel past s evt) (action : RaceAction Socket) :
    Traced kernel (past ++ [action]) s evt := by
  obtain ⟨conn, padding, there, lowering, same⟩ := traced
  exact ⟨conn, padding, List.mem_append_left _ there, lowering, same⟩

theorem History.lowers_iff (history : race.History kernel fakeTTL past) (skops : SockOps) :
    race.kernel.Lowers skops ↔ kernel.Lowers skops := by
  rw [Kernel.Lowers, Kernel.Lowers, Kernel.Enabled, Kernel.Enabled, Kernel.Matches, Kernel.Matches,
    history.config, history.targetPorts, history.excludeIps]

/-- The three ways an establishment can go. -/
theorem establish_cases (race : Race Socket) (s : Socket) (conn : Connection) (padding : Bytes)
    (room : Bool) :
    let after :=
      { race with
        kernel := gecitSockops cookie s (conn.context .activeEstablishedCb 0) race.kernel
        established := s :: race.established }
    let skops := conn.context .activeEstablishedCb 0
    ¬ race.kernel.Lowers skops ∧ race.establish cookie s conn padding room = after ∨
      race.kernel.Lowers skops ∧ room = true ∧ race.establish cookie s conn padding room =
        { after with
          targets := s :: race.targets
          ring := race.ring ++ [⟨s, skops.connEvent.sample padding⟩] } ∨
      race.kernel.Lowers skops ∧ room = false ∧ race.establish cookie s conn padding room =
        { after with targets := s :: race.targets, lost := s :: race.lost } := by
  have events := @emitted_eq _ _ cookie race.kernel s _ conn
  intro after skops
  rw [Race.establish]
  dsimp only
  split at events
  next lowering =>
    rw [events]
    cases room with
    | true => exact .inr (.inl ⟨lowering, rfl, rfl⟩)
    | false => exact .inr (.inr ⟨lowering, rfl, rfl⟩)
  next spared =>
    rw [events]
    exact .inl ⟨spared, rfl⟩

/-- An action that establishes nothing leaves the connections and the maps alone. -/
theorem History.keep (history : race.History kernel fakeTTL past)
    (establishes : ∀ s conn padding room, action ≠ .establish s conn padding room)
    (accounted : next.Accounted) (sameKernel : next.kernel = race.kernel)
    (sameEstablished : next.established = race.established)
    (sameTargets : next.targets = race.targets) (sameLost : next.lost = race.lost)
    (samples : ∀ sample, sample ∈ next.ring ∨ next.reading = some sample →
      sample ∈ race.ring ∨ race.reading = some sample)
    (fakes : ∀ s sent, (s, .fake sent) ∈ next.wire → (s, .fake sent) ∈ race.wire ∨
      ∃ evt, sent = injectFake fakeTTL evt ∧ Traced kernel past s evt)
    (failed : .injectFake false ∉ past ++ [action] → next.failed = race.failed) :
    next.History kernel fakeTTL (past ++ [action]) := by
  have earlier : ∀ s conn padding room, .establish s conn padding room ∈ past ++ [action] →
      .establish s conn padding room ∈ past := by
    intro s conn padding room there
    rcases List.mem_append.mp there with before | last
    · exact before
    · exact absurd (List.mem_singleton.mp last).symm (establishes s conn padding room)
  refine ⟨accounted, ?_, ?_, ?_, ?_, ?_, ?_, ?_, ?_, ?_⟩
  · rw [sameKernel]
    exact history.config
  · rw [sameKernel]
    exact history.targetPorts
  · rw [sameKernel]
    exact history.excludeIps
  · intro s conn padding room there
    rw [sameEstablished]
    exact history.established s conn padding room (earlier s conn padding room there)
  · intro s conn other padding more room space there again
    exact history.unique s conn other padding more room space (earlier s conn padding room there)
      (earlier s other more space again)
  · intro s conn padding there lowering
    rw [sameTargets, sameLost]
    exact history.targets s conn padding (earlier s conn padding true there) lowering
  · intro sample there
    obtain ⟨evt, padding, same, traced⟩ := history.samples sample (samples sample there)
    exact ⟨evt, padding, same, traced_later traced action⟩
  · intro s sent there
    rcases fakes s sent there with before | ⟨evt, same, traced⟩
    · obtain ⟨evt, same, traced⟩ := history.fakes s sent before
      exact ⟨evt, same, traced_later traced action⟩
    · exact ⟨evt, same, traced_later traced action⟩
  · intro allSend
    rw [failed allSend]
    exact history.failed fun there => allSend (List.mem_append_left _ there)

/-- An establishment adds a connection, and its event where the program lowers it. -/
theorem History.establish (history : race.History kernel fakeTTL past)
    (fresh : s ∉ race.established) (conn : Connection) (padding : Bytes) (room : Bool) :
    (race.establish cookie s conn padding room).History kernel fakeTTL
      (past ++ [.establish s conn padding room]) := by
  have accounted := @accounted_establish _ _ cookie race s history.accounted fresh conn padding room
  have effect := @effect_establish _ _ cookie s conn race.kernel
  have notEarlier : ∀ other more space, .establish s other more space ∉ past :=
    fun other more space there => fresh (history.established s other more space there)
  have notTarget : s ∉ race.targets := fun target => fresh (history.accounted.targets s target)
  have newOrEarlier : ∀ any other more space,
      RaceAction.establish any other more space ∈ past ++ [.establish s conn padding room] →
        .establish any other more space ∈ past ∨
          any = s ∧ other = conn ∧ more = padding ∧ space = room := by
    intro any other more space there
    rcases List.mem_append.mp there with before | last
    · exact .inl before
    · exact .inr (by simpa using last)
  have unique : ∀ any first second padding₁ padding₂ room₁ room₂,
      RaceAction.establish any first padding₁ room₁ ∈ past ++ [.establish s conn padding room] →
        .establish any second padding₂ room₂ ∈ past ++ [.establish s conn padding room] →
          first = second := by
    intro any first second padding₁ padding₂ room₁ room₂ there again
    rcases newOrEarlier _ _ _ _ there with before | ⟨rfl, rfl, -, -⟩
    · rcases newOrEarlier _ _ _ _ again with also | ⟨rfl, rfl, -, -⟩
      · exact history.unique any first second padding₁ padding₂ room₁ room₂ before also
      · exact absurd before (notEarlier first padding₁ room₁)
    · rcases newOrEarlier _ _ _ _ again with also | ⟨-, rfl, -, -⟩
      · exact absurd also (notEarlier second padding₂ room₂)
      · rfl
  have fakes : ∀ any sent, (any, .fake sent) ∈ race.wire → ∃ evt, sent = injectFake fakeTTL evt ∧
      Traced kernel (past ++ [.establish s conn padding room]) any evt := by
    intro any sent there
    obtain ⟨evt, same, traced⟩ := history.fakes any sent there
    exact ⟨evt, same, traced_later traced _⟩
  have samples : ∀ sample, sample ∈ race.ring ∨ race.reading = some sample →
      ∃ evt more, sample.rawSample = evt.sample more ∧
        Traced kernel (past ++ [.establish s conn padding room]) sample.socket evt := by
    intro sample there
    obtain ⟨evt, more, same, traced⟩ := history.samples sample there
    exact ⟨evt, more, same, traced_later traced _⟩
  have established : ∀ any other more space,
      RaceAction.establish any other more space ∈ past ++ [.establish s conn padding room] →
        any ∈ s :: race.established := by
    intro any other more space there
    rcases newOrEarlier _ _ _ _ there with before | ⟨rfl, -, -, -⟩
    · exact List.mem_cons_of_mem _ (history.established any other more space before)
    · exact List.mem_cons_self
  have notLost : s ∉ race.lost := by
    have nowhere := history.accounted.nowhere s notTarget
    rw [Race.places] at nowhere
    rw [← List.count_eq_zero]
    omega
  have failed : .injectFake false ∉ past ++ [.establish s conn padding room] → race.failed = [] :=
    fun allSend => history.failed fun there => allSend (List.mem_append_left _ there)
  rcases @establish_cases _ _ cookie race s conn padding room with
    ⟨spared, same⟩ | ⟨lowering, rfl, same⟩ | ⟨lowering, rfl, same⟩
  · rw [same] at accounted ⊢
    refine ⟨accounted, effect.config.trans history.config, effect.keys.1.trans history.targetPorts,
      effect.keys.2.trans history.excludeIps, established, unique, ?_, samples, fakes, failed⟩
    intro any other more there lowers
    rcases newOrEarlier _ _ _ _ there with before | ⟨-, rfl, -, -⟩
    · exact history.targets any other more before lowers
    · exact absurd ((history.lowers_iff _).mpr lowers) spared
  · rw [same] at accounted ⊢
    refine ⟨accounted, effect.config.trans history.config, effect.keys.1.trans history.targetPorts,
      effect.keys.2.trans history.excludeIps, established, unique, ?_, ?_, fakes, failed⟩
    · intro any other more there lowers
      rcases newOrEarlier _ _ _ _ there with before | ⟨rfl, -, -, -⟩
      · obtain ⟨target, kept⟩ := history.targets any other more before lowers
        exact ⟨List.mem_cons_of_mem _ target, kept⟩
      · exact ⟨List.mem_cons_self, notLost⟩
    · rintro sample (inRing | isRead)
      · rcases List.mem_append.mp inRing with before | last
        · exact samples sample (.inl before)
        · obtain rfl := List.mem_singleton.mp last
          exact ⟨_, padding, rfl, conn, padding, List.mem_append_right _ List.mem_cons_self,
            (history.lowers_iff _).mp lowering, rfl⟩
      · exact samples sample (.inr isRead)
  · rw [same] at accounted ⊢
    refine ⟨accounted, effect.config.trans history.config, effect.keys.1.trans history.targetPorts,
      effect.keys.2.trans history.excludeIps, established, unique, ?_, samples, fakes, failed⟩
    intro any other more there lowers
    rcases newOrEarlier _ _ _ _ there with before | ⟨-, -, -, full⟩
    · obtain ⟨target, kept⟩ := history.targets any other more before lowers
      refine ⟨List.mem_cons_of_mem _ target, ?_⟩
      intro there
      rcases List.mem_cons.mp there with rfl | there
      · exact notTarget target
      · exact kept there
    · contradiction

/-- The rest of a round of the reader: its sample is whole. -/
theorem History.finish (history : race.History kernel fakeTTL past) {sample : Sample Socket}
    (reading : race.reading = some sample) (sends : Bool) :
    (race.finish fakeTTL sample sends).History kernel fakeTTL (past ++ [.injectFake sends]) := by
  have accounted := @accounted_finish _ _ fakeTTL race history.accounted sample reading
    (known_reading history.accounted reading) sends
  obtain ⟨evt, padding, same, traced⟩ := history.samples sample (.inr reading)
  have read : readEvents sample.rawSample = some evt := by
    rw [same, readEvents_sample]
  have others : ∀ other : Sample Socket, other ∈ race.ring ∨ none = some other →
      other ∈ race.ring ∨ race.reading = some other := by
    rintro other (inRing | missing)
    · exact .inl inRing
    · contradiction
  have establishes : ∀ (s : Socket) conn padding room,
      RaceAction.injectFake sends ≠ .establish s conn padding room := by
    intro s conn padding room
    simp
  rw [Race.finish, read] at accounted ⊢
  dsimp only at accounted ⊢
  cases sends with
  | true =>
      refine history.keep establishes accounted rfl rfl rfl rfl others ?_ fun _ => rfl
      intro s sent there
      rcases List.mem_append.mp there with before | last
      · exact .inl before
      · obtain ⟨rfl, rfl⟩ : s = sample.socket ∧ sent = injectFake fakeTTL evt := by
          simpa using last
        exact .inr ⟨evt, rfl, traced⟩
  | false =>
      refine history.keep establishes accounted rfl rfl rfl rfl others (fun _ _ => .inl) ?_
      intro allSend
      exact absurd (List.mem_append_right _ List.mem_cons_self) allSend

theorem History.step (history : race.History kernel fakeTTL past)
    (stepped : race.step cookie fakeTTL action = some next) :
    next.History kernel fakeTTL (past ++ [action]) := by
  have accounted := history.accounted.step stepped
  cases action with
  | establish s conn padding room =>
      obtain ⟨fresh, rfl⟩ := guarded_eq_some stepped
      exact history.establish fresh conn padding room
  | read sample =>
      obtain ⟨⟨_, there⟩, rfl⟩ := guarded_eq_some stepped
      refine history.keep (by simp) accounted rfl rfl rfl rfl ?_ (fun _ _ => .inl) fun _ => rfl
      rintro other (inRing | isRead)
      · exact .inl (List.mem_of_mem_erase inRing)
      · obtain rfl := Option.some.inj isRead
        exact .inl there
  | injectFake sends =>
      obtain ⟨sample, reading, rfl⟩ := Option.map_eq_some_iff.mp stepped
      exact history.finish reading sends
  | write s bytes =>
      obtain ⟨_, rfl⟩ := guarded_eq_some stepped
      refine history.keep (by simp) accounted rfl rfl rfl rfl (fun _ => id) ?_ fun _ => rfl
      intro any sent there
      rcases List.mem_append.mp there with before | last
      · exact .inl before
      · simp at last

theorem history_of_run {schedule : List (RaceAction Socket)} {final : Race Socket}
    (reached : run (Race.step cookie fakeTTL) (unraced kernel) schedule = some final) :
    final.History kernel fakeTTL schedule := by
  have carried := @run_history _ _ (Race.step cookie fakeTTL) (unraced kernel)
    (fun past race => race.History kernel fakeTTL past) (fun _ _ => True)
  apply carried ?_ ?_ reached fun _ _ _ _ => trivial
  · exact ⟨accounted_unraced kernel, rfl, rfl, rfl, by simp, by simp, by simp, by simp [unraced],
      by simp [unraced], fun _ => rfl⟩
  · intro past action race next history stepped _
    exact history.step stepped

end Race

/-! ### The decoys of a run -/

omit [DecidableEq Socket] in
theorem exists_fake_of_faked {wire : List (Socket × Payload)} (there : s ∈ faked wire) :
    ∃ sent, (s, .fake sent) ∈ wire := by
  obtain ⟨⟨_, payload⟩, kept, rfl⟩ := List.mem_map.mp there
  obtain ⟨inWire, isFake⟩ := List.mem_filter.mp kept
  cases payload with
  | fake sent => exact ⟨sent, inWire⟩
  | data => contradiction

/-- After a complete start, in every interleaving: the fakes on the wire are, one a connection,
the decoys that the settings ask for, and none is missing that is not still waiting. -/
theorem decoys_follow_settings {cfg : Config} {ready : Startup Socket}
    (isReady : ready.Ready cookie cfg) {schedule : List (RaceAction Socket)} {final : Race Socket}
    (reached : run (Race.step cookie fakeTTL) (unraced ready.kernel) schedule = some final)
    (nonNegative : 0 ≤ fakeTTL) (small : fakeTTL ≤ 255) :
    final.Decoys cfg fakeTTL schedule := by
  have history := Race.history_of_run reached
  refine ⟨?_, ?_, ?_, ?_⟩
  · intro s there
    obtain ⟨sent, inWire⟩ := exists_fake_of_faked there
    obtain ⟨evt, -, conn, padding, established, -, -⟩ := history.fakes s sent inWire
    exact ⟨conn, padding, established⟩
  · intro s conn padding room sent established inWire
    obtain ⟨evt, rfl, other, more, alsoEstablished, lowering, rfl⟩ := history.fakes s sent inWire
    obtain rfl := history.unique s other _ more padding true room alsoEstablished established
    exact ⟨(lowers_iff_targets isReady conn).mp lowering,
      isDecoy_injectFake (describes_connEvent conn .activeEstablishedCb 0) nonNegative small⟩
  · rw [List.nodup_iff_count_le_one]
    intro s
    by_cases target : s ∈ final.targets
    · have placed := history.accounted.placed s target
      rw [Race.places] at placed
      omega
    · have nowhere := history.accounted.nowhere s target
      rw [Race.places] at nowhere
      omega
  · intro s conn padding established targeted allSend
    have lowering := (lowers_iff_targets isReady conn).mpr targeted
    obtain ⟨target, notLost⟩ := history.targets s _ padding established lowering
    have placed := history.accounted.placed s target
    rw [Race.places, history.failed allSend, List.count_nil, List.count_eq_zero.mpr notLost]
      at placed
    rw [Race.Waiting, ← List.count_pos_iff, ← List.count_pos_iff, ← List.count_pos_iff]
    omega

/-- A web server gets its decoy; the resolver in `ExcludeIPs` gets none. -/
theorem decoys_follow_settings_web : ∃ final,
    run (Race.step id 8) (unraced (startupEnd [.start, .start, .start, .start]).kernel)
        (.establish 9 dohConn [] true :: webReaderFirst) = some final ∧
      final.Decoys dohConfig 8 (.establish 9 dohConn [] true :: webReaderFirst) := by
  refine ⟨_, rfl, ?_⟩
  have isReady : (startupEnd [.start, .start, .start, .start]).Ready id dohConfig :=
    ⟨⟨fun _ => ⟨1460, 0⟩, [.start, .start, .start, .start], rfl⟩, rfl, rfl⟩
  exact decoys_follow_settings isReady rfl (by decide) (by decide)

end Gecit.Ebpf
