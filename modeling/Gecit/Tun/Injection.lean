import Gecit.Tun.Stop

/-!
Contract: the connections of the macOS engine beside the one tracker that they share.

Each connection has a handler of its own. It asks the tracker for its numbers by the local port
of its dialled connection, in a loop, while SYN-ACKs of any connection are captured. Then it calls
`SendFake`. Handlers, network and capture take their steps in any order.

Owns the steps of the proxy, its projection to the tracker, and what every call of `SendFake` is
made with. Does not own the packet.
-/

namespace Gecit.Tun

open Gecit.Foundation
open Gecit.Go
open Gecit.Net
open Gecit.Rawsock
open Gecit.Seqtrack (ConnId SeqAck SeqTracker)

/-- A call of `SendFake`, and what its connection had been sent before. -/
structure FakeCall where
  c : ConnId
  connInfo : ConnInfo
  ttl : Int
  written : Bytes
deriving DecidableEq

structure Proxy where
  tracker : Seqtrack.State
  handlers : ConnId → Option Handler
  fakes : List FakeCall

inductive ProxyAction where
  /-- A connection of the application is accepted, and its server is dialled. -/
  | dial (c : ConnId) (conn : Seqtrack.Conn) (dst : GoString)
  | synAck (c : ConnId) (frame : Frame)
  | deliver (c : ConnId) (frame : Frame)
  /-- `GetSeqAck` up to its polling loop. -/
  | getSeqAck (c : ConnId)
  | poll (c : ConnId) (localPort : UInt16)
  | timeout (c : ConnId) (localPort : UInt16)
  /-- A statement of the handler that does not involve the tracker. -/
  | handler (c : ConnId) (action : HandlerAction)
  | close (c : ConnId)

namespace HandlerAction

def involvesTracker : HandlerAction → Bool
  | .getSeqAck | .waitForSeqAck | .seqAck _ => true
  | .dialServer _ | .appRead _ | .sendFake _ | .serverWrite => false

end HandlerAction

/-- What `SendFake` is called with at this stage. -/
def fakeCalls (c : ConnId) (handler : Handler) : List FakeCall :=
  match handler.stage with
  | .sendFake _ connInfo ttl _ => [⟨c, connInfo, ttl, handler.written⟩]
  | _ => []

namespace Proxy

def initial : Proxy where
  tracker := Seqtrack.initial
  handlers := fun _ => none
  fakes := []

def put (proxy : Proxy) (tracker : Seqtrack.State) (c : ConnId) (handler : Handler) : Proxy :=
  { proxy with tracker := tracker, handlers := Function.update proxy.handlers c (some handler) }

section Steps

variable (settings : Settings) (tracker : SeqTracker) (proxy : Proxy)

/-- The statements of `GetSeqAck` in front of the loop: one test, then the call. -/
def askStatements : List HandlerAction :=
  if tracker.isSome then [.getSeqAck, .waitForSeqAck] else [.getSeqAck]

/-- A turn of the loop, or its end: with numbers the handler goes on. -/
def answered (after : Seqtrack.State) (c : ConnId) (numbers : Option SeqAck) : Option Proxy :=
  match numbers with
  | none => some { proxy with tracker := after }
  | some numbers =>
      (proxy.handlers c).bind fun handler =>
        (handler.step settings tracker.isSome (.seqAck numbers)).map (proxy.put after c)

/-- The numbers of an event in the table. -/
def found (localPort : UInt16) : Option SeqAck :=
  (proxy.tracker.conns localPort).map fun evt => (evt.Seq, evt.Ack, evt.HopLimit)

def step (proxy : Proxy) : ProxyAction → Option Proxy
  | .dial c conn dst =>
      -- The dialer gives a `*net.TCPConn`, to the port that the application asked for.
      if conn.isTCPConn then
        (Seqtrack.step tracker proxy.tracker (.dial c conn)).map fun after =>
          proxy.put after c (Handler.newConnectionEx conn.toEndpoints conn.remotePort dst)
      else none
  | .synAck c frame =>
      (Seqtrack.step tracker proxy.tracker (.synAck c frame)).map fun after =>
        { proxy with tracker := after }
  | .deliver c frame =>
      (Seqtrack.step tracker proxy.tracker (.deliver c frame)).map fun after =>
        { proxy with tracker := after }
  | .getSeqAck c =>
      (proxy.handlers c).bind fun handler =>
        (run (Handler.step settings tracker.isSome) handler (askStatements tracker)).bind fun next =>
          (Seqtrack.step tracker proxy.tracker (.getSeqAck c)).map fun after => proxy.put after c next
  | .poll c localPort =>
      (Seqtrack.step tracker proxy.tracker (.poll c localPort)).bind fun after =>
        proxy.answered settings tracker after c (proxy.found localPort)
  | .timeout c localPort =>
      (Seqtrack.step tracker proxy.tracker (.timeout c localPort)).bind fun after =>
        proxy.answered settings tracker after c (some Seqtrack.placeholder)
  | .handler c action =>
      if action.involvesTracker then none
      else
        (proxy.handlers c).bind fun handler =>
          (handler.step settings tracker.isSome action).map fun next =>
            { proxy with
              handlers := Function.update proxy.handlers c (some next)
              fakes := proxy.fakes ++ if action.isSendFake then fakeCalls c handler else [] }
  | .close c =>
      if (proxy.handlers c).any fun handler => handler.stage = .returned then
        (Seqtrack.step tracker proxy.tracker (.close c)).map fun after =>
          { proxy with tracker := after }
      else none

end Steps

/-- What the tracker sees of an action. -/
def trackerAction : ProxyAction → Option Seqtrack.Action
  | .dial c conn _ => some (.dial c conn)
  | .synAck c frame => some (.synAck c frame)
  | .deliver c frame => some (.deliver c frame)
  | .getSeqAck c => some (.getSeqAck c)
  | .poll c localPort => some (.poll c localPort)
  | .timeout c localPort => some (.timeout c localPort)
  | .handler _ _ => none
  | .close c => some (.close c)

def trackerActions (schedule : List ProxyAction) : List Seqtrack.Action :=
  schedule.filterMap trackerAction

variable {settings : Settings} {tracker : SeqTracker} {proxy next : Proxy}

/-! ### The tracker's part -/

theorem answered_tracker {after : Seqtrack.State} {c : ConnId} {numbers : Option SeqAck}
    (went : proxy.answered settings tracker after c numbers = some next) : next.tracker = after := by
  cases numbers with
  | none =>
      obtain rfl := Option.some.inj went
      rfl
  | some numbers =>
      obtain ⟨handler, _, went⟩ := Option.bind_eq_some_iff.mp went
      obtain ⟨_, _, rfl⟩ := Option.map_eq_some_iff.mp went
      rfl

/-- The tracker takes its own step, or none. -/
theorem step_tracker {action : ProxyAction} (stepped : step settings tracker proxy action = some next) :
    match trackerAction action with
    | some seen => Seqtrack.step tracker proxy.tracker seen = some next.tracker
    | none => next.tracker = proxy.tracker := by
  cases action with
  | dial c conn dst =>
      obtain ⟨_, stepped⟩ := Option.ite_none_right_eq_some.mp stepped
      obtain ⟨after, moved, rfl⟩ := Option.map_eq_some_iff.mp stepped
      exact moved
  | synAck c frame =>
      obtain ⟨after, moved, rfl⟩ := Option.map_eq_some_iff.mp stepped
      exact moved
  | deliver c frame =>
      obtain ⟨after, moved, rfl⟩ := Option.map_eq_some_iff.mp stepped
      exact moved
  | getSeqAck c =>
      obtain ⟨handler, _, stepped⟩ := Option.bind_eq_some_iff.mp stepped
      obtain ⟨asked, _, stepped⟩ := Option.bind_eq_some_iff.mp stepped
      obtain ⟨after, moved, rfl⟩ := Option.map_eq_some_iff.mp stepped
      exact moved
  | poll c localPort =>
      obtain ⟨after, moved, went⟩ := Option.bind_eq_some_iff.mp stepped
      rw [answered_tracker went]
      exact moved
  | timeout c localPort =>
      obtain ⟨after, moved, went⟩ := Option.bind_eq_some_iff.mp stepped
      rw [answered_tracker went]
      exact moved
  | handler c action =>
      obtain ⟨_, stepped⟩ := Option.ite_none_left_eq_some.mp stepped
      obtain ⟨handler, _, stepped⟩ := Option.bind_eq_some_iff.mp stepped
      obtain ⟨_, _, rfl⟩ := Option.map_eq_some_iff.mp stepped
      rfl
  | close c =>
      obtain ⟨_, stepped⟩ := Option.ite_none_right_eq_some.mp stepped
      obtain ⟨after, moved, rfl⟩ := Option.map_eq_some_iff.mp stepped
      exact moved

/-- A run of the proxy is a run of the tracker. -/
theorem run_tracker {schedule : List ProxyAction}
    (reached : run (step settings tracker) initial schedule = some next) :
    run (Seqtrack.step tracker) Seqtrack.initial (trackerActions schedule) = some next.tracker := by
  induction schedule using List.reverseRecOn generalizing next with
  | nil =>
      obtain rfl := Option.some.inj reached
      rfl
  | append_singleton past action inductionHypothesis =>
      obtain ⟨middle, before, stepped⟩ := run_concat_eq_some reached
      have pastRun := inductionHypothesis before
      have moved := step_tracker stepped
      unfold trackerActions at pastRun ⊢
      rw [List.filterMap_append, List.filterMap_cons, List.filterMap_nil]
      cases seen : trackerAction action with
      | none =>
          rw [seen] at moved
          dsimp only at moved ⊢
          rw [List.append_nil, pastRun, moved]
      | some trackerAction =>
          rw [seen] at moved
          rw [run_concat, pastRun]
          exact moved

/-! ### Handlers and tracker in step -/

/-- The connection record that the handler builds from its numbers. -/
def connInfoOf (serverConn : Seqtrack.Endpoints) : SeqAck → ConnInfo
  | (seq, ack, hopLimit) =>
      { SrcIP := serverConn.localIP
        DstIP := serverConn.remoteIP
        SrcPort := serverConn.localPort
        DstPort := serverConn.remotePort
        Seq := seq
        Ack := ack
        HopLimit := hopLimit }

/-- The call is made for a dialled connection, with numbers that were returned for it, and before
anything was written to its server. -/
structure Justified (settings : Settings) (state : Seqtrack.State) (fake : FakeCall) : Prop where
  numbers : ∃ conn numbers, state.dialled.lookup fake.c = some conn ∧
    (fake.c, numbers) ∈ state.returned ∧ fake.connInfo = connInfoOf conn.toEndpoints numbers ∧
      fake.ttl = fakeTTL settings.FakeTTL numbers.2.2
  first : fake.written = []

/-- How often `SendFake` was called for the connection. -/
def fakesOf (fakes : List FakeCall) (c : ConnId) : Nat := fakes.countP fun fake => fake.c = c

/-- What a handler has sent when it is at this stage. -/
def InStep (settings : Settings) (state : Seqtrack.State) (count : Nat) (c : ConnId)
    (handler : Handler) : Prop :=
  match handler.stage with
  | .dialServer | .readHello | .getSeqAck _ | .waitForSeqAck _ | .waiting _ =>
      handler.written = [] ∧ count = 0
  | .sendFake _ connInfo ttl i =>
      Justified settings state ⟨c, connInfo, ttl, handler.written⟩ ∧ count = i ∧ i < 3
  | .writeHello _ | .pipeRead | .pipeWrite _ _ | .returned | .panicked => count ≤ 3

structure Coupled (settings : Settings) (proxy : Proxy) : Prop where
  dialled : ∀ c handler, proxy.handlers c = some handler → ∃ conn,
    proxy.tracker.dialled.lookup c = some conn ∧ conn.isTCPConn = true ∧
      handler.serverConn = conn.toEndpoints
  idle : ∀ c, proxy.handlers c = none → fakesOf proxy.fakes c = 0
  inStep : ∀ c handler, proxy.handlers c = some handler →
    InStep settings proxy.tracker (fakesOf proxy.fakes c) c handler
  waits : ∀ entry ∈ proxy.tracker.waiting, ∃ handler clientHello,
    proxy.handlers entry.1 = some handler ∧ handler.stage = .waiting clientHello
  once : (proxy.tracker.waiting.map Prod.fst).Nodup
  fakes : ∀ fake ∈ proxy.fakes, Justified settings proxy.tracker fake

/-- Nothing that the tracker's side has recorded is forgotten. -/
structure Grows (before after : Seqtrack.State) : Prop where
  dialled : ∀ c conn, before.dialled.lookup c = some conn → after.dialled.lookup c = some conn
  returned : ∀ entry ∈ before.returned, entry ∈ after.returned

section Coupling

variable {before after : Seqtrack.State} {fake : FakeCall} {c : ConnId} {handler : Handler}
  {count : Nat}

theorem Justified.mono (justified : Justified settings before fake) (grows : Grows before after) :
    Justified settings after fake := by
  obtain ⟨⟨conn, numbers, isDialled, returned, same⟩, first⟩ := justified
  exact ⟨⟨conn, numbers, grows.dialled _ _ isDialled, grows.returned _ returned, same⟩, first⟩

theorem InStep.mono (inStep : InStep settings before count c handler) (grows : Grows before after) :
    InStep settings after count c handler := by
  unfold InStep at inStep ⊢
  split at inStep
  case h_6 =>
    obtain ⟨justified, rest⟩ := inStep
    exact ⟨justified.mono grows, rest⟩
  all_goals exact inStep

theorem coupled_initial : Coupled settings initial where
  dialled := nofun
  idle := fun _ _ => rfl
  inStep := nofun
  waits := nofun
  once := .nil
  fakes := nofun

/-- A step of the tracker that no handler takes part in. -/
theorem Coupled.frame (coupled : Coupled settings proxy) (grows : Grows proxy.tracker after)
    (sameWaiting : after.waiting = proxy.tracker.waiting) :
    Coupled settings { proxy with tracker := after } where
  dialled := by
    intro c handler there
    obtain ⟨conn, isDialled, rest⟩ := coupled.dialled c handler there
    exact ⟨conn, grows.dialled _ _ isDialled, rest⟩
  idle := coupled.idle
  inStep := fun c handler there => (coupled.inStep c handler there).mono grows
  waits := by
    intro entry there
    rw [show ({ proxy with tracker := after } : Proxy).tracker.waiting = proxy.tracker.waiting from
      sameWaiting] at there
    exact coupled.waits entry there
  once := by
    rw [show ({ proxy with tracker := after } : Proxy).tracker.waiting = proxy.tracker.waiting from
      sameWaiting]
    exact coupled.once
  fakes := fun fake there => (coupled.fakes fake there).mono grows

/-- The calls of one connection do not count for another. -/
theorem fakesOf_append_of_ne {fakes more : List FakeCall} {other : ConnId}
    (own : ∀ fake ∈ more, fake.c = c) (different : other ≠ c) :
    fakesOf (fakes ++ more) other = fakesOf fakes other := by
  unfold fakesOf
  have noneOf : more.countP (fun fake => fake.c = other) = 0 := by
    apply List.countP_eq_zero.mpr
    intro fake there
    rw [own fake there, decide_eq_true_iff]
    exact different.symm
  rw [List.countP_append, noneOf, Nat.add_zero]

/-- The handlers after one of them has moved. -/
theorem update_eq_some {handlers : ConnId → Option Handler} {other : ConnId} {found : Handler}
    (there : Function.update handlers c (some handler) other = some found) :
    other = c ∧ found = handler ∨ other ≠ c ∧ handlers other = some found := by
  by_cases same : other = c
  · rw [same, Function.update_self] at there
    exact .inl ⟨same, (Option.some.inj there).symm⟩
  · rw [Function.update_of_ne same] at there
    exact .inr ⟨same, there⟩

/-- One handler takes a step, with the tracker or alone. -/
theorem Coupled.advance (coupled : Coupled settings proxy) (grows : Grows proxy.tracker after)
    {more : List FakeCall} (own : ∀ fake ∈ more, fake.c = c)
    (justified : ∀ fake ∈ more, Justified settings after fake)
    (isDialled : ∃ conn, after.dialled.lookup c = some conn ∧ conn.isTCPConn = true ∧
      handler.serverConn = conn.toEndpoints)
    (inStep : InStep settings after (fakesOf (proxy.fakes ++ more) c) c handler)
    (others : ∀ entry ∈ after.waiting, entry.1 ≠ c → entry ∈ proxy.tracker.waiting)
    (waiting : ∀ entry ∈ after.waiting, entry.1 = c → ∃ clientHello,
      handler.stage = .waiting clientHello)
    (once : (after.waiting.map Prod.fst).Nodup) :
    Coupled settings
      { tracker := after
        handlers := Function.update proxy.handlers c (some handler)
        fakes := proxy.fakes ++ more } where
  dialled := by
    intro other found there
    rcases update_eq_some there with ⟨rfl, rfl⟩ | ⟨_, there⟩
    · exact isDialled
    · obtain ⟨conn, isDialled, rest⟩ := coupled.dialled other found there
      exact ⟨conn, grows.dialled _ _ isDialled, rest⟩
  idle := by
    intro other none_
    change Function.update proxy.handlers c (some handler) other = none at none_
    by_cases same : other = c
    · rw [same, Function.update_self] at none_
      contradiction
    · rw [Function.update_of_ne same] at none_
      exact (fakesOf_append_of_ne own same).trans (coupled.idle other none_)
  inStep := by
    intro other found there
    rcases update_eq_some there with ⟨rfl, rfl⟩ | ⟨same, there⟩
    · exact inStep
    · show InStep settings after (fakesOf (proxy.fakes ++ more) other) other found
      rw [fakesOf_append_of_ne own same]
      exact (coupled.inStep other found there).mono grows
  waits := by
    intro entry there
    by_cases same : entry.1 = c
    · obtain ⟨clientHello, here⟩ := waiting entry there same
      refine ⟨handler, clientHello, ?_, here⟩
      rw [same]
      exact Function.update_self ..
    · obtain ⟨found, clientHello, isHandler, here⟩ := coupled.waits entry (others entry there same)
      refine ⟨found, clientHello, ?_, here⟩
      rw [← isHandler]
      exact Function.update_of_ne same ..
  once := once
  fakes := by
    intro fake there
    rcases List.mem_append.mp there with old | new
    · exact (coupled.fakes fake old).mono grows
    · exact justified fake new

/-- A handler that calls nothing. -/
theorem Coupled.quietly (coupled : Coupled settings proxy) (grows : Grows proxy.tracker after)
    (isDialled : ∃ conn, after.dialled.lookup c = some conn ∧ conn.isTCPConn = true ∧
      handler.serverConn = conn.toEndpoints)
    (inStep : InStep settings after (fakesOf proxy.fakes c) c handler)
    (others : ∀ entry ∈ after.waiting, entry.1 ≠ c → entry ∈ proxy.tracker.waiting)
    (waiting : ∀ entry ∈ after.waiting, entry.1 = c → ∃ clientHello,
      handler.stage = .waiting clientHello)
    (once : (after.waiting.map Prod.fst).Nodup) : Coupled settings (proxy.put after c handler) := by
  rw [← List.append_nil proxy.fakes] at inStep
  have advanced := coupled.advance grows (fun _ there => absurd there List.not_mem_nil)
    (fun _ there => absurd there List.not_mem_nil) isDialled inStep others waiting once
  rw [List.append_nil] at advanced
  exact advanced

theorem Grows.rfl {state : Seqtrack.State} : Grows state state :=
  ⟨fun _ _ same => same, fun _ there => there⟩

/-! ### One step -/

/-- The connection that a handler was started for. -/
theorem Coupled.lookup (coupled : Coupled settings proxy) (there : proxy.handlers c = some handler) :
    ∃ conn, proxy.tracker.dialled.lookup c = some conn ∧ conn.isTCPConn = true ∧
      handler.serverConn = conn.toEndpoints :=
  coupled.dialled c handler there

theorem Coupled.dial (coupled : Coupled settings proxy) {conn : Seqtrack.Conn}
    (new : proxy.tracker.dialled.lookup c = none) (isTCPConn : conn.isTCPConn = true)
    (dst : GoString) : Coupled settings
      (proxy.put { proxy.tracker with dialled := (c, conn) :: proxy.tracker.dialled } c
        (Handler.newConnectionEx conn.toEndpoints conn.remotePort dst)) := by
  have noHandler : proxy.handlers c = none := by
    by_contra other
    obtain ⟨handler, there⟩ := Option.ne_none_iff_exists'.mp other
    obtain ⟨_, isDialled, _⟩ := coupled.lookup there
    rw [new] at isDialled
    contradiction
  apply coupled.quietly
  · refine ⟨?_, fun _ there => there⟩
    intro other found isDialled
    have different : (other == c) = false := by
      rw [beq_eq_false_iff_ne]
      intro same
      rw [same, new] at isDialled
      contradiction
    rw [List.lookup_cons, different]
    exact isDialled
  · exact ⟨conn, by rw [List.lookup_cons, beq_self_eq_true], isTCPConn, by rfl⟩
  · exact ⟨by rfl, coupled.idle c noHandler⟩
  · exact fun _ there _ => there
  · intro entry there same
    obtain ⟨handler, _, isHandler, _⟩ := coupled.waits entry there
    rw [same, noHandler] at isHandler
    contradiction
  · exact coupled.once

/-- The wait of a connection is over. -/
theorem not_mem_erase {waiting : List (ConnId × UInt16)} {localPort : UInt16}
    (once : (waiting.map Prod.fst).Nodup) (there : (c, localPort) ∈ waiting) :
    ∀ entry ∈ waiting.erase (c, localPort), entry.1 ≠ c := by
  intro entry remains same
  induction waiting with
  | nil => contradiction
  | cons first rest inductionHypothesis =>
      obtain ⟨notInRest, restOnce⟩ := List.nodup_cons.mp once
      by_cases isFirst : first = (c, localPort)
      · rw [isFirst, List.erase_cons_head] at remains
        apply notInRest
        rw [isFirst]
        exact List.mem_map.mpr ⟨entry, remains, same⟩
      · have inRest := (List.mem_cons.mp there).resolve_left (Ne.symm isFirst)
        rw [List.erase_cons_tail (by simpa using isFirst)] at remains
        rcases List.mem_cons.mp remains with rfl | later
        · apply notInRest
          rw [same]
          exact List.mem_map_of_mem inRest
        · exact inductionHypothesis restOnce inRest later

/-- Numbers arrive for the connection, and its handler goes on to its fakes. -/
theorem Coupled.finish (coupled : Coupled settings proxy) {localPort : UInt16} {numbers : SeqAck}
    {conns : UInt16 → Option Capture.ConnectionEvent} {hasTracker : Bool} {further : Handler}
    (there : (c, localPort) ∈ proxy.tracker.waiting) (isHandler : proxy.handlers c = some handler)
    (moved : handler.Moves settings hasTracker (.seqAck numbers) further) :
    Coupled settings (proxy.put
      (Seqtrack.finish { proxy.tracker with conns := conns } c localPort numbers) c further) := by
  obtain ⟨conn, isDialled, isTCPConn, serverConn⟩ := coupled.lookup isHandler
  have inStep := coupled.inStep c handler isHandler
  have gone := not_mem_erase coupled.once there
  obtain ⟨seq, ack, hopLimit⟩ := numbers
  cases moved with
  | @numbers clientHello here =>
      rw [InStep, here] at inStep
      obtain ⟨unwritten, noneSent⟩ := inStep
      apply coupled.quietly
      · exact ⟨fun _ _ same => same, fun _ old => List.mem_cons_of_mem _ old⟩
      · exact ⟨conn, isDialled, isTCPConn, serverConn⟩
      · refine ⟨⟨⟨conn, (seq, ack, hopLimit), isDialled, List.mem_cons_self, ?_, rfl⟩, unwritten⟩,
          noneSent, by decide⟩
        rw [← serverConn]
        rfl
      · exact fun entry remains _ => List.mem_of_mem_erase remains
      · exact fun entry remains same => absurd same (gone entry remains)
      · exact coupled.once.sublist (List.erase_sublist.map Prod.fst)

/-- The handler's call of `GetSeqAck` up to its loop. -/
theorem Coupled.ask (coupled : Coupled settings proxy) (isHandler : proxy.handlers c = some handler)
    {further : Handler} (moved : run (Handler.step settings tracker.isSome) handler
      (askStatements tracker) = some further)
    (asked : Seqtrack.step tracker proxy.tracker (.getSeqAck c) = some after) :
    Coupled settings (proxy.put after c further) := by
  obtain ⟨conn, isDialled, isTCPConn, serverConn⟩ := coupled.lookup isHandler
  have inStep := coupled.inStep c handler isHandler
  obtain ⟨_, asked⟩ := Option.ite_none_right_eq_some.mp asked
  rw [isDialled, Option.map_some, Option.some_inj] at asked
  subst asked
  cases isTracker : tracker with
  | none =>
      rw [isTracker] at moved
      obtain ⟨_, stepped, ended⟩ := run_cons_eq_some moved
      obtain rfl := Option.some.inj ended
      have noTracker : Seqtrack.getSeqAck none proxy.tracker c conn =
          { proxy.tracker with returned := (c, Seqtrack.placeholder) :: proxy.tracker.returned } :=
        if_pos (.inl rfl)
      rw [noTracker]
      cases Handler.moves stepped with
      | tracker here present => contradiction
      | @noTracker clientHello here absent =>
          rw [InStep, here] at inStep
          obtain ⟨unwritten, noneSent⟩ := inStep
          apply coupled.quietly
          · exact ⟨fun _ _ same => same, fun _ old => List.mem_cons_of_mem _ old⟩
          · exact ⟨conn, isDialled, isTCPConn, serverConn⟩
          · refine ⟨⟨⟨conn, Seqtrack.placeholder, isDialled, List.mem_cons_self, ?_, rfl⟩, unwritten⟩,
              noneSent, by decide⟩
            rw [← serverConn]
            rfl
          · exact fun entry there _ => there
          · intro entry there same
            obtain ⟨found, clientHello, isFound, waits⟩ := coupled.waits entry there
            rw [same, isHandler] at isFound
            obtain rfl := Option.some.inj isFound
            rw [here] at waits
            contradiction
          · exact coupled.once
  | some capture =>
      rw [isTracker] at moved
      obtain ⟨middle, first, rest⟩ := run_cons_eq_some moved
      obtain ⟨_, second, ended⟩ := run_cons_eq_some rest
      obtain rfl := Option.some.inj ended
      have waits : Seqtrack.getSeqAck (some capture) proxy.tracker c conn =
          { proxy.tracker with waiting := (c, conn.localPort) :: proxy.tracker.waiting } :=
        if_neg (by simp [isTCPConn])
      rw [waits]
      cases Handler.moves first with
      | noTracker here absent => contradiction
      | @tracker clientHello here present =>
          rw [InStep, here] at inStep
          have notWaiting : ∀ entry ∈ proxy.tracker.waiting, entry.1 ≠ c := by
            intro entry there same
            obtain ⟨found, clientHello, isFound, waits⟩ := coupled.waits entry there
            rw [same, isHandler] at isFound
            obtain rfl := Option.some.inj isFound
            rw [here] at waits
            contradiction
          cases Handler.moves second with
          | callsNil _ absent => contradiction
          | @waits clientHello' here' present' =>
              apply coupled.quietly
              · exact ⟨fun _ _ same => same, fun _ old => old⟩
              · exact ⟨conn, isDialled, isTCPConn, serverConn⟩
              · exact inStep
              · intro entry there different
                rcases List.mem_cons.mp there with rfl | old
                · exact absurd rfl different
                · exact old
              · exact fun _ _ _ => ⟨clientHello', rfl⟩
              · refine List.nodup_cons.mpr ⟨?_, coupled.once⟩
                intro there
                obtain ⟨entry, member, same⟩ := List.mem_map.mp there
                exact notWaiting entry member same

theorem serverConn_of_moves {action : HandlerAction} {further : Handler} {hasTracker : Bool}
    (moved : handler.Moves settings hasTracker action further) :
    further.serverConn = handler.serverConn := by
  cases moved with
  | numbers _ numbers =>
      obtain ⟨seq, ack, hopLimit⟩ := numbers
      rfl
  | _ => rfl

theorem not_waiting_of_moves {action : HandlerAction} {further : Handler} {hasTracker : Bool}
    (moved : handler.Moves settings hasTracker action further)
    (alone : action.involvesTracker = false) (clientHello : Bytes) :
    handler.stage ≠ .waiting clientHello := by
  intro waiting
  cases moved <;> simp_all [HandlerAction.involvesTracker]

theorem fakesOf_append_call (fakes : List FakeCall) (connInfo : ConnInfo) (ttl : Int)
    (written : Bytes) : fakesOf (fakes ++ [⟨c, connInfo, ttl, written⟩]) c = fakesOf fakes c + 1 := by
  unfold fakesOf
  rw [List.countP_append, List.countP_singleton]
  simp

/-- A statement of the handler without the tracker; `SendFake` is recorded. -/
theorem Coupled.alone (coupled : Coupled settings proxy)
    (isHandler : proxy.handlers c = some handler) {action : HandlerAction} {further : Handler}
    {hasTracker : Bool} (moved : handler.Moves settings hasTracker action further)
    (alone : action.involvesTracker = false) :
    Coupled settings
      { proxy with
        handlers := Function.update proxy.handlers c (some further)
        fakes := proxy.fakes ++ if action.isSendFake then fakeCalls c handler else [] } := by
  have inStep := coupled.inStep c handler isHandler
  have notWaiting : ∀ entry ∈ proxy.tracker.waiting, entry.1 = c → ∃ clientHello,
      further.stage = .waiting clientHello := by
    intro entry there same
    obtain ⟨found, clientHello, isFound, waits⟩ := coupled.waits entry there
    rw [same, isHandler] at isFound
    obtain rfl := Option.some.inj isFound
    exact absurd waits (not_waiting_of_moves moved alone clientHello)
  have goOn : ∀ more : List FakeCall, (∀ fake ∈ more, fake.c = c) →
      (∀ fake ∈ more, Justified settings proxy.tracker fake) →
      InStep settings proxy.tracker (fakesOf (proxy.fakes ++ more) c) c further →
      Coupled settings
        { proxy with
          handlers := Function.update proxy.handlers c (some further)
          fakes := proxy.fakes ++ more } := by
    intro more own justified inStepNext
    apply coupled.advance .rfl own justified ?_ inStepNext (fun _ there _ => there) notWaiting
      coupled.once
    obtain ⟨conn, isDialled, isTCPConn, serverConn⟩ := coupled.lookup isHandler
    exact ⟨conn, isDialled, isTCPConn, (serverConn_of_moves moved).trans serverConn⟩
  have silently : InStep settings proxy.tracker (fakesOf proxy.fakes c) c further →
      Coupled settings
        { proxy with
          handlers := Function.update proxy.handlers c (some further)
          fakes := proxy.fakes ++ [] } := by
    intro inStepNext
    apply goOn [] (fun _ there => absurd there List.not_mem_nil)
      (fun _ there => absurd there List.not_mem_nil)
    rw [List.append_nil]
    exact inStepNext
  have calls : ∀ {clientHello connInfo ttl i},
      handler.stage = .sendFake clientHello connInfo ttl i →
      InStep settings proxy.tracker (fakesOf proxy.fakes c + 1) c further →
      Coupled settings
        { proxy with
          handlers := Function.update proxy.handlers c (some further)
          fakes := proxy.fakes ++ fakeCalls c handler } := by
    intro clientHello connInfo ttl i here inStepNext
    rw [InStep, here] at inStep
    unfold fakeCalls
    rw [here]
    apply goOn
    · intro fake there
      rw [List.mem_singleton.mp there]
    · intro fake there
      rw [List.mem_singleton.mp there]
      exact inStep.1
    · rw [fakesOf_append_call]
      exact inStepNext
  cases moved with
  | dialFailed here | helloFailed here =>
      apply silently
      rw [InStep, here] at inStep
      show _ ≤ 3
      rw [inStep.2]
      decide
  | dialledOther here =>
      apply silently
      rw [InStep, here] at inStep
      show _ ≤ 3
      rw [inStep.2]
      decide
  | dialledTarget here | hello here =>
      apply silently
      rw [InStep, here] at inStep
      exact inStep
  | @chunk result here =>
      apply silently
      rw [InStep, here] at inStep
      unfold Handler.afterRead
      split
      · exact inStep
      · split <;> exact inStep
  | wroteHello here =>
      apply silently
      rw [InStep, here] at inStep
      exact inStep
  | @wroteChunk _ failed here =>
      apply silently
      rw [InStep, here] at inStep
      cases failed <;> exact inStep
  | lastFake here last =>
      apply calls here
      rw [InStep, here] at inStep
      show _ ≤ 3
      omega
  | nextFake here more =>
      apply calls here
      rw [InStep, here] at inStep
      exact ⟨inStep.1, by rw [inStep.2.1], more⟩
  | noTracker | tracker | waits | callsNil | numbers => contradiction

theorem Coupled.step {action : ProxyAction} (coupled : Coupled settings proxy)
    (stepped : Proxy.step settings tracker proxy action = some next) : Coupled settings next := by
  cases action with
  | dial c conn dst =>
      obtain ⟨isTCPConn, stepped⟩ := Option.ite_none_right_eq_some.mp stepped
      obtain ⟨after, moved, rfl⟩ := Option.map_eq_some_iff.mp stepped
      obtain ⟨⟨new, _⟩, rfl⟩ := guarded_eq_some moved
      exact coupled.dial new isTCPConn dst
  | synAck c frame =>
      obtain ⟨after, moved, rfl⟩ := Option.map_eq_some_iff.mp stepped
      obtain ⟨_, rfl⟩ := guarded_eq_some moved
      exact coupled.frame ⟨fun _ _ same => same, fun _ there => there⟩ rfl
  | deliver c frame =>
      obtain ⟨after, moved, rfl⟩ := Option.map_eq_some_iff.mp stepped
      obtain ⟨_, rfl⟩ := guarded_eq_some moved
      exact coupled.frame ⟨fun _ _ same => same, fun _ there => there⟩ rfl
  | getSeqAck c =>
      obtain ⟨handler, isHandler, stepped⟩ := Option.bind_eq_some_iff.mp stepped
      obtain ⟨further, asked, stepped⟩ := Option.bind_eq_some_iff.mp stepped
      obtain ⟨after, moved, rfl⟩ := Option.map_eq_some_iff.mp stepped
      exact coupled.ask isHandler asked moved
  | poll c localPort =>
      obtain ⟨after, moved, went⟩ := Option.bind_eq_some_iff.mp stepped
      obtain ⟨there, rfl⟩ := guarded_eq_some moved
      unfold found at went
      cases inTable : proxy.tracker.conns localPort with
      | none =>
          rw [inTable] at went
          have unmoved : Seqtrack.waitForSeqAck proxy.tracker c localPort = proxy.tracker := by
            unfold Seqtrack.waitForSeqAck
            rw [inTable]
          rw [unmoved] at went
          obtain rfl := Option.some.inj went
          exact coupled
      | some evt =>
          rw [inTable] at went
          obtain ⟨handler, isHandler, went⟩ := Option.bind_eq_some_iff.mp went
          obtain ⟨further, numbered, rfl⟩ := Option.map_eq_some_iff.mp went
          have returned : Seqtrack.waitForSeqAck proxy.tracker c localPort =
              Seqtrack.finish { proxy.tracker with
                conns := Function.update proxy.tracker.conns localPort none } c localPort
                (evt.Seq, evt.Ack, evt.HopLimit) := by
            unfold Seqtrack.waitForSeqAck
            rw [inTable]
          rw [returned]
          exact coupled.finish there isHandler (Handler.moves numbered)
  | timeout c localPort =>
      obtain ⟨after, moved, went⟩ := Option.bind_eq_some_iff.mp stepped
      obtain ⟨there, rfl⟩ := guarded_eq_some moved
      obtain ⟨handler, isHandler, went⟩ := Option.bind_eq_some_iff.mp went
      obtain ⟨further, numbered, rfl⟩ := Option.map_eq_some_iff.mp went
      exact coupled.finish there isHandler (Handler.moves numbered)
  | handler c action =>
      obtain ⟨alone, stepped⟩ := Option.ite_none_left_eq_some.mp stepped
      obtain ⟨handler, isHandler, stepped⟩ := Option.bind_eq_some_iff.mp stepped
      obtain ⟨further, moved, rfl⟩ := Option.map_eq_some_iff.mp stepped
      exact coupled.alone isHandler (Handler.moves moved) (Bool.eq_false_iff.mpr alone)
  | close c =>
      obtain ⟨_, stepped⟩ := Option.ite_none_right_eq_some.mp stepped
      obtain ⟨after, moved, rfl⟩ := Option.map_eq_some_iff.mp stepped
      obtain ⟨_, rfl⟩ := guarded_eq_some moved
      exact coupled.frame ⟨fun _ _ same => same, fun _ there => there⟩ rfl

theorem coupled_of_run {schedule : List ProxyAction}
    (reached : run (Proxy.step settings tracker) initial schedule = some proxy) :
    Coupled settings proxy :=
  run_invariant (fun _ _ _ coupled stepped => coupled.step stepped) coupled_initial reached

/-- No connection is sent more than three fakes. -/
theorem Coupled.fakesOf_le (coupled : Coupled settings proxy) (c : ConnId) :
    fakesOf proxy.fakes c ≤ 3 := by
  cases there : proxy.handlers c with
  | none =>
      rw [coupled.idle c there]
      decide
  | some handler =>
      have inStep := coupled.inStep c handler there
      unfold InStep at inStep
      split at inStep
      all_goals omega

end Coupling

/-! ### Whose numbers a fake carries -/

/-- The connection record is the SYN-ACK's own header, seen from our end. -/
def mirrors (packet : Decoded) : ConnInfo where
  SrcIP := packet.network.dst
  DstIP := packet.network.src
  SrcPort := packet.tcp.dstPort
  DstPort := packet.tcp.srcPort
  Seq := packet.tcp.ack
  Ack := packet.tcp.seq + 1
  HopLimit := packet.network.hopLimit

/-- A SYN-ACK of the connection, as it was on the wire. -/
def IsSynAckOf (state : Seqtrack.State) (c : ConnId) (packet : Decoded) : Prop :=
  ∃ frame, (c, frame) ∈ state.sent ∧ decode frame = some packet ∧
    packet.tcp.syn = true ∧ packet.tcp.ackFlag = true

/-- Every SYN-ACK on the wire belongs to its connection. -/
def SentOwn (state : Seqtrack.State) : Prop :=
  ∀ entry ∈ state.sent, ∃ conn, state.dialled.lookup entry.1 = some conn ∧
    Seqtrack.synAckOf conn entry.2 = true

theorem SentOwn.mono {state after : Seqtrack.State} (own : SentOwn state)
    (sameSent : after.sent = state.sent) (sameDialled : after.dialled = state.dialled) :
    SentOwn after := by
  intro entry there
  rw [sameSent] at there
  rw [sameDialled]
  exact own entry there

theorem SentOwn.step {state after : Seqtrack.State} {action : Seqtrack.Action} (own : SentOwn state)
    (stepped : Seqtrack.step tracker state action = some after) : SentOwn after := by
  cases action with
  | dial c conn =>
      obtain ⟨⟨new, _⟩, rfl⟩ := guarded_eq_some stepped
      intro entry there
      obtain ⟨found, isDialled, isOwn⟩ := own entry there
      have different : (entry.1 == c) = false := by
        rw [beq_eq_false_iff_ne]
        intro same
        rw [same, new] at isDialled
        contradiction
      refine ⟨found, ?_, isOwn⟩
      rw [List.lookup_cons, different]
      exact isDialled
  | synAck c frame =>
      obtain ⟨⟨_, isOwn⟩, rfl⟩ := guarded_eq_some stepped
      intro entry there
      rcases List.mem_cons.mp there with rfl | old
      · exact (Option.any_eq_true _ _).mp isOwn
      · exact own entry old
  | deliver c frame =>
      obtain ⟨_, rfl⟩ := guarded_eq_some stepped
      exact own.mono rfl rfl
  | getSeqAck c =>
      obtain ⟨_, asked⟩ := Option.ite_none_right_eq_some.mp stepped
      obtain ⟨conn, _, rfl⟩ := Option.map_eq_some_iff.mp asked
      unfold Seqtrack.getSeqAck
      split
      · exact own.mono rfl rfl
      · exact own.mono rfl rfl
  | poll c localPort =>
      obtain ⟨_, rfl⟩ := guarded_eq_some stepped
      unfold Seqtrack.waitForSeqAck
      split
      · exact own
      · exact own.mono rfl rfl
  | timeout c localPort =>
      obtain ⟨_, rfl⟩ := guarded_eq_some stepped
      exact own.mono rfl rfl
  | close c =>
      obtain ⟨_, rfl⟩ := guarded_eq_some stepped
      exact own.mono rfl rfl

/-- What `synAckOf` compares. -/
theorem synAckOf_packet {conn : Seqtrack.Conn} {frame : Frame} {packet : Decoded}
    (isOwn : Seqtrack.synAckOf conn frame = true) (decoded : decode frame = some packet) :
    packet.tcp.syn = true ∧ packet.tcp.ackFlag = true ∧
      mirrors packet = connInfoOf conn.toEndpoints (Seqtrack.synAckNumbers packet) := by
  unfold Seqtrack.synAckOf at isOwn
  rw [decoded, Option.any_some] at isOwn
  simp only [Bool.and_eq_true, beq_iff_eq] at isOwn
  obtain ⟨⟨⟨⟨⟨syn, ack⟩, src⟩, srcPort⟩, dst⟩, dstPort⟩ := isOwn
  refine ⟨syn, ack, ?_⟩
  unfold mirrors connInfoOf Seqtrack.synAckNumbers
  rw [src, srcPort, dst, dstPort]

/-- What the calls of `SendFake` are made with in a state of the proxy. -/
structure FakesOwn (settings : Settings) (proxy : Proxy) : Prop where
  /-- A call repeats the header of a SYN-ACK of its own connection and bounds the TTL by that
  packet's, or has the numbers of a timeout. -/
  numbers : ∀ fake ∈ proxy.fakes,
    (∃ packet, IsSynAckOf proxy.tracker fake.c packet ∧ fake.connInfo = mirrors packet ∧
      fake.ttl = fakeTTL settings.FakeTTL packet.network.hopLimit) ∨
    ∃ conn, proxy.tracker.dialled.lookup fake.c = some conn ∧ fake.ttl = settings.FakeTTL ∧
      fake.connInfo = connInfoOf conn.toEndpoints Seqtrack.placeholder
  /-- It comes before every byte that is written to its server. -/
  first : ∀ fake ∈ proxy.fakes, fake.written = []
  few : ∀ c, fakesOf proxy.fakes c ≤ 3

/-- A connection whose SYN-ACK is captured while its handler reads the first segment. -/
def oneConnection : List ProxyAction :=
  [.dial 0 (Seqtrack.connTo [1, 1, 1, 1]) (lit "example.org"),
    .synAck 0 (Capture.synAckFrame [1, 1, 1, 1] 443 76), .handler 0 (.dialServer true),
    .deliver 0 (Capture.synAckFrame [1, 1, 1, 1] 443 76), .handler 0 (.appRead ⟨[22, 3, 1], false⟩),
    .getSeqAck 0, .poll 0 51234, .handler 0 (.sendFake false), .handler 0 (.sendFake false),
    .handler 0 (.sendFake false), .handler 0 .serverWrite]

end Proxy

end Gecit.Tun
