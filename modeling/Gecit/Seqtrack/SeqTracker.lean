import Gecit.Foundation.Transition
import Gecit.Capture.Detector

/-!
Contract: the macOS sequence tracker among the proxy's outgoing connections.

The capture callback stores every event under its local port; `GetSeqAck` polls
that port and takes whatever it finds. Connections, their SYN-ACKs, the delivery by
the capture device, the polls and the timeouts are the actions of one schedule, in
any order the network and the scheduler allow.

Owns the table, the life of a `GetSeqAck` call, and the condition under which every
call returns numbers of its own connection. Does not own the capture pipeline or
what is sent with the numbers.
-/

namespace Gecit.Seqtrack

open Gecit.Foundation
open Gecit.Net
open Gecit.Rawsock
open Gecit.Capture

abbrev ConnId := Nat

structure Endpoints where
  localIP : IP
  localPort : UInt16
  remoteIP : IP
  remotePort : UInt16
deriving DecidableEq, Repr

/-- An outgoing connection; `GetSeqAck` asks whether it is a `*net.TCPConn`. -/
structure Conn extends Endpoints where
  isTCPConn : Bool
deriving DecidableEq, Repr

/-- Sequence number, acknowledgement number and observed hop limit. -/
abbrev SeqAck := UInt32 × UInt32 × UInt8

def placeholder : SeqAck := (1, 1, 0)

/-- The numbers a connection has after `packet`, its SYN-ACK. -/
def synAckNumbers (packet : Decoded) : SeqAck :=
  (packet.tcp.ack, packet.tcp.seq + 1, packet.network.hopLimit)

/-- The frame is a SYN-ACK from the remote end of `conn` to its local end. -/
def synAckOf (conn : Conn) (frame : Frame) : Bool :=
  (decode frame).any fun packet =>
    packet.tcp.syn && packet.tcp.ackFlag && packet.network.src == conn.remoteIP &&
      packet.tcp.srcPort == conn.remotePort && packet.network.dst == conn.localIP &&
        packet.tcp.dstPort == conn.localPort

structure State where
  /-- Every connection dialled so far. -/
  dialled : List (ConnId × Conn)
  closed : List ConnId
  /-- SYN-ACKs on the wire so far. -/
  sent : List (ConnId × Frame)
  /-- The tracker's table, keyed by local port. -/
  conns : UInt16 → Option ConnectionEvent
  /-- `GetSeqAck` calls in their polling loop. -/
  waiting : List (ConnId × UInt16)
  returned : List (ConnId × SeqAck)

def initial : State where
  dialled := []
  closed := []
  sent := []
  conns := fun _ => none
  waiting := []
  returned := []

inductive Action where
  | dial (c : ConnId) (conn : Conn)
  | synAck (c : ConnId) (frame : Frame)
  | deliver (c : ConnId) (frame : Frame)
  | getSeqAck (c : ConnId)
  | poll (c : ConnId) (localPort : UInt16)
  | timeout (c : ConnId) (localPort : UInt16)
  | close (c : ConnId)

def State.isOpen (state : State) (c : ConnId) : Bool :=
  (state.dialled.lookup c).isSome && !state.closed.contains c

def finish (state : State) (c : ConnId) (localPort : UInt16) (value : SeqAck) : State :=
  { state with
    waiting := state.waiting.erase (c, localPort)
    returned := (c, value) :: state.returned }

/-- The tracker that `SetSeqTracker` installed, if any. -/
abbrev SeqTracker := Option PcapCapture

def newSeqTracker (ports : List UInt16) : SeqTracker := newCapture .darwin ports

variable (tracker : SeqTracker)

/-- The event that a frame on the wire puts into the table. -/
def captured (frame : Frame) : Option ConnectionEvent := tracker.bind (handle · frame)

def store (conns : UInt16 → Option ConnectionEvent) (frame : Frame) :
    UInt16 → Option ConnectionEvent :=
  match captured tracker frame with
  | none => conns
  | some evt => Function.update conns evt.SrcPort (some evt)

/-- The four-tuple of a new connection is not in use. -/
def State.unused (state : State) (endpoints : Endpoints) : Bool :=
  state.dialled.all fun entry =>
    state.closed.contains entry.1 || entry.2.toEndpoints != endpoints

/-- `GetSeqAck` up to its polling loop. -/
def getSeqAck (state : State) (c : ConnId) (conn : Conn) : State :=
  if tracker.isNone ∨ ¬ conn.isTCPConn then
    { state with returned := (c, placeholder) :: state.returned }
  else { state with waiting := (c, conn.localPort) :: state.waiting }

/-- One turn of the loop of `WaitForSeqAck`: `LoadAndDelete`, else sleep. -/
def waitForSeqAck (state : State) (c : ConnId) (localPort : UInt16) : State :=
  match state.conns localPort with
  | none => state
  | some evt =>
      finish { state with conns := Function.update state.conns localPort none } c localPort
        (evt.Seq, evt.Ack, evt.HopLimit)

def step (state : State) : Action → Option State
  | .dial c conn =>
      if state.dialled.lookup c = none ∧ state.unused conn.toEndpoints then
        some { state with dialled := (c, conn) :: state.dialled }
      else none
  | .synAck c frame =>
      if state.isOpen c ∧ (state.dialled.lookup c).any (synAckOf · frame) then
        some { state with sent := (c, frame) :: state.sent }
      else none
  | .deliver c frame =>
      if (c, frame) ∈ state.sent then some { state with conns := store tracker state.conns frame }
      else none
  | .getSeqAck c =>
      -- The dial has returned, so a SYN-ACK has reached the kernel.
      if state.isOpen c ∧ ∃ entry ∈ state.sent, entry.1 = c then
        (state.dialled.lookup c).map (getSeqAck tracker state c)
      else none
  | .poll c localPort =>
      if (c, localPort) ∈ state.waiting then some (waitForSeqAck state c localPort) else none
  | .timeout c localPort =>
      if (c, localPort) ∈ state.waiting then some (finish state c localPort placeholder) else none
  | .close c =>
      if state.isOpen c ∧ ∀ entry ∈ state.waiting, entry.1 ≠ c then
        some { state with closed := c :: state.closed }
      else none

/-- Every returned value is the placeholder or comes from a SYN-ACK of the
connection it was returned for. -/
def ReturnsOwn (state : State) : Prop :=
  ∀ entry ∈ state.returned, entry.2 = placeholder ∨
    ∃ synAck ∈ state.sent, synAck.1 = entry.1 ∧
      (decode synAck.2).map synAckNumbers = some entry.2

instance (state : State) : Decidable (ReturnsOwn state) := by
  unfold ReturnsOwn
  infer_instance

/-! ### Whose SYN-ACK was captured last -/

/-- For each local port, the SYN-ACK captured last and not yet followed by a poll. -/
def noteAction (last : UInt16 → Option (ConnId × Frame)) : Action → UInt16 → Option (ConnId × Frame)
  | .deliver c frame =>
      match captured tracker frame with
      | none => last
      | some evt => Function.update last evt.SrcPort (some (c, frame))
  | .poll _ localPort => Function.update last localPort none
  | _ => last

def lastCaptured (past : List Action) : UInt16 → Option (ConnId × Frame) :=
  past.foldl (noteAction tracker) fun _ => none

/-- A poll does not meet a SYN-ACK of another connection. -/
def PollsOwn (past : List Action) : Action → Prop
  | .poll c localPort => ∀ synAck ∈ lastCaptured tracker past localPort, synAck.1 = c
  | _ => True

variable {tracker}

theorem lastCaptured_concat (past : List Action) (action : Action) :
    lastCaptured tracker (past ++ [action]) =
      noteAction tracker (lastCaptured tracker past) action := by
  rw [lastCaptured, List.foldl_append]
  rfl

/-! ### The invariant of a schedule -/

/-- The table holds the events of the SYN-ACKs captured last. -/
structure Tracks (tracker : SeqTracker) (past : List Action) (state : State) : Prop where
  table : ∀ port, state.conns port =
    (lastCaptured tracker past port).bind fun synAck => captured tracker synAck.2
  sent : ∀ port, ∀ synAck ∈ lastCaptured tracker past port, synAck ∈ state.sent
  own : ReturnsOwn state

theorem captured_numbers (fromNew : ∀ capture ∈ tracker, ∃ ports, newSeqTracker ports = some capture)
    {frame : Frame} {evt : ConnectionEvent} (stored : captured tracker frame = some evt) :
    (decode frame).map synAckNumbers = some (evt.Seq, evt.Ack, evt.HopLimit) := by
  obtain ⟨capture, installed, handled⟩ := Option.bind_eq_some_iff.mp stored
  obtain ⟨ports, built⟩ := fromNew capture installed
  have onDarwin : capture.platform = .darwin := by
    obtain rfl := Option.some.inj built
    rfl
  obtain ⟨packet, decoded, seqEq, ackEq, hopEq⟩ := handle_darwin onDarwin handled
  rw [decoded, Option.map_some, synAckNumbers, seqEq, ackEq, hopEq]

theorem ReturnsOwn.mono {state next : State} (own : ReturnsOwn state)
    (sameReturned : next.returned = state.returned)
    (moreSent : ∀ synAck ∈ state.sent, synAck ∈ next.sent) : ReturnsOwn next := by
  intro entry member
  rw [sameReturned] at member
  rcases own entry member with isPlaceholder | ⟨synAck, wasSent, rest⟩
  · exact .inl isPlaceholder
  · exact .inr ⟨synAck, moreSent synAck wasSent, rest⟩

theorem ReturnsOwn.placeholder {state next : State} (own : ReturnsOwn state) {c : ConnId}
    (newReturned : next.returned = (c, Seqtrack.placeholder) :: state.returned)
    (sameSent : next.sent = state.sent) : ReturnsOwn next := by
  intro entry member
  rw [newReturned] at member
  rcases List.mem_cons.mp member with rfl | old
  · exact .inl rfl
  · rw [sameSent]
    exact own entry old

/-- An action that leaves the table alone keeps what the table says. -/
theorem Tracks.frame {past : List Action} {state next : State} {action : Action}
    (tracks : Tracks tracker past state)
    (untouched : ∀ last, noteAction tracker last action = last)
    (sameTable : next.conns = state.conns)
    (moreSent : ∀ synAck ∈ state.sent, synAck ∈ next.sent) (own : ReturnsOwn next) :
    Tracks tracker (past ++ [action]) next := by
  refine ⟨?_, ?_, own⟩
  · intro port
    rw [lastCaptured_concat, untouched, sameTable, tracks.table]
  · intro port synAck member
    rw [lastCaptured_concat, untouched] at member
    exact moreSent synAck (tracks.sent port synAck member)

theorem Tracks.deliver {past : List Action} {state : State} {c : ConnId} {frame : Frame}
    (tracks : Tracks tracker past state) (wasSent : (c, frame) ∈ state.sent) :
    Tracks tracker (past ++ [.deliver c frame])
      { state with conns := store tracker state.conns frame } := by
  cases stored : captured tracker frame with
  | none =>
      have noted : lastCaptured tracker (past ++ [.deliver c frame]) =
          lastCaptured tracker past := by
        rw [lastCaptured_concat, noteAction, stored]
      refine ⟨?_, ?_, tracks.own.mono rfl fun _ member => member⟩
      · intro port
        rw [noted, ← tracks.table port]
        simp [store, stored]
      · intro port synAck member
        rw [noted] at member
        exact tracks.sent port synAck member
  | some evt =>
      have noted : lastCaptured tracker (past ++ [.deliver c frame]) =
          Function.update (lastCaptured tracker past) evt.SrcPort (some (c, frame)) := by
        rw [lastCaptured_concat, noteAction, stored]
      refine ⟨?_, ?_, tracks.own.mono rfl fun _ member => member⟩
      · intro port
        rw [noted]
        simp only [store, stored]
        by_cases here : port = evt.SrcPort
        · simp [here, stored]
        · rw [Function.update_of_ne here, Function.update_of_ne here, tracks.table port]
      · intro port synAck member
        rw [noted] at member
        by_cases here : port = evt.SrcPort
        · rw [here, Function.update_self] at member
          obtain rfl := Option.some.inj member
          exact wasSent
        · rw [Function.update_of_ne here] at member
          exact tracks.sent port synAck member

/-- A poll that finds an event returns the numbers of the SYN-ACK captured last. -/
theorem Tracks.poll_returns {past : List Action} {state : State} {localPort : UInt16}
    {evt : ConnectionEvent} (tracks : Tracks tracker past state)
    (fromNew : ∀ capture ∈ tracker, ∃ ports, newSeqTracker ports = some capture)
    (found : state.conns localPort = some evt) :
    ∃ synAck, lastCaptured tracker past localPort = some synAck ∧ synAck ∈ state.sent ∧
      (decode synAck.2).map synAckNumbers = some (evt.Seq, evt.Ack, evt.HopLimit) := by
  rw [tracks.table localPort] at found
  obtain ⟨synAck, last, stored⟩ := Option.bind_eq_some_iff.mp found
  exact ⟨synAck, last, tracks.sent localPort synAck last, captured_numbers fromNew stored⟩

theorem Tracks.poll {past : List Action} {state : State} {c : ConnId} {localPort : UInt16}
    (tracks : Tracks tracker past state)
    (fromNew : ∀ capture ∈ tracker, ∃ ports, newSeqTracker ports = some capture)
    (pollsOwn : PollsOwn tracker past (.poll c localPort)) :
    Tracks tracker (past ++ [.poll c localPort])
      (waitForSeqAck state c localPort) := by
  have noted : lastCaptured tracker (past ++ [.poll c localPort]) =
      Function.update (lastCaptured tracker past) localPort none := lastCaptured_concat past _
  have sentKept : (waitForSeqAck state c localPort).sent = state.sent := by
    rw [waitForSeqAck]
    cases state.conns localPort <;> rfl
  have emptied : (waitForSeqAck state c localPort).conns =
      Function.update state.conns localPort none := by
    rw [waitForSeqAck]
    cases empty : state.conns localPort with
    | none => exact (Function.update_eq_self_iff.mpr empty.symm).symm
    | some evt => rfl
  refine ⟨?_, ?_, ?_⟩
  · intro port
    rw [noted, emptied]
    by_cases here : port = localPort
    · rw [here, Function.update_self, Function.update_self, Option.bind_none]
    · rw [Function.update_of_ne here, Function.update_of_ne here, tracks.table port]
  · intro port synAck member
    rw [sentKept]
    rw [noted] at member
    by_cases here : port = localPort
    · rw [here, Function.update_self] at member
      contradiction
    · rw [Function.update_of_ne here] at member
      exact tracks.sent port synAck member
  · cases found : state.conns localPort with
    | none =>
        rw [waitForSeqAck, found]
        exact tracks.own
    | some evt =>
        obtain ⟨synAck, last, wasSent, numbers⟩ := tracks.poll_returns fromNew found
        have same := pollsOwn synAck last
        rw [waitForSeqAck, found]
        intro entry member
        rcases List.mem_cons.mp member with rfl | old
        · exact .inr ⟨synAck, wasSent, same, numbers⟩
        · exact tracks.own entry old

theorem Tracks.step {past : List Action} {state next : State} {action : Action}
    (tracks : Tracks tracker past state)
    (fromNew : ∀ capture ∈ tracker, ∃ ports, newSeqTracker ports = some capture)
    (stepped : Seqtrack.step tracker state action = some next)
    (pollsOwn : PollsOwn tracker past action) :
    Tracks tracker (past ++ [action]) next := by
  have sameSent : ∀ synAck ∈ state.sent, synAck ∈ state.sent := fun _ member => member
  cases action with
  | dial c conn =>
      obtain ⟨_, rfl⟩ := guarded_eq_some stepped
      exact tracks.frame (fun _ => rfl) rfl sameSent (tracks.own.mono rfl sameSent)
  | synAck c frame =>
      obtain ⟨_, rfl⟩ := guarded_eq_some stepped
      have moreSent : ∀ synAck ∈ state.sent, synAck ∈ (c, frame) :: state.sent :=
        fun _ member => List.mem_cons_of_mem _ member
      exact tracks.frame (fun _ => rfl) rfl moreSent (tracks.own.mono rfl moreSent)
  | deliver c frame =>
      obtain ⟨wasSent, rfl⟩ := guarded_eq_some stepped
      exact tracks.deliver wasSent
  | getSeqAck c =>
      obtain ⟨_, found⟩ := Option.ite_none_right_eq_some.mp stepped
      obtain ⟨conn, _, rfl⟩ := Option.map_eq_some_iff.mp found
      rw [Seqtrack.getSeqAck]
      split
      · exact tracks.frame (fun _ => rfl) rfl sameSent (tracks.own.placeholder rfl rfl)
      · exact tracks.frame (fun _ => rfl) rfl sameSent (tracks.own.mono rfl sameSent)
  | poll c localPort =>
      obtain ⟨_, rfl⟩ := guarded_eq_some stepped
      exact tracks.poll fromNew pollsOwn
  | timeout c localPort =>
      obtain ⟨_, rfl⟩ := guarded_eq_some stepped
      exact tracks.frame (fun _ => rfl) rfl sameSent (tracks.own.placeholder rfl rfl)
  | close c =>
      obtain ⟨_, rfl⟩ := guarded_eq_some stepped
      exact tracks.frame (fun _ => rfl) rfl sameSent (tracks.own.mono rfl sameSent)

/-- In a schedule where no poll meets another connection's SYN-ACK, every call
returns the placeholder or numbers of its own connection. -/
theorem getSeqAck_returns_own
    (fromNew : ∀ capture ∈ tracker, ∃ ports, newSeqTracker ports = some capture)
    {schedule : List Action} {state : State}
    (reached : run (step tracker) initial schedule = some state)
    (pollsOwn : ∀ past action rest, schedule = past ++ action :: rest →
      PollsOwn tracker past action) :
    ReturnsOwn state := by
  have start : Tracks tracker [] initial := by
    refine ⟨fun _ => rfl, ?_, ?_⟩
    · intro port synAck member
      contradiction
    · intro entry member
      contradiction
  have tracks := run_history start
    (fun past action current next invariant stepped allowed =>
      invariant.step fromNew stepped allowed) reached pollsOwn
  exact tracks.own

/-! ### Two connections from one port -/

/-- A connection from port 51234 of 192.168.1.103 to `server`. -/
def connTo (server : IP) : Conn where
  localIP := [192, 168, 1, 103]
  localPort := 51234
  remoteIP := server
  remotePort := 443
  isTCPConn := true

/-- A connection whose SYN-ACK is captured before the poll. -/
def soloSchedule : List Action :=
  [.dial 0 (connTo [1, 1, 1, 1]), .synAck 0 (synAckFrame [1, 1, 1, 1] 443 76),
    .deliver 0 (synAckFrame [1, 1, 1, 1] 443 76), .getSeqAck 0, .poll 0 51234]

theorem getSeqAck_returns_own_solo : ∃ state,
    run (step (newSeqTracker [443])) initial soloSchedule = some state ∧ ReturnsOwn state := by
  refine ⟨_, rfl, ?_⟩
  apply @getSeqAck_returns_own (newSeqTracker [443]) (fun _ member => ⟨[443], member⟩)
    soloSchedule _ rfl
  intro past action rest split
  -- Only the last action polls, and the frame delivered before it is its own.
  rcases past with _ | ⟨_, _ | ⟨_, _ | ⟨_, _ | ⟨_, _ | ⟨_, past⟩⟩⟩⟩⟩ <;>
    simp only [soloSchedule, List.nil_append, List.cons_append, List.cons.injEq] at split
  · rw [← split.1]
    trivial
  · rw [← split.2.1]
    trivial
  · rw [← split.2.2.1]
    trivial
  · rw [← split.2.2.2.1]
    trivial
  · obtain ⟨rfl, rfl, rfl, rfl, rfl, rfl⟩ := split
    intro synAck member
    obtain rfl := Option.some.inj member
    rfl
  · simp at split

/-- A connection that never asks for its numbers, then one that reuses the port and
polls before its own SYN-ACK is delivered. -/
def reuseSchedule : List Action :=
  [.dial 0 (connTo [1, 1, 1, 1]), .synAck 0 (synAckFrame [1, 1, 1, 1] 443 76),
    .deliver 0 (synAckFrame [1, 1, 1, 1] 443 76), .close 0,
    .dial 1 (connTo [8, 8, 8, 8]), .synAck 1 (synAckFrame [8, 8, 8, 8] 443 1000),
    .getSeqAck 1, .poll 1 51234]

theorem getSeqAck_returns_other_connections : ¬ ∀ ports schedule state,
    run (step (newSeqTracker ports)) initial schedule = some state → ReturnsOwn state := by
  intro always
  have wrong := always [443] reuseSchedule _ rfl
  exact absurd wrong (by decide)

end Gecit.Seqtrack
