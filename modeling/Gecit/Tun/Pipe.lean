import Gecit.Foundation.BigEndian
import Gecit.Foundation.Transition

/-!
Contract: `pipe`, the two copy loops between the application and the server.

Each loop sets the read deadline of its source, reads, writes to its destination
and, once it has left the loop, sets the deadline of both connections to now. The
two loops, the peers and the clock take their steps in any order.

Owns the connections as `pipe` sees them, the program counters of the loops, and
what each destination has received in every state. Does not own the first segment,
which is written before `pipe` starts.
-/

namespace Gecit.Tun

open Gecit.Foundation

/-- In nanoseconds, as all times here. -/
def idleTimeout : Nat := 5 * 60 * 1000000000

def bufferSize : Nat := 32 * 1024

/-- The two connections handed to `pipe`, named as its parameters. -/
inductive Side where
  | a
  | b
deriving DecidableEq, Repr

def Side.other : Side → Side
  | a => b
  | b => a

instance (property : Side → Prop) [DecidablePred property] : Decidable (∀ side, property side) :=
  decidable_of_iff (property .a ∧ property .b)
    ⟨fun both side => by cases side; exacts [both.1, both.2], fun all => ⟨all .a, all .b⟩⟩

structure Conn where
  /-- Every byte the peer has sent so far. -/
  arrived : Bytes
  /-- The bytes not yet read. -/
  unread : Bytes
  /-- The peer has ended its stream. -/
  ended : Bool
  broken : Bool
  /-- Every byte written to the peer so far. -/
  received : Bytes
  readDeadline : Option Nat
  writeDeadline : Option Nat
  /-- When the last bytes came in, or the pipe started. -/
  lastArrival : Nat
deriving DecidableEq, Repr

inductive ReadErr where
  | eof
  | timeout
  | reset
deriving DecidableEq, Repr

/-- Why a loop was left. -/
inductive Cause where
  | read (err : ReadErr)
  | write
deriving DecidableEq, Repr

/-- The next statement of the loop that reads from a side. -/
inductive Loop where
  | setReadDeadline
  | read
  | write (chunk : Bytes) (err : Option ReadErr)
  | setDeadlineA (cause : Cause)
  | setDeadlineB (cause : Cause)
  | done (cause : Cause)
deriving DecidableEq, Repr

/-- The reason, when the loop has been left. -/
def Loop.leftBy : Loop → Option Cause
  | setDeadlineA cause | setDeadlineB cause | done cause => some cause
  | _ => none

structure State where
  now : Nat
  conn : Side → Conn
  loop : Side → Loop

def freshConn : Conn where
  arrived := []
  unread := []
  ended := false
  broken := false
  received := []
  readDeadline := none
  writeDeadline := none
  lastArrival := 0

def initial : State := ⟨0, fun _ => freshConn, fun _ => .setReadDeadline⟩

namespace State

def onConn (state : State) (side : Side) (change : Conn → Conn) : State :=
  { state with conn := Function.update state.conn side (change (state.conn side)) }

def goto (state : State) (side : Side) (loop : Loop) : State :=
  { state with loop := Function.update state.loop side loop }

/-- `SetDeadline(time.Now())`: both deadlines of one connection. -/
def setDeadline (state : State) (side : Side) : State :=
  state.onConn side fun conn =>
    { conn with readDeadline := some state.now, writeDeadline := some state.now }

end State

def expired (deadline : Option Nat) (now : Nat) : Bool := deadline.any (· ≤ now)

theorem expired_some_eq_false {deadline now : Nat} :
    expired (some deadline) now = false ↔ now < deadline := by
  simp [expired]

theorem idleTimeout_pos : 0 < idleTimeout := by decide

/-- The results `Read` may give: `count` bytes from the front, with or without an
error. A passed deadline fails at once, whatever is there to read. -/
def mayRead (conn : Conn) (now : Nat) (count : Nat) : Option ReadErr → Bool
  | none => !expired conn.readDeadline now && count ≤ min conn.unread.length bufferSize
  | some .eof =>
      !expired conn.readDeadline now && conn.ended && count ≤ bufferSize &&
        count = conn.unread.length
  | some .timeout => expired conn.readDeadline now && count = 0
  | some .reset => conn.broken && count = 0

/-- The loop after the write: the error of the read ends it. -/
def afterWrite : Option ReadErr → Loop
  | none => .setReadDeadline
  | some err => .setDeadlineA (.read err)

inductive Action where
  | advance (duration : Nat)
  | arrive (side : Side) (bytes : Bytes)
  | finish (side : Side)
  | reset (side : Side)
  | setReadDeadline (side : Side)
  | read (side : Side) (count : Nat) (err : Option ReadErr)
  /-- The write of the loop that reads from `side`. -/
  | write (side : Side)
  /-- The same write, failing after `count` bytes. -/
  | writeFails (side : Side) (count : Nat)
  | setDeadlineA (side : Side)
  | setDeadlineB (side : Side)
deriving DecidableEq, Repr

def step (state : State) : Action → Option State
  | .advance duration => some { state with now := state.now + duration }
  | .arrive side bytes =>
      if (state.conn side).ended = false ∧ bytes ≠ [] then
        some (state.onConn side fun conn =>
          { conn with
            arrived := conn.arrived ++ bytes
            unread := conn.unread ++ bytes
            lastArrival := state.now })
      else none
  | .finish side => some (state.onConn side fun conn => { conn with ended := true })
  | .reset side => some (state.onConn side fun conn => { conn with broken := true })
  | .setReadDeadline side =>
      if state.loop side = .setReadDeadline then
        some ((state.onConn side fun conn =>
          { conn with readDeadline := some (state.now + idleTimeout) }).goto side .read)
      else none
  | .read side count err =>
      if state.loop side = .read ∧ mayRead (state.conn side) state.now count err then
        some ((state.onConn side fun conn =>
          { conn with unread := conn.unread.drop count }).goto side
            (if count > 0 then .write ((state.conn side).unread.take count) err
            else afterWrite err))
      else none
  | .write side =>
      match state.loop side with
      | .write chunk err =>
          if expired (state.conn side.other).writeDeadline state.now = false ∧
              (state.conn side.other).broken = false then
            some ((state.onConn side.other fun conn =>
              { conn with received := conn.received ++ chunk }).goto side (afterWrite err))
          else none
      | _ => none
  | .writeFails side count =>
      match state.loop side with
      | .write chunk _ =>
          if (expired (state.conn side.other).writeDeadline state.now ∨
              (state.conn side.other).broken) ∧ count < chunk.length then
            some ((state.onConn side.other fun conn =>
              { conn with received := conn.received ++ chunk.take count }).goto side
                (.setDeadlineA .write))
          else none
      | _ => none
  | .setDeadlineA side =>
      match state.loop side with
      | .setDeadlineA cause => some ((state.setDeadline .a).goto side (.setDeadlineB cause))
      | _ => none
  | .setDeadlineB side =>
      match state.loop side with
      | .setDeadlineB cause => some ((state.setDeadline .b).goto side (.done cause))
      | _ => none

@[simp] theorem Side.other_other (side : Side) : side.other.other = side := by
  cases side <;> rfl

@[simp] theorem Side.other_ne (side : Side) : side.other ≠ side := by
  cases side <;> decide

@[simp] theorem Side.ne_other (side : Side) : side ≠ side.other := side.other_ne.symm

theorem Side.eq_or_eq_other (side origin : Side) : side = origin ∨ side = origin.other := by
  cases side <;> cases origin <;> decide

/-! ### The statements that look at the loop -/

section Statements

variable {state next : State} {side : Side}

theorem write_eq_some (stepped : step state (.write side) = some next) :
    ∃ chunk err, state.loop side = .write chunk err ∧
      (expired (state.conn side.other).writeDeadline state.now = false ∧
        (state.conn side.other).broken = false) ∧
      next = (state.onConn side.other fun conn =>
        { conn with received := conn.received ++ chunk }).goto side (afterWrite err) := by
  simp only [step] at stepped
  split at stepped
  next chunk err here => exact ⟨chunk, err, here, guarded_eq_some stepped⟩
  next => contradiction

theorem writeFails_eq_some {count : Nat} (stepped : step state (.writeFails side count) = some next) :
    ∃ chunk err, state.loop side = .write chunk err ∧
      ((expired (state.conn side.other).writeDeadline state.now ∨
        (state.conn side.other).broken) ∧ count < chunk.length) ∧
      next = (state.onConn side.other fun conn =>
        { conn with received := conn.received ++ chunk.take count }).goto side
          (.setDeadlineA .write) := by
  simp only [step] at stepped
  split at stepped
  next chunk err here => exact ⟨chunk, err, here, guarded_eq_some stepped⟩
  next => contradiction

theorem setDeadlineA_eq_some (stepped : step state (.setDeadlineA side) = some next) :
    ∃ cause, state.loop side = .setDeadlineA cause ∧
      next = (state.setDeadline .a).goto side (.setDeadlineB cause) := by
  simp only [step] at stepped
  split at stepped
  next cause here => exact ⟨cause, here, (Option.some.inj stepped).symm⟩
  next => contradiction

theorem setDeadlineB_eq_some (stepped : step state (.setDeadlineB side) = some next) :
    ∃ cause, state.loop side = .setDeadlineB cause ∧
      next = (state.setDeadline .b).goto side (.done cause) := by
  simp only [step] at stepped
  split at stepped
  next cause here => exact ⟨cause, here, (Option.some.inj stepped).symm⟩
  next => contradiction

end Statements

namespace State

variable (state : State) (side : Side)

@[simp] theorem onConn_conn_same (change : Conn → Conn) :
    (state.onConn side change).conn side = change (state.conn side) := Function.update_self ..

@[simp] theorem onConn_conn_other (change : Conn → Conn) :
    (state.onConn side change).conn side.other = state.conn side.other :=
  Function.update_of_ne side.other_ne ..

@[simp] theorem onConn_other_conn (change : Conn → Conn) :
    (state.onConn side.other change).conn side = state.conn side :=
  Function.update_of_ne side.ne_other ..

/-- A field that a change of one connection keeps is the same on both. -/
theorem onConn_keeps {Field : Type} (field : Conn → Field) (change : Conn → Conn)
    (kept : ∀ conn, field (change conn) = field conn) (origin : Side) :
    field ((state.onConn side change).conn origin) = field (state.conn origin) := by
  rcases origin.eq_or_eq_other side with rfl | rfl
  · rw [onConn_conn_same, kept]
  · rw [onConn_conn_other]

@[simp] theorem onConn_loop (change : Conn → Conn) : (state.onConn side change).loop = state.loop :=
  rfl

@[simp] theorem onConn_now (change : Conn → Conn) : (state.onConn side change).now = state.now := rfl

@[simp] theorem goto_conn (loop : Loop) : (state.goto side loop).conn = state.conn := rfl

@[simp] theorem goto_now (loop : Loop) : (state.goto side loop).now = state.now := rfl

@[simp] theorem goto_loop_same (loop : Loop) : (state.goto side loop).loop side = loop :=
  Function.update_self ..

@[simp] theorem goto_loop_other (loop : Loop) :
    (state.goto side loop).loop side.other = state.loop side.other :=
  Function.update_of_ne side.other_ne ..

end State

/-! ### One direction -/

/-- What one loop moves: from the peer of one connection to the peer of the other. -/
structure Flow where
  arrived : Bytes
  unread : Bytes
  ended : Bool
  received : Bytes
  loop : Loop

def State.flow (state : State) (side : Side) : Flow where
  arrived := (state.conn side).arrived
  unread := (state.conn side).unread
  ended := (state.conn side).ended
  received := (state.conn side.other).received
  loop := state.loop side

/-- The steps of a direction; `stay` covers the other direction, the clock and the
deadlines. -/
inductive FlowStep (flow : Flow) : Flow → Prop where
  | stay : FlowStep flow flow
  | arrive (bytes : Bytes) (isOpen : flow.ended = false) :
      FlowStep flow { flow with arrived := flow.arrived ++ bytes, unread := flow.unread ++ bytes }
  | finish : FlowStep flow { flow with ended := true }
  | setReadDeadline (here : flow.loop = .setReadDeadline) :
      FlowStep flow { flow with loop := .read }
  | read (count : Nat) (err : Option ReadErr) (here : flow.loop = .read)
      (inside : count ≤ flow.unread.length)
      (atEnd : err = some .eof → flow.ended = true ∧ count = flow.unread.length) :
      FlowStep flow
        { flow with
          unread := flow.unread.drop count
          loop := if count > 0 then .write (flow.unread.take count) err else afterWrite err }
  | write (chunk : Bytes) (err : Option ReadErr) (here : flow.loop = .write chunk err) :
      FlowStep flow { flow with received := flow.received ++ chunk, loop := afterWrite err }
  | writeFails (chunk : Bytes) (err : Option ReadErr) (count : Nat)
      (here : flow.loop = .write chunk err) :
      FlowStep flow
        { flow with received := flow.received ++ chunk.take count, loop := .setDeadlineA .write }
  | leave (cause : Cause) (loop : Loop) (here : flow.loop.leftBy = some cause)
      (there : loop.leftBy = some cause) : FlowStep flow { flow with loop := loop }

theorem FlowStep.of_eq {flow next : Flow} (same : next = flow) : FlowStep flow next :=
  same ▸ .stay

theorem mayRead_count {conn : Conn} {now : Nat} {count : Nat} {err : Option ReadErr}
    (allowed : mayRead conn now count err) : count ≤ conn.unread.length := by
  match err with
  | none =>
      simp only [mayRead, Bool.and_eq_true, decide_eq_true_eq] at allowed
      omega
  | some .eof =>
      simp only [mayRead, Bool.and_eq_true, decide_eq_true_eq] at allowed
      omega
  | some .timeout =>
      simp only [mayRead, Bool.and_eq_true, decide_eq_true_eq] at allowed
      omega
  | some .reset =>
      simp only [mayRead, Bool.and_eq_true, decide_eq_true_eq] at allowed
      omega

theorem mayRead_eof {conn : Conn} {now : Nat} {count : Nat} {err : Option ReadErr}
    (allowed : mayRead conn now count err) (isEOF : err = some .eof) :
    conn.ended = true ∧ count = conn.unread.length := by
  subst isEOF
  simp only [mayRead, Bool.and_eq_true, decide_eq_true_eq] at allowed
  exact ⟨allowed.1.1.2, allowed.2⟩

/-- Deadlines are not part of a flow; a left loop only moves on. -/
theorem setDeadline_leave {state : State} {origin conn : Side} {cause : Cause} {before after : Loop}
    (here : state.loop origin = before) (left : before.leftBy = some cause)
    (stays : after.leftBy = some cause) (side : Side) :
    FlowStep (state.flow side) (((state.setDeadline conn).goto origin after).flow side) := by
  have sameConn : (state.setDeadline conn).flow side = state.flow side := by
    cases conn <;> cases side <;> rfl
  rcases side.eq_or_eq_other origin with rfl | rfl
  · have moved := @FlowStep.leave (state.flow side) cause after
      (by rw [State.flow, here, left]) stays
    rw [← sameConn] at moved ⊢
    simpa [State.flow] using moved
  · apply FlowStep.of_eq
    rw [← sameConn]
    simp [State.flow]

/-- Every step of the pipe is, for each direction, a step of its flow. -/
theorem step_flow {state next : State} {action : Action} (stepped : step state action = some next)
    (side : Side) : FlowStep (state.flow side) (next.flow side) := by
  cases action with
  | advance duration =>
      obtain rfl := Option.some.inj stepped
      exact .stay
  | arrive origin bytes =>
      obtain ⟨⟨isOpen, _⟩, rfl⟩ := guarded_eq_some stepped
      rcases side.eq_or_eq_other origin with rfl | rfl
      · have moved := @FlowStep.arrive (state.flow side) bytes isOpen
        simpa [State.flow] using moved
      · apply FlowStep.of_eq
        simp [State.flow]
  | finish origin =>
      obtain rfl := Option.some.inj stepped
      rcases side.eq_or_eq_other origin with rfl | rfl
      · have moved := @FlowStep.finish (state.flow side)
        simpa [State.flow] using moved
      · apply FlowStep.of_eq
        simp [State.flow]
  | reset origin =>
      obtain rfl := Option.some.inj stepped
      apply FlowStep.of_eq
      rcases side.eq_or_eq_other origin with rfl | rfl <;> simp [State.flow]
  | setReadDeadline origin =>
      obtain ⟨here, rfl⟩ := guarded_eq_some stepped
      rcases side.eq_or_eq_other origin with rfl | rfl
      · have moved := @FlowStep.setReadDeadline (state.flow side) here
        simpa [State.flow] using moved
      · apply FlowStep.of_eq
        simp [State.flow]
  | read origin count err =>
      obtain ⟨⟨here, allowed⟩, rfl⟩ := guarded_eq_some stepped
      rcases side.eq_or_eq_other origin with rfl | rfl
      · have moved := @FlowStep.read (state.flow side) count err here
          (mayRead_count allowed) (mayRead_eof allowed)
        simpa [State.flow] using moved
      · apply FlowStep.of_eq
        simp [State.flow]
  | write origin =>
      obtain ⟨chunk, err, here, _, rfl⟩ := write_eq_some stepped
      rcases side.eq_or_eq_other origin with rfl | rfl
      · have moved := @FlowStep.write (state.flow side) chunk err here
        simpa [State.flow] using moved
      · apply FlowStep.of_eq
        simp [State.flow]
  | writeFails origin count =>
      obtain ⟨chunk, err, here, _, rfl⟩ := writeFails_eq_some stepped
      rcases side.eq_or_eq_other origin with rfl | rfl
      · have moved := @FlowStep.writeFails (state.flow side) chunk err count here
        simpa [State.flow] using moved
      · apply FlowStep.of_eq
        simp [State.flow]
  | setDeadlineA origin =>
      obtain ⟨cause, here, rfl⟩ := setDeadlineA_eq_some stepped
      exact setDeadline_leave here rfl rfl side
  | setDeadlineB origin =>
      obtain ⟨cause, here, rfl⟩ := setDeadlineB_eq_some stepped
      exact setDeadline_leave here rfl rfl side

/-! ### What has been received -/

namespace Flow

/-- Received, in hand and unread bytes make up the stream, also after the loop was
left, unless a write failed; an end of file leaves nothing unread. -/
def Carries (flow : Flow) : Prop :=
  match flow.loop with
  | .setReadDeadline | .read => flow.arrived = flow.received ++ flow.unread
  | .write chunk err =>
      flow.arrived = flow.received ++ (chunk ++ flow.unread) ∧
        (err = some .eof → flow.ended = true ∧ flow.unread = [])
  | .setDeadlineA cause | .setDeadlineB cause | .done cause =>
      flow.received <+: flow.arrived ∧
        (cause ≠ .write → flow.arrived = flow.received ++ flow.unread) ∧
        (cause = .read .eof → flow.ended = true ∧ flow.unread = [])

variable {flow : Flow}

theorem Carries.of_running {loop : Loop} (here : flow.loop = loop)
    (running : loop = .setReadDeadline ∨ loop = .read) :
    flow.Carries ↔ flow.arrived = flow.received ++ flow.unread := by
  rcases running with rfl | rfl <;> simp [Carries, here]

theorem Carries.of_left {cause : Cause} (left : flow.loop.leftBy = some cause) :
    flow.Carries ↔ flow.received <+: flow.arrived ∧
      (cause ≠ .write → flow.arrived = flow.received ++ flow.unread) ∧
        (cause = .read .eof → flow.ended = true ∧ flow.unread = []) := by
  cases here : flow.loop <;> simp_all [Loop.leftBy, Carries]

/-- The loop goes on, or is left with all of the stream when the read ended it. -/
theorem Carries.afterWrite {err : Option ReadErr} (here : flow.loop = Tun.afterWrite err)
    (whole : flow.arrived = flow.received ++ flow.unread)
    (atEnd : err = some .eof → flow.ended = true ∧ flow.unread = []) : flow.Carries := by
  cases err with
  | none => exact (Carries.of_running here (.inl rfl)).mpr whole
  | some err =>
      have left : flow.loop.leftBy = some (.read err) := by
        rw [here]
        rfl
      apply (Carries.of_left left).mpr
      refine ⟨⟨flow.unread, whole.symm⟩, fun _ => whole, ?_⟩
      intro isEOF
      cases isEOF
      exact atEnd rfl

theorem Carries.arrive (carries : flow.Carries) (isOpen : flow.ended = false) (bytes : Bytes) :
    Carries { flow with arrived := flow.arrived ++ bytes, unread := flow.unread ++ bytes } := by
  cases here : flow.loop with
  | setReadDeadline | read =>
      have whole : flow.arrived = flow.received ++ flow.unread := by
        simpa [Carries, here] using carries
      simp [Carries, whole, List.append_assoc]
  | write chunk err =>
      obtain ⟨whole, atEnd⟩ : flow.arrived = flow.received ++ (chunk ++ flow.unread) ∧
          (err = some .eof → flow.ended = true ∧ flow.unread = []) := by
        simpa [Carries, here] using carries
      have notEOF : err ≠ some .eof := by
        intro isEOF
        simp [isOpen] at atEnd
        exact atEnd isEOF
      simp [Carries, whole, List.append_assoc, notEOF]
  | setDeadlineA cause | setDeadlineB cause | done cause =>
      obtain ⟨beginning, whole, atEnd⟩ : flow.received <+: flow.arrived ∧
          (cause ≠ .write → flow.arrived = flow.received ++ flow.unread) ∧
          (cause = .read .eof → flow.ended = true ∧ flow.unread = []) := by
        simpa [Carries, here] using carries
      have notEOF : cause ≠ .read .eof := by
        intro isEOF
        simp [isOpen] at atEnd
        exact atEnd isEOF
      simp only [Carries]
      refine ⟨beginning.trans (List.prefix_append _ _), ?_, fun isEOF => absurd isEOF notEOF⟩
      intro byRead
      rw [whole byRead, List.append_assoc]

theorem Carries.finish (carries : flow.Carries) : Carries { flow with ended := true } := by
  cases here : flow.loop <;> simp_all [Carries]

theorem Carries.read (carries : flow.Carries) {count : Nat} {err : Option ReadErr}
    (here : flow.loop = .read) (inside : count ≤ flow.unread.length)
    (atEnd : err = some .eof → flow.ended = true ∧ count = flow.unread.length) :
    Carries
      { flow with
        unread := flow.unread.drop count
        loop := if count > 0 then .write (flow.unread.take count) err
          else Tun.afterWrite err } := by
  have whole := (Carries.of_running here (.inr rfl)).mp carries
  have drained : err = some .eof → flow.ended = true ∧ flow.unread.drop count = [] := by
    intro isEOF
    obtain ⟨ended, all⟩ := atEnd isEOF
    exact ⟨ended, List.drop_eq_nil_of_le (by omega)⟩
  by_cases some_ : count > 0
  · simp only [if_pos some_, Carries, List.take_append_drop]
    exact ⟨whole, drained⟩
  · have nothing : count = 0 := by omega
    subst nothing
    apply Carries.afterWrite
    · rfl
    · exact whole
    · exact drained

theorem Carries.beginning (carries : flow.Carries) : flow.received <+: flow.arrived := by
  cases here : flow.loop with
  | setReadDeadline =>
      exact ⟨flow.unread, ((Carries.of_running here (.inl rfl)).mp carries).symm⟩
  | read => exact ⟨flow.unread, ((Carries.of_running here (.inr rfl)).mp carries).symm⟩
  | write chunk err =>
      simp only [Carries, here] at carries
      exact ⟨chunk ++ flow.unread, carries.1.symm⟩
  | setDeadlineA cause | setDeadlineB cause | done cause =>
      simp only [Carries, here] at carries
      exact carries.1

end Flow

theorem FlowStep.carries {flow next : Flow} (moved : FlowStep flow next) (carries : flow.Carries) :
    next.Carries := by
  cases moved with
  | stay => exact carries
  | arrive bytes isOpen => exact carries.arrive isOpen bytes
  | finish => exact carries.finish
  | setReadDeadline here =>
      exact (Flow.Carries.of_running rfl (.inr rfl)).mpr
        ((Flow.Carries.of_running here (.inl rfl)).mp carries)
  | read count err here inside atEnd => exact carries.read here inside atEnd
  | write chunk err here =>
      obtain ⟨whole, atEnd⟩ : flow.arrived = flow.received ++ (chunk ++ flow.unread) ∧
          (err = some .eof → flow.ended = true ∧ flow.unread = []) := by
        simpa [Flow.Carries, here] using carries
      apply Flow.Carries.afterWrite
      · rfl
      · simp [whole, List.append_assoc]
      · exact atEnd
  | writeFails chunk err count here =>
      obtain ⟨whole, _⟩ : flow.arrived = flow.received ++ (chunk ++ flow.unread) ∧
          (err = some .eof → flow.ended = true ∧ flow.unread = []) := by
        simpa [Flow.Carries, here] using carries
      apply (Flow.Carries.of_left rfl).mpr
      refine ⟨?_, fun byRead => by contradiction, fun isEOF => by contradiction⟩
      refine ⟨chunk.drop count ++ flow.unread, ?_⟩
      simp only [whole, List.append_assoc]
      rw [← List.append_assoc (chunk.take count), List.take_append_drop]
  | leave cause loop here there =>
      exact (Flow.Carries.of_left there).mpr ((Flow.Carries.of_left here).mp carries)

/-- In every reachable state each direction holds its stream together. -/
theorem run_carries {schedule : List Action} {state : State}
    (reached : run step initial schedule = some state) (side : Side) :
    (state.flow side).Carries := by
  have carried := @run_invariant State Action step (fun state => ∀ side, (state.flow side).Carries)
  apply carried ?_ ?_ reached
  · intro state action next carries stepped side
    exact (step_flow stepped side).carries (carries side)
  · intro side
    simp [initial, State.flow, Flow.Carries, freshConn]

end Gecit.Tun
