import Gecit.Tun.Pipe

/-!
Contract: the idle timeout of `pipe`.

Each loop arms its own read deadline, and either loop ends both. So a pipe stays up as
long as each of its two directions has data within the timeout; data in one direction
alone does not keep it up.

Owns the timed schedules of the peers and the life of the loops under them. Time passes
only while every loop waits for data or is done: the loops take no time of their own.
-/

namespace Gecit.Tun

open Gecit.Foundation

def Loop.isDone : Loop → Bool
  | done _ => true
  | _ => false

def State.Waits (state : State) (side : Side) : Prop :=
  state.loop side = .read ∧ (state.conn side).unread = []

/-- The peers neither close nor fail, and time passes between the loops' steps. -/
def PeersStay (state : State) : Action → Prop
  | .advance _ => ∀ side, state.Waits side ∨ (state.loop side).isDone = true
  | .finish _ => False
  | .reset _ => False
  | _ => True

/-- No window of `idleTimeout` passes without data in one direction or the other. -/
def SomeFlow (state : State) : Action → Prop
  | .advance duration => state.now + duration <
      max (state.conn .a).lastArrival (state.conn .b).lastArrival + idleTimeout
  | _ => True

/-- No window of `idleTimeout` passes without data in each direction. -/
def BothFlow (state : State) : Action → Prop
  | .advance duration => ∀ side, state.now + duration < (state.conn side).lastArrival + idleTimeout
  | _ => True

instance (state : State) (side : Side) : Decidable (state.Waits side) :=
  inferInstanceAs (Decidable (state.loop side = .read ∧ (state.conn side).unread = []))

instance decidablePeersStay (state : State) : ∀ action, Decidable (PeersStay state action)
  | .advance _ =>
      inferInstanceAs (Decidable (∀ side, state.Waits side ∨ (state.loop side).isDone = true))
  | .finish _ | .reset _ => inferInstanceAs (Decidable False)
  | .arrive _ _ | .setReadDeadline _ | .read _ _ _ | .write _ | .writeFails _ _ | .setDeadlineA _
  | .setDeadlineB _ => inferInstanceAs (Decidable True)

instance decidableSomeFlow (state : State) : ∀ action, Decidable (SomeFlow state action)
  | .advance duration => Nat.decLt (state.now + duration) _
  | .arrive _ _ | .finish _ | .reset _ | .setReadDeadline _ | .read _ _ _ | .write _
  | .writeFails _ _ | .setDeadlineA _ | .setDeadlineB _ => inferInstanceAs (Decidable True)

instance decidableBothFlow (state : State) : ∀ action, Decidable (BothFlow state action)
  | .advance duration => inferInstanceAs
      (Decidable (∀ side, state.now + duration < (state.conn side).lastArrival + idleTimeout))
  | .arrive _ _ | .finish _ | .reset _ | .setReadDeadline _ | .read _ _ _ | .write _
  | .writeFails _ _ | .setDeadlineA _ | .setDeadlineB _ => inferInstanceAs (Decidable True)

/-- No loop was left and no deadline was forced: `SetDeadline` would set the deadline
for writing, which nothing else does. -/
def State.Uncut (state : State) : Prop :=
  ∀ side, (state.loop side).leftBy = none ∧ (state.conn side).writeDeadline = none

/-- One direction of a pipe that stays up. -/
structure Live (now : Nat) (conn : Conn) (loop : Loop) : Prop where
  isOpen : conn.ended = false
  intact : conn.broken = false
  unforced : conn.writeDeadline = none
  arrivals : conn.lastArrival ≤ now
  running : loop.leftBy = none
  inTime : loop = .read → ∃ deadline, conn.readDeadline = some deadline ∧ now < deadline ∧
    (conn.unread = [] → conn.lastArrival + idleTimeout ≤ deadline)
  inHand : ∀ chunk err, loop = .write chunk err → err = none

def State.Lives (state : State) : Prop :=
  ∀ side, Live state.now (state.conn side) (state.loop side)

section Steps

variable {now : Nat} {conn : Conn} {loop : Loop}

theorem Live.advance (live : Live now conn loop) {duration : Nat} (here : loop = .read)
    (drained : conn.unread = []) (flows : now + duration < conn.lastArrival + idleTimeout) :
    Live (now + duration) conn loop := by
  obtain ⟨deadline, armed, _, late⟩ := live.inTime here
  have covered := late drained
  refine { live with arrivals := ?_, inTime := ?_ }
  · have past := live.arrivals
    omega
  · intro _
    exact ⟨deadline, armed, by omega, late⟩

theorem Live.arrive (live : Live now conn loop) {bytes : Bytes} (nonempty : bytes ≠ []) :
    Live now
      { conn with
        arrived := conn.arrived ++ bytes
        unread := conn.unread ++ bytes
        lastArrival := now } loop := by
  refine { live with arrivals := Nat.le_refl now, inTime := ?_ }
  intro here
  obtain ⟨deadline, armed, early, _⟩ := live.inTime here
  refine ⟨deadline, armed, early, ?_⟩
  intro empty
  exact absurd (List.append_eq_nil_iff.mp empty).2 nonempty

theorem Live.setReadDeadline (live : Live now conn loop) :
    Live now { conn with readDeadline := some (now + idleTimeout) } .read := by
  refine { live with running := rfl, inTime := ?_, inHand := ?_ }
  · intro _
    have past := live.arrivals
    have positive := idleTimeout_pos
    refine ⟨now + idleTimeout, rfl, by omega, ?_⟩
    intro _
    exact Nat.add_le_add_right past idleTimeout
  · intro chunk err writes
    contradiction

/-- A read in time gives bytes without an error. -/
theorem Live.read_err (live : Live now conn loop) (here : loop = .read) {count : Nat}
    {err : Option ReadErr} (allowed : mayRead conn now count err) : err = none := by
  obtain ⟨deadline, armed, early, _⟩ := live.inTime here
  have inTime := expired_some_eq_false.mpr early
  match err with
  | none => rfl
  | some .eof => simp [mayRead, live.isOpen] at allowed
  | some .timeout => simp [mayRead, armed, inTime] at allowed
  | some .reset => simp [mayRead, live.intact] at allowed

/-- A loop that is not about to read. -/
theorem Live.goto (live : Live now conn loop) {unread received : Bytes} {after : Loop}
    (running : after.leftBy = none) (notRead : after ≠ .read)
    (inHand : ∀ chunk err, after = .write chunk err → err = none) :
    Live now { conn with unread := unread, received := received } after :=
  { live with running := running, inTime := fun here => absurd here notRead, inHand := inHand }

/-- What the other loop writes does not matter. -/
theorem Live.receive (live : Live now conn loop) (received : Bytes) :
    Live now { conn with received := received } loop :=
  { live with }

end Steps

theorem State.Lives.step {state next : State} {action : Action} (lives : state.Lives)
    (peers : PeersStay state action) (flows : BothFlow state action)
    (stepped : Tun.step state action = some next) : next.Lives := by
  intro side
  cases action with
  | advance duration =>
      obtain rfl := Option.some.inj stepped
      rcases peers side with ⟨here, drained⟩ | isDone
      · exact (lives side).advance here drained (flows side)
      · have running := (lives side).running
        cases here : state.loop side <;> simp_all [Loop.isDone, Loop.leftBy]
  | arrive origin bytes =>
      obtain ⟨⟨_, nonempty⟩, rfl⟩ := guarded_eq_some stepped
      rcases side.eq_or_eq_other origin with rfl | rfl
      · simpa using (lives side).arrive nonempty
      · simpa using lives origin.other
  | finish origin => contradiction
  | reset origin => contradiction
  | setReadDeadline origin =>
      obtain ⟨_, rfl⟩ := guarded_eq_some stepped
      rcases side.eq_or_eq_other origin with rfl | rfl
      · simpa using (lives side).setReadDeadline
      · simpa using lives origin.other
  | read origin count err =>
      obtain ⟨⟨here, allowed⟩, rfl⟩ := guarded_eq_some stepped
      obtain rfl := (lives origin).read_err here allowed
      rcases side.eq_or_eq_other origin with rfl | rfl
      · by_cases someBytes : count > 0
        · simp only [if_pos someBytes, State.goto_loop_same, State.goto_conn, State.goto_now,
            State.onConn_conn_same, State.onConn_now]
          apply (lives side).goto rfl
          · intro reads
            contradiction
          · intro chunk err writes
            cases writes
            rfl
        · simp only [if_neg someBytes, State.goto_loop_same, State.goto_conn, State.goto_now,
            State.onConn_conn_same, State.onConn_now]
          apply (lives side).goto rfl
          · intro reads
            contradiction
          · intro chunk err writes
            contradiction
      · simpa using lives origin.other
  | write origin =>
      obtain ⟨chunk, err, here, _, rfl⟩ := write_eq_some stepped
      obtain rfl := (lives origin).inHand chunk err here
      rcases side.eq_or_eq_other origin with rfl | rfl
      · simp only [State.goto_loop_same, State.goto_conn, State.goto_now,
          State.onConn_other_conn, State.onConn_now]
        apply (lives side).goto rfl
        · intro reads
          contradiction
        · intro chunk err writes
          contradiction
      · simpa using (lives origin.other).receive _
  | writeFails origin count =>
      obtain ⟨_, _, _, ⟨fails, _⟩, _⟩ := writeFails_eq_some stepped
      rw [(lives origin.other).unforced, (lives origin.other).intact] at fails
      simp [expired] at fails
  | setDeadlineA origin =>
      have running := (lives origin).running
      obtain ⟨cause, here, _⟩ := setDeadlineA_eq_some stepped
      simp [here, Loop.leftBy] at running
  | setDeadlineB origin =>
      have running := (lives origin).running
      obtain ⟨cause, here, _⟩ := setDeadlineB_eq_some stepped
      simp [here, Loop.leftBy] at running

/-- Data in each direction within the timeout keeps both loops running and no deadline
is forced. -/
theorem pipe_stays_up {schedule : List Action} {state : State}
    (reached : run step initial schedule = some state)
    (peers : Meets step PeersStay initial schedule)
    (flows : Meets step BothFlow initial schedule) : state.Uncut := by
  have start : initial.Lives := by
    intro side
    refine ⟨rfl, rfl, rfl, Nat.le_refl 0, rfl, ?_, ?_⟩
    · intro reads
      contradiction
    · intro chunk err writes
      contradiction
  have lives := run_meeting
    (fun current action next invariant allowed stepped =>
      invariant.step allowed.1 allowed.2 stepped)
    start reached (peers.and flows)
  exact fun side => ⟨(lives side).running, (lives side).unforced⟩

def minute : Nat := 60 * 1000000000

/-- Both sides send a byte in the third minute; another three minutes pass. -/
def bothSend : List Action :=
  [.setReadDeadline .a, .setReadDeadline .b, .advance (3 * minute), .arrive .a [1], .arrive .b [2],
    .read .a 1 none, .write .a, .setReadDeadline .a, .read .b 1 none, .write .b,
    .setReadDeadline .b, .advance (3 * minute)]

theorem pipe_stays_up_both_send : ∃ state,
    run step initial bothSend = some state ∧ state.Uncut :=
  ⟨_, rfl, @pipe_stays_up bothSend _ rfl (by decide) (by decide)⟩

/-- Only the first side sends, and the loop of the silent side meets its deadline. -/
def oneSends : List Action :=
  [.setReadDeadline .a, .setReadDeadline .b, .advance (3 * minute), .arrive .a [1],
    .read .a 1 none, .write .a, .setReadDeadline .a, .advance (3 * minute),
    .read .b 0 (some .timeout)]

theorem pipe_cuts_one_way_transfer : ¬ ∀ schedule state,
    run step initial schedule = some state → Meets step PeersStay initial schedule →
      Meets step SomeFlow initial schedule → state.Uncut := by
  intro always
  have uncut := always oneSends _ rfl (by decide) (by decide) .b
  exact absurd uncut.1 (by decide)

end Gecit.Tun
