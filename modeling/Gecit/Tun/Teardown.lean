import Gecit.Tun.Idle

/-!
Contract: the end of `pipe`, from the moment one loop has set its last deadline.

A loop that has left sets the deadline of both connections to now, so that the other loop
fails wherever it stands: in its read or in its write. A loop that stands in front of its own
`SetReadDeadline` does not fail there, but moves the deadline back into the future.

Owns what one step does to the deadlines and the loops, and exactly which teardowns hold. Does
not own what the pipe delivers.
-/

namespace Gecit.Tun

open Gecit.Foundation

/-! ### Claims about the end -/

def readPassed (state : State) (conn : Side) : Bool :=
  expired (state.conn conn).readDeadline state.now

def writePassed (state : State) (conn : Side) : Bool :=
  expired (state.conn conn).writeDeadline state.now

/-- `pipe` can return without any time passing. -/
def ReturnsAtOnce (state : State) : Prop :=
  ∃ schedule final, run step state schedule = some final ∧ final.now = state.now ∧
    ∀ side, (final.loop side).isDone = true

/-- In every way on, the read deadline of both connections stays in the past and each `Read`
fails without a byte, and `pipe` returns at once. -/
structure NeverUndone (state : State) : Prop where
  passed : ∀ schedule final, run step state schedule = some final →
    ∀ conn, readPassed final conn = true
  fails : ∀ schedule final, run step state schedule = some final →
    ∀ conn count err, mayRead (final.conn conn) final.now count err = true →
      count = 0 ∧ err.isSome = true
  returns : ReturnsAtOnce state

/-- Once a loop has set its last deadline, the teardown is never undone. -/
def TeardownKept (state : State) : Prop :=
  (∃ side, (state.loop side).isDone = true) → NeverUndone state

/-- Where the other loop stands when a loop sets its last deadline: not in front of its own
`SetReadDeadline`, and not behind one that came after the deadline of `a` was set. -/
def AtTeardown (state : State) : Action → Prop
  | .setDeadlineB side => state.loop side.other ≠ .setReadDeadline ∧ readPassed state .a = true
  | _ => True

instance decidableAtTeardown (state : State) : ∀ action, Decidable (AtTeardown state action)
  | .setDeadlineB side => inferInstanceAs
      (Decidable (state.loop side.other ≠ .setReadDeadline ∧ readPassed state .a = true))
  | .advance _ | .arrive _ _ | .finish _ | .reset _ | .setReadDeadline _ | .read _ _ _ | .write _
  | .writeFails _ _ | .setDeadlineA _ => inferInstanceAs (Decidable True)

/-! ### One step -/

/-- The loop whose statement an action is. -/
def Action.loop : Action → Option Side
  | .advance _ | .arrive _ _ | .finish _ | .reset _ => none
  | .setReadDeadline side | .read side _ _ | .write side | .writeFails side _
  | .setDeadlineA side | .setDeadlineB side => some side

/-- The connection whose deadlines an action sets to now. -/
def Action.sets : Action → Option Side
  | .setDeadlineA _ => some .a
  | .setDeadlineB _ => some .b
  | _ => none

/-- The statements of the loop that reads from `side`. -/
inductive LoopStep (state : State) (side : Side) : Action → Loop → Loop → Prop where
  | setReadDeadline : LoopStep state side (.setReadDeadline side) .setReadDeadline .read
  | read (count : Nat) (err : Option ReadErr)
      (allowed : mayRead (state.conn side) state.now count err = true) :
      LoopStep state side (.read side count err) .read
        (if count > 0 then .write ((state.conn side).unread.take count) err else afterWrite err)
  | write (chunk : Bytes) (err : Option ReadErr) (inTime : writePassed state side.other = false) :
      LoopStep state side (.write side) (.write chunk err) (afterWrite err)
  | writeFails (chunk : Bytes) (err : Option ReadErr) (count : Nat) :
      LoopStep state side (.writeFails side count) (.write chunk err) (.setDeadlineA .write)
  | setDeadlineA (cause : Cause) :
      LoopStep state side (.setDeadlineA side) (.setDeadlineA cause) (.setDeadlineB cause)
  | setDeadlineB (cause : Cause) :
      LoopStep state side (.setDeadlineB side) (.setDeadlineB cause) (.done cause)

/-- The other connection's deadlines, and the moment both are set to. -/
theorem setDeadline_conn (state : State) (side conn : Side) :
    (state.setDeadline side).conn conn = if conn = side then
      { state.conn conn with readDeadline := some state.now, writeDeadline := some state.now }
    else state.conn conn := by
  rcases conn.eq_or_eq_other side with rfl | rfl
  · simp [State.setDeadline]
  · simp [State.setDeadline]

/-- What a step does to the deadlines of a connection. -/
structure Deadlines (state : State) (action : Action) (conn : Side) (next : State) : Prop where
  now : state.now ≤ next.now
  read : action ≠ .setReadDeadline conn →
    (next.conn conn).readDeadline = (state.conn conn).readDeadline ∨
      (next.conn conn).readDeadline = some state.now
  write : (next.conn conn).writeDeadline = (state.conn conn).writeDeadline ∨
    (next.conn conn).writeDeadline = some state.now
  forced : action.sets = some conn → (next.conn conn).readDeadline = some state.now ∧
    (next.conn conn).writeDeadline = some state.now

/-- A change of a connection that keeps its deadlines. -/
theorem Deadlines.of_onConn {state next : State} {action : Action} {conn side : Side}
    {change : Conn → Conn} (setsNone : action.sets = none) (now : next.now = state.now)
    (changed : next.conn = (state.onConn side change).conn)
    (sameRead : ∀ conn, (change conn).readDeadline = conn.readDeadline)
    (sameWrite : ∀ conn, (change conn).writeDeadline = conn.writeDeadline) :
    Deadlines state action conn next where
  now := now.ge
  read := fun _ => .inl (changed ▸ state.onConn_keeps side Conn.readDeadline change sameRead conn)
  write := .inl (changed ▸ state.onConn_keeps side Conn.writeDeadline change sameWrite conn)
  forced := fun sets => by
    rw [setsNone] at sets
    contradiction

theorem Deadlines.of_setDeadline {state next : State} {action : Action} {conn side : Side}
    (setsSide : action.sets = some side) (now : next.now = state.now)
    (changed : next.conn = (state.setDeadline side).conn) : Deadlines state action conn next := by
  have here := setDeadline_conn state side conn
  rw [← changed] at here
  refine ⟨now.ge, fun _ => ?_, ?_, ?_⟩
  · rw [here]
    split <;> simp
  · rw [here]
    split <;> simp
  · intro sets
    obtain rfl := Option.some.inj (setsSide.symm.trans sets)
    rw [here, if_pos rfl]
    exact ⟨rfl, rfl⟩

theorem step_deadlines {state next : State} {action : Action}
    (stepped : step state action = some next) (conn : Side) : Deadlines state action conn next := by
  cases action with
  | advance duration =>
      obtain rfl := Option.some.inj stepped
      exact ⟨Nat.le_add_right _ _, fun _ => .inl rfl, .inl rfl, fun sets => nomatch sets⟩
  | arrive origin bytes =>
      obtain ⟨_, rfl⟩ := guarded_eq_some stepped
      exact .of_onConn rfl rfl rfl (fun _ => rfl) fun _ => rfl
  | finish origin =>
      obtain rfl := Option.some.inj stepped
      exact .of_onConn rfl rfl rfl (fun _ => rfl) fun _ => rfl
  | reset origin =>
      obtain rfl := Option.some.inj stepped
      exact .of_onConn rfl rfl rfl (fun _ => rfl) fun _ => rfl
  | setReadDeadline origin =>
      obtain ⟨_, rfl⟩ := guarded_eq_some stepped
      refine ⟨le_refl _, fun elsewhere => .inl ?_, .inl ?_, fun sets => nomatch sets⟩
      · rcases conn.eq_or_eq_other origin with rfl | rfl
        · exact absurd rfl elsewhere
        · simp
      · rw [State.goto_conn]
        apply state.onConn_keeps origin Conn.writeDeadline
        exact fun _ => rfl
  | read origin count err =>
      obtain ⟨_, rfl⟩ := guarded_eq_some stepped
      refine .of_onConn rfl rfl (State.goto_conn ..) ?_ ?_ <;> exact fun _ => rfl
  | write origin =>
      obtain ⟨_, _, _, _, rfl⟩ := write_eq_some stepped
      refine .of_onConn rfl rfl (State.goto_conn ..) ?_ ?_ <;> exact fun _ => rfl
  | writeFails origin count =>
      obtain ⟨_, _, _, _, rfl⟩ := writeFails_eq_some stepped
      refine .of_onConn rfl rfl (State.goto_conn ..) ?_ ?_ <;> exact fun _ => rfl
  | setDeadlineA origin =>
      obtain ⟨_, _, rfl⟩ := setDeadlineA_eq_some stepped
      exact .of_setDeadline rfl rfl rfl
  | setDeadlineB origin =>
      obtain ⟨_, _, rfl⟩ := setDeadlineB_eq_some stepped
      exact .of_setDeadline rfl rfl rfl

/-- A step of the environment, or of the other loop, leaves a loop where it stands. -/
theorem step_loop_other {state next : State} {action : Action}
    (stepped : step state action = some next) {side : Side} (notOwn : action.loop ≠ some side) :
    next.loop side = state.loop side := by
  have elsewhere : ∀ origin, action.loop = some origin → origin = side.other := by
    intro origin isOrigin
    rcases origin.eq_or_eq_other side with rfl | same
    · exact absurd isOrigin notOwn
    · exact same
  cases action with
  | advance duration | finish origin | reset origin =>
      obtain rfl := Option.some.inj stepped
      rfl
  | arrive origin bytes =>
      obtain ⟨_, rfl⟩ := guarded_eq_some stepped
      rfl
  | setReadDeadline origin | read origin count err =>
      obtain rfl := elsewhere origin rfl
      obtain ⟨_, rfl⟩ := guarded_eq_some stepped
      simp [State.goto]
  | write origin =>
      obtain rfl := elsewhere origin rfl
      obtain ⟨_, _, _, _, rfl⟩ := write_eq_some stepped
      simp [State.goto]
  | writeFails origin count =>
      obtain rfl := elsewhere origin rfl
      obtain ⟨_, _, _, _, rfl⟩ := writeFails_eq_some stepped
      simp [State.goto]
  | setDeadlineA origin =>
      obtain rfl := elsewhere origin rfl
      obtain ⟨_, _, rfl⟩ := setDeadlineA_eq_some stepped
      simp [State.goto, State.setDeadline]
  | setDeadlineB origin =>
      obtain rfl := elsewhere origin rfl
      obtain ⟨_, _, rfl⟩ := setDeadlineB_eq_some stepped
      simp [State.goto, State.setDeadline]

/-- A loop's own step is one of its statements. -/
theorem step_loop_own {state next : State} {action : Action}
    (stepped : step state action = some next) {side : Side} (own : action.loop = some side) :
    LoopStep state side action (state.loop side) (next.loop side) := by
  cases action with
  | advance duration | arrive origin bytes | finish origin | reset origin => contradiction
  | setReadDeadline origin =>
      obtain rfl := Option.some.inj own
      obtain ⟨here, rfl⟩ := guarded_eq_some stepped
      rw [here, State.goto_loop_same]
      exact .setReadDeadline
  | read origin count err =>
      obtain rfl := Option.some.inj own
      obtain ⟨⟨here, allowed⟩, rfl⟩ := guarded_eq_some stepped
      rw [here, State.goto_loop_same]
      exact .read count err allowed
  | write origin =>
      obtain rfl := Option.some.inj own
      obtain ⟨chunk, err, here, ⟨inTime, _⟩, rfl⟩ := write_eq_some stepped
      rw [here, State.goto_loop_same]
      exact .write chunk err inTime
  | writeFails origin count =>
      obtain rfl := Option.some.inj own
      obtain ⟨chunk, err, here, _, rfl⟩ := writeFails_eq_some stepped
      rw [here, State.goto_loop_same]
      exact .writeFails chunk err count
  | setDeadlineA origin =>
      obtain rfl := Option.some.inj own
      obtain ⟨cause, here, rfl⟩ := setDeadlineA_eq_some stepped
      rw [here, State.goto_loop_same]
      exact .setDeadlineA cause
  | setDeadlineB origin =>
      obtain rfl := Option.some.inj own
      obtain ⟨cause, here, rfl⟩ := setDeadlineB_eq_some stepped
      rw [here, State.goto_loop_same]
      exact .setDeadlineB cause

/-! ### Deadlines that have passed -/

theorem expired_later {deadline : Option Nat} {now later : Nat}
    (passed : expired deadline now = true) (le : now ≤ later) : expired deadline later = true := by
  cases deadline with
  | none => contradiction
  | some moment =>
      simp only [expired, Option.any_some, decide_eq_true_eq] at passed ⊢
      exact passed.trans le

namespace Deadlines

variable {state next : State} {action : Action} {conn : Side}

theorem readPassed (deadlines : Deadlines state action conn next)
    (notArmed : action ≠ .setReadDeadline conn) (passed : readPassed state conn = true) :
    readPassed next conn = true := by
  unfold Tun.readPassed at passed ⊢
  rcases deadlines.read notArmed with same | forced
  · rw [same]
    exact expired_later passed deadlines.now
  · rw [forced]
    simpa [expired] using deadlines.now

theorem writePassed (deadlines : Deadlines state action conn next)
    (passed : writePassed state conn = true) : writePassed next conn = true := by
  unfold Tun.writePassed at passed ⊢
  rcases deadlines.write with same | forced
  · rw [same]
    exact expired_later passed deadlines.now
  · rw [forced]
    simpa [expired] using deadlines.now

theorem forcedPassed (deadlines : Deadlines state action conn next)
    (sets : action.sets = some conn) :
    Tun.readPassed next conn = true ∧ Tun.writePassed next conn = true := by
  obtain ⟨read, write⟩ := deadlines.forced sets
  unfold Tun.readPassed Tun.writePassed
  rw [read, write]
  simpa [expired] using deadlines.now

end Deadlines

/-! ### A teardown that holds -/

/-- The loop that reads from `side` has set its last deadline, every deadline has passed, and
the other loop is not about to move one. -/
structure TornDown (side : Side) (state : State) : Prop where
  done : (state.loop side).isDone = true
  read : ∀ conn, readPassed state conn = true
  write : ∀ conn, writePassed state conn = true
  notBefore : state.loop side.other ≠ .setReadDeadline

/-- Behind its deadline a `Read` fails, without a byte. -/
theorem mayRead_passed {conn : Conn} {now count : Nat} {err : Option ReadErr}
    (passed : expired conn.readDeadline now = true) (allowed : mayRead conn now count err = true) :
    count = 0 ∧ err.isSome = true := by
  match err with
  | none | some .eof => simp [mayRead, passed] at allowed
  | some .timeout | some .reset =>
      simp only [mayRead, Bool.and_eq_true, decide_eq_true_eq] at allowed
      exact ⟨allowed.2, rfl⟩

theorem afterWrite_ne_setReadDeadline {err : Option ReadErr} (failed : err.isSome = true) :
    afterWrite err ≠ .setReadDeadline := by
  cases err with
  | none => contradiction
  | some err => simp [afterWrite]

/-- Behind a deadline that has passed no statement leads back in front of `SetReadDeadline`. -/
theorem LoopStep.notBefore {state : State} {side : Side} {action : Action} {before after : Loop}
    (moved : LoopStep state side action before after) (notBefore : before ≠ .setReadDeadline)
    (read : readPassed state side = true) (write : writePassed state side.other = true) :
    after ≠ .setReadDeadline := by
  cases moved with
  | setReadDeadline => contradiction
  | read count err allowed =>
      obtain ⟨none, failed⟩ := mayRead_passed read allowed
      rw [if_neg (by omega)]
      exact afterWrite_ne_setReadDeadline failed
  | write chunk err inTime =>
      rw [write] at inTime
      contradiction
  | writeFails chunk err count => simp
  | setDeadlineA cause => simp
  | setDeadlineB cause => simp

theorem LoopStep.notDone {state : State} {side : Side} {action : Action} {before after : Loop}
    (moved : LoopStep state side action before after) : before.isDone = false := by
  cases moved <;> rfl

/-- A loop arms its deadline only where it stands in front of that. -/
theorem LoopStep.arms {state : State} {side : Side} {before after : Loop}
    (moved : LoopStep state side (.setReadDeadline side) before after) :
    before = .setReadDeadline := by
  cases moved
  rfl

theorem TornDown.preserved {side : Side} {state next : State} {action : Action}
    (torn : TornDown side state) (stepped : step state action = some next) :
    TornDown side next := by
  have notOwn : action.loop ≠ some side := by
    intro own
    have notDone := (step_loop_own stepped own).notDone
    rw [torn.done] at notDone
    contradiction
  have done : (next.loop side).isDone = true := by
    rw [step_loop_other stepped notOwn]
    exact torn.done
  have notBefore : next.loop side.other ≠ .setReadDeadline := by
    by_cases own : action.loop = some side.other
    · have write : writePassed state side.other.other = true := torn.write _
      exact (step_loop_own stepped own).notBefore torn.notBefore (torn.read side.other) write
    · rw [step_loop_other stepped own]
      exact torn.notBefore
  have notArmed : ∀ conn, action ≠ .setReadDeadline conn := by
    rintro conn rfl
    have before := (@step_loop_own state next (.setReadDeadline conn) stepped conn rfl).arms
    rcases conn.eq_or_eq_other side with rfl | rfl
    · exact notOwn rfl
    · exact torn.notBefore before
  refine ⟨done, ?_, ?_, notBefore⟩
  · exact fun conn => (step_deadlines stepped conn).readPassed (notArmed conn) (torn.read conn)
  · exact fun conn => (step_deadlines stepped conn).writePassed (torn.write conn)

/-- What holds in every state: there is something to write, and the deadline for writing has
passed where a loop has set it. -/
structure Held (state : State) : Prop where
  inHand : ∀ side chunk err, state.loop side = .write chunk err → chunk ≠ []
  first : ∀ side cause, state.loop side = .setDeadlineB cause → writePassed state .a = true
  last : ∀ side, (state.loop side).isDone = true → ∀ conn, writePassed state conn = true

theorem LoopStep.inHand {state : State} {side : Side} {action : Action} {before after : Loop}
    (moved : LoopStep state side action before after) {chunk : Bytes} {err : Option ReadErr}
    (writes : after = .write chunk err) : chunk ≠ [] := by
  cases moved with
  | read count readErr allowed =>
      have inside := mayRead_count allowed
      split at writes
      next positive =>
        obtain ⟨rfl, rfl⟩ := Loop.write.inj writes
        intro empty
        have lengths := congrArg List.length empty
        rw [List.length_take, List.length_nil] at lengths
        omega
      next => cases readErr <;> contradiction
  | write chunk' err' inTime => cases err' <;> contradiction
  | setReadDeadline | writeFails | setDeadlineA | setDeadlineB => contradiction

theorem LoopStep.first {state : State} {side : Side} {action : Action} {before after : Loop}
    (moved : LoopStep state side action before after) {cause : Cause}
    (there : after = .setDeadlineB cause) : action = .setDeadlineA side := by
  cases moved with
  | read count err allowed =>
      split at there
      · contradiction
      · cases err <;> contradiction
  | write chunk err inTime => cases err <;> contradiction
  | setDeadlineA cause => rfl
  | setReadDeadline | writeFails | setDeadlineB => contradiction

theorem LoopStep.last {state : State} {side : Side} {action : Action} {before after : Loop}
    (moved : LoopStep state side action before after) (there : after.isDone = true) :
    action = .setDeadlineB side ∧ ∃ cause, before = .setDeadlineB cause := by
  cases moved with
  | read count err allowed =>
      split at there
      · contradiction
      · cases err <;> contradiction
  | write chunk err inTime => cases err <;> contradiction
  | setDeadlineB cause => exact ⟨rfl, cause, rfl⟩
  | setReadDeadline | writeFails | setDeadlineA => contradiction

theorem Held.preserved {state next : State} {action : Action} (held : Held state)
    (stepped : step state action = some next) : Held next := by
  have passed := fun conn => (step_deadlines stepped conn).writePassed
  refine ⟨?_, ?_, ?_⟩
  · intro side chunk err writes
    by_cases own : action.loop = some side
    · exact (step_loop_own stepped own).inHand writes
    · rw [step_loop_other stepped own] at writes
      exact held.inHand side chunk err writes
  · intro side cause there
    by_cases own : action.loop = some side
    · obtain rfl := (step_loop_own stepped own).first there
      exact ((step_deadlines stepped .a).forcedPassed rfl).2
    · rw [step_loop_other stepped own] at there
      exact passed .a (held.first side cause there)
  · intro side done conn
    by_cases own : action.loop = some side
    · obtain ⟨rfl, cause, before⟩ := (step_loop_own stepped own).last done
      cases conn with
      | a => exact passed .a (held.first side cause before)
      | b => exact ((step_deadlines stepped .b).forcedPassed rfl).2
    · rw [step_loop_other stepped own] at done
      exact passed conn (held.last side done conn)

theorem held_initial : Held initial := by
  refine ⟨?_, ?_, ?_⟩ <;> intros <;> contradiction

/-! ### The way to the end -/

theorem ReturnsAtOnce.of_step {state next : State} {action : Action}
    (stepped : step state action = some next) (sameTime : next.now = state.now)
    (returns : ReturnsAtOnce next) : ReturnsAtOnce state := by
  obtain ⟨schedule, final, reached, atOnce, done⟩ := returns
  refine ⟨action :: schedule, final, ?_, atOnce.trans sameTime, done⟩
  rw [run, List.foldlM_cons, stepped]
  exact reached

namespace TornDown

variable {side : Side} {state : State}

theorem returns_of_done (torn : TornDown side state)
    (there : (state.loop side.other).isDone = true) : ReturnsAtOnce state := by
  refine ⟨[], state, rfl, rfl, ?_⟩
  intro conn
  rcases conn.eq_or_eq_other side with rfl | rfl
  · exact torn.done
  · exact there

theorem returns_of_setDeadlineB (torn : TornDown side state) {cause : Cause}
    (there : state.loop side.other = .setDeadlineB cause) : ReturnsAtOnce state := by
  have stepped : step state (.setDeadlineB side.other) =
      some ((state.setDeadline .b).goto side.other (.done cause)) := by
    simp only [step, there]
  apply ReturnsAtOnce.of_step stepped rfl
  apply (torn.preserved stepped).returns_of_done
  rw [State.goto_loop_same]
  rfl

theorem returns_of_setDeadlineA (torn : TornDown side state) {cause : Cause}
    (there : state.loop side.other = .setDeadlineA cause) : ReturnsAtOnce state := by
  have stepped : step state (.setDeadlineA side.other) =
      some ((state.setDeadline .a).goto side.other (.setDeadlineB cause)) := by
    simp only [step, there]
  apply ReturnsAtOnce.of_step stepped rfl
  exact (torn.preserved stepped).returns_of_setDeadlineB (State.goto_loop_same ..)

/-- Wherever the other loop stands, its next statement fails or sets a deadline to now. -/
theorem returns (torn : TornDown side state) (held : Held state) : ReturnsAtOnce state := by
  cases there : state.loop side.other with
  | setReadDeadline => exact absurd there torn.notBefore
  | read =>
      have stepped : ∃ next, step state (.read side.other 0 (some .timeout)) = some next ∧
          next.now = state.now ∧ next.loop side.other = .setDeadlineA (.read .timeout) := by
        have passed := torn.read side.other
        unfold readPassed at passed
        simp [step, there, mayRead, passed, afterWrite]
      obtain ⟨next, stepped, sameTime, later⟩ := stepped
      exact .of_step stepped sameTime ((torn.preserved stepped).returns_of_setDeadlineA later)
  | write chunk err =>
      have nonempty := List.length_pos_of_ne_nil (held.inHand side.other chunk err there)
      have stepped : ∃ next, step state (.writeFails side.other 0) = some next ∧
          next.now = state.now ∧ next.loop side.other = .setDeadlineA .write := by
        have passed := torn.write side
        unfold writePassed at passed
        simp [step, there, passed, nonempty]
      obtain ⟨next, stepped, sameTime, later⟩ := stepped
      exact .of_step stepped sameTime ((torn.preserved stepped).returns_of_setDeadlineA later)
  | setDeadlineA cause => exact torn.returns_of_setDeadlineA there
  | setDeadlineB cause => exact torn.returns_of_setDeadlineB there
  | done cause => exact torn.returns_of_done (by rw [there]; rfl)

theorem neverUndone (torn : TornDown side state) (held : Held state) : NeverUndone state := by
  have kept : ∀ schedule final, run step state schedule = some final → TornDown side final :=
    fun schedule final reached =>
      run_invariant (fun _ _ _ torn stepped => torn.preserved stepped) torn reached
  refine ⟨?_, ?_, torn.returns held⟩
  · exact fun schedule final reached => (kept schedule final reached).read
  · intro schedule final reached conn count err allowed
    exact mayRead_passed ((kept schedule final reached).read conn) allowed

end TornDown

/-- A loop in front of its `SetReadDeadline` takes that step. -/
theorem step_setReadDeadline {state : State} {side : Side}
    (before : state.loop side = .setReadDeadline) :
    ∃ next, step state (.setReadDeadline side) = some next ∧
      (next.conn side).readDeadline = some (state.now + idleTimeout) ∧ next.now = state.now := by
  refine ⟨_, if_pos before, ?_, rfl⟩
  rw [State.goto_conn, State.onConn_conn_same]

/-- A teardown holds exactly when the other loop is not about to move its deadline. -/
theorem teardownKept_iff {state : State} (held : Held state) :
    TeardownKept state ↔ ∀ side, (state.loop side).isDone = true → TornDown side state := by
  constructor
  · intro kept side done
    have never := kept ⟨side, done⟩
    refine ⟨done, never.passed [] state rfl, held.last side done, ?_⟩
    intro before
    obtain ⟨next, stepped, armed, sameTime⟩ := step_setReadDeadline before
    have reached : run step state [.setReadDeadline side.other] = some next := by
      rw [run, List.foldlM_cons, stepped]
      rfl
    have passed := never.passed _ next reached side.other
    rw [readPassed, armed, sameTime] at passed
    have later : state.now < state.now + idleTimeout := Nat.lt_add_of_pos_right idleTimeout_pos
    rw [expired_some_eq_false.mpr later] at passed
    contradiction
  · rintro torn ⟨side, done⟩
    exact (torn side done).neverUndone held

/-- The last deadline of a loop, and what it leaves of the other loop and of `a`. -/
theorem step_setDeadlineB {state next : State} {side : Side}
    (stepped : step state (.setDeadlineB side) = some next) :
    (next.loop side).isDone = true ∧ next.loop side.other = state.loop side.other ∧
      readPassed next .a = readPassed state .a := by
  obtain ⟨cause, _, rfl⟩ := setDeadlineB_eq_some stepped
  refine ⟨by rw [State.goto_loop_same]; rfl, State.goto_loop_other .., ?_⟩
  rw [readPassed, State.goto_conn, setDeadline_conn]
  rfl

theorem teardown_exact {state next : State} {action : Action} (held : Held state)
    (kept : TeardownKept state) (stepped : step state action = some next) :
    TeardownKept next ↔ AtTeardown state action := by
  rw [teardownKept_iff held] at kept
  rw [teardownKept_iff (held.preserved stepped)]
  -- A loop that was done before the step stays torn down.
  have before : ∀ side, (next.loop side).isDone = true → action ≠ .setDeadlineB side →
      TornDown side next := by
    intro side done notLast
    by_cases own : action.loop = some side
    · exact absurd ((step_loop_own stepped own).last done).1 notLast
    · rw [step_loop_other stepped own] at done
      exact (kept side done).preserved stepped
  by_cases last : ∃ side, action = .setDeadlineB side
  · obtain ⟨side, rfl⟩ := last
    obtain ⟨done, sameLoop, samePassed⟩ := step_setDeadlineB stepped
    constructor
    · intro torn
      have now := torn side done
      exact ⟨sameLoop ▸ now.notBefore, samePassed ▸ now.read .a⟩
    · rintro ⟨notBefore, passed⟩ conn doneThere
      by_cases same : conn = side
      · subst same
        refine ⟨doneThere, ?_, (held.preserved stepped).last conn doneThere, sameLoop ▸ notBefore⟩
        intro origin
        cases origin with
        | a => exact samePassed.trans passed
        | b => exact ((step_deadlines stepped .b).forcedPassed rfl).1
      · exact before conn doneThere fun isLast => same (Action.setDeadlineB.inj isLast).symm
  · have trivially : AtTeardown state action := by
      cases action with
      | setDeadlineB side => exact absurd ⟨side, rfl⟩ last
      | _ => trivial
    apply iff_of_true ?_ trivially
    exact fun side done => before side done fun isLast => last ⟨side, isLast⟩

/-- In a run, every teardown holds exactly when each loop that set its last deadline found the
other one in its read, in its write, or behind its loop. -/
theorem teardown_kept_iff {schedule : List Action} {final : State}
    (reached : run step initial schedule = some final) :
    Always step TeardownKept initial schedule ↔ Meets step AtTeardown initial schedule := by
  apply @always_iff_meets _ _ step Held TeardownKept AtTeardown ?_ ?_ _ _ _ held_initial ?_ reached
  · intro state action next held stepped
    exact held.preserved stepped
  · intro state action next held kept stepped
    exact teardown_exact held kept stepped
  · rintro ⟨side, done⟩
    contradiction

/-- The second side ends its stream while the loop of the first waits in its read. -/
def endsWhileReading : List Action :=
  [.setReadDeadline .a, .setReadDeadline .b, .finish .b, .read .b 0 (some .eof), .setDeadlineA .b,
    .setDeadlineB .b]

theorem teardown_kept_iff_reading : ∃ final, run step initial endsWhileReading = some final ∧
    (Always step TeardownKept initial endsWhileReading ↔
      Meets step AtTeardown initial endsWhileReading) :=
  ⟨_, rfl, @teardown_kept_iff endsWhileReading _ rfl⟩

/-- The same, while the first loop has just passed a byte on and is about to arm its deadline. -/
def endsWhileArming : List Action :=
  [.setReadDeadline .a, .setReadDeadline .b, .arrive .a [1], .read .a 1 none, .write .a,
    .finish .b, .read .b 0 (some .eof), .setDeadlineA .b, .setDeadlineB .b]

theorem teardown_undone : ¬ ∀ schedule final, run step initial schedule = some final →
    TeardownKept final := by
  intro keeps
  have kept := keeps endsWhileArming _ rfl
  have never := kept ⟨.b, by decide⟩
  have passed := never.passed [.setReadDeadline .a] _ rfl .a
  exact absurd passed (by decide)

end Gecit.Tun
