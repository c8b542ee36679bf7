import Gecit.Tun.Pipe

/-!
Contract: what `pipe` delivers when one side ends its stream first.

The loop that meets the end of its source sets the deadline of both connections, and
the other loop stops at its next read. The direction that ended is delivered whole;
the other one up to where its loop was stopped.

Owns the outcome at the end of the pipe without idle time, failed writes or resets.
-/

namespace Gecit.Tun

open Gecit.Foundation

/-- Writes succeed, nothing is reset, and while both loops run no read waits until
its deadline. -/
def Orderly (state : State) : Action → Prop
  | .writeFails _ _ => False
  | .reset _ => False
  | .advance duration => (∀ side, (state.loop side).leftBy = none) →
      ∀ side, state.loop side = .read →
        expired (state.conn side).readDeadline (state.now + duration) = false
  | _ => True

instance (state : State) (action : Action) : Decidable (Orderly state action) := by
  cases action <;> unfold Orderly <;> infer_instance

def State.endedByEOF (state : State) (side : Side) : Prop :=
  (state.loop side).leftBy = some (.read .eof)

/-- A loop that was left found the end of its source, or the other one did. -/
def State.FirstByEOF (state : State) : Prop :=
  ∀ side, (state.loop side).leftBy ≠ none → state.endedByEOF side ∨ state.endedByEOF side.other

structure Undisturbed (state : State) : Prop where
  intact : ∀ side, (state.conn side).broken = false
  inTime : (∀ side, (state.loop side).leftBy = none) → ∀ side, state.loop side = .read →
    expired (state.conn side).readDeadline state.now = false
  inHand : ∀ side chunk err, state.loop side = .write chunk err → err = none ∨ err = some .eof
  written : ∀ side, (state.loop side).leftBy ≠ some .write
  first : state.FirstByEOF

namespace Undisturbed

variable {state next : State}

/-- Nothing but the streams changed. -/
theorem of_same (undisturbed : Undisturbed state) (sameNow : next.now = state.now)
    (sameLoop : next.loop = state.loop)
    (sameBroken : ∀ side, (next.conn side).broken = (state.conn side).broken)
    (sameDeadline : ∀ side, (next.conn side).readDeadline = (state.conn side).readDeadline) :
    Undisturbed next := by
  refine ⟨?_, ?_, ?_, ?_, ?_⟩
  · intro side
    rw [sameBroken]
    exact undisturbed.intact side
  · rw [sameLoop, sameNow]
    intro bothRun side here
    rw [sameDeadline]
    exact undisturbed.inTime bothRun side here
  · rw [sameLoop]
    exact undisturbed.inHand
  · rw [sameLoop]
    exact undisturbed.written
  · intro side
    rw [State.endedByEOF, State.endedByEOF, sameLoop]
    exact undisturbed.first side

/-- One running loop moves on; if that leaves it, an end of file was found. -/
theorem of_goto {side : Side} {after : Loop} (undisturbed : Undisturbed state)
    (running : (state.loop side).leftBy = none) (sameNow : next.now = state.now)
    (here : next.loop side = after) (there : next.loop side.other = state.loop side.other)
    (sameBroken : ∀ side, (next.conn side).broken = (state.conn side).broken)
    (sameDeadline : (next.conn side.other).readDeadline = (state.conn side.other).readDeadline)
    (inTime : after = .read → expired (next.conn side).readDeadline next.now = false)
    (inHand : ∀ chunk err, after = .write chunk err → err = none ∨ err = some .eof)
    (written : after.leftBy ≠ some .write)
    (leaves : after.leftBy ≠ none →
      after.leftBy = some (.read .eof) ∨ state.endedByEOF side.other) : Undisturbed next := by
  refine ⟨?_, ?_, ?_, ?_, ?_⟩
  · intro origin
    rw [sameBroken]
    exact undisturbed.intact origin
  · intro bothRun origin reads
    rcases origin.eq_or_eq_other side with rfl | rfl
    · exact inTime (here.symm.trans reads)
    · rw [sameDeadline, sameNow]
      apply undisturbed.inTime
      · intro direction
        rcases direction.eq_or_eq_other side with rfl | rfl
        · exact running
        · rw [← there]
          exact bothRun side.other
      · rw [← there]
        exact reads
  · intro origin chunk err writes
    rcases origin.eq_or_eq_other side with rfl | rfl
    · exact inHand chunk err (here.symm.trans writes)
    · exact undisturbed.inHand side.other chunk err (there.symm.trans writes)
  · intro origin
    rcases origin.eq_or_eq_other side with rfl | rfl
    · rw [here]
      exact written
    · rw [there]
      exact undisturbed.written side.other
  · intro origin left
    rcases origin.eq_or_eq_other side with rfl | rfl
    · rw [here] at left
      rw [State.endedByEOF, State.endedByEOF, here, there]
      exact leaves left
    · rw [there] at left
      rw [State.endedByEOF, there]
      rcases undisturbed.first side.other left with byOther | bySide
      · exact .inl byOther
      · rw [State.endedByEOF, Side.other_other, running] at bySide
        contradiction

/-- The read that a loop may do without a reset: more bytes, the end of its source,
or the deadline that the other loop set. -/
theorem read_err (undisturbed : Undisturbed state) {side : Side} {count : Nat}
    {err : Option ReadErr} (here : state.loop side = .read)
    (allowed : mayRead (state.conn side) state.now count err) :
    err = none ∨ err = some .eof ∨
      (count = 0 ∧ err = some .timeout ∧ state.endedByEOF side.other) := by
  have running : (state.loop side).leftBy = none := by
    rw [here]
    rfl
  match err with
  | none => exact .inl rfl
  | some .eof => exact .inr (.inl rfl)
  | some .timeout =>
      simp only [mayRead, Bool.and_eq_true, decide_eq_true_eq] at allowed
      obtain ⟨late, nothing⟩ := allowed
      refine .inr (.inr ⟨nothing, rfl, ?_⟩)
      by_cases otherRuns : (state.loop side.other).leftBy = none
      · have bothRun : ∀ direction, (state.loop direction).leftBy = none := by
          intro direction
          rcases direction.eq_or_eq_other side with rfl | rfl
          · exact running
          · exact otherRuns
        have early := undisturbed.inTime bothRun side here
        rw [late] at early
        contradiction
      · rcases undisturbed.first side.other otherRuns with byOther | bySide
        · exact byOther
        · rw [State.endedByEOF, Side.other_other, running] at bySide
          contradiction
  | some .reset =>
      simp only [mayRead, undisturbed.intact side] at allowed
      contradiction

theorem read {side : Side} {count : Nat} {err : Option ReadErr} (undisturbed : Undisturbed state)
    (here : state.loop side = .read)
    (allowed : mayRead (state.conn side) state.now count err)
    (sameNow : next.now = state.now)
    (goes : next.loop side = if count > 0 then
      .write ((state.conn side).unread.take count) err else afterWrite err)
    (there : next.loop side.other = state.loop side.other)
    (sameBroken : ∀ side, (next.conn side).broken = (state.conn side).broken)
    (sameDeadline : (next.conn side.other).readDeadline = (state.conn side.other).readDeadline) :
    Undisturbed next := by
  have running : (state.loop side).leftBy = none := by
    rw [here]
    rfl
  have result := undisturbed.read_err here allowed
  by_cases someBytes : count > 0
  · rw [if_pos someBytes] at goes
    apply undisturbed.of_goto running sameNow goes there sameBroken sameDeadline
    · intro reads
      contradiction
    · intro chunk written writes
      cases writes
      rcases result with isNone | isEOF | ⟨nothing, _⟩
      · exact .inl isNone
      · exact .inr isEOF
      · omega
    · intro failed
      contradiction
    · intro left
      contradiction
  · rw [if_neg someBytes] at goes
    apply undisturbed.of_goto running sameNow goes there sameBroken sameDeadline
    · intro reads
      cases err <;> contradiction
    · intro chunk written writes
      cases err <;> contradiction
    · intro failed
      cases err with
      | none => contradiction
      | some err => simp [afterWrite, Loop.leftBy] at failed
    · intro left
      rcases result with rfl | rfl | ⟨_, rfl, byOther⟩
      · contradiction
      · exact .inl rfl
      · exact .inr byOther

theorem write {side : Side} {chunk : Bytes} {err : Option ReadErr} (undisturbed : Undisturbed state)
    (here : state.loop side = .write chunk err) (sameNow : next.now = state.now)
    (goes : next.loop side = afterWrite err)
    (there : next.loop side.other = state.loop side.other)
    (sameBroken : ∀ side, (next.conn side).broken = (state.conn side).broken)
    (sameDeadline : (next.conn side.other).readDeadline = (state.conn side.other).readDeadline) :
    Undisturbed next := by
  have running : (state.loop side).leftBy = none := by
    rw [here]
    rfl
  apply undisturbed.of_goto running sameNow goes there sameBroken sameDeadline
  · intro reads
    cases err <;> contradiction
  · intro chunk written writes
    cases err <;> contradiction
  · intro failed
    cases err with
    | none => contradiction
    | some err => simp [afterWrite, Loop.leftBy] at failed
  · intro left
    rcases undisturbed.inHand side chunk err here with rfl | rfl
    · contradiction
    · exact .inl rfl

/-- A left loop sets a deadline. -/
theorem setDeadline {side conn : Side} {cause : Cause} {before after : Loop}
    (undisturbed : Undisturbed state) (here : state.loop side = before)
    (left : before.leftBy = some cause) (stays : after.leftBy = some cause) :
    Undisturbed ((state.setDeadline conn).goto side after) := by
  have goes : ((state.setDeadline conn).goto side after).loop side = after :=
    State.goto_loop_same ..
  have there : ((state.setDeadline conn).goto side after).loop side.other =
      state.loop side.other := State.goto_loop_other ..
  have sameBroken : ∀ origin, (((state.setDeadline conn).goto side after).conn origin).broken =
      (state.conn origin).broken := by
    intro origin
    cases conn <;> cases origin <;> rfl
  rw [← here] at left
  have sameLeft : ∀ origin, (((state.setDeadline conn).goto side after).loop origin).leftBy =
      (state.loop origin).leftBy := by
    intro origin
    rcases origin.eq_or_eq_other side with rfl | rfl
    · rw [goes, stays, left]
    · rw [there]
  refine ⟨?_, ?_, ?_, ?_, ?_⟩
  · intro origin
    rw [sameBroken]
    exact undisturbed.intact origin
  · intro bothRun
    have stopped := bothRun side
    rw [goes, stays] at stopped
    contradiction
  · intro origin chunk err writes
    rcases origin.eq_or_eq_other side with rfl | rfl
    · rw [goes] at writes
      subst writes
      contradiction
    · exact undisturbed.inHand side.other chunk err (there.symm.trans writes)
  · intro origin
    rw [sameLeft]
    exact undisturbed.written origin
  · intro origin
    rw [State.endedByEOF, State.endedByEOF, sameLeft, sameLeft]
    exact undisturbed.first origin

theorem step {action : Action} (undisturbed : Undisturbed state) (orderly : Orderly state action)
    (stepped : Tun.step state action = some next) : Undisturbed next := by
  cases action with
  | advance duration =>
      obtain rfl := Option.some.inj stepped
      exact ⟨undisturbed.intact, orderly, undisturbed.inHand, undisturbed.written, undisturbed.first⟩
  | arrive origin bytes =>
      obtain ⟨_, rfl⟩ := guarded_eq_some stepped
      apply undisturbed.of_same
      · rfl
      · rfl
      · exact State.onConn_keeps _ _ Conn.broken _ fun _ => rfl
      · exact State.onConn_keeps _ _ Conn.readDeadline _ fun _ => rfl
  | finish origin =>
      obtain rfl := Option.some.inj stepped
      apply undisturbed.of_same
      · rfl
      · rfl
      · exact State.onConn_keeps _ _ Conn.broken _ fun _ => rfl
      · exact State.onConn_keeps _ _ Conn.readDeadline _ fun _ => rfl
  | reset origin => contradiction
  | setReadDeadline origin =>
      obtain ⟨here, rfl⟩ := guarded_eq_some stepped
      have running : (state.loop origin).leftBy = none := by
        rw [here]
        rfl
      apply undisturbed.of_goto running
      · rfl
      · exact State.goto_loop_same ..
      · exact State.goto_loop_other ..
      · rw [State.goto_conn]
        exact State.onConn_keeps _ _ Conn.broken _ fun _ => rfl
      · simp
      · intro _
        have later := Nat.lt_add_of_pos_right (n := state.now) idleTimeout_pos
        simpa using expired_some_eq_false.mpr later
      · intro chunk err writes
        contradiction
      · intro failed
        contradiction
      · intro left
        contradiction
  | read origin count err =>
      obtain ⟨⟨here, allowed⟩, rfl⟩ := guarded_eq_some stepped
      apply undisturbed.read here allowed
      · rfl
      · exact State.goto_loop_same ..
      · exact State.goto_loop_other ..
      · rw [State.goto_conn]
        exact State.onConn_keeps _ _ Conn.broken _ fun _ => rfl
      · simp
  | write origin =>
      obtain ⟨chunk, err, here, _, rfl⟩ := write_eq_some stepped
      apply undisturbed.write here
      · rfl
      · exact State.goto_loop_same ..
      · exact State.goto_loop_other ..
      · rw [State.goto_conn]
        exact State.onConn_keeps _ _ Conn.broken _ fun _ => rfl
      · simp
  | writeFails origin count => contradiction
  | setDeadlineA origin =>
      obtain ⟨cause, here, rfl⟩ := setDeadlineA_eq_some stepped
      exact undisturbed.setDeadline here rfl rfl
  | setDeadlineB origin =>
      obtain ⟨cause, here, rfl⟩ := setDeadlineB_eq_some stepped
      exact undisturbed.setDeadline here rfl rfl

end Undisturbed

/-- Each destination holds a beginning of the opposite stream; a loop that was left
delivered all it read, and all there is when it met the end of its source; the first
loop to be left did. -/
theorem pipe_delivers_ended_stream {schedule : List Action} {state : State}
    (reached : run step initial schedule = some state)
    (orderly : Meets step Orderly initial schedule) :
    (∀ side, (state.conn side.other).received <+: (state.conn side).arrived) ∧
      (∀ side, (state.loop side).leftBy ≠ none →
        (state.conn side).arrived = (state.conn side.other).received ++ (state.conn side).unread) ∧
      (∀ side, state.endedByEOF side → (state.conn side).ended = true ∧
        (state.conn side.other).received = (state.conn side).arrived) ∧
      state.FirstByEOF := by
  have start : Undisturbed initial := by
    refine ⟨fun _ => rfl, fun _ _ _ => rfl, ?_, ?_, ?_⟩
    · intro side chunk err writes
      contradiction
    · intro side failed
      contradiction
    · intro side left
      contradiction
  have undisturbed := run_meeting
    (fun current action next invariant allowed stepped => invariant.step allowed stepped)
    start reached orderly
  have carries := run_carries reached
  have allRead : ∀ side, (state.loop side).leftBy ≠ none →
      (state.conn side).arrived = (state.conn side.other).received ++ (state.conn side).unread := by
    intro side left
    obtain ⟨cause, leftBy⟩ := Option.ne_none_iff_exists'.mp left
    apply ((Flow.Carries.of_left leftBy).mp (carries side)).2.1
    intro failed
    exact undisturbed.written side (failed ▸ leftBy)
  refine ⟨fun side => (carries side).beginning, allRead, ?_, undisturbed.first⟩
  intro side byEOF
  have leftBy : (state.flow side).loop.leftBy = some (.read .eof) := byEOF
  obtain ⟨ended, drained⟩ : (state.conn side).ended = true ∧ (state.conn side).unread = [] :=
    ((Flow.Carries.of_left leftBy).mp (carries side)).2.2 rfl
  have whole := allRead side (by rw [byEOF]; exact Option.some_ne_none _)
  rw [drained, List.append_nil] at whole
  exact ⟨ended, whole.symm⟩

/-- A request followed by the end of the stream; the response is there before the loop
of the server's side reads again. -/
def requestThenEnd : List Action :=
  [.setReadDeadline .a, .setReadDeadline .b, .arrive .a [71, 69, 84], .finish .a,
    .read .a 3 none, .write .a, .setReadDeadline .a, .read .a 0 (some .eof),
    .setDeadlineA .a, .setDeadlineB .a, .arrive .b [50, 48, 48], .finish .b,
    .read .b 0 (some .timeout), .setDeadlineA .b, .setDeadlineB .b]

theorem pipe_delivers_ended_stream_request : ∃ state,
    run step initial requestThenEnd = some state ∧ state.FirstByEOF :=
  ⟨_, rfl, (@pipe_delivers_ended_stream requestThenEnd _ rfl (by decide)).2.2.2⟩

/-- The response is lost. -/
theorem pipe_drops_response : ¬ ∀ schedule state, run step initial schedule = some state →
    Meets step Orderly initial schedule →
      (∀ side, (state.loop side).leftBy ≠ none ∧ (state.conn side).ended = true) →
        ∀ side, (state.conn side.other).received = (state.conn side).arrived := by
  intro always
  have delivered := always requestThenEnd _ rfl (by decide) (by decide) .b
  contradiction

end Gecit.Tun
