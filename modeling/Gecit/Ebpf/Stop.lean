import Gecit.Foundation.Transition
import Gecit.Ebpf.Layout

/-!
Contract: `Stop` of the Linux engine beside the goroutine that reads events.

`Stop` closes the reader, waits for the goroutine, and only then closes the raw socket. The two
take their steps in any order.

Owns both program counters and the raw socket. Does not own what is sent on it.
-/

namespace Gecit.Ebpf

open Gecit.Foundation

/-- The next statement of `Stop`. -/
inductive StopStage where
  | cancel
  | closeReader
  | wait
  | closeRawSock
  | closeLink
  | closeCollection
  | returned
deriving DecidableEq, Repr

/-- The next statement of `readEvents`. -/
inductive ReaderStage where
  | read
  | injectFake (evt : ConnEvent)
  /-- The goroutine has returned, and `wg.Done` has run. -/
  | done
deriving DecidableEq

structure Engine where
  stop : StopStage
  reader : ReaderStage
  rawSockOpen : Bool
  /-- `SendFake` was called on a closed socket. -/
  sentAfterClose : Bool
deriving DecidableEq

inductive EngineAction where
  /-- The next statement of `Stop` runs; the first one may do so at any time. -/
  | stop
  /-- `Read` returns a record, also one that it had before the reader was closed. -/
  | read (rawSample : Bytes)
  | readFails
  | sendFake

namespace Engine

/-- After a successful `Start`. -/
def active : Engine where
  stop := .cancel
  reader := .read
  rawSockOpen := true
  sentAfterClose := false

def stopStep (engine : Engine) : Option Engine :=
  match engine.stop with
  | .cancel => some { engine with stop := .closeReader }
  | .closeReader => some { engine with stop := .wait }
  | .wait => if engine.reader = .done then some { engine with stop := .closeRawSock } else none
  | .closeRawSock => some { engine with rawSockOpen := false, stop := .closeLink }
  | .closeLink => some { engine with stop := .closeCollection }
  | .closeCollection => some { engine with stop := .returned }
  | .returned => none

def step (engine : Engine) : EngineAction → Option Engine
  | .stop => engine.stopStep
  | .read rawSample =>
      match engine.reader with
      | .read =>
          match readEvents rawSample with
          | none => some engine
          | some evt => some { engine with reader := .injectFake evt }
      | _ => none
  | .readFails =>
      match engine.reader with
      | .read => some { engine with reader := .done }
      | _ => none
  | .sendFake =>
      match engine.reader with
      | .injectFake _ =>
          some
            { engine with
              reader := .read
              sentAfterClose := engine.sentAfterClose || !engine.rawSockOpen }
      | _ => none

def Safe (engine : Engine) : Prop := engine.sentAfterClose = false

/-- `Stop` has come past its wait. -/
def Joined (engine : Engine) : Prop :=
  engine.stop ∉ [StopStage.cancel, .closeReader, .wait]

structure Ordered (engine : Engine) : Prop where
  joined : engine.Joined → engine.reader = .done
  closed : engine.rawSockOpen = false → engine.Joined
  safe : engine.Safe

variable {engine next : Engine}

theorem ordered_active : active.Ordered where
  joined := fun joined => absurd (by decide) joined
  closed := nofun
  safe := rfl

/-- The goroutine takes a step only as long as `Stop` is not past its wait. -/
theorem Ordered.rawSockOpen_of_running (ordered : engine.Ordered) (running : engine.reader ≠ .done) :
    ¬ engine.Joined ∧ engine.rawSockOpen = true := by
  have waiting : ¬ engine.Joined := fun joined => running (ordered.joined joined)
  refine ⟨waiting, ?_⟩
  cases closed : engine.rawSockOpen with
  | true => rfl
  | false => exact absurd (ordered.closed closed) waiting

/-- `Stop` before its wait. -/
theorem Ordered.goOn (ordered : engine.Ordered) (waiting : ¬ engine.Joined) (stop : StopStage)
    (still : stop ∈ [StopStage.cancel, .closeReader, .wait]) :
    { engine with stop := stop }.Ordered where
  joined := fun joined => absurd still joined
  closed := fun closed => absurd (ordered.closed closed) waiting
  safe := ordered.safe

/-- `Stop` behind its wait. -/
theorem Ordered.finish (ordered : engine.Ordered) (joined : engine.Joined) (stop : StopStage)
    (past : stop ∉ [StopStage.cancel, .closeReader, .wait]) (rawSockOpen : Bool) :
    { engine with stop := stop, rawSockOpen := rawSockOpen }.Ordered where
  joined := fun _ => ordered.joined joined
  closed := fun _ => past
  safe := ordered.safe

theorem Ordered.stopStep (ordered : engine.Ordered) (stepped : engine.stopStep = some next) :
    next.Ordered := by
  unfold Engine.stopStep at stepped
  split at stepped
  next here =>
    obtain rfl := Option.some.inj stepped
    exact ordered.goOn (by simp [Joined, here]) .closeReader (by decide)
  next here =>
    obtain rfl := Option.some.inj stepped
    exact ordered.goOn (by simp [Joined, here]) .wait (by decide)
  next here =>
    obtain ⟨done, rfl⟩ := guarded_eq_some stepped
    exact ⟨fun _ => done, fun _ => by simp [Joined], ordered.safe⟩
  next here =>
    obtain rfl := Option.some.inj stepped
    exact ordered.finish (by simp [Joined, here]) .closeLink (by decide) false
  next here =>
    obtain rfl := Option.some.inj stepped
    exact ordered.finish (by simp [Joined, here]) .closeCollection (by decide) engine.rawSockOpen
  next here =>
    obtain rfl := Option.some.inj stepped
    exact ordered.finish (by simp [Joined, here]) .returned (by decide) engine.rawSockOpen
  next => contradiction

theorem Ordered.step {action : EngineAction} (ordered : engine.Ordered)
    (stepped : engine.step action = some next) : next.Ordered := by
  cases action with
  | stop => exact ordered.stopStep stepped
  | read rawSample =>
      simp only [Engine.step] at stepped
      split at stepped
      next here =>
        have running := ordered.rawSockOpen_of_running (by simp [here])
        split at stepped
        · obtain rfl := Option.some.inj stepped
          exact ordered
        · obtain rfl := Option.some.inj stepped
          exact ⟨fun joined => absurd joined running.1, ordered.closed, ordered.safe⟩
      next => contradiction
  | readFails =>
      simp only [Engine.step] at stepped
      split at stepped
      · obtain rfl := Option.some.inj stepped
        exact ⟨fun _ => rfl, ordered.closed, ordered.safe⟩
      · contradiction
  | sendFake =>
      simp only [Engine.step] at stepped
      split at stepped
      next evt here =>
        obtain ⟨waiting, rawSockOpen⟩ := ordered.rawSockOpen_of_running (by simp [here])
        obtain rfl := Option.some.inj stepped
        refine ⟨fun joined => absurd joined waiting, ordered.closed, ?_⟩
        have safe : engine.sentAfterClose = false := ordered.safe
        simp [Safe, safe, rawSockOpen]
      next => contradiction

/-- Wherever the goroutine is when `Stop` runs, it does not send on a closed socket. -/
theorem always_safe (schedule : List EngineAction) : Always step Safe active schedule := by
  apply @always_of_meets Engine EngineAction step Ordered Safe (fun _ _ => True)
  · intro engine action next ordered _ stepped
    exact ordered.step stepped
  · intro engine ordered
    exact ordered.safe
  · exact ordered_active
  · exact meets_of_forall (fun _ _ => trivial) active

end Engine

end Gecit.Ebpf
