import Gecit.Ebpf.Stop
import Gecit.Tun.Handler

/-!
Contract: `Stop` of the TUN engine beside the handlers of its connections.

`Stop` cancels, closes one component after the other and clears the global tracker. Closing the
stack ends the arrival of connections; the handlers that run go on. They and `Stop` take their
steps in any order.

Owns the engine with any number of handlers, and when a handler sends on the closed raw socket or
calls the tracker after it was cleared. Does not own what the handlers relay.
-/

namespace Gecit.Tun

open Gecit.Foundation
open Gecit.Go

/-- The next statement of `Stop`. -/
inductive StopStage where
  | cancel
  | closeStack
  | closeTun
  | closeRawSock
  | closeIfaceMonitor
  | closeNetworkMonitor
  | setSeqTracker
  | returned
deriving DecidableEq, Repr

/-- What remains after `m.rawSock.Close()`. -/
def StopStage.afterClose : List StopStage :=
  [.closeIfaceMonitor, .closeNetworkMonitor, .setSeqTracker, .returned]

structure Engine where
  stop : StopStage
  stackOpen : Bool
  rawSockOpen : Bool
  /-- The global tracker is not nil. -/
  hasTracker : Bool
  handlers : List Handler
  /-- `SendFake` was called on a closed socket. -/
  sentAfterClose : Bool
  /-- `WaitForSeqAck` was called on a nil tracker. -/
  calledNil : Bool
deriving DecidableEq

inductive EngineAction where
  /-- The next statement of `Stop` runs; the first one may do so at any time. -/
  | stop
  | newConnection (serverConn : Seqtrack.Endpoints) (dstPort : UInt16) (dst : GoString)
  | handler (i : Nat) (action : HandlerAction)

def HandlerAction.isSendFake : HandlerAction → Bool
  | .sendFake _ => true
  | _ => false

def HandlerAction.isWaitForSeqAck : HandlerAction → Bool
  | .waitForSeqAck => true
  | _ => false

namespace Engine

/-- After a successful `Start`, with the tracker or without it. -/
def active (hasTracker : Bool) : Engine where
  stop := .cancel
  stackOpen := true
  rawSockOpen := true
  hasTracker := hasTracker
  handlers := []
  sentAfterClose := false
  calledNil := false

def stopStep (engine : Engine) : Option Engine :=
  match engine.stop with
  | .cancel => some { engine with stop := .closeStack }
  | .closeStack => some { engine with stackOpen := false, stop := .closeTun }
  | .closeTun => some { engine with stop := .closeRawSock }
  | .closeRawSock => some { engine with rawSockOpen := false, stop := .closeIfaceMonitor }
  | .closeIfaceMonitor => some { engine with stop := .closeNetworkMonitor }
  | .closeNetworkMonitor => some { engine with stop := .setSeqTracker }
  | .setSeqTracker => some { engine with hasTracker := false, stop := .returned }
  | .returned => none

/-- Handler `i` has come to `next` by `action`. -/
def handled (engine : Engine) (i : Nat) (action : HandlerAction) (next : Handler) : Engine :=
  { engine with
    handlers := engine.handlers.set i next
    sentAfterClose := engine.sentAfterClose || (action.isSendFake && !engine.rawSockOpen)
    calledNil := engine.calledNil || (action.isWaitForSeqAck && !engine.hasTracker) }

def step (settings : Settings) (engine : Engine) : EngineAction → Option Engine
  | .stop => engine.stopStep
  | .newConnection serverConn dstPort dst =>
      if engine.stackOpen then
        some
          { engine with
            handlers := engine.handlers ++ [Handler.newConnectionEx serverConn dstPort dst] }
      else none
  | .handler i action =>
      engine.handlers[i]?.bind fun handler =>
        (handler.step settings engine.hasTracker action).map (engine.handled i action)

structure Safe (engine : Engine) : Prop where
  sends : engine.sentAfterClose = false
  calls : engine.calledNil = false

/-- The handler has its segment and has fakes to send for it. -/
def Owes : Stage → Prop
  | .getSeqAck _ | .waitForSeqAck _ | .waiting _ | .sendFake _ _ _ _ => True
  | _ => False

/-- The raw socket is closed while no handler owes fakes, and no handler gets its segment after
that. -/
def Quiet (engine : Engine) : EngineAction → Prop
  | .stop => engine.stop = .closeRawSock → ∀ handler ∈ engine.handlers, ¬ Owes handler.stage
  | .handler i (.appRead result) =>
      engine.rawSockOpen = false → ∀ handler ∈ engine.handlers[i]?, handler.stage = .readHello →
        result.failed = true
  | _ => True

instance (stage : Stage) : Decidable (Owes stage) := by
  unfold Owes
  split <;> infer_instance

instance (engine : Engine) (action : EngineAction) : Decidable (Quiet engine action) := by
  unfold Quiet
  split <;> infer_instance

/-- Some steps from here lead to a misuse. -/
def Misuses (settings : Settings) (engine : Engine) : Prop :=
  ∃ schedule final, run (step settings) engine schedule = some final ∧ ¬ final.Safe

/-- What holds as long as the condition does. -/
structure Calm (engine : Engine) : Prop where
  owes : engine.rawSockOpen = false → ∀ handler ∈ engine.handlers, ¬ Owes handler.stage
  tracked : ∀ handler ∈ engine.handlers, ∀ clientHello,
    handler.stage = .waitForSeqAck clientHello → engine.hasTracker = true
  closed : engine.stop ∈ StopStage.afterClose → engine.rawSockOpen = false
  safe : engine.Safe

variable {settings : Settings} {hasTracker : Bool} {engine next : Engine} {handler after : Handler}

/-! ### The handlers -/

/-- A handler owes fakes from the moment it has its segment. -/
theorem owes_before {action : HandlerAction}
    (moved : handler.Moves settings hasTracker action after)
    (owes : Owes after.stage) :
    Owes handler.stage ∨ ∃ result, action = .appRead result ∧ handler.stage = .readHello ∧
      result.failed = false := by
  cases moved with
  | hello here ok _ => exact .inr ⟨_, rfl, here, ok⟩
  | noTracker here | tracker here | waits here | numbers here | nextFake here =>
      left
      rw [here]
      trivial
  | @chunk result _ =>
      simp only [Handler.afterRead] at owes
      split at owes
      · exact owes.elim
      · split at owes <;> exact owes.elim
  | @wroteChunk _ failed _ => cases failed <;> exact owes.elim
  | _ => exact owes.elim

theorem owes_of_isSendFake {action : HandlerAction}
    (moved : handler.Moves settings hasTracker action after) (sends : action.isSendFake = true) :
    Owes handler.stage := by
  cases moved with
  | lastFake here | nextFake here =>
      rw [here]
      trivial
  | _ => contradiction

theorem stage_of_isWaitForSeqAck {action : HandlerAction}
    (moved : handler.Moves settings hasTracker action after)
    (calls : action.isWaitForSeqAck = true) :
    ∃ clientHello, handler.stage = .waitForSeqAck clientHello := by
  cases moved with
  | waits here | callsNil here => exact ⟨_, here⟩
  | _ => contradiction

/-! ### One step -/

theorem calm_active : (active hasTracker).Calm where
  owes := nofun
  tracked := nofun
  closed := nofun
  safe := ⟨rfl, rfl⟩

/-- `Stop` goes on without touching what the handlers use. -/
theorem Calm.goOn (calm : engine.Calm) (stop : StopStage) (stackOpen : Bool)
    (closed : stop ∈ StopStage.afterClose → engine.rawSockOpen = false) :
    { engine with stackOpen := stackOpen, stop := stop }.Calm where
  owes := calm.owes
  tracked := calm.tracked
  closed := closed
  safe := ⟨calm.safe.sends, calm.safe.calls⟩

theorem Calm.stopStep (calm : engine.Calm) (quiet : Quiet engine .stop)
    (stepped : engine.stopStep = some next) : next.Calm := by
  unfold Engine.stopStep at stepped
  split at stepped
  next here =>
    obtain rfl := Option.some.inj stepped
    exact calm.goOn .closeStack engine.stackOpen nofun
  next here =>
    obtain rfl := Option.some.inj stepped
    exact calm.goOn .closeTun false nofun
  next here =>
    obtain rfl := Option.some.inj stepped
    exact calm.goOn .closeRawSock engine.stackOpen nofun
  next here =>
    obtain rfl := Option.some.inj stepped
    exact ⟨fun _ => quiet here, calm.tracked, fun _ => rfl, ⟨calm.safe.sends, calm.safe.calls⟩⟩
  next here =>
    obtain rfl := Option.some.inj stepped
    have closed := calm.closed (by simp [StopStage.afterClose, here])
    exact calm.goOn .closeNetworkMonitor engine.stackOpen fun _ => closed
  next here =>
    obtain rfl := Option.some.inj stepped
    have closed := calm.closed (by simp [StopStage.afterClose, here])
    exact calm.goOn .setSeqTracker engine.stackOpen fun _ => closed
  next here =>
    obtain rfl := Option.some.inj stepped
    have closed := calm.closed (by simp [StopStage.afterClose, here])
    refine ⟨calm.owes, ?_, fun _ => closed, ⟨calm.safe.sends, calm.safe.calls⟩⟩
    -- The socket is closed, so no handler is on its way to the tracker.
    intro handler there clientHello calling
    refine absurd ?_ (calm.owes closed handler there)
    rw [calling]
    trivial
  next => contradiction

theorem Calm.handled {i : Nat} {action : HandlerAction} (calm : engine.Calm)
    (there : engine.handlers[i]? = some handler)
    (moved : handler.Moves settings engine.hasTracker action after)
    (quiet : Quiet engine (.handler i action)) : (engine.handled i action after).Calm := by
  have member : handler ∈ engine.handlers := List.mem_of_getElem? there
  refine ⟨?_, ?_, calm.closed, ⟨?_, ?_⟩⟩
  · intro closed other otherThere owes
    rcases List.mem_or_eq_of_mem_set otherThere with old | rfl
    · exact calm.owes closed other old owes
    · rcases owes_before moved owes with owed | ⟨result, rfl, here, ok⟩
      · exact calm.owes closed handler member owed
      · have failed := quiet closed handler there here
        rw [ok] at failed
        contradiction
  · intro other otherThere clientHello here
    rcases List.mem_or_eq_of_mem_set otherThere with old | rfl
    · exact calm.tracked other old clientHello here
    · exact moved.tracked here
  · have sends : (action.isSendFake && !engine.rawSockOpen) = false := by
      cases closed : engine.rawSockOpen with
      | true => simp
      | false =>
          cases isSendFake : action.isSendFake with
          | false => rfl
          | true =>
              have owes := owes_of_isSendFake moved isSendFake
              exact absurd owes (calm.owes closed handler member)
    show (engine.sentAfterClose || _) = false
    rw [calm.safe.sends, sends]
    rfl
  · have calls : (action.isWaitForSeqAck && !engine.hasTracker) = false := by
      cases calls : action.isWaitForSeqAck with
      | false => rfl
      | true =>
          obtain ⟨clientHello, here⟩ := stage_of_isWaitForSeqAck moved calls
          rw [calm.tracked handler member clientHello here]
          rfl
    show (engine.calledNil || _) = false
    rw [calm.safe.calls, calls]
    rfl

theorem step_handler {i : Nat} {action : HandlerAction}
    (stepped : step settings engine (.handler i action) = some next) :
    ∃ handler after, engine.handlers[i]? = some handler ∧
      handler.step settings engine.hasTracker action = some after ∧
      next = engine.handled i action after := by
  obtain ⟨handler, there, rest⟩ := Option.bind_eq_some_iff.mp stepped
  obtain ⟨after, moved, same⟩ := Option.map_eq_some_iff.mp rest
  exact ⟨handler, after, there, moved, same.symm⟩

theorem Calm.step {action : EngineAction} (calm : engine.Calm) (quiet : Quiet engine action)
    (stepped : step settings engine action = some next) : next.Calm := by
  cases action with
  | stop => exact calm.stopStep quiet stepped
  | newConnection serverConn dstPort dst =>
      obtain ⟨_, rfl⟩ := guarded_eq_some stepped
      refine ⟨?_, ?_, calm.closed, ⟨calm.safe.sends, calm.safe.calls⟩⟩
      · intro closed handler there
        rcases List.mem_append.mp there with old | new
        · exact calm.owes closed handler old
        · obtain rfl := List.mem_singleton.mp new
          exact id
      · intro handler there clientHello here
        rcases List.mem_append.mp there with old | new
        · exact calm.tracked handler old clientHello here
        · obtain rfl := List.mem_singleton.mp new
          contradiction
  | handler i action =>
      obtain ⟨handler, after, there, moved, rfl⟩ := step_handler stepped
      exact calm.handled there (Handler.moves moved) quiet

/-! ### A handler that owes fakes after the close -/

theorem Misuses.before {action : EngineAction} (misuses : next.Misuses settings)
    (stepped : step settings engine action = some next) : engine.Misuses settings := by
  obtain ⟨schedule, final, reached, misused⟩ := misuses
  refine ⟨action :: schedule, final, ?_, misused⟩
  rw [run, List.foldlM_cons, stepped]
  exact reached

theorem misuses_now (misused : ¬ engine.Safe) : engine.Misuses settings :=
  ⟨[], engine, rfl, misused⟩

section Owing

variable {i : Nat} (there : engine.handlers[i]? = some handler)

include there

theorem step_of_handler {action : HandlerAction}
    (moved : handler.step settings engine.hasTracker action = some after) :
    step settings engine (.handler i action) = some (engine.handled i action after) := by
  simp [step, there, moved]

theorem handled_there (action : HandlerAction) (after : Handler) :
    (engine.handled i action after).handlers[i]? = some after :=
  List.getElem?_set_self (List.getElem?_eq_some_iff.mp there).1

theorem misuses_of_sendFake (closed : engine.rawSockOpen = false) {clientHello : Bytes}
    {connInfo : Rawsock.ConnInfo} {ttl : Int} {turn : Nat}
    (here : handler.stage = .sendFake clientHello connInfo ttl turn) :
    engine.Misuses settings := by
  have moved : handler.step settings engine.hasTracker (.sendFake true) =
      some (handler.goto (.writeHello clientHello)) := by
    simp [Handler.step, here]
  refine (misuses_now ?_).before (step_of_handler there moved)
  intro safe
  have sends : (engine.sentAfterClose || !engine.rawSockOpen) = false := safe.sends
  simp [closed] at sends

theorem misuses_of_waiting (closed : engine.rawSockOpen = false) {clientHello : Bytes}
    (here : handler.stage = .waiting clientHello) : engine.Misuses settings := by
  have moved : handler.step settings engine.hasTracker (.seqAck Seqtrack.placeholder) =
      some (handler.injectFakes settings clientHello Seqtrack.placeholder) := by
    simp [Handler.step, here]
  refine Misuses.before ?_ (step_of_handler there moved)
  exact misuses_of_sendFake (handled_there there _ _) closed rfl

theorem misuses_of_waitForSeqAck (closed : engine.rawSockOpen = false) {clientHello : Bytes}
    (here : handler.stage = .waitForSeqAck clientHello) : engine.Misuses settings := by
  cases tracker : engine.hasTracker with
  | true =>
      have moved : handler.step settings engine.hasTracker .waitForSeqAck =
          some (handler.goto (.waiting clientHello)) := by
        simp [Handler.step, here, tracker]
      refine Misuses.before ?_ (step_of_handler there moved)
      exact misuses_of_waiting (handled_there there _ _) closed rfl
  | false =>
      have moved : handler.step settings engine.hasTracker .waitForSeqAck =
          some (handler.goto .panicked) := by
        simp [Handler.step, here, tracker]
      refine (misuses_now ?_).before (step_of_handler there moved)
      intro safe
      have calls : (engine.calledNil || !engine.hasTracker) = false := safe.calls
      simp [tracker] at calls

theorem misuses_of_getSeqAck (closed : engine.rawSockOpen = false) {clientHello : Bytes}
    (here : handler.stage = .getSeqAck clientHello) : engine.Misuses settings := by
  cases tracker : engine.hasTracker with
  | true =>
      have moved : handler.step settings engine.hasTracker .getSeqAck =
          some (handler.goto (.waitForSeqAck clientHello)) := by
        simp [Handler.step, here, tracker]
      refine Misuses.before ?_ (step_of_handler there moved)
      exact misuses_of_waitForSeqAck (handled_there there _ _) closed rfl
  | false =>
      have moved : handler.step settings engine.hasTracker .getSeqAck =
          some (handler.injectFakes settings clientHello Seqtrack.placeholder) := by
        simp [Handler.step, here, tracker]
      refine Misuses.before ?_ (step_of_handler there moved)
      exact misuses_of_sendFake (handled_there there _ _) closed rfl

theorem misuses_of_owes (closed : engine.rawSockOpen = false) (owes : Owes handler.stage) :
    engine.Misuses settings := by
  cases here : handler.stage with
  | getSeqAck => exact misuses_of_getSeqAck there closed here
  | waitForSeqAck => exact misuses_of_waitForSeqAck there closed here
  | waiting => exact misuses_of_waiting there closed here
  | sendFake => exact misuses_of_sendFake there closed here
  | _ =>
      rw [here] at owes
      exact owes.elim

end Owing

/-- The condition leaves out no step that a misuse does not follow from. -/
theorem misuses_of_not_quiet {action : EngineAction}
    (stepped : step settings engine action = some next) (loud : ¬ Quiet engine action) :
    next.Misuses settings := by
  cases action with
  | stop =>
      simp only [Quiet, Classical.not_imp, not_forall, not_not] at loud
      obtain ⟨here, handler, member, owes⟩ := loud
      obtain ⟨i, there⟩ := List.mem_iff_getElem?.mp member
      simp only [step, Engine.stopStep, here] at stepped
      obtain rfl := Option.some.inj stepped
      exact misuses_of_owes there rfl owes
  | newConnection => exact absurd trivial loud
  | handler i action =>
      cases action with
      | appRead result =>
          simp only [Quiet, Classical.not_imp, not_forall, Bool.not_eq_true] at loud
          obtain ⟨closed, handler, there, here, ok⟩ := loud
          obtain ⟨_, after, same, moved, rfl⟩ := step_handler stepped
          obtain rfl := Option.some.inj (there.symm.trans same)
          refine misuses_of_owes (handled_there there _ _) closed ?_
          simp only [Handler.step, here] at moved
          obtain ⟨_, rfl⟩ := guarded_eq_some moved
          obtain ⟨dst, read⟩ := @Handler.readHello_ok handler result ok
          rw [read]
          trivial
      | _ => exact absurd trivial loud

/-! ### The whole run -/

/-- However `Stop` and the work in flight take their steps: the Linux engine never sends on its
closed raw socket; the TUN engine neither does that nor calls a nil tracker, in every run in which
the raw socket is closed while no handler owes fakes and no handler gets its segment after that. -/
theorem no_torn_down_use (linuxSchedule : List Ebpf.EngineAction) (settings : Settings)
    (hasTracker : Bool) (schedule : List EngineAction) :
    Always Ebpf.Engine.step Ebpf.Engine.Safe Ebpf.Engine.active linuxSchedule ∧
      (Meets (step settings) Quiet (active hasTracker) schedule →
        Always (step settings) Safe (active hasTracker) schedule) := by
  refine ⟨Ebpf.Engine.always_safe linuxSchedule, ?_⟩
  intro quiet
  apply always_of_meets ?_ ?_ calm_active quiet
  · intro engine action next calm quietNow stepped
    exact calm.step quietNow stepped
  · intro engine calm
    exact calm.safe

/-- One handler sends its fakes, then the engine stops. -/
def injectThenStop : List EngineAction :=
  [.newConnection Handler.webServer 443 [], .handler 0 (.dialServer true),
    .handler 0 (.appRead ⟨[22, 3, 1], false⟩), .handler 0 .getSeqAck, .handler 0 .waitForSeqAck,
    .handler 0 (.seqAck (7, 9, 55)), .handler 0 (.sendFake true), .stop, .stop, .stop, .stop,
    .handler 0 .serverWrite, .stop, .stop, .stop]

theorem no_torn_down_use_inject_then_stop :
    Always (step (newManager [] 0)) Safe (active true) injectThenStop := by
  apply (no_torn_down_use [] (newManager [] 0) true injectThenStop).2
  decide

/-- `Stop` runs as a whole while one handler waits for its numbers. -/
def stopDuringWait : List EngineAction :=
  [.newConnection Handler.webServer 443 [], .handler 0 (.dialServer true),
    .handler 0 (.appRead ⟨[22, 3, 1], false⟩), .handler 0 .getSeqAck, .handler 0 .waitForSeqAck] ++
    List.replicate 7 .stop ++
    [.handler 0 (.seqAck Seqtrack.placeholder), .handler 0 (.sendFake true)]

/-- The same between the test of the tracker and the call. -/
def stopBeforeCall : List EngineAction :=
  [.newConnection Handler.webServer 443 [], .handler 0 (.dialServer true),
    .handler 0 (.appRead ⟨[22, 3, 1], false⟩), .handler 0 .getSeqAck] ++
    List.replicate 7 .stop ++ [.handler 0 .waitForSeqAck]

theorem stop_tears_down_used :
    (∃ final, run (step (newManager [] 0)) (active true) stopDuringWait = some final ∧
      final.sentAfterClose = true) ∧
    ∃ final, run (step (newManager [] 0)) (active true) stopBeforeCall = some final ∧
      final.calledNil = true :=
  ⟨⟨_, rfl, rfl⟩, ⟨_, rfl, rfl⟩⟩

end Engine

end Gecit.Tun
