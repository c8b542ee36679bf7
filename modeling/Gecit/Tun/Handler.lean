import Gecit.Fake.Sni
import Gecit.Seqtrack.SeqTracker
import Gecit.Tun.FakeTtl
import Gecit.Tun.Pipe

/-!
Contract: the TCP handler of the TUN engine, from the dial to the end of the copy loop.

For a target port the first segment is read on its own, fakes are injected, and then it is
written; everything after it goes through the loop of `pipe` from the application to the server.

Owns the steps of one handler, what it has read and what it has written, and the condition under
which the two agree. Writes to the server succeed and no deadline expires. Does not own the
direction from the server to the application.
-/

namespace Gecit.Tun

open Gecit.Foundation
open Gecit.Go
open Gecit.Rawsock

/-- What the handler uses of its `Manager`. -/
structure Settings where
  FakeTTL : Int
  targetPorts : List UInt16

def newManager (ports : List UInt16) (ttl : Int) : Settings where
  FakeTTL := newManagerTTL ttl
  targetPorts := if ports = [] then [443] else ports

/-- The result of one `Read` of the application's connection. -/
structure ReadResult where
  bytes : Bytes
  failed : Bool
deriving DecidableEq, Repr

/-- The next statement of a handler. -/
inductive Stage where
  | dialServer
  | readHello
  /-- `GetSeqAck` tests the global tracker. -/
  | getSeqAck (clientHello : Bytes)
  /-- It reads the global a second time, to call its method. -/
  | waitForSeqAck (clientHello : Bytes)
  /-- Inside `WaitForSeqAck`. -/
  | waiting (clientHello : Bytes)
  /-- The loop of fakes, at turn `i`. -/
  | sendFake (clientHello : Bytes) (connInfo : ConnInfo) (ttl : Int) (i : Nat)
  | writeHello (clientHello : Bytes)
  | pipeRead
  | pipeWrite (chunk : Bytes) (failed : Bool)
  | returned
  | panicked
deriving DecidableEq

structure Handler where
  /-- The ends of the connection to the server; the dialer gives a `*net.TCPConn`. -/
  serverConn : Seqtrack.Endpoints
  dstPort : UInt16
  dst : GoString
  stage : Stage
  /-- Every byte that a `Read` has returned. -/
  read : Bytes
  written : Bytes
deriving DecidableEq

inductive HandlerAction where
  | dialServer (ok : Bool)
  | appRead (result : ReadResult)
  | getSeqAck
  | waitForSeqAck
  /-- The numbers of an event, or the placeholders after the timeout. -/
  | seqAck (numbers : Seqtrack.SeqAck)
  | sendFake (failed : Bool)
  | serverWrite

namespace Handler

def newConnectionEx (serverConn : Seqtrack.Endpoints) (dstPort : UInt16) (dst : GoString) :
    Handler where
  serverConn := serverConn
  dstPort := dstPort
  dst := dst
  stage := .dialServer
  read := []
  written := []

def helloSize : Nat := 16384

def goto (handler : Handler) (stage : Stage) : Handler := { handler with stage := stage }

def serverName (handler : Handler) (sni : GoString) : GoString :=
  if sni ≠ [] then sni ++ lit (":" ++ toString handler.serverConn.remotePort.toNat)
  else handler.dst

/-- `injectAndForward` after its read: the read's error, then the parser. -/
def readHello (handler : Handler) (result : ReadResult) : Handler :=
  let handler := { handler with read := handler.read ++ result.bytes }
  if result.failed then handler.goto .returned
  else
    match Fake.parseSNI result.bytes with
    | .error _ => handler.goto .panicked
    | .ok sni => { handler with dst := handler.serverName sni, stage := .getSeqAck result.bytes }

/-- The loop of `pipe` after its read: the bytes first. -/
def afterRead (result : ReadResult) : Stage :=
  if result.bytes ≠ [] then .pipeWrite result.bytes result.failed
  else if result.failed then .returned
  else .pipeRead

/-- `injectAndForward` with the numbers that `GetSeqAck` returned. -/
def injectFakes (settings : Settings) (handler : Handler) (clientHello : Bytes) :
    Seqtrack.SeqAck → Handler
  | (seq, ack, hopLimit) =>
      let connInfo : ConnInfo :=
        { SrcIP := handler.serverConn.localIP
          DstIP := handler.serverConn.remoteIP
          SrcPort := handler.serverConn.localPort
          DstPort := handler.serverConn.remotePort
          Seq := seq
          Ack := ack
          HopLimit := hopLimit }
      handler.goto (.sendFake clientHello connInfo (fakeTTL settings.FakeTTL hopLimit) 0)

variable (settings : Settings) (hasTracker : Bool)

/-- `hasTracker` says whether the global tracker is set at this moment. -/
def step (handler : Handler) : HandlerAction → Option Handler
  | .dialServer ok =>
      match handler.stage with
      | .dialServer =>
          if !ok then some (handler.goto .returned)
          else if settings.targetPorts.contains handler.dstPort then some (handler.goto .readHello)
          else some (handler.goto .pipeRead)
      | _ => none
  | .appRead result =>
      match handler.stage with
      | .readHello =>
          if result.bytes.length ≤ helloSize then some (handler.readHello result) else none
      | .pipeRead =>
          if result.bytes.length ≤ bufferSize then
            some { handler with read := handler.read ++ result.bytes, stage := afterRead result }
          else none
      | _ => none
  | .getSeqAck =>
      match handler.stage with
      | .getSeqAck clientHello =>
          if hasTracker then some (handler.goto (.waitForSeqAck clientHello))
          else some (injectFakes settings handler clientHello Seqtrack.placeholder)
      | _ => none
  | .waitForSeqAck =>
      match handler.stage with
      | .waitForSeqAck clientHello =>
          if hasTracker then some (handler.goto (.waiting clientHello))
          else some (handler.goto .panicked)
      | _ => none
  | .seqAck numbers =>
      match handler.stage with
      | .waiting clientHello => some (injectFakes settings handler clientHello numbers)
      | _ => none
  | .sendFake failed =>
      match handler.stage with
      | .sendFake clientHello connInfo ttl i =>
          if failed ∨ 3 ≤ i + 1 then some (handler.goto (.writeHello clientHello))
          else some (handler.goto (.sendFake clientHello connInfo ttl (i + 1)))
      | _ => none
  | .serverWrite =>
      match handler.stage with
      | .writeHello clientHello =>
          some { handler with written := handler.written ++ clientHello, stage := .pipeRead }
      | .pipeWrite chunk failed =>
          some
            { handler with
              written := handler.written ++ chunk
              stage := if failed then .returned else .pipeRead }
      | _ => none

/-- What has been read and is still to be written. -/
def pending : Stage → Bytes
  | .getSeqAck clientHello | .waitForSeqAck clientHello | .waiting clientHello => clientHello
  | .sendFake clientHello _ _ _ | .writeHello clientHello => clientHello
  | .pipeWrite chunk _ => chunk
  | .dialServer | .readHello | .pipeRead | .returned | .panicked => []

/-- The handler waits for the application, or is over. -/
def AtRest : Stage → Prop
  | .readHello | .pipeRead | .returned | .panicked => True
  | _ => False

/-- Between its writes, the server has been sent exactly what was read. -/
def Transparent (handler : Handler) : Prop := AtRest handler.stage → handler.written = handler.read

/-- The first read does not fail together with bytes. -/
def HelloOrError (handler : Handler) : HandlerAction → Prop
  | .appRead result => handler.stage = .readHello → result.failed = true → result.bytes = []
  | _ => True

instance (handler : Handler) (action : HandlerAction) :
    Decidable (HelloOrError handler action) := by
  unfold HelloOrError
  split <;> infer_instance

/-- Until the handler returns, nothing is lost, and it calls the tracker only if there is one. -/
structure Carries (handler : Handler) : Prop where
  carried : handler.stage ≠ .returned → handler.read = handler.written ++ pending handler.stage
  tracked : ∀ clientHello, handler.stage = .waitForSeqAck clientHello → hasTracker = true

variable {settings : Settings} {hasTracker : Bool} {handler next : Handler}

/-! ### What one step does -/

variable (settings hasTracker handler) in
inductive Moves : HandlerAction → Handler → Prop where
  | dialFailed (here : handler.stage = .dialServer) :
      Moves (.dialServer false) (handler.goto .returned)
  | dialledTarget (here : handler.stage = .dialServer)
      (target : settings.targetPorts.contains handler.dstPort = true) :
      Moves (.dialServer true) (handler.goto .readHello)
  | dialledOther (here : handler.stage = .dialServer)
      (other : settings.targetPorts.contains handler.dstPort = false) :
      Moves (.dialServer true) (handler.goto .pipeRead)
  | helloFailed {result : ReadResult} (here : handler.stage = .readHello)
      (failed : result.failed = true) :
      Moves (.appRead result)
        { handler with read := handler.read ++ result.bytes, stage := .returned }
  | hello {result : ReadResult} (here : handler.stage = .readHello) (ok : result.failed = false)
      (dst : GoString) :
      Moves (.appRead result)
        { handler with
          dst := dst, read := handler.read ++ result.bytes, stage := .getSeqAck result.bytes }
  | chunk {result : ReadResult} (here : handler.stage = .pipeRead) :
      Moves (.appRead result)
        { handler with read := handler.read ++ result.bytes, stage := afterRead result }
  | noTracker {clientHello : Bytes} (here : handler.stage = .getSeqAck clientHello)
      (absent : hasTracker = false) :
      Moves .getSeqAck (injectFakes settings handler clientHello Seqtrack.placeholder)
  | tracker {clientHello : Bytes} (here : handler.stage = .getSeqAck clientHello)
      (present : hasTracker = true) : Moves .getSeqAck (handler.goto (.waitForSeqAck clientHello))
  | waits {clientHello : Bytes} (here : handler.stage = .waitForSeqAck clientHello)
      (present : hasTracker = true) : Moves .waitForSeqAck (handler.goto (.waiting clientHello))
  | callsNil {clientHello : Bytes} (here : handler.stage = .waitForSeqAck clientHello)
      (absent : hasTracker = false) : Moves .waitForSeqAck (handler.goto .panicked)
  | numbers {clientHello : Bytes} (here : handler.stage = .waiting clientHello)
      (numbers : Seqtrack.SeqAck) :
      Moves (.seqAck numbers) (injectFakes settings handler clientHello numbers)
  | lastFake {clientHello : Bytes} {connInfo : ConnInfo} {ttl : Int} {i : Nat} {failed : Bool}
      (here : handler.stage = .sendFake clientHello connInfo ttl i)
      (last : failed = true ∨ 3 ≤ i + 1) :
      Moves (.sendFake failed) (handler.goto (.writeHello clientHello))
  | nextFake {clientHello : Bytes} {connInfo : ConnInfo} {ttl : Int} {i : Nat}
      (here : handler.stage = .sendFake clientHello connInfo ttl i) (more : i + 1 < 3) :
      Moves (.sendFake false) (handler.goto (.sendFake clientHello connInfo ttl (i + 1)))
  | wroteHello {clientHello : Bytes} (here : handler.stage = .writeHello clientHello) :
      Moves .serverWrite
        { handler with written := handler.written ++ clientHello, stage := .pipeRead }
  | wroteChunk {chunk : Bytes} {failed : Bool} (here : handler.stage = .pipeWrite chunk failed) :
      Moves .serverWrite
        { handler with
          written := handler.written ++ chunk, stage := if failed then .returned else .pipeRead }

theorem readHello_failed {result : ReadResult} (failed : result.failed = true) :
    handler.readHello result =
      { handler with read := handler.read ++ result.bytes, stage := .returned } := by
  unfold readHello
  rw [if_pos failed]
  rfl

/-- The parser does not fault. -/
theorem readHello_ok {result : ReadResult} (ok : result.failed = false) :
    ∃ dst, handler.readHello result =
      { handler with
        dst := dst, read := handler.read ++ result.bytes, stage := .getSeqAck result.bytes } := by
  unfold readHello
  rw [if_neg (by simp [ok]), Fake.parseSNI_eq]
  exact ⟨_, rfl⟩

theorem moves {action : HandlerAction}
    (stepped : step settings hasTracker handler action = some next) :
    Moves settings hasTracker handler action next := by
  cases action with
  | dialServer ok =>
      simp only [step] at stepped
      split at stepped
      next here =>
        cases ok with
        | false =>
            obtain rfl := Option.some.inj stepped
            exact .dialFailed here
        | true =>
            rw [if_neg (by decide)] at stepped
            split at stepped
            next target =>
              obtain rfl := Option.some.inj stepped
              exact .dialledTarget here target
            next other =>
              obtain rfl := Option.some.inj stepped
              exact .dialledOther here (eq_false_of_ne_true other)
      next => contradiction
  | appRead result =>
      simp only [step] at stepped
      split at stepped
      next here =>
        obtain ⟨_, rfl⟩ := guarded_eq_some stepped
        cases failed : result.failed with
        | true =>
            rw [readHello_failed failed]
            exact .helloFailed here failed
        | false =>
            obtain ⟨dst, same⟩ := @readHello_ok handler result failed
            rw [same]
            exact .hello here failed dst
      next here =>
        obtain ⟨_, rfl⟩ := guarded_eq_some stepped
        exact .chunk here
      next => contradiction
  | getSeqAck =>
      simp only [step] at stepped
      split at stepped
      next clientHello here =>
        split at stepped
        next present =>
          obtain rfl := Option.some.inj stepped
          exact .tracker here present
        next absent =>
          obtain rfl := Option.some.inj stepped
          exact .noTracker here (eq_false_of_ne_true absent)
      next => contradiction
  | waitForSeqAck =>
      simp only [step] at stepped
      split at stepped
      next clientHello here =>
        split at stepped
        next present =>
          obtain rfl := Option.some.inj stepped
          exact .waits here present
        next absent =>
          obtain rfl := Option.some.inj stepped
          exact .callsNil here (eq_false_of_ne_true absent)
      next => contradiction
  | seqAck numbers =>
      simp only [step] at stepped
      split at stepped
      next clientHello here =>
        obtain rfl := Option.some.inj stepped
        exact .numbers here numbers
      next => contradiction
  | sendFake failed =>
      simp only [step] at stepped
      split at stepped
      next clientHello connInfo ttl i here =>
        split at stepped
        next last =>
          obtain rfl := Option.some.inj stepped
          exact .lastFake here last
        next more =>
          obtain rfl := Option.some.inj stepped
          obtain ⟨sent, few⟩ := not_or.mp more
          obtain rfl := eq_false_of_ne_true sent
          exact .nextFake here (Nat.lt_of_not_le few)
      next => contradiction
  | serverWrite =>
      simp only [step] at stepped
      split at stepped
      next clientHello here =>
        obtain rfl := Option.some.inj stepped
        exact .wroteHello here
      next chunk failed here =>
        obtain rfl := Option.some.inj stepped
        exact .wroteChunk here
      next => contradiction

/-! ### What has been read is written -/

theorem pending_atRest {stage : Stage} (rest : AtRest stage) : pending stage = [] := by
  cases stage <;> first | rfl | exact rest.elim

theorem pending_afterRead (result : ReadResult) : pending (afterRead result) = result.bytes := by
  unfold afterRead
  split
  next => rfl
  next empty =>
    rw [not_not.mp empty]
    split <;> rfl

theorem Moves.running {action : HandlerAction}
    (moved : Moves settings hasTracker handler action next) :
    handler.stage ≠ .returned := by
  intro returned
  cases moved <;> simp_all

/-- `GetSeqAck` goes on to the method call only if it has found a tracker. -/
theorem Moves.tracked {action : HandlerAction}
    (moved : Moves settings hasTracker handler action next) {clientHello : Bytes}
    (here : next.stage = .waitForSeqAck clientHello) : hasTracker = true := by
  cases moved with
  | tracker _ present => exact present
  | @chunk result _ =>
      simp only [afterRead] at here
      split at here
      · contradiction
      · split at here <;> contradiction
  | @wroteChunk _ failed _ => cases failed <;> contradiction
  | _ => contradiction

/-- A step that loses nothing adds to what is pending what it reads, and writes from it. -/
theorem Carries.carry {action : HandlerAction} (carries : Carries hasTracker handler)
    (moved : Moves settings hasTracker handler action next)
    (condition : HelloOrError handler action) :
    next.read = next.written ++ pending next.stage := by
  have carried := carries.carried moved.running
  cases moved with
  | dialFailed here | dialledTarget here | dialledOther here =>
      rw [here] at carried
      exact carried
  | noTracker here | tracker here | waits here | numbers here | lastFake here | nextFake here =>
      rw [here] at carried
      exact carried
  | callsNil here absent =>
      have present := carries.tracked _ here
      rw [absent] at present
      contradiction
  | helloFailed here failed =>
      rw [here] at carried
      show handler.read ++ _ = handler.written ++ []
      rw [condition here failed, List.append_nil]
      exact carried
  | hello here ok dst =>
      rw [here] at carried
      show handler.read ++ _ = handler.written ++ _
      rw [carried]
      simp [pending]
  | chunk here =>
      rw [here] at carried
      show handler.read ++ _ = handler.written ++ pending (afterRead _)
      rw [carried, pending_afterRead]
      simp [pending]
  | wroteHello here =>
      rw [here] at carried
      simpa [pending] using carried
  | @wroteChunk chunk failed here =>
      rw [here] at carried
      cases failed <;> simpa [pending] using carried

/-- Only a segment lost with its error breaks the condition. -/
theorem Moves.condition {action : HandlerAction}
    (moved : Moves settings hasTracker handler action next) :
    HelloOrError handler action ∨ ∃ result, action = .appRead result ∧ handler.stage = .readHello ∧
      next = { handler with read := handler.read ++ result.bytes, stage := .returned } := by
  cases moved with
  | helloFailed here => exact .inr ⟨_, rfl, here, rfl⟩
  | hello here ok dst =>
      left
      intro _ failed
      rw [ok] at failed
      contradiction
  | chunk here =>
      left
      intro first
      rw [here] at first
      contradiction
  | _ => exact .inl trivial

theorem Carries.step {action : HandlerAction} (carries : Carries hasTracker handler)
    (moved : Moves settings hasTracker handler action next) : Carries hasTracker next where
  carried := by
    intro running
    rcases moved.condition with condition | ⟨_, _, _, rfl⟩
    · exact carries.carry moved condition
    · exact absurd rfl running
  tracked := fun _ here => moved.tracked here

/-- One step keeps the two sides equal if and only if it does not lose the first segment. -/
theorem Carries.transparent_iff {action : HandlerAction} (carries : Carries hasTracker handler)
    (moved : Moves settings hasTracker handler action next) :
    next.Transparent ↔ HelloOrError handler action := by
  constructor
  · intro transparent
    rcases moved.condition with condition | ⟨result, rfl, here, rfl⟩
    · exact condition
    · intro _ _
      have carried := carries.carried moved.running
      rw [here] at carried
      have same : handler.written = handler.read ++ result.bytes := transparent trivial
      rw [carried, pending, List.append_nil] at same
      exact List.append_cancel_left_eq _ _ _ |>.mp (by rw [← same, List.append_nil])
  · intro condition rest
    have carried := carries.carry moved condition
    rw [pending_atRest rest, List.append_nil] at carried
    exact carried.symm

/-! ### The whole run -/

/-- In every run of a handler, however the application's stream is read and whatever becomes of
the fakes: between its writes the server has been sent exactly the bytes that were read, if and
only if the first read does not return bytes together with an error. -/
theorem handler_transparent_iff {serverConn : Seqtrack.Endpoints} {dstPort : UInt16}
    {dst : GoString} {schedule : List HandlerAction} {final : Handler}
    (reached : run (step settings hasTracker) (newConnectionEx serverConn dstPort dst) schedule =
      some final) :
    Always (step settings hasTracker) Transparent (newConnectionEx serverConn dstPort dst)
        schedule ↔
      Meets (step settings hasTracker) HelloOrError (newConnectionEx serverConn dstPort dst)
        schedule := by
  have start : (newConnectionEx serverConn dstPort dst).Carries hasTracker :=
    ⟨fun _ => rfl, fun _ here => by contradiction⟩
  apply always_iff_meets ?_ ?_ start (fun rest => rest.elim) reached
  · intro state action after carries stepped
    exact carries.step (moves stepped)
  · intro state action after carries _ stepped
    exact carries.transparent_iff (moves stepped)

def webServer : Seqtrack.Endpoints where
  localIP := [10, 0, 0, 2]
  localPort := 50000
  remoteIP := [93, 184, 216, 34]
  remotePort := 443

/-- Three bytes in the first segment, two after it; the first fake fails. -/
def twoSegments : List HandlerAction :=
  [.dialServer true, .appRead ⟨[22, 3, 1], false⟩, .getSeqAck, .waitForSeqAck, .seqAck (7, 9, 55),
    .sendFake true, .serverWrite, .appRead ⟨[1, 2], true⟩, .serverWrite]

theorem handler_transparent_two_segments : ∃ final,
    run (step (newManager [] 0) true) (newConnectionEx webServer 443 []) twoSegments = some final ∧
      Always (step (newManager [] 0) true) Transparent (newConnectionEx webServer 443 [])
        twoSegments := by
  refine ⟨_, rfl, (handler_transparent_iff rfl).mpr ?_⟩
  decide

/-- The application sends three bytes and ends its stream; one read returns both. -/
def segmentWithEnd : List HandlerAction := [.dialServer true, .appRead ⟨[22, 3, 1], true⟩]

theorem segment_with_end_lost : ¬ ∀ schedule final,
    run (step (newManager [] 0) true) (newConnectionEx webServer 443 []) schedule = some final →
      Always (step (newManager [] 0) true) Transparent (newConnectionEx webServer 443 [])
        schedule := by
  intro transparent
  have always := transparent segmentWithEnd _ rfl
  have lost := (always.2 _ rfl).2 _ rfl
  have same := lost trivial
  contradiction

end Handler

end Gecit.Tun
