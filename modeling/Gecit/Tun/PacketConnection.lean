import Mathlib.Data.List.Basic
import Gecit.Foundation.BigEndian
import Gecit.Foundation.Transition

/-!
Contract: the two loops of a UDP association.

One loop reads datagrams of the application and writes them to the server, the other one
relays the replies. Each arms a read deadline of its own, and a loop that meets it is left for
good; only the first one takes the association down with it.

Owns the timed schedules of datagrams and what each side has been sent. The loops take no time
of their own, and the sockets do not fail.
-/

namespace Gecit.Tun

open Gecit.Foundation

/-- In nanoseconds. -/
def udpTimeout : Nat := 30 * 1000000000

def packetSize : Nat := 65535

/-- The length field of UDP leaves room for this much. -/
abbrev Datagram := { bytes : Bytes // bytes.length ≤ 65527 }

structure Association where
  now : Nat
  /-- The read deadline of the loop towards the server, until the loop is left. -/
  appLoop : Option Nat
  /-- The read deadline of the loop towards the application, until the loop is left. -/
  serverLoop : Option Nat
  /-- When that loop began to wait: at the last datagram it relayed, or at the start. -/
  serverSince : Nat
  fromApp : List Datagram
  toServer : List Bytes
  fromServer : List Datagram
  toApp : List Bytes
deriving DecidableEq

inductive UdpAction where
  | advance (duration : Nat)
  | fromApp (datagram : Datagram)
  | fromServer (datagram : Datagram)

/-- Both loops have armed their first deadline. -/
def opened : Association where
  now := 0
  appLoop := some udpTimeout
  serverLoop := some udpTimeout
  serverSince := 0
  fromApp := []
  toServer := []
  fromServer := []
  toApp := []

namespace Association

/-- A loop whose deadline has passed gets an error from its read. -/
def stillWaits (now : Nat) (loop : Option Nat) : Option Nat := loop.filter (now < ·)

/-- What a read into a buffer of `packetSize` bytes gives. -/
def readInto (datagram : Datagram) : Bytes := datagram.val.take packetSize

def step (state : Association) : UdpAction → Option Association
  | .advance duration =>
      let now := state.now + duration
      some
        { state with
          now := now
          appLoop := stillWaits now state.appLoop
          serverLoop := stillWaits now state.serverLoop }
  | .fromApp datagram =>
      let received := { state with fromApp := state.fromApp ++ [datagram] }
      match state.appLoop with
      | none => some received
      | some _ =>
          some
            { received with
              toServer := state.toServer ++ [readInto datagram]
              appLoop := some (state.now + udpTimeout) }
  | .fromServer datagram =>
      let received := { state with fromServer := state.fromServer ++ [datagram] }
      match state.serverLoop with
      | none => some received
      | some _ =>
          some
            { received with
              toApp := state.toApp ++ [readInto datagram]
              serverLoop := some (state.now + udpTimeout)
              serverSince := state.now }

/-- As long as the first loop runs, each side has been sent what the other one sent. -/
def Relays (state : Association) : Prop :=
  state.appLoop ≠ none → state.toApp = state.fromServer.map Subtype.val ∧
    state.toServer = state.fromApp.map Subtype.val

/-- The server's datagram comes within the timeout of the last one that was relayed, or of the
start. -/
def InTime (state : Association) : UdpAction → Prop
  | .fromServer _ => state.appLoop ≠ none → state.now < state.serverSince + udpTimeout
  | .advance _ | .fromApp _ => True

/-- The second loop waits until its timeout and no longer. -/
def Timed (state : Association) : Prop :=
  state.serverLoop = stillWaits state.now (some (state.serverSince + udpTimeout))

variable {state next : Association}

/-! ### One step -/

theorem readInto_eq (datagram : Datagram) : readInto datagram = datagram.val := by
  apply List.take_of_length_le
  have bound := datagram.property
  unfold packetSize
  omega

theorem stillWaits_armed (now : Nat) :
    stillWaits now (some (now + udpTimeout)) = some (now + udpTimeout) := by
  have later : now < now + udpTimeout := Nat.lt_add_of_pos_right (by decide)
  simp [stillWaits, Option.filter, later]

theorem stillWaits_eq_none_iff {now deadline : Nat} :
    stillWaits now (some deadline) = none ↔ deadline ≤ now := by
  simp [stillWaits, Option.filter]

/-- A deadline that has passed stays passed. -/
theorem stillWaits_later (now duration : Nat) (loop : Option Nat) :
    stillWaits (now + duration) (stillWaits now loop) = stillWaits (now + duration) loop := by
  cases loop with
  | none => rfl
  | some deadline =>
      by_cases waits : now < deadline
      · simp [stillWaits, Option.filter, waits]
      · have passed : ¬ now + duration < deadline := by omega
        simp [stillWaits, Option.filter, waits, passed]

theorem timed_opened : opened.Timed := (stillWaits_armed 0).symm

theorem Timed.step {action : UdpAction} (timed : state.Timed)
    (stepped : state.step action = some next) : next.Timed := by
  cases action with
  | advance duration =>
      obtain rfl := Option.some.inj stepped
      unfold Timed at timed ⊢
      dsimp only
      rw [timed, stillWaits_later]
  | fromApp datagram =>
      simp only [Association.step] at stepped
      split at stepped
      · obtain rfl := Option.some.inj stepped
        exact timed
      · obtain rfl := Option.some.inj stepped
        exact timed
  | fromServer datagram =>
      simp only [Association.step] at stepped
      split at stepped
      next left =>
        obtain rfl := Option.some.inj stepped
        exact timed
      next deadline waits =>
        obtain rfl := Option.some.inj stepped
        exact (stillWaits_armed state.now).symm

theorem stillWaits_running {now : Nat} {loop : Option Nat} (running : stillWaits now loop ≠ none) :
    loop ≠ none := by
  rintro rfl
  exact running rfl

/-- Once the first loop is left, it stays left. -/
theorem appLoop_running {action : UdpAction} (stepped : state.step action = some next)
    (running : next.appLoop ≠ none) : state.appLoop ≠ none := by
  cases action with
  | advance duration =>
      obtain rfl := Option.some.inj stepped
      exact stillWaits_running running
  | fromApp datagram =>
      intro left
      simp only [Association.step, left] at stepped
      obtain rfl := Option.some.inj stepped
      exact running rfl
  | fromServer datagram =>
      simp only [Association.step] at stepped
      split at stepped
      · obtain rfl := Option.some.inj stepped
        exact running
      · obtain rfl := Option.some.inj stepped
        exact running

/-- A step keeps relaying if and only if it is in time. -/
theorem relays_iff_inTime {action : UdpAction} (timed : state.Timed) (relays : state.Relays)
    (stepped : state.step action = some next) : next.Relays ↔ state.InTime action := by
  cases action with
  | advance duration =>
      refine iff_of_true ?_ trivial
      intro running
      have both := relays (appLoop_running stepped running)
      obtain rfl := Option.some.inj stepped
      exact both
  | fromApp datagram =>
      refine iff_of_true ?_ trivial
      intro running
      obtain ⟨toApp, toServer⟩ := relays (appLoop_running stepped running)
      cases loop : state.appLoop with
      | none => exact absurd loop (appLoop_running stepped running)
      | some deadline =>
          simp only [Association.step, loop] at stepped
          obtain rfl := Option.some.inj stepped
          refine ⟨toApp, ?_⟩
          show state.toServer ++ [readInto datagram] = (state.fromApp ++ [datagram]).map Subtype.val
          rw [toServer, readInto_eq, List.map_append]
          rfl
  | fromServer datagram =>
      unfold Timed at timed
      cases loop : state.serverLoop with
      | none =>
          have late : state.serverSince + udpTimeout ≤ state.now :=
            stillWaits_eq_none_iff.mp (timed.symm.trans loop)
          simp only [Association.step, loop] at stepped
          obtain rfl := Option.some.inj stepped
          constructor
          · intro relaysNext running
            have lost := congrArg List.length (relaysNext running).1
            have sent := congrArg List.length (relays running).1
            simp only [List.length_map, List.length_append, List.length_singleton] at lost sent
            omega
          · intro inTime running
            have early := inTime running
            omega
      | some deadline =>
          have waits : ¬ state.serverSince + udpTimeout ≤ state.now := by
            intro late
            rw [stillWaits_eq_none_iff.mpr late, loop] at timed
            contradiction
          simp only [Association.step, loop] at stepped
          obtain rfl := Option.some.inj stepped
          refine iff_of_true ?_ fun _ => by omega
          intro running
          obtain ⟨toApp, toServer⟩ := relays running
          refine ⟨?_, toServer⟩
          show state.toApp ++ [readInto datagram] = (state.fromServer ++ [datagram]).map Subtype.val
          rw [toApp, readInto_eq, List.map_append]
          rfl

/-! ### The whole schedule -/

theorem run_total (schedule : List UdpAction) (state : Association) :
    ∃ final, run Association.step state schedule = some final := by
  induction schedule generalizing state with
  | nil => exact ⟨state, rfl⟩
  | cons action rest inductionHypothesis =>
      have steps : ∃ next, state.step action = some next := by
        cases action with
        | advance => exact ⟨_, rfl⟩
        | fromApp datagram => cases loop : state.appLoop <;> simp [Association.step, loop]
        | fromServer datagram => cases loop : state.serverLoop <;> simp [Association.step, loop]
      obtain ⟨next, stepped⟩ := steps
      obtain ⟨final, reached⟩ := inductionHypothesis next
      refine ⟨final, ?_⟩
      rw [run, List.foldlM_cons, stepped]
      exact reached

/-- In every timed schedule: every datagram is relayed once, whole and in order as long as the
first loop runs, if and only if each datagram of the server comes within the timeout of the
one before. -/
theorem relays_iff_in_time (schedule : List UdpAction) :
    Always Association.step Relays opened schedule ↔
      Meets Association.step InTime opened schedule := by
  obtain ⟨final, reached⟩ := run_total schedule opened
  apply @always_iff_meets Association UdpAction Association.step Timed Relays InTime ?_ ?_ opened
    final schedule timed_opened ?_ reached
  · intro state action next timed stepped
    exact timed.step stepped
  · intro state action next timed relays stepped
    exact relays_iff_inTime timed relays stepped
  · exact fun _ => ⟨rfl, rfl⟩

/-- The application keeps the association up; the server is silent for 40 seconds. -/
def lateReply : List UdpAction :=
  [.advance 20000000000, .fromApp ⟨[1], by decide⟩, .advance 20000000000,
    .fromServer ⟨[2], by decide⟩]

theorem late_reply_dropped : ¬ Always Association.step Relays opened lateReply := by
  intro always
  have relays := (((always.2 _ rfl).2 _ rfl).2 _ rfl).2 _ rfl
  have replies := (relays (by decide)).1
  contradiction

end Association

end Gecit.Tun
