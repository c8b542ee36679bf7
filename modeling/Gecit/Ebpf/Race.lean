import Gecit.Foundation.Transition
import Gecit.Ebpf.Inject

/-!
Contract: the fake against the application's own first data, on Linux.

The event of an established connection waits in a perf ring for one reader, which decodes the
samples one at a time and sends a fake for each; meanwhile the application may write. Nothing
orders the two.

Owns the ring, the reader, the wire, and the exact condition under which the fake comes
first. Does not own what the fake holds.
-/

namespace Gecit.Ebpf

open Gecit.Foundation

/-- A sample in the perf ring, and the socket whose establishment output it. -/
structure Sample (Socket : Type*) where
  socket : Socket
  rawSample : Bytes
deriving DecidableEq

/-- TCP payload on the wire. -/
inductive Payload where
  | fake (sent : Sent)
  | data (bytes : Bytes)
deriving DecidableEq

structure Race (Socket : Type*) where
  kernel : Kernel Socket
  established : List Socket
  /-- The target connections: those whose establishment output an event. -/
  targets : List Socket
  ring : List (Sample Socket)
  /-- The sample that the reader holds. -/
  reading : Option (Sample Socket)
  /-- Events that the ring did not take. -/
  lost : List Socket
  /-- Fakes that could not be sent. -/
  failed : List Socket
  /-- What was sent for each socket, in order. -/
  wire : List (Socket × Payload)

inductive RaceAction (Socket : Type*) where
  /-- `room` tells whether the ring takes the event. -/
  | establish (s : Socket) (conn : Connection) (padding : Bytes) (room : Bool)
  | read (sample : Sample Socket)
  /-- The reader ends its round; `sends` tells whether `Sendto` succeeds. -/
  | injectFake (sends : Bool)
  /-- Application data of an established connection goes out. -/
  | write (s : Socket) (bytes : Bytes)

variable {Socket : Type*} [DecidableEq Socket]

def unraced (kernel : Kernel Socket) : Race Socket where
  kernel := kernel
  established := []
  targets := []
  ring := []
  reading := none
  lost := []
  failed := []
  wire := []

variable (cookie : Socket → UInt64) (fakeTTL : Int)

namespace Race

def establish (state : Race Socket) (s : Socket) (conn : Connection) (padding : Bytes)
    (room : Bool) : Race Socket :=
  let after :=
    { state with
      kernel := gecitSockops cookie s (conn.context .activeEstablishedCb 0) state.kernel
      established := s :: state.established }
  match emitted cookie state.kernel s conn with
  | [] => after
  | evt :: _ =>
      if room then
        { after with
          targets := s :: state.targets
          ring := state.ring ++ [⟨s, evt.sample padding⟩] }
      else { after with targets := s :: state.targets, lost := s :: state.lost }

/-- The rest of a round of `readEvents` after `m.reader.Read()`. -/
def finish (state : Race Socket) (sample : Sample Socket) (sends : Bool) : Race Socket :=
  match readEvents sample.rawSample with
  | none => { state with reading := none, failed := sample.socket :: state.failed }
  | some evt =>
      if sends then
        { state with
          reading := none
          wire := state.wire ++ [(sample.socket, .fake (injectFake fakeTTL evt))] }
      else { state with reading := none, failed := sample.socket :: state.failed }

def step (state : Race Socket) : RaceAction Socket → Option (Race Socket)
  | .establish s conn padding room =>
      if s ∉ state.established then some (state.establish cookie s conn padding room) else none
  | .read sample =>
      if state.reading = none ∧ sample ∈ state.ring then
        some { state with ring := state.ring.erase sample, reading := some sample }
      else none
  | .injectFake sends => state.reading.map fun sample => state.finish fakeTTL sample sends
  | .write s bytes =>
      if s ∈ state.established then some { state with wire := state.wire ++ [(s, .data bytes)] }
      else none

end Race

/-! ### Who comes first -/

def Payload.isFake : Payload → Bool
  | .fake _ => true
  | .data _ => false

/-- The first payload sent for a socket. -/
def Race.first (state : Race Socket) (s : Socket) : Option (Socket × Payload) :=
  state.wire.find? fun entry => entry.1 = s

/-- The first payload of every target connection is that of its fake. -/
def Race.FakeFirst (state : Race Socket) : Prop :=
  ∀ s ∈ state.targets, ∀ entry, state.first s = some entry → entry.2.isFake = true

/-- The event of the connection is still in the ring or with the reader, or it led to no fake. -/
def Race.Outstanding (state : Race Socket) (s : Socket) : Prop :=
  s ∈ state.ring.map Sample.socket ∨ s ∈ state.reading.toList.map Sample.socket ∨
    s ∈ state.lost ∨ s ∈ state.failed

/-- No target connection writes while its event is outstanding. -/
def Race.Drained (state : Race Socket) : RaceAction Socket → Prop
  | .write s _ => s ∈ state.targets → ¬ state.Outstanding s
  | .establish _ _ _ _ | .read _ | .injectFake _ => True

/-! ### Where the event of a connection is -/

/-- The sockets whose fakes are on the wire. -/
def faked (wire : List (Socket × Payload)) : List Socket :=
  (wire.filter fun entry => entry.2.isFake).map Prod.fst

/-- In how many places the event of a socket is. -/
def Race.places (state : Race Socket) (s : Socket) : Nat :=
  (state.ring.map Sample.socket).count s + (state.reading.toList.map Sample.socket).count s +
    state.lost.count s + state.failed.count s + (faked state.wire).count s

/-- The event of every target connection is in exactly one place. -/
structure Race.Accounted (state : Race Socket) : Prop where
  placed : ∀ s ∈ state.targets, state.places s = 1
  nowhere : ∀ s, s ∉ state.targets → state.places s = 0
  targets : ∀ s ∈ state.targets, s ∈ state.established
  wire : ∀ entry ∈ state.wire, entry.1 ∈ state.established

variable {cookie fakeTTL} {state after : Race Socket} {s : Socket}

theorem outstanding_iff (accounted : state.Accounted) (target : s ∈ state.targets) :
    state.Outstanding s ↔ s ∉ faked state.wire := by
  have places := accounted.placed s target
  rw [Race.places] at places
  rw [Race.Outstanding, ← List.count_pos_iff, ← List.count_pos_iff, ← List.count_pos_iff,
    ← List.count_pos_iff, ← List.count_pos_iff]
  omega

theorem count_erase_socket {sample : Sample Socket} {ring : List (Sample Socket)}
    (there : sample ∈ ring) (s : Socket) :
    ((ring.erase sample).map Sample.socket).count s + [sample.socket].count s =
      (ring.map Sample.socket).count s := by
  have taken := ((List.perm_cons_erase there).map Sample.socket).count_eq s
  rw [taken, List.map_cons, List.count_cons, List.count_cons, List.count_nil, Nat.zero_add]

omit [DecidableEq Socket] in
theorem faked_fake (wire : List (Socket × Payload)) (s : Socket) (sent : Sent) :
    faked (wire ++ [(s, .fake sent)]) = faked wire ++ [s] := by
  rw [faked, List.filter_append, List.map_append]
  rfl

omit [DecidableEq Socket] in
theorem faked_data (wire : List (Socket × Payload)) (s : Socket) (bytes : Bytes) :
    faked (wire ++ [(s, .data bytes)]) = faked wire := by
  rw [faked, List.filter_append, List.map_append]
  exact List.append_nil _

theorem accounted_establish (accounted : state.Accounted) (fresh : s ∉ state.established)
    (conn : Connection) (padding : Bytes) (room : Bool) :
    (state.establish cookie s conn padding room).Accounted := by
  have notTarget : s ∉ state.targets := fun target => fresh (accounted.targets s target)
  have nowhere := accounted.nowhere s notTarget
  have earlier : ∀ entry ∈ state.wire, entry.1 ∈ s :: state.established :=
    fun entry there => List.mem_cons_of_mem _ (accounted.wire entry there)
  have known : ∀ other ∈ s :: state.targets, other ∈ s :: state.established := by
    intro other target
    rcases List.mem_cons.mp target with rfl | target
    · exact List.mem_cons_self
    · exact List.mem_cons_of_mem _ (accounted.targets other target)
  rw [Race.establish]
  dsimp only
  split
  · refine ⟨accounted.placed, accounted.nowhere, ?_, earlier⟩
    intro other target
    exact List.mem_cons_of_mem _ (accounted.targets other target)
  · have elsewhere : ∀ other more, other ≠ s → (s :: more).count other = more.count other :=
      fun other more different => List.count_cons_of_ne (Ne.symm different)
    split
    all_goals
      refine ⟨?_, ?_, known, earlier⟩
      · intro other target
        by_cases own : other = s
        · subst own
          simp only [Race.places, List.map_append, List.map_cons, List.map_nil,
            List.count_append, List.count_cons_self, List.count_nil] at nowhere ⊢
          omega
        · have placed := accounted.placed other ((List.mem_cons.mp target).resolve_left own)
          simp only [Race.places, List.map_append, List.map_cons, List.map_nil,
            List.count_append, elsewhere _ _ own, List.count_nil, Nat.add_zero] at placed ⊢
          exact placed
      · intro other notThere
        obtain ⟨own, notThere⟩ := not_or.mp (mt List.mem_cons.mpr notThere)
        have nowhere := accounted.nowhere other notThere
        simp only [Race.places, List.map_append, List.map_cons, List.map_nil,
          List.count_append, elsewhere _ _ own, List.count_nil, Nat.add_zero] at nowhere ⊢
        exact nowhere

/-- A step that moves events from one place to another. -/
theorem accounted_move (accounted : state.Accounted) (targets : after.targets = state.targets)
    (established : after.established = state.established)
    (places : ∀ s, after.places s = state.places s)
    (wire : ∀ entry ∈ after.wire, entry.1 ∈ state.established) : after.Accounted where
  placed s target := by
    rw [places]
    exact accounted.placed s (targets ▸ target)
  nowhere s notThere := by
    rw [places]
    exact accounted.nowhere s (targets ▸ notThere)
  targets s target := by
    rw [established]
    exact accounted.targets s (targets ▸ target)
  wire := by
    rw [established]
    exact wire

theorem accounted_finish (accounted : state.Accounted) {sample : Sample Socket}
    (reading : state.reading = some sample) (known : sample.socket ∈ state.established)
    (sends : Bool) : (state.finish fakeTTL sample sends).Accounted := by
  have extended : ∀ payload, ∀ entry ∈ state.wire ++ [(sample.socket, payload)],
      entry.1 ∈ state.established := by
    intro payload entry there
    rcases List.mem_append.mp there with earlier | last
    · exact accounted.wire entry earlier
    · rw [List.mem_singleton.mp last]
      exact known
  rw [Race.finish]
  split
  · refine accounted_move accounted rfl rfl ?_ accounted.wire
    intro s
    simp only [Race.places, reading, Option.toList_some, Option.toList_none,
      List.map_cons, List.map_nil, List.count_cons, List.count_nil]
    omega
  · split
    · refine accounted_move accounted rfl rfl ?_ (extended _)
      intro s
      simp only [Race.places, reading, Option.toList_some, Option.toList_none, List.map_cons,
        List.map_nil, List.count_cons, List.count_nil, faked_fake, List.count_append]
      omega
    · refine accounted_move accounted rfl rfl ?_ accounted.wire
      intro s
      simp only [Race.places, reading, Option.toList_some, Option.toList_none,
        List.map_cons, List.map_nil, List.count_cons, List.count_nil]
      omega

theorem known_reading (accounted : state.Accounted) {sample : Sample Socket}
    (reading : state.reading = some sample) : sample.socket ∈ state.established := by
  by_contra unknown
  have nowhere := accounted.nowhere sample.socket fun target =>
    unknown (accounted.targets sample.socket target)
  simp only [Race.places, reading, Option.toList_some, List.map_cons, List.map_nil,
    List.count_cons_self, List.count_nil] at nowhere
  omega

theorem Race.Accounted.step {action : RaceAction Socket} (accounted : state.Accounted)
    (stepped : state.step cookie fakeTTL action = some after) : after.Accounted := by
  cases action with
  | establish s conn padding room =>
      obtain ⟨fresh, rfl⟩ := guarded_eq_some stepped
      exact accounted_establish accounted fresh conn padding room
  | read sample =>
      obtain ⟨⟨idle, there⟩, rfl⟩ := guarded_eq_some stepped
      refine accounted_move accounted rfl rfl ?_ accounted.wire
      intro s
      have taken := count_erase_socket there s
      simp only [Race.places, idle, Option.toList_some, Option.toList_none, List.map_cons,
        List.map_nil, List.count_nil]
      omega
  | injectFake sends =>
      obtain ⟨sample, reading, rfl⟩ := Option.map_eq_some_iff.mp stepped
      exact accounted_finish accounted reading (known_reading accounted reading) sends
  | write s bytes =>
      obtain ⟨begun, rfl⟩ := guarded_eq_some stepped
      refine accounted_move accounted rfl rfl ?_ ?_
      · intro other
        simp only [Race.places, faked_data]
      · intro entry there
        rcases List.mem_append.mp there with earlier | last
        · exact accounted.wire entry earlier
        · rw [List.mem_singleton.mp last]
          exact begun

theorem accounted_unraced (kernel : Kernel Socket) : (unraced kernel).Accounted where
  placed _ missing := absurd missing List.not_mem_nil
  nowhere _ _ := rfl
  targets _ missing := absurd missing List.not_mem_nil
  wire _ missing := absurd missing List.not_mem_nil

/-! ### The first payload -/

/-- A payload added at the end leads only where nothing was sent before. -/
theorem first_append (wire : List (Socket × Payload)) (s : Socket) (entry : Socket × Payload) :
    (wire ++ [entry]).find? (fun sent => sent.1 = s) =
      (wire.find? fun sent => sent.1 = s).or (if entry.1 = s then some entry else none) := by
  rw [List.find?_append, List.find?_singleton]
  simp only [decide_eq_true_eq]

theorem first_eq_none_of_fresh (accounted : state.Accounted) (fresh : s ∉ state.established) :
    state.first s = none := by
  apply List.find?_eq_none.mpr
  intro entry there same
  rw [← of_decide_eq_true same] at fresh
  exact fresh (accounted.wire entry there)

theorem fakeFirst_establish (accounted : state.Accounted) (safe : state.FakeFirst)
    (fresh : s ∉ state.established) (conn : Connection) (padding : Bytes) (room : Bool) :
    (state.establish cookie s conn padding room).FakeFirst := by
  have nothing := first_eq_none_of_fresh accounted fresh
  have grown : ∀ other ∈ s :: state.targets, ∀ entry, state.first other = some entry →
      entry.2.isFake = true := by
    intro other target entry found
    rcases List.mem_cons.mp target with rfl | target
    · rw [nothing] at found
      contradiction
    · exact safe other target entry found
  rw [Race.establish]
  dsimp only
  split
  · exact safe
  · split
    · exact grown
    · exact grown

theorem fakeFirst_finish (safe : state.FakeFirst) (sample : Sample Socket) (sends : Bool) :
    (state.finish fakeTTL sample sends).FakeFirst := by
  rw [Race.finish]
  split
  · exact safe
  · split
    · intro s target entry found
      rw [Race.first, first_append, Option.or_eq_some_iff] at found
      rcases found with before | ⟨_, last⟩
      · exact safe s target entry before
      · obtain ⟨_, rfl⟩ := guarded_eq_some last
        rfl
    · exact safe

theorem mem_faked_of_first (safe : state.FakeFirst) (target : s ∈ state.targets)
    {entry : Socket × Payload} (found : state.first s = some entry) : s ∈ faked state.wire := by
  have isFake := safe s target entry found
  have matching := List.find?_some found
  have own : entry.1 = s := of_decide_eq_true matching
  rw [← own]
  exact List.mem_map_of_mem (List.mem_filter.mpr ⟨List.mem_of_find?_eq_some found, isFake⟩)

theorem first_ne_none_of_faked (there : s ∈ faked state.wire) : state.first s ≠ none := by
  obtain ⟨entry, kept, own⟩ := List.mem_map.mp there
  intro nothing
  have other := List.find?_eq_none.mp nothing entry (List.mem_filter.mp kept).1
  exact other (decide_eq_true own)

theorem fakeFirst_write (accounted : state.Accounted) (safe : state.FakeFirst) (s : Socket)
    (bytes : Bytes) :
    Race.FakeFirst { state with wire := state.wire ++ [(s, .data bytes)] } ↔
      state.Drained (.write s bytes) := by
  constructor
  · intro safeAfter target outstanding
    have notFaked := (outstanding_iff accounted target).mp outstanding
    have nothing : state.first s = none := by
      rw [Option.eq_none_iff_forall_ne_some]
      intro entry found
      exact notFaked (mem_faked_of_first safe target found)
    have leads : Race.first { state with wire := state.wire ++ [(s, .data bytes)] } s =
        some (s, .data bytes) := by
      rw [Race.first, first_append, ← Race.first, nothing, if_pos rfl, Option.none_or]
    exact absurd (safeAfter s target _ leads) Bool.false_ne_true
  · intro drained other target entry found
    rw [Race.first, first_append, Option.or_eq_some_iff] at found
    rcases found with before | ⟨nothing, last⟩
    · exact safe other target entry before
    · obtain ⟨own, rfl⟩ := guarded_eq_some last
      obtain rfl : s = other := own
      have isFaked : s ∈ faked state.wire := by
        by_contra notFaked
        exact drained target ((outstanding_iff accounted target).mpr notFaked)
      exact absurd nothing (first_ne_none_of_faked isFaked)

theorem fakeFirst_step {action : RaceAction Socket} (accounted : state.Accounted)
    (safe : state.FakeFirst) (stepped : state.step cookie fakeTTL action = some after) :
    after.FakeFirst ↔ state.Drained action := by
  cases action with
  | establish s conn padding room =>
      obtain ⟨fresh, rfl⟩ := guarded_eq_some stepped
      exact iff_of_true (fakeFirst_establish accounted safe fresh conn padding room) trivial
  | read sample =>
      obtain ⟨_, rfl⟩ := guarded_eq_some stepped
      exact iff_of_true safe trivial
  | injectFake sends =>
      obtain ⟨sample, _, rfl⟩ := Option.map_eq_some_iff.mp stepped
      exact iff_of_true (fakeFirst_finish safe sample sends) trivial
  | write s bytes =>
      obtain ⟨_, rfl⟩ := guarded_eq_some stepped
      exact fakeFirst_write accounted safe s bytes

instance (state : Race Socket) : ∀ action, Decidable (state.Drained action)
  | .write s _ =>
      inferInstanceAs (Decidable (s ∈ state.targets →
        ¬ (s ∈ state.ring.map Sample.socket ∨ s ∈ state.reading.toList.map Sample.socket ∨
          s ∈ state.lost ∨ s ∈ state.failed)))
  | .establish _ _ _ _ | .read _ | .injectFake _ => isTrue trivial

def webSample : Sample UInt64 := ⟨7, (webConnEvent webConn).sample []⟩

/-- The reader is done before the application writes. -/
def webReaderFirst : List (RaceAction UInt64) :=
  [.establish 7 webConn [] true, .read webSample, .injectFake true, .write 7 [22, 3, 1]]

/-- The application writes while the event waits in the ring. -/
def webWriterFirst : List (RaceAction UInt64) :=
  [.establish 7 webConn [] true, .write 7 [22, 3, 1], .read webSample, .injectFake true]

def raceEnd (schedule : List (RaceAction UInt64)) : Race UInt64 :=
  (run (Race.step id 8) (unraced filledKernel) schedule).getD (unraced filledKernel)

end Gecit.Ebpf
