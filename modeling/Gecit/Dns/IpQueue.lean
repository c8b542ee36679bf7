import Gecit.Dns.Server
import Gecit.Foundation.KeyedQueue

/-!
Contract: the queue of domains under queries and connections.

Completed queries push the domain they asked for, once for each address of the answer;
connections pop the domain of their address. Each of the two holds the mutex for its whole
critical section, so a history is a list of these sections.

Owns the histories and the conservation law for each address. Does not own which addresses an
answer has.
-/

namespace Gecit.Dns

open Gecit.Foundation
open Gecit.Go

/-- A critical section. -/
inductive QueueEvent (Rest : Type) where
  /-- `handleQuery` completes the query `r` with the reply `resp`. -/
  | complete (r resp : Msg Rest)
  | popDomain (ip : GoString)

namespace QueueEvent

variable {Rest : Type}

def apply (queue : IpQueue) : QueueEvent Rest → IpQueue
  | .complete r resp => pushQueued r resp queue
  | .popDomain ip => (Dns.popDomain ip queue).2

/-- The domains that one section pushes for an address. -/
def pushedFor (ip : GoString) : QueueEvent Rest → List GoString
  | .complete r resp => ((queued r resp).2.filter (· = ip)).map fun _ => (queued r resp).1
  | .popDomain _ => []

/-- The domain that one section returns for an address with a non-empty queue. -/
def poppedFor (ip : GoString) (queue : IpQueue) : QueueEvent Rest → List GoString
  | .complete _ _ => []
  | .popDomain other =>
      if other = ip ∧ queue.at ip ≠ [] then [(Dns.popDomain ip queue).1] else []

/-- The section is about this address. -/
def Touches (ip : GoString) : QueueEvent Rest → Prop
  | .complete r resp => ip ∈ (queued r resp).2
  | .popDomain other => other = ip

end QueueEvent

def emptyQueue : IpQueue := fun _ => none

section Histories

variable {Rest : Type}

/-- The queue after a history. -/
def serve (history : List (QueueEvent Rest)) : IpQueue :=
  history.foldl QueueEvent.apply emptyQueue

/-- The domains returned for an address by the pops that found one, in order. -/
def returned (ip : GoString) : IpQueue → List (QueueEvent Rest) → List GoString
  | _, [] => []
  | queue, event :: rest => event.poppedFor ip queue ++ returned ip (event.apply queue) rest

/-! ### Sections as operations of a queue by key -/

def QueueEvent.ops : QueueEvent Rest → List (KeyedQueue.Op GoString GoString)
  | .complete r resp => (queued r resp).2.map fun ip => .push ip (queued r resp).1
  | .popDomain ip => [.pop ip]

variable {queue : IpQueue}

/-- A pop returns the oldest domain and leaves the others. -/
theorem popDomain_of_cons {ip domain : GoString} {rest : List GoString}
    (there : queue.at ip = domain :: rest) :
    popDomain ip queue = (domain, Function.update queue ip (KeyedQueue.stored rest)) := by
  rw [popDomain, there]
  cases rest <;> rfl

theorem popDomain_of_empty {ip : GoString} (empty : queue.at ip = []) :
    popDomain ip queue = ([], queue) := by
  rw [popDomain, empty]

theorem popDomain_queue (ip : GoString) :
    (popDomain ip queue).2 = KeyedQueue.pop queue ip := by
  cases there : queue.at ip with
  | nil => rw [popDomain_of_empty there, KeyedQueue.pop_of_empty there]
  | cons domain rest => rw [popDomain_of_cons there, KeyedQueue.pop_of_cons there]

theorem popDomain_domain (ip : GoString) :
    (if queue.at ip ≠ [] then [(popDomain ip queue).1] else []) = (queue.at ip).take 1 := by
  cases there : queue.at ip with
  | nil => rfl
  | cons domain rest =>
      rw [popDomain_of_cons there]
      rfl

theorem apply_eq (event : QueueEvent Rest) :
    event.apply queue = KeyedQueue.applyAll queue event.ops := by
  cases event with
  | complete r resp =>
      show (queued r resp).2.foldl (push (queued r resp).1) queue =
        ((queued r resp).2.map _).foldl KeyedQueue.apply queue
      rw [List.foldl_map]
      rfl
  | popDomain ip => exact popDomain_queue ip

theorem pushedFor_eq (ip : GoString) (event : QueueEvent Rest) :
    event.pushedFor ip = KeyedQueue.given ip event.ops := by
  cases event with
  | complete r resp =>
      simp only [QueueEvent.pushedFor, QueueEvent.ops, KeyedQueue.given]
      induction (queued r resp).2 with
      | nil => rfl
      | cons other ips inductionHypothesis =>
          rw [List.filter_cons, List.map_cons, List.flatMap_cons, ← inductionHypothesis]
          by_cases same : other = ip
          · simp [same]
          · simp [same]
  | popDomain other => rfl

theorem poppedFor_eq (ip : GoString) (event : QueueEvent Rest) :
    event.poppedFor ip queue = KeyedQueue.taken ip queue event.ops := by
  cases event with
  | complete r resp =>
      have pushes : ∀ ips : List GoString, ∀ queue : IpQueue, KeyedQueue.taken ip queue
          (ips.map fun other => .push other (queued r resp).1) = [] := by
        intro ips
        induction ips with
        | nil => exact fun _ => rfl
        | cons other ips inductionHypothesis => exact fun _ => inductionHypothesis _
      exact (pushes _ queue).symm
  | popDomain other =>
      show (if other = ip ∧ queue.at ip ≠ [] then [(popDomain ip queue).1] else []) =
        (if other = ip then (queue.at ip).take 1 else []) ++ []
      rw [List.append_nil, ite_and, popDomain_domain]

theorem returned_eq (ip : GoString) (history : List (QueueEvent Rest)) :
    returned ip queue history = KeyedQueue.taken ip queue (history.flatMap QueueEvent.ops) := by
  induction history generalizing queue with
  | nil => rfl
  | cons event rest inductionHypothesis =>
      rw [returned, List.flatMap_cons, KeyedQueue.taken_append, poppedFor_eq, inductionHypothesis,
        apply_eq]

theorem serve_eq (history : List (QueueEvent Rest)) :
    history.foldl QueueEvent.apply queue =
      KeyedQueue.applyAll queue (history.flatMap QueueEvent.ops) := by
  induction history generalizing queue with
  | nil => rfl
  | cons event rest inductionHypothesis =>
      rw [List.foldl_cons, List.flatMap_cons, KeyedQueue.applyAll_append, inductionHypothesis,
        apply_eq]

theorem pushed_eq (ip : GoString) (history : List (QueueEvent Rest)) :
    history.flatMap (QueueEvent.pushedFor ip) =
      KeyedQueue.given ip (history.flatMap QueueEvent.ops) := by
  induction history with
  | nil => rfl
  | cons event rest inductionHypothesis =>
      rw [List.flatMap_cons, List.flatMap_cons, KeyedQueue.given_append, inductionHypothesis,
        pushedFor_eq]

/-- A section leaves the addresses alone that it is not about. -/
theorem apply_other (event : QueueEvent Rest) {ip : GoString} (other : ¬ event.Touches ip) :
    event.apply queue ip = queue ip := by
  rw [apply_eq]
  apply KeyedQueue.applyAll_other
  intro op there same
  cases event with
  | complete r resp =>
      obtain ⟨pushed, member, rfl⟩ := List.mem_map.mp there
      have isIp : pushed = ip := same
      exact other (isIp ▸ member)
  | popDomain popped =>
      obtain rfl := List.mem_singleton.mp there
      exact other same

end Histories

/-- A query completes in its critical section, or without one. -/
theorem handleQuery_ipQueue (lib : Library) (upstreams : List Upstream) (r : Msg lib.Rest)
    (queue : IpQueue) : (handleQuery lib upstreams r queue).ipQueue = queue ∨
      ∃ resp, (handleQuery lib upstreams r queue).ipQueue =
        (QueueEvent.complete r resp).apply queue := by
  unfold handleQuery
  split
  · exact .inl rfl
  · split
    · exact .inl rfl
    · split
      · exact .inl rfl
      next message _ => exact .inr ⟨_, rfl⟩

/-- For every history of completed queries and pops from an empty queue, and every address:
what was returned and what is left is what was pushed, in order; sections keep to their
addresses; no empty queue is stored; and a pop of an empty queue changes nothing. -/
theorem queue_conserved {Rest : Type} (history : List (QueueEvent Rest)) :
    (∀ ip, returned ip emptyQueue history ++ (serve history).at ip =
        history.flatMap (QueueEvent.pushedFor ip)) ∧
      (∀ ip, serve history ip ≠ some []) ∧
        (∀ (queue : IpQueue) (event : QueueEvent Rest) ip, ¬ event.Touches ip →
          event.apply queue ip = queue ip) ∧
          ∀ (queue : IpQueue) ip, queue.at ip = [] → popDomain ip queue = ([], queue) := by
  refine ⟨?_, ?_, fun _ event _ other => apply_other event other,
    fun _ _ empty => popDomain_of_empty empty⟩
  · intro ip
    have law := @KeyedQueue.conserved GoString GoString _ emptyQueue
      (history.flatMap QueueEvent.ops) ip
    rw [pushed_eq, returned_eq, serve, serve_eq]
    exact law.symm
  · intro ip
    rw [serve, serve_eq]
    apply KeyedQueue.noEmpty_applyAll
    intro key
    exact (Option.some_ne_none _).symm

end Gecit.Dns
