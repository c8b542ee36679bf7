import Gecit.Ebpf.Manager

/-!
Contract: what `Start` and `Stop` of the TUN manager acquire and release.

Every step of `Start` may fail; the sequence tracker may be missing. Owns the fields that `Stop`
tests, the ledger of resources, and at which exits it is balanced, beside those of the Linux
manager. Whether a monitor holds anything before its own `Start` is left open.
-/

namespace Gecit.Tun

open Gecit.Foundation

namespace Manager

inductive Resource where
  | rawSock
  /-- The capture handle of the sequence tracker. -/
  | detector
  | networkMonitor
  | ifaceMonitor
  | tunDevice
  | stack
deriving DecidableEq, Repr

/-- The steps that `Start` fails with. -/
inductive StartStep where
  | physicalInterface
  | newRawSocket
  | newNetworkUpdateMonitor
  | newDefaultInterfaceMonitor
  | startNetworkMonitor
  | startInterfaceMonitor
  | newTun
  | newStack
  | startTun
  | startStack
deriving DecidableEq, Repr

def networkingOrder : List StartStep :=
  [.newNetworkUpdateMonitor, .newDefaultInterfaceMonitor, .startNetworkMonitor,
    .startInterfaceMonitor]

/-- In the order of the source. -/
def order : List StartStep :=
  [.physicalInterface, .newRawSocket] ++
    (networkingOrder ++ [.newTun, .newStack, .startTun, .startStack])

/-- From when on a monitor holds a resource. -/
inductive HeldFrom where
  | construction
  | start
deriving DecidableEq, Repr

end Manager

/-- Which fields are not nil, and what has happened to the resources. -/
structure Manager where
  rawSock : Bool
  networkMonitor : Bool
  ifaceMonitor : Bool
  tunDevice : Bool
  stack : Bool
  ledger : Ledger Manager.Resource
deriving DecidableEq

namespace Manager

def unstarted : Manager where
  rawSock := false
  networkMonitor := false
  ifaceMonitor := false
  tunDevice := false
  stack := false
  ledger := []

def acquire (m : Manager) (resource : Resource) : Manager :=
  { m with ledger := m.ledger ++ [.acquire resource] }

def release (m : Manager) (resource : Resource) : Manager :=
  { m with ledger := m.ledger ++ [.release resource] }

/-- `SetSeqTracker(nil)` at the end does not stop the tracker. -/
def stop (m : Manager) : Manager :=
  let m := if m.stack then m.release .stack else m
  let m := if m.tunDevice then m.release .tunDevice else m
  let m := if m.rawSock then m.release .rawSock else m
  let m := if m.ifaceMonitor then m.release .ifaceMonitor else m
  if m.networkMonitor then m.release .networkMonitor else m

variable (heldFrom : HeldFrom)

/-- A monitor comes to the point from which on it holds its resource, or to another one. -/
def acquireAt (m : Manager) (point : HeldFrom) (resource : Resource) : Manager :=
  if heldFrom = point then m.acquire resource else m

def initNetworking (m : Manager) (fails : StartStep → Bool) : Manager × Bool :=
  if fails .newNetworkUpdateMonitor then (m, false)
  else
    let m := { m.acquireAt heldFrom .construction .networkMonitor with networkMonitor := true }
    if fails .newDefaultInterfaceMonitor then (m, false)
    else
      let m := { m.acquireAt heldFrom .construction .ifaceMonitor with ifaceMonitor := true }
      if fails .startNetworkMonitor then (m, false)
      else
        let m := m.acquireAt heldFrom .start .networkMonitor
        if fails .startInterfaceMonitor then (m.release .networkMonitor, false)
        else (m.acquireAt heldFrom .start .ifaceMonitor, true)

/-- From the TUN device on. -/
def startStack (m : Manager) (fails : StartStep → Bool) : Manager × Bool :=
  if fails .newTun then (m.release .rawSock, false)
  else
    let m := { m.acquire .tunDevice with tunDevice := true }
    if fails .newStack then ((m.release .tunDevice).release .rawSock, false)
    else
      let m := { m.acquire .stack with stack := true }
      if fails .startTun then (((m.release .stack).release .tunDevice).release .rawSock, false)
      else if fails .startStack then ((m.release .tunDevice).release .rawSock, false)
      else (m, true)

/-- The manager when `Start` returns, and whether it succeeds. A failed `startSeqTracker` is
only logged. -/
def start (noTracker : Bool) (fails : StartStep → Bool) : Manager × Bool :=
  let m := unstarted
  if fails .physicalInterface then (m, false)
  else if fails .newRawSocket then (m, false)
  else
    let m := { m.acquire .rawSock with rawSock := true }
    let m := if noTracker then m else m.acquire .detector
    ifErr (initNetworking heldFrom m fails) (·.release .rawSock) (startStack · fails)

/-- Where `Start` may be left, or succeed, without a leak. -/
def Clean (noTracker : Bool) : Option StartStep → Prop
  | some .physicalInterface | some .newRawSocket => True
  | some .newNetworkUpdateMonitor | none => noTracker = true
  | some .newDefaultInterfaceMonitor | some .startNetworkMonitor | some .startInterfaceMonitor =>
      noTracker = true ∧ heldFrom = .start
  | some .newTun | some .newStack | some .startTun | some .startStack => False

instance (noTracker : Bool) (first : Option StartStep) :
    Decidable (Clean heldFrom noTracker first) := by
  unfold Clean
  split <;> infer_instance

theorem initNetworking_stopsAtFirst (m : Manager) :
    StopsAtFirst networkingOrder (initNetworking heldFrom m) := by
  unfold initNetworking
  repeat refine StopsAtFirst.cons ?_ _ _
  exact .nil _

theorem startStack_stopsAtFirst (m : Manager) :
    StopsAtFirst [.newTun, .newStack, .startTun, .startStack] (startStack m) := by
  unfold startStack
  repeat refine StopsAtFirst.cons ?_ _ _
  exact .nil _

theorem start_stopsAtFirst (noTracker : Bool) : StopsAtFirst order (start heldFrom noTracker) := by
  unfold start
  refine StopsAtFirst.cons (StopsAtFirst.cons ?_ _ _) _ _
  exact (initNetworking_stopsAtFirst heldFrom _).andThen (·.release .rawSock) startStack_stopsAtFirst

theorem balances_iff (noTracker : Bool) (fails : StartStep → Bool) :
    Balances ledger stop (start heldFrom noTracker fails) ↔
      Clean heldFrom noTracker (firstFailing order fails) := by
  apply (start_stopsAtFirst heldFrom noTracker).iff_of_exits (Balances ledger stop)
    (Clean heldFrom noTracker)
  cases heldFrom <;> cases noTracker <;> decide

/-- For every choice of the steps that fail, what `Start` and `Stop` acquired has been released
exactly once: by the Linux manager unless it first fails to find its program, by the TUN manager
where it is left or succeeds without a leak. -/
theorem start_stop_balanced_iff (linuxFails : Ebpf.Manager.StartStep → Bool)
    (heldFrom : HeldFrom) (noTracker : Bool) (fails : StartStep → Bool) :
    (Balances Ebpf.Manager.ledger Ebpf.Manager.stop (Ebpf.Manager.start linuxFails) ↔
      firstFailing Ebpf.Manager.order linuxFails ≠ some .program) ∧
    (Balances ledger stop (start heldFrom noTracker fails) ↔
      Clean heldFrom noTracker (firstFailing order fails)) :=
  ⟨Ebpf.Manager.balances_iff linuxFails, balances_iff heldFrom noTracker fails⟩

/-- No step fails, and the TUN engine is stopped; the Linux program is missing. -/
theorem start_stop_leaks :
    (∀ heldFrom, ¬ Balances ledger stop (start heldFrom false fun _ => false)) ∧
      ¬ Balances Ebpf.Manager.ledger Ebpf.Manager.stop (Ebpf.Manager.start (· == .program)) := by
  refine ⟨?_, by decide⟩
  intro heldFrom
  cases heldFrom <;> decide

end Manager

end Gecit.Tun
