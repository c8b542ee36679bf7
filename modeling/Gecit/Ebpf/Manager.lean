import Gecit.Foundation.Startup

/-!
Contract: what `Start` and `Stop` of the Linux manager acquire and release.

Every step of `Start` may fail. Owns the fields that `Stop` tests, the ledger of resources, and
at which exits it is balanced. Does not own what the resources do.
-/

namespace Gecit.Ebpf

open Gecit.Foundation

namespace Manager

inductive Resource where
  | collection
  | link
  | reader
  | rawSock
deriving DecidableEq, Repr

/-- The steps of `Start` that can fail. -/
inductive StartStep where
  | haveSockOps
  | haveSockOpsSetsockopt
  | loadCollectionSpec
  | newCollection
  | program
  | attachCgroup
  | pushConfig
  | pushTargetPorts
  | pushExcludeIPs
  | eventsMap
  | newReader
  | newRawSocket
deriving DecidableEq, Repr

/-- In the order of the source. -/
def order : List StartStep :=
  [.haveSockOps, .haveSockOpsSetsockopt, .loadCollectionSpec, .newCollection, .program,
    .attachCgroup, .pushConfig, .pushTargetPorts, .pushExcludeIPs, .eventsMap, .newReader,
    .newRawSocket]

end Manager

/-- Which fields are not nil, and what has happened to the resources. -/
structure Manager where
  collection : Bool
  link : Bool
  reader : Bool
  rawSock : Bool
  ledger : Ledger Manager.Resource
deriving DecidableEq, Repr

namespace Manager

def newManager : Manager where
  collection := false
  link := false
  reader := false
  rawSock := false
  ledger := []

def acquire (m : Manager) (resource : Resource) : Manager :=
  { m with ledger := m.ledger ++ [.acquire resource] }

def release (m : Manager) (resource : Resource) : Manager :=
  { m with ledger := m.ledger ++ [.release resource] }

/-- The reader's field is kept. -/
def stop (m : Manager) : Manager :=
  let m := if m.reader then m.release .reader else m
  let m := if m.rawSock then { m.release .rawSock with rawSock := false } else m
  let m := if m.link then { m.release .link with link := false } else m
  if m.collection then { m.release .collection with collection := false } else m

/-- The manager when `Start` returns, and whether it succeeds. -/
def start (fails : StartStep → Bool) : Manager × Bool :=
  let m := newManager
  if fails .haveSockOps then (m, false)
  else if fails .haveSockOpsSetsockopt then (m, false)
  else if fails .loadCollectionSpec then (m, false)
  else if fails .newCollection then (m, false)
  else
    let m := { m.acquire .collection with collection := true }
    if fails .program then (m, false)
    else if fails .attachCgroup then (m.release .collection, false)
    else
      let m := { m.acquire .link with link := true }
      if fails .pushConfig then (m.stop, false)
      else if fails .pushTargetPorts then (m.stop, false)
      else if fails .pushExcludeIPs then (m.stop, false)
      else if fails .eventsMap then (m.stop, false)
      else if fails .newReader then (m.stop, false)
      else
        let m := { m.acquire .reader with reader := true }
        if fails .newRawSocket then (m.stop, false)
        else ({ m.acquire .rawSock with rawSock := true }, true)

theorem start_stopsAtFirst : StopsAtFirst order start := by
  unfold start
  repeat refine StopsAtFirst.cons ?_ _ _
  exact .nil _

theorem balances_iff (fails : StartStep → Bool) :
    Balances ledger stop (start fails) ↔ firstFailing order fails ≠ some .program := by
  apply start_stopsAtFirst.iff_of_exits (Balances ledger stop) (· ≠ some .program)
  decide

end Manager

end Gecit.Ebpf
