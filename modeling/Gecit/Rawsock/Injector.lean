import Gecit.Foundation.Expiring
import Gecit.Rawsock.Ethernet
import Gecit.Tun.Interfaces

/-!
Contract: the macOS injector of IPv6 packets, which remembers the addresses of its link.

A send looks up the interface, the default route and the neighbor table, one after another, and
keeps the two link-layer addresses for `neighborTTL`. The host may change at any time.

Owns `sourceIPv6`, `resolve` and `send` with their errors, and how old the addresses of a frame
may be. The mutex makes sends follow each other. Does not own the packet.
-/

namespace Gecit.Rawsock.Darwin

open Gecit.Foundation
open Gecit.Go
open Gecit.Net
open Gecit.Tun.Windows (Addr isGlobalIPv6)

/-- In nanoseconds. -/
def neighborTTL : Nat := 60 * 1000000000

/-- What the injector finds on its host at each time. -/
structure Host where
  /-- `net.InterfaceByName`: the hardware address, and what `Addrs` returns. -/
  interface : Nat → Option (Bytes × Option (List Addr))
  /-- `netstat -rn -f inet6` -/
  netstat : Nat → Option GoString
  /-- `ndp -an` -/
  ndp : Nat → Option GoString

inductive ResolveError where
  | interface
  | addresses
  | noGlobalIPv6
  | routingTable
  | noDefaultRoute
  | neighborTable
  | neighbor (err : NeighborError)
deriving DecidableEq, Repr

/-- The first global IPv6 address, and the hardware address. -/
def sourceIPv6 (interface : Option (Bytes × Option (List Addr))) :
    Except ResolveError (IP × Bytes) :=
  match interface with
  | none => .error .interface
  | some (_, none) => .error .addresses
  | some (hardwareAddr, some addrs) =>
      let source := addrs.findSome? fun addr =>
        match addr with
        | .ipNet ip => if isGlobalIPv6 ip then some ip else none
        | .other => none
      match source with
      | none => .error .noGlobalIPv6
      | some ip => .ok (ip, hardwareAddr)

/-- When a send reaches each of its calls. -/
structure Moments where
  begins : Nat
  interfaceRead : Nat
  netstatRun : Nat
  ndpRun : Nat
  resolved : Nat
  ordered : begins ≤ interfaceRead ∧ interfaceRead ≤ netstatRun ∧ netstatRun ≤ ndpRun ∧
    ndpRun ≤ resolved

structure IPv6Injector where
  srcMAC : Bytes
  /-- Nil until the first address was found. -/
  dstMAC : Option Bytes
  resolvedAt : Nat
deriving DecidableEq, Repr

def newIPv6Injector : IPv6Injector := ⟨[], none, 0⟩

structure Send where
  moments : Moments
  conn : ConnInfo
  payload : Bytes
  ttl : Int
  /-- `WritePacketData` succeeds. -/
  writes : Bool

inductive SendResult where
  | written (frame : Bytes)
  | writeFailed (frame : Bytes)
  | unresolved (err : ResolveError)
deriving DecidableEq, Repr

/-- What was handed to the interface. -/
def SendResult.frame? : SendResult → Option Bytes
  | .written frame | .writeFailed frame => some frame
  | .unresolved _ => none

section Injector

-- `strings.EqualFold`; which runes it takes for one letter does not matter here.
variable (equalFold : GoString → GoString → Bool) (iface : GoString) (host : Host)

/-- The lookups of `resolve`: the link-layer addresses of the interface and of the gateway. -/
def lookUp (moments : Moments) : Except ResolveError (Bytes × Bytes) :=
  match sourceIPv6 (host.interface moments.interfaceRead) with
  | .error err => .error err
  | .ok (_, srcMAC) =>
      match host.netstat moments.netstatRun with
      | none => .error .routingTable
      | some out =>
          let gateway := ipv6DefaultGateway out iface
          if gateway = [] then .error .noDefaultRoute
          else
            match host.ndp moments.ndpRun with
            | none => .error .neighborTable
            | some ndpOut =>
                match neighborMAC equalFold ndpOut gateway with
                | .error err => .error (.neighbor err)
                | .ok dstMAC => .ok (srcMAC, dstMAC)

def IPv6Injector.resolve (injector : IPv6Injector) (moments : Moments) :
    Except ResolveError Unit × IPv6Injector :=
  if injector.dstMAC.isSome ∧ moments.begins - injector.resolvedAt < neighborTTL then
    (.ok (), injector)
  else
    match lookUp equalFold iface host moments with
    | .error err => (.error err, injector)
    | .ok (srcMAC, dstMAC) => (.ok (), ⟨srcMAC, some dstMAC, moments.resolved⟩)

def IPv6Injector.send (injector : IPv6Injector) (sending : Send) : SendResult × IPv6Injector :=
  match injector.resolve equalFold iface host sending.moments with
  | (.error err, injector) => (.unresolved err, injector)
  | (.ok (), injector) =>
      let ipPacket := buildPacket .darwin sending.conn sending.payload sending.ttl
      let frame := buildEthernetFrame injector.srcMAC (injector.dstMAC.getD []) ipPacket
      (if sending.writes then .written frame else .writeFailed frame, injector)

/-- The injector after some sends. -/
def injectorAfter (past : List Send) : IPv6Injector :=
  past.foldl (fun injector sending => (injector.send equalFold iface host sending).2) newIPv6Injector

/-! ### The addresses as a value that expires -/

/-- The send as a use of the two addresses. -/
def Send.use (sending : Send) : Use ResolveError (Bytes × Bytes) where
  begins := sending.moments.begins
  fetched := lookUp equalFold iface host sending.moments
  ends := sending.moments.resolved
  ordered := by
    obtain ⟨first, second, third, fourth⟩ := sending.moments.ordered
    omega

/-- What the injector remembers. -/
def IPv6Injector.remembered (injector : IPv6Injector) : Option (Stamped (Bytes × Bytes)) :=
  injector.dstMAC.map fun dstMAC => ⟨(injector.srcMAC, dstMAC), injector.resolvedAt⟩

variable {equalFold iface host} {injector : IPv6Injector} {sending : Send}

/-- A send hands over a frame with the addresses it is served, or reports why there are none. -/
theorem send_eq_serve : (injector.send equalFold iface host sending).2.remembered =
      (serve neighborTTL injector.remembered (sending.use equalFold iface host)).2 ∧
    (match (serve neighborTTL injector.remembered (sending.use equalFold iface host)).1 with
      | .ok (srcMAC, dstMAC) =>
          (injector.send equalFold iface host sending).1.frame? = some (buildEthernetFrame srcMAC
            dstMAC (buildPacket .darwin sending.conn sending.payload sending.ttl))
      | .error err => (injector.send equalFold iface host sending).1 = .unresolved err) := by
  have attempts : ∀ (writes : Bool) (frame : Bytes),
      (if writes then SendResult.written frame else .writeFailed frame).frame? = some frame := by
    intro writes frame
    cases writes <;> rfl
  obtain ⟨srcMAC, dstMAC, resolvedAt⟩ := injector
  unfold IPv6Injector.send IPv6Injector.resolve serve
  cases dstMAC with
  | none =>
      rw [if_neg fun both => Bool.false_ne_true both.1]
      cases looked : lookUp equalFold iface host sending.moments with
      | error err => simp [IPv6Injector.remembered, Send.use, looked]
      | ok found => simp [IPv6Injector.remembered, Send.use, looked, attempts]
  | some dstMAC =>
      by_cases fresh : sending.moments.begins - resolvedAt < neighborTTL
      · rw [if_pos ⟨rfl, fresh⟩]
        simp [IPv6Injector.remembered, Send.use, Option.filter, Stamped.isFresh, fresh, attempts]
      · rw [if_neg fun both => fresh both.2]
        cases looked : lookUp equalFold iface host sending.moments with
        | error err =>
            simp [IPv6Injector.remembered, Send.use, Option.filter, Stamped.isFresh, fresh, looked]
        | ok found =>
            simp [IPv6Injector.remembered, Send.use, Option.filter, Stamped.isFresh, fresh, looked,
              attempts]

theorem injectorAfter_concat (past : List Send) (sending : Send) :
    injectorAfter equalFold iface host (past ++ [sending]) =
      ((injectorAfter equalFold iface host past).send equalFold iface host sending).2 := by
  unfold injectorAfter
  rw [List.foldl_append]
  rfl

theorem remembered_after (past : List Send) :
    (injectorAfter equalFold iface host past).remembered =
      storedAfter neighborTTL (past.map (Send.use equalFold iface host)) := by
  induction past using List.reverseRecOn with
  | nil => rfl
  | append_singleton past sending inductionHypothesis =>
      rw [List.map_append, List.map_singleton, storedAfter_concat, ← inductionHypothesis,
        injectorAfter_concat]
      exact send_eq_serve.1

/-- A frame goes out with addresses that were served. -/
theorem send_frame {frame : Bytes}
    (attempted : (injector.send equalFold iface host sending).1.frame? = some frame) :
    ∃ srcMAC dstMAC, (serve neighborTTL injector.remembered
        (sending.use equalFold iface host)).1 = .ok (srcMAC, dstMAC) ∧
      frame = buildEthernetFrame srcMAC dstMAC
        (buildPacket .darwin sending.conn sending.payload sending.ttl) := by
  have decided := (@send_eq_serve equalFold iface host injector sending).2
  cases served : (serve neighborTTL injector.remembered (sending.use equalFold iface host)).1 with
  | ok found =>
      rw [served] at decided
      exact ⟨found.1, found.2, rfl, Option.some.inj (attempted.symm.trans decided)⟩
  | error err =>
      rw [served] at decided
      rw [show (injector.send equalFold iface host sending).1 = .unresolved err from decided] at attempted
      contradiction

theorem send_unresolved_iff {err : ResolveError} :
    (injector.send equalFold iface host sending).1 = .unresolved err ↔
      (serve neighborTTL injector.remembered (sending.use equalFold iface host)).1 = .error err := by
  have decided := (@send_eq_serve equalFold iface host injector sending).2
  cases served : (serve neighborTTL injector.remembered (sending.use equalFold iface host)).1 with
  | ok found =>
      rw [served] at decided
      apply iff_of_false
      · intro unresolved
        rw [unresolved] at decided
        contradiction
      · intro impossible
        contradiction
  | error other =>
      rw [served] at decided
      rw [show (injector.send equalFold iface host sending).1 = .unresolved other from decided]
      simp

/-- A send that cannot resolve leaves the injector as it is. -/
theorem send_unresolved {err : ResolveError}
    (failed : (injector.send equalFold iface host sending).1 = .unresolved err) :
    (injector.send equalFold iface host sending).2 = injector := by
  unfold IPv6Injector.send at failed ⊢
  have stays : ∀ err', (injector.resolve equalFold iface host sending.moments).1 = .error err' →
      (injector.resolve equalFold iface host sending.moments).2 = injector := by
    intro err' notResolved
    unfold IPv6Injector.resolve at notResolved ⊢
    split_ifs at notResolved ⊢
    cases looked : lookUp equalFold iface host sending.moments with
    | error => rfl
    | ok =>
        rw [looked] at notResolved
        contradiction
  generalize injector.resolve equalFold iface host sending.moments = reached at failed stays ⊢
  obtain ⟨_ | _, after⟩ := reached
  · exact stays _ rfl
  · dsimp only at failed
    split at failed <;> contradiction

variable (equalFold iface host) in
/-- What a send on a host that changes at will does, after some sends. -/
structure SendsRecent (past : List Send) (sending : Send) : Prop where
  /-- A frame carries the addresses of one lookup, of this send or of one that ended less than
  `neighborTTL` ago. -/
  frame : ∀ frame, ((injectorAfter equalFold iface host past).send equalFold iface host
    sending).1.frame? = some frame → ∃ origin ∈ past ++ [sending], ∃ srcMAC dstMAC,
      lookUp equalFold iface host origin.moments = .ok (srcMAC, dstMAC) ∧
        sending.moments.begins < origin.moments.resolved + neighborTTL ∧
          frame = buildEthernetFrame srcMAC dstMAC
            (buildPacket .darwin sending.conn sending.payload sending.ttl)
  /-- The send fails to resolve with the error of its own lookup, if nothing younger is there. -/
  unresolved : ∀ err, ((injectorAfter equalFold iface host past).send equalFold iface host
    sending).1 = .unresolved err ↔ lookUp equalFold iface host sending.moments = .error err ∧
      ∀ stamped ∈ (injectorAfter equalFold iface host past).remembered,
        neighborTTL ≤ sending.moments.begins - stamped.storedAt
  /-- A failure changes nothing. -/
  kept : ∀ err, ((injectorAfter equalFold iface host past).send equalFold iface host
    sending).1 = .unresolved err → injectorAfter equalFold iface host (past ++ [sending]) =
      injectorAfter equalFold iface host past
  /-- What is remembered is not replaced sooner than `neighborTTL` later. -/
  spaced : ∀ later, ∀ stamped ∈ (injectorAfter equalFold iface host past).remembered,
    ∃ after ∈ (injectorAfter equalFold iface host (past ++ later)).remembered,
      after = stamped ∨ stamped.storedAt + neighborTTL ≤ after.storedAt

variable (equalFold iface host) in
/-- No frame goes to an address that was read longer ago, whatever happens to the link. -/
theorem frames_recently_resolved (past : List Send) (sending : Send) :
    SendsRecent equalFold iface host past sending where
  frame := by
    intro frame attempted
    obtain ⟨srcMAC, dstMAC, served, isFrame⟩ := send_frame attempted
    rw [remembered_after] at served
    obtain ⟨use, member, found, recent⟩ := served_recently (by decide) served
    have uses : past.map (Send.use equalFold iface host) ++ [sending.use equalFold iface host] =
        (past ++ [sending]).map (Send.use equalFold iface host) := by
      rw [List.map_append, List.map_singleton]
    rw [uses] at member
    obtain ⟨origin, there, rfl⟩ := List.mem_map.mp member
    exact ⟨origin, there, srcMAC, dstMAC, found, recent, isFrame⟩
  unresolved := by
    intro err
    rw [send_unresolved_iff, serve_eq_error_iff]
    rfl
  kept := by
    intro err failed
    rw [injectorAfter_concat]
    exact send_unresolved failed
  spaced := by
    intro later stamped there
    rw [remembered_after] at there
    rw [remembered_after, List.map_append]
    exact stored_spaced (by decide) there _

end Injector

end Gecit.Rawsock.Darwin
