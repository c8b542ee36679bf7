import Gecit.Foundation.Search
import Gecit.Go.Fields
import Gecit.Net.Address

/-!
Contract: the gateway's link-layer address from the texts of `netstat` and `ndp`.

`ipv6DefaultGateway` keeps the zone of the address it reads; `neighborMAC` cuts it off on both
sides and takes the first row of the neighbor table with the address, whatever its zone.

Owns the two functions, `net.ParseMAC`, and the exact tables on which the gateway gets a
link-layer address of its own zone. Does not own the injector.
-/

namespace Gecit.Rawsock

open Gecit.Foundation
open Gecit.Go
open Gecit.Net

/-! ### `net.ParseMAC` -/

/-- Two hexadecimal digits, followed by `separator` or by nothing. -/
def xtoi2 (s : GoString) (separator : UInt8) : Option UInt8 :=
  match s with
  | high :: low :: rest =>
      if rest ≠ [] ∧ rest.head? ≠ some separator then none
      else
        (hexValue high).bind fun high => (hexValue low).map fun low =>
          UInt8.ofNat (16 * high + low)
  | _ => none

def macLengths : List Nat := [6, 8, 20]

/-- Six, eight or twenty bytes, as pairs with colons or hyphens, or as fours with dots. -/
def parseMAC (s : GoString) : Option Bytes :=
  if s.length < 14 then none
  else
    let separator := s.getD 2 0
    if separator = byteOf ':' ∨ separator = byteOf '-' then
      let n := (s.length + 1) / 3
      if (s.length + 1) % 3 ≠ 0 ∨ n ∉ macLengths then none
      else (List.range n).mapM fun i => xtoi2 (s.drop (3 * i)) separator
    else if s.getD 4 0 = byteOf '.' then
      let n := 2 * (s.length + 1) / 5
      if (s.length + 1) % 5 ≠ 0 ∨ n ∉ macLengths then none
      else
        (List.range n).mapM fun i =>
          if i % 2 = 0 then xtoi2 ((s.drop (5 * (i / 2))).take 2) 0
          else xtoi2 (s.drop (5 * (i / 2) + 2)) (byteOf '.')
    else none

/-! ### The two tables -/

/-- The gateway on a line of the routing table, if it is the default route of `iface`. -/
def gatewayOnLine (iface line : GoString) : Option GoString :=
  match fields line with
  | destination :: gateway :: _flags :: netif :: _ =>
      if destination ≠ lit "default" ∨ netif ≠ iface then none else some gateway
  | _ => none

/-- Empty when there is none. -/
def ipv6DefaultGateway (netstatOut iface : GoString) : GoString :=
  ((split netstatOut).findSome? (gatewayOnLine iface)).getD []

inductive NeighborError where
  | parse (linkLayer : GoString)
  | notFound (gateway : GoString)
deriving DecidableEq, Repr

/-- The text in front of the first `%`. -/
def addressPart (s : GoString) : GoString := s.takeWhile (· ≠ byteOf '%')

/-- The text from the first `%` on. -/
def zonePart (s : GoString) : GoString := s.dropWhile (· ≠ byteOf '%')

-- `strings.EqualFold`; which runes it takes for one letter does not matter here.
variable (equalFold : GoString → GoString → Bool)

/-- The loop body of `neighborMAC`: what it returns for a line, if it returns. -/
def neighborOnLine (want line : GoString) : Option (Except NeighborError Bytes) :=
  match fields line with
  | neighbor :: linkLayer :: _netif :: _ =>
      if equalFold (addressPart neighbor) want then
        match parseMAC linkLayer with
        | none => some (.error (.parse linkLayer))
        | some mac => some (.ok mac)
      else none
  | _ => none

def neighborMAC (ndpOut gateway : GoString) : Except NeighborError Bytes :=
  ((split ndpOut).findSome? (neighborOnLine equalFold (addressPart gateway))).getD
    (.error (.notFound gateway))

/-! ### Rows -/

/-- What the code reads of a row of the neighbor table. -/
structure Row where
  neighbor : GoString
  linkLayer : GoString
deriving DecidableEq, Repr

def rowOnLine (line : GoString) : Option Row :=
  match fields line with
  | neighbor :: linkLayer :: _netif :: _ => some ⟨neighbor, linkLayer⟩
  | _ => none

def rows (ndpOut : GoString) : List Row := (split ndpOut).filterMap rowOnLine

/-- The link-layer address, where it is complete. -/
def Row.mac (row : Row) : Option Bytes := parseMAC row.linkLayer

/-- The addresses agree, the zones aside. -/
def Row.hasAddress (gateway : GoString) (row : Row) : Bool :=
  equalFold (addressPart row.neighbor) (addressPart gateway)

/-- Address and zone agree. -/
def Row.isOf (gateway : GoString) (row : Row) : Bool :=
  row.hasAddress equalFold gateway && zonePart row.neighbor = zonePart gateway

/-- The link-layer address is one of a row for the gateway and its zone. -/
def IsOwn (ndpOut gateway : GoString) (mac : Bytes) : Prop :=
  ∃ row ∈ rows ndpOut, row.isOf equalFold gateway = true ∧ row.mac = some mac

/-- The gateway gets a link-layer address of its own rows only, and gets one if there is one. -/
def ResolvesOwn (ndpOut gateway : GoString) : Prop :=
  (∀ mac, neighborMAC equalFold ndpOut gateway = .ok mac → IsOwn equalFold ndpOut gateway mac) ∧
    ((∃ mac, IsOwn equalFold ndpOut gateway mac) →
      ∃ mac, neighborMAC equalFold ndpOut gateway = .ok mac ∧ IsOwn equalFold ndpOut gateway mac)

/-- The first row with the gateway's address has a link-layer address of the gateway's own rows,
or has none, as all of these. -/
def FirstRowOwn (ndpOut gateway : GoString) : Prop :=
  ∀ row ∈ (rows ndpOut).find? (Row.hasAddress equalFold gateway),
    (∀ mac ∈ row.mac, IsOwn equalFold ndpOut gateway mac) ∧
      (row.mac = none → ∀ own ∈ rows ndpOut, own.isOf equalFold gateway = true → own.mac = none)

variable {equalFold} {ndpOut gateway : GoString}

/-- What the first row with the address is answered with. -/
def Row.outcome (row : Row) : Except NeighborError Bytes :=
  row.mac.elim (.error (.parse row.linkLayer)) .ok

theorem neighborOnLine_eq (gateway line : GoString) :
    neighborOnLine equalFold (addressPart gateway) line =
      ((rowOnLine line).filter (Row.hasAddress equalFold gateway)).map Row.outcome := by
  unfold neighborOnLine rowOnLine
  split
  next neighbor linkLayer netif rest there =>
    by_cases same : equalFold (addressPart neighbor) (addressPart gateway) = true
    · cases complete : parseMAC linkLayer <;>
        simp [Option.filter, Row.hasAddress, Row.outcome, Row.mac, same, complete]
    · simp [Option.filter, Row.hasAddress, same]
  next => rfl

/-- The first row with the address decides. -/
theorem neighborMAC_eq (ndpOut gateway : GoString) :
    neighborMAC equalFold ndpOut gateway =
      (((rows ndpOut).find? (Row.hasAddress equalFold gateway)).map Row.outcome).getD
        (.error (.notFound gateway)) := by
  rw [neighborMAC, findSome?_eq_map_find? (neighborOnLine_eq gateway), rows]

theorem hasAddress_of_isOf {row : Row} (isOf : row.isOf equalFold gateway = true) :
    row.hasAddress equalFold gateway = true := by
  rw [Row.isOf, Bool.and_eq_true] at isOf
  exact isOf.1

theorem outcome_eq_ok_iff {row : Row} {mac : Bytes} :
    row.outcome = .ok mac ↔ row.mac = some mac := by
  unfold Row.outcome
  cases row.mac <;> simp

theorem resolvesOwn_iff (ndpOut gateway : GoString) :
    ResolvesOwn equalFold ndpOut gateway ↔ FirstRowOwn equalFold ndpOut gateway := by
  rw [ResolvesOwn, FirstRowOwn, neighborMAC_eq]
  cases found : (rows ndpOut).find? (Row.hasAddress equalFold gateway) with
  | none =>
      have noOwn : ¬ ∃ mac, IsOwn equalFold ndpOut gateway mac := by
        rintro ⟨_, row, member, isOf, _⟩
        exact List.find?_eq_none.mp found row member (hasAddress_of_isOf isOf)
      simp [noOwn]
  | some row =>
      simp only [Option.map_some, Option.getD_some, outcome_eq_ok_iff, Option.mem_some_iff,
        forall_eq']
      constructor
      · rintro ⟨sound, complete⟩
        refine ⟨sound, ?_⟩
        intro incomplete own member isOf
        by_contra other
        obtain ⟨mac, isMAC⟩ := Option.ne_none_iff_exists'.mp other
        obtain ⟨_, returned, _⟩ := complete ⟨mac, own, member, isOf, isMAC⟩
        rw [incomplete] at returned
        contradiction
      · rintro ⟨sound, incomplete⟩
        refine ⟨sound, ?_⟩
        rintro ⟨mac, own, member, isOf, isMAC⟩
        cases returned : row.mac with
        | none =>
            rw [incomplete returned own member isOf] at isMAC
            contradiction
        | some found => exact ⟨found, rfl, sound found returned⟩

variable (equalFold) in
/-- The gateway that is read for the interface, if any, resolves to its own neighbor entry. -/
def GatewayResolves (netstatOut ndpOut iface : GoString) : Prop :=
  let gateway := ipv6DefaultGateway netstatOut iface
  gateway ≠ [] → ResolvesOwn equalFold ndpOut gateway

/-- The gateway of an interface gets its own neighbor entry exactly when the first row with its
address, the zone aside, is as good as one of its own. -/
theorem gateway_resolves_iff (netstatOut ndpOut iface : GoString) :
    GatewayResolves equalFold netstatOut ndpOut iface ↔
      (ipv6DefaultGateway netstatOut iface ≠ [] →
        FirstRowOwn equalFold ndpOut (ipv6DefaultGateway netstatOut iface)) := by
  simp only [GatewayResolves, resolvesOwn_iff]

/-- `strings.EqualFold` on ASCII texts. -/
def equalFoldASCII (s t : GoString) : Bool :=
  let lower := fun (b : UInt8) => if 65 ≤ b ∧ b ≤ 90 then b + 32 else b
  s.map lower = t.map lower

def netstatTable : GoString := lit "default  fe80::1%en0  UGcg  en0\n"

/-- The loopback interface has the router's address too, and comes first. -/
def ndpTable : GoString :=
  lit "fe80::1%lo0  (incomplete)  lo0 permanent R\n" ++
    lit "fe80::1%en0  4c:2e:fe:36:2c:e7  en0 4s R R\n"

def routerMAC : Bytes := [0x4c, 0x2e, 0xfe, 0x36, 0x2c, 0xe7]

theorem gateway_shadowed :
    ¬ ∀ netstatOut ndpOut iface, GatewayResolves equalFoldASCII netstatOut ndpOut iface := by
  intro resolves
  have gateway : ipv6DefaultGateway netstatTable (lit "en0") = lit "fe80::1%en0" := by
    decide +kernel
  have own : IsOwn equalFoldASCII ndpTable (lit "fe80::1%en0") routerMAC := by
    refine ⟨⟨lit "fe80::1%en0", lit "4c:2e:fe:36:2c:e7"⟩, ?_, ?_, ?_⟩ <;> decide +kernel
  have resolved := resolves netstatTable ndpTable (lit "en0")
  rw [GatewayResolves, gateway] at resolved
  obtain ⟨mac, returned, _⟩ := (resolved (by decide)).2 ⟨routerMAC, own⟩
  have failed : neighborMAC equalFoldASCII ndpTable (lit "fe80::1%en0") =
      .error (.parse (lit "(incomplete)")) := by
    decide +kernel
  rw [failed] at returned
  contradiction

end Gecit.Rawsock
