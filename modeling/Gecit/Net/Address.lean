import Gecit.Go.Strings
import Gecit.Rawsock.ConnInfo

/-!
Contract: addresses and host names as Go's `net` and `net/url` write and read them.

`parseIP` reads the dotted form of IPv4 and the colon form of IPv6, with one `::` and an
IPv4 tail; `ipv4String` writes the dotted form, and both agree; `ipString` writes any address.
A host may carry a port, and an IPv6 host stands in brackets.

Owns the texts of addresses and of hosts with ports. Does not own URLs or name lookups.
-/

namespace Gecit.Net

open Gecit.Foundation
open Gecit.Go
open Gecit.Rawsock

/-- An address of four or of sixteen bytes. -/
abbrev Address := { ip : IP // ip.length = 4 ∨ ip.length = 16 }

def byteOf (c : Char) : UInt8 := UInt8.ofNat c.toNat

/-! ### IPv4 -/

def isDigit (b : UInt8) : Bool := 48 ≤ b && b ≤ 57

def decimal (s : GoString) : Nat := s.foldl (fun value b => value * 10 + (b.toNat - 48)) 0

/-- A field of a dotted address: no sign, no leading zero, at most 255. -/
def parseOctet (s : GoString) : Option UInt8 :=
  if s = [] ∨ s.all isDigit = false ∨ (1 < s.length ∧ s.head? = some 48) ∨ 255 < decimal s then none
  else some (UInt8.ofNat (decimal s))

def parseIPv4Text (s : GoString) : Option Bytes :=
  let parts := s.splitOn (byteOf '.')
  if parts.length = 4 then parts.mapM parseOctet else none

def digit (n : Nat) : UInt8 := UInt8.ofNat (48 + n % 10)

def octetString (b : UInt8) : GoString :=
  let n := b.toNat
  if n < 10 then [digit n]
  else if n < 100 then [digit (n / 10), digit n]
  else [digit (n / 100), digit (n / 10), digit n]

/-- `IP.String` of four bytes. -/
def ipv4String (ip : Bytes) : GoString := [byteOf '.'].intercalate (ip.map octetString)

/-! ### IPv6 -/

def hexValue (b : UInt8) : Option Nat :=
  if 48 ≤ b ∧ b ≤ 57 then some (b.toNat - 48)
  else if 97 ≤ b ∧ b ≤ 102 then some (b.toNat - 87)
  else if 65 ≤ b ∧ b ≤ 70 then some (b.toNat - 55)
  else none

def hexadecimal (s : GoString) : Nat := s.foldl (fun value b => value * 16 + (hexValue b).getD 0) 0

/-- The fields of a colon form: the bytes so far, where the `::` was, and what is left of the
text. At most eight fields are read. -/
def ipv6Fields : Nat → Bytes → Option Nat → GoString → Option (Bytes × Option Nat × GoString)
  | 0, read, ellipsis, s => some (read, ellipsis, s)
  | fields + 1, read, ellipsis, s =>
      let digits := s.takeWhile fun b => (hexValue b).isSome
      let value := hexadecimal digits
      if 16 ≤ read.length then some (read, ellipsis, s)
      else if digits = [] ∨ 4 < digits.length then none
      else
        match s.drop digits.length with
        | [] => some (read ++ BigEndian.encode 2 value, ellipsis, [])
        | separator :: rest =>
            if separator = byteOf '.' then
              -- A dotted tail takes the place of the last two fields.
              if (ellipsis = none ∧ read.length ≠ 12) ∨ 12 < read.length then none
              else (parseIPv4Text s).map fun four => (read ++ four, ellipsis, [])
            else if separator ≠ byteOf ':' ∨ rest = [] then none
            else
              let read := read ++ BigEndian.encode 2 value
              if rest.head? = some (byteOf ':') then
                if ellipsis.isSome then none
                else if rest.tail = [] then some (read, some read.length, [])
                else ipv6Fields fields read (some read.length) rest.tail
              else ipv6Fields fields read ellipsis rest

/-- The zeros that `::` stands for. -/
def expand (read : Bytes) (ellipsis : Option Nat) : Option Bytes :=
  match ellipsis with
  | none => if read.length = 16 then some read else none
  | some at_ =>
      if read.length < 16 then
        some (read.take at_ ++ List.replicate (16 - read.length) 0 ++ read.drop at_)
      else none

def parseIPv6Text (s : GoString) : Option Bytes :=
  let fields :=
    if s = lit "::" then some ([], some 0, [])
    else if hasPrefix s (lit "::") then ipv6Fields 8 [] (some 0) (s.drop 2)
    else ipv6Fields 8 [] none s
  fields.bind fun (read, ellipsis, rest) => if rest = [] then expand read ellipsis else none

/-- `net.ParseIP`: always sixteen bytes. A zone is refused. -/
def parseIP (s : GoString) : Option Address :=
  let bytes :=
    if byteOf '%' ∈ s then none
    else
      match s.find? fun b => b = byteOf '.' ∨ b = byteOf ':' with
      | none => none
      | some separator =>
          if separator = byteOf '.' then (parseIPv4Text s).map (v4InV6Prefix ++ ·)
          else parseIPv6Text s
  bytes.bind fun ip => if sixteen : ip.length = 16 then some ⟨ip, .inr sixteen⟩ else none

/-! ### Hosts with ports -/

/-- Empty, or a colon and digits. -/
def validOptionalPort (port : GoString) : Bool :=
  port = [] || (port.head? = some (byteOf ':') && port.tail.all isDigit)

/-- The host and what follows its last colon, the colon included. -/
def splitLastColon (hostPort : GoString) : GoString × GoString :=
  let port := (hostPort.reverse.takeWhile (· ≠ byteOf ':')).reverse
  if byteOf ':' ∈ hostPort then
    (hostPort.take (hostPort.length - port.length - 1), byteOf ':' :: port)
  else (hostPort, [])

/-- `splitHostPort` of `net/url`: the port goes if it is valid, then the brackets. -/
def splitHostPort (hostPort : GoString) : GoString × GoString :=
  let (front, port) := splitLastColon hostPort
  let (host, port) := if validOptionalPort port then (front, port.tail) else (hostPort, [])
  if hasPrefix host [byteOf '['] && host.getLast? = some (byteOf ']') then
    ((host.drop 1).dropLast, port)
  else (host, port)

/-- `net.JoinHostPort` -/
def joinHostPort (host port : GoString) : GoString :=
  if byteOf ':' ∈ host ∨ byteOf '%' ∈ host then
    [byteOf '['] ++ host ++ [byteOf ']', byteOf ':'] ++ port
  else host ++ [byteOf ':'] ++ port

/-! ### Any address as text -/

def hexDigit (n : Nat) : UInt8 :=
  if n % 16 < 10 then UInt8.ofNat (48 + n % 16) else UInt8.ofNat (87 + n % 16)

/-- A group of an IPv6 address, without leading zeros. -/
def hexString (n : Nat) : GoString :=
  ([hexDigit (n / 4096), hexDigit (n / 256), hexDigit (n / 16)].dropWhile (· = 48)) ++ [hexDigit n]

def groups (ip : IP) : List Nat :=
  (List.range 8).map fun i => (ip.getD (2 * i) 0).toNat * 256 + (ip.getD (2 * i + 1) 0).toNat

/-- The bounds of the first longest run of at least two zero groups; equal bounds for none. -/
def zeroRun (groups : List Nat) : Nat × Nat :=
  (List.range 8).foldl (fun best i =>
    let length := ((groups.drop i).takeWhile (· = 0)).length
    if 2 ≤ length ∧ best.2 - best.1 < length then (i, i + length) else best) (8, 8)

def ipv6String (ip : IP) : GoString :=
  let groups := groups ip
  let (first, past) := zeroRun groups
  let text := fun part => [byteOf ':'].intercalate (part.map hexString)
  if first = past then text groups
  else text (groups.take first) ++ lit "::" ++ text (groups.drop past)

/-- `IP.String` -/
def ipString (ip : IP) : GoString :=
  if ip = [] then lit "<nil>"
  else
    match to4 ip with
    | some ip4 => ipv4String ip4
    | none =>
        if ip.length = 16 then ipv6String ip
        else byteOf '?' :: ip.flatMap fun b => [hexDigit (b.toNat / 16), hexDigit b.toNat]

example : ipString [0x26, 0x06, 0x47, 0, 0x47, 0, 0, 0, 0, 0, 0, 0, 0, 0, 0x11, 0x11] =
    lit "2606:4700:4700::1111" := by decide

/-! ### The dotted form is read back -/

/-- Every octet is read back, and its text is digits. -/
theorem octets : ∀ n < 256, parseOctet (octetString (UInt8.ofNat n)) = some (UInt8.ofNat n) ∧
    (octetString (UInt8.ofNat n)).all isDigit = true := by
  decide +kernel

theorem parseOctet_octetString (b : UInt8) : parseOctet (octetString b) = some b := by
  have one := (octets b.toNat b.toNat_lt).1
  rwa [UInt8.ofNat_toNat] at one

theorem isDigit_octetString (b : UInt8) : ∀ c ∈ octetString b, isDigit c = true := by
  have one := (octets b.toNat b.toNat_lt).2
  rw [UInt8.ofNat_toNat] at one
  exact List.all_eq_true.mp one

theorem parseIPv4Text_ipv4String {ip : Bytes} (four : ip.length = 4) :
    parseIPv4Text (ipv4String ip) = some ip := by
  have clear : ∀ part ∈ ip.map octetString, byteOf '.' ∉ part := by
    intro part there dot
    obtain ⟨b, _, rfl⟩ := List.mem_map.mp there
    exact absurd (isDigit_octetString b _ dot) (by decide)
  have nonempty : ip.map octetString ≠ [] := by
    intro empty
    rw [List.map_eq_nil_iff.mp empty] at four
    contradiction
  have parts : (ipv4String ip).splitOn (byteOf '.') = ip.map octetString :=
    List.splitOn_intercalate (byteOf '.') clear nonempty
  rw [parseIPv4Text]
  simp only [parts, List.length_map, four, if_true]
  rw [List.mapM_map]
  have each : parseOctet ∘ octetString = fun b => pure (id b) := funext parseOctet_octetString
  rw [each, List.mapM_pure, List.map_id]
  rfl

theorem ipv4String_four (a b c d : UInt8) : ipv4String [a, b, c, d] =
    octetString a ++ (byteOf '.' :: (octetString b ++ (byteOf '.' ::
      (octetString c ++ (byteOf '.' :: octetString d))))) := by
  simp [ipv4String, List.intercalate]

/-- The dotted form has digits and dots only, and a dot. -/
theorem mem_ipv4String {ip : Bytes} (four : ip.length = 4) :
    byteOf '.' ∈ ipv4String ip ∧ ∀ b ∈ ipv4String ip, isDigit b = true ∨ b = byteOf '.' := by
  match ip, four with
  | [first, second, third, last], _ =>
      rw [ipv4String_four]
      constructor
      · simp
      · intro b there
        simp only [List.mem_append, List.mem_cons] at there
        rcases there with inField | dot | inField | dot | inField | dot | inField
        · exact .inl (isDigit_octetString first b inField)
        · exact .inr dot
        · exact .inl (isDigit_octetString second b inField)
        · exact .inr dot
        · exact .inl (isDigit_octetString third b inField)
        · exact .inr dot
        · exact .inl (isDigit_octetString last b inField)

theorem notMem_ipv4String {ip : Bytes} (four : ip.length = 4) {b : UInt8}
    (notDigit : isDigit b = false) (notDot : b ≠ byteOf '.') : b ∉ ipv4String ip := by
  intro there
  rcases (mem_ipv4String four).2 b there with isDigit | dot
  · rw [notDigit] at isDigit
    contradiction
  · exact notDot dot

/-- The text of an IPv4 address is read back, in its sixteen-byte form. -/
theorem parseIP_ipv4String {ip : Bytes} (four : ip.length = 4) :
    ∃ address, parseIP (ipv4String ip) = some address ∧ to4 address.val = some ip := by
  obtain ⟨dotThere, digitsOrDot⟩ := mem_ipv4String four
  have noPercent : byteOf '%' ∉ ipv4String ip := notMem_ipv4String four (by decide) (by decide)
  have separator : (ipv4String ip).find? (fun b => b = byteOf '.' ∨ b = byteOf ':') =
      some (byteOf '.') := by
    have someSeparator : ((ipv4String ip).find? fun b => b = byteOf '.' ∨ b = byteOf ':').isSome :=
      List.find?_isSome.mpr ⟨byteOf '.', dotThere, by simp⟩
    obtain ⟨b, found⟩ := Option.isSome_iff_exists.mp someSeparator
    rw [found]
    have there := List.mem_of_find?_eq_some found
    have chosen := List.find?_some found
    rcases of_decide_eq_true chosen with dot | colon
    · rw [dot]
    · subst colon
      exact absurd there (notMem_ipv4String four (by decide) (by decide))
  have sixteen : (v4InV6Prefix ++ ip).length = 16 := by
    rw [List.length_append, four]
    rfl
  refine ⟨⟨v4InV6Prefix ++ ip, .inr sixteen⟩, ?_, ?_⟩
  · rw [parseIP]
    simp only [noPercent, separator, parseIPv4Text_ipv4String four, if_true, if_false, Option.map_some,
      Option.bind_some]
    rw [dif_pos sixteen]
  · have mapped : (v4InV6Prefix ++ ip).take 12 = v4InV6Prefix := List.take_left' rfl
    have behind : (v4InV6Prefix ++ ip).drop 12 = ip := List.drop_left' rfl
    show to4 (v4InV6Prefix ++ ip) = some ip
    rw [to4, if_neg (by omega), if_pos ⟨sixteen, mapped⟩, behind]

theorem splitHostPort_joinHostPort {ip : Bytes} (four : ip.length = 4) {port : GoString}
    (digits : port.all isDigit = true) :
    splitHostPort (joinHostPort (ipv4String ip) port) = (ipv4String ip, port) := by
  have noColon : byteOf ':' ∉ ipv4String ip := notMem_ipv4String four (by decide) (by decide)
  have noPercent : byteOf '%' ∉ ipv4String ip := notMem_ipv4String four (by decide) (by decide)
  have noBracket : hasPrefix (ipv4String ip) [byteOf '['] = false := by
    rw [Bool.eq_false_iff, ne_eq, hasPrefix_iff]
    intro bracket
    have there := bracket.subset (List.mem_singleton_self _)
    exact notMem_ipv4String four (by decide) (by decide) there
  have joined : joinHostPort (ipv4String ip) port = ipv4String ip ++ byteOf ':' :: port := by
    rw [joinHostPort, if_neg (by simp [noColon, noPercent]), List.append_assoc]
    rfl
  have behind : ((ipv4String ip ++ byteOf ':' :: port).reverse.takeWhile (· ≠ byteOf ':')).reverse =
      port := by
    have plain : ∀ b ∈ port.reverse, decide (b ≠ byteOf ':') = true := by
      intro b there
      rw [decide_eq_true_iff]
      rintro rfl
      exact absurd (List.all_eq_true.mp digits _ (List.mem_reverse.mp there)) (by decide)
    rw [List.reverse_append, List.reverse_cons, List.append_assoc,
      List.takeWhile_append_of_pos plain]
    simp
  have split : splitLastColon (ipv4String ip ++ byteOf ':' :: port) =
      (ipv4String ip, byteOf ':' :: port) := by
    rw [splitLastColon]
    simp only [behind]
    rw [if_pos (by simp)]
    congr 1
    apply List.take_left'
    simp only [List.length_append, List.length_cons]
    omega
  have valid : validOptionalPort (byteOf ':' :: port) = true := by
    rw [validOptionalPort]
    simp [digits]
  rw [joined, splitHostPort, split]
  simp [valid, noBracket]

theorem isDigit_port (hostPort : GoString) : (splitHostPort hostPort).2.all isDigit = true := by
  rw [splitHostPort]
  generalize splitLastColon hostPort = parts
  obtain ⟨front, port⟩ := parts
  dsimp only
  cases valid : validOptionalPort port with
  | false =>
      rw [if_neg Bool.false_ne_true]
      dsimp only
      split <;> rfl
  | true =>
      have digits : port.tail.all isDigit = true := by
        rw [validOptionalPort, Bool.or_eq_true, Bool.and_eq_true] at valid
        rcases valid with empty | ⟨_, digits⟩
        · rw [of_decide_eq_true empty]
          rfl
        · exact digits
      rw [if_pos rfl]
      dsimp only
      split <;> exact digits

/-- `IP.IsLoopback` -/
def isLoopback (ip : IP) : Bool :=
  match to4 ip with
  | some ip4 => ip4.head? = some 127
  | none => ip = List.replicate 15 0 ++ [1]

/-! ### What an address is written with -/

/-- Hexadecimal digits, dots and colons. -/
def isAddressByte (b : UInt8) : Bool := (hexValue b).isSome || b = byteOf '.' || b = byteOf ':'

theorem isAddressByte_of_isDigit {b : UInt8} (digit : isDigit b = true) :
    isAddressByte b = true := by
  rw [isDigit, Bool.and_eq_true] at digit
  have inRange : 48 ≤ b ∧ b ≤ 57 := ⟨of_decide_eq_true digit.1, of_decide_eq_true digit.2⟩
  simp [isAddressByte, hexValue, inRange]

theorem parseOctet_bytes {s : GoString} {octet : UInt8} (parsed : parseOctet s = some octet) :
    ∀ b ∈ s, isAddressByte b = true := by
  rw [parseOctet] at parsed
  split at parsed
  · contradiction
  next valid =>
    have digits : s.all isDigit = true := by
      by_contra other
      exact valid (.inr (.inl (Bool.eq_false_iff.mpr other)))
    exact fun b member => isAddressByte_of_isDigit (List.all_eq_true.mp digits b member)

/-- What a split leaves out is separators. -/
theorem mem_splitOn {separator b : UInt8} {s : GoString} (member : b ∈ s) :
    b = separator ∨ ∃ part ∈ s.splitOn separator, b ∈ part := by
  induction s with
  | nil => contradiction
  | cons c s inductionHypothesis =>
      obtain ⟨first, rest, parts⟩ := List.exists_cons_of_ne_nil (List.splitOn_ne_nil separator s)
      rw [List.splitOn_cons_eq_if_modifyHead, parts]
      rcases List.mem_cons.mp member with rfl | later
      · by_cases isSeparator : b = separator
        · exact .inl isSeparator
        · exact .inr ⟨b :: first, by simp [isSeparator], by simp⟩
      · rcases inductionHypothesis later with isSeparator | ⟨part, isPart, inPart⟩
        · exact .inl isSeparator
        · right
          rw [parts] at isPart
          split
          · exact ⟨part, List.mem_cons_of_mem _ isPart, inPart⟩
          · rcases List.mem_cons.mp isPart with rfl | inRest
            · exact ⟨c :: part, by simp, by simp [inPart]⟩
            · exact ⟨part, by simp [inRest], inPart⟩

theorem parseOctets_bytes {parts : List GoString} {ip : Bytes}
    (parsed : parts.mapM parseOctet = some ip) :
    ∀ part ∈ parts, ∀ b ∈ part, isAddressByte b = true := by
  induction parts generalizing ip with
  | nil => simp
  | cons part parts inductionHypothesis =>
      rw [List.mapM_cons] at parsed
      obtain ⟨octet, first, later⟩ := Option.bind_eq_some_iff.mp parsed
      obtain ⟨octets, rest, -⟩ := Option.bind_eq_some_iff.mp later
      intro other member
      rcases List.mem_cons.mp member with rfl | inRest
      · exact parseOctet_bytes first
      · exact inductionHypothesis rest other inRest

theorem parseIPv4Text_bytes {s : GoString} {ip : Bytes} (parsed : parseIPv4Text s = some ip) :
    ∀ b ∈ s, isAddressByte b = true := by
  rw [parseIPv4Text] at parsed
  obtain ⟨_, octets⟩ := Option.ite_none_right_eq_some.mp parsed
  intro b member
  rcases @mem_splitOn (byteOf '.') b s member with rfl | ⟨part, isPart, inPart⟩
  · decide
  · exact parseOctets_bytes octets part isPart b inPart

/-- Every byte of the text is one of an address, or is left over. -/
def ReadTo (left s : GoString) : Prop := ∀ b ∈ s, isAddressByte b = true ∨ b ∈ left

section ReadTo

variable {left s : GoString}

theorem readTo_left : ReadTo left left := fun _ => .inr

theorem ReadTo.append {front : GoString} (address : ∀ b ∈ front, isAddressByte b = true)
    (rest : ReadTo left s) : ReadTo left (front ++ s) := by
  intro b member
  rcases List.mem_append.mp member with inFront | behind
  · exact .inl (address b inFront)
  · exact rest b behind

theorem ReadTo.colon (rest : ReadTo left s) : ReadTo left (byteOf ':' :: s) := by
  intro b member
  rcases List.mem_cons.mp member with rfl | behind
  · exact .inl (by decide)
  · exact rest b behind

/-- A field in front of the rest is made of hexadecimal digits. -/
theorem ReadTo.digits
    (rest : ReadTo left (s.drop (s.takeWhile fun b => (hexValue b).isSome).length)) :
    ReadTo left s := by
  have areDigits : ∀ b ∈ s.takeWhile fun b => (hexValue b).isSome, isAddressByte b = true := by
    intro b member
    simp [isAddressByte, List.all_eq_true.mp List.all_takeWhile b member]
  have parts := List.prefix_iff_eq_append.mp (s.takeWhile_prefix fun b => (hexValue b).isSome)
  rw [← parts]
  exact rest.append areDigits

end ReadTo

/-- The fields of a colon form take address bytes from the text. -/
theorem ipv6Fields_bytes (fields : Nat) (read : Bytes) (ellipsis : Option Nat) (s : GoString)
    {result : Bytes × Option Nat × GoString}
    (parsed : ipv6Fields fields read ellipsis s = some result) : ReadTo result.2.2 s := by
  induction fields generalizing read ellipsis s with
  | zero =>
      obtain rfl := Option.some.inj parsed
      exact readTo_left
  | succ fields inductionHypothesis =>
      rw [ipv6Fields] at parsed
      dsimp only at parsed
      split at parsed
      · obtain rfl := Option.some.inj parsed
        exact readTo_left
      · obtain ⟨_, parsed⟩ := Option.ite_none_left_eq_some.mp parsed
        apply ReadTo.digits
        split at parsed
        next ended => simp [ReadTo, ended]
        next separator rest behind =>
          rw [behind]
          split at parsed
          next =>
            -- The dotted tail is read again from the start of this field.
            obtain ⟨_, tail⟩ := Option.ite_none_left_eq_some.mp parsed
            obtain ⟨four, dotted, -⟩ := Option.map_eq_some_iff.mp tail
            rw [← behind]
            exact fun b member => .inl (parseIPv4Text_bytes dotted b (List.mem_of_mem_drop member))
          next =>
            obtain ⟨isColon, later⟩ := Option.ite_none_left_eq_some.mp parsed
            obtain ⟨colon, nonempty⟩ := not_or.mp isColon
            obtain rfl : separator = byteOf ':' := not_not.mp colon
            apply ReadTo.colon
            split at later
            next second =>
              obtain ⟨next, tail, rfl⟩ := List.exists_cons_of_ne_nil nonempty
              obtain rfl : next = byteOf ':' := Option.some.inj second
              obtain ⟨_, later⟩ := Option.ite_none_left_eq_some.mp later
              apply ReadTo.colon
              split at later
              next ended =>
                obtain rfl : tail = [] := ended
                exact fun _ member => absurd member List.not_mem_nil
              next => exact inductionHypothesis _ _ _ later
            next => exact inductionHypothesis _ _ _ later

theorem parseIPv6Text_bytes {s : GoString} {ip : Bytes} (parsed : parseIPv6Text s = some ip) :
    ∀ b ∈ s, isAddressByte b = true := by
  rw [parseIPv6Text] at parsed
  obtain ⟨⟨read, ellipsis, rest⟩, fields, ended⟩ := Option.bind_eq_some_iff.mp parsed
  obtain ⟨rfl, _⟩ := Option.ite_none_right_eq_some.mp ended
  have noRest : ∀ b : UInt8, isAddressByte b = true ∨ b ∈ ([] : GoString) →
      isAddressByte b = true := by
    simp
  have colons : (lit "::").all isAddressByte = true := by decide
  split at fields
  next empty =>
    rw [empty]
    exact List.all_eq_true.mp colons
  next =>
    split at fields
    next begins =>
      obtain ⟨tail, rfl⟩ := hasPrefix_iff.mp begins
      intro b member
      rcases List.mem_append.mp member with inColons | inTail
      · exact List.all_eq_true.mp colons b inColons
      · rw [List.drop_left' (show (lit "::").length = 2 by decide)] at fields
        exact noRest b (ipv6Fields_bytes 8 [] (some 0) tail fields b inTail)
    next => exact fun b member => noRest b (ipv6Fields_bytes 8 [] none s fields b member)

/-- A text that is read as an address has address bytes only. -/
theorem parseIP_bytes {s : GoString} {address : Address} (parsed : parseIP s = some address) :
    ∀ b ∈ s, isAddressByte b = true := by
  rw [parseIP] at parsed
  obtain ⟨ip, read, -⟩ := Option.bind_eq_some_iff.mp parsed
  obtain ⟨_, read⟩ := Option.ite_none_left_eq_some.mp read
  split at read
  · contradiction
  · split at read
    · obtain ⟨four, dotted, -⟩ := Option.map_eq_some_iff.mp read
      exact parseIPv4Text_bytes dotted
    · exact parseIPv6Text_bytes read

theorem parseIP_nil : parseIP [] = none := by decide

end Gecit.Net
