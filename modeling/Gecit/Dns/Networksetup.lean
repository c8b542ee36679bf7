import Gecit.Go.Fields

/-!
Contract: the macOS `networksetup` command as the DNS code uses it.

The tool is not part of the repository. What it accepts as an address and the
sentence it prints for a service without servers are parameters; their
documented shape is carried by the structure `Networksetup`.

Owns the two subcommands, the machine state they act on and the way the printed
servers are read back. Does not own the breadcrumb's format.
-/

namespace Gecit.Dns

open Gecit.Go

/-- Bytes of an IP address in text form: hexadecimal digits, dots and colons. -/
def addressBytes : GoString := lit "0123456789abcdefABCDEF.:"

def loopback : GoString := lit "127.0.0.1"

def empty : GoString := lit "empty"

/-- The words by which the code recognizes the sentence for no servers. -/
def arentAny : GoString := lit "aren't any"

/-- The tool: which texts it takes for IP addresses, and what it prints for a
service that has no servers set. -/
structure Networksetup where
  isAddress : GoString → Bool
  noServers : GoString → GoString
  address_bytes : ∀ s, isAddress s = true → s ≠ [] ∧ ∀ b ∈ s, b ∈ addressBytes
  loopback_address : isAddress loopback = true
  noServers_contains : ∀ svc, contains (noServers svc) arentAny = true

/-- The DNS settings and the breadcrumb file, which both outlive a process. -/
structure Machine where
  /-- Servers set on a service, in order; none means DHCP. -/
  dns : GoString → List GoString
  breadcrumb : Option GoString

namespace Networksetup

variable (tool : Networksetup)

/-- What `-getdnsservers` prints for a service with the servers `config`. -/
def printed (svc : GoString) (config : List GoString) : GoString :=
  if config = [] then tool.noServers svc else config.flatMap (· ++ [newline])

/-- Output of `networksetup -getdnsservers svc`. -/
def getdnsservers (machine : Machine) (svc : GoString) : GoString :=
  tool.printed svc (machine.dns svc)

/-- `-setdnsservers` accepts the word `empty` alone, or addresses. -/
def accepts (args : List GoString) : Bool :=
  args = [empty] || (args ≠ [] && args.all tool.isAddress)

/-- The servers of a service with the servers `config` after `-setdnsservers`
with `args`; arguments that are not accepted change nothing. -/
def resulting (config args : List GoString) : List GoString :=
  if args = [empty] then [] else if tool.accepts args then args else config

/-- `networksetup -setdnsservers svc args...`. -/
def setdnsservers (machine : Machine) (svc : GoString) (args : List GoString) : Machine :=
  { machine with
    dns := Function.update machine.dns svc (tool.resulting (machine.dns svc) args) }

/-- The argument list that sets a configuration. -/
def argsOf (config : List GoString) : List GoString :=
  if config = [] then [empty] else config

/-- Every server of a configuration is an address. -/
def Valid (config : List GoString) : Prop := ∀ server ∈ config, tool.isAddress server = true

@[simp] theorem setdnsservers_dns (machine : Machine) (svc : GoString) (args : List GoString) :
    (tool.setdnsservers machine svc args).dns svc = tool.resulting (machine.dns svc) args := by
  simp [setdnsservers]

/-- Setting a service leaves the other services alone. -/
theorem setdnsservers_other (machine : Machine) {svc other : GoString} (args : List GoString)
    (different : other ≠ svc) :
    (tool.setdnsservers machine svc args).dns other = machine.dns other := by
  simp [setdnsservers, different]

theorem addressByte_spaceFree : ∀ b ∈ addressBytes, ∀ code ∈ spaceCodes, code.head? ≠ some b := by
  have checked : (addressBytes.all fun b => spaceCodes.all fun code =>
      decide (code.head? ≠ some b)) = true := by
    decide
  intro b isByte code isCode
  have ofByte := List.all_eq_true.mp checked b isByte
  exact of_decide_eq_true (List.all_eq_true.mp ofByte code isCode)

variable {tool}

theorem address_word {s : GoString} (isAddress : tool.isAddress s = true) :
    s ≠ [] ∧ SpaceFree s := by
  obtain ⟨nonempty, bytes⟩ := tool.address_bytes s isAddress
  exact ⟨nonempty, fun b member => addressByte_spaceFree b (bytes b member)⟩

theorem empty_not_address : tool.isAddress empty = false := by
  rw [Bool.eq_false_iff]
  intro isAddress
  exact absurd ((tool.address_bytes empty isAddress).2 109 (by decide)) (by decide)

theorem valid_loopback : tool.Valid [loopback] := by
  intro server member
  rw [List.mem_singleton.mp member]
  exact tool.loopback_address

theorem Valid.ne_empty {config : List GoString} (valid : tool.Valid config) :
    config ≠ [empty] := by
  rintro rfl
  exact absurd (valid empty (by simp)) (by simp [empty_not_address])

theorem resulting_of_valid {config args : List GoString} (nonempty : args ≠ [])
    (valid : tool.Valid args) : tool.resulting config args = args := by
  have allAddresses : args.all tool.isAddress = true := List.all_eq_true.mpr valid
  have accepted : tool.accepts args = true := by
    simp [accepts, nonempty, allAddresses]
  rw [resulting, if_neg valid.ne_empty, if_pos accepted]

theorem resulting_valid {config args : List GoString} (valid : tool.Valid config) :
    tool.Valid (tool.resulting config args) := by
  simp only [resulting]
  split
  · exact fun server member => by simp at member
  next notEmptyWord =>
    split
    next accepted =>
      simp only [accepts, notEmptyWord, decide_false, Bool.false_or, Bool.and_eq_true] at accepted
      exact fun server member => List.all_eq_true.mp accepted.2 server member
    next => exact valid

/-- Setting a configuration through its own argument list puts it in force. -/
theorem resulting_argsOf {config target : List GoString} (valid : tool.Valid target) :
    tool.resulting config (argsOf target) = target := by
  by_cases dhcp : target = []
  · simp [argsOf, dhcp, resulting]
  · rw [argsOf, if_neg dhcp, resulting_of_valid dhcp valid]

/-! ### Reading the printed servers back -/

theorem arentAny_not_in_servers {config : List GoString} (valid : tool.Valid config) :
    contains (config.flatMap (· ++ [newline])) arentAny = false := by
  rw [Bool.eq_false_iff, ne_eq, contains_iff]
  intro isInfix
  have inText : (114 : UInt8) ∈ config.flatMap (· ++ [newline]) := isInfix.subset (by decide)
  obtain ⟨server, member, inServer⟩ := List.mem_flatMap.mp inText
  rcases List.mem_append.mp inServer with inAddress | isNewline
  · exact absurd ((tool.address_bytes server (valid server member)).2 114 inAddress) (by decide)
  · exact absurd isNewline (by decide)

theorem fields_printed (svc : GoString) {config : List GoString} (valid : tool.Valid config)
    (servers : config ≠ []) : fields (trimSpace (tool.printed svc config)) = config := by
  rw [fields_trimSpace, printed, if_neg servers]
  exact fields_lines fun server member => address_word (valid server member)

/-- The code tells servers from none by the sentence the tool prints. -/
theorem contains_printed (svc : GoString) {config : List GoString} (valid : tool.Valid config) :
    contains (trimSpace (tool.printed svc config)) arentAny = true ↔ config = [] := by
  constructor
  · intro found
    by_contra servers
    rw [printed, if_neg servers, contains_iff] at found
    have inText := contains_iff.mpr (found.trans (isInfix_trimSpace _))
    rw [arentAny_not_in_servers valid] at inText
    contradiction
  · rintro rfl
    have isInfix := contains_iff.mp (tool.noServers_contains svc)
    rw [contains_iff, printed, if_pos rfl]
    have split : arentAny = 97 :: (arentAny.drop 1).take 8 ++ [121] := by decide
    rw [split] at isInfix ⊢
    exact infix_trimSpace (by decide) (by decide) isInfix

theorem trimSpace_printed_eq_loopback_iff (svc : GoString) {config : List GoString}
    (valid : tool.Valid config) :
    trimSpace (tool.printed svc config) = loopback ↔ config = [loopback] := by
  constructor
  · intro own
    by_cases dhcp : config = []
    · have found := (contains_printed svc valid).mpr dhcp
      rw [own] at found
      exact absurd found (by decide)
    · have words := fields_printed svc valid dhcp
      rw [own] at words
      exact words.symm.trans (by decide)
  · rintro rfl
    simp only [printed, List.cons_ne_self, if_false]
    decide

/-! ### The documented tool -/

/-- Four decimal numbers of at most three digits, none above 255. -/
def isDottedQuad (s : GoString) : Bool :=
  let parts := s.splitOn 46
  parts.length = 4 && parts.all fun part =>
    part ≠ [] && part.length ≤ 3 && part.all (fun b => 48 ≤ b && b ≤ 57) &&
      part.foldl (fun value b => 10 * value + (b.toNat - 48)) 0 ≤ 255

/-- `networksetup` as documented, for IPv4 servers. -/
def documented : Networksetup where
  isAddress := fun s => s ≠ [] && s.all (addressBytes.contains ·) && isDottedQuad s
  noServers := fun svc => lit "There " ++ arentAny ++ lit " DNS Servers set on " ++ svc ++ lit ".\n"
  address_bytes := by
    intro s isAddress
    simp only [Bool.and_eq_true, decide_eq_true_eq, List.all_eq_true, List.contains_eq_mem] at isAddress
    exact isAddress.1
  loopback_address := by decide
  noServers_contains := by
    intro svc
    rw [contains_iff]
    exact ⟨lit "There ", lit " DNS Servers set on " ++ svc ++ lit ".\n", by simp⟩

end Networksetup

end Gecit.Dns
