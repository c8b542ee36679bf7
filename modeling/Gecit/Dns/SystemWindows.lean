import Gecit.Go.Words
import Gecit.Net.Address

/-!
Contract: the Windows takeover of an interface's DNS servers.

`setSystemDNS` first sets what a crashed run left in the breadcrumb file, then writes the server
it reads from `netsh ... show dns` to the breadcrumb, then sets 127.0.0.1. `restoreSystemDNS`
sets what the breadcrumb says.

`netsh` is not part of the repository: what it prints and the servers that DHCP hands out are
parameters.

Owns the two functions, the breadcrumb text and what one breadcrumb can give back. Does not own
the cleanup command.
-/

namespace Gecit.Dns.Windows

open Gecit.Go
open Gecit.Net

def dhcp : GoString := lit "dhcp"

def loopbackServer : GoString := lit "127.0.0.1"

/-! ### The interface as `netsh` sees it -/

inductive Config where
  | dhcp
  | static (servers : List GoString)
deriving DecidableEq, Repr

structure Netsh where
  /-- Output of `netsh interface ip show dns`; none when the command fails. -/
  showDNS : GoString → Config → Option GoString
  /-- The servers that DHCP hands out for an interface. -/
  leased : GoString → List GoString
  leased_addresses : ∀ iface, ∀ server ∈ leased iface, (parseIP server).isSome

/-- The DNS settings and the breadcrumb file, which both outlive a process. -/
structure Machine where
  dns : GoString → Config
  breadcrumb : Option GoString

namespace Machine

/-- `netsh interface ip set dns iface dhcp` -/
def setDHCP (machine : Machine) (iface : GoString) : Machine :=
  { machine with dns := Function.update machine.dns iface .dhcp }

/-- `netsh interface ip set dns iface static server`; a server that is no address is refused. -/
def setStatic (machine : Machine) (iface server : GoString) : Machine :=
  if (parseIP server).isSome then
    { machine with dns := Function.update machine.dns iface (.static [server]) }
  else machine

end Machine

/-! ### The source -/

inductive DNSError where
  | detectInterface
  | noInterface
  | setDNS
deriving DecidableEq, Repr

structure State where
  machine : Machine
  /-- The package variable. -/
  savedInterface : GoString

/-- The interface named on a line of `netsh interface show interface`. -/
def interfaceOnLine (line : GoString) : Option GoString :=
  let line := trimSpace line
  if contains line (lit "Connected") && !contains line (lit "Loopback") then
    let fields := fields line
    if 4 ≤ fields.length then some (joinBlank (fields.drop 3)) else none
  else none

def detectWindowsInterface (out : Option GoString) : Except DNSError GoString :=
  match out with
  | none => .error .detectInterface
  | some out =>
      match (split out).findSome? interfaceOnLine with
      | none => .error .noInterface
      | some iface => .ok iface

/-- `net.ParseIP` reads the word, and not as a loopback address. -/
def isServer (word : GoString) : Bool :=
  match parseIP word with
  | none => false
  | some ip => !isLoopback ip.val

def getCurrentDNS (out : Option GoString) : GoString :=
  match out with
  | none => dhcp
  | some out => (((split out).flatMap fun line => fields (trimSpace line)).find? isServer).getD dhcp

/-- If a crashed run left a breadcrumb, its configuration is set first. -/
def replayBreadcrumb (machine : Machine) : Machine :=
  match machine.breadcrumb with
  | none => machine
  | some data =>
      match splitN 2 data with
      | first :: second :: _ =>
          let prev := trimSpace first
          let prevIface := trimSpace second
          if prev ≠ [] ∧ prev ≠ loopbackServer ∧ prevIface ≠ [] then
            if prev = dhcp then machine.setDHCP prevIface else machine.setStatic prevIface prev
          else machine
      | _ => machine

variable (tool : Netsh)

/-- `interfaces` is the output of `netsh interface show interface`. -/
def setSystemDNS (interfaces : Option GoString) (state : State) : State × Option DNSError :=
  match detectWindowsInterface interfaces with
  | .error err => (state, some err)
  | .ok iface =>
      let machine := replayBreadcrumb state.machine
      let currentDNS := getCurrentDNS (tool.showDNS iface (machine.dns iface))
      let machine := { machine with breadcrumb := some (currentDNS ++ newline :: (iface ++ [newline])) }
      (⟨machine.setStatic iface loopbackServer, iface⟩,
        if (parseIP loopbackServer).isSome then none else some .setDNS)

/-- The server and the interface a breadcrumb names; `savedInterface` for a missing one. -/
def readBreadcrumb (data savedInterface : GoString) : GoString × GoString :=
  let lines := splitN 2 data
  let prev := if 1 ≤ lines.length then trimSpace (lines.getD 0 []) else dhcp
  let named := trimSpace (lines.getD 1 [])
  (prev, if 2 ≤ lines.length ∧ named ≠ [] then named else savedInterface)

/-- What `RestoreSystemDNS` and the cleanup command do with a breadcrumb. -/
def setPrevious (machine : Machine) : GoString × GoString → Machine
  | (prev, iface) =>
      let machine := if prev = [] ∨ prev = dhcp then machine.setDHCP iface
        else machine.setStatic iface prev
      { machine with breadcrumb := none }

def restoreSystemDNS (interfaces : Option GoString) (state : State) : State :=
  match state.machine.breadcrumb with
  | none =>
      let iface := if state.savedInterface = [] then
          (detectWindowsInterface interfaces).toOption.getD []
        else state.savedInterface
      if iface ≠ [] then { state with machine := state.machine.setDHCP iface } else state
  | some data =>
      { state with
        machine := setPrevious state.machine (readBreadcrumb data state.savedInterface) }

/-! ### What is assumed of `netsh` -/

/-- The servers in force, those of DHCP being `leased`. -/
def Config.servers (leased : List GoString) : Config → List GoString
  | .dhcp => leased
  | .static servers => servers

def Netsh.servers (iface : GoString) (config : Config) : List GoString :=
  config.servers (tool.leased iface)

@[simp] theorem servers_dhcp (iface : GoString) : tool.servers iface .dhcp = tool.leased iface :=
  rfl

@[simp] theorem servers_static (iface : GoString) (servers : List GoString) :
    tool.servers iface (.static servers) = servers := rfl

/-- The addresses in a text, in order. -/
def addressWords (out : GoString) : List GoString :=
  (fields out).filter fun word => (parseIP word).isSome

/-- `show dns` prints every configured server of the interface, and no other address. -/
def Netsh.Prints (iface : GoString) : Prop :=
  ∀ config, (∀ server ∈ tool.servers iface config, (parseIP server).isSome) →
    ∃ out, tool.showDNS iface config = some out ∧ addressWords out = tool.servers iface config

/-- DHCP, or a list of servers none of which is a loopback address. -/
def Config.Valid : Config → Prop
  | .dhcp => True
  | .static servers => servers ≠ [] ∧ ∀ server ∈ servers, isServer server = true

/-- DHCP that hands out no server the code would take, or a single static server. -/
def Netsh.Recordable (iface : GoString) : Config → Prop
  | .dhcp => ∀ server ∈ tool.leased iface, isServer server = false
  | .static servers => servers.length = 1

/-! ### Servers as words -/

theorem isServer_parsed {server : GoString} (isServer_ : isServer server = true) :
    (parseIP server).isSome := by
  unfold isServer at isServer_
  cases parsed : parseIP server with
  | none => simp [parsed] at isServer_
  | some ip => rfl

theorem addressByte_clear {b : UInt8} (isByte : isAddressByte b = true) :
    ∀ code ∈ spaceCodes, code.head? ≠ some b := by
  have checked : (spaceCodes.all fun code =>
      code.head?.all fun (first : UInt8) => !isAddressByte first) = true := by
    decide
  intro code isCode begins
  have ofCode := List.all_eq_true.mp checked code isCode
  rw [begins, Option.all_some, isByte] at ofCode
  contradiction

theorem word_of_parsed {server : GoString} (parsed : (parseIP server).isSome) : Word server := by
  obtain ⟨ip, read⟩ := Option.isSome_iff_exists.mp parsed
  have spaceFree : SpaceFree server := fun b member => addressByte_clear (parseIP_bytes read b member)
  apply spaceFree.word
  rintro rfl
  rw [parseIP_nil] at read
  contradiction

theorem word_of_isServer {server : GoString} (isServer_ : isServer server = true) : Word server :=
  word_of_parsed (isServer_parsed isServer_)

theorem word_dhcp : Word dhcp := by
  have found : dhcp ∈ fields dhcp := by decide
  exact word_of_mem_fields found

theorem dhcp_not_server : isServer dhcp = false := by decide

theorem loopbackServer_not_server : isServer loopbackServer = false := by decide

theorem interfaceOnLine_trimmed {line iface : GoString} (named : interfaceOnLine line = some iface) :
    Trimmed iface ∧ iface ≠ [] := by
  unfold interfaceOnLine at named
  obtain ⟨_, named⟩ := Option.ite_none_right_eq_some.mp named
  obtain ⟨long, named⟩ := Option.ite_none_right_eq_some.mp named
  obtain rfl := Option.some.inj named
  have areWords : ∀ word ∈ (fields (trimSpace line)).drop 3, Word word := fun word member =>
    word_of_mem_fields (List.mem_of_mem_drop member)
  have nonempty : (fields (trimSpace line)).drop 3 ≠ [] := by
    intro none
    have short := List.drop_eq_nil_iff.mp none
    omega
  exact ⟨trimmed_joinBlank nonempty areWords, joinBlank_ne_nil nonempty areWords⟩

/-- The detected name survives the breadcrumb file. -/
theorem detectWindowsInterface_trimmed {out : Option GoString} {iface : GoString}
    (detected : detectWindowsInterface out = .ok iface) : Trimmed iface ∧ iface ≠ [] := by
  cases out with
  | none => contradiction
  | some out =>
      rw [detectWindowsInterface] at detected
      split at detected
      · contradiction
      next named found =>
        obtain rfl := Except.ok.inj detected
        obtain ⟨line, -, onLine⟩ := List.exists_of_findSome?_eq_some found
        exact interfaceOnLine_trimmed onLine

/-! ### What is recorded -/

/-- The server recorded for a configuration; none stands for DHCP. -/
def Netsh.recorded (iface : GoString) (config : Config) : Option GoString :=
  (tool.servers iface config).find? isServer

/-- The breadcrumb for a recorded server. -/
def recordText (record : Option GoString) (iface : GoString) : GoString :=
  record.getD dhcp ++ newline :: (iface ++ [newline])

/-- The configuration that a record stands for. -/
def configOf : Option GoString → Config
  | none => .dhcp
  | some server => .static [server]

def IsRecord (record : Option GoString) : Prop := ∀ server ∈ record, isServer server = true

variable {tool} {iface : GoString}

theorem recorded_isRecord (config : Config) : IsRecord (tool.recorded iface config) :=
  fun _ found => List.find?_some found

theorem getCurrentDNS_showDNS (prints : tool.Prints iface) {config : Config}
    (addresses : ∀ server ∈ tool.servers iface config, (parseIP server).isSome) :
    getCurrentDNS (tool.showDNS iface config) = (tool.recorded iface config).getD dhcp := by
  obtain ⟨out, shown, listed⟩ := prints config addresses
  rw [shown, getCurrentDNS, flatMap_fields_split, Netsh.recorded, ← listed, addressWords,
    List.find?_filter]
  congr 1
  refine List.find?_congr fun word _ => ?_
  cases server : isServer word with
  | false => simp
  | true => simp [isServer_parsed server]

theorem recorded_static {servers : List GoString} (valid : (Config.static servers).Valid) :
    tool.recorded iface (.static servers) = servers.head? := by
  obtain ⟨nonempty, areServers⟩ := valid
  obtain ⟨first, rest, rfl⟩ := List.exists_cons_of_ne_nil nonempty
  rw [Netsh.recorded, servers_static, List.find?_cons_of_pos (areServers first (by simp)),
    List.head?_cons]

/-- What was given back from a record is recorded as before. -/
theorem recorded_configOf_recorded {config : Config} (valid : config.Valid) :
    tool.recorded iface (configOf (tool.recorded iface config)) = tool.recorded iface config := by
  cases found : tool.recorded iface config with
  | some server =>
      have isRecord := recorded_isRecord config server found
      simp [configOf, Netsh.recorded, isRecord]
  | none =>
      cases config with
      | dhcp => exact found
      | static servers =>
          rw [recorded_static valid, List.head?_eq_none_iff] at found
          exact absurd found valid.1

/-- The record stands for the configuration it was made of. -/
theorem configOf_recorded_iff {config : Config} (valid : config.Valid) :
    configOf (tool.recorded iface config) = config ↔ tool.Recordable iface config := by
  cases config with
  | dhcp =>
      rw [Netsh.Recordable]
      constructor
      · intro same
        cases found : tool.recorded iface .dhcp with
        | some server => simp [found, configOf] at same
        | none => simpa [Netsh.recorded] using found
      · intro none
        have found : tool.recorded iface .dhcp = Option.none := by
          simpa [Netsh.recorded] using none
        rw [found, configOf]
  | static servers =>
      obtain ⟨first, rest, rfl⟩ := List.exists_cons_of_ne_nil valid.1
      rw [recorded_static valid, List.head?_cons, configOf, Netsh.Recordable, Config.static.injEq]
      simp

theorem servers_parsed {config : Config} (valid : config.Valid) :
    ∀ server ∈ tool.servers iface config, (parseIP server).isSome := by
  cases config with
  | dhcp => exact tool.leased_addresses iface
  | static servers => exact fun server member => isServer_parsed (valid.2 server member)

theorem configOf_valid {record : Option GoString} (isRecord : IsRecord record) :
    (configOf record).Valid := by
  cases record with
  | none => trivial
  | some server => simpa [configOf, Config.Valid] using isRecord server rfl

/-! ### Reading the record back -/

theorem word_record {record : Option GoString} (isRecord : IsRecord record) :
    Word (record.getD dhcp) := by
  cases record with
  | none => exact word_dhcp
  | some server => exact word_of_isServer (isRecord server rfl)

theorem splitN_recordText {record : Option GoString} (isRecord : IsRecord record)
    (iface : GoString) :
    splitN 2 (recordText record iface) = [record.getD dhcp, iface ++ [newline]] := by
  rw [recordText, splitN_line (word_record isRecord).newline_notMem 0, splitN]

/-- Setting what a record says puts the configuration it stands for in force. -/
theorem setRecord_dns {record : Option GoString} (isRecord : IsRecord record) (machine : Machine)
    (iface : GoString) :
    (if record.getD dhcp = dhcp then machine.setDHCP iface
      else machine.setStatic iface (record.getD dhcp)).dns iface = configOf record := by
  cases record with
  | none => simp [Machine.setDHCP, configOf]
  | some server =>
      have isServer_ := isRecord server rfl
      have notDHCP : server ≠ dhcp := by
        rintro rfl
        rw [dhcp_not_server] at isServer_
        contradiction
      simp [notDHCP, Machine.setStatic, isServer_parsed isServer_, configOf]

theorem readBreadcrumb_recordText {record : Option GoString} (isRecord : IsRecord record)
    (trimmed : Trimmed iface) (named : iface ≠ []) (saved : GoString) :
    readBreadcrumb (recordText record iface) saved = (record.getD dhcp, iface) := by
  rw [readBreadcrumb, splitN_recordText isRecord]
  simp [trimSpace_eq_self (word_record isRecord).trimmed, trimSpace_append_newline trimmed named,
    named]

theorem setPrevious_dns {record : Option GoString} (isRecord : IsRecord record) (machine : Machine)
    (iface : GoString) :
    (setPrevious machine (record.getD dhcp, iface)).dns iface = configOf record := by
  have nonempty := (word_record isRecord).nonempty
  simp only [setPrevious, nonempty, false_or]
  exact setRecord_dns isRecord machine iface

/-! ### Runs -/

/-- The machine after a run that crashed behind `SetSystemDNS`. -/
def crashedRun (tool : Netsh) (machine : Machine) (interfaces : Option GoString) : Machine :=
  (setSystemDNS tool interfaces ⟨machine, []⟩).1.machine

/-- The machine after a run that ended in `RestoreSystemDNS`. -/
def stoppedRun (tool : Netsh) (machine : Machine) (interfaces : Option GoString) : Machine :=
  (restoreSystemDNS interfaces (setSystemDNS tool interfaces ⟨machine, []⟩).1).machine

theorem setSystemDNS_breadcrumb (prints : tool.Prints iface) {interfaces : Option GoString}
    (detected : detectWindowsInterface interfaces = .ok iface) (state : State)
    (valid : ((replayBreadcrumb state.machine).dns iface).Valid) :
    (setSystemDNS tool interfaces state).1.machine.breadcrumb =
      some (recordText (tool.recorded iface ((replayBreadcrumb state.machine).dns iface)) iface) := by
  have current := getCurrentDNS_showDNS prints (servers_parsed valid)
  simp only [setSystemDNS, detected, Machine.setStatic, current, recordText]
  split <;> rfl

/-- A machine that a run took over and left so. -/
def LeftBehind (record : Option GoString) (iface : GoString) (machine : Machine) : Prop :=
  machine.breadcrumb = some (recordText record iface)

theorem replayBreadcrumb_dns {record : Option GoString} (isRecord : IsRecord record)
    (trimmed : Trimmed iface) (named : iface ≠ []) {machine : Machine}
    (left : LeftBehind record iface machine) :
    (replayBreadcrumb machine).dns iface = configOf record := by
  have word := word_record isRecord
  have notOwn : record.getD dhcp ≠ loopbackServer := by
    cases record with
    | none => decide
    | some server =>
        rintro rfl
        exact absurd (isRecord _ rfl) (by rw [loopbackServer_not_server]; decide)
  rw [LeftBehind] at left
  simp only [replayBreadcrumb, left, splitN_recordText isRecord, trimSpace_eq_self word.trimmed,
    trimSpace_append_newline trimmed named]
  rw [if_pos ⟨word.nonempty, notOwn, named⟩]
  exact setRecord_dns isRecord machine iface

theorem setPrevious_leftBehind {record : Option GoString} (isRecord : IsRecord record)
    (trimmed : Trimmed iface) (named : iface ≠ []) (machine : Machine) (saved : GoString) :
    (setPrevious machine (readBreadcrumb (recordText record iface) saved)).dns iface =
      configOf record := by
  rw [readBreadcrumb_recordText isRecord trimmed named]
  exact setPrevious_dns isRecord machine iface

/-- What the next run records: the configuration that the replayed breadcrumb made. -/
theorem setSystemDNS_leftBehind (prints : tool.Prints iface) {interfaces : Option GoString}
    (detected : detectWindowsInterface interfaces = .ok iface) {state : State} {config : Config}
    (valid : config.Valid) (before : state.machine.breadcrumb = none ∧
        state.machine.dns iface = config ∨
      LeftBehind (tool.recorded iface config) iface state.machine) :
    LeftBehind (tool.recorded iface config) iface (setSystemDNS tool interfaces state).1.machine := by
  obtain ⟨trimmed, named⟩ := detectWindowsInterface_trimmed detected
  have written := setSystemDNS_breadcrumb prints detected state
  rcases before with ⟨clean, rfl⟩ | left
  · have fresh : replayBreadcrumb state.machine = state.machine := by
      rw [replayBreadcrumb, clean]
    rw [fresh] at written
    exact written valid
  · have isRecord := @recorded_isRecord tool iface config
    rw [replayBreadcrumb_dns isRecord trimmed named left, recorded_configOf_recorded valid] at written
    exact written (configOf_valid isRecord)

/-- Crashed runs keep the record that the first of them made. -/
theorem crashedRuns_leftBehind (prints : tool.Prints iface) {machine : Machine} {config : Config}
    (valid : config.Valid) (before : machine.breadcrumb = none ∧ machine.dns iface = config ∨
      LeftBehind (tool.recorded iface config) iface machine)
    {tables : List (Option GoString)}
    (detected : ∀ table ∈ tables, detectWindowsInterface table = .ok iface) :
    tables = [] ∨ LeftBehind (tool.recorded iface config) iface
      (tables.foldl (crashedRun tool) machine) := by
  induction tables generalizing machine with
  | nil => exact .inl rfl
  | cons table tables inductionHypothesis =>
      right
      have left : LeftBehind (tool.recorded iface config) iface (crashedRun tool machine table) :=
        setSystemDNS_leftBehind prints (detected table (by simp)) valid before
      have later := inductionHypothesis (.inr left)
        fun other member => detected other (List.mem_cons_of_mem table member)
      rw [List.foldl_cons]
      rcases later with rfl | kept
      · exact left
      · exact kept

/-- `RestoreSystemDNS` puts the recorded configuration in force. -/
theorem stoppedRun_dns (prints : tool.Prints iface) {interfaces : Option GoString}
    (detected : detectWindowsInterface interfaces = .ok iface) {machine : Machine} {config : Config}
    (valid : config.Valid) (before : machine.breadcrumb = none ∧ machine.dns iface = config ∨
      LeftBehind (tool.recorded iface config) iface machine) :
    (stoppedRun tool machine interfaces).dns iface = configOf (tool.recorded iface config) := by
  obtain ⟨trimmed, named⟩ := detectWindowsInterface_trimmed detected
  have left : LeftBehind (tool.recorded iface config) iface
      (setSystemDNS tool interfaces ⟨machine, []⟩).1.machine :=
    setSystemDNS_leftBehind prints detected valid before
  rw [LeftBehind] at left
  simp only [stoppedRun, restoreSystemDNS, left]
  exact setPrevious_leftBehind (recorded_isRecord config) trimmed named _ _

/-! ### The documented tool -/

/-- One server behind its label or behind the blanks below it. -/
def serverLines (servers : List GoString) : GoString :=
  servers.flatMap fun server => lit "  " ++ 32 :: (server ++ [newline])

def label : Config → GoString
  | .dhcp => lit "    DNS servers configured through DHCP:"
  | .static _ => lit "    Statically Configured DNS Servers:"

def heading (iface : GoString) : GoString :=
  newline :: (lit "Configuration for interface \"" ++ iface ++ lit "\"") ++ [newline]

def footer : GoString := lit "    Register with which suffix:           Primary only"

/-- `netsh` as documented, with the servers that DHCP hands out for every interface. -/
def documented (leased : List GoString)
    (addresses : ∀ server ∈ leased, (parseIP server).isSome) : Netsh where
  showDNS := fun iface config =>
    some (heading iface ++ label config ++ 32 :: (serverLines (config.servers leased) ++ footer))
  leased := fun _ => leased
  leased_addresses := fun _ => addresses

theorem fields_serverLines {servers : List GoString}
    (parsed : ∀ server ∈ servers, (parseIP server).isSome) (rest : GoString) :
    fields (serverLines servers ++ rest) = servers ++ fields rest := by
  have blank : [32] ∈ spaceCodes := by decide
  have noWords : fields (lit "  ") = [] := by decide
  induction servers with
  | nil => rfl
  | cons server servers inductionHypothesis =>
      have later := inductionHypothesis fun other member => parsed other (List.mem_cons_of_mem _ member)
      have word := word_of_parsed (parsed server (by simp))
      calc fields (serverLines (server :: servers) ++ rest)
          = fields (lit "  " ++ ([32] ++ (server ++ newline :: (serverLines servers ++ rest)))) := by
            simp [serverLines]
        _ = fields server ++ fields (serverLines servers ++ rest) := by
            rw [fields_append_code blank, noWords, List.nil_append, fields_append_newline]
        _ = server :: servers ++ fields rest := by
            rw [word.fields, later, List.singleton_append, List.cons_append]

/-- The words around the servers are no addresses, if those of the interface's name are not. -/
theorem documented_prints {leased : List GoString}
    {addresses : ∀ server ∈ leased, (parseIP server).isSome} {iface : GoString}
    (plain : ∀ config, addressWords (heading iface ++ label config) = []) :
    (documented leased addresses).Prints iface := by
  intro config parsed
  change ∀ server ∈ config.servers leased, (parseIP server).isSome at parsed
  have blank : [32] ∈ spaceCodes := by decide
  have noAddress : (fields footer).filter (fun word => (parseIP word).isSome) = [] := by
    decide
  have front := plain config
  have listed : fields (heading iface ++ label config ++
      ([32] ++ (serverLines (config.servers leased) ++ footer))) =
        fields (heading iface ++ label config) ++ (config.servers leased ++ fields footer) := by
    rw [fields_append_code blank, fields_serverLines parsed]
  refine ⟨_, rfl, ?_⟩
  rw [List.singleton_append] at listed
  rw [addressWords] at front ⊢
  rw [listed, List.filter_append, List.filter_append, front, noAddress, List.nil_append,
    List.append_nil]
  exact List.filter_eq_self.mpr parsed

end Gecit.Dns.Windows
