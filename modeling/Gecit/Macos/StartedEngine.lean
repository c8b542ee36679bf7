import Gecit.App.CommandLine
import Gecit.Macos.HelperLife

/-!
Contract: the engines that the macOS app and its helper start.

The helper checks the text of each argument and the engine converts it again, so the bounds of
the one must be those of the other; the resolver is given by a name that stands for a URL.

Owns what every engine of the helper is limited to, and the engine of valid settings. Does not
own how the engine uses its configuration.
-/

namespace Gecit.Macos

open Gecit.App
open Gecit.Dns
open Gecit.Foundation
open Gecit.Go
open Gecit.Net
open Gecit.Shell
open HelperScript

variable {strconv : Strconv} {line : CommandLine}

/-! ### One argument -/

theorem argument_fakeTTL {value : Bytes} (canonical : Canonical value) :
    line.argument strconv (lit "--fake-ttl=" ++ value) =
      if decimal value < 2 ^ 63 then some { line with fakeTTL := decimal value } else none := by
  have isFlag : lit "--fake-ttl=" ++ value =
      lit "--" ++ (lit "fake-ttl" ++ CommandLine.equalsSign :: value) := rfl
  rw [isFlag, CommandLine.argument_flag (by decide), CommandLine.set, if_pos rfl,
    strconv.parseInt_decimal value canonical]
  split <;> rfl

theorem argument_doh (flag : Bool) :
    line.argument strconv (lit "--doh=" ++ if flag then lit "true" else lit "false") =
      some { line with doh := flag } := by
  have isFlag : ∀ value, lit "--doh=" ++ value =
      lit "--" ++ (lit "doh" ++ CommandLine.equalsSign :: value) := fun _ => rfl
  rw [isFlag, CommandLine.argument_flag (by decide), CommandLine.set, if_neg (by decide),
    if_pos rfl]
  cases flag with
  | false =>
      rw [if_neg Bool.false_ne_true, strconv.parseBool_false]
      rfl
  | true =>
      rw [if_pos rfl, strconv.parseBool_true]
      rfl

theorem argument_dohUpstream (value : Bytes) :
    line.argument strconv (lit "--doh-upstream=" ++ value) =
      some { line with dohUpstream := value } := by
  have isFlag : lit "--doh-upstream=" ++ value =
      lit "--" ++ (lit "doh-upstream" ++ CommandLine.equalsSign :: value) := rfl
  rw [isFlag, CommandLine.argument_flag (by decide)]
  rfl

theorem argument_interface (value : Bytes) :
    line.argument strconv (lit "--interface=" ++ value) =
      some { line with interface := value } := by
  have isFlag : lit "--interface=" ++ value =
      lit "--" ++ (lit "interface" ++ CommandLine.equalsSign :: value) := rfl
  rw [isFlag, CommandLine.argument_flag (by decide)]
  rfl

/-- The ports that a value lists. -/
def listedPorts (value : Bytes) : List Int :=
  (value.splitOn comma).map fun port => (decimal port : Int)

theorem mapM_atoi {ports : List Bytes} (inRange : ∀ port ∈ ports, InRange 1 65535 port) :
    ports.mapM strconv.atoi = some (ports.map fun port => (decimal port : Int)) := by
  induction ports with
  | nil => rfl
  | cons port ports inductionHypothesis =>
      obtain ⟨⟨canonical, _, small⟩, rest⟩ := List.forall_mem_cons.mp inRange
      rw [List.mapM_cons, inductionHypothesis rest, strconv.atoi_decimal port canonical,
        if_pos (by omega)]
      rfl

theorem argument_ports {value : Bytes} (isPorts : IsPorts value) :
    line.argument strconv (lit "--ports=" ++ value) =
      some (line.addPorts (listedPorts value)) := by
  have isFlag : lit "--ports=" ++ value =
      lit "--" ++ (lit "ports" ++ CommandLine.equalsSign :: value) := rfl
  have set : line.set strconv (lit "ports") value =
      ((value.splitOn comma).mapM strconv.atoi).map line.addPorts := rfl
  rw [isFlag, CommandLine.argument_flag (by decide), set, mapM_atoi isPorts]
  rfl

theorem listedPorts_inRange {value : Bytes} (isPorts : IsPorts value) :
    listedPorts value ≠ [] ∧ ∀ n ∈ listedPorts value, 1 ≤ n ∧ n < 2 ^ 16 := by
  constructor
  · exact fun none => List.splitOn_ne_nil comma value (List.map_eq_nil_iff.mp none)
  · intro n member
    obtain ⟨port, isPort, rfl⟩ := List.mem_map.mp member
    obtain ⟨_, positive, small⟩ := isPorts port isPort
    omega

/-! ### All arguments -/

/-- What no argument of the helper can change. -/
structure InBounds (line : CommandLine) : Prop where
  fakeTTL : 1 ≤ line.fakeTTL ∧ line.fakeTTL ≤ 255
  ports : line.ports ≠ [] ∧ ∀ n ∈ line.ports, 1 ≤ n ∧ n < 2 ^ 16
  upstream : line.dohUpstream ∈ dohPresets
  interface : line.interface = [] ∨ IsInterface line.interface

theorem inBounds_default : InBounds .default := by
  refine ⟨by decide, ⟨by decide, ?_⟩, by decide, .inl rfl⟩
  intro n member
  obtain rfl := List.mem_singleton.mp member
  decide

theorem InBounds.addPorts (inBounds : InBounds line) {ports : List Int} (some_ : ports ≠ [])
    (each : ∀ n ∈ ports, 1 ≤ n ∧ n < 2 ^ 16) : InBounds (line.addPorts ports) := by
  refine ⟨inBounds.fakeTTL, ?_, inBounds.upstream, inBounds.interface⟩
  unfold CommandLine.addPorts
  dsimp only
  split
  · refine ⟨List.append_ne_nil_of_right_ne_nil _ some_, ?_⟩
    intro n member
    exact (List.mem_append.mp member).elim (inBounds.ports.2 n) (each n)
  · exact ⟨some_, each⟩

/-- A token that passes is taken. -/
theorem argument_whitelisted (inBounds : InBounds line) {token : Bytes}
    (whitelisted : Whitelisted token) :
    ∃ next, line.argument strconv token = some next ∧ InBounds next := by
  cases whitelisted with
  | fakeTTL value inRange =>
      obtain ⟨canonical, positive, small⟩ := inRange
      refine ⟨_, (argument_fakeTTL canonical).trans (if_pos (by omega)), ?_⟩
      exact ⟨by dsimp only; omega, inBounds.ports, inBounds.upstream, inBounds.interface⟩
  | doh value flag =>
      have isFlag : ∃ on : Bool, value = if on then lit "true" else lit "false" :=
        flag.elim (fun same => ⟨true, same⟩) fun same => ⟨false, same⟩
      obtain ⟨on, rfl⟩ := isFlag
      refine ⟨_, argument_doh on, ?_⟩
      exact ⟨inBounds.fakeTTL, inBounds.ports, inBounds.upstream, inBounds.interface⟩
  | dohUpstream value preset =>
      refine ⟨_, argument_dohUpstream value, ?_⟩
      exact ⟨inBounds.fakeTTL, inBounds.ports, preset, inBounds.interface⟩
  | interface value isInterface =>
      refine ⟨_, argument_interface value, ?_⟩
      exact ⟨inBounds.fakeTTL, inBounds.ports, inBounds.upstream, .inr isInterface⟩
  | ports value isPorts =>
      obtain ⟨some_, each⟩ := listedPorts_inRange isPorts
      exact ⟨_, argument_ports isPorts, inBounds.addPorts some_ each⟩

/-- A TTL that no integer holds is refused. -/
theorem argument_oversized {token : Bytes} (oversized : Oversized token) :
    line.argument strconv token = none := by
  obtain ⟨value, rfl, canonical, large⟩ := oversized
  exact (argument_fakeTTL canonical).trans (if_neg (by omega))

/-- The tokens of the helper are taken one by one, up to the first that is too large. -/
theorem arguments_inBounds {tokens : List Bytes}
    (clean : ∀ token ∈ tokens, Whitelisted token ∨ Oversized token) (inBounds : InBounds line) :
    (tokens.foldlM (CommandLine.argument strconv) line = none ↔
        ∃ token ∈ tokens, Oversized token) ∧
      ∀ final, tokens.foldlM (CommandLine.argument strconv) line = some final → InBounds final := by
  induction tokens generalizing line with
  | nil =>
      refine ⟨iff_of_false nofun (by simp), ?_⟩
      intro final same
      obtain rfl := Option.some.inj same
      exact inBounds
  | cons token tokens inductionHypothesis =>
      obtain ⟨first, rest⟩ := List.forall_mem_cons.mp clean
      rw [List.foldlM_cons, List.exists_mem_cons_iff]
      rcases first with whitelisted | oversized
      · obtain ⟨next, taken, nextInBounds⟩ :=
          @argument_whitelisted strconv line inBounds _ whitelisted
        rw [taken, or_iff_right whitelisted.not_oversized]
        exact inductionHypothesis rest nextInBounds
      · rw [argument_oversized oversized]
        exact ⟨iff_of_true rfl (.inl oversized), nofun⟩

/-! ### The engines -/

/-- What an engine of the helper is limited to. -/
structure Limited (env : Surroundings) (engine : TunEngine) : Prop where
  fakeTTL : 1 ≤ engine.mgr.FakeTTL ∧ engine.mgr.FakeTTL ≤ 255
  targetPorts : engine.mgr.targetPorts ≠ [] ∧ 0 ∉ engine.mgr.targetPorts
  /-- The resolver asks nothing but presets. -/
  resolver : ∀ client ∈ newResolver env engine.upstream,
    ∃ preset ∈ presets, client = newDoHClient env preset.2 preset.1
  interface : engine.Interface = [] ∨ IsInterface engine.Interface

theorem newResolver_preset (env : Surroundings) {upstream : Bytes}
    (isPreset : upstream ∈ dohPresets) :
    ∃ url, (upstream, url) ∈ presets ∧
      newResolver env upstream = [newDoHClient env url upstream] := by
  have named : ∀ name ∈ dohPresets, (name, itemURL name) ∈ presets ∧
      name.splitOn (byteOf ',') = [name] ∧ trimSpace name = name := by
    decide
  obtain ⟨member, single, trimmed⟩ := named upstream isPreset
  refine ⟨itemURL upstream, member, ?_⟩
  rw [newResolver_eq, single, List.map_singleton, trimmed]

theorem upstream_newTunEngine (isPreset : line.dohUpstream ∈ dohPresets) :
    (newTunEngine line.config).upstream = line.dohUpstream := by
  have notEmpty : ∀ name ∈ dohPresets, name ≠ [] := by decide
  exact if_neg (notEmpty _ isPreset)

theorem targetPorts_newTunEngine (ports : line.ports ≠ []) :
    (newTunEngine line.config).mgr.targetPorts = toUint16Slice line.ports :=
  if_neg fun none => ports (List.map_eq_nil_iff.mp none)

theorem InBounds.limited (env : Surroundings) (inBounds : InBounds line) :
    Limited env (newTunEngine line.config) := by
  obtain ⟨fakeTTL, ⟨somePorts, eachPort⟩, upstream, interface⟩ := inBounds
  refine ⟨?_, ?_, ?_, interface⟩
  · have nonnegative : 0 ≤ line.fakeTTL := by omega
    exact ⟨Tun.newManagerTTL_pos_iff.mpr nonnegative, Tun.newManagerTTL_le_iff.mpr fakeTTL.2⟩
  · rw [targetPorts_newTunEngine somePorts]
    refine ⟨fun none => somePorts (List.map_eq_nil_iff.mp none), ?_⟩
    intro zero
    obtain ⟨n, member, isZero⟩ := mem_toUint16Slice.mp zero
    have bounds := eachPort n member
    have exactly := toNat_ofInt16_eq_iff.mpr (⟨by omega, bounds.2⟩ : fits16 n)
    rw [isZero] at exactly
    have impossible : (0 : Int) = n := exactly
    omega
  · intro client member
    obtain ⟨url, preset, resolver⟩ := newResolver_preset env upstream
    rw [upstream_newTunEngine upstream, resolver] at member
    exact ⟨_, preset, List.mem_singleton.mp member⟩

/-- The call of a start either makes a limited engine, or gives up on a TTL that is too large. -/
def StartsLimited (strconv : Strconv) (env : Surroundings) (call : List Bytes) : Prop :=
  (engineOf strconv call = none ↔ ∃ token ∈ call, Oversized token) ∧
    ∀ engine, engineOf strconv call = some engine → Limited env engine

theorem not_oversized_runFlags : ∀ token ∈ [lit "run", lit "-v"], ¬ Oversized token := by
  intro token member oversized
  obtain ⟨value, rfl, _⟩ := oversized
  have noFlag : ∀ word ∈ [lit "run", lit "-v"], hasPrefix word (lit "--fake-ttl=") = false := by
    decide
  exact absurd (noFlag _ member) (Bool.not_eq_false _ ▸ hasPrefix_append _ value)

theorem startsLimited_run (strconv : Strconv) (env : Surroundings) {tokens : List Bytes}
    (clean : ∀ token ∈ tokens, Whitelisted token ∨ Oversized token) :
    StartsLimited strconv env ([lit "run", lit "-v"] ++ tokens) := by
  have parsed : CommandLine.parse strconv ([lit "run", lit "-v"] ++ tokens) =
      tokens.foldlM (CommandLine.argument strconv)
        { CommandLine.default with verbose := true } := rfl
  have verbose : InBounds { CommandLine.default with verbose := true } :=
    ⟨inBounds_default.fakeTTL, inBounds_default.ports, inBounds_default.upstream,
      inBounds_default.interface⟩
  obtain ⟨fails, holds⟩ := @arguments_inBounds strconv _ tokens clean verbose
  unfold StartsLimited engineOf
  rw [parsed, Option.map_eq_none_iff, fails]
  constructor
  · constructor
    · intro oversized
      obtain ⟨token, member, isOversized⟩ := oversized
      exact ⟨token, List.mem_append_right _ member, isOversized⟩
    · intro oversized
      obtain ⟨token, member, isOversized⟩ := oversized
      rcases List.mem_append.mp member with runFlag | argument
      · exact absurd isOversized (not_oversized_runFlags token runFlag)
      · exact ⟨token, argument, isOversized⟩
  · intro engine made
    obtain ⟨final, parsedTo, rfl⟩ := Option.map_eq_some_iff.mp made
    exact (holds final parsedTo).limited env

theorem forall_mem_flatten_of_oneAskedCall {P : List Bytes → Prop}
    {found : List Interference} {calls : List (List (List Bytes))}
    (asked : List.Forall₂ OneAskedCall found calls)
    (each : ∀ line call, Asked line call → P call) : ∀ call ∈ calls.flatten, P call := by
  induction asked with
  | nil => exact fun _ member => absurd member List.not_mem_nil
  | cons one _ inductionHypothesis =>
      intro call member
      rw [List.flatten_cons, List.mem_append] at member
      rcases member with now | later
      · rcases one with none | ⟨only, isOnly, isAsked⟩
        · exact absurd (none ▸ now) List.not_mem_nil
        · rw [isOnly, List.mem_singleton] at now
          exact now ▸ each _ only isAsked
      · exact inductionHypothesis call later

theorem decimalText_eq (n : Nat) : decimalText n =
    if n < 10 then [UInt8.ofNat (48 + n)]
    else decimalText (n / 10) ++ [UInt8.ofNat (48 + n % 10)] := by
  have digitBytes : ∀ d < 10, byteOf (Nat.digitChar d) = UInt8.ofNat (48 + d) := by decide
  unfold decimalText
  rw [Nat.toDigits_eq_if (by decide)]
  split
  next small => exact congrArg (fun b => [b]) (digitBytes n small)
  next large =>
    rw [List.map_append, List.map_singleton, digitBytes _ (Nat.mod_lt n (by decide))]

theorem decimal_decimalText (n : Nat) : decimal (decimalText n) = n := by
  induction n using Nat.strong_induction_on with
  | _ n inductionHypothesis =>
      have digit : ∀ d < 10, (UInt8.ofNat (48 + d)).toNat - 48 = d := by decide
      rw [decimalText_eq]
      split
      next small =>
        have one := decimal_concat [] (UInt8.ofNat (48 + n))
        rw [digit n small] at one
        exact one.trans (Nat.zero_add n)
      next large =>
        rw [decimal_concat, inductionHypothesis (n / 10) (by omega), digit _ (by omega)]
        omega

theorem canonical_decimalText {n : Nat} (positive : 1 ≤ n) : Canonical (decimalText n) := by
  refine ⟨?_, isDigit_decimalText n, ?_⟩
  · unfold decimalText
    exact fun none => Nat.toDigits_ne_nil (List.map_eq_nil_iff.mp none)
  · induction n using Nat.strong_induction_on with
    | _ n inductionHypothesis =>
        have notZero : ∀ d < 10, 1 ≤ d → UInt8.ofNat (48 + d) ≠ byteOf '0' := by decide
        rw [decimalText_eq]
        split
        next small => exact fun zero => notZero n small positive (Option.some.inj zero)
        next large =>
          have front := inductionHypothesis (n / 10) (by omega) (by omega)
          intro zero
          rw [List.head?_append] at zero
          cases shape : (decimalText (n / 10)).head? with
          | none =>
              have empty := List.head?_eq_none_iff.mp shape
              unfold decimalText at empty
              exact Nat.toDigits_ne_nil (List.map_eq_nil_iff.mp empty)
          | some b =>
              rw [shape, Option.some_or] at zero
              exact front (shape.trans zero)

/-! ### The engine of the settings -/

/-- The ports of the field, or the default of a blank one. -/
def SettingsStore.portList (settings : SettingsStore) : List Int :=
  if trimSpace settings.ports = [] then [443] else listedPorts (trimSpace settings.ports)

/-- The upstream of the field, or the default of a blank one. -/
def SettingsStore.upstreamName (settings : SettingsStore) : Bytes :=
  if trimSpace settings.doHUpstream = [] then lit "cloudflare" else trimSpace settings.doHUpstream

/-- The engine does what the settings say. -/
structure Configured (settings : SettingsStore) (engine : TunEngine) : Prop where
  fakeTTL : engine.mgr.FakeTTL = max 1 settings.fakeTTL
  doh : engine.dohEnabled = settings.doHEnabled
  upstream : engine.upstream = settings.upstreamName
  interface : engine.Interface = trimSpace settings.interface
  ports : MatchesPorts engine.mgr.targetPorts settings.portList

section Settings

variable {settings : SettingsStore}

/-- The flags after the arguments of the settings. -/
def SettingsStore.commandLine (settings : SettingsStore) : CommandLine where
  fakeTTL := max 1 settings.fakeTTL
  doh := settings.doHEnabled
  dohUpstream := settings.upstreamName
  mss := 40
  restoreAfterBytes := 600
  restoreMss := 0
  cgroup := lit "/sys/fs/cgroup"
  verbose := true
  ports := settings.portList
  portsChanged := decide (trimSpace settings.ports ≠ [])
  interface := trimSpace settings.interface

/-- A flag of a blank field is not given. -/
theorem foldlM_present (flag field : Bytes) :
    ((present flag field).map fun argument => argument.1 ++ argument.2).foldlM
        (CommandLine.argument strconv) line =
      if trimSpace field = [] then some line
      else line.argument strconv (flag ++ trimSpace field) := by
  unfold present
  split
  · rfl
  · rw [List.map_singleton, List.foldlM_cons]
    exact bind_pure _

/-- The values of accepted arguments. -/
theorem allowed_of_accepted {flag value : Bytes} {allowed : Bytes → Bool}
    (accepted : ∀ token ∈ settings.texts, tokenAllowed token = true)
    (member : (flag, allowed) ∈ startFlags) (isArgument : (flag, value) ∈ settings.arguments) :
    allowed value = true := by
  rw [← tokenAllowed_append member]
  exact accepted _ (List.mem_map.mpr ⟨_, isArgument, rfl⟩)

/-- The arguments are taken one group after the other. -/
theorem taken_append {first second : List Bytes} {next final : CommandLine}
    (taken : first.foldlM (CommandLine.argument strconv) line = some next)
    (later : second.foldlM (CommandLine.argument strconv) next = some final) :
    (first ++ second).foldlM (CommandLine.argument strconv) line = some final := by
  rw [List.foldlM_append, taken]
  exact later

/-- The two flags that each command has. -/
theorem taken_required (isInt : settings.fakeTTL < 2 ^ 63) :
    [lit "--fake-ttl=" ++ settings.ttl, lit "--doh=" ++ settings.doh].foldlM
        (CommandLine.argument strconv) line =
      some { line with fakeTTL := max 1 settings.fakeTTL, doh := settings.doHEnabled } := by
  have canonical : Canonical settings.ttl := canonical_decimalText (by omega)
  have value : decimal settings.ttl = (max 1 settings.fakeTTL).toNat := decimal_decimalText _
  rw [List.foldlM_cons, argument_fakeTTL canonical, value, if_pos (by omega),
    Int.toNat_of_nonneg (by omega), Option.bind_eq_bind, Option.bind_some, List.foldlM_cons]
  unfold SettingsStore.doh
  rw [argument_doh]
  rfl

theorem taken_upstream (default : line.dohUpstream = lit "cloudflare") :
    ((present (lit "--doh-upstream=") settings.doHUpstream).map fun argument =>
        argument.1 ++ argument.2).foldlM (CommandLine.argument strconv) line =
      some { line with dohUpstream := settings.upstreamName } := by
  rw [foldlM_present]
  unfold SettingsStore.upstreamName
  split
  · rw [← default]
  · exact argument_dohUpstream _

theorem taken_interface (default : line.interface = []) :
    ((present (lit "--interface=") settings.interface).map fun argument =>
        argument.1 ++ argument.2).foldlM (CommandLine.argument strconv) line =
      some { line with interface := trimSpace settings.interface } := by
  rw [foldlM_present]
  split
  next blank => rw [blank, ← default]
  next => exact argument_interface _

theorem taken_ports (unset : line.portsChanged = false) (default : line.ports = [443])
    (isPorts : trimSpace settings.ports ≠ [] → IsPorts (trimSpace settings.ports)) :
    ((present (lit "--ports=") settings.ports).map fun argument =>
        argument.1 ++ argument.2).foldlM (CommandLine.argument strconv) line =
      some { line with
        ports := settings.portList, portsChanged := decide (trimSpace settings.ports ≠ []) } := by
  rw [foldlM_present]
  unfold SettingsStore.portList
  split
  next blank => rw [decide_eq_false (not_not.mpr blank), ← unset, ← default]
  next notBlank =>
    rw [argument_ports (isPorts notBlank), CommandLine.addPorts, unset, decide_eq_true notBlank]
    rfl

theorem isPorts_of_accepted (accepted : ∀ token ∈ settings.texts, tokenAllowed token = true)
    (notBlank : trimSpace settings.ports ≠ []) : IsPorts (trimSpace settings.ports) := by
  apply portsAllowed_iff.mp
  apply @allowed_of_accepted _ (lit "--ports=") _ _ accepted (by simp [startFlags])
  unfold SettingsStore.arguments present
  rw [if_neg notBlank]
  exact List.mem_append_right _ (List.mem_singleton.mpr rfl)

theorem parse_texts (accepted : ∀ token ∈ settings.texts, tokenAllowed token = true)
    (isInt : settings.fakeTTL < 2 ^ 63) :
    CommandLine.parse strconv ([lit "run", lit "-v"] ++ settings.texts) =
      some settings.commandLine := by
  have parsed : CommandLine.parse strconv ([lit "run", lit "-v"] ++ settings.texts) =
      settings.texts.foldlM (CommandLine.argument strconv)
        { CommandLine.default with verbose := true } := rfl
  rw [parsed]
  unfold SettingsStore.texts SettingsStore.arguments
  rw [List.map_append, List.map_append, List.map_append]
  apply taken_append
  · apply taken_append
    · exact taken_append (taken_required isInt) (taken_upstream rfl)
    · exact taken_interface rfl
  · exact taken_ports rfl rfl (isPorts_of_accepted accepted)

theorem portList_fits (accepted : ∀ token ∈ settings.texts, tokenAllowed token = true) :
    settings.portList ≠ [] ∧ ∀ n ∈ settings.portList, fits16 n := by
  unfold SettingsStore.portList
  split
  next =>
    refine ⟨by decide, ?_⟩
    intro n member
    obtain rfl := List.mem_singleton.mp member
    exact ⟨by decide, by decide⟩
  next notBlank =>
    obtain ⟨some_, each⟩ := listedPorts_inRange (isPorts_of_accepted accepted notBlank)
    refine ⟨some_, fun n member => ?_⟩
    obtain ⟨positive, small⟩ := each n member
    exact ⟨by omega, small⟩

theorem configured_commandLine
    (accepted : ∀ token ∈ settings.texts, tokenAllowed token = true) :
    Configured settings (newTunEngine settings.commandLine.config) := by
  have upstream : settings.upstreamName ≠ [] := by
    unfold SettingsStore.upstreamName
    split
    next => decide
    next notBlank => exact notBlank
  refine ⟨if_neg ?_, rfl, if_neg upstream, rfl, ?_⟩
  · show max 1 settings.fakeTTL ≠ 0
    omega
  · exact (matchesPorts_iff fun _ => Iff.rfl).mpr (portList_fits accepted)

end Settings

/-- Conversions of plain decimals and of the two flags. -/
def plainConversions : Strconv :=
  let parse (value : Bytes) : Option Int :=
    if malformedDecimal value then none
    else if decimal value < 2 ^ 63 then some (decimal value) else none
  have decimals : ∀ value, Canonical value →
      parse value = if decimal value < 2 ^ 63 then some (decimal value : Int) else none := by
    intro value canonical
    exact if_neg (Bool.eq_false_iff.mp (malformedDecimal_eq_false_iff.mpr canonical))
  { parseInt := parse
    atoi := parse
    parseBool := fun value =>
      if value = lit "true" then some true
      else if value = lit "false" then some false else none
    parseInt_decimal := decimals
    atoi_decimal := decimals
    parseBool_true := by decide
    parseBool_false := by decide }

/-- A TTL of 12, Google's resolver and two ports. -/
def twoPorts : SettingsStore := ⟨12, true, lit "google", lit " en0 ", lit "443,8443"⟩

end Gecit.Macos
