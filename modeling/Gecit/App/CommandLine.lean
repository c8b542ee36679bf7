import Gecit.App.Flags
import Gecit.Dns.DoH
import Gecit.Shell.Words

/-!
Contract: the command line of `gecit run`, and the macOS engine that is made of it.

Each flag is set by the values given to it, in order: a later value replaces an earlier one, but
the ports of a second flag are added to those of the first.

Owns the flags with their defaults, `runEngine` up to the engine, and the engine of a command
line. Does not own the conversions of single values, nor spellings without an equals sign.
-/

namespace Gecit.App

open Gecit.Dns
open Gecit.Foundation
open Gecit.Go
open Gecit.Net
open Gecit.Shell

/-- The conversions of the flag parser, and what they do with decimals and flags. -/
structure Strconv where
  parseInt : GoString → Option Int
  atoi : GoString → Option Int
  parseBool : GoString → Option Bool
  parseInt_decimal : ∀ value, Canonical value →
    parseInt value = if decimal value < 2 ^ 63 then some (decimal value : Int) else none
  atoi_decimal : ∀ value, Canonical value →
    atoi value = if decimal value < 2 ^ 63 then some (decimal value : Int) else none
  parseBool_true : parseBool (lit "true") = some true
  parseBool_false : parseBool (lit "false") = some false

/-! ### Flags -/

/-- The values of all flags of `run`. -/
structure CommandLine where
  fakeTTL : Int
  doh : Bool
  dohUpstream : GoString
  mss : Int
  restoreAfterBytes : Int
  restoreMss : Int
  cgroup : GoString
  verbose : Bool
  ports : List Int
  /-- The default of `--ports` has been replaced. -/
  portsChanged : Bool
  interface : GoString
deriving DecidableEq

namespace CommandLine

/-- Before any argument. -/
def default : CommandLine where
  fakeTTL := 8
  doh := true
  dohUpstream := lit "cloudflare"
  mss := 40
  restoreAfterBytes := 600
  restoreMss := 0
  cgroup := lit "/sys/fs/cgroup"
  verbose := false
  ports := [443]
  portsChanged := false
  interface := []

variable (strconv : Strconv)

/-- The first value takes the place of the default. -/
def addPorts (line : CommandLine) (ports : List Int) : CommandLine :=
  { line with
    ports := if line.portsChanged then line.ports ++ ports else ports, portsChanged := true }

/-- The flag is set to the value. -/
def set (line : CommandLine) (name value : GoString) : Option CommandLine :=
  if name = lit "fake-ttl" then
    (strconv.parseInt value).map fun value => { line with fakeTTL := value }
  else if name = lit "doh" then
    (strconv.parseBool value).map fun value => { line with doh := value }
  else if name = lit "doh-upstream" then some { line with dohUpstream := value }
  else if name = lit "mss" then
    (strconv.parseInt value).map fun value => { line with mss := value }
  else if name = lit "restore-after-bytes" then
    (strconv.parseInt value).map fun value => { line with restoreAfterBytes := value }
  else if name = lit "restore-mss" then
    (strconv.parseInt value).map fun value => { line with restoreMss := value }
  else if name = lit "cgroup" then some { line with cgroup := value }
  else if name = lit "verbose" then
    (strconv.parseBool value).map fun value => { line with verbose := value }
  else if name = lit "ports" then
    ((value.splitOn (byteOf ',')).mapM strconv.atoi).map line.addPorts
  else if name = lit "interface" then some { line with interface := value }
  else none

def equalsSign : UInt8 := byteOf '='

/-- An argument: `-v`, or a flag that is cut at its first equals sign. -/
def argument (line : CommandLine) (arg : GoString) : Option CommandLine :=
  if arg = lit "-v" then some { line with verbose := true }
  else if hasPrefix arg (lit "--") ∧ equalsSign ∈ arg then
    let flag := trimPrefix arg (lit "--")
    line.set strconv (flag.takeWhile (· ≠ equalsSign)) (flag.dropWhile (· ≠ equalsSign)).tail
  else none

/-- The flags behind `run`. -/
def parse : List GoString → Option CommandLine
  | [] => none
  | command :: args =>
      if command = lit "run" then args.foldlM (argument strconv) default else none

end CommandLine

/-! ### The engine -/

/-- `engine.Config` -/
structure EngineConfig where
  MSS : Int
  RestoreMSS : Int
  RestoreAfterBytes : Int
  Ports : List UInt16
  Interface : GoString
  CgroupPath : GoString
  FakeTTL : Int
  DoHEnabled : Bool
  DoHUpstream : GoString
deriving DecidableEq

/-- The configuration that `runEngine` reads. -/
def CommandLine.config (line : CommandLine) : EngineConfig where
  MSS := line.mss
  RestoreMSS := line.restoreMss
  RestoreAfterBytes := line.restoreAfterBytes
  Ports := toUint16Slice line.ports
  Interface := line.interface
  CgroupPath := line.cgroup
  FakeTTL := line.fakeTTL
  DoHEnabled := line.doh
  DoHUpstream := line.dohUpstream

/-- `tunEngine`, with the upstream of its DNS server. -/
structure TunEngine where
  mgr : Tun.Settings
  Interface : GoString
  upstream : GoString
  dohEnabled : Bool

/-- `newPlatformEngine` on macOS. -/
def newTunEngine (cfg : EngineConfig) : TunEngine where
  mgr := Tun.newManager cfg.Ports cfg.FakeTTL
  Interface := cfg.Interface
  upstream := if cfg.DoHUpstream = [] then lit "cloudflare" else cfg.DoHUpstream
  dohEnabled := cfg.DoHEnabled

/-- The engine that `gecit` starts with these arguments. -/
def engineOf (strconv : Strconv) (args : List GoString) : Option TunEngine :=
  (CommandLine.parse strconv args).map fun line => newTunEngine line.config

/-! ### Arguments with an equals sign -/

namespace CommandLine

variable {strconv : Strconv} {line : CommandLine}

/-- A flag without an equals sign in its name. -/
theorem argument_flag {name value : GoString} (noSign : equalsSign ∉ name) :
    line.argument strconv (lit "--" ++ (name ++ equalsSign :: value)) =
      line.set strconv name value := by
  have notVerbose : lit "--" ++ (name ++ equalsSign :: value) ≠ lit "-v" := by
    intro same
    have second : some (45 : UInt8) = some 118 := congrArg (·[1]?) same
    exact absurd second (by decide)
  have named : ∀ b ∈ name, decide (b ≠ equalsSign) = true := fun b member =>
    decide_eq_true (ne_of_mem_of_not_mem member noSign)
  have signed : equalsSign ∈ lit "--" ++ (name ++ equalsSign :: value) := by simp
  have stops : decide (equalsSign ≠ equalsSign) = false := by decide
  rw [argument, if_neg notVerbose, if_pos ⟨hasPrefix_append _ _, signed⟩, trimPrefix_append]
  dsimp only
  rw [List.takeWhile_append_of_pos named, List.dropWhile_append_of_pos named,
    List.takeWhile_cons_of_neg (by rw [stops]; decide),
    List.dropWhile_cons_of_neg (by rw [stops]; decide), List.append_nil, List.tail_cons]

end CommandLine

end Gecit.App
