import Mathlib.Data.List.Perm.Subperm
import Gecit.Dns.DoH
import Gecit.Ebpf.Layout
import Gecit.Ebpf.Sockops

/-!
Contract: the addresses that the Linux engine excludes, against those its resolver dials.

Both come from one specification, read by two functions: `dohUpstreamIPs` collects literals
and IPv4 answers, and the BPF map takes the IPv4 ones of these.

Owns `dohUpstreamIPs`, the exclude map after startup, and the exact specifications whose
connections are all excluded. Does not own what the resolver asks.
-/

namespace Gecit.App

open Gecit.Dns
open Gecit.Ebpf
open Gecit.Go
open Gecit.Net
open Gecit.Rawsock

variable (env : Surroundings)

def dohUpstreamIPs (upstream : GoString) : List Address :=
  (upstream.splitOn (byteOf ',')).flatMap fun u =>
    let u := trimSpace u
    let u := match presets.lookup u with
      | some url => url
      | none => u
    match env.parseURL u with
    | none => []
    | some parsed =>
        let host := parsed.hostname
        match parseIP host with
        | some ip => [ip]
        | none =>
            match env.lookupIP host with
            | none => []
            | some resolved => resolved.filter fun ip => (to4 ip.val).isSome

/-- The configuration of the manager that `newPlatformEngine` builds. -/
def platformConfig (cfg : Config) (upstream : GoString) : Config :=
  { cfg with ExcludeIPs := (dohUpstreamIPs env upstream).map Subtype.val }

/-- `pushExcludeIPs` on an empty map. -/
def pushExcludeIPs (cfg : Config) : Option (List UInt32) :=
  cfg.excludeKeys.foldlM updateKeys []

/-- A connection to this address; a mapped address is an IPv4 one. -/
def Reaches (conn : Connection) (ip : Address) : Prop :=
  match conn with
  | .ipv4 conn => to4 ip.val = some conn.dst.val
  | .ipv6 conn _ _ => to4 ip.val = none ∧ conn.dst.val = ip.val

/-- `handle_established` finds every connection to this address in the map, whatever the words
that the context of an IPv6 socket holds. -/
def ReturnsEarly (keys : List UInt32) (ip : Address) : Prop :=
  ∀ conn, Reaches conn ip → (conn.context .activeEstablishedCb 0).remoteIp4 ∈ keys

/-! ### What a specification gives -/

/-- The URL gives the IPv4 address: as its literal, or as an answer for its name. -/
def Gives (url : GoString) (ip4 : IP) : Prop :=
  ∃ parsed, env.parseURL url = some parsed ∧
    ((∃ ip, parseIP parsed.hostname = some ip ∧ to4 ip.val = some ip4) ∨
      parseIP parsed.hostname = none ∧ ∃ answers, env.lookupIP parsed.hostname = some answers ∧
        ∃ ip ∈ answers, to4 ip.val = some ip4)

/-- An IPv4 address that some item of the specification gives. -/
def Listed (upstream : GoString) (ip : Address) : Prop :=
  ∃ ip4, to4 ip.val = some ip4 ∧
    ∃ item ∈ upstream.splitOn (byteOf ','), Gives env (itemURL item) ip4

/-- An item that is never dialled, or has an IPv4 literal, or a name with an IPv4 answer; any
other name may only be dialled at listed addresses. -/
def Covered (upstream item : GoString) : Prop :=
  ∀ parsed, env.parseURL (itemURL item) = some parsed → parsed.Dialled →
    (∃ ip4, Gives env (itemURL item) ip4) ∨
      parseIP parsed.hostname = none ∧ ∀ ip ∈ env.dialLookup parsed.hostname, Listed env upstream ip

variable {env} {cfg : Config} {upstream : GoString} {keys : List UInt32}

/-! ### What is excluded -/

theorem mem_dohUpstreamIPs {ip4 : IP} :
    (∃ ip ∈ dohUpstreamIPs env upstream, to4 ip.val = some ip4) ↔
      ∃ item ∈ upstream.splitOn (byteOf ','), Gives env (itemURL item) ip4 := by
  have itemwise : ∀ item, (match presets.lookup (trimSpace item) with
      | some url => url
      | none => trimSpace item) = itemURL item := by
    intro item
    rw [itemURL]
    cases presets.lookup (trimSpace item) <;> rfl
  simp only [dohUpstreamIPs, itemwise, List.mem_flatMap]
  constructor
  · rintro ⟨ip, ⟨item, member, there⟩, isIPv4⟩
    refine ⟨item, member, ?_⟩
    split at there
    next => contradiction
    next parsed isURL =>
      refine ⟨parsed, isURL, ?_⟩
      split at there
      next literal isLiteral =>
        obtain rfl := List.mem_singleton.mp there
        exact .inl ⟨ip, isLiteral, isIPv4⟩
      next isName =>
        split at there
        next => contradiction
        next resolved answers =>
          exact .inr ⟨isName, resolved, answers, ip, (List.mem_filter.mp there).1, isIPv4⟩
  · rintro ⟨item, member, parsed, isURL, given⟩
    rcases given with ⟨ip, isLiteral, isIPv4⟩ | ⟨isName, resolved, answers, ip, answer, isIPv4⟩
    · refine ⟨ip, ⟨item, member, ?_⟩, isIPv4⟩
      simp only [isURL, isLiteral, List.mem_singleton]
    · refine ⟨ip, ⟨item, member, ?_⟩, isIPv4⟩
      simp only [isURL, isName, answers, List.mem_filter, isIPv4, Option.isSome_some, and_true]
      exact answer

/-- The key of an IPv4 address is in the map exactly when some item gives the address. -/
theorem mem_pushed (pushed : pushExcludeIPs (platformConfig env cfg upstream) = some keys)
    (ip : IPv4Address) :
    nativeUint32 ip ∈ keys ↔
      ∃ item ∈ upstream.splitOn (byteOf ','), Gives env (itemURL item) ip.val := by
  obtain ⟨_, members⟩ := foldlM_updateKeys pushed (Nat.zero_le _)
  rw [members, ← mem_dohUpstreamIPs, mem_excludeKeys_iff]
  simp only [platformConfig, List.not_mem_nil, false_or, List.mem_map, exists_exists_and_eq_and]

/-- A map that is full still lacks some word. -/
theorem exists_notMem (fits : keys.length ≤ maxEntries) : ∃ word, word ∉ keys := by
  by_contra full
  push Not at full
  let words := (List.range (maxEntries + 1)).map UInt32.ofNat
  have distinct : words.Nodup := by decide
  have within : words.length ≤ keys.length :=
    (distinct.subperm fun word _ => full word).length_le
  have many : words.length = maxEntries + 1 := by
    rw [List.length_map, List.length_range]
  omega

/-- Connections to an address return early exactly when it is an IPv4 address that some item
gives. -/
theorem returnsEarly_iff (pushed : pushExcludeIPs (platformConfig env cfg upstream) = some keys)
    (ip : Address) : ReturnsEarly keys ip ↔ Listed env upstream ip := by
  cases isIPv4 : to4 ip.val with
  | some ip4 =>
      let dst : IPv4Address := ⟨ip4, to4_length isIPv4⟩
      have inMap : ReturnsEarly keys ip ↔ nativeUint32 dst ∈ keys := by
        constructor
        · intro early
          exact early (.ipv4 ⟨dst, dst, 0, 0, 0, 0⟩) isIPv4
        · intro there conn reaches
          cases conn with
          | ipv4 conn =>
              have same : conn.dst = dst := by
                apply Subtype.ext
                exact Option.some.inj ((reaches : to4 ip.val = _).symm.trans isIPv4)
              show nativeUint32 conn.dst ∈ keys
              rw [same]
              exact there
          | ipv6 conn remoteIp4 localIp4 =>
              have none4 := (reaches : to4 ip.val = none ∧ _).1
              rw [isIPv4] at none4
              contradiction
      rw [inMap, mem_pushed pushed, Listed, isIPv4]
      constructor
      · intro given
        exact ⟨ip4, rfl, given⟩
      · rintro ⟨other, same, given⟩
        obtain rfl := Option.some.inj same
        exact given
  | none =>
      apply iff_of_false
      · intro early
        obtain ⟨word, missing⟩ := exists_notMem (foldlM_updateKeys pushed (Nat.zero_le _)).1
        have sixteen : ip.val.length = 16 := by
          rcases ip.property with four | sixteen
          · rw [to4, if_pos four] at isIPv4
            contradiction
          · exact sixteen
        let dst : IPv6Address := ⟨ip.val, sixteen⟩
        exact missing (early (.ipv6 ⟨dst, dst, 0, 0, 0, 0⟩ word 0) ⟨isIPv4, rfl⟩)
      · rintro ⟨ip4, same, _⟩
        rw [isIPv4] at same
        contradiction

/-- The early return of `handle_established`: neither the MSS nor an event. -/
theorem handleEstablished_returnsEarly {Socket : Type*} [DecidableEq Socket]
    (cookie : Socket → UInt64) (s : Socket) (config : GecitConfig) {kernel : Kernel Socket}
    {ip : Address} {conn : Connection} (early : ReturnsEarly kernel.excludeIps ip)
    (reaches : Reaches conn ip) :
    handleEstablished cookie s (conn.context .activeEstablishedCb 0) config kernel = kernel := by
  rw [handleEstablished, if_pos (early conn reaches)]

/-! ### What is dialled -/

variable {url item : GoString} {parsed : URL}

theorem gives_iff (isURL : env.parseURL url = some parsed) (ip4 : IP) :
    Gives env url ip4 ↔ (∃ ip, parseIP parsed.hostname = some ip ∧ to4 ip.val = some ip4) ∨
      parseIP parsed.hostname = none ∧ ∃ answers, env.lookupIP parsed.hostname = some answers ∧
        ∃ ip ∈ answers, to4 ip.val = some ip4 := by
  unfold Gives
  rw [isURL]
  simp

theorem covered_of_url (isURL : env.parseURL (itemURL item) = some parsed) :
    Covered env upstream item ↔ (parsed.Dialled → (∃ ip4, Gives env (itemURL item) ip4) ∨
      parseIP parsed.hostname = none ∧
        ∀ ip ∈ env.dialLookup parsed.hostname, Listed env upstream ip) := by
  unfold Covered
  rw [isURL]
  simp

/-- A literal gives its own IPv4 address and nothing else. -/
theorem gives_literal (isURL : env.parseURL url = some parsed) {ip : Address}
    (isLiteral : parseIP parsed.hostname = some ip) (ip4 : IP) :
    Gives env url ip4 ↔ to4 ip.val = some ip4 := by
  rw [gives_iff isURL, isLiteral]
  simp

/-- An item is covered exactly when its client dials listed addresses only. -/
theorem covered_iff (member : item ∈ upstream.splitOn (byteOf ','))
    {dialled : List Address} (dials : Dials env (itemURL item) dialled) :
    (∀ ip ∈ dialled, Listed env upstream ip) ↔ Covered env upstream item := by
  cases dials with
  | unparsed noURL =>
      apply iff_of_true (fun ip missing => absurd missing List.not_mem_nil)
      intro parsed isURL
      rw [noURL] at isURL
      contradiction
  | idle parsed isURL notDialled =>
      rw [covered_of_url isURL]
      apply iff_of_true (fun ip missing => absurd missing List.not_mem_nil)
      exact fun dialled => absurd dialled notDialled
  | literal parsed isURL dialled ip isLiteral =>
      rw [covered_of_url isURL, List.forall_mem_singleton, isLiteral]
      constructor
      · intro listed _
        obtain ⟨ip4, isIPv4, _⟩ := listed
        exact .inl ⟨ip4, (gives_literal isURL isLiteral ip4).mpr isIPv4⟩
      · intro covered
        have given := (covered dialled).resolve_right fun isName => absurd isName.1 (by simp)
        obtain ⟨ip4, gives⟩ := given
        exact ⟨ip4, (gives_literal isURL isLiteral ip4).mp gives, item, member, gives⟩
  | resolved parsed isURL dialled isName ips answers ip4 first ip same =>
      obtain ⟨answer, isAnswer, isIPv4⟩ := List.exists_of_findSome?_eq_some first
      have given : Gives env (itemURL item) ip4 :=
        (gives_iff isURL ip4).mpr (.inr ⟨isName, ips, answers, answer, isAnswer, isIPv4⟩)
      rw [covered_of_url isURL, List.forall_mem_singleton]
      exact iff_of_true ⟨ip4, same, item, member, given⟩ fun _ => .inl ⟨ip4, given⟩
  | kept parsed isURL dialled isName noIPv4 =>
      have givesNothing : ¬ ∃ ip4, Gives env (itemURL item) ip4 := by
        rintro ⟨ip4, gives⟩
        rw [gives_iff isURL, isName] at gives
        rcases gives with ⟨_, impossible, _⟩ | ⟨_, ips, answers, ip, answer, isIPv4⟩
        · contradiction
        · have missing := List.findSome?_eq_none_iff.mp (noIPv4 ips answers) ip answer
          rw [isIPv4] at missing
          contradiction
      rw [covered_of_url isURL]
      constructor
      · exact fun listed _ => .inr ⟨isName, listed⟩
      · exact fun covered => ((covered dialled).resolve_left givesNothing).2

/-- Once the addresses are pushed: every address that the resolver connects to is excluded if
and only if every item of the specification is covered and every redirect leads to an address
that some item gives. -/
theorem resolver_excluded_iff
    (pushed : pushExcludeIPs (platformConfig env cfg upstream) = some keys) :
    (∀ ip ∈ connections env upstream, ReturnsEarly keys ip) ↔
      (∀ item ∈ upstream.splitOn (byteOf ','), Covered env upstream item) ∧
        ∀ ip ∈ env.redirected, Listed env upstream ip := by
  simp only [returnsEarly_iff pushed]
  rw [forall_connections]
  apply and_congr_left
  intro _
  apply forall₂_congr
  intro item member
  exact covered_iff member (dials_newDoHClient (itemURL item) (trimSpace item))

/-! ### Two upstreams -/

/-- `url.Parse` on `scheme://host/path`. -/
def plainURL (text : GoString) : Option URL :=
  match text.splitOn (byteOf '/') with
  | scheme :: [] :: host :: _ => some ⟨scheme.dropLast, host⟩
  | _ => none

/-- Nothing is looked up, and no upstream redirects. -/
def offline : Surroundings := ⟨plainURL, fun _ => none, fun _ => [], []⟩

def webConfig : Config := ⟨40, 0, 600, [443], []⟩

/-- The default specification. -/
theorem cloudflare_excluded :
    connections offline (lit "cloudflare") = [⟨v4InV6Prefix ++ [1, 1, 1, 1], .inr rfl⟩] ∧
      ∀ ip ∈ connections offline (lit "cloudflare"),
        ReturnsEarly [excludeKey [1, 1, 1, 1]] ip := by
  have pushed : pushExcludeIPs (platformConfig offline webConfig (lit "cloudflare")) =
      some [excludeKey [1, 1, 1, 1]] := by
    decide +kernel
  have single : (lit "cloudflare").splitOn (byteOf ',') = [lit "cloudflare"] := by decide +kernel
  refine ⟨by decide +kernel, (resolver_excluded_iff pushed).mpr ?_⟩
  refine ⟨?_, fun ip missing => absurd missing List.not_mem_nil⟩
  rw [single]
  intro item member
  obtain rfl := List.mem_singleton.mp member
  intro parsed _ _
  have isURL : offline.parseURL (itemURL (lit "cloudflare")) =
      some ⟨lit "https", lit "1.1.1.1"⟩ := by
    decide +kernel
  have isLiteral : parseIP (URL.hostname ⟨lit "https", lit "1.1.1.1"⟩) =
      some ⟨v4InV6Prefix ++ [1, 1, 1, 1], .inr rfl⟩ := by
    decide +kernel
  exact .inl ⟨[1, 1, 1, 1], _, isURL, .inl ⟨_, isLiteral, rfl⟩⟩

/-- An upstream with an IPv6 literal. -/
def ipv6Upstream : GoString := lit "https://[2606:4700:4700::1111]/dns-query"

def ipv6Resolver : IPv6Address :=
  ⟨[0x26, 0x06, 0x47, 0x00, 0x47, 0x00, 0, 0, 0, 0, 0, 0, 0, 0, 0x11, 0x11], rfl⟩

def ipv6Conn : Connection := .ipv6 ⟨ipv6Resolver, ipv6Resolver, 51234, 443, 1000, 77⟩ 0 0

/-- The map is pushed, and stays empty: the connection of the resolver is not excluded, and the
program lowers its MSS and outputs an event. -/
theorem ipv6_upstream_touched :
    pushExcludeIPs (platformConfig offline webConfig ipv6Upstream) = some [] ∧
      ∃ ip ∈ connections offline ipv6Upstream, Reaches ipv6Conn ip ∧ ¬ ReturnsEarly [] ip ∧
        ∀ kernel : Kernel UInt64, kernel.excludeIps = [] → kernel.targetPorts = [443] →
          kernel.calls 7 = [] → kernel.sockets 7 = ⟨1460, 0⟩ →
            (handleEstablished id 7 (ipv6Conn.context .activeEstablishedCb 0)
              (platformConfig offline webConfig ipv6Upstream).pushConfig kernel).calls 7 =
                [.mss 40, .connEvent (ipv6Conn.context .activeEstablishedCb 0).connEvent,
                  .cbFlags 64] := by
  have dialled : connections offline ipv6Upstream = [⟨ipv6Resolver.val, .inr rfl⟩] := by
    decide +kernel
  have reaches : Reaches ipv6Conn ⟨ipv6Resolver.val, .inr rfl⟩ := ⟨by decide +kernel, rfl⟩
  refine ⟨by decide +kernel, _, ?_, reaches, ?_, ?_⟩
  · rw [dialled]
    exact List.mem_singleton_self _
  · intro early
    exact absurd (early ipv6Conn reaches) List.not_mem_nil
  · intro kernel noKeys web noCalls fresh
    have target : (ipv6Conn.context .activeEstablishedCb 0).dstPort ∈ kernel.targetPorts := by
      rw [web]
      decide +kernel
    have mss : ((UInt16.ofInt 40).toNat : Int) = 40 := rfl
    rw [handleEstablished, noKeys, if_neg List.not_mem_nil, if_neg (not_not_intro target)]
    simp [mss, noCalls, fresh, platformConfig, webConfig, Config.pushConfig, writeHdrOptCbFlag,
      Kernel.setsockopt, Kernel.perfEventOutput, Kernel.mapUpdateElem, Kernel.cbFlagsSet]

end Gecit.App
