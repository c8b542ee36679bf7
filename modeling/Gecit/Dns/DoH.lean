import Gecit.Net.Address

/-!
Contract: the DoH clients of a resolver, and the addresses they connect to.

Each upstream is a preset name or a URL. A client whose host is a name resolves it once, when
it is made, and keeps the name if no IPv4 address is found; names that are kept are resolved
when they are dialled.

Owns the presets, the clients and what they dial. Does not own URL parsing, the answers of
name lookups, or DNS messages.
-/

namespace Gecit.Dns

open Gecit.Go
open Gecit.Net
open Gecit.Rawsock

/-- What a parsed URL says about where a request goes. -/
structure URL where
  Scheme : GoString
  /-- A host, or a host with a port. -/
  Host : GoString
deriving DecidableEq

def URL.hostname (url : URL) : GoString := (splitHostPort url.Host).1

def URL.port (url : URL) : GoString := (splitHostPort url.Host).2

/-- What the program is run with. -/
structure Surroundings where
  /-- `url.Parse` -/
  parseURL : GoString → Option URL
  /-- The answers of name lookups while the program starts. -/
  lookup : GoString → Option (List Address)
  /-- The addresses that a name has when it is dialled. -/
  dialLookup : GoString → List Address
  /-- The addresses that redirects of the upstreams lead to. -/
  redirected : List Address

/-- `net.LookupIP`: the empty name is no such host. -/
def Surroundings.lookupIP (env : Surroundings) (host : GoString) : Option (List Address) :=
  if host = [] then none else env.lookup host

def presets : List (GoString × GoString) :=
  [(lit "cloudflare", lit "https://1.1.1.1/dns-query"),
    (lit "google", lit "https://8.8.8.8/dns-query"),
    (lit "quad9", lit "https://9.9.9.9:5053/dns-query"),
    (lit "nextdns", lit "https://dns.nextdns.io/dns-query"),
    (lit "adguard", lit "https://dns.adguard-dns.com/dns-query")]

structure DoHClient where
  name : GoString
  /-- What `http.NewRequest` parses from the upstream; `none` when it does not parse. -/
  upstream : Option URL
deriving DecidableEq

variable (env : Surroundings)

def newDoHClient (upstream name : GoString) : DoHClient :=
  match env.parseURL upstream with
  | none => ⟨name, none⟩
  | some parsed =>
      let host := parsed.hostname
      match parseIP host with
      | some _ => ⟨name, some parsed⟩
      | none =>
          match env.lookupIP host with
          | none => ⟨name, some parsed⟩
          | some ips =>
              match ips.findSome? fun ip => to4 ip.val with
              | none => ⟨name, some parsed⟩
              | some ip4 =>
                  let port := if parsed.port = [] then lit "443" else parsed.port
                  ⟨name, some { parsed with Host := joinHostPort (ipv4String ip4) port }⟩

/-- The transport sends requests over HTTP to a host. -/
def URL.Dialled (url : URL) : Prop :=
  (url.Scheme = lit "http" ∨ url.Scheme = lit "https") ∧ url.Host ≠ []

instance (url : URL) : Decidable url.Dialled :=
  inferInstanceAs (Decidable ((url.Scheme = lit "http" ∨ url.Scheme = lit "https") ∧ url.Host ≠ []))

/-- The addresses that a request may connect to. -/
def DoHClient.dials (client : DoHClient) : List Address :=
  match client.upstream with
  | none => []
  | some url =>
      if url.Dialled then
        match parseIP url.hostname with
        | some ip => [ip]
        | none => env.dialLookup url.hostname
      else []

/-- The clients in the order in which they are tried. -/
def newResolver (upstreams : GoString) : List DoHClient :=
  (upstreams.splitOn (byteOf ',')).map fun u =>
    let u := trimSpace u
    match presets.lookup u with
    | some url => newDoHClient env url u
    | none => newDoHClient env u u

/-- Every address that the resolver may connect to. -/
def connections (upstreams : GoString) : List Address :=
  (newResolver env upstreams).flatMap (DoHClient.dials env) ++ env.redirected

/-! ### What a client dials -/

/-- What the client of an upstream dials. -/
inductive Dials (u : GoString) : List Address → Prop where
  | unparsed (noURL : env.parseURL u = none) : Dials u []
  | idle (parsed : URL) (isURL : env.parseURL u = some parsed) (notDialled : ¬ parsed.Dialled) :
      Dials u []
  | literal (parsed : URL) (isURL : env.parseURL u = some parsed) (dialled : parsed.Dialled)
      (ip : Address) (isLiteral : parseIP parsed.hostname = some ip) : Dials u [ip]
  /-- A name that was resolved when the client was made. -/
  | resolved (parsed : URL) (isURL : env.parseURL u = some parsed) (dialled : parsed.Dialled)
      (isName : parseIP parsed.hostname = none) (ips : List Address)
      (answers : env.lookupIP parsed.hostname = some ips) (ip4 : IP)
      (first : ips.findSome? (fun ip => to4 ip.val) = some ip4) (ip : Address)
      (same : to4 ip.val = some ip4) : Dials u [ip]
  | kept (parsed : URL) (isURL : env.parseURL u = some parsed) (dialled : parsed.Dialled)
      (isName : parseIP parsed.hostname = none)
      (noIPv4 : ∀ ips, env.lookupIP parsed.hostname = some ips →
        ips.findSome? (fun ip => to4 ip.val) = none) : Dials u (env.dialLookup parsed.hostname)

variable {env} {u : GoString}

/-- A URL that goes to its host unchanged. -/
theorem dials_parsed {parsed : URL} (name : GoString) (isURL : env.parseURL u = some parsed)
    (literalOrKept : parseIP parsed.hostname = none → ∀ ips,
      env.lookupIP parsed.hostname = some ips → ips.findSome? (fun ip => to4 ip.val) = none) :
    Dials env u (DoHClient.dials env ⟨name, some parsed⟩) := by
  rw [DoHClient.dials]
  dsimp only
  split
  next dialled =>
    cases host : parseIP parsed.hostname with
    | some ip => exact .literal parsed isURL dialled ip host
    | none => exact .kept parsed isURL dialled host (literalOrKept host)
  next notDialled => exact .idle parsed isURL notDialled

theorem host_ne_nil {parsed : URL} {ips : List Address}
    (answers : env.lookupIP parsed.hostname = some ips) : parsed.Host ≠ [] := by
  intro empty
  have noName : parsed.hostname = [] := by
    rw [URL.hostname, empty]
    rfl
  rw [Surroundings.lookupIP, if_pos noName] at answers
  contradiction

/-- A URL whose host was replaced by its first IPv4 address. -/
theorem dials_replaced {parsed : URL} (name : GoString) (isURL : env.parseURL u = some parsed)
    (isName : parseIP parsed.hostname = none) {ips : List Address}
    (answers : env.lookupIP parsed.hostname = some ips) {ip4 : IP}
    (first : ips.findSome? (fun ip => to4 ip.val) = some ip4) {port : GoString}
    (digits : port.all isDigit = true) :
    Dials env u (DoHClient.dials env
      ⟨name, some { parsed with Host := joinHostPort (ipv4String ip4) port }⟩) := by
  obtain ⟨listed, _, isIPv4⟩ := List.exists_of_findSome?_eq_some first
  have four := to4_length isIPv4
  obtain ⟨ip, readBack, same⟩ := parseIP_ipv4String four
  have host : (splitHostPort (joinHostPort (ipv4String ip4) port)).1 = ipv4String ip4 := by
    rw [splitHostPort_joinHostPort four digits]
  rw [DoHClient.dials]
  dsimp only
  split
  next dialled =>
    have dialledBefore : parsed.Dialled := ⟨dialled.1, host_ne_nil answers⟩
    rw [URL.hostname, host, readBack]
    exact .resolved parsed isURL dialledBefore isName ips answers ip4 first ip same
  next notDialled =>
    apply Dials.idle parsed isURL
    rintro ⟨scheme, _⟩
    apply notDialled
    refine ⟨scheme, ?_⟩
    intro empty
    have noText := congrArg List.length (empty : joinHostPort (ipv4String ip4) port = [])
    rw [joinHostPort] at noText
    split at noText
    all_goals
      simp only [List.length_append, List.length_cons, List.length_nil] at noText
      omega

theorem dials_newDoHClient (u name : GoString) :
    Dials env u ((newDoHClient env u name).dials env) := by
  rw [newDoHClient]
  split
  next noURL => exact .unparsed noURL
  next parsed isURL =>
    dsimp only
    split
    next ip isLiteral =>
      apply dials_parsed name isURL
      intro isName
      rw [isLiteral] at isName
      contradiction
    next isName =>
      split
      next noAnswers =>
        apply dials_parsed name isURL
        intro _ ips answers
        rw [noAnswers] at answers
        contradiction
      next ips answers =>
        split
        next noIPv4 =>
          apply dials_parsed name isURL
          intro _ others same
          rw [answers] at same
          obtain rfl := Option.some.inj same
          exact noIPv4
        next ip4 first =>
          apply dials_replaced name isURL isName answers first
          split
          · decide
          · exact isDigit_port parsed.Host

/-! ### The upstreams of a specification -/

/-- The URL of one item: a preset's, or the item itself. -/
def itemURL (item : GoString) : GoString := (presets.lookup (trimSpace item)).getD (trimSpace item)

theorem newResolver_eq (upstreams : GoString) : newResolver env upstreams =
    (upstreams.splitOn (byteOf ',')).map fun item =>
      newDoHClient env (itemURL item) (trimSpace item) := by
  rw [newResolver]
  apply List.map_congr_left
  intro item _
  dsimp only
  rw [itemURL]
  split
  next url found =>
    rw [found]
    rfl
  next missing =>
    rw [missing]
    rfl

theorem forall_connections {upstreams : GoString} {Property : Address → Prop} :
    (∀ ip ∈ connections env upstreams, Property ip) ↔
      (∀ item ∈ upstreams.splitOn (byteOf ','),
        ∀ ip ∈ (newDoHClient env (itemURL item) (trimSpace item)).dials env, Property ip) ∧
        ∀ ip ∈ env.redirected, Property ip := by
  rw [connections, newResolver_eq]
  simp only [List.mem_append, List.mem_flatMap, List.mem_map]
  constructor
  · intro all
    refine ⟨?_, fun ip there => all ip (.inr there)⟩
    intro item member ip there
    exact all ip (.inl ⟨_, ⟨item, member, rfl⟩, there⟩)
  · rintro ⟨ofItems, ofRedirects⟩ ip (⟨_, ⟨item, member, rfl⟩, there⟩ | there)
    · exact ofItems item member ip there
    · exact ofRedirects ip there

end Gecit.Dns
