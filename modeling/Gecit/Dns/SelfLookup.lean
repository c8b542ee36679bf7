import Gecit.Dns.DoH
import Gecit.Dns.SystemLinux
import Gecit.Foundation.Transition

/-!
Contract: a DNS server that is the nameserver of its own machine.

A client whose host is a name looks it up when it dials. Once `SetSystemDNS` has written its line,
that lookup is a query to gecit itself, which again tries its clients in order. Attempts may fail
or time out at any moment, and applications may ask at any moment.

Owns the queries that are open with the client each of them is at, and exactly when any query is
ever answered with a message. Does not own what is in a message, nor how long an attempt may take.
-/

namespace Gecit.Dns.Linux

open Gecit.Foundation
open Gecit.Go
open Gecit.Net
open Gecit.Rawsock

/-- What names stand for without gecit. -/
structure Network where
  parseURL : GoString → Option URL
  /-- `/etc/hosts` -/
  hosts : GoString → List Address
  /-- The answers behind these nameserver lines, while gecit does not listen. -/
  lookup : List GoString → GoString → Option (List Address)
  /-- Nothing else listens on the loopback address. -/
  lookup_loopback : ∀ name,
    lookup [loopbackLine] name = if hosts name = [] then none else some (hosts name)

/-- The clients are made with the file as it is found, and dial with the file that is written. -/
def Network.surroundings (net : Network) (content : GoString) : Surroundings where
  parseURL := net.parseURL
  lookup := net.lookup (nameserverLines content)
  dialLookup name := (net.lookup (nameserverLines (setContent content)) name).getD []
  redirected := []

/-! ### Queries -/

inductive Reply where
  | message
  | servfail
deriving DecidableEq

/-- Where a query is in the loop of `fallbackResolver`. -/
inductive Stage where
  | trying (client : Nat)
  /-- The client's name is looked up, by the query with this number. -/
  | waiting (client lookup : Nat)
  /-- An address is known, and the client is asked. -/
  | asking (client : Nat)
  | replied (reply : Reply)
deriving DecidableEq

structure Query where
  name : GoString
  stage : Stage
deriving DecidableEq

inductive Progress where
  | dial
  | resolved
  | answered
  /-- Status 200, with a body that does not unpack. -/
  | garbled
  /-- An error or a timeout of the attempt. -/
  | failed
deriving DecidableEq

inductive ServerAction where
  | ask (name : GoString)
  | progress (query : Nat) (progress : Progress)
deriving DecidableEq

section Step

variable (env : Surroundings) (clients : List DoHClient)

/-- The name that a client without an address looks up. -/
def lookedUp (client : DoHClient) : Option GoString :=
  client.upstream.bind fun url =>
    if url.Dialled ∧ parseIP url.hostname = none then some url.hostname else none

/-- The stage that follows, and the query that the lookup of a name becomes. -/
def Stage.next (queries : List Query) (stage : Stage) (progress : Progress) :
    Option (Stage × List Query) :=
  match stage, progress with
  | .trying i, .dial =>
      match clients[i]? with
      | none => some (.replied .servfail, [])
      | some client =>
          if client.dials env ≠ [] then some (.asking i, [])
          else match lookedUp client with
            | some host => some (.waiting i queries.length, [⟨host, .trying 0⟩])
            | none => some (.trying (i + 1), [])
  | .waiting i lookup, .resolved =>
      if queries[lookup]?.map Query.stage = some (.replied .message) then some (.asking i, [])
      else none
  | .waiting i _, .failed => some (.trying (i + 1), [])
  | .asking _, .answered => some (.replied .message, [])
  | .asking _, .garbled => some (.replied .servfail, [])
  | .asking i, .failed => some (.trying (i + 1), [])
  | _, _ => none

/-- `handleQuery` for all open queries, one step of one of them at a time. -/
def serverStep (queries : List Query) : ServerAction → Option (List Query)
  | .ask name => some (queries ++ [⟨name, .trying 0⟩])
  | .progress n progress =>
      queries[n]?.bind fun query =>
        (query.stage.next env clients queries progress).map fun (stage, lookups) =>
          queries.set n { query with stage } ++ lookups

end Step

/-- In some run of the server a query is answered with a message. -/
def Answers (net : Network) (content upstreams : GoString) : Prop :=
  let env := net.surroundings content
  ∃ schedule queries, run (serverStep env (newResolver env upstreams)) [] schedule = some queries ∧
    ∃ query ∈ queries, query.stage = .replied .message

/-! ### Without an address -/

section Runs

variable {env : Surroundings} {clients : List DoHClient} {queries next : List Query}

/-- No client is asked for the query, and none has answered it. -/
def Stage.Unheard : Stage → Prop
  | .trying _ | .waiting _ _ | .replied .servfail => True
  | .asking _ | .replied .message => False

theorem Stage.next_unheard {stage after : Stage} {progress : Progress} {lookups : List Query}
    (silent : ∀ client ∈ clients, client.dials env = []) (unheard : stage.Unheard)
    (others : ∀ query ∈ queries, query.stage.Unheard)
    (taken : stage.next env clients queries progress = some (after, lookups)) :
    after.Unheard ∧ ∀ query ∈ lookups, query.stage.Unheard := by
  have started : ∀ host, ∀ query ∈ [Query.mk host (.trying 0)], query.stage.Unheard := by
    intro host query member
    obtain rfl := List.mem_singleton.mp member
    trivial
  unfold Stage.next at taken
  split at taken
  next i =>
    split at taken
    next =>
      obtain ⟨rfl, rfl⟩ := Prod.mk.inj (Option.some.inj taken)
      exact ⟨trivial, nofun⟩
    next client found =>
      rw [if_neg (not_not.mpr (silent client (List.mem_of_getElem? found)))] at taken
      split at taken
      next host _ =>
        obtain ⟨rfl, rfl⟩ := Prod.mk.inj (Option.some.inj taken)
        exact ⟨trivial, started host⟩
      next =>
        obtain ⟨rfl, rfl⟩ := Prod.mk.inj (Option.some.inj taken)
        exact ⟨trivial, nofun⟩
  next i lookup =>
    obtain ⟨replied, _⟩ := guarded_eq_some taken
    obtain ⟨query, found, isMessage⟩ := Option.map_eq_some_iff.mp replied
    have heard := others query (List.mem_of_getElem? found)
    rw [isMessage] at heard
    exact heard.elim
  next =>
    obtain ⟨rfl, rfl⟩ := Prod.mk.inj (Option.some.inj taken)
    exact ⟨trivial, nofun⟩
  next => exact unheard.elim
  next => exact unheard.elim
  next => exact unheard.elim
  next => contradiction

theorem serverStep_unheard {action : ServerAction}
    (silent : ∀ client ∈ clients, client.dials env = [])
    (unheard : ∀ query ∈ queries, query.stage.Unheard)
    (stepped : serverStep env clients queries action = some next) :
    ∀ query ∈ next, query.stage.Unheard := by
  intro query member
  cases action with
  | ask name =>
      obtain rfl := Option.some.inj stepped
      rcases List.mem_append.mp member with before | asked
      · exact unheard query before
      · obtain rfl := List.mem_singleton.mp asked
        trivial
  | progress n progress =>
      obtain ⟨current, found, advanced⟩ := Option.bind_eq_some_iff.mp stepped
      obtain ⟨⟨after, lookups⟩, taken, rfl⟩ := Option.map_eq_some_iff.mp advanced
      have now := unheard current (List.mem_of_getElem? found)
      obtain ⟨unheardAfter, unheardLookups⟩ := Stage.next_unheard silent now unheard taken
      rcases List.mem_append.mp member with kept | lookedUp
      · rcases List.mem_or_eq_of_mem_set kept with before | rfl
        · exact unheard query before
        · exact unheardAfter
      · exact unheardLookups query lookedUp

/-! ### With an address -/

/-- Some schedule brings a query to such a stage. -/
def Reaches (env : Surroundings) (clients : List DoHClient) (queries : List Query) (n : Nat)
    (stages : Stage → Prop) : Prop :=
  ∃ schedule final query, run (serverStep env clients) queries schedule = some final ∧
    final[n]? = some query ∧ stages query.stage

theorem Reaches.step {n : Nat} {start : List Query} {stages after : Stage → Prop}
    (reaches : Reaches env clients start n stages) (progress : Progress)
    (goesOn : ∀ queries stage, stages stage → ∃ next lookups,
      stage.next env clients queries progress = some (next, lookups) ∧ after next) :
    Reaches env clients start n after := by
  obtain ⟨schedule, middle, query, reached, found, here⟩ := reaches
  obtain ⟨next, lookups, taken, there⟩ := goesOn middle query.stage here
  have inside : n < middle.length := (List.getElem?_eq_some_iff.mp found).1
  refine ⟨schedule ++ [.progress n progress],
    middle.set n { query with stage := next } ++ lookups, { query with stage := next }, ?_, ?_, there⟩
  · rw [run_concat, reached, Option.bind_some, serverStep, found, Option.bind_some, taken]
    rfl
  · rw [List.getElem?_append_left (by rwa [List.length_set]), List.getElem?_set_self inside]

/-- A client that is dialled is asked, waited for or passed over. -/
theorem next_dial {i : Nat} (inside : i < clients.length) (queries : List Query) :
    ∃ next lookups, (Stage.trying i).next env clients queries .dial = some (next, lookups) ∧
      ((clients[i].dials env ≠ [] ∧ next = .asking i) ∨ (∃ lookup, next = .waiting i lookup) ∨
        next = .trying (i + 1)) := by
  have found : clients[i]? = some clients[i] := List.getElem?_eq_getElem inside
  unfold Stage.next
  dsimp only
  rw [found]
  dsimp only
  by_cases address : clients[i].dials env = []
  · rw [if_neg (not_not.mpr address)]
    cases lookedUp clients[i] with
    | none => exact ⟨_, _, rfl, .inr (.inr rfl)⟩
    | some host => exact ⟨_, _, rfl, .inr (.inl ⟨_, rfl⟩)⟩
  · rw [if_pos address]
    exact ⟨_, _, rfl, .inl ⟨address, rfl⟩⟩

/-- An attempt may always fail. -/
theorem reaches_trying {n : Nat} {start : List Query}
    (asked : start[n]?.map Query.stage = some (.trying 0)) (i : Nat)
    (inside : i ≤ clients.length) : Reaches env clients start n (· = .trying i) := by
  induction i with
  | zero =>
      obtain ⟨query, found, same⟩ := Option.map_eq_some_iff.mp asked
      exact ⟨[], start, query, rfl, found, same⟩
  | succ i inductionHypothesis =>
      have before := inductionHypothesis (by omega)
      have dialled : Reaches env clients start n fun stage =>
          stage = .trying (i + 1) ∨ stage = .asking i ∨ ∃ lookup, stage = .waiting i lookup := by
        apply before.step .dial
        intro queries stage same
        obtain ⟨next, lookups, taken, either⟩ := @next_dial env clients i (by omega) queries
        refine ⟨next, lookups, same ▸ taken, ?_⟩
        rcases either with asked | waits | passed
        · exact .inr (.inl asked.2)
        · exact .inr (.inr waits)
        · exact .inl passed
      obtain ⟨schedule, final, query, reached, found, either⟩ := dialled
      by_cases passed : query.stage = .trying (i + 1)
      · exact ⟨schedule, final, query, reached, found, passed⟩
      · have waiting : Reaches env clients start n fun stage =>
            stage = .asking i ∨ ∃ lookup, stage = .waiting i lookup :=
          ⟨schedule, final, query, reached, found, either.resolve_left passed⟩
        apply waiting.step .failed
        intro queries stage open_
        rcases open_ with rfl | ⟨lookup, rfl⟩
        · exact ⟨_, _, rfl, rfl⟩
        · exact ⟨_, _, rfl, rfl⟩

/-- Every query can be answered by a client with an address. -/
theorem reaches_message {n i : Nat} {start : List Query}
    (asked : start[n]?.map Query.stage = some (.trying 0)) (inside : i < clients.length)
    (address : clients[i].dials env ≠ []) :
    Reaches env clients start n (· = .replied .message) := by
  have asking : Reaches env clients start n (· = .asking i) := by
    apply (reaches_trying asked i (by omega)).step .dial
    intro queries stage same
    have found : clients[i]? = some clients[i] := List.getElem?_eq_getElem inside
    refine ⟨.asking i, [], ?_, rfl⟩
    rw [same, Stage.next, found]
    exact if_pos address
  apply asking.step .answered
  intro queries stage same
  refine ⟨.replied .message, [], ?_, rfl⟩
  rw [same]
  rfl

/-- Some query can be answered if and only if some client has an address. -/
theorem message_reachable_iff :
    (∃ schedule queries, run (serverStep env clients) [] schedule = some queries ∧
      ∃ query ∈ queries, query.stage = .replied .message) ↔
      ∃ client ∈ clients, client.dials env ≠ [] := by
  constructor
  · intro answered
    obtain ⟨schedule, queries, reached, query, member, isMessage⟩ := answered
    by_contra noAddress
    have silent : ∀ client ∈ clients, client.dials env = [] := by
      intro client isClient
      by_contra address
      exact noAddress ⟨client, isClient, address⟩
    have unheard : ∀ query ∈ queries, query.stage.Unheard :=
      run_invariant (fun _ _ _ before stepped => serverStep_unheard silent before stepped)
        (fun _ member => absurd member List.not_mem_nil) reached
    have heard := unheard query member
    rw [isMessage] at heard
    exact heard
  · intro address
    obtain ⟨client, isClient, dials⟩ := address
    obtain ⟨i, inside, rfl⟩ := List.mem_iff_getElem.mp isClient
    have asked : [Query.mk [] (.trying 0)][0]?.map Query.stage = some (.trying 0) := rfl
    obtain ⟨schedule, final, query, reached, found, isMessage⟩ := reaches_message asked inside dials
    exact ⟨.ask [] :: schedule, final, reached, query, List.mem_of_getElem? found, isMessage⟩

end Runs

/-! ### The upstreams of a machine -/

section Upstreams

variable {net : Network} {content : GoString}

/-- Where a name is answered without gecit: an address in its place, the machine's own table, or
an IPv4 address from the nameservers that are in force while the clients are made. -/
def Known (net : Network) (content host : GoString) : Prop :=
  parseIP host ≠ none ∨ net.hosts host ≠ [] ∨
    ∃ ips, (net.surroundings content).lookupIP host = some ips ∧
      ips.findSome? (fun ip => to4 ip.val) ≠ none

/-- The URL is dialled, and its host is known. -/
def KnownUpstream (net : Network) (content u : GoString) : Prop :=
  ∃ parsed, net.parseURL u = some parsed ∧ parsed.Dialled ∧ Known net content parsed.hostname

/-- While gecit is the only nameserver, nothing else answers but the machine's own table. -/
theorem dialLookup_surroundings (name : GoString) :
    (net.surroundings content).dialLookup name = net.hosts name := by
  unfold Network.surroundings
  dsimp only
  rw [nameserverLines_setContent, net.lookup_loopback]
  split
  next empty => exact empty.symm
  next => rfl

theorem knownUpstream_iff {u : GoString} {parsed : URL}
    (isURL : (net.surroundings content).parseURL u = some parsed) :
    KnownUpstream net content u ↔ parsed.Dialled ∧ Known net content parsed.hostname := by
  constructor
  · intro known
    obtain ⟨other, isOther, dialled, isKnown⟩ := known
    obtain rfl := Option.some.inj (isOther.symm.trans isURL)
    exact ⟨dialled, isKnown⟩
  · exact fun known => ⟨parsed, isURL, known⟩

theorem dials_ne_nil_iff (u name : GoString) :
    (newDoHClient (net.surroundings content) u name).dials (net.surroundings content) ≠ [] ↔
      KnownUpstream net content u := by
  have dials := @dials_newDoHClient (net.surroundings content) u name
  generalize DoHClient.dials _ _ = ips at dials ⊢
  cases dials with
  | unparsed noURL =>
      apply iff_of_false (not_not.mpr rfl)
      intro known
      obtain ⟨parsed, isURL, _⟩ := known
      exact absurd (isURL.symm.trans noURL) (Option.some_ne_none parsed)
  | idle parsed isURL notDialled =>
      rw [knownUpstream_iff isURL]
      exact iff_of_false (not_not.mpr rfl) fun known => notDialled known.1
  | literal parsed isURL dialled ip isLiteral =>
      rw [knownUpstream_iff isURL]
      refine iff_of_true (List.cons_ne_nil _ _) ⟨dialled, .inl ?_⟩
      rw [isLiteral]
      exact Option.some_ne_none ip
  | resolved parsed isURL dialled isName ips answers ip4 first ip same =>
      rw [knownUpstream_iff isURL]
      refine iff_of_true (List.cons_ne_nil _ _) ⟨dialled, .inr (.inr ⟨ips, answers, ?_⟩)⟩
      rw [first]
      exact Option.some_ne_none ip4
  | kept parsed isURL dialled isName noIPv4 =>
      rw [knownUpstream_iff isURL, dialLookup_surroundings]
      constructor
      · exact fun inTable => ⟨dialled, .inr (.inl inTable)⟩
      · intro known
        rcases known.2 with isLiteral | inTable | ⟨ips, answers, someIPv4⟩
        · exact absurd isName isLiteral
        · exact inTable
        · exact absurd (noIPv4 ips answers) someIPv4

/-- In the file that a crashed run left, only the machine's own table resolves names. -/
theorem known_setContent_iff {orig host : GoString} :
    Known net (setContent orig) host ↔ parseIP host ≠ none ∨ net.hosts host ≠ [] := by
  constructor
  · intro known
    rcases known with isLiteral | inTable | ⟨ips, answers, someIPv4⟩
    · exact .inl isLiteral
    · exact .inr inTable
    · right
      intro empty
      unfold Surroundings.lookupIP Network.surroundings at answers
      dsimp only at answers
      rw [nameserverLines_setContent, net.lookup_loopback, if_pos empty, ite_self] at answers
      contradiction
  · exact fun known => known.imp_right Or.inl

/-- An upstream of the specification that is known. -/
theorem answers_iff_known (upstreams : GoString) : Answers net content upstreams ↔
    ∃ item ∈ upstreams.splitOn (byteOf ','), KnownUpstream net content (itemURL item) := by
  unfold Answers
  dsimp only
  rw [message_reachable_iff, newResolver_eq]
  simp only [List.mem_map, exists_exists_and_eq_and, dials_ne_nil_iff]

end Upstreams

end Gecit.Dns.Linux
