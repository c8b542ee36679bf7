import Mathlib.Logic.Function.Basic
import Gecit.Dns.DoH

/-!
Contract: a query on its way through the DNS server.

The server packs the query, asks the upstreams in order until one returns status 200, unpacks
that body and replies with it. An upstream is passed over for an error or for another status,
and not for a body that is no message.

Owns what is asked of an upstream, the reply, and the queue of domains by address. Does not
own packing and unpacking, or the order of several queries.
-/

namespace Gecit.Dns

open Gecit.Go
open Gecit.Foundation
open Gecit.Net
open Gecit.Rawsock

/-! ### Messages -/

structure Question where
  Name : GoString
  Qtype : UInt16
deriving DecidableEq

def typeA : UInt16 := 1

def typeAAAA : UInt16 := 28

inductive RR where
  | a (A : IP)
  | aaaa (AAAA : IP)
  | other
deriving DecidableEq

/-- A message; `rest` is what the server does not look at. -/
structure Msg (Rest : Type) where
  Id : UInt16
  Question : List Question
  Answer : List RR
  rest : Rest
deriving DecidableEq

def rcodeServerFailure : Nat := 2

/-- The DNS package that the server is built on. -/
structure Library where
  Rest : Type
  pack : Msg Rest → Option Bytes
  unpack : Bytes → Option (Msg Rest)
  /-- `new(dns.Msg).SetRcode(request, rcode)` -/
  setRcode : Msg Rest → Nat → Msg Rest
  /-- What is unpacked is well formed, with any id. -/
  unpack_pack : ∀ data msg, unpack data = some msg → ∀ id, (pack { msg with Id := id }).isSome
  unpack_nil : unpack [] = none
  setRcode_id : ∀ request rcode, (setRcode request rcode).Id = request.Id
  setRcode_pack : ∀ request, (pack request).isSome →
    (pack (setRcode request rcodeServerFailure)).isSome

/-! ### Upstreams -/

/-- What an upstream does with one request. -/
inductive Outcome where
  | failed
  /-- A status, and the body unless reading it failed. -/
  | response (statusCode : Nat) (body : Option Bytes)
deriving DecidableEq

def statusOK : Nat := 200

/-- A client, and what its upstream does with a query. -/
structure Upstream where
  client : DoHClient
  respond : Bytes → Outcome

inductive ResolveError where
  | createRequest
  | request
  | status (statusCode : Nat)
  | body
deriving DecidableEq

structure ResolveResult where
  Data : Bytes
  Via : GoString
deriving DecidableEq

/-- `DoHClient.Resolve` -/
def Upstream.resolve (upstream : Upstream) (query : Bytes) : Except ResolveError ResolveResult :=
  match upstream.client.upstream with
  | none => .error .createRequest
  | some _ =>
      match upstream.respond query with
      | .failed => .error .request
      | .response statusCode body =>
          if statusCode ≠ statusOK then .error (.status statusCode)
          else
            match body with
            | none => .error .body
            | some data => .ok ⟨data, upstream.client.name⟩

/-- `fallbackResolver.Resolve`; without clients no error is left to return. -/
def fallbackResolve (query : Bytes) :
    Option ResolveError → List Upstream → Except ResolveError ResolveResult
  | none, [] => .ok ⟨[], []⟩
  | some lastErr, [] => .error lastErr
  | _, client :: clients =>
      match client.resolve query with
      | .ok result => .ok result
      | .error err => fallbackResolve query (some err) clients

/-- The resolver of these upstreams: a single one is used as it is. -/
def resolve (upstreams : List Upstream) (query : Bytes) : Except ResolveError ResolveResult :=
  match upstreams with
  | [upstream] => upstream.resolve query
  | _ => fallbackResolve query none upstreams

/-! ### The queue of domains by address -/

abbrev IpQueue := GoString → Option (List GoString)

/-- `s.ipQueue[ip]` -/
def IpQueue.at (queue : IpQueue) (ip : GoString) : List GoString := (queue ip).getD []

/-- The domain, and the queue without it. -/
def popDomain (ip : GoString) (queue : IpQueue) : GoString × IpQueue :=
  match queue.at ip with
  | [] => ([], queue)
  | [domain] => (domain, Function.update queue ip none)
  | domain :: rest => (domain, Function.update queue ip (some rest))

/-- `s.ipQueue[ip] = append(s.ipQueue[ip], domain)` -/
def push (domain : GoString) (queue : IpQueue) (ip : GoString) : IpQueue :=
  Function.update queue ip (some (queue.at ip ++ [domain]))

/-- The addresses of an answer. -/
def answerIPs (answer : List RR) : List GoString :=
  answer.flatMap fun
    | .a A => [ipString A]
    | .aaaa AAAA => [ipString AAAA]
    | .other => []

variable (lib : Library)

/-- What the reply to the query `r` adds to the queue: a domain, and for which addresses. -/
def queued {Rest : Type} (r resp : Msg Rest) : GoString × List GoString :=
  match r.Question with
  | [] => ([], [])
  | q :: _ =>
      if resp.Answer ≠ [] ∧ (q.Qtype = typeA ∨ q.Qtype = typeAAAA) then
        (trimSuffix q.Name (lit "."), answerIPs resp.Answer)
      else ([], [])

/-- The critical section of `handleQuery`. -/
def pushQueued {Rest : Type} (r resp : Msg Rest) (queue : IpQueue) : IpQueue :=
  (queued r resp).2.foldl (push (queued r resp).1) queue

/-! ### The server -/

structure Handled where
  /-- What `WriteMsg` sends. -/
  replies : List (Msg lib.Rest)
  ipQueue : IpQueue

/-- `WriteMsg` sends what packs. -/
def writeMsg (resp : Msg lib.Rest) : List (Msg lib.Rest) :=
  if (lib.pack resp).isSome then [resp] else []

def sendError (r : Msg lib.Rest) (rcode : Nat) : List (Msg lib.Rest) :=
  writeMsg lib (lib.setRcode r rcode)

def handleQuery (upstreams : List Upstream) (r : Msg lib.Rest) (ipQueue : IpQueue) : Handled lib :=
  match lib.pack r with
  | none => ⟨sendError lib r rcodeServerFailure, ipQueue⟩
  | some queryBytes =>
      match resolve upstreams queryBytes with
      | .error _ => ⟨sendError lib r rcodeServerFailure, ipQueue⟩
      | .ok result =>
          match lib.unpack result.Data with
          | none => ⟨sendError lib r rcodeServerFailure, ipQueue⟩
          | some message =>
              let resp := { message with Id := r.Id }
              ⟨writeMsg lib resp, pushQueued r resp ipQueue⟩

/-! ### What a fallback owes -/

/-- The body that an upstream returns with status 200. -/
def Upstream.body (upstream : Upstream) (query : Bytes) : Option Bytes :=
  match upstream.client.upstream, upstream.respond query with
  | some _, .response statusCode body => if statusCode = statusOK then body else none
  | _, _ => none

/-- The message in that body. -/
def Upstream.message (upstream : Upstream) (query : Bytes) : Option (Msg lib.Rest) :=
  (upstream.body query).bind lib.unpack

/-- The message of the first upstream that has one. -/
def firstMessage (upstreams : List Upstream) (query : Bytes) : Option (Msg lib.Rest) :=
  upstreams.findSome? fun upstream => upstream.message lib query

/-- The body of the first upstream that returns status 200. -/
def firstBody (upstreams : List Upstream) (query : Bytes) : Option Bytes :=
  upstreams.findSome? fun upstream => upstream.body query

/-- The SERVFAIL reply to a query. -/
def servfail (r : Msg lib.Rest) : Msg lib.Rest := lib.setRcode r rcodeServerFailure

/-- One reply with the query's id: the message of the first upstream that has one, and
otherwise SERVFAIL with the queue unchanged. -/
def Answered (upstreams : List Upstream) (r : Msg lib.Rest) (query : Bytes) (ipQueue : IpQueue) :
    Prop :=
  ∃ reply, (handleQuery lib upstreams r ipQueue).replies = [reply] ∧ reply.Id = r.Id ∧
    match firstMessage lib upstreams query with
    | some message => reply = { message with Id := r.Id }
    | none => reply = servfail lib r ∧ (handleQuery lib upstreams r ipQueue).ipQueue = ipQueue

/-! ### The resolver -/

variable {lib} {upstreams : List Upstream} {query : Bytes}

theorem Upstream.resolve_ok {upstream : Upstream} {result : ResolveResult}
    (resolved : upstream.resolve query = .ok result) : upstream.body query = some result.Data := by
  unfold Upstream.resolve at resolved
  unfold Upstream.body
  split at resolved
  next => contradiction
  next url isURL =>
    rw [isURL]
    split at resolved
    next => contradiction
    next statusCode body responds =>
      rw [responds]
      split at resolved
      next => contradiction
      next ok =>
        split at resolved
        next => contradiction
        next data =>
          cases resolved
          exact if_pos (not_not.mp ok)

theorem Upstream.resolve_error {upstream : Upstream} {err : ResolveError}
    (failed : upstream.resolve query = .error err) : upstream.body query = none := by
  unfold Upstream.resolve at failed
  unfold Upstream.body
  split at failed
  next noURL => rw [noURL]
  next url isURL =>
    rw [isURL]
    split at failed
    next failure => rw [failure]
    next statusCode body responds =>
      rw [responds]
      split at failed
      next other => exact if_neg other
      next ok =>
        split at failed
        next => exact ite_self none
        next => contradiction

theorem firstBody_cons (upstream : Upstream) (rest : List Upstream) :
    firstBody (upstream :: rest) query = (upstream.body query).or (firstBody rest query) := by
  unfold firstBody
  rw [List.findSome?_cons]
  cases upstream.body query <;> rfl

/-- The fallback returns the first body, and otherwise nothing that unpacks. -/
theorem fallbackResolve_eq (lastErr : Option ResolveError) :
    match firstBody upstreams query with
    | some data => ∃ via, fallbackResolve query lastErr upstreams = .ok ⟨data, via⟩
    | none => ∀ result, fallbackResolve query lastErr upstreams = .ok result → result.Data = [] := by
  induction upstreams generalizing lastErr with
  | nil =>
      intro result resolved
      cases lastErr with
      | none =>
          cases resolved
          rfl
      | some err => contradiction
  | cons upstream rest inductionHypothesis =>
      have unfolded : fallbackResolve query lastErr (upstream :: rest) =
          match upstream.resolve query with
          | .ok result => .ok result
          | .error err => fallbackResolve query (some err) rest := by
        cases lastErr <;> rfl
      rw [unfolded, firstBody_cons]
      cases resolved : upstream.resolve query with
      | ok result =>
          rw [Upstream.resolve_ok resolved]
          exact ⟨result.Via, rfl⟩
      | error err =>
          rw [Upstream.resolve_error resolved, Option.none_or]
          exact inductionHypothesis (some err)

theorem resolve_eq (upstreams : List Upstream) (query : Bytes) :
    resolve upstreams query = fallbackResolve query none upstreams := by
  unfold resolve
  split
  next upstream =>
    rw [fallbackResolve]
    cases upstream.resolve query <;> rfl
  next => rfl

/-- What becomes of a query: the first body decides. -/
theorem handleQuery_eq {r : Msg lib.Rest} (packed : lib.pack r = some query) (ipQueue : IpQueue) :
    handleQuery lib upstreams r ipQueue =
      match (firstBody upstreams query).bind lib.unpack with
      | some message =>
          ⟨[{ message with Id := r.Id }], pushQueued r { message with Id := r.Id } ipQueue⟩
      | none => ⟨[servfail lib r], ipQueue⟩ := by
  have refused : sendError lib r rcodeServerFailure = [servfail lib r] := by
    apply if_pos
    apply lib.setRcode_pack
    rw [packed]
    rfl
  have resolved := @fallbackResolve_eq upstreams query none
  rw [← resolve_eq] at resolved
  unfold handleQuery
  rw [packed]
  dsimp only
  cases first : firstBody upstreams query with
  | none =>
      rw [first] at resolved
      split
      next => rw [refused, Option.bind_none]
      next result ok =>
        rw [resolved result ok, lib.unpack_nil, refused, Option.bind_none]
  | some data =>
      rw [first] at resolved
      obtain ⟨via, ok⟩ := resolved
      rw [ok, Option.bind_some]
      dsimp only
      cases unpacked : lib.unpack data with
      | none => rw [refused]
      | some message =>
          have packs := lib.unpack_pack data message unpacked r.Id
          simp only [writeMsg, if_pos packs]

/-- A first body that is a message is the first message. -/
theorem firstMessage_of_firstBody {message : Msg lib.Rest}
    (first : (firstBody upstreams query).bind lib.unpack = some message) :
    firstMessage lib upstreams query = some message := by
  induction upstreams with
  | nil => contradiction
  | cons upstream rest inductionHypothesis =>
      unfold firstMessage
      rw [List.findSome?_cons, Upstream.message]
      rw [firstBody_cons] at first
      cases body : upstream.body query with
      | none =>
          rw [body, Option.none_or] at first
          exact inductionHypothesis first
      | some data =>
          rw [body, Option.some_or] at first
          rw [first]

/-- Exactly when the fallback answers as it should: the first body with status 200 is a
message, or none is, or the message that is passed over says SERVFAIL itself. -/
theorem answered_iff {r : Msg lib.Rest} (packed : lib.pack r = some query) (ipQueue : IpQueue) :
    Answered lib upstreams r query ipQueue ↔
      ∀ message, firstMessage lib upstreams query = some message →
        ((firstBody upstreams query).bind lib.unpack).isSome ∨
          { message with Id := r.Id } = servfail lib r := by
  unfold Answered
  rw [handleQuery_eq packed]
  cases first : (firstBody upstreams query).bind lib.unpack with
  | some message =>
      rw [firstMessage_of_firstBody first]
      refine iff_of_true ⟨_, rfl, rfl, rfl⟩ ?_
      intro _ _
      exact .inl rfl
  | none =>
      cases later : firstMessage lib upstreams query with
      | none =>
          refine iff_of_true ⟨_, rfl, lib.setRcode_id r _, rfl, rfl⟩ ?_
          intro message impossible
          contradiction
      | some message =>
          constructor
          · rintro ⟨reply, sent, -, same⟩ other isMessage
            obtain rfl := Option.some.inj isMessage
            obtain rfl := List.singleton_inj.mp sent
            exact .inr same.symm
          · intro condition
            have same := (condition message rfl).resolve_left Bool.false_ne_true
            exact ⟨_, rfl, lib.setRcode_id r _, same.symm⟩

/-! ### One question -/

def exampleQuestion : Question := ⟨lit "example.com.", typeA⟩

def questionBytes : Bytes :=
  7 :: lit "example" ++ 3 :: lit "com" ++ [0, 0, 1, 0, 1]

/-- The messages about `exampleQuestion` with id 0, and their bytes behind the id: the query,
its answer, and the refusal of a server. `rest` is the flags. -/
def exampleMessages : List (Bytes × Msg Bytes) :=
  [([1, 0, 0, 1, 0, 0, 0, 0, 0, 0] ++ questionBytes, ⟨0, [exampleQuestion], [], [1, 0]⟩),
    ([0x81, 0x80, 0, 1, 0, 1, 0, 0, 0, 0] ++ questionBytes ++
        [0xc0, 12, 0, 1, 0, 1, 0, 0, 0, 60, 0, 4, 93, 184, 216, 34],
      ⟨0, [exampleQuestion], [.a [93, 184, 216, 34]], [0x81, 0x80]⟩),
    ([0x81, 2, 0, 1, 0, 0, 0, 0, 0, 0] ++ questionBytes, ⟨0, [exampleQuestion], [], [0x81, 2]⟩)]

def exampleUnpack : Bytes → Option (Msg Bytes)
  | high :: low :: tail =>
      (exampleMessages.find? fun known => known.1 = tail).map fun known =>
        { known.2 with Id := UInt16.ofNat (high.toNat * 256 + low.toNat) }
  | _ => none

def examplePack (msg : Msg Bytes) : Option Bytes :=
  (exampleMessages.find? fun known => known.2 = { msg with Id := 0 }).map fun known =>
    BigEndian.encode 2 msg.Id.toNat ++ known.1

theorem examplePack_of_known {known : Bytes × Msg Bytes} (isKnown : known ∈ exampleMessages)
    {msg : Msg Bytes} (same : known.2 = { msg with Id := 0 }) : (examplePack msg).isSome := by
  rw [examplePack, Option.isSome_map, List.find?_isSome]
  exact ⟨known, isKnown, decide_eq_true same⟩

/-- The DNS package on the messages about one question. -/
def exampleLibrary : Library where
  Rest := Bytes
  pack := examplePack
  unpack := exampleUnpack
  setRcode request rcode :=
    ⟨request.Id, request.Question.take 1, [], [0x81, UInt8.ofNat rcode]⟩
  unpack_pack := by
    intro data msg unpacked id
    unfold exampleUnpack at unpacked
    split at unpacked
    next high low tail =>
      obtain ⟨known, found, rfl⟩ := Option.map_eq_some_iff.mp unpacked
      have isKnown := List.mem_of_find?_eq_some found
      apply examplePack_of_known isKnown
      have zeroId : ∀ other ∈ exampleMessages, other.2.Id = 0 := by decide
      show known.2 = { known.2 with Id := 0 }
      rw [← zeroId known isKnown]
    next => contradiction
  unpack_nil := rfl
  setRcode_id := fun _ _ => rfl
  setRcode_pack := by
    intro request packs
    rw [examplePack, Option.isSome_map, List.find?_isSome] at packs
    obtain ⟨known, isKnown, same⟩ := packs
    have question : ∀ other ∈ exampleMessages, other.2.Question = [exampleQuestion] := by decide
    have asked : request.Question = [exampleQuestion] := by
      rw [← question known isKnown, of_decide_eq_true same]
    refine @examplePack_of_known (exampleMessages.getLast (by decide)) (List.getLast_mem _) _ ?_
    rw [asked]
    rfl

instance : DecidableEq exampleLibrary.Rest := inferInstanceAs (DecidableEq Bytes)

def exampleQuery : Msg Bytes := ⟨0x1234, [exampleQuestion], [], [1, 0]⟩

def exampleQueryBytes : Bytes := [0x12, 0x34, 1, 0, 0, 1, 0, 0, 0, 0, 0, 0] ++ questionBytes

def exampleAnswerBytes : Bytes :=
  [0x12, 0x34, 0x81, 0x80, 0, 1, 0, 1, 0, 0, 0, 0] ++ questionBytes ++
    [0xc0, 12, 0, 1, 0, 1, 0, 0, 0, 60, 0, 4, 93, 184, 216, 34]

def httpsUpstream (name host : String) (respond : Bytes → Outcome) : Upstream :=
  ⟨⟨lit name, some ⟨lit "https", lit host⟩⟩, respond⟩

/-- The second upstream answers. -/
def google : Upstream :=
  httpsUpstream "google" "8.8.8.8" fun _ => .response 200 (some exampleAnswerBytes)

/-- The first upstream is down. -/
theorem answered_by_second :
    Answered exampleLibrary [httpsUpstream "cloudflare" "1.1.1.1" fun _ => .failed, google]
      exampleQuery exampleQueryBytes (fun _ => none) := by
  have packed : exampleLibrary.pack exampleQuery = some exampleQueryBytes := by decide +kernel
  refine (answered_iff packed _).mpr ?_
  intro _ _
  refine .inl ?_
  decide +kernel

/-- The first upstream is answered for by a block page with status 200. -/
def blocked : Upstream :=
  httpsUpstream "cloudflare" "1.1.1.1" fun _ => .response 200 (some (lit "<html>"))

theorem block_page_hides_answer :
    ¬ Answered exampleLibrary [blocked, google] exampleQuery exampleQueryBytes fun _ => none := by
  rintro ⟨reply, sent, -, answered⟩
  have packed : exampleLibrary.pack exampleQuery = some exampleQueryBytes := by decide +kernel
  have noMessage : (firstBody [blocked, google] exampleQueryBytes).bind exampleLibrary.unpack =
      none := by
    decide +kernel
  have message : firstMessage exampleLibrary [blocked, google] exampleQueryBytes =
      some ⟨0x1234, [exampleQuestion], [.a [93, 184, 216, 34]], [0x81, 0x80]⟩ := by
    decide +kernel
  rw [handleQuery_eq packed, noMessage] at sent
  rw [message] at answered
  have refused : servfail exampleLibrary exampleQuery = reply := List.singleton_inj.mp sent
  rw [← refused] at answered
  have noAnswer := congrArg Msg.Answer answered
  contradiction

end Gecit.Dns
