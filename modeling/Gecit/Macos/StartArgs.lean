import Gecit.Go.Fields
import Gecit.Shell.Words

/-!
Contract: the arguments that the helper daemon of the macOS app lets through to the engine.

A token passes if the pattern of its flag accepts its value. Integers are compared after their
digits are checked, and the comparison of `--fake-ttl` fails for a value that no machine integer
holds.

Owns `sanitize_start_args`, the tokens it accepts and the choice of `start_gecit`. Does not own
the processes of the daemon.
-/

namespace Gecit.Macos

open Gecit.Foundation
open Gecit.Go
open Gecit.Net
open Gecit.Shell

/-! ### The values of each flag -/

/-- `0*|*[!0-9]*` and the empty value. -/
def malformedDecimal (value : Bytes) : Bool :=
  value = [] || value.head? = some (byteOf '0') || !value.all isDigit

def fakeTTLAllowed (value : Bytes) : Bool :=
  if malformedDecimal value then false
  else if testGt value 255 = 0 then false
  else true

def dohAllowed (value : Bytes) : Bool := value = lit "true" || value = lit "false"

def dohPresets : List Bytes :=
  [lit "cloudflare", lit "google", lit "quad9", lit "nextdns", lit "adguard"]

def dohUpstreamAllowed (value : Bytes) : Bool := value ∈ dohPresets

/-- `[a-z0-9]` -/
def isNameByte (b : UInt8) : Bool := (97 ≤ b && b ≤ 122) || isDigit b

def interfaceAllowed (value : Bytes) : Bool :=
  if value = [] || !value.all isNameByte then false
  else if 16 < value.length then false
  else true

def comma : UInt8 := byteOf ','

/-- One round over `$value`. -/
def portAllowed (port : Bytes) : Bool :=
  if port.head? = some (byteOf '0') then false
  else if 5 < port.length || testGt port 65535 = 0 then false
  else true

def portsAllowed (value : Bytes) : Bool :=
  if value = [] || !value.all (fun b => isDigit b || b = comma) then false
  else if value.head? = some comma || value.getLast? = some comma || contains value [comma, comma] then
    false
  else (splitIFS comma value).all portAllowed

/-- The patterns of the `case`, in its order. -/
def startFlags : List (Bytes × (Bytes → Bool)) :=
  [(lit "--fake-ttl=", fakeTTLAllowed), (lit "--doh=", dohAllowed),
    (lit "--doh-upstream=", dohUpstreamAllowed), (lit "--interface=", interfaceAllowed),
    (lit "--ports=", portsAllowed)]

def tokenAllowed (token : Bytes) : Bool :=
  match startFlags.find? fun flag => hasPrefix token flag.1 with
  | some (flag, allowed) => allowed (trimPrefix token flag)
  | none => false

/-- The final `SAFE_ARGS`, or `none` for `return 1`. -/
def sanitizeStartArgs (tokens : List Bytes) : Option (List Bytes) :=
  tokens.foldlM (fun safeArgs token => if tokenAllowed token then some (safeArgs ++ [token]) else none)
    []

/-- What `start_gecit` decides before it touches a process. -/
inductive StartChoice where
  | rejected
  | alreadyRunning
  | binaryMissing
  /-- `"$BINARY" "${args[@]}" &` -/
  | spawn (args : List Bytes)
deriving DecidableEq

/-- `start_gecit` with the words of its command, `start` included. -/
def startGecit (isRunning executable : Bool) (parts : List Bytes) : StartChoice :=
  match sanitizeStartArgs parts.tail with
  | none => .rejected
  | some safeArgs =>
      if isRunning then .alreadyRunning
      else if !executable then .binaryMissing
      else .spawn ([lit "run", lit "-v"] ++ safeArgs)

/-! ### The documented tokens -/

/-- A decimal without leading zero in this range. -/
def InRange (low high : Nat) (value : Bytes) : Prop :=
  Canonical value ∧ low ≤ decimal value ∧ decimal value ≤ high

def IsInterface (value : Bytes) : Prop :=
  1 ≤ value.length ∧ value.length ≤ 16 ∧ ∀ b ∈ value, isNameByte b = true

/-- A comma-separated list of ports without empty items. -/
def IsPorts (value : Bytes) : Prop := ∀ port ∈ value.splitOn comma, InRange 1 65535 port

inductive Whitelisted : Bytes → Prop where
  | fakeTTL (value : Bytes) (inRange : InRange 1 255 value) :
      Whitelisted (lit "--fake-ttl=" ++ value)
  | doh (value : Bytes) (flag : value = lit "true" ∨ value = lit "false") :
      Whitelisted (lit "--doh=" ++ value)
  | dohUpstream (value : Bytes) (preset : value ∈ dohPresets) :
      Whitelisted (lit "--doh-upstream=" ++ value)
  | interface (value : Bytes) (isInterface : IsInterface value) :
      Whitelisted (lit "--interface=" ++ value)
  | ports (value : Bytes) (isPorts : IsPorts value) : Whitelisted (lit "--ports=" ++ value)

/-- A TTL that no 64-bit integer holds. -/
def Oversized (token : Bytes) : Prop :=
  ∃ value, token = lit "--fake-ttl=" ++ value ∧ Canonical value ∧ 2 ^ 63 ≤ decimal value

/-! ### Each value -/

theorem malformedDecimal_eq_false_iff {value : Bytes} :
    malformedDecimal value = false ↔ Canonical value := by
  unfold malformedDecimal
  simp only [Bool.or_eq_false_iff, decide_eq_false_iff_not, Bool.not_eq_false', List.all_eq_true]
  constructor
  · intro all
    exact ⟨all.1.1, all.2, all.1.2⟩
  · intro canonical
    exact ⟨⟨canonical.nonempty, canonical.noLeadingZero⟩, canonical.digits⟩

theorem fakeTTLAllowed_iff {value : Bytes} :
    fakeTTLAllowed value = true ↔ InRange 1 255 value ∨ Canonical value ∧ 2 ^ 63 ≤ decimal value := by
  unfold fakeTTLAllowed
  cases malformed : malformedDecimal value with
  | true =>
      apply iff_of_false (by simp)
      have notCanonical : ¬ Canonical value := by
        rw [← malformedDecimal_eq_false_iff, malformed]
        decide
      intro either
      exact notCanonical (either.elim And.left And.left)
  | false =>
      have canonical := malformedDecimal_eq_false_iff.mp malformed
      have positive := canonical.one_le
      have test := @testGt_eq_zero_iff value 255 canonical
      unfold InRange
      rw [if_neg Bool.false_ne_true]
      split
      next larger =>
        have bounds := test.mp larger
        apply iff_of_false Bool.false_ne_true
        intro either
        rcases either with small | large
        · omega
        · omega
      next notLarger =>
        rw [test] at notLarger
        apply iff_of_true rfl
        by_cases small : decimal value ≤ 255
        · exact .inl ⟨canonical, positive, small⟩
        · exact .inr ⟨canonical, by omega⟩

theorem interfaceAllowed_iff {value : Bytes} : interfaceAllowed value = true ↔ IsInterface value := by
  unfold interfaceAllowed IsInterface
  by_cases shape : (value = [] || !value.all isNameByte) = true
  · rw [if_pos shape]
    apply iff_of_false Bool.false_ne_true
    intro isInterface
    rw [Bool.or_eq_true, decide_eq_true_iff] at shape
    rcases shape with empty | other
    · have positive := isInterface.1
      rw [empty] at positive
      contradiction
    · rw [List.all_eq_true.mpr isInterface.2.2] at other
      contradiction
  · rw [if_neg shape]
    rw [Bool.not_eq_true, Bool.or_eq_false_iff, decide_eq_false_iff_not, Bool.not_eq_false',
      List.all_eq_true] at shape
    have positive : 1 ≤ value.length := List.length_pos_iff.mpr shape.1
    split
    next long => exact iff_of_false Bool.false_ne_true fun isInterface => absurd isInterface.2.1 (by omega)
    next short => exact iff_of_true rfl ⟨positive, by omega, shape.2⟩

/-- A port of digits: the length check keeps the comparison inside the integers. -/
theorem portAllowed_iff {port : Bytes} (nonempty : port ≠ [])
    (digits : ∀ b ∈ port, isDigit b = true) : portAllowed port = true ↔ InRange 1 65535 port := by
  unfold portAllowed
  split
  next leadingZero =>
    apply iff_of_false Bool.false_ne_true
    intro inRange
    exact inRange.1.noLeadingZero leadingZero
  next noLeadingZero =>
    have canonical : Canonical port := ⟨nonempty, digits, noLeadingZero⟩
    have positive := canonical.one_le
    have test := @testGt_eq_zero_iff port 65535 canonical
    unfold InRange
    simp only [Bool.or_eq_true, decide_eq_true_iff, test]
    by_cases short : port.length ≤ 5
    · have below : decimal port < 10 ^ 5 :=
        (decimal_lt digits).trans_le (Nat.pow_le_pow_right (by decide) short)
      split
      next larger => exact iff_of_false Bool.false_ne_true (by omega)
      next notLarger => exact iff_of_true rfl ⟨canonical, positive, by omega⟩
    · have large : 10 ^ 5 ≤ decimal port :=
        (Nat.pow_le_pow_right (by decide) (by omega)).trans canonical.le_decimal
      rw [if_pos (.inl (by omega))]
      exact iff_of_false Bool.false_ne_true (by omega)

theorem portsAllowed_iff {value : Bytes} : portsAllowed value = true ↔ IsPorts value := by
  have gap := @nil_mem_splitOn_iff comma value
  unfold portsAllowed IsPorts
  split
  next otherByte =>
    apply iff_of_false Bool.false_ne_true
    intro isPorts
    rw [Bool.or_eq_true, decide_eq_true_iff] at otherByte
    rcases otherByte with empty | other
    · exact (isPorts [] (gap.mpr (.inl empty))).1.nonempty rfl
    · rw [Bool.not_eq_true', List.all_eq_false] at other
      obtain ⟨b, there, neither⟩ := other
      apply neither
      rw [Bool.or_eq_true, decide_eq_true_iff]
      rcases mem_splitOn_of_mem there with same | ⟨port, member, inPort⟩
      · exact .inr same
      · exact .inl ((isPorts port member).1.digits b inPort)
  next onlyPorts =>
    rw [Bool.not_eq_true, Bool.or_eq_false_iff, decide_eq_false_iff_not, Bool.not_eq_false',
      List.all_eq_true] at onlyPorts
    split
    next hasGap =>
      apply iff_of_false Bool.false_ne_true
      intro isPorts
      rw [Bool.or_eq_true, Bool.or_eq_true, decide_eq_true_iff, decide_eq_true_iff, contains_iff,
        or_assoc] at hasGap
      exact (isPorts [] (gap.mpr (.inr hasGap))).1.nonempty rfl
    next noGap =>
      rw [Bool.or_eq_true, Bool.or_eq_true, decide_eq_true_iff, decide_eq_true_iff, contains_iff,
        or_assoc] at noGap
      have noEmpty : [] ∉ value.splitOn comma := by
        rw [gap]
        exact not_or.mpr ⟨onlyPorts.1, noGap⟩
      rw [splitIFS_eq noEmpty, List.all_eq_true]
      apply forall₂_congr
      intro port member
      apply portAllowed_iff
      · intro empty
        exact noEmpty (empty ▸ member)
      · intro b there
        rw [List.splitOn_eq_splitOnP] at member
        obtain ⟨notComma, inValue⟩ := splitOnP_clear value port member b there
        have either := onlyPorts.2 b inValue
        rw [Bool.or_eq_true, decide_eq_true_iff] at either
        exact either.resolve_right (ne_of_beq_false notComma)

/-! ### Each token -/

def flagNames : List Bytes := startFlags.map Prod.fst

theorem prefix_free : ∀ flag ∈ flagNames, ∀ other ∈ flagNames, flag <+: other → flag = other := by
  decide

/-- A token tells its flag and its value. -/
theorem flag_unique {flag other value otherValue : Bytes} (isFlag : flag ∈ flagNames)
    (isOther : other ∈ flagNames) (same : flag ++ value = other ++ otherValue) :
    flag = other ∧ value = otherValue := by
  have first : flag <+: flag ++ value := List.prefix_append _ _
  have second : other <+: flag ++ value := same ▸ List.prefix_append _ _
  have flags : flag = other := by
    rcases Nat.le_total flag.length other.length with shorter | longer
    · exact prefix_free flag isFlag other isOther
        (List.prefix_of_prefix_length_le first second shorter)
    · exact (prefix_free other isOther flag isFlag
        (List.prefix_of_prefix_length_le second first longer)).symm
  subst flags
  exact ⟨rfl, List.append_cancel_left same⟩

theorem tokenAllowed_append {flag : Bytes} {allowed : Bytes → Bool}
    (member : (flag, allowed) ∈ startFlags) (value : Bytes) :
    tokenAllowed (flag ++ value) = allowed value := by
  simp only [startFlags, List.mem_cons, Prod.mk.injEq, List.not_mem_nil, or_false] at member
  rcases member with ⟨rfl, rfl⟩ | ⟨rfl, rfl⟩ | ⟨rfl, rfl⟩ | ⟨rfl, rfl⟩ | ⟨rfl, rfl⟩ <;> rfl

/-- The tokens that pass: the documented ones, and TTLs that make the comparison fail. -/
theorem tokenAllowed_iff {token : Bytes} :
    tokenAllowed token = true ↔ Whitelisted token ∨ Oversized token := by
  constructor
  · intro passes
    unfold tokenAllowed at passes
    split at passes
    next flag allowed found =>
      have member := List.mem_of_find?_eq_some found
      have matching := List.find?_some found
      obtain ⟨value, rfl⟩ := hasPrefix_iff.mp (matching : hasPrefix token flag = true)
      rw [trimPrefix_append] at passes
      simp only [startFlags, List.mem_cons, Prod.mk.injEq, List.not_mem_nil, or_false] at member
      rcases member with ⟨rfl, rfl⟩ | ⟨rfl, rfl⟩ | ⟨rfl, rfl⟩ | ⟨rfl, rfl⟩ | ⟨rfl, rfl⟩
      · rcases fakeTTLAllowed_iff.mp passes with inRange | ⟨canonical, large⟩
        · exact .inl (.fakeTTL value inRange)
        · exact .inr ⟨value, rfl, canonical, large⟩
      · rw [dohAllowed, Bool.or_eq_true, decide_eq_true_iff, decide_eq_true_iff] at passes
        exact .inl (.doh value passes)
      · exact .inl (.dohUpstream value (of_decide_eq_true passes))
      · exact .inl (.interface value (interfaceAllowed_iff.mp passes))
      · exact .inl (.ports value (portsAllowed_iff.mp passes))
    next => contradiction
  · intro either
    rcases either with whitelisted | ⟨value, rfl, oversized⟩
    · cases whitelisted with
      | fakeTTL value inRange =>
          rw [@tokenAllowed_append _ fakeTTLAllowed (by simp [startFlags]), fakeTTLAllowed_iff]
          exact .inl inRange
      | doh value flag =>
          rw [@tokenAllowed_append _ dohAllowed (by simp [startFlags]), dohAllowed, Bool.or_eq_true,
            decide_eq_true_iff, decide_eq_true_iff]
          exact flag
      | dohUpstream value preset =>
          rw [@tokenAllowed_append _ dohUpstreamAllowed (by simp [startFlags])]
          exact decide_eq_true preset
      | interface value isInterface =>
          rw [@tokenAllowed_append _ interfaceAllowed (by simp [startFlags]), interfaceAllowed_iff]
          exact isInterface
      | ports value isPorts =>
          rw [@tokenAllowed_append _ portsAllowed (by simp [startFlags]), portsAllowed_iff]
          exact isPorts
    · rw [@tokenAllowed_append _ fakeTTLAllowed (by simp [startFlags]), fakeTTLAllowed_iff]
      exact .inr oversized

theorem Whitelisted.not_oversized {token : Bytes} (whitelisted : Whitelisted token) :
    ¬ Oversized token := by
  intro oversized
  obtain ⟨large, same, _, tooLarge⟩ := oversized
  have otherFlag : ∀ flag ∈ flagNames, flag ≠ lit "--fake-ttl=" → ∀ value, token ≠ flag ++ value := by
    intro flag isFlag different value isToken
    rw [isToken] at same
    exact different (flag_unique isFlag (by decide) same).1
  cases whitelisted with
  | fakeTTL value inRange =>
      obtain rfl := List.append_cancel_left same
      have small := inRange.2.2
      omega
  | doh value | dohUpstream value | interface value | ports value =>
      exact otherFlag _ (by decide) (by decide) value rfl

/-! ### The whole list -/

theorem sanitizeLoop_eq (safeArgs tokens : List Bytes) :
    tokens.foldlM (fun safeArgs token =>
        if tokenAllowed token then some (safeArgs ++ [token]) else none) safeArgs =
      if ∀ token ∈ tokens, tokenAllowed token = true then some (safeArgs ++ tokens) else none := by
  induction tokens generalizing safeArgs with
  | nil => simp
  | cons token rest inductionHypothesis =>
      rw [List.foldlM_cons]
      cases allowed : tokenAllowed token with
      | true =>
          rw [if_pos rfl]
          show rest.foldlM _ (safeArgs ++ [token]) = _
          rw [inductionHypothesis, List.append_assoc]
          simp only [List.forall_mem_cons, allowed, true_and]
          rfl
      | false =>
          have refused : ¬ ∀ other ∈ token :: rest, tokenAllowed other = true := by
            intro all
            rw [all token List.mem_cons_self] at allowed
            contradiction
          rw [if_neg Bool.false_ne_true, if_neg refused]
          rfl

/-- Every token passes and is forwarded, or the list is rejected. -/
theorem sanitizeStartArgs_eq (tokens : List Bytes) :
    sanitizeStartArgs tokens =
      if ∀ token ∈ tokens, tokenAllowed token = true then some tokens else none :=
  sanitizeLoop_eq [] tokens

theorem sanitizeStartArgs_eq_some_iff {tokens safeArgs : List Bytes} :
    sanitizeStartArgs tokens = some safeArgs ↔
      safeArgs = tokens ∧ ∀ token ∈ tokens, Whitelisted token ∨ Oversized token := by
  simp only [← tokenAllowed_iff]
  rw [sanitizeStartArgs_eq, Option.ite_none_right_eq_some, Option.some.injEq]
  constructor
  · intro both
    exact ⟨both.2.symm, both.1⟩
  · intro both
    exact ⟨both.2, both.1.symm⟩

/-- A rejected list starts nothing. -/
theorem startGecit_rejected {tokens : List Bytes} (rejected : sanitizeStartArgs tokens = none)
    (command : Bytes) (isRunning executable : Bool) :
    startGecit isRunning executable (command :: tokens) = .rejected := by
  unfold startGecit
  rw [List.tail_cons, rejected]

theorem startGecit_alreadyRunning {isRunning executable : Bool} {parts : List Bytes}
    (chosen : startGecit isRunning executable parts = .alreadyRunning) : isRunning = true := by
  unfold startGecit at chosen
  split at chosen
  · contradiction
  · split at chosen
    next running => exact running
    next => split at chosen <;> contradiction

theorem startGecit_spawn {isRunning executable : Bool} {parts args : List Bytes}
    (chosen : startGecit isRunning executable parts = .spawn args) : isRunning = false := by
  unfold startGecit at chosen
  split at chosen
  · contradiction
  · split at chosen
    next => contradiction
    next dead => exact Bool.eq_false_iff.mpr dead

/-- Only documented tokens are forwarded, all of them in order, and a rejected list starts
nothing, if and only if no TTL is too large for the comparison or another token is refused. -/
theorem whitelisted_only_iff (tokens : List Bytes) :
    ((∀ safeArgs, sanitizeStartArgs tokens = some safeArgs →
        (∀ token ∈ tokens, Whitelisted token) ∧ safeArgs = tokens) ∧
      (sanitizeStartArgs tokens = none → ∀ command isRunning executable args,
        startGecit isRunning executable (command :: tokens) ≠ .spawn args)) ↔
      (∀ token ∈ tokens, ¬ Oversized token) ∨
        ∃ token ∈ tokens, ¬ Whitelisted token ∧ ¬ Oversized token := by
  constructor
  · intro both
    by_cases refused : ∃ token ∈ tokens, ¬ Whitelisted token ∧ ¬ Oversized token
    · exact .inr refused
    · refine .inl ?_
      push Not at refused
      have forwarded : sanitizeStartArgs tokens = some tokens := by
        rw [sanitizeStartArgs_eq_some_iff]
        refine ⟨rfl, ?_⟩
        intro token member
        by_cases whitelisted : Whitelisted token
        · exact .inl whitelisted
        · exact .inr (refused token member whitelisted)
      intro token member
      exact ((both.1 tokens forwarded).1 token member).not_oversized
  · intro condition
    constructor
    · intro safeArgs forwarded
      obtain ⟨same, all⟩ := sanitizeStartArgs_eq_some_iff.mp forwarded
      refine ⟨?_, same⟩
      intro token member
      rcases condition with noneOversized | ⟨other, there, notWhitelisted, notOversized⟩
      · exact (all token member).resolve_right (noneOversized token member)
      · exact absurd (all other there) (not_or.mpr ⟨notWhitelisted, notOversized⟩)
    · intro rejected command isRunning executable args spawned
      rw [startGecit_rejected rejected] at spawned
      contradiction

/-- The first TTL that is too large is let through. -/
def oversizedTTL : Bytes := lit "--fake-ttl=9223372036854775808"

theorem oversized_forwarded : sanitizeStartArgs [oversizedTTL] = some [oversizedTTL] ∧
    ¬ Whitelisted oversizedTTL ∧ startGecit false true [lit "start", oversizedTTL] =
      .spawn [lit "run", lit "-v", oversizedTTL] := by
  refine ⟨by decide +kernel, ?_, by decide +kernel⟩
  intro whitelisted
  apply whitelisted.not_oversized
  refine ⟨lit "9223372036854775808", by decide +kernel, ⟨?_, ?_, ?_⟩, ?_⟩ <;> decide +kernel

end Gecit.Macos
