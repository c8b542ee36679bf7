import Gecit.Macos.Command

/-!
Contract: the settings of the macOS app, and what of them reaches the engine.

The settings are joined with spaces and read back as words, and nothing is escaped. A field
without a byte that cuts words or gets lost arrives whole; with one, either a piece is refused
or something else than the settings is forwarded.

Owns `buildStartCommand`, the arguments it stands for and the exact settings that survive. Does
not own the checks of each argument.
-/

namespace Gecit.Macos

open Gecit.Foundation
open Gecit.Go
open Gecit.Net
open Gecit.Shell

structure SettingsStore where
  fakeTTL : Int
  doHEnabled : Bool
  doHUpstream : Bytes
  interface : Bytes
  ports : Bytes
deriving DecidableEq

/-- The text of an integer that is not negative. -/
def decimalText (n : Nat) : Bytes := (Nat.toDigits 10 n).map byteOf

def SettingsStore.ttl (settings : SettingsStore) : Bytes :=
  decimalText (max 1 settings.fakeTTL).toNat

def SettingsStore.doh (settings : SettingsStore) : Bytes :=
  if settings.doHEnabled then lit "true" else lit "false"

/-- The white space of `trimmingCharacters` has the code points of `unicode.IsSpace`. -/
def buildStartCommand (settings : SettingsStore) : Bytes :=
  let upstream := trimSpace settings.doHUpstream
  let iface := trimSpace settings.interface
  let ports := trimSpace settings.ports
  let parts := [lit "start", lit "--fake-ttl=" ++ settings.ttl, lit "--doh=" ++ settings.doh]
  let parts := if upstream ≠ [] then parts ++ [lit "--doh-upstream=" ++ upstream] else parts
  let parts := if iface ≠ [] then parts ++ [lit "--interface=" ++ iface] else parts
  let parts := if ports ≠ [] then parts ++ [lit "--ports=" ++ ports] else parts
  [byteOf ' '].intercalate parts

/-- The arguments that reach the engine, or `none` if nothing is started. -/
def forwarded (settings : SettingsStore) : Option (List Bytes) := do
  let file ← send (buildStartCommand settings)
  match ← handleCommand (readCommand file) with
  | .start parts => sanitizeStartArgs parts.tail
  | .stop | .cleanup | .status | .unknown => none

/-! ### What the settings stand for -/

/-- The field without white space around it, if anything is left. -/
def present (flag field : Bytes) : List (Bytes × Bytes) :=
  if trimSpace field = [] then [] else [(flag, trimSpace field)]

/-- The flags with their values. -/
def SettingsStore.arguments (settings : SettingsStore) : List (Bytes × Bytes) :=
  [(lit "--fake-ttl=", settings.ttl), (lit "--doh=", settings.doh)] ++
    present (lit "--doh-upstream=") settings.doHUpstream ++
    present (lit "--interface=") settings.interface ++ present (lit "--ports=") settings.ports

/-- The values that a list of tokens gives to a flag. -/
def valuesOf (flag : Bytes) (tokens : List Bytes) : List Bytes :=
  tokens.filterMap fun token => if hasPrefix token flag then some (trimPrefix token flag) else none

/-- Each flag has the value of its setting, once, or is absent for a blank field. -/
structure Survives (settings : SettingsStore) (safeArgs : List Bytes) : Prop where
  fakeTTL : valuesOf (lit "--fake-ttl=") safeArgs = [settings.ttl]
  doh : valuesOf (lit "--doh=") safeArgs = [settings.doh]
  upstream : valuesOf (lit "--doh-upstream=") safeArgs =
    (present (lit "--doh-upstream=") settings.doHUpstream).map Prod.snd
  interface : valuesOf (lit "--interface=") safeArgs =
    (present (lit "--interface=") settings.interface).map Prod.snd
  ports : valuesOf (lit "--ports=") safeArgs =
    (present (lit "--ports=") settings.ports).map Prod.snd

/-- The settings that must be accepted. -/
structure SettingsStore.Valid (settings : SettingsStore) : Prop where
  fakeTTL : 1 ≤ settings.fakeTTL ∧ settings.fakeTTL ≤ 64
  upstream : settings.doHUpstream ∈ dohPresets
  interface : trimSpace settings.interface = [] ∨ IsInterface settings.interface
  ports : trimSpace settings.ports = [] ∨ IsPorts settings.ports

def SettingsStore.fields (settings : SettingsStore) : List Bytes :=
  [settings.doHUpstream, settings.interface, settings.ports]

/-- No field has a byte inside that is lost on the way or cuts a word. -/
def SettingsStore.Clean (settings : SettingsStore) : Prop :=
  ∀ field ∈ settings.fields, ∀ b ∈ trimSpace field, isSpecial b = false

/-- Some piece of an argument is not a token that the helper accepts. -/
def SettingsStore.Refused (settings : SettingsStore) : Prop :=
  ∃ argument ∈ settings.arguments, ∃ piece ∈ words (readCommand (argument.1 ++ argument.2)),
    ¬ Whitelisted piece ∧ ¬ Oversized piece

variable {settings : SettingsStore}

/-! ### The tokens of a command -/

/-- The text of each argument. -/
def SettingsStore.texts (settings : SettingsStore) : List Bytes :=
  settings.arguments.map fun argument => argument.1 ++ argument.2

/-- The tokens that the daemon reads. -/
def SettingsStore.tokens (settings : SettingsStore) : List Bytes :=
  settings.texts.flatMap fun text => words (readCommand text)

theorem buildStartCommand_eq (settings : SettingsStore) :
    buildStartCommand settings = [byteOf ' '].intercalate (lit "start" :: settings.texts) := by
  unfold buildStartCommand SettingsStore.texts SettingsStore.arguments present
  by_cases noUpstream : trimSpace settings.doHUpstream = [] <;>
    by_cases noInterface : trimSpace settings.interface = [] <;>
      by_cases noPorts : trimSpace settings.ports = [] <;>
        simp [noUpstream, noInterface, noPorts]

theorem send_buildStartCommand (settings : SettingsStore) :
    send (buildStartCommand settings) = some (buildStartCommand settings ++ [newline]) := by
  have starts : hasPrefix (buildStartCommand settings) (lit "start") = true := by
    rw [buildStartCommand_eq, SettingsStore.texts, SettingsStore.arguments]
    simp [List.intercalate]
  unfold send
  apply if_pos
  rw [List.any_eq_true]
  exact ⟨lit "start", List.mem_cons_self, starts⟩

theorem forwarded_eq (settings : SettingsStore) :
    forwarded settings = sanitizeStartArgs settings.tokens := by
  have line : words (readCommand (buildStartCommand settings ++ [newline])) =
      lit "start" :: settings.tokens := by
    have noNewline : readCommand [newline] = [] := rfl
    have command : words (readCommand (lit "start")) = [lit "start"] := by decide
    rw [readCommand_append, noNewline, List.append_nil, buildStartCommand_eq,
      words_readCommand_intercalate, List.flatMap_cons, command]
    rfl
  have start : handleCommand (readCommand (buildStartCommand settings ++ [newline])) =
      some (.start (lit "start" :: settings.tokens)) := by
    unfold handleCommand
    rw [line]
    exact if_pos rfl
  unfold forwarded
  rw [send_buildStartCommand]
  show (handleCommand (readCommand (buildStartCommand settings ++ [newline]))).bind _ = _
  rw [start]
  rfl

theorem forwarded_eq_some_iff {safeArgs : List Bytes} :
    forwarded settings = some safeArgs ↔ safeArgs = settings.tokens ∧ ¬ settings.Refused := by
  have accepted : (∀ token ∈ settings.tokens, Whitelisted token ∨ Oversized token) ↔
      ¬ settings.Refused := by
    unfold SettingsStore.Refused SettingsStore.tokens SettingsStore.texts
    simp only [List.mem_flatMap, List.mem_map, exists_exists_and_eq_and]
    constructor
    · rintro all ⟨argument, isArgument, piece, isPiece, neither⟩
      exact neither.1 ((all piece ⟨argument, isArgument, isPiece⟩).resolve_right neither.2)
    · rintro noneRefused token ⟨argument, isArgument, isPiece⟩
      by_contra neither
      exact noneRefused ⟨argument, isArgument, token, isPiece, not_or.mp neither⟩
  rw [forwarded_eq, sanitizeStartArgs_eq_some_iff, accepted]

/-! ### Clean settings -/

theorem isDigit_decimalText (n : Nat) : ∀ b ∈ decimalText n, isDigit b = true := by
  intro b there
  obtain ⟨c, member, rfl⟩ := List.mem_map.mp there
  have digit := Nat.isDigit_of_mem_toDigits (by decide) (by decide) member
  unfold Char.isDigit at digit
  rw [Bool.and_eq_true, decide_eq_true_iff, decide_eq_true_iff, ge_iff_le, UInt32.le_iff_toNat_le,
    UInt32.le_iff_toNat_le] at digit
  have low : 48 ≤ c.toNat := digit.1
  have high : c.toNat ≤ 57 := digit.2
  rw [isDigit_iff, byteOf, UInt8.toNat_ofNat']
  omega

/-- Bytes of names, digits and commas are not lost, cut no word and begin no white space. -/
theorem plain_bytes : ∀ n < 256, isNameByte (UInt8.ofNat n) = true ∨ UInt8.ofNat n = comma →
    isSpecial (UInt8.ofNat n) = false ∧
      ∀ code ∈ spaceCodes, code.head? ≠ some (UInt8.ofNat n) := by
  decide +kernel

theorem plain_byte {b : UInt8} (plain : isNameByte b = true ∨ b = comma) :
    isSpecial b = false ∧ ∀ code ∈ spaceCodes, code.head? ≠ some b := by
  have one := plain_bytes b.toNat b.toNat_lt
  rw [UInt8.ofNat_toNat] at one
  exact one plain

theorem isNameByte_of_isDigit {b : UInt8} (digit : isDigit b = true) : isNameByte b = true := by
  unfold isNameByte
  rw [digit, Bool.or_true]

theorem mem_flagNames : lit "--fake-ttl=" ∈ flagNames ∧ lit "--doh=" ∈ flagNames ∧
    lit "--doh-upstream=" ∈ flagNames ∧ lit "--interface=" ∈ flagNames ∧
      lit "--ports=" ∈ flagNames := by
  simp [flagNames, startFlags]

theorem mem_arguments {argument : Bytes × Bytes} (isArgument : argument ∈ settings.arguments) :
    argument.1 ∈ flagNames ∧ (argument.2 = settings.ttl ∨ argument.2 = settings.doh ∨
      ∃ field ∈ settings.fields, argument.2 = trimSpace field) := by
  have ofField : ∀ flag ∈ flagNames, ∀ field ∈ settings.fields, argument ∈ present flag field →
      argument.1 ∈ flagNames ∧ (argument.2 = settings.ttl ∨ argument.2 = settings.doh ∨
        ∃ field ∈ settings.fields, argument.2 = trimSpace field) := by
    intro flag isFlag field isField member
    unfold present at member
    split at member
    · contradiction
    · obtain rfl := List.mem_singleton.mp member
      exact ⟨isFlag, .inr (.inr ⟨field, isField, rfl⟩)⟩
  obtain ⟨ttlFlag, dohFlag, upstreamFlag, interfaceFlag, portsFlag⟩ := mem_flagNames
  unfold SettingsStore.arguments at isArgument
  simp only [List.mem_append, List.mem_cons, List.not_mem_nil, or_false] at isArgument
  rcases isArgument with (((rfl | rfl) | upstream) | interface) | ports
  · exact ⟨ttlFlag, .inl rfl⟩
  · exact ⟨dohFlag, .inr (.inl rfl)⟩
  · exact ofField _ upstreamFlag settings.doHUpstream (by simp [SettingsStore.fields]) upstream
  · exact ofField _ interfaceFlag settings.interface (by simp [SettingsStore.fields]) interface
  · exact ofField _ portsFlag settings.ports (by simp [SettingsStore.fields]) ports

theorem clear_texts (clean : settings.Clean) :
    ∀ text ∈ settings.texts, text ≠ [] ∧ ∀ b ∈ text, isSpecial b = false := by
  have flags : ∀ flag ∈ flagNames, flag ≠ [] ∧ flag.all (fun b => !isSpecial b) = true := by
    decide
  have doh : ∀ value ∈ [lit "true", lit "false"], value.all (fun b => !isSpecial b) = true := by
    decide
  have clearOfAll : ∀ {text : Bytes}, text.all (fun b => !isSpecial b) = true →
      ∀ b ∈ text, isSpecial b = false := by
    intro text all b there
    have kept := List.all_eq_true.mp all b there
    rwa [Bool.not_eq_true'] at kept
  intro text member
  obtain ⟨argument, isArgument, rfl⟩ := List.mem_map.mp member
  obtain ⟨isFlag, value⟩ := mem_arguments isArgument
  have clear : ∀ b ∈ argument.2, isSpecial b = false := by
    rcases value with ttl | isDoh | ⟨field, isField, same⟩
    · rw [ttl]
      intro b there
      exact (plain_byte (.inl (isNameByte_of_isDigit (isDigit_decimalText _ b there)))).1
    · rw [isDoh, SettingsStore.doh]
      split
      · exact clearOfAll (doh _ (by simp))
      · exact clearOfAll (doh _ (by simp))
    · rw [same]
      exact clean field isField
  refine ⟨List.append_ne_nil_of_left_ne_nil (flags _ isFlag).1 _, ?_⟩
  intro b there
  rcases List.mem_append.mp there with inFlag | inValue
  · exact clearOfAll (flags _ isFlag).2 b inFlag
  · exact clear b inValue

theorem tokens_of_clean (clean : settings.Clean) : settings.tokens = settings.texts := by
  have single : ∀ text ∈ settings.texts, words (readCommand text) = [text] := by
    intro text member
    obtain ⟨nonempty, clear⟩ := clear_texts clean text member
    exact words_readCommand_of_clear nonempty clear
  unfold SettingsStore.tokens
  rw [List.flatMap_congr single, List.flatMap_singleton']

/-! ### The values of a flag -/

theorem mem_valuesOf {flag value : Bytes} {tokens : List Bytes}
    (member : value ∈ valuesOf flag tokens) : flag ++ value ∈ tokens := by
  obtain ⟨token, isToken, given⟩ := List.mem_filterMap.mp member
  obtain ⟨matching, same⟩ := Option.ite_none_right_eq_some.mp given
  obtain ⟨rest, rfl⟩ := hasPrefix_iff.mp matching
  rw [trimPrefix_append] at same
  obtain rfl := Option.some.inj same
  exact isToken

theorem valuesOf_texts {flag : Bytes} (isFlag : flag ∈ flagNames) {arguments : List (Bytes × Bytes)}
    (areFlags : ∀ argument ∈ arguments, argument.1 ∈ flagNames) :
    valuesOf flag (arguments.map fun argument => argument.1 ++ argument.2) =
      (arguments.filter fun argument => argument.1 = flag).map Prod.snd := by
  induction arguments with
  | nil => rfl
  | cons argument rest inductionHypothesis =>
      have others := inductionHypothesis fun other member =>
        areFlags other (List.mem_cons_of_mem _ member)
      unfold valuesOf at others ⊢
      rw [List.map_cons, List.filterMap_cons, others, List.filter_cons]
      by_cases same : argument.1 = flag
      · rw [same, hasPrefix_append, trimPrefix_append]
        simp
      · have noMatch : hasPrefix (argument.1 ++ argument.2) flag = false := by
          rw [Bool.eq_false_iff, ne_eq, hasPrefix_iff]
          rintro ⟨value, whole⟩
          exact same (flag_unique isFlag (areFlags argument List.mem_cons_self) whole).1.symm
        rw [noMatch]
        simp [same]

theorem filter_present (flag other field : Bytes) :
    (present flag field).filter (fun argument => argument.1 = other) =
      if flag = other then present flag field else [] := by
  unfold present
  by_cases blank : trimSpace field = [] <;> by_cases same : flag = other <;> simp [blank, same]

theorem survives_of_clean (clean : settings.Clean) : Survives settings settings.tokens := by
  have values : ∀ flag ∈ flagNames, valuesOf flag settings.tokens =
      (settings.arguments.filter fun argument => argument.1 = flag).map Prod.snd := by
    intro flag isFlag
    rw [tokens_of_clean clean]
    exact valuesOf_texts isFlag fun argument isArgument => (mem_arguments isArgument).1
  obtain ⟨ttlFlag, dohFlag, upstreamFlag, interfaceFlag, portsFlag⟩ := mem_flagNames
  constructor <;> rw [values _ (by assumption)] <;> unfold SettingsStore.arguments <;>
    rw [List.filter_append, List.filter_append, List.filter_append, filter_present, filter_present,
      filter_present] <;> simp +decide

/-- A field whose value arrives whole had nothing to lose. -/
theorem clear_of_valuesOf {flag field : Bytes}
    (arrives : valuesOf flag settings.tokens = (present flag field).map Prod.snd) :
    ∀ b ∈ trimSpace field, isSpecial b = false := by
  intro b there
  have shown : trimSpace field ∈ (present flag field).map Prod.snd := by
    unfold present
    rw [if_neg (List.ne_nil_of_mem there)]
    exact List.mem_singleton_self _
  rw [← arrives] at shown
  have isToken := mem_valuesOf shown
  unfold SettingsStore.tokens at isToken
  obtain ⟨text, _, isWord⟩ := List.mem_flatMap.mp isToken
  exact clear_of_mem_words isWord b (List.mem_append_right _ there)

theorem clean_of_survives (survives : Survives settings settings.tokens) : settings.Clean := by
  intro field isField
  unfold SettingsStore.fields at isField
  simp only [List.mem_cons, List.not_mem_nil, or_false] at isField
  rcases isField with rfl | rfl | rfl
  · exact clear_of_valuesOf survives.upstream
  · exact clear_of_valuesOf survives.interface
  · exact clear_of_valuesOf survives.ports

/-! ### Valid settings -/

theorem trimSpace_of_plain {field : Bytes} (plain : ∀ b ∈ field, isNameByte b = true ∨ b = comma) :
    trimSpace field = field ∧ ∀ b ∈ field, isSpecial b = false := by
  have spaceFree : SpaceFree field := fun b there => (plain_byte (plain b there)).2
  exact ⟨trimSpace_eq_self spaceFree.trimmed, fun b there => (plain_byte (plain b there)).1⟩

/-- A valid field is blank, or its own text is clear and its token is accepted. -/
theorem SettingsStore.Valid.field (valid : settings.Valid) :
    ∀ field ∈ settings.fields, trimSpace field = [] ∨
      trimSpace field = field ∧ ∀ b ∈ field, isSpecial b = false := by
  intro field isField
  unfold SettingsStore.fields at isField
  simp only [List.mem_cons, List.not_mem_nil, or_false] at isField
  rcases isField with rfl | rfl | rfl
  · have presets : ∀ preset ∈ dohPresets, preset.all isNameByte = true := by decide
    have letters := List.all_eq_true.mp (presets _ valid.upstream)
    exact .inr (trimSpace_of_plain fun b there => .inl (letters b there))
  · refine valid.interface.imp_right ?_
    intro isInterface
    exact trimSpace_of_plain fun b there => .inl (isInterface.2.2 b there)
  · refine valid.ports.imp_right ?_
    intro isPorts
    apply trimSpace_of_plain
    intro b there
    rcases mem_splitOn_of_mem there with isComma | ⟨port, member, inPort⟩
    · exact .inr isComma
    · exact .inl (isNameByte_of_isDigit ((isPorts port member).1.digits b inPort))

theorem SettingsStore.Valid.clean (valid : settings.Valid) : settings.Clean := by
  intro field isField b there
  rcases valid.field field isField with blank | ⟨same, clear⟩
  · rw [blank] at there
    contradiction
  · rw [same] at there
    exact clear b there

theorem SettingsStore.Valid.whitelisted (valid : settings.Valid) :
    ∀ text ∈ settings.texts, Whitelisted text := by
  have ttls : ∀ n < 65, 1 ≤ n → malformedDecimal (decimalText n) = false ∧
      decimal (decimalText n) ≤ 255 := by
    decide
  have ofField : ∀ flag, ∀ field ∈ settings.fields,
      (trimSpace field ≠ [] → Whitelisted (flag ++ field)) →
      ∀ argument ∈ present flag field, Whitelisted (argument.1 ++ argument.2) := by
    intro flag field isField whitelisted argument member
    unfold present at member
    split at member
    next => contradiction
    next notBlank =>
      obtain rfl := List.mem_singleton.mp member
      show Whitelisted (flag ++ trimSpace field)
      rw [((valid.field field isField).resolve_left notBlank).1]
      exact whitelisted notBlank
  intro text member
  obtain ⟨argument, isArgument, rfl⟩ := List.mem_map.mp member
  unfold SettingsStore.arguments at isArgument
  simp only [List.mem_append, List.mem_cons, List.not_mem_nil, or_false] at isArgument
  rcases isArgument with (((rfl | rfl) | upstream) | interface) | ports
  · have range := valid.fakeTTL
    obtain ⟨wellFormed, small⟩ := ttls (max 1 settings.fakeTTL).toNat (by omega) (by omega)
    have canonical := malformedDecimal_eq_false_iff.mp wellFormed
    exact .fakeTTL settings.ttl ⟨canonical, canonical.one_le, small⟩
  · refine .doh settings.doh ?_
    unfold SettingsStore.doh
    cases settings.doHEnabled <;> simp
  · refine ofField _ settings.doHUpstream (by simp [SettingsStore.fields]) ?_ argument upstream
    exact fun _ => .dohUpstream _ valid.upstream
  · refine ofField _ settings.interface (by simp [SettingsStore.fields]) ?_ argument interface
    exact fun notBlank => .interface _ (valid.interface.resolve_left notBlank)
  · refine ofField _ settings.ports (by simp [SettingsStore.fields]) ?_ argument ports
    exact fun notBlank => .ports _ (valid.ports.resolve_left notBlank)

/-- Whatever is forwarded are the settings, and valid settings are forwarded, if and only if no
field has a byte inside that is lost or cuts a word, or else some piece is refused. -/
theorem settings_survive_iff (settings : SettingsStore) :
    ((∀ safeArgs, forwarded settings = some safeArgs → Survives settings safeArgs) ∧
      (settings.Valid → forwarded settings ≠ none)) ↔
        settings.Clean ∨ settings.Refused := by
  constructor
  · intro both
    by_cases refused : settings.Refused
    · exact .inr refused
    · exact .inl (clean_of_survives (both.1 _ (forwarded_eq_some_iff.mpr ⟨rfl, refused⟩)))
  · intro condition
    constructor
    · intro safeArgs arrives
      obtain ⟨rfl, notRefused⟩ := forwarded_eq_some_iff.mp arrives
      exact survives_of_clean (condition.resolve_right notRefused)
    · intro valid
      have notRefused : ¬ settings.Refused := by
        intro refused
        unfold SettingsStore.Refused at refused
        obtain ⟨argument, isArgument, piece, isPiece, notWhitelisted, _⟩ := refused
        have isText : argument.1 ++ argument.2 ∈ settings.texts :=
          List.mem_map.mpr ⟨argument, isArgument, rfl⟩
        obtain ⟨nonempty, clear⟩ := clear_texts valid.clean _ isText
        rw [words_readCommand_of_clear nonempty clear, List.mem_singleton] at isPiece
        exact notWhitelisted (isPiece ▸ valid.whitelisted _ isText)
      rw [forwarded_eq_some_iff.mpr ⟨rfl, notRefused⟩]
      exact Option.some_ne_none _

/-- DoH is on, and the field of the interface smuggles a second flag. -/
def smuggling : SettingsStore := ⟨8, true, lit "cloudflare", lit "en0 --doh=false", lit "443"⟩

theorem smuggled_flag_forwarded : ∃ safeArgs, forwarded smuggling = some safeArgs ∧
    safeArgs = [lit "--fake-ttl=8", lit "--doh=true", lit "--doh-upstream=cloudflare",
      lit "--interface=en0", lit "--doh=false", lit "--ports=443"] ∧
      valuesOf (lit "--doh=") safeArgs = [lit "true", lit "false"] ∧
        ¬ Survives smuggling safeArgs := by
  have arrives : forwarded smuggling = some [lit "--fake-ttl=8", lit "--doh=true",
      lit "--doh-upstream=cloudflare", lit "--interface=en0", lit "--doh=false",
        lit "--ports=443"] := by
    decide +kernel
  refine ⟨_, arrives, rfl, by decide +kernel, ?_⟩
  intro survives
  exact absurd survives.doh (by decide +kernel)

end Gecit.Macos
