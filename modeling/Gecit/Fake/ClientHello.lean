import Gecit.Foundation.LengthPrefixed
import Gecit.Go.Strings

/-!
Contract: TLS ClientHello messages that carry a host name.

A `ClientHello` is a message with all its parts: what stands before the server name,
what follows at each level, and that every part fits its length field. `takeHandshake`
and the functions after it read one part each, front to back; together they accept the
encoded messages and nothing else.

Owns the grammar, the sequential reader and the message sent as a fake. Does not own the
offset arithmetic of the program's own parser.
-/

namespace Gecit.Fake

open Gecit.Foundation
open Gecit.Go

/-- The parts of a message, from the outside in where they come first. -/
structure HelloParts where
  recordVersion : Bytes
  versionAndRandom : Bytes
  sessionID : Bytes
  cipherSuites : Bytes
  compression : Bytes
  /-- Extensions in front of the server name; the keys are their types. -/
  extensionsBefore : List Item
  /-- Entries in front of the host name; the keys are their name types. -/
  namesBefore : List Item
  name : Bytes
  afterName : Bytes
  afterNames : Bytes
  afterServerName : Bytes
  afterExtensions : Bytes
  afterBody : Bytes
  afterRecord : Bytes
deriving DecidableEq, Repr

namespace HelloParts

variable (parts : HelloParts)

def names : Bytes :=
  encodeItems 1 parts.namesBefore ++ (Item.encode 1 ⟨0, parts.name⟩ ++ parts.afterName)

def serverName : Bytes := vector 2 parts.names ++ parts.afterNames

def extensions : Bytes :=
  encodeItems 2 parts.extensionsBefore ++
    (Item.encode 2 ⟨0, parts.serverName⟩ ++ parts.afterServerName)

def body : Bytes :=
  parts.versionAndRandom ++
    (vector 1 parts.sessionID ++
      (vector 2 parts.cipherSuites ++
        (vector 1 parts.compression ++ (vector 2 parts.extensions ++ parts.afterExtensions))))

def handshake : Bytes := 0x01 :: (vector 3 parts.body ++ parts.afterBody)

def encode : Bytes :=
  0x16 :: (parts.recordVersion ++ (vector 2 parts.handshake ++ parts.afterRecord))

end HelloParts

structure ClientHello extends HelloParts where
  recordVersion_length : recordVersion.length = 2
  versionAndRandom_length : versionAndRandom.length = 34
  sessionID_fits : sessionID.length < 256 ^ 1
  cipherSuites_fits : cipherSuites.length < 256 ^ 2
  compression_fits : compression.length < 256 ^ 1
  otherExtensions : ∀ item ∈ extensionsBefore, item.key ≠ 0 ∧ item.Fits 2
  otherNames : ∀ item ∈ namesBefore, item.key ≠ 0 ∧ item.Fits 1
  name_fits : name.length < 256 ^ 2
  names_fits : toHelloParts.names.length < 256 ^ 2
  serverName_fits : toHelloParts.serverName.length < 256 ^ 2
  extensions_fits : toHelloParts.extensions.length < 256 ^ 2
  body_fits : toHelloParts.body.length < 256 ^ 3
  handshake_fits : toHelloParts.handshake.length < 256 ^ 2

/-! ### Reading front to back -/

/-- The payload of a handshake record. -/
def takeHandshake (data : Bytes) : Option Bytes :=
  if number data 0 1 = 0x16 then (takeVector 2 (data.drop 3)).map Prod.fst else none

/-- The body of a ClientHello. -/
def takeBody (hs : Bytes) : Option Bytes :=
  if number hs 0 1 = 0x01 then (takeVector 3 (hs.drop 1)).map Prod.fst else none

/-- The extension block of a body. -/
def takeExtensions (body : Bytes) : Option Bytes :=
  (takeVector 1 (body.drop 34)).bind fun session =>
    (takeVector 2 session.2).bind fun ciphers =>
      (takeVector 1 ciphers.2).bind fun compression =>
        (takeVector 2 compression.2).map Prod.fst

def takeNames (serverName : Bytes) : Option Bytes := (takeVector 2 serverName).map Prod.fst

/-- The host name of a message. -/
def takeHostName (data : Bytes) : Option Bytes :=
  ((((takeHandshake data).bind takeBody).bind takeExtensions).bind (findItem 2 0)).bind
    fun serverName => (takeNames serverName).bind (findItem 1 0)

theorem number_cons (b : UInt8) (rest : Bytes) : number (b :: rest) 0 1 = b.toNat := by
  simp [number, slice, BigEndian.decode]

theorem takeHandshake_encode {version hs : Bytes} (versionLength : version.length = 2)
    (fits : hs.length < 256 ^ 2) (rest : Bytes) :
    takeHandshake (0x16 :: (version ++ (vector 2 hs ++ rest))) = some hs := by
  have behind : (0x16 :: (version ++ (vector 2 hs ++ rest))).drop 3 = vector 2 hs ++ rest := by
    rw [List.drop_succ_cons, List.drop_left' versionLength]
  rw [takeHandshake, number_cons, if_pos (by decide), behind, takeVector_vector fits, Option.map_some]

/-- A vector read at a position needs the bytes in front of it. -/
theorem drop_vector_long {bytes payload rest : Bytes} {pos width : Nat} (positive : 0 < width)
    (split : bytes.drop pos = vector width payload ++ rest) : pos < bytes.length := by
  have lengths := congrArg List.length split
  simp only [List.length_drop, List.length_append, vector_length] at lengths
  omega

theorem takeHandshake_exact {data hs : Bytes} (taken : takeHandshake data = some hs) :
    ∃ version rest, version.length = 2 ∧ hs.length < 256 ^ 2 ∧
      data = 0x16 :: (version ++ (vector 2 hs ++ rest)) := by
  obtain ⟨isHandshake, vectorTaken⟩ := Option.ite_none_right_eq_some.mp taken
  obtain ⟨⟨_, rest⟩, atThree, rfl⟩ := Option.map_eq_some_iff.mp vectorTaken
  obtain ⟨split, fits⟩ := takeVector_exact atThree
  have long := drop_vector_long (by decide) split
  match data, long with
  | kind :: major :: minor :: behind, _ =>
      rw [number_cons] at isHandshake
      have kindEq : kind = 0x16 := UInt8.toNat_inj.mp isHandshake
      refine ⟨[major, minor], rest, rfl, fits, ?_⟩
      change behind = _ at split
      rw [kindEq, split]
      rfl

theorem takeBody_encode {body : Bytes} (fits : body.length < 256 ^ 3) (rest : Bytes) :
    takeBody (0x01 :: (vector 3 body ++ rest)) = some body := by
  rw [takeBody, number_cons, if_pos (by decide), List.drop_succ_cons, List.drop_zero,
    takeVector_vector fits, Option.map_some]

theorem takeBody_exact {hs body : Bytes} (taken : takeBody hs = some body) :
    ∃ rest, body.length < 256 ^ 3 ∧ hs = 0x01 :: (vector 3 body ++ rest) := by
  obtain ⟨isClientHello, vectorTaken⟩ := Option.ite_none_right_eq_some.mp taken
  obtain ⟨⟨_, rest⟩, atOne, rfl⟩ := Option.map_eq_some_iff.mp vectorTaken
  obtain ⟨split, fits⟩ := takeVector_exact atOne
  have long := drop_vector_long (by decide) split
  match hs, long with
  | kind :: behind, _ =>
      rw [number_cons] at isClientHello
      have kindEq : kind = 0x01 := UInt8.toNat_inj.mp isClientHello
      refine ⟨rest, fits, ?_⟩
      change behind = _ at split
      rw [kindEq, split]

theorem takeExtensions_encode {random session ciphers compression exts : Bytes}
    (randomLength : random.length = 34) (sessionFits : session.length < 256 ^ 1)
    (ciphersFit : ciphers.length < 256 ^ 2) (compressionFits : compression.length < 256 ^ 1)
    (extsFit : exts.length < 256 ^ 2) (rest : Bytes) :
    takeExtensions (random ++ (vector 1 session ++ (vector 2 ciphers ++
      (vector 1 compression ++ (vector 2 exts ++ rest))))) = some exts := by
  rw [takeExtensions, List.drop_left' randomLength, takeVector_vector sessionFits, Option.bind_some,
    takeVector_vector ciphersFit, Option.bind_some, takeVector_vector compressionFits,
    Option.bind_some, takeVector_vector extsFit, Option.map_some]

theorem takeExtensions_exact {body exts : Bytes} (taken : takeExtensions body = some exts) :
    ∃ random session ciphers compression rest, random.length = 34 ∧ session.length < 256 ^ 1 ∧
      ciphers.length < 256 ^ 2 ∧ compression.length < 256 ^ 1 ∧ exts.length < 256 ^ 2 ∧
      body = random ++ (vector 1 session ++ (vector 2 ciphers ++
        (vector 1 compression ++ (vector 2 exts ++ rest)))) := by
  obtain ⟨⟨session, behindSession⟩, sessionTaken, taken⟩ := Option.bind_eq_some_iff.mp taken
  obtain ⟨⟨ciphers, behindCiphers⟩, ciphersTaken, taken⟩ := Option.bind_eq_some_iff.mp taken
  obtain ⟨⟨compression, behindCompression⟩, compressionTaken, taken⟩ :=
    Option.bind_eq_some_iff.mp taken
  obtain ⟨⟨_, rest⟩, extsTaken, rfl⟩ := Option.map_eq_some_iff.mp taken
  obtain ⟨sessionSplit, sessionFits⟩ := takeVector_exact sessionTaken
  obtain ⟨ciphersSplit, ciphersFit⟩ := takeVector_exact ciphersTaken
  obtain ⟨compressionSplit, compressionFits⟩ := takeVector_exact compressionTaken
  obtain ⟨extsSplit, extsFit⟩ := takeVector_exact extsTaken
  have long := drop_vector_long (by decide) sessionSplit
  refine ⟨body.take 34, session, ciphers, compression, rest, ?_, sessionFits, ciphersFit,
    compressionFits, extsFit, ?_⟩
  · rw [List.length_take]
    omega
  · have front := (List.take_append_drop 34 body).symm
    simp only at ciphersSplit compressionSplit extsSplit
    rw [← extsSplit, ← compressionSplit, ← ciphersSplit, ← sessionSplit]
    exact front

theorem takeNames_encode {names : Bytes} (fits : names.length < 256 ^ 2) (rest : Bytes) :
    takeNames (vector 2 names ++ rest) = some names := by
  rw [takeNames, takeVector_vector fits, Option.map_some]

theorem takeNames_exact {serverName names : Bytes} (taken : takeNames serverName = some names) :
    ∃ rest, names.length < 256 ^ 2 ∧ serverName = vector 2 names ++ rest := by
  obtain ⟨⟨_, rest⟩, vectorTaken, rfl⟩ := Option.map_eq_some_iff.mp taken
  obtain ⟨split, fits⟩ := takeVector_exact vectorTaken
  exact ⟨rest, fits, split⟩

/-! ### The reader accepts the encoded messages -/

theorem takeHostName_encode (hello : ClientHello) : takeHostName hello.encode = some hello.name := by
  have nameItem : Item.Fits 1 ⟨0, hello.name⟩ := ⟨Nat.pow_pos (by decide), hello.name_fits⟩
  have serverNameItem : Item.Fits 2 ⟨0, hello.serverName⟩ := ⟨Nat.pow_pos (by decide), hello.serverName_fits⟩
  have handshakeTaken : takeHandshake hello.encode = some hello.handshake :=
    takeHandshake_encode hello.recordVersion_length hello.handshake_fits hello.afterRecord
  have bodyTaken : takeBody hello.handshake = some hello.body :=
    takeBody_encode hello.body_fits hello.afterBody
  have extensionsTaken : takeExtensions hello.body = some hello.extensions :=
    takeExtensions_encode hello.versionAndRandom_length hello.sessionID_fits
      hello.cipherSuites_fits hello.compression_fits hello.extensions_fits hello.afterExtensions
  have serverNameFound : findItem 2 0 hello.extensions = some hello.serverName :=
    findItem_encode hello.otherExtensions serverNameItem hello.afterServerName
  have namesTaken : takeNames hello.serverName = some hello.names :=
    takeNames_encode hello.names_fits hello.afterNames
  have nameFound : findItem 1 0 hello.names = some hello.name :=
    findItem_encode hello.otherNames nameItem hello.afterName
  rw [takeHostName, handshakeTaken, Option.bind_some, bodyTaken, Option.bind_some, extensionsTaken,
    Option.bind_some, serverNameFound, Option.bind_some, namesTaken, Option.bind_some, nameFound]

theorem takeHostName_exact {data name : Bytes} (taken : takeHostName data = some name) :
    ∃ hello : ClientHello, hello.encode = data ∧ hello.name = name := by
  obtain ⟨serverName, taken, inServerName⟩ := Option.bind_eq_some_iff.mp taken
  obtain ⟨exts, taken, inExtensions⟩ := Option.bind_eq_some_iff.mp taken
  obtain ⟨body, taken, inBody⟩ := Option.bind_eq_some_iff.mp taken
  obtain ⟨hs, inRecord, inHandshake⟩ := Option.bind_eq_some_iff.mp taken
  obtain ⟨names, namesTaken, inNames⟩ := Option.bind_eq_some_iff.mp inServerName
  obtain ⟨version, afterRecord, versionLength, hsFits, rfl⟩ := takeHandshake_exact inRecord
  obtain ⟨afterBody, bodyFits, rfl⟩ := takeBody_exact inHandshake
  obtain ⟨random, session, ciphers, compression, afterExtensions, randomLength, sessionFits,
    ciphersFit, compressionFits, extsFit, rfl⟩ := takeExtensions_exact inBody
  obtain ⟨extensionsBefore, afterServerName, rfl, otherExtensions, serverNameItem⟩ :=
    findItem_exact inExtensions
  obtain ⟨afterNames, namesFit, rfl⟩ := takeNames_exact namesTaken
  obtain ⟨namesBefore, afterName, rfl, otherNames, nameItem⟩ := findItem_exact inNames
  refine ⟨⟨⟨version, random, session, ciphers, compression, extensionsBefore, namesBefore, name,
    afterName, afterNames, afterServerName, afterExtensions, afterBody, afterRecord⟩,
    versionLength, randomLength, sessionFits, ciphersFit, compressionFits, otherExtensions,
    otherNames, nameItem.2, namesFit, serverNameItem.2, extsFit, bodyFits, hsFits⟩, rfl, rfl⟩

theorem takeHostName_eq_some_iff {data name : Bytes} :
    takeHostName data = some name ↔ ∃ hello : ClientHello, hello.encode = data ∧ hello.name = name := by
  constructor
  · exact takeHostName_exact
  · rintro ⟨hello, rfl, rfl⟩
    exact takeHostName_encode hello

/-! ### The fake message -/

/-- `byte(n)` -/
def byte (n : Nat) : UInt8 := UInt8.ofNat n

def TLSClientHello : Bytes :=
  let sni := lit "www.google.com"
  let sniLen := sni.length
  let sniPayload : Bytes := [0x00, byte (sniLen >>> 8), byte sniLen] ++ sni
  let sniListLen := sniPayload.length
  let sniExtData : Bytes := [byte (sniListLen >>> 8), byte sniListLen] ++ sniPayload
  let sniExt : Bytes :=
    [0x00, 0x00, byte (sniExtData.length >>> 8), byte sniExtData.length] ++ sniExtData
  let body : Bytes := [0x03, 0x03]
  let body := body ++ List.replicate 32 0
  let body := body ++ [0x00]
  let body := body ++ [0x00, 0x02, 0x13, 0x01]
  let body := body ++ [0x01, 0x00]
  let body := body ++ [byte (sniExt.length >>> 8), byte sniExt.length]
  let body := body ++ sniExt
  let handshake : Bytes := [0x01, 0x00, byte (body.length >>> 8), byte body.length] ++ body
  [0x16, 0x03, 0x01, byte (handshake.length >>> 8), byte handshake.length] ++ handshake

/-- The parts of the fake message. -/
def googleHello : ClientHello where
  recordVersion := [0x03, 0x01]
  versionAndRandom := [0x03, 0x03] ++ List.replicate 32 0
  sessionID := []
  cipherSuites := [0x13, 0x01]
  compression := [0x00]
  extensionsBefore := []
  namesBefore := []
  name := lit "www.google.com"
  afterName := []
  afterNames := []
  afterServerName := []
  afterExtensions := []
  afterBody := []
  afterRecord := []
  recordVersion_length := by decide
  versionAndRandom_length := by decide
  sessionID_fits := by decide
  cipherSuites_fits := by decide
  compression_fits := by decide
  otherExtensions := fun _ member => by contradiction
  otherNames := fun _ member => by contradiction
  name_fits := by decide
  names_fits := by decide
  serverName_fits := by decide
  extensions_fits := by decide
  body_fits := by decide
  handshake_fits := by decide

theorem googleHello_encode : googleHello.encode = TLSClientHello := by decide

end Gecit.Fake
