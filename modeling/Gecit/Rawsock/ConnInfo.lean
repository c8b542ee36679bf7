import Gecit.Foundation.BigEndian

/-!
Contract: Go's IP addresses and the connection record handed to the packet builder.

An address is its byte string: four bytes, or sixteen with the IPv4 addresses
mapped under `::ffff:0:0/96`. `to4` and `to16` are the two conversions of the
standard library.

Owns the address conversions, `ConnInfo` and the list of supported platforms.
Does not own any packet layout.
-/

namespace Gecit.Rawsock

open Gecit.Foundation

inductive Platform where
  | linux
  | darwin
  | windows
deriving DecidableEq, Repr

abbrev IP := Bytes

/-- First twelve bytes of an IPv4-mapped address. -/
def v4InV6Prefix : Bytes := List.replicate 10 0 ++ [0xff, 0xff]

def to4 (ip : IP) : Option IP :=
  if ip.length = 4 then some ip
  else if ip.length = 16 ∧ ip.take 12 = v4InV6Prefix then some (ip.drop 12)
  else none

def to16 (ip : IP) : Option IP :=
  if ip.length = 4 then some (v4InV6Prefix ++ ip)
  else if ip.length = 16 then some ip
  else none

/-- The bytes of a possibly nil address. -/
def bytesOf (ip : Option IP) : Bytes := ip.getD []

structure ConnInfo where
  SrcIP : IP
  DstIP : IP
  SrcPort : UInt16
  DstPort : UInt16
  Seq : UInt32
  Ack : UInt32
  /-- Hop limit of the SYN-ACK; zero when unknown. -/
  HopLimit : UInt8
deriving DecidableEq, Repr

theorem to4_length {ip short : IP} (isIPv4 : to4 ip = some short) : short.length = 4 := by
  simp only [to4] at isIPv4
  split at isIPv4
  next four =>
    obtain rfl := Option.some.inj isIPv4
    exact four
  next =>
    split at isIPv4
    next mapped =>
      obtain rfl := Option.some.inj isIPv4
      rw [List.length_drop]
      omega
    next => contradiction

theorem to16_of_length {ip : IP} (sixteen : ip.length = 16) : to16 ip = some ip := by
  rw [to16, if_neg (by omega), if_pos sixteen]

end Gecit.Rawsock
