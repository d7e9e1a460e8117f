import BicepTemplates.Digest.Hex
import BicepTemplates.Digest.Md5
import BicepTemplates.Digest.Sha1

/-! # Derived identifiers

Generated names must not change from run to run, so they are derived from a seed: an identifier
is the first word of the seed's SHA-1 digest, as eight hexadecimal digits in upper case; a GUID is
its MD5 digest, with the first three fields read lowest byte first.
-/

namespace BicepTemplates

open Digest

def identifierChars (seed : String) : List Char :=
  hex .upper 8 (Sha1.digest seed.toUTF8.data.toList).a.toNat

def identifier (seed : String) : String :=
  String.ofList (identifierChars seed)

def guid (seed : String) : String :=
  let d := Md5.digest seed.toUTF8.data.toList
  let bytes (w : UInt32) := (littleEndian w).flatMap fun b => hex .lower 2 b.toNat
  let tail := bytes d.c ++ bytes d.d
  String.ofList (hex .lower 8 d.a.toNat ++ '-' :: hex .lower 4 d.b.toNat ++
    '-' :: hex .lower 4 (d.b.toNat / 65536) ++ '-' :: tail.take 4 ++ '-' :: tail.drop 4)

end BicepTemplates
