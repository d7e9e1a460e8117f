import BicepTemplates.Digest.Word

/-! # SHA-1 -/

namespace BicepTemplates.Digest.Sha1

structure State where
  a : UInt32
  b : UInt32
  c : UInt32
  d : UInt32
  e : UInt32

def initial : State := ⟨0x67452301, 0xEFCDAB89, 0x98BADCFE, 0x10325476, 0xC3D2E1F0⟩

/-- Eighty words from the sixteen of a block: each further one combines four earlier ones. -/
def schedule (block : List UInt32) : Array UInt32 :=
  (List.range 64).foldl (fun w i =>
    let word k := w.getD (i + k) 0
    w.push (rotateLeft (word 13 ^^^ word 8 ^^^ word 2 ^^^ word 0) 1)) block.toArray

/-- The mixing function and constant of a round. -/
def mix (s : State) (round : Nat) : UInt32 :=
  if round < 20 then ((s.b &&& s.c) ||| (~~~s.b &&& s.d)) + 0x5A827999
  else if round < 40 then (s.b ^^^ s.c ^^^ s.d) + 0x6ED9EBA1
  else if round < 60 then ((s.b &&& s.c) ||| (s.b &&& s.d) ||| (s.c &&& s.d)) + 0x8F1BBCDC
  else (s.b ^^^ s.c ^^^ s.d) + 0xCA62C1D6

def compress (s : State) (block : List UInt32) : State :=
  let w := schedule block
  let t := (List.range 80).foldl (fun t i =>
    ⟨rotateLeft t.a 5 + mix t i + t.e + w.getD i 0, t.a, rotateLeft t.b 30, t.c, t.d⟩) s
  ⟨s.a + t.a, s.b + t.b, s.c + t.c, s.d + t.d, s.e + t.e⟩

/-- The five words of the digest, most significant first. -/
def digest (message : List UInt8) : State :=
  (ByteOrder.big.blocksOf message).foldl compress initial

end BicepTemplates.Digest.Sha1
