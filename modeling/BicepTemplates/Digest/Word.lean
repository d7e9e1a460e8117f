/-! # Words of a message

Both digests read a message as 32-bit words in blocks of sixteen, after padding it with a one bit,
zeros, and its length in bits. They differ in the order of the bytes of a word.
-/

namespace BicepTemplates.Digest

inductive ByteOrder where
  | big
  | little

/-- The word of four bytes. -/
def ByteOrder.word (order : ByteOrder) (a b c d : UInt8) : UInt32 :=
  match order with
  | big => (a.toUInt32 <<< 24) ||| (b.toUInt32 <<< 16) ||| (c.toUInt32 <<< 8) ||| d.toUInt32
  | little => (d.toUInt32 <<< 24) ||| (c.toUInt32 <<< 16) ||| (b.toUInt32 <<< 8) ||| a.toUInt32

/-- The bytes of a word, lowest first. -/
def littleEndian (w : UInt32) : List UInt8 :=
  [w.toUInt8, (w >>> 8).toUInt8, (w >>> 16).toUInt8, (w >>> 24).toUInt8]

/-- The eight bytes that hold the length of a message in bits. -/
def ByteOrder.lengthBytes (order : ByteOrder) (bits : Nat) : List UInt8 :=
  let low := (List.range 8).map fun i => UInt8.ofNat (bits / Nat.pow 256 i)
  match order with
  | big => low.reverse
  | little => low

def ByteOrder.padded (order : ByteOrder) (message : List UInt8) : List UInt8 :=
  let zeros := (119 - message.length % 64) % 64
  message ++ 0x80 :: List.replicate zeros 0 ++ order.lengthBytes (8 * message.length)

def ByteOrder.words (order : ByteOrder) : List UInt8 → List UInt32
  | a :: b :: c :: d :: rest => order.word a b c d :: order.words rest
  | _ => []

/-- Consecutive blocks of sixteen words. -/
def blocks (words : List UInt32) : List (List UInt32) :=
  (List.range (words.length / 16)).map fun i => (words.drop (16 * i)).take 16

def ByteOrder.blocksOf (order : ByteOrder) (message : List UInt8) : List (List UInt32) :=
  blocks (order.words (order.padded message))

def rotateLeft (w : UInt32) (n : UInt32) : UInt32 :=
  (w <<< n) ||| (w >>> (32 - n))

end BicepTemplates.Digest
