import EntitySchema.Text.Hexadecimal
import EntitySchema.Text.Surrogate

namespace EntitySchema.Digest

def roundWords : List UInt32 := [
  0x428a2f98, 0x71374491, 0xb5c0fbcf, 0xe9b5dba5, 0x3956c25b, 0x59f111f1, 0x923f82a4, 0xab1c5ed5,
  0xd807aa98, 0x12835b01, 0x243185be, 0x550c7dc3, 0x72be5d74, 0x80deb1fe, 0x9bdc06a7, 0xc19bf174,
  0xe49b69c1, 0xefbe4786, 0x0fc19dc6, 0x240ca1cc, 0x2de92c6f, 0x4a7484aa, 0x5cb0a9dc, 0x76f988da,
  0x983e5152, 0xa831c66d, 0xb00327c8, 0xbf597fc7, 0xc6e00bf3, 0xd5a79147, 0x06ca6351, 0x14292967,
  0x27b70a85, 0x2e1b2138, 0x4d2c6dfc, 0x53380d13, 0x650a7354, 0x766a0abb, 0x81c2c92e, 0x92722c85,
  0xa2bfe8a1, 0xa81a664b, 0xc24b8b70, 0xc76c51a3, 0xd192e819, 0xd6990624, 0xf40e3585, 0x106aa070,
  0x19a4c116, 0x1e376c08, 0x2748774c, 0x34b0bcb5, 0x391c0cb3, 0x4ed8aa4a, 0x5b9cca4f, 0x682e6ff3,
  0x748f82ee, 0x78a5636f, 0x84c87814, 0x8cc70208, 0x90befffa, 0xa4506ceb, 0xbef9a3f7, 0xc67178f2]

/-- The eight words that blocks are mixed into. -/
structure State where
  a : UInt32
  b : UInt32
  c : UInt32
  d : UInt32
  e : UInt32
  f : UInt32
  g : UInt32
  h : UInt32
deriving DecidableEq

/-- The state before the first block. -/
def start : State :=
  ⟨0x6a09e667, 0xbb67ae85, 0x3c6ef372, 0xa54ff53a, 0x510e527f, 0x9b05688c, 0x1f83d9ab, 0x5be0cd19⟩

/-- The bits of a word turned to the right. -/
def turn (x : UInt32) (n : UInt32) : UInt32 := (x >>> n) ||| (x <<< (32 - n))

/-- The word at `index` in a list that holds the newest word first. -/
def wordAt (words : List UInt32) (index : Nat) : UInt32 := words.getD index 0

/-- Adds `count` words to a schedule that holds the newest word first. -/
def extend : Nat → List UInt32 → List UInt32
  | 0, words => words
  | count + 1, words =>
    let near := wordAt words 1
    let far := wordAt words 14
    let mixedNear := turn near 17 ^^^ turn near 19 ^^^ (near >>> 10)
    let mixedFar := turn far 7 ^^^ turn far 18 ^^^ (far >>> 3)
    extend count ((wordAt words 15 + mixedFar + wordAt words 6 + mixedNear) :: words)

def round (s : State) (word key : UInt32) : State :=
  let mixedE := turn s.e 6 ^^^ turn s.e 11 ^^^ turn s.e 25
  let choice := (s.e &&& s.f) ^^^ ((~~~ s.e) &&& s.g)
  let first := s.h + mixedE + choice + key + word
  let mixedA := turn s.a 2 ^^^ turn s.a 13 ^^^ turn s.a 22
  let majority := (s.a &&& s.b) ^^^ (s.a &&& s.c) ^^^ (s.b &&& s.c)
  ⟨first + (mixedA + majority), s.a, s.b, s.c, s.d + first, s.e, s.f, s.g⟩

def mix (s : State) (block : List UInt32) : State :=
  let words := (extend 48 block.reverse).reverse
  let t := (words.zip roundWords).foldl (fun t (word, key) => round t word key) s
  ⟨s.a + t.a, s.b + t.b, s.c + t.c, s.d + t.d, s.e + t.e, s.f + t.f, s.g + t.g, s.h + t.h⟩

/-- The words of a byte string of whole words. -/
def words : List UInt8 → List UInt32
  | a :: b :: c :: d :: rest =>
    ((a.toUInt32 <<< 24) ||| (b.toUInt32 <<< 16) ||| (c.toUInt32 <<< 8) ||| d.toUInt32) :: words rest
  | _ => []

/-- The bytes of a number, the highest first. -/
def bytesOf : Nat → Nat → List UInt8
  | 0, _ => []
  | width + 1, n => bytesOf width (n / 256) ++ [UInt8.ofNat (n % 256)]

/-- The bytes followed by a mark, zeros, and the number of their bits, up to a whole block. -/
def padded (bytes : List UInt8) : List UInt8 :=
  let zeros := (119 - bytes.length % 64) % 64
  bytes ++ 0x80 :: List.replicate zeros 0 ++ bytesOf 8 (8 * bytes.length)

/-- Mixes all blocks into a state; `count` bounds their number. -/
def mixAll : Nat → State → List UInt32 → State
  | 0, s, _ => s
  | _, s, [] => s
  | count + 1, s, words => mixAll count (mix s (words.take 16)) (words.drop 16)

def State.bytes (s : State) : List UInt8 :=
  [s.a, s.b, s.c, s.d, s.e, s.f, s.g, s.h].flatMap fun word => bytesOf 4 word.toNat

/-- The SHA-256 digest of a byte string. -/
def sha256 (bytes : List UInt8) : List UInt8 :=
  let words := words (padded bytes)
  (mixAll words.length start words).bytes

/-- The digest of bytes in hexadecimal digits. -/
def ofBytes (bytes : ByteArray) : String := Text.hexBytes (sha256 bytes.toList)

/-- The digest of the encoding of a text in hexadecimal digits. -/
def ofText (text : String) : Except Text.EncodingFault String := (Text.encode text).map ofBytes

end EntitySchema.Digest
