/-!
# The hash SHA-256

`Sha256.digest` pads the bytes to whole blocks of 64, folds `compress` over the blocks, and writes
the eight words of the last state with the high byte first. All arithmetic is modulo `2 ^ 32`.
-/

set_option autoImplicit false

namespace CompletionCache.Sha256

/-- The eight working words. -/
structure State where
  a : UInt32
  b : UInt32
  c : UInt32
  d : UInt32
  e : UInt32
  f : UInt32
  g : UInt32
  h : UInt32
  deriving DecidableEq

/-- The state before the first block. -/
def initial : State :=
  ⟨0x6a09e667, 0xbb67ae85, 0x3c6ef372, 0xa54ff53a, 0x510e527f, 0x9b05688c, 0x1f83d9ab, 0x5be0cd19⟩

/-- One constant for each of the 64 rounds. -/
def roundConstants : List UInt32 :=
  [0x428a2f98, 0x71374491, 0xb5c0fbcf, 0xe9b5dba5, 0x3956c25b, 0x59f111f1, 0x923f82a4, 0xab1c5ed5,
   0xd807aa98, 0x12835b01, 0x243185be, 0x550c7dc3, 0x72be5d74, 0x80deb1fe, 0x9bdc06a7, 0xc19bf174,
   0xe49b69c1, 0xefbe4786, 0x0fc19dc6, 0x240ca1cc, 0x2de92c6f, 0x4a7484aa, 0x5cb0a9dc, 0x76f988da,
   0x983e5152, 0xa831c66d, 0xb00327c8, 0xbf597fc7, 0xc6e00bf3, 0xd5a79147, 0x06ca6351, 0x14292967,
   0x27b70a85, 0x2e1b2138, 0x4d2c6dfc, 0x53380d13, 0x650a7354, 0x766a0abb, 0x81c2c92e, 0x92722c85,
   0xa2bfe8a1, 0xa81a664b, 0xc24b8b70, 0xc76c51a3, 0xd192e819, 0xd6990624, 0xf40e3585, 0x106aa070,
   0x19a4c116, 0x1e376c08, 0x2748774c, 0x34b0bcb5, 0x391c0cb3, 0x4ed8aa4a, 0x5b9cca4f, 0x682e6ff3,
   0x748f82ee, 0x78a5636f, 0x84c87814, 0x8cc70208, 0x90befffa, 0xa4506ceb, 0xbef9a3f7, 0xc67178f2]

/-- The word turned right by `n` bits. -/
def rotateRight (x : UInt32) (n : UInt32) : UInt32 := (x >>> n) ||| (x <<< (32 - n))

/-- The word of the schedule that follows the words of `window`, of which there are at least 16. -/
def nextWord (window : Array UInt32) : UInt32 :=
  let word (back : Nat) : UInt32 := window.getD (window.size - back) 0
  let x := word 15
  let y := word 2
  word 16 + (rotateRight x 7 ^^^ rotateRight x 18 ^^^ (x >>> 3)) + word 7 +
    (rotateRight y 17 ^^^ rotateRight y 19 ^^^ (y >>> 10))

/-- The 64 words that a block of 16 words is stretched to. -/
def schedule (block : Array UInt32) : Array UInt32 :=
  (List.range 48).foldl (fun window _ => window.push (nextWord window)) block

/-- One round, with its word of the schedule and its constant. -/
def round (s : State) (word constant : UInt32) : State :=
  let sum := rotateRight s.e 6 ^^^ rotateRight s.e 11 ^^^ rotateRight s.e 25
  let choice := (s.e &&& s.f) ^^^ (~~~s.e &&& s.g)
  let first := s.h + sum + choice + constant + word
  let turned := rotateRight s.a 2 ^^^ rotateRight s.a 13 ^^^ rotateRight s.a 22
  let majority := (s.a &&& s.b) ^^^ (s.a &&& s.c) ^^^ (s.b &&& s.c)
  ⟨first + (turned + majority), s.a, s.b, s.c, s.d + first, s.e, s.f, s.g⟩

/-- The state after a block of 16 words. -/
def compress (s : State) (block : Array UInt32) : State :=
  let steps := (schedule block).toList.zip roundConstants
  let last := steps.foldl (fun s pair => round s pair.1 pair.2) s
  ⟨s.a + last.a, s.b + last.b, s.c + last.c, s.d + last.d,
   s.e + last.e, s.f + last.f, s.g + last.g, s.h + last.h⟩

/-- A number as `width` bytes, the high byte first. -/
def bigEndian (width n : Nat) : List UInt8 :=
  (List.range width).map fun i => UInt8.ofNat (n / Nat.pow 256 (width - 1 - i))

/-- The bytes followed by a one bit, zero bits up to eight bytes before the end of a block, and the
count of bits. -/
def padded (bytes : List UInt8) : List UInt8 :=
  bytes ++ 0x80 :: List.replicate ((119 - bytes.length % 64) % 64) 0 ++
    bigEndian 8 (8 * bytes.length)

/-- The word at position `i`, in words, of some bytes. -/
def wordAt (bytes : Array UInt8) (i : Nat) : UInt32 :=
  let byte (k : Nat) : UInt32 := (bytes.getD (4 * i + k) 0).toUInt32
  (byte 0 <<< 24) ||| (byte 1 <<< 16) ||| (byte 2 <<< 8) ||| byte 3

/-- The state after all blocks of some padded bytes. -/
def run (bytes : Array UInt8) : State :=
  (List.range (bytes.size / 64)).foldl
    (fun s block => compress s ((Array.range 16).map fun i => wordAt bytes (16 * block + i)))
    initial

/-- The words of a state. -/
def State.words (s : State) : List UInt32 := [s.a, s.b, s.c, s.d, s.e, s.f, s.g, s.h]

/-- The 32 bytes of the hash. -/
def digest (bytes : List UInt8) : List UInt8 :=
  (run (padded bytes).toArray).words.flatMap fun word => bigEndian 4 word.toNat

/-- Two small hexadecimal digits for each byte. -/
def hex (bytes : List UInt8) : String :=
  String.ofList (bytes.flatMap fun b =>
    [Nat.digitChar (b.toNat / 16), Nat.digitChar (b.toNat % 16)])

/-- The hash of the bytes of a text, in hexadecimal digits. -/
def hexDigest (s : String) : String := hex (digest s.toUTF8.toList)

end CompletionCache.Sha256
