-- The SHA-256 digest of a row of bytes (FIPS 180-4).

namespace Custody.Hash.Sha256

-- The first 32 bits of the fractional parts of the cube roots of the first 64 primes.
def roundConstants : List UInt32 := [
  0x428a2f98,0x71374491,0xb5c0fbcf,0xe9b5dba5,0x3956c25b,0x59f111f1,0x923f82a4,0xab1c5ed5,
  0xd807aa98,0x12835b01,0x243185be,0x550c7dc3,0x72be5d74,0x80deb1fe,0x9bdc06a7,0xc19bf174,
  0xe49b69c1,0xefbe4786,0x0fc19dc6,0x240ca1cc,0x2de92c6f,0x4a7484aa,0x5cb0a9dc,0x76f988da,
  0x983e5152,0xa831c66d,0xb00327c8,0xbf597fc7,0xc6e00bf3,0xd5a79147,0x06ca6351,0x14292967,
  0x27b70a85,0x2e1b2138,0x4d2c6dfc,0x53380d13,0x650a7354,0x766a0abb,0x81c2c92e,0x92722c85,
  0xa2bfe8a1,0xa81a664b,0xc24b8b70,0xc76c51a3,0xd192e819,0xd6990624,0xf40e3585,0x106aa070,
  0x19a4c116,0x1e376c08,0x2748774c,0x34b0bcb5,0x391c0cb3,0x4ed8aa4a,0x5b9cca4f,0x682e6ff3,
  0x748f82ee,0x78a5636f,0x84c87814,0x8cc70208,0x90befffa,0xa4506ceb,0xbef9a3f7,0xc67178f2]

structure Words where
  a : UInt32
  b : UInt32
  c : UInt32
  d : UInt32
  e : UInt32
  f : UInt32
  g : UInt32
  h : UInt32
  deriving DecidableEq

-- The first 32 bits of the fractional parts of the square roots of the first eight primes.
def start : Words :=
  ⟨0x6a09e667,0xbb67ae85,0x3c6ef372,0xa54ff53a,
   0x510e527f,0x9b05688c,0x1f83d9ab,0x5be0cd19⟩

def rotateRight (x n : UInt32) : UInt32 := (x >>> n) ||| (x <<< (32 - n))

def eightBytes (n : Nat) : List UInt8 :=
  (List.range 8).map fun i => UInt8.ofNat (n >>> (8 * (7 - i)))

def pad (bytes : List UInt8) : List UInt8 :=
  let zeros := (119 - bytes.length % 64) % 64
  bytes ++ [0x80] ++ List.replicate zeros 0 ++ eightBytes (8 * bytes.length)

def wordsOf : List UInt8 → List UInt32
  | p :: q :: r :: s :: rest =>
    ((p.toUInt32 <<< 24) ||| (q.toUInt32 <<< 16) ||| (r.toUInt32 <<< 8) ||| s.toUInt32)
      :: wordsOf rest
  | _ => []

def blocksOf : Nat → List UInt32 → List (List UInt32)
  | 0,_ => []
  | count+1,words => words.take 16 :: blocksOf count (words.drop 16)

def nextWord (window : List UInt32) : UInt32 :=
  let two := window.getD 14 0
  let fifteen := window.getD 1 0
  (rotateRight two 17 ^^^ rotateRight two 19 ^^^ (two >>> 10)) + window.getD 9 0
    + (rotateRight fifteen 7 ^^^ rotateRight fifteen 18 ^^^ (fifteen >>> 3)) + window.getD 0 0

def schedule : Nat → List UInt32 → List UInt32
  | 0,_ => []
  | count+1,window => window.getD 0 0 :: schedule count (window.drop 1 ++ [nextWord window])

def round (w : Words) (constant word : UInt32) : Words :=
  let high := rotateRight w.e 6 ^^^ rotateRight w.e 11 ^^^ rotateRight w.e 25
  let choice := (w.e &&& w.f) ^^^ ((~~~w.e) &&& w.g)
  let first := w.h + high + choice + constant + word
  let low := rotateRight w.a 2 ^^^ rotateRight w.a 13 ^^^ rotateRight w.a 22
  let majority := (w.a &&& w.b) ^^^ (w.a &&& w.c) ^^^ (w.b &&& w.c)
  ⟨first + (low + majority),w.a,w.b,w.c,w.d + first,w.e,w.f,w.g⟩

def add (x y : Words) : Words :=
  ⟨x.a + y.a,x.b + y.b,x.c + y.c,x.d + y.d,x.e + y.e,x.f + y.f,x.g + y.g,x.h + y.h⟩

def absorb (w : Words) (block : List UInt32) : Words :=
  let steps := roundConstants.zip (schedule 64 block)
  add w (steps.foldl (fun now step => round now step.1 step.2) w)

def bytesOfWord (w : UInt32) : List UInt8 :=
  [(w >>> 24).toUInt8,(w >>> 16).toUInt8,(w >>> 8).toUInt8,w.toUInt8]

def Words.toBytes (w : Words) : List UInt8 :=
  [w.a,w.b,w.c,w.d,w.e,w.f,w.g,w.h].flatMap bytesOfWord

def digest (bytes : List UInt8) : List UInt8 :=
  let padded := pad bytes
  ((blocksOf (padded.length / 64) (wordsOf padded)).foldl absorb start).toBytes

end Custody.Hash.Sha256
