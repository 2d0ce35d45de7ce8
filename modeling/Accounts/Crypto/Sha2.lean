import Accounts.Text.Utf8

/-! # The SHA-2 hash functions

One construction serves two word sizes. The round constants are the first bits of the fractional
parts of the cube roots of the primes, the initial values those of the square roots; both are
computed here by that rule.
-/
namespace Accounts.Crypto

def isPrime (n : Nat) : Bool :=
  2 ≤ n && (List.range n).all fun d => d < 2 || n % d != 0

/-- The primes in order; the 80th is 409. -/
def primes : List Nat :=
  (List.range 410).filter isPrime

/-- The greatest number below `2 ^ bits` above `low` steps whose `k`-th power is at most `n`. -/
def rootFrom (k n : Nat) : (bits low : Nat) → Nat
  | 0, low => low
  | bits + 1, low =>
    let next := low + Nat.pow 2 bits
    rootFrom k n bits (if Nat.pow next k ≤ n then next else low)

def rootFraction (k n : Nat) : Nat :=
  rootFrom k (n * Nat.pow 2 (64 * k)) 70 0 % Nat.pow 2 64

namespace Sha2

variable {w : Nat}

/-- A rotation by two amounts, and a third one that rotates or shifts. -/
structure Mix where
  first : Nat
  second : Nat
  third : Nat

structure Variant (w : Nat) where
  big0 : Mix
  big1 : Mix
  small0 : Mix
  small1 : Mix
  constants : List (BitVec w)
  start : List (BitVec w)
  size : Nat

/-- Bytes in a block of sixteen words. -/
def blockSize (w : Nat) : Nat := 2 * w

def Mix.rotations (m : Mix) (x : BitVec w) : BitVec w :=
  x.rotateRight m.first ^^^ x.rotateRight m.second ^^^ x.rotateRight m.third

def Mix.shifted (m : Mix) (x : BitVec w) : BitVec w :=
  x.rotateRight m.first ^^^ x.rotateRight m.second ^^^ (x >>> m.third)

/-- The message with a one bit, zeros, and its length in bits at the end of the last block. -/
def padded (w : Nat) (msg : Bytes) : Bytes :=
  let lengthSize := w / 4
  let block := blockSize w
  let zeros := (2 * block - (msg.length + 1 + lengthSize) % block) % block
  let bits := msg.length * 8
  msg ++ 0x80 :: List.replicate zeros 0 ++
    (List.range lengthSize).reverse.map fun i => UInt8.ofNat (bits / Nat.pow 256 i)

/-- Words from bytes, the most significant byte first; the fuel bounds their number. -/
def words (w : Nat) : Nat → Bytes → List (BitVec w)
  | 0, _ => []
  | fuel + 1, bs =>
    match bs with
    | [] => []
    | _ => BitVec.ofNat w ((bs.take (w / 8)).foldl (fun n b => n * 256 + b.toNat) 0) ::
        words w fuel (bs.drop (w / 8))

def schedule (v : Variant w) : Nat → List (BitVec w) → List (BitVec w)
  | 0, _ => []
  | n + 1, last =>
    let next := v.small1.shifted (last.getD 14 0) + last.getD 9 0 +
      v.small0.shifted (last.getD 1 0) + last.getD 0 0
    next :: schedule v n (last.drop 1 ++ [next])

def round (v : Variant w) (s : List (BitVec w)) (k x : BitVec w) : List (BitVec w) :=
  match s with
  | [a, b, c, d, e, f, g, h] =>
    let t1 := h + v.big1.rotations e + ((e &&& f) ^^^ (~~~e &&& g)) + k + x
    let t2 := v.big0.rotations a + ((a &&& b) ^^^ (a &&& c) ^^^ (b &&& c))
    [t1 + t2, a, b, c, d + t1, e, f, g]
  | _ => s

def compress (v : Variant w) (s block : List (BitVec w)) : List (BitVec w) :=
  let ws := block ++ schedule v (v.constants.length - 16) block
  let t := (v.constants.zip ws).foldl (fun s kx => round v s kx.1 kx.2) s
  s.zipWith (· + ·) t

/-- The chaining words after a sequence of words; the fuel bounds the blocks. -/
def absorb (v : Variant w) : Nat → List (BitVec w) → List (BitVec w) → List (BitVec w)
  | 0, s, _ => s
  | fuel + 1, s, ws =>
    match ws with
    | [] => s
    | _ => absorb v fuel (compress v s (ws.take 16)) (ws.drop 16)

def wordBytes (x : BitVec w) : Bytes :=
  (List.range (w / 8)).reverse.map fun i => UInt8.ofNat (x.toNat / Nat.pow 256 i)

def hash (v : Variant w) (msg : Bytes) : Bytes :=
  let bs := padded w msg
  let ws := words w bs.length bs
  ((absorb v ws.length v.start ws).flatMap wordBytes).take v.size

def sha256 : Variant 32 where
  big0 := ⟨2, 13, 22⟩
  big1 := ⟨6, 11, 25⟩
  small0 := ⟨7, 18, 3⟩
  small1 := ⟨17, 19, 10⟩
  constants := (primes.take 64).map fun p => BitVec.ofNat 32 (rootFraction 3 p / Nat.pow 2 32)
  start := (primes.take 8).map fun p => BitVec.ofNat 32 (rootFraction 2 p / Nat.pow 2 32)
  size := 32

def sha512 : Variant 64 where
  big0 := ⟨28, 34, 39⟩
  big1 := ⟨14, 18, 41⟩
  small0 := ⟨1, 8, 7⟩
  small1 := ⟨19, 61, 6⟩
  constants := (primes.take 80).map fun p => BitVec.ofNat 64 (rootFraction 3 p)
  start := (primes.take 8).map fun p => BitVec.ofNat 64 (rootFraction 2 p)
  size := 64

def sha384 : Variant 64 :=
  { sha512 with
    start := ((primes.drop 8).take 8).map fun p => BitVec.ofNat 64 (rootFraction 2 p)
    size := 48 }

end Sha2

/-- A keyed hash: the message is hashed with the key inside and once more outside. Keys longer than
a block are hashed first. -/
def hmac {w : Nat} (v : Sha2.Variant w) (key msg : Bytes) : Bytes :=
  let block := Sha2.blockSize w
  let short := if block < key.length then Sha2.hash v key else key
  let full := short ++ List.replicate (block - short.length) 0
  Sha2.hash v (full.map (· ^^^ 0x5c) ++ Sha2.hash v (full.map (· ^^^ 0x36) ++ msg))

end Accounts.Crypto
