import Accounts.Text.Utf8

/-! # The Blowfish cipher

The cipher's state is 18 round keys followed by four boxes of 256 words. It starts from the
fractional part of π, computed here from Machin's formula `π = 16 atan (1/5) - 4 atan (1/239)`.
-/
namespace Accounts.Crypto.Blowfish

/-- Adds up `± scale / ((2 k + 1) x ^ (2 k + 1))` for `terms` values of `k`; `power` is
`scale / x ^ (2 k + 1)`. -/
def arctanFrom (square : Nat) : (terms k power : Nat) → Int → Int
  | 0, _, _, sum => sum
  | terms + 1, k, power, sum =>
    let term : Int := (power / (2 * k + 1) : Nat)
    arctanFrom square terms (k + 1) (power / square) (if k % 2 = 0 then sum + term else sum - term)

def arctanInverse (scale x terms : Nat) : Int :=
  arctanFrom (x * x) terms 0 (scale / x) 0

def size : Nat := 18 + 4 * 256

def piBits : Nat := 32 * size

def piFraction : Nat :=
  let scale := Nat.pow 2 (piBits + 64)
  let value := 16 * arctanInverse scale 5 (piBits / 4) - 4 * arctanInverse scale 239 (piBits / 15)
  (value.toNat / Nat.pow 2 64) % Nat.pow 2 piBits

structure State where
  words : Array UInt32

def initial : State :=
  ⟨(Array.range size).map fun i => UInt32.ofNat (piFraction >>> (32 * (size - 1 - i)))⟩

@[inline] def State.get (s : State) (i : Nat) : UInt32 :=
  s.words.getD i 0

@[inline] def State.box (s : State) (x : UInt32) : UInt32 :=
  let a := s.get (18 + (x >>> 24).toNat)
  let b := s.get (274 + ((x >>> 16) &&& 255).toNat)
  let c := s.get (530 + ((x >>> 8) &&& 255).toNat)
  let d := s.get (786 + (x &&& 255).toNat)
  ((a + b) ^^^ c) + d

def State.rounds (s : State) : (left i : Nat) → UInt32 → UInt32 → UInt32 × UInt32
  | 0, _, l, r => (l, r)
  | left + 1, i, l, r =>
    let l := l ^^^ s.get i
    s.rounds left (i + 1) (r ^^^ s.box l) l

def State.encipher (s : State) (l r : UInt32) : UInt32 × UInt32 :=
  let (l, r) := s.rounds 16 0 l r
  (r ^^^ s.get 17, l ^^^ s.get 16)

def State.mixKey (s : State) (key : Array UInt32) : State :=
  ⟨(List.range 18).foldl (fun ws i => ws.modify i (· ^^^ key.getD i 0)) s.words⟩

/-- Replaces the words from position `2 i` on, two at a time, by the encipherments of a running
block, into which the four salt words are mixed in turn. -/
def State.refill (salt : Array UInt32) : (left i : Nat) → UInt32 → UInt32 → State → State
  | 0, _, _, _, s => s
  | left + 1, i, l, r, s =>
    let at0 := 2 * (i % 2)
    let (l, r) := s.encipher (l ^^^ salt.getD at0 0) (r ^^^ salt.getD (at0 + 1) 0)
    State.refill salt left (i + 1) l r
      ⟨(s.words.setIfInBounds (2 * i) l).setIfInBounds (2 * i + 1) r⟩

def State.expand (s : State) (salt key : Array UInt32) : State :=
  State.refill salt (size / 2) 0 0 0 (s.mixKey key)

end Accounts.Crypto.Blowfish
