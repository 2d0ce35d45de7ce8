import Accounts.Encoding.Sextet

/-! # Base64 for URLs

Bytes are written with letters, digits, `-` and `_`, without padding. Reading is lenient: `+` and
`/` are taken as well, foreign bytes are skipped, and everything after a complete padding is
ignored.
-/
namespace Accounts.Encoding.Base64

def char (n : Nat) : Char :=
  if n < 26 then Char.ofNat (n + 65)
  else if n < 52 then Char.ofNat (n + 71)
  else if n < 62 then Char.ofNat (n - 4)
  else if n = 62 then '-'
  else '_'

def value? (b : UInt8) : Option Nat :=
  let n := b.toNat
  if 65 ≤ n && n ≤ 90 then some (n - 65)
  else if 97 ≤ n && n ≤ 122 then some (n - 71)
  else if 48 ≤ n && n ≤ 57 then some (n + 4)
  else if n = 45 || n = 43 then some 62
  else if n = 95 || n = 47 then some 63
  else none

def pad : UInt8 := 61

def encode (bs : Bytes) : List Char :=
  encodeSextets char bs

inductive Fault where
  /-- One letter more than can be grouped; all letters are counted. -/
  | loneLetter (letters : Nat)
  | padding
  deriving DecidableEq, Repr

def Fault.message : Fault → String
  | .loneLetter letters =>
    "Invalid base64-encoded string: number of data characters (" ++ toString letters ++
      ") cannot be 1 more than a multiple of 4"
  | .padding => "Incorrect padding"

/-- The values of the letters before the padding is complete. `letters` letters, and `pads` padding
signs since the last of them, were met before. A group of four must be complete at the end. -/
def scan : (letters pads : Nat) → Bytes → Except Fault (List Nat)
  | letters, _, [] =>
    match letters % 4 with
    | 0 => .ok []
    | 1 => .error (.loneLetter letters)
    | _ => .error .padding
  | letters, pads, b :: r =>
    if b = pad then
      if 2 ≤ letters % 4 then
        if 4 ≤ letters % 4 + (pads + 1) then .ok [] else scan letters (pads + 1) r
      else scan letters pads r
    else
      match value? b with
      | none => scan letters pads r
      | some v => (scan (letters + 1) 0 r).map (v :: ·)

def fillUp (bs : Bytes) : Bytes :=
  bs ++ List.replicate ((4 - bs.length % 4) % 4) pad

def decode (bs : Bytes) : Except Fault Bytes :=
  (scan 0 0 (fillUp bs)).map ofSextets

def decode? (bs : Bytes) : Option Bytes :=
  (decode bs).toOption

end Accounts.Encoding.Base64
