import Accounts.Text.Utf8

/-! # Reading damaged UTF-8

Bytes are read as text whatever they are. Where they leave off being UTF-8, the longest start of a
character found there becomes one replacement character, and a byte that starts none becomes one of
its own.
-/
namespace Accounts.Text

def replacement : Char := '\ufffd'

/-- A character that has begun: the bits so far, the number of bytes to come, and the range of the
next one. -/
structure Begun where
  bits : Nat
  left : Nat
  low : Nat
  high : Nat
  deriving DecidableEq, Repr

/-- The character that a lead byte begins. The first ranges leave out overlong forms, surrogates and
what lies beyond the last code point. -/
def Begun.ofLead? (b : Nat) : Option Begun :=
  if 0xC2 ≤ b && b ≤ 0xDF then some ⟨b - 0xC0, 1, 0x80, 0xBF⟩
  else if b == 0xE0 then some ⟨0, 2, 0xA0, 0xBF⟩
  else if b == 0xED then some ⟨0xD, 2, 0x80, 0x9F⟩
  else if 0xE1 ≤ b && b ≤ 0xEF then some ⟨b - 0xE0, 2, 0x80, 0xBF⟩
  else if b == 0xF0 then some ⟨0, 3, 0x90, 0xBF⟩
  else if b == 0xF4 then some ⟨4, 3, 0x80, 0x8F⟩
  else if 0xF1 ≤ b && b ≤ 0xF3 then some ⟨b - 0xF0, 3, 0x80, 0xBF⟩
  else none

def start (b : Nat) : List Char × Option Begun :=
  if b < 0x80 then ([Char.ofNat b], none)
  else
    match Begun.ofLead? b with
    | some s => ([], some s)
    | none => ([replacement], none)

def advance (begun : Option Begun) (b : Nat) : List Char × Option Begun :=
  match begun with
  | none => start b
  | some s =>
    if s.low ≤ b && b ≤ s.high then
      let bits := 64 * s.bits + b % 64
      if s.left ≤ 1 then ([Char.ofNat bits], none)
      else ([], some ⟨bits, s.left - 1, 0x80, 0xBF⟩)
    else (replacement :: (start b).1, (start b).2)

def readLossy (begun : Option Begun) : Bytes → List Char
  | [] => if begun.isSome then [replacement] else []
  | b :: r => (advance begun b.toNat).1 ++ readLossy (advance begun b.toNat).2 r

def lossy (bs : Bytes) : List Char :=
  readLossy none bs

end Accounts.Text
