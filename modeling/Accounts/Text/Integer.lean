import Accounts.Text.Blank
import Accounts.Text.Digit

/-! # Integer numerals

An integer is written with an optional sign and digits of any script, with blanks around it and
single underscores between digits. In base sixteen it may start with `0x`. A decimal numeral of more
than 4300 digits is refused, whatever they are.
-/
namespace Accounts.Text.Integer

/-- Blanks around a numeral: those of a trimmed text without the information separators. -/
def isPadding (c : Char) : Bool :=
  isBlank c && !(0x1C ≤ c.toNat && c.toNat ≤ 0x1F)

def maxDigits : Nat := 4300

/-- The value of a hexadecimal digit: a decimal digit of any script or one of a to f. -/
def hexValue? (c : Char) : Option Nat :=
  match decimalValue? c with
  | some d => some d
  | none =>
    if 'a' ≤ c && c ≤ 'f' then some (c.toNat - 'a'.toNat + 10)
    else if 'A' ≤ c && c ≤ 'F' then some (c.toNat - 'A'.toNat + 10)
    else none

def digitValues (value? : Char → Option Nat) : List Char → Option (List Nat)
  | [] => none
  | [c] => (value? c).map ([·])
  | c :: '_' :: r => do
    let d ← value? c
    let ds ← digitValues value? r
    pure (d :: ds)
  | c :: r => do
    let d ← value? c
    let ds ← digitValues value? r
    pure (d :: ds)

/-- The number that digit values stand for, the first one being the most significant. -/
def ofDigits (base : Nat) (ds : List Nat) : Nat :=
  ds.foldl (fun n d => n * base + d) 0

def ofFigures? (cs : List Char) : Option Nat :=
  if cs.isEmpty || !cs.all isAsciiDigit then none
  else some (ofDigits 10 (cs.map fun c => c.toNat - '0'.toNat))

def signed (read? : List Char → Option Nat) : List Char → Option Int
  | '-' :: r => (read? r).map fun n => -(n : Int)
  | '+' :: r => (read? r).map Int.ofNat
  | r => (read? r).map Int.ofNat

def decimalDigits (cs : List Char) : Option Nat := do
  let ds ← digitValues decimalValue? cs
  guard (ds.length ≤ maxDigits)
  pure (ofDigits 10 ds)

def dropHexMark : List Char → List Char
  | '0' :: 'x' :: '_' :: r => r
  | '0' :: 'X' :: '_' :: r => r
  | '0' :: 'x' :: r => r
  | '0' :: 'X' :: r => r
  | r => r

def ofDecimal? (s : String) : Option Int :=
  signed decimalDigits (stripWhere isPadding s.toList)

def ofHex? (s : String) : Option Int :=
  signed (fun cs => (digitValues hexValue? (dropHexMark cs)).map (ofDigits 16))
    (stripWhere isPadding s.toList)

end Accounts.Text.Integer
