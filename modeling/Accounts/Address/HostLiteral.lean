import Accounts.Text.Digit
import Accounts.Text.Escaped

/-! # Literal hosts

A host in brackets is an IP address of version 6, perhaps with a zone behind a percent sign, or one
of a later version. An address of version 6 has eight groups of hexadecimal digits; two colons in a
row stand for one or more groups of zeros, once, and the last two groups may be written as an
address of version 4.
-/
namespace Accounts.Address

open Text (pieces)

def isHexDigit (c : Char) : Bool :=
  (Text.FormEncoding.hexValue? c).isSome

def isGroup (cs : List Char) : Bool :=
  !cs.isEmpty && cs.length ≤ 4 && cs.all isHexDigit

def isOctet (cs : List Char) : Bool :=
  (cs.length == 1 || cs.head? != some '0') &&
    (Text.Integer.ofFigures? cs).any fun n => n ≤ 255

def isVersion4 (cs : List Char) : Bool :=
  let octets := pieces '.' cs
  octets.length == 4 && octets.all isOctet

/-- The groups between the colons, with two in place of a last one that has points; none if it is no
address of version 4. -/
def groups? (cs : List Char) : Option (List (List Char)) :=
  let parts := pieces ':' cs
  match parts.getLast? with
  | some last =>
    if !last.contains '.' then some parts
    else if isVersion4 last then some (parts.dropLast ++ [['0'], ['0']])
    else none
  | none => some parts

/-- The groups on one side of two colons. Nothing at all may stand there. -/
def sideCount? (side : List (List Char)) : Option Nat :=
  if side = [[]] then some 0
  else if side.all isGroup then some side.length
  else none

def isVersion6 (cs : List Char) : Bool :=
  match groups? cs with
  | none => false
  | some gs =>
    let inner := gs.tail.dropLast
    match inner.findIdx? List.isEmpty with
    | none => gs.length == 8 && gs.all isGroup
    | some i =>
      match sideCount? (gs.take (i + 1)), sideCount? (gs.drop (i + 2)) with
      | some before, some after => before + after ≤ 7
      | _, _ => false

def isZoned6 (cs : List Char) : Bool :=
  match pieces '%' cs with
  | [address] => isVersion6 address
  | [address, zone] => isVersion6 address && !zone.isEmpty
  | _ => false

/-- An address of a later version: the version in hexadecimal digits, a point, and more. -/
def isLaterVersion (cs : List Char) : Bool :=
  let version := cs.takeWhile isHexDigit
  match cs.dropWhile isHexDigit with
  | '.' :: _ :: _ => !version.isEmpty
  | _ => false

def isHostLiteral : List Char → Bool
  | 'v' :: r => isLaterVersion r
  | cs => isZoned6 cs

end Accounts.Address
