import Accounts.Encoding.Sextet
import Accounts.Text.Digit

/-! # Stored password hashes

A hash is one text: version, cost and then 53 letters, of which 22 write the salt and 31 the digest.
Two questions are kept apart. The shape is lenient: any decimal digits make a cost, and a line feed
may follow. The parameters are strict: they are read from the shape only if writing them again gives
the same letters.
-/
namespace Accounts.Password

def letter (n : Nat) : Char :=
  if n = 0 then '.'
  else if n = 1 then '/'
  else if n < 28 then Char.ofNat (n + 63)
  else if n < 54 then Char.ofNat (n + 69)
  else Char.ofNat (n - 6)

def letterValue? (c : Char) : Option Nat :=
  let n := c.toNat
  if n = 46 then some 0
  else if n = 47 then some 1
  else if 65 ≤ n && n ≤ 90 then some (n - 63)
  else if 97 ≤ n && n ≤ 122 then some (n - 69)
  else if 48 ≤ n && n ≤ 57 then some (n + 6)
  else none

/-- The versions of the format; all have the same digest. -/
inductive Version where
  | a
  | b
  | x
  | y
  deriving DecidableEq, Repr

def Version.char : Version → Char
  | .a => 'a'
  | .b => 'b'
  | .x => 'x'
  | .y => 'y'

def Version.ofChar? : Char → Option Version
  | 'a' => some .a
  | 'b' => some .b
  | 'x' => some .x
  | 'y' => some .y
  | _ => none

structure Shape where
  version : Option Version
  tens : Char
  ones : Char
  letters : List Char
  lineFeed : Bool
  deriving DecidableEq, Repr

def letterCount : Nat := 53

def bodyOf? (cs : List Char) : Option (List Char × Bool) :=
  let letters := cs.take letterCount
  if letters.length = letterCount ∧ letters.all fun c => (letterValue? c).isSome then
    match cs.drop letterCount with
    | [] => some (letters, false)
    | ['\n'] => some (letters, true)
    | _ => none
  else none

def Shape.ofCost? (version : Option Version) : List Char → Option Shape
  | tens :: ones :: '$' :: r =>
    if (Text.decimalValue? tens).isSome && (Text.decimalValue? ones).isSome then
      (bodyOf? r).map fun (letters, lineFeed) => ⟨version, tens, ones, letters, lineFeed⟩
    else none
  | _ => none

/-- The parts of a text, if it looks like a hash. -/
def Shape.ofChars? : List Char → Option Shape
  | '$' :: '2' :: '$' :: r => Shape.ofCost? none r
  | '$' :: '2' :: v :: '$' :: r => (Version.ofChar? v).bind fun v => Shape.ofCost? (some v) r
  | _ => none

structure Params where
  version : Version
  cost : Nat
  salt : Vector UInt8 16
  deriving DecidableEq, Repr

def minCost : Nat := 4

def maxCost : Nat := 31

def figure (n : Nat) : Char :=
  Char.ofNat (n + 48)

def saltLetters (salt : Vector UInt8 16) : List Char :=
  Encoding.encodeSextets letter salt.toList

def Params.chars (p : Params) : List Char :=
  ['$', '2', p.version.char, '$', figure (p.cost / 10), figure (p.cost % 10), '$'] ++
    saltLetters p.salt

def saltOf? (letters : List Char) : Option (Vector UInt8 16) := do
  let values ← letters.mapM letterValue?
  let bytes := Encoding.ofSextets values
  if h : bytes.length = 16 then
    let salt : Vector UInt8 16 := ⟨bytes.toArray, by simpa using h⟩
    if saltLetters salt = letters then some salt else none
  else none

/-- The cost that two ASCII digits write, if it is in range. -/
def costOf? (tens ones : Char) : Option Nat :=
  if Text.isAsciiDigit tens && Text.isAsciiDigit ones then
    let cost := (tens.toNat - 48) * 10 + (ones.toNat - 48)
    if minCost ≤ cost && cost ≤ maxCost then some cost else none
  else none

def Shape.params? (s : Shape) : Option Params := do
  let version ← s.version
  let cost ← costOf? s.tens s.ones
  let salt ← saltOf? (s.letters.take 22)
  pure ⟨version, cost, salt⟩

end Accounts.Password
