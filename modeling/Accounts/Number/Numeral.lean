import Accounts.Number.Double
import Accounts.Text.Integer

/-! # Numerals of doubles

A double is written with digits of any script, at most one point among them, and perhaps a power of
ten behind an `e`; or it is one of the words for infinity and for no number. A sign may come first,
blanks around it do not count, and single underscores may stand between digits.
-/
namespace Accounts.Double

open Text (isAsciiDigit)
open Text.Integer (ofFigures?)

def plainChar (c : Char) : Char :=
  match Text.decimalValue? c with
  | some d => Char.ofNat (48 + d)
  | none => c.toLower

/-- Drops the underscores between digits; none if one stands elsewhere. -/
def joinDigits (afterDigit : Bool) : List Char → Option (List Char)
  | [] => some []
  | ['_'] => none
  | '_' :: c :: r => if afterDigit && isAsciiDigit c then joinDigits false (c :: r) else none
  | c :: r => (joinDigits (isAsciiDigit c) r).map (c :: ·)

def scale? : List Char → Option Int
  | [] => some 0
  | 'e' :: r => Text.Integer.signed ofFigures? r
  | _ => none

def magnitude? (negative : Bool) (cs : List Char) : Option Double := do
  let whole := cs.takeWhile isAsciiDigit
  let (fraction, rest) := match cs.dropWhile isAsciiDigit with
    | '.' :: r => (r.takeWhile isAsciiDigit, r.dropWhile isAsciiDigit)
    | r => ([], r)
  let digits ← ofFigures? (whole ++ fraction)
  let scale ← scale? rest
  pure (Double.ofDecimal negative digits (scale - fraction.length))

def unsigned? (negative : Bool) (cs : List Char) : Option Double :=
  if cs = ['i', 'n', 'f'] || cs = "infinity".toList then some (.infinite negative)
  else if cs = ['n', 'a', 'n'] then some .nan
  else magnitude? negative cs

def ofText? (s : String) : Option Double := do
  let cs := (Text.stripWhere Text.Integer.isPadding s.toList).map plainChar
  match ← joinDigits false cs with
  | '-' :: r => unsigned? true r
  | '+' :: r => unsigned? false r
  | r => unsigned? false r

end Accounts.Double
