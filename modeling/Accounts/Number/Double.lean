/-! # Double precision numbers

A finite number is a mantissa times a power of two; nothing here computes with machine floats. Every
quotient is rounded once, to the nearest representable number, a tie going to the even mantissa.
-/
namespace Accounts

/-- A number of 53 significant bits with exponents from -1074 to 971, or a special value. -/
inductive Double where
  | nan
  | infinite (negative : Bool)
  | finite (negative : Bool) (mantissa : Nat) (exponent : Int)
  deriving DecidableEq, Repr

namespace Double

def roundHalfEven (n d : Nat) : Nat :=
  let q := n / d
  let twice := 2 * (n % d)
  if twice < d then q else if d < twice then q + 1 else q + q % 2

def floorLog2 (n d : Nat) : Int :=
  let k : Int := (n.log2 : Int) - d.log2
  if d * Nat.pow 2 k.toNat ≤ n * Nat.pow 2 (-k).toNat then k else k - 1

def exponentFor (n d : Nat) : Int :=
  max (-1074) (floorLog2 n d - 52)

def ofQuotient (negative : Bool) (n d : Nat) : Double :=
  if n = 0 then .finite negative 0 (-1074)
  else
    let e := exponentFor n d
    let m := roundHalfEven (n * Nat.pow 2 (-e).toNat) (d * Nat.pow 2 e.toNat)
    if m = Nat.pow 2 53 then
      if 971 ≤ e then .infinite negative else .finite negative (Nat.pow 2 52) (e + 1)
    else if 971 < e then .infinite negative
    else .finite negative m e

def ofRatio (n : Int) (d : Nat) : Double :=
  ofQuotient (n < 0) n.natAbs d

/-- The number nearest to `± digits * 10 ^ exponent`. Exponents far outside the range are decided by
the count of digits alone. -/
def ofDecimal (negative : Bool) (digits : Nat) (exponent : Int) : Double :=
  let size : Int := (Nat.toDigits 10 digits).length
  if digits = 0 then .finite negative 0 (-1074)
  else if 310 < size + exponent then .infinite negative
  else if size + exponent < -330 then .finite negative 0 (-1074)
  else ofQuotient negative (digits * Nat.pow 10 exponent.toNat) (Nat.pow 10 (-exponent).toNat)

def floorScaled (m : Int) (e : Int) : Int :=
  if 0 ≤ e then m * Nat.pow 2 e.toNat else m / Nat.pow 2 (-e).toNat

def signedMantissa (negative : Bool) (m : Nat) : Int :=
  if negative then -(m : Int) else m

def floor? : Double → Option Int
  | .finite s m e => some (floorScaled (signedMantissa s m) e)
  | _ => none

def ceil? : Double → Option Int
  | .finite s m e => some (-floorScaled (-signedMantissa s m) e)
  | _ => none

def truncate? : Double → Option Int
  | .finite s m e => some (if s then -floorScaled m e else floorScaled m e)
  | _ => none

def wholeText : Double → String
  | .nan => "nan"
  | .infinite s => (if s then "-" else "") ++ "inf"
  | .finite s m e =>
    (if s then "-" else "") ++
      toString (roundHalfEven (m * Nat.pow 2 e.toNat) (Nat.pow 2 (-e).toNat))

def isZero : Double → Bool
  | .finite _ m _ => m == 0
  | _ => false

end Double

end Accounts
