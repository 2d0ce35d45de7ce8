import Accounts.Number.Double

/-! # Shortest decimals

A finite number is written with the fewest decimal digits that read back as the same number, and
among those with the nearest. Positional notation is used from `10 ^ -4` to below `10 ^ 16`.
-/
namespace Accounts.Double

abbrev Quotient := Nat × Nat

def leQuotient (a b : Quotient) : Bool :=
  a.1 * b.2 ≤ b.1 * a.2

def scaled (n : Nat) (e : Int) : Quotient :=
  (n * Nat.pow 2 e.toNat, Nat.pow 2 (-e).toNat)

def decimal (n : Nat) (e : Int) : Quotient :=
  (n * Nat.pow 10 e.toNat, Nat.pow 10 (-e).toNat)

def roundsTo (m : Nat) (e : Int) (q : Quotient) : Bool :=
  let low := scaled (if m = Nat.pow 2 52 ∧ -1074 < e then 4 * m - 1 else 4 * m - 2) (e - 2)
  let high := scaled (4 * m + 2) (e - 2)
  if m % 2 = 0 then leQuotient low q && leQuotient q high
  else !leQuotient q low && !leQuotient high q

def distance (a b : Quotient) : Quotient :=
  let x := a.1 * b.2
  let y := b.1 * a.2
  (if x ≤ y then y - x else x - y, a.2 * b.2)

def floorLog10 (q : Quotient) : Nat → Int → Int
  | 0, k => k
  | fuel + 1, k => if leQuotient (decimal 1 k) q then k else floorLog10 q fuel (k - 1)

/-- The digits and the power of ten on the first decimal grid that has a point reading back as `m *
2 ^ e`, looked for from `places` digits on. Of two points equally near, the even one is taken. -/
def firstOnGrid (m : Nat) (e top : Int) : Nat → Nat → Nat × Int
  | 0, places => (0, places)
  | fuel + 1, places =>
    let v := scaled m e
    let p := top - places + 1
    let below := (v.1 * Nat.pow 10 (-p).toNat) / (v.2 * Nat.pow 10 p.toNat)
    let lower := decimal below p
    let upper := decimal (below + 1) p
    match roundsTo m e lower, roundsTo m e upper with
    | true, true =>
      let down := distance lower v
      let up := distance upper v
      if !leQuotient up down || (leQuotient down up && below % 2 == 0) then (below, p)
      else (below + 1, p)
    | true, false => (below, p)
    | false, true => (below + 1, p)
    | false, false => firstOnGrid m e top fuel (places + 1)

/-- The shortest digits of `m * 2 ^ e`, without zeros at the end, and the place of the point: the
number is `0.digits * 10 ^ point`. -/
def shortestDigits (m : Nat) (e : Int) : List Char × Int :=
  let top := floorLog10 (scaled m e) 700 310
  let (n, p) := firstOnGrid m e top 17 1
  let ds := Nat.toDigits 10 n
  ((ds.reverse.dropWhile (· == '0')).reverse, ds.length + p)

def exponentText (e : Int) : List Char :=
  let ds := Nat.toDigits 10 e.natAbs
  (if e < 0 then '-' else '+') :: (List.replicate (2 - ds.length) '0' ++ ds)

def positional (ds : List Char) (point : Int) : List Char :=
  if point ≤ 0 then '0' :: '.' :: List.replicate (-point).toNat '0' ++ ds
  else
    let k := point.toNat
    if ds.length ≤ k then ds ++ List.replicate (k - ds.length) '0' ++ ['.', '0']
    else ds.take k ++ '.' :: ds.drop k

def scientific (ds : List Char) (point : Int) : List Char :=
  match ds with
  | [] => []
  | [d] => d :: 'e' :: exponentText (point - 1)
  | d :: r => d :: '.' :: r ++ 'e' :: exponentText (point - 1)

def magnitudeText (m : Nat) (e : Int) : List Char :=
  if m = 0 then ['0', '.', '0']
  else
    let (ds, point) := shortestDigits m e
    if -4 < point ∧ point ≤ 16 then positional ds point else scientific ds point

def text (nanName infinityName : String) : Double → String
  | .nan => nanName
  | .infinite s => if s then "-" ++ infinityName else infinityName
  | .finite s m e =>
    String.ofList (if s then '-' :: magnitudeText m e else magnitudeText m e)

end Accounts.Double
