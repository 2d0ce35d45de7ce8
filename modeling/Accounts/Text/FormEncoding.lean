import Accounts.Text.Utf8
import Accounts.Text.Integer

/-! # Form encoding

A value in a query string keeps ASCII letters, digits and `_.-~`, writes a space as `+` and every
other byte of its UTF-8 form as `%` with two hexadecimal digits. Decoding undoes this.
-/
namespace Accounts.Text.FormEncoding

def hexDigit (n : Nat) : Char :=
  if n < 10 then Char.ofNat (n + 48) else Char.ofNat (n + 55)

def isPlain (b : UInt8) : Bool :=
  (48 ≤ b && b ≤ 57) || (65 ≤ b && b ≤ 90) || (97 ≤ b && b ≤ 122) ||
    b == 95 || b == 46 || b == 45 || b == 126

def encodeByte (b : UInt8) : List Char :=
  if isPlain b then [Char.ofNat b.toNat]
  else if b == 32 then ['+']
  else ['%', hexDigit (b.toNat / 16), hexDigit (b.toNat % 16)]

def encode (s : String) : String :=
  String.ofList ((utf8 s).flatMap encodeByte)

def hexValue? (c : Char) : Option Nat :=
  if '0' ≤ c && c ≤ '9' then some (c.toNat - 48)
  else if 'A' ≤ c && c ≤ 'F' then some (c.toNat - 55)
  else if 'a' ≤ c && c ≤ 'f' then some (c.toNat - 87)
  else none

/-- The bytes that an encoded value stands for; none when an escape is cut short or a character has
no business there. -/
def decodeBytes : List Char → Option Bytes
  | [] => some []
  | '+' :: r => (decodeBytes r).map (32 :: ·)
  | '%' :: a :: b :: r => do
    let hi ← hexValue? a
    let lo ← hexValue? b
    let bs ← decodeBytes r
    pure (UInt8.ofNat (16 * hi + lo) :: bs)
  | c :: r =>
    if c.toNat < 128 && isPlain (UInt8.ofNat c.toNat) then
      (decodeBytes r).map (UInt8.ofNat c.toNat :: ·)
    else none

def decode (s : String) : Option String :=
  (decodeBytes s.toList).bind ofUtf8?

end Accounts.Text.FormEncoding
