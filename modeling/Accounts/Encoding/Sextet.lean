import Accounts.Text.Utf8

/-! # Six-bit groups

Three bytes are written as four characters of a 64-letter alphabet, most significant bits first. One
or two bytes at the end take two or three characters; nothing is added to fill up.
-/
namespace Accounts.Encoding

def encodeSextets (char : Nat → Char) : Bytes → List Char
  | a :: b :: c :: r =>
    char (a.toNat / 4) :: char (a.toNat % 4 * 16 + b.toNat / 16) ::
      char (b.toNat % 16 * 4 + c.toNat / 64) :: char (c.toNat % 64) :: encodeSextets char r
  | [a, b] =>
    [char (a.toNat / 4), char (a.toNat % 4 * 16 + b.toNat / 16), char (b.toNat % 16 * 4)]
  | [a] => [char (a.toNat / 4), char (a.toNat % 4 * 16)]
  | [] => []

/-- The bytes of a sequence of six-bit values. Bits that do not fill a byte are dropped. -/
def ofSextets : List Nat → Bytes
  | w :: x :: y :: z :: r =>
    UInt8.ofNat (w * 4 + x / 16) :: UInt8.ofNat (x % 16 * 16 + y / 4) ::
      UInt8.ofNat (y % 4 * 64 + z) :: ofSextets r
  | [w, x, y] => [UInt8.ofNat (w * 4 + x / 16), UInt8.ofNat (x % 16 * 16 + y / 4)]
  | [w, x] => [UInt8.ofNat (w * 4 + x / 16)]
  | _ => []

theorem length_encodeSextets (char : Nat → Char) (bs : Bytes) :
    (encodeSextets char bs).length = (4 * bs.length + 2) / 3 := by
  fun_induction encodeSextets char bs <;> simp_all
  omega

end Accounts.Encoding
