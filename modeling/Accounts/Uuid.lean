import Accounts.Text.Integer
import Accounts.Text.Quoted

/-! # User ids

An id is a 128-bit number. Its canonical text has 32 lower-case hexadecimal digits in five groups.
Reading accepts more: the groups may be missing, braces may stand around it, and the marks `urn:`
and `uuid:` are ignored wherever they are.
-/
namespace Accounts

abbrev Uuid := BitVec 128

namespace Uuid

/-- Sixteen random bytes as an id: the version is 4 and the variant the standard one. -/
def ofRandom (bytes : Vector UInt8 16) : Uuid :=
  let n := BitVec.ofNat 128 (bytes.toList.foldl (fun n b => n * 256 + b.toNat) 0)
  let withVariant := (n &&& ~~~(0xC000#128 <<< 48)) ||| (0x8000#128 <<< 48)
  (withVariant &&& ~~~(0xF000#128 <<< 64)) ||| (0x4000#128 <<< 64)

def chars (u : Uuid) : List Char :=
  let ds := Text.hex 32 u.toNat
  ds.take 8 ++ '-' :: (ds.drop 8).take 4 ++ '-' :: (ds.drop 12).take 4 ++
    '-' :: (ds.drop 16).take 4 ++ '-' :: ds.drop 20

def text (u : Uuid) : String :=
  String.ofList u.chars

/-- The characters without the occurrences of a mark. `inside` counts the characters of an
occurrence that are still to be dropped. -/
def without (mark : List Char) : (inside : Nat) → List Char → List Char
  | _, [] => []
  | inside + 1, _ :: r => without mark inside r
  | 0, c :: r =>
    if mark.isPrefixOf (c :: r) then without mark (mark.length - 1) r
    else c :: without mark 0 r

def isBrace (c : Char) : Bool :=
  c == '\x7b' || c == '\x7d'

def bare (cs : List Char) : List Char :=
  let unmarked := without ['u', 'u', 'i', 'd', ':'] 0 (without ['u', 'r', 'n', ':'] 0 cs)
  (Text.stripWhere isBrace unmarked).filter (· != '-')

def ofText? (s : String) : Option Uuid := do
  let cs := bare s.toList
  guard (cs.length = 32)
  let n ← Text.Integer.ofHex? (String.ofList cs)
  guard (0 ≤ n && n < Nat.pow 2 128)
  pure (BitVec.ofInt 128 n)

end Uuid

end Accounts
