import Accounts.Crypto.Blowfish

/-! # The bcrypt digest

A password is expanded to 72 bytes of key material. The material and a salt of 16 bytes set up the
cipher in `2 ^ cost` turns; the digest is what the cipher makes of a fixed text.
-/
namespace Accounts.Crypto.Bcrypt

def maxBytes : Nat := 72

/-- What the cipher receives for a password: its bytes and a zero byte, cut to 72 bytes and repeated
until there are 72. -/
def keyMaterial (password : Bytes) : Bytes :=
  let key := (password ++ [0]).take maxBytes
  (List.range maxBytes).map fun i => key.getD (i % key.length) 0

def words : Bytes → List UInt32
  | a :: b :: c :: d :: r =>
    ((a.toUInt32 <<< 24) ||| (b.toUInt32 <<< 16) ||| (c.toUInt32 <<< 8) ||| d.toUInt32) :: words r
  | _ => []

def wordBytes (x : UInt32) : Bytes :=
  [(x >>> 24).toUInt8, (x >>> 16).toUInt8, (x >>> 8).toUInt8, x.toUInt8]

def turns (key saltKey zero : Array UInt32) : Nat → Blowfish.State → Blowfish.State
  | 0, s => s
  | n + 1, s => turns key saltKey zero n ((s.expand zero key).expand zero saltKey)

def setUp (cost : Nat) (salt material : Bytes) : Blowfish.State :=
  let key := (words material).toArray
  let saltWords := (words salt).toArray
  let saltKey := (Array.range 18).map fun i => saltWords.getD (i % 4) 0
  turns key saltKey #[0, 0, 0, 0] (Nat.pow 2 cost) (Blowfish.initial.expand saltWords key)

def repeated (s : Blowfish.State) : Nat → UInt32 → UInt32 → UInt32 × UInt32
  | 0, l, r => (l, r)
  | n + 1, l, r =>
    let (l, r) := s.encipher l r
    repeated s n l r

def enciphered (s : Blowfish.State) : List UInt32 → Bytes
  | l :: r :: ws =>
    let (l, r) := repeated s 64 l r
    wordBytes l ++ wordBytes r ++ enciphered s ws
  | _ => []

def plainText : List UInt32 :=
  words (Text.utf8 "OrpheanBeholderScryDoubt")

def digest (cost : Nat) (salt material : Bytes) : Vector UInt8 23 :=
  let bs := (enciphered (setUp cost salt material) plainText).toArray
  Vector.ofFn fun i => bs.getD i 0

theorem length_keyMaterial (password : Bytes) : (keyMaterial password).length = maxBytes := by
  simp [keyMaterial]

end Accounts.Crypto.Bcrypt
