/-! # Sets of characters

A set of characters is given by the code point ranges it is made of, ends included.
-/
namespace Accounts.Text

abbrev Ranges := List (Nat × Nat)

def Ranges.has (rs : Ranges) (c : Char) : Bool :=
  rs.any fun r => r.1 ≤ c.toNat && c.toNat ≤ r.2

end Accounts.Text
