import Accounts.Text.FormEncoding
import Accounts.Text.Lossy

/-! # Percent escapes

In an address, a percent sign with two hexadecimal digits stands for a byte and everything else for
itself. In the fields of a query a plus sign stands for a space too.
-/
namespace Accounts.Text

def unescape : List Char → Bytes
  | [] => []
  | '%' :: a :: b :: r =>
    match FormEncoding.hexValue? a, FormEncoding.hexValue? b with
    | some hi, some lo => UInt8.ofNat (16 * hi + lo) :: unescape r
    | _, _ => 37 :: unescape (a :: b :: r)
  | c :: r => String.utf8EncodeChar c ++ unescape r

def unescaped (cs : List Char) : List Char :=
  lossy (unescape cs)

/-- The pieces between separators; a text without one is a single piece. -/
def pieces (sep : Char) : List Char → List (List Char)
  | [] => [[]]
  | c :: r =>
    if c = sep then [] :: pieces sep r
    else
      match pieces sep r with
      | [] => [[c]]
      | p :: ps => (c :: p) :: ps

theorem pieces_eq_splitOn (sep : Char) (cs : List Char) : pieces sep cs = cs.splitOn sep := by
  induction cs with
  | nil => rfl
  | cons c cs ih =>
    rw [pieces, List.splitOn_cons_eq_if_modifyHead, ih]
    simp only [beq_iff_eq]
    have hne := List.splitOn_ne_nil sep cs
    split
    · rfl
    · split
      · contradiction
      · next heq => rw [heq, List.modifyHead_cons]

def queryText (cs : List Char) : List Char :=
  unescaped (cs.map fun c => if c = '+' then ' ' else c)

/-- The names and values of a query. A field with an empty value, or none, does not count. -/
def queryFields (query : List Char) : List (String × List Char) :=
  (pieces '&' query).filterMap fun field =>
    match (field.dropWhile (· != '=')).drop 1 with
    | [] => none
    | value => some (String.ofList (queryText (field.takeWhile (· != '='))), queryText value)

end Accounts.Text
