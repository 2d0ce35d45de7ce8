/-! # Blank characters

Trimming removes every blank of Unicode at both ends: the spaces and line separators, the control
characters TAB to CR, and the four information separators below the space.
-/
namespace Accounts.Text

def isBlank (c : Char) : Bool :=
  let n := c.toNat
  (0x9 ≤ n && n ≤ 0xD) || (0x1C ≤ n && n ≤ 0x20) || n == 0x85 || n == 0xA0 || n == 0x1680 ||
    (0x2000 ≤ n && n ≤ 0x200A) || n == 0x2028 || n == 0x2029 || n == 0x202F || n == 0x205F ||
    n == 0x3000

def stripWhere {α : Type} (p : α → Bool) (xs : List α) : List α :=
  ((xs.dropWhile p).reverse.dropWhile p).reverse

def trim (s : String) : String :=
  String.ofList (stripWhere isBlank s.toList)

theorem stripWhere_map {α β : Type} (f : α → β) (p : β → Bool) (xs : List α) :
    stripWhere p (xs.map f) = (stripWhere (fun x => p (f x)) xs).map f := by
  simp [stripWhere, List.dropWhile_map, ← List.map_reverse, Function.comp_def]

end Accounts.Text
