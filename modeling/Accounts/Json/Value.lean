import Accounts.Number.Double
import Accounts.Text.Loose

/-! # JSON values

Integers are unbounded and kept apart from real numbers. Texts and names are loose, because an
escape can give half of a surrogate pair. The members of an object keep the order in which their
names first occurred, and each name has the value it was given last.
-/
namespace Accounts

inductive Json where
  | null
  | bool (b : Bool)
  | int (n : Int)
  | real (x : Double)
  | text (s : LooseText)
  | list (items : List Json)
  | object (members : List (LooseText × Json))
  deriving Repr

namespace Json

abbrev Members := List (LooseText × Json)

/-- Gives a name a value: in its place if the name is known, at the end otherwise. -/
def Members.put (name : LooseText) (value : Json) : Members → Members
  | [] => [(name, value)]
  | (k, v) :: r => if k = name then (k, value) :: r else (k, v) :: Members.put name value r

def Members.get? (name : LooseText) : Members → Option Json
  | [] => none
  | (k, v) :: r => if k = name then some v else Members.get? name r

def text? : Json → Option LooseText
  | .text s => some s
  | _ => none

def string? (v : Json) : Option String :=
  v.text?.bind LooseText.string?

/-- Values that count as no: null, false, zero and everything empty. -/
def isFalsy : Json → Bool
  | .null => true
  | .bool b => !b
  | .int n => n == 0
  | .real x => x.isZero
  | .text s => s.isEmpty
  | .list items => items.isEmpty
  | .object members => members.isEmpty

end Json

end Accounts
