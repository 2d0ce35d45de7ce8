import Accounts.Text.Loose

/-! # Text in units

UTF-16 and UTF-32 write a text in units of two and four bytes, in one of two orders. Reading lets
halves of surrogate pairs stand alone.
-/
namespace Accounts.Text

inductive ByteOrder where
  | highFirst
  | lowFirst
  deriving DecidableEq, Repr

def ByteOrder.number (order : ByteOrder) (unit : Bytes) : Nat :=
  let bytes : Bytes := match order with
    | .highFirst => unit
    | .lowFirst => unit.reverse
  bytes.foldl (fun n b => n * 256 + b.toNat) 0

/-- The numbers of units of two bytes; none if a byte is left over. -/
def units16? (order : ByteOrder) : Bytes → Option (List Nat)
  | [] => some []
  | a :: b :: r => (units16? order r).map (order.number [a, b] :: ·)
  | _ => none

/-- The numbers of units of four bytes; none if bytes are left over. -/
def units32? (order : ByteOrder) : Bytes → Option (List Nat)
  | [] => some []
  | a :: b :: c :: d :: r => (units32? order r).map (order.number [a, b, c, d] :: ·)
  | _ => none

def joinPairs : List Point → List Point
  | [] => []
  | [p] => [p]
  | p :: q :: r =>
    match Point.pair? p q with
    | some c => .char c :: joinPairs r
    | none => p :: joinPairs (q :: r)

def ofUtf16? (order : ByteOrder) (bs : Bytes) : Option LooseText := do
  let ps ← (← units16? order bs).mapM Point.ofCode?
  pure ⟨joinPairs ps⟩

def ofUtf32? (order : ByteOrder) (bs : Bytes) : Option LooseText := do
  let ps ← (← units32? order bs).mapM Point.ofCode?
  pure ⟨ps⟩

end Accounts.Text
