import Accounts.Text.Loose
import Accounts.Text.Printable

/-! # Quoted text

A text in quotes shows its unprintable characters, and halves of surrogate pairs, as escapes. The
quotes are single ones, unless the text has a single quote and no double one.
-/
namespace Accounts.Text

def hex (width n : Nat) : List Char :=
  let ds := Nat.toDigits 16 n
  List.replicate (width - ds.length) '0' ++ ds

def quoteChar (mark c : Char) : List Char :=
  if c == mark || c == '\\' then ['\\', c]
  else if c == '\t' then ['\\', 't']
  else if c == '\n' then ['\\', 'n']
  else if c == '\r' then ['\\', 'r']
  else if isPrintable c then [c]
  else if c.toNat < 0x100 then '\\' :: 'x' :: hex 2 c.toNat
  else if c.toNat < 0x10000 then '\\' :: 'u' :: hex 4 c.toNat
  else '\\' :: 'U' :: hex 8 c.toNat

def quotePoint (mark : Char) : Point → List Char
  | .char c => quoteChar mark c
  | .half i => '\\' :: 'u' :: hex 4 (Point.half i).code

def markFor (ps : List Point) : Char :=
  if ps.contains (.char '\'') && !ps.contains (.char '"') then '"' else '\''

def quoted (t : LooseText) : String :=
  let mark := markFor t.points
  String.ofList (mark :: t.points.flatMap (quotePoint mark) ++ [mark])

end Accounts.Text
