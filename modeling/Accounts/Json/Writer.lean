import Accounts.Json.Value
import Accounts.Number.Shortest
import Accounts.Text.Quoted

/-! # Writing JSON

Values are written in ASCII: every other character of a text is escaped, those beyond U+FFFF as a
surrogate pair. A blank can follow each comma and colon. A value can also be shown as text, where
texts inside lists and objects stand in quotes and the three constants have capitals.
-/
namespace Accounts.Json

def unitEscape (n : Nat) : List Char :=
  '\\' :: 'u' :: Text.hex 4 n

def escapeChar (c : Char) : List Char :=
  if c == '"' || c == '\\' then ['\\', c]
  else if c == '\n' then ['\\', 'n']
  else if c == '\r' then ['\\', 'r']
  else if c == '\t' then ['\\', 't']
  else if c == '\x0c' then ['\\', 'f']
  else if c == '\x08' then ['\\', 'b']
  else if 0x20 ≤ c.toNat && c.toNat ≤ 0x7E then [c]
  else if c.toNat < 0x10000 then unitEscape c.toNat
  else
    unitEscape (0xD800 + (c.toNat - 0x10000) / 0x400) ++
      unitEscape (0xDC00 + (c.toNat - 0x10000) % 0x400)

def escapePoint : Point → List Char
  | .char c => escapeChar c
  | .half i => unitEscape (Point.half i).code

def writeText (s : LooseText) : List Char :=
  '"' :: s.points.flatMap escapePoint ++ ['"']

def writeInt (n : Int) : List Char :=
  if n < 0 then '-' :: Nat.toDigits 10 n.natAbs else Nat.toDigits 10 n.natAbs

mutual

def writeChars (gap : List Char) : Json → List Char
  | .null => ['n', 'u', 'l', 'l']
  | .bool true => ['t', 'r', 'u', 'e']
  | .bool false => ['f', 'a', 'l', 's', 'e']
  | .int n => writeInt n
  | .real x => (x.text "NaN" "Infinity").toList
  | .text s => writeText s
  | .list items => '[' :: writeItems gap items ++ [']']
  | .object members => '{' :: writeMembers gap members ++ ['}']

def writeItems (gap : List Char) : List Json → List Char
  | [] => []
  | [v] => writeChars gap v
  | v :: r => writeChars gap v ++ ',' :: gap ++ writeItems gap r

def writeMembers (gap : List Char) : List (LooseText × Json) → List Char
  | [] => []
  | [(k, v)] => writeText k ++ ':' :: gap ++ writeChars gap v
  | (k, v) :: r =>
    writeText k ++ ':' :: gap ++ writeChars gap v ++ ',' :: gap ++ writeMembers gap r

end

def write (v : Json) : String :=
  String.ofList (writeChars [] v)

def writeSpaced (v : Json) : String :=
  String.ofList (writeChars [' '] v)

mutual

def showInner : Json → String
  | .null => "None"
  | .bool true => "True"
  | .bool false => "False"
  | .int n => String.ofList (writeInt n)
  | .real x => x.text "nan" "inf"
  | .text s => Text.quoted s
  | .list items => "[" ++ showItems items ++ "]"
  | .object members => "\x7b" ++ showMembers members ++ "\x7d"

def showItems : List Json → String
  | [] => ""
  | [v] => showInner v
  | v :: r => showInner v ++ ", " ++ showItems r

def showMembers : List (LooseText × Json) → String
  | [] => ""
  | [(k, v)] => Text.quoted k ++ ": " ++ showInner v
  | (k, v) :: r => Text.quoted k ++ ": " ++ showInner v ++ ", " ++ showMembers r

end

def shown : Json → LooseText
  | .text s => s
  | v => showInner v

mutual

/-- Every real number in the value is finite. -/
def isFinite : Json → Bool
  | .real (.finite ..) => true
  | .real _ => false
  | .list items => areFinite items
  | .object members => haveFinite members
  | _ => true

def areFinite : List Json → Bool
  | [] => true
  | v :: r => isFinite v && areFinite r

def haveFinite : List (LooseText × Json) → Bool
  | [] => true
  | (_, v) :: r => isFinite v && haveFinite r

end

mutual

def isEncodable : Json → Bool
  | .text s => s.string?.isSome
  | .list items => areEncodable items
  | .object members => haveEncodable members
  | _ => true

def areEncodable : List Json → Bool
  | [] => true
  | v :: r => isEncodable v && areEncodable r

def haveEncodable : List (LooseText × Json) → Bool
  | [] => true
  | (k, v) :: r => k.string?.isSome && isEncodable v && haveEncodable r

end

mutual

/-- The most arrays and objects that are open at once in the value. -/
def depth : Json → Nat
  | .list items => itemDepth items + 1
  | .object members => memberDepth members + 1
  | _ => 0

def itemDepth : List Json → Nat
  | [] => 0
  | v :: r => max (depth v) (itemDepth r)

def memberDepth : List (LooseText × Json) → Nat
  | [] => 0
  | (_, v) :: r => max (depth v) (memberDepth r)

end

end Accounts.Json
