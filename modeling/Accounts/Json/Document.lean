import Accounts.Json.Reader
import Accounts.Text.Units

/-! # JSON documents

A document is JSON in bytes. Which of the Unicode forms it has is told by a byte order mark, which
is dropped, or by zeros among the first bytes: JSON starts with an ASCII character.
-/
namespace Accounts.Json

inductive Form where
  | utf8
  | marked
  | utf16 (order : Text.ByteOrder)
  | utf32 (order : Text.ByteOrder)
  deriving DecidableEq, Repr

def mark : Bytes := [0xEF, 0xBB, 0xBF]

/-- The form of a document. Two bytes can be one unit of UTF-16; with four there is more to tell. -/
def Form.ofBytes (bs : Bytes) : Form :=
  if mark.isPrefixOf bs then .marked
  else
    match bs with
    | 0 :: b :: _ :: _ :: _ => if b = 0 then .utf32 .highFirst else .utf16 .highFirst
    | _ :: 0 :: c :: d :: _ => if c = 0 ∧ d = 0 then .utf32 .lowFirst else .utf16 .lowFirst
    | [0, _] => .utf16 .highFirst
    | [_, 0] => .utf16 .lowFirst
    | _ => .utf8

def documentText? (bs : Bytes) : Option LooseText :=
  match Form.ofBytes bs with
  | .utf8 => (Text.ofUtf8? bs).map LooseText.ofString
  | .marked => (Text.ofUtf8? (bs.drop mark.length)).map LooseText.ofString
  | .utf16 order => Text.ofUtf16? order bs
  | .utf32 order => Text.ofUtf32? order bs

inductive DocumentFault where
  /-- The bytes are no text, an integer has too many digits, or the nesting is too deep. -/
  | unreadable
  | notJson (r : Refusal)
  deriving DecidableEq, Repr

def readDocument (depth : Nat) (bs : Bytes) : Except DocumentFault Json :=
  match documentText? bs with
  | none => .error .unreadable
  | some t =>
    (readLoose depth .value t).mapError fun r =>
      if r.flaw = .longInteger ∨ r.flaw = .tooDeep then .unreadable else .notJson r

end Accounts.Json
