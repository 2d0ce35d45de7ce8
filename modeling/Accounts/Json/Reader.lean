import Accounts.Json.Value
import Accounts.Text.Integer

/-! # Reading JSON

The reader takes one value with blanks around it and reports what is wrong where. It is lenient in
three points: `NaN`, `Infinity` and `-Infinity` are numbers, a name may occur again in an object,
and half of a surrogate pair may stand alone in a text, as an escape or as it is.
-/
namespace Accounts.Json

inductive Flaw where
  | noValue
  | noName
  | noColon
  | noComma
  | extraData
  | unterminatedText
  | controlCharacter
  | badEscape
  | badUnicodeEscape
  | byteOrderMark
  | longInteger
  | tooDeep
  deriving DecidableEq, Repr

def Flaw.message : Flaw → String
  | .noValue => "Expecting value"
  | .noName => "Expecting property name enclosed in double quotes"
  | .noColon => "Expecting ':' delimiter"
  | .noComma => "Expecting ',' delimiter"
  | .extraData => "Extra data"
  | .unterminatedText => "Unterminated string starting at"
  | .controlCharacter => "Invalid control character at"
  | .badEscape => "Invalid \\escape"
  | .badUnicodeEscape => "Invalid \\uXXXX escape"
  | .byteOrderMark => "Unexpected UTF-8 BOM (decode using utf-8-sig)"
  | .longInteger => "Exceeds the limit for integer string conversion"
  | .tooDeep => "maximum recursion depth exceeded"

/-- How many arrays and objects may be open inside the outermost one, at each place where JSON is
read or written. -/
structure Nesting where
  header : Nat
  payload : Nat
  secret : Nat
  body : Nat
  reply : Nat
  deriving DecidableEq, Repr

/-- A flaw, and how many code points were left where it was found. -/
structure Stop where
  flaw : Flaw
  left : Nat
  deriving DecidableEq, Repr

def stop {α : Type} (flaw : Flaw) (rest : List Point) : Except Stop α :=
  .error ⟨flaw, rest.length⟩

def isGap : Point → Bool
  | .char c => c == ' ' || c == '\t' || c == '\n' || c == '\r'
  | .half _ => false

def skipGap (ps : List Point) : List Point :=
  ps.dropWhile isGap

def hexDigit? : Point → Option Nat
  | .char c =>
    if '0' ≤ c && c ≤ '9' then some (c.toNat - 48)
    else if 'a' ≤ c && c ≤ 'f' then some (c.toNat - 87)
    else if 'A' ≤ c && c ≤ 'F' then some (c.toNat - 55)
    else none
  | .half _ => none

def hexPoint? (a b c d : Point) : Option Point := do
  let x ← hexDigit? a
  let y ← hexDigit? b
  let z ← hexDigit? c
  let w ← hexDigit? d
  Point.ofCode? (((x * 16 + y) * 16 + z) * 16 + w)

def shortEscape? : Point → Option Char
  | .char '"' => some '"'
  | .char '\\' => some '\\'
  | .char '/' => some '/'
  | .char 'b' => some '\x08'
  | .char 'f' => some '\x0c'
  | .char 'n' => some '\n'
  | .char 'r' => some '\r'
  | .char 't' => some '\t'
  | _ => none

/-- A code point of a text, and whether it is written as an escape with its number. -/
structure Element where
  point : Point
  numbered : Bool
  deriving DecidableEq, Repr

/-- The elements of a text up to its closing quote. `opened` counts the code points left at the
opening quote. -/
def readElements (opened : Nat) : List Point → Except Stop (List Element × List Point)
  | [] => .error ⟨.unterminatedText, opened⟩
  | .char '"' :: r => .ok ([], r)
  | [.char '\\'] => .error ⟨.unterminatedText, opened⟩
  | .char '\\' :: .char 'u' :: a :: b :: c :: d :: x :: r =>
    match hexPoint? a b c d with
    | none => stop .badUnicodeEscape (.char 'u' :: a :: b :: c :: d :: x :: r)
    | some p => do
      let (es, t) ← readElements opened (x :: r)
      pure (⟨p, true⟩ :: es, t)
  | .char '\\' :: .char 'u' :: r => stop .badUnicodeEscape (.char 'u' :: r)
  | .char '\\' :: p :: r =>
    match shortEscape? p with
    | none => stop .badEscape (.char '\\' :: p :: r)
    | some c => do
      let (es, t) ← readElements opened r
      pure (⟨.char c, false⟩ :: es, t)
  | p :: r =>
    if p.code < 0x20 then stop .controlCharacter (p :: r)
    else do
      let (es, t) ← readElements opened r
      pure (⟨p, false⟩ :: es, t)

def joinElements : List Element → List Point
  | [] => []
  | [e] => [e.point]
  | e :: f :: r =>
    match Point.pair? e.point f.point with
    | some c =>
      if e.numbered && f.numbered then .char c :: joinElements r
      else e.point :: joinElements (f :: r)
    | none => e.point :: joinElements (f :: r)

def readText (r : List Point) : Except Stop (LooseText × List Point) := do
  let (es, t) ← readElements (r.length + 1) r
  pure (⟨joinElements es⟩, t)

/-- The parts of a numeral. The scale is the exponent with its letter and sign. -/
structure Numeral where
  negative : Bool
  whole : List Char
  fraction : List Char
  scale : List Char
  deriving DecidableEq, Repr

def isFigure (c : Char) : Bool :=
  '0' ≤ c && c ≤ '9'

def figures : List Point → List Char × List Point
  | .char c :: r => if isFigure c then (c :: (figures r).1, (figures r).2) else ([], .char c :: r)
  | r => ([], r)

def readSign : List Point → List Char × List Point
  | .char '+' :: r => (['+'], r)
  | .char '-' :: r => (['-'], r)
  | r => ([], r)

def readScale : List Point → List Char × List Point
  | .char e :: r =>
    if e == 'e' || e == 'E' then
      let (sign, t) := readSign r
      match figures t with
      | ([], _) => ([], .char e :: r)
      | (ds, u) => (e :: sign ++ ds, u)
    else ([], .char e :: r)
  | r => ([], r)

def readFraction : List Point → List Char × List Point
  | .char '.' :: r =>
    match figures r with
    | ([], _) => ([], .char '.' :: r)
    | (ds, t) => (ds, t)
  | r => ([], r)

/-- The digits before the fraction: a zero, or digits that do not start with one. -/
def readWhole? : List Point → Option (List Char × List Point)
  | .char '0' :: r => some (['0'], r)
  | r =>
    match figures r with
    | ([], _) => none
    | (ds, t) => some (ds, t)

def readNumeral? (ps : List Point) : Option (Numeral × List Point) := do
  let (negative, r) := match ps with
    | .char '-' :: t => (true, t)
    | t => (false, t)
  let (whole, t) ← readWhole? r
  let (fraction, t) := readFraction t
  let (scale, t) := readScale t
  pure (⟨negative, whole, fraction, scale⟩, t)

namespace Numeral

def written (n : Numeral) : String :=
  String.ofList ((if n.negative then ['-'] else []) ++ n.whole ++
    (if n.fraction.isEmpty then [] else '.' :: n.fraction) ++ n.scale)

/-- A numeral without fraction and exponent stands for an integer. -/
def isInteger (n : Numeral) : Bool :=
  n.fraction.isEmpty && n.scale.isEmpty

def ofFigures (ds : List Char) : Nat :=
  ds.foldl (fun n d => n * 10 + (d.toNat - 48)) 0

def exponent (n : Numeral) : Int :=
  match n.scale with
  | _ :: '-' :: ds => -(ofFigures ds : Int)
  | _ :: '+' :: ds => ofFigures ds
  | _ :: ds => ofFigures ds
  | [] => 0

def toInt (n : Numeral) : Int :=
  if n.negative then -(ofFigures n.whole : Int) else ofFigures n.whole

def toDouble (n : Numeral) : Double :=
  Double.ofDecimal n.negative (ofFigures (n.whole ++ n.fraction)) (n.exponent - n.fraction.length)

end Numeral

/-- How numerals are kept: as numbers, or as the text they were written with. -/
inductive NumberForm where
  | value
  | written
  deriving DecidableEq, Repr

/-- A numeral as a JSON value. `rest` follows it. -/
def ofNumeral (form : NumberForm) (n : Numeral) (rest : List Point) :
    Except Stop (Json × List Point) :=
  match form with
  | .written => .ok (.text n.written, rest)
  | .value =>
    if n.isInteger then
      if Text.Integer.maxDigits < n.whole.length then stop .longInteger rest
      else .ok (.int n.toInt, rest)
    else .ok (.real n.toDouble, rest)

def words : List (String × Json) :=
  [("null", .null), ("true", .bool true), ("false", .bool false), ("NaN", .real .nan),
    ("Infinity", .real (.infinite false)), ("-Infinity", .real (.infinite true))]

def dropWord? : List Char → List Point → Option (List Point)
  | [], ps => some ps
  | c :: r, .char d :: ps => if c = d then dropWord? r ps else none
  | _, _ => none

def readWord? (ps : List Point) : Option (Json × List Point) :=
  words.findSome? fun (w, v) => (dropWord? w.toList ps).map (v, ·)

def readAtom (form : NumberForm) (ps : List Point) : Except Stop (Json × List Point) :=
  match readWord? ps with
  | some r => .ok r
  | none =>
    match readNumeral? ps with
    | some (n, r) => ofNumeral form n r
    | none => stop .noValue ps

mutual

/-- A value at the start of the code points. There is room for a number of open arrays and objects.
The fuel bounds the steps; the number of code points is enough. -/
def readValue (form : NumberForm) : Nat → Nat → List Point → Except Stop (Json × List Point)
  | _, 0, ps => stop .noValue ps
  | room, fuel + 1, ps =>
    match ps with
    | .char '"' :: r => do
      let (s, t) ← readText r
      pure (.text s, t)
    | .char '{' :: r =>
      match room with
      | 0 => stop .tooDeep ps
      | room + 1 =>
        match skipGap r with
        | .char '}' :: t => .ok (.object [], t)
        | t => do
          let (ms, t) ← readMembers form room fuel [] t
          pure (.object ms, t)
    | .char '[' :: r =>
      match room with
      | 0 => stop .tooDeep ps
      | room + 1 =>
        match skipGap r with
        | .char ']' :: t => .ok (.list [], t)
        | t => do
          let (xs, t) ← readItems form room fuel t
          pure (.list xs, t)
    | _ => readAtom form ps

def readItems (form : NumberForm) : Nat → Nat → List Point → Except Stop (List Json × List Point)
  | _, 0, ps => stop .noValue ps
  | room, fuel + 1, ps => do
    let (x, t) ← readValue form room fuel ps
    match skipGap t with
    | .char ']' :: u => pure ([x], u)
    | .char ',' :: u => do
      let (xs, v) ← readItems form room fuel (skipGap u)
      pure (x :: xs, v)
    | u => stop .noComma u

def readMembers (form : NumberForm) :
    Nat → Nat → Members → List Point → Except Stop (Members × List Point)
  | _, 0, _, ps => stop .noName ps
  | room, fuel + 1, before, ps =>
    match ps with
    | .char '"' :: r => do
      let (name, t) ← readText r
      match skipGap t with
      | .char ':' :: u => do
        let (x, v) ← readValue form room fuel (skipGap u)
        let members := before.put name x
        match skipGap v with
        | .char '}' :: w => pure (members, w)
        | .char ',' :: w => readMembers form room fuel members (skipGap w)
        | w => stop .noComma w
      | u => stop .noColon u
    | _ => stop .noName ps

end

/-- A flaw and the number of code points before it. -/
structure Refusal where
  flaw : Flaw
  position : Nat
  deriving DecidableEq, Repr

def readAll (depth : Nat) (form : NumberForm) (ps : List Point) : Except Stop Json := do
  let (v, t) ← readValue form (depth + 1) (2 * ps.length + 2) (skipGap ps)
  match skipGap t with
  | [] => pure v
  | u => stop .extraData u

def readLoose (depth : Nat) (form : NumberForm) (t : LooseText) : Except Refusal Json :=
  (readAll depth form t.points).mapError fun e => ⟨e.flaw, t.length - e.left⟩

/-- The value of a string, or what is wrong with it. It must not start with a byte order mark. -/
def read (depth : Nat) (form : NumberForm) (s : String) : Except Refusal Json :=
  if s.toList.head? = some '\uFEFF' then .error ⟨.byteOrderMark, 0⟩
  else readLoose depth form s

def read? (depth : Nat) (s : String) : Option Json :=
  (read depth .value s).toOption

/-- The reader of a string gives up because too many arrays and objects are open. -/
def isTooDeep (depth : Nat) (s : String) : Bool :=
  match read depth .value s with
  | .ok _ => false
  | .error r => r.flaw = .tooDeep

end Accounts.Json
