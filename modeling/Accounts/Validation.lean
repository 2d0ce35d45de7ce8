import Accounts.Text.Loose
import Accounts.Text.Letter
import Accounts.Text.Digit
import Accounts.Crypto.Bcrypt

/-! # Request fields

The fields of a request are checked before anything else is done. An accepted email, name or token
is returned without the blanks around it, and is then accepted as it is; a password is taken
literally. Fields are loose text; accepted emails and names are strings, and so is a password that
sets one.
-/
namespace Accounts.Validation

inductive Trait where
  | letter
  | number
  deriving DecidableEq, Repr

inductive Problem where
  | emailMissing
  | emailTooLong
  | emailMalformed
  | passwordMissing
  | passwordTooShort
  | passwordTooLong
  | passwordLacks (first : Trait) (more : List Trait)
  | nameMissing (field : String)
  | nameTooShort (field : String)
  | nameTooLong (field : String)
  | nameMalformed (field : String)
  | tokenMissing
  | tokenTooLong
  deriving DecidableEq, Repr

def maxEmailLength : Nat := 255

def minPasswordLength : Nat := 8

def minNameLength : Nat := 2

def maxNameLength : Nat := 100

def maxTokenLength : Nat := 2000

def Trait.text : Trait → String
  | .letter => "at least one letter"
  | .number => "at least one number"

def Problem.message : Problem → String
  | .emailMissing => "email is required"
  | .emailTooLong => "email must not exceed " ++ toString maxEmailLength ++ " characters"
  | .emailMalformed => "invalid email format"
  | .passwordMissing => "password is required"
  | .passwordTooShort =>
    "password must be at least " ++ toString minPasswordLength ++ " characters long"
  | .passwordTooLong => "password must not exceed " ++ toString Crypto.Bcrypt.maxBytes ++ " bytes"
  | .passwordLacks first more =>
    "password must contain " ++ ", ".intercalate ((first :: more).map Trait.text)
  | .nameMissing field => field ++ " is required"
  | .nameTooShort field =>
    field ++ " must be at least " ++ toString minNameLength ++ " characters long"
  | .nameTooLong field => field ++ " must not exceed " ++ toString maxNameLength ++ " characters"
  | .nameMalformed field => field ++ " contains invalid characters"
  | .tokenMissing => "token is required"
  | .tokenTooLong => "token is too long"

def isLocalChar (c : Char) : Bool :=
  Text.isAsciiLetter c || Text.isAsciiDigit c ||
    c == '.' || c == '_' || c == '%' || c == '+' || c == '-'

def isDomainChar (c : Char) : Bool :=
  Text.isAsciiLetter c || Text.isAsciiDigit c || c == '.' || c == '-'

def splitLastDot (cs : List Char) : Option (List Char × List Char) :=
  match cs.reverse.dropWhile (· != '.') with
  | [] => none
  | _ :: before => some (before.reverse, (cs.reverse.takeWhile (· != '.')).reverse)

def isDomain (cs : List Char) : Bool :=
  match splitLastDot cs with
  | none => false
  | some (front, ending) =>
    !front.isEmpty && front.all isDomainChar && 2 ≤ ending.length && ending.all Text.isAsciiLetter

def isEmail (cs : List Char) : Bool :=
  match cs.dropWhile (· != '@') with
  | [] => false
  | _ :: domain =>
    let front := cs.takeWhile (· != '@')
    !front.isEmpty && front.all isLocalChar && isDomain domain

def email (field : Option LooseText) : Except Problem String :=
  let t := (field.getD "").trim
  if t.isEmpty then .error .emailMissing
  else if maxEmailLength < t.length then .error .emailTooLong
  else
    match t.string? with
    | some s => if isEmail s.toList then .ok s else .error .emailMalformed
    | none => .error .emailMalformed

def lacking (cs : List Char) : List Trait :=
  (if cs.any Text.isLetter then [] else [.letter]) ++
    (if cs.any Text.isDigit then [] else [.number])

def passwordText (field : Option LooseText) : Except Problem LooseText :=
  let t := field.getD ""
  if t.isEmpty then .error .passwordMissing
  else if t.length < minPasswordLength then .error .passwordTooShort
  else .ok t

def strongPassword (s : String) : Except Problem String :=
  if Crypto.Bcrypt.maxBytes < (Text.utf8 s).length then .error .passwordTooLong
  else
    match lacking s.toList with
    | [] => .ok s
    | first :: more => .error (.passwordLacks first more)

def password (field : Option String) : Except Problem String := do
  let _ ← passwordText (field.map LooseText.ofString)
  strongPassword (field.getD "")

def presentedPassword (field : Option LooseText) : Except Problem LooseText :=
  let t := field.getD ""
  if t.isEmpty then .error .passwordMissing else .ok t

def isNameChar (c : Char) : Bool :=
  Text.isLetter c || c == ' ' || c == '-' || c == '\''

def name (word : String) (field : Option LooseText) : Except Problem String :=
  let t := (field.getD "").trim
  if t.isEmpty then .error (.nameMissing word)
  else if t.length < minNameLength then .error (.nameTooShort word)
  else if maxNameLength < t.length then .error (.nameTooLong word)
  else
    match t.string? with
    | some s => if s.toList.all isNameChar then .ok s else .error (.nameMalformed word)
    | none => .error (.nameMalformed word)

def token (field : Option LooseText) : Except Problem LooseText :=
  let t := (field.getD "").trim
  if t.isEmpty then .error .tokenMissing
  else if maxTokenLength < t.length then .error .tokenTooLong
  else .ok t

end Accounts.Validation
