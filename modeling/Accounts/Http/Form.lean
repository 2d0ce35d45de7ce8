import Accounts.Http.Message
import Accounts.Json.Document
import Accounts.Json.Writer
import Accounts.Text.Blank

/-! # Request bodies

The body of a request must be a JSON object with a text for each field. If it is not, all complaints
are listed, each with its place and the input it is about.
-/
namespace Accounts.Http

inductive Complaint where
  | bodyMissing
  | notJson (position : Nat) (flaw : Json.Flaw)
  | notObject (input : Json)
  | fieldMissing (name : String) (input : Json)
  | fieldNotText (name : String) (input : Json)
  deriving Repr

def complaintHead (type message : String) (place : List Json) (input : Json) : Json.Members :=
  [("type", .text type), ("loc", .list (.text "body" :: place)), ("msg", .text message),
    ("input", input)]

def Complaint.json : Complaint → Json
  | .bodyMissing => .object (complaintHead "missing" "Field required" [] .null)
  | .notJson position flaw =>
    let context : Json.Members := [("ctx", .object [("error", .text flaw.message)])]
    .object (complaintHead "json_invalid" "JSON decode error" [.int position] (.object []) ++
      context)
  | .notObject input =>
    .object (complaintHead "model_attributes_type"
      "Input should be a valid dictionary or object to extract fields from" [] input)
  | .fieldMissing name input =>
    .object (complaintHead "missing" "Field required" [.text name] input)
  | .fieldNotText name input =>
    .object (complaintHead "string_type" "Input should be a valid string" [.text name] input)

/-- The response to complaints. Nesting that is too deep breaks it, and so do a number in it that
JSON has no name for and a text that has no bytes. -/
def complaintReply (depth : Nat) (cs : List Complaint) : Reply :=
  let v : Json := .object [("detail", .list (cs.map Complaint.json))]
  if depth + 1 < v.depth then .crash .tooDeep
  else if !v.isFinite then .crash .value
  else if v.isEncodable then .response (.ofJson 422 v [])
  else .crash .encoding

def mediaType? (contentType : String) : Option (String × String) :=
  let cs := (Text.trim (String.ofList (contentType.toList.takeWhile (· != ';')))).toList
  if cs.count '/' = 1 then
    some (lower (String.ofList (cs.takeWhile (· != '/'))),
      lower (String.ofList ((cs.dropWhile (· != '/')).drop 1)))
  else none

def isJsonType (contentType : String) : Bool :=
  match mediaType? contentType with
  | some ("application", subtype) => subtype == "json" || "+json".toList.isSuffixOf subtype.toList
  | _ => false

inductive Payload where
  | none
  | value (v : Json)
  | notJson (r : Json.Refusal)
  | unreadable

/-- Reads the body of a request. A body that is not declared as JSON is taken as a text. -/
def Request.payload (r : Request) (depth : Nat) : Payload :=
  if r.body.isEmpty then .none
  else if ((r.header? "content-type").map isJsonType).getD false then
    match Json.readDocument depth (Text.utf8 r.body) with
    | .ok v => .value v
    | .error .unreadable => .unreadable
    | .error (.notJson refusal) => .notJson refusal
  else .value (.text r.body)

def fieldComplaint? (ms : Json.Members) (name : String) : Option Complaint :=
  match Json.Members.get? name ms with
  | none => some (.fieldMissing name (.object ms))
  | some (.text _) => none
  | some v => some (.fieldNotText name v)

def formOf (fields : List String) : Json → Except (List Complaint) Json.Members
  | .object ms =>
    match fields.filterMap (fieldComplaint? ms) with
    | [] => .ok ms
    | cs => .error cs
  | v => .error [.notObject v]

def fieldOf (ms : Json.Members) (name : String) : Option LooseText :=
  (Json.Members.get? name ms).bind Json.text?

end Accounts.Http
