import Accounts.Address.Authority
import Accounts.Failure
import Accounts.Json.Value

/-! # Requests and responses

What comes in and goes out over HTTP, as values. Header names of a request are compared without
regard to case; those of a response are in lower case.
-/
namespace Accounts.Http

/-- A request. The escapes of its path are read already; an empty body is none. -/
structure Request where
  method : String
  path : String
  headers : List (String × String)
  body : String
  client : Option String
  /-- The milliseconds that will have gone by when its reply is noted. -/
  took : Double
  deriving DecidableEq, Repr

inductive Content where
  | json (v : Json)
  | text (s : String)
  deriving Repr

structure Response where
  status : Nat
  headers : List (String × String)
  content : Content
  deriving Repr

inductive Reply where
  | response (r : Response)
  | crash (b : Breakage)
  deriving Repr

def lower (s : String) : String :=
  s.map Char.toLower

def Request.header? (r : Request) (name : String) : Option String :=
  (r.headers.find? fun h => lower h.1 == name).map (·.2)

def Request.host (r : Request) : String :=
  (r.header? "host").getD ""

/-- One character of a path in an address. What would end the path there, or be taken for a slash,
is escaped. -/
def addressChar (c : Char) : List Char :=
  if c == '?' then ['%', '3', 'F']
  else if c == '#' then ['%', '2', '3']
  else if c == '\\' then ['%', '5', 'C']
  else [c]

/-- The address of a request without its scheme: the host, and a path that starts with a slash. Tabs
and line ends are lost. -/
def Request.address (r : Request) : List Char :=
  let cs := r.path.toList
  let path := (if cs.head? = some '/' then cs else '/' :: cs).flatMap addressChar
  (r.host.toList ++ path).filter fun c => !Address.isDropped c

/-- The path in the address of a request. The address is put together and taken apart again: it has
none if the host is not the authority of one, and another if the host ends in the middle. -/
def Request.addressPath (r : Request) : Except Breakage String :=
  if Address.isAuthority (r.address.takeWhile fun c => !Address.endsAuthority c) then
    let rest := r.address.dropWhile fun c => !Address.endsAuthority c
    .ok (String.ofList (rest.takeWhile fun c => c != '?' && c != '#'))
  else .error .value

def Response.ofJson (status : Nat) (v : Json) (headers : List (String × String)) : Response :=
  ⟨status, ("content-type", "application/json") :: headers, .json v⟩

/-- Headers that every response has. -/
def securityHeaders : List (String × String) :=
  [("x-content-type-options", "nosniff"), ("x-frame-options", "DENY"),
    ("referrer-policy", "no-referrer"), ("cache-control", "no-store")]

def Response.secured (r : Response) : Response :=
  { r with headers := r.headers ++ securityHeaders }

/-- What the client sees of a reply. A breakage is seen as a bare error. -/
def Reply.seen : Reply → Response
  | .response r => r
  | .crash _ =>
    ⟨500, [("content-type", "text/plain; charset=utf-8")], .text "Internal Server Error"⟩

end Accounts.Http
