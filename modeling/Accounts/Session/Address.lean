import Accounts.Address.Authority
import Accounts.Number.Numeral
import Accounts.Text.LowerCase

/-! # Addresses of session servers

The address of a server is a URL. It gives named options for the connection: its authority the host
and the number of the socket there, its path the number of a database, and its query whatever it
names. The authority wins over the query, and the query over the path.
-/
namespace Accounts.Session

open Address

inductive Setting where
  | flag (b : Bool)
  | whole (n : Int)
  | real (x : Double)
  | text (s : String)
  deriving DecidableEq, Repr

abbrev Options := List (String × Setting)

namespace Options

def get? (name : String) (os : Options) : Option Setting :=
  (os.find? (·.1 == name)).map (·.2)

def put (name : String) (value : Setting) (os : Options) : Options :=
  (name, value) :: os.filter (·.1 != name)

def putNew (name : String) (value : Setting) (os : Options) : Options :=
  if os.any (·.1 == name) then os else os ++ [(name, value)]

def put? (name : String) (value : Option Setting) (os : Options) : Options :=
  match value with
  | some v => os.put name v
  | none => os

end Options

inductive Scheme where
  | plain
  | secured
  | file
  deriving DecidableEq, Repr

def Scheme.text : Scheme → String
  | .plain => "redis://"
  | .secured => "rediss://"
  | .file => "unix://"

def Scheme.split? (cs : List Char) : Option (Scheme × List Char) :=
  [Scheme.plain, .secured, .file].findSome? fun s =>
    if s.text.toList.isPrefixOf cs then some (s, cs.drop s.text.length) else none

/-- The host of an authority and the number behind it, as they are written. -/
def hostAndSocket (authority : List Char) : List Char × List Char :=
  let (host, rest) := splitPlace (placeIn authority)
  (host, (rest.dropWhile (· != ':')).drop 1)

def hostName? (written : List Char) : Option String :=
  if written.isEmpty then none
  else
    let name := Text.lower (String.ofList (written.takeWhile (· != '%')))
    some (String.ofList (Text.unescaped (name.toList ++ written.dropWhile (· != '%'))))

def maxSocket : Nat := 65535

/-- The number of a socket; zero is none. It fails when the digits are no such number. -/
def socket? (written : List Char) : Option (Option Nat) :=
  if written.isEmpty then some none
  else do
    let n ← Text.Integer.ofFigures? written
    guard (n ≤ maxSocket)
    pure (if n = 0 then none else some n)

def verifyFlags : List String :=
  ["VERIFY_DEFAULT", "VERIFY_CRL_CHECK_LEAF", "VERIFY_CRL_CHECK_CHAIN", "VERIFY_X509_STRICT",
    "VERIFY_X509_TRUSTED_FIRST", "VERIFY_ALLOW_PROXY_CERTS", "VERIFY_X509_PARTIAL_CHAIN"]

/-- A list of checks with commas between them. Brackets do not count. -/
def isFlagList (value : String) : Bool :=
  (Text.pieces ',' (value.toList.filter fun c => c != '[' && c != ']')).all fun flag =>
    verifyFlags.contains (Text.trim (String.ofList flag))

def wholeOptions : List String :=
  ["db", "protocol", "max_connections", "health_check_interval", "socket_read_size",
    "ssl_min_version"]

def realOptions : List String :=
  ["socket_timeout", "socket_connect_timeout", "timeout"]

def flagOptions : List String :=
  ["ssl_include_verify_flags", "ssl_exclude_verify_flags"]

/-- The value of an option given in the query; none if it is not of the sort that the option has. -/
def settingOf? (name : String) (value : String) : Option Setting :=
  if wholeOptions.contains name then (Text.Integer.ofDecimal? value).map .whole
  else if realOptions.contains name then (Double.ofText? value).map .real
  else if flagOptions.contains name && !isFlagList value then none
  else some (.text value)

/-- The options of a query. Of several values for one name the first counts. -/
def queryOptions? (query : List Char) : Option Options :=
  let firsts := (Text.queryFields query).foldl (fun kept field =>
    if kept.any (·.1 == field.1) then kept else kept ++ [field]) []
  firsts.mapM fun (name, value) => (settingOf? name (String.ofList value)).map (name, ·)

/-- The number of a database that a path gives. Slashes do not count. -/
def databaseOf? (path : List Char) : Option Int :=
  Text.Integer.ofDecimal? (String.ofList ((Text.unescaped path).filter (· != '/')))

/-- The options that an address gives; none if it is no address. Only the query counts where the
path names a file. -/
def Options.ofAddress? (address : String) : Option Options := do
  let (scheme, r) ← Scheme.split? address.toList
  let r := r.filter fun c => !isDropped c
  let authority := r.takeWhile fun c => !endsAuthority c
  guard (isAuthority authority)
  let r := (r.dropWhile fun c => !endsAuthority c).takeWhile (· != '#')
  let options ← queryOptions? ((r.dropWhile (· != '?')).drop 1)
  if scheme = .file then pure options
  else
    let (host, number) := hostAndSocket authority
    let socket ← socket? number
    let options := match databaseOf? (r.takeWhile (· != '?')) with
      | some n => options.putNew "db" (.whole n)
      | none => options
    pure ((options.put? "host" ((hostName? host).map .text)).put? "port"
      (socket.map fun n => .whole n))

/-- Unless the address says otherwise, values come as text and commands fail after five seconds. -/
def Options.standard : Options :=
  [("decode_responses", .flag true), ("socket_timeout", .real (Double.ofRatio 5 1))]

def Options.has (name : String) (os : Options) : Bool :=
  (os.get? name).isSome

inductive AddressFault where
  | value
  | name
  | part
  /-- Replies can be cached with the third version of the protocol only. -/
  | caching
  deriving DecidableEq, Repr

/-- The connection speaks the third version of the protocol, which it does unless told otherwise. -/
def Options.speaksThird (os : Options) : Bool :=
  os.get? "protocol" == none || os.get? "protocol" == some (.whole 3)

def Options.hasNegativeLimit (os : Options) : Bool :=
  match os.get? "max_connections" with
  | some (.whole n) => n < 0
  | _ => false

/-- What is wrong with the options for a connection. Parts of it, such as a cache, cannot be given
in an address. -/
def Options.fault? (os : Options) : Option AddressFault :=
  if os.has "self" then some .name
  else if os.hasNegativeLimit then some .value
  else if (os.has "cache" || os.has "cache_config") && !os.speaksThird then some .caching
  else if os.has "cache" then some .value
  else if os.has "cache_config" || os.has "maint_notifications_config" then some .part
  else if os.has "oss_cluster_maint_notifications_handler" && os.speaksThird then some .part
  else none

def Options.toConnect (address : String) : Except AddressFault Options :=
  match Options.ofAddress? address with
  | none => .error .value
  | some given =>
    match given.fault? with
    | some fault => .error fault
    | none => .ok (Options.standard.foldl (fun os o => os.putNew o.1 o.2) given)

end Accounts.Session
