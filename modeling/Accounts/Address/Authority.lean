import Accounts.Address.HostLiteral

/-! # Authorities

The authority of an address names a place: a host and perhaps a socket, with a user in front of it.
-/
namespace Accounts.Address

def isDropped (c : Char) : Bool :=
  c == '\t' || c == '\n' || c == '\r'

def endsAuthority (c : Char) : Bool :=
  c == '/' || c == '?' || c == '#'

def disguisedMarks : List Nat :=
  [0x2047, 0x2048, 0x2049, 0x2100, 0x2101, 0x2105, 0x2106, 0x2a74, 0xfe13, 0xfe16, 0xfe55, 0xfe56,
   0xfe5f, 0xfe6b, 0xff03, 0xff0f, 0xff1a, 0xff1f, 0xff20]

/-- The place that an authority names. A user stands before the last `@`. -/
def placeIn (authority : List Char) : List Char :=
  (authority.reverse.takeWhile (· != '@')).reverse

/-- The host of a place and what follows it, as they are written. A host may stand in brackets. -/
def splitPlace (place : List Char) : List Char × List Char :=
  if place.contains '[' then
    let inner := (place.dropWhile (· != '[')).drop 1
    (inner.takeWhile (· != ']'), (inner.dropWhile (· != ']')).drop 1)
  else (place.takeWhile (· != ':'), place.dropWhile (· != ':'))

/-- A place with a literal host. Nothing may stand before brackets, and only a socket behind them.
-/
def isLiteralPlace (place : List Char) : Bool :=
  let (host, rest) := splitPlace place
  (!place.contains '[' || place.head? == some '[') && (rest.isEmpty || rest.head? == some ':') &&
    isHostLiteral host

/-- An authority without disguised marks. If it has brackets anywhere, they are of both kinds and
its host is a literal one. -/
def isAuthority (cs : List Char) : Bool :=
  let opened := cs.contains '['
  let closed := cs.contains ']'
  opened == closed && (!opened || isLiteralPlace (placeIn cs)) &&
    !cs.any fun c => disguisedMarks.contains c.toNat

end Accounts.Address
