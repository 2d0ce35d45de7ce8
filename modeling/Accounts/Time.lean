import Accounts.Number.Double

/-! # Instants and durations

Both are counted in microseconds, instants from 1970-01-01T00:00:00Z. The calendar has the years 1
to 9999. Whole seconds are taken from the double nearest to the quotient by a million, so for counts
beyond `2 ^ 34` seconds they may differ from the exact ones.
-/
namespace Accounts

/-- Microseconds since 1970-01-01T00:00:00Z. -/
abbrev Instant := Int

/-- A signed number of microseconds. -/
abbrev Duration := Int

namespace Time

def second : Duration := 1000000

def minute : Duration := 60 * second

def hour : Duration := 60 * minute

def earliest : Instant := -62135596800 * second

def latest : Instant := 253402300799 * second + 999999

/-- The longest durations are those of 999999999 days. -/
def isDuration (d : Int) : Bool :=
  -86399999913600 * second ≤ d && d ≤ 86399999999999 * second + 999999

def isInstant (t : Int) : Bool :=
  earliest ≤ t && t ≤ latest

def after? (t : Instant) (d : Duration) : Option Instant :=
  if isInstant (t + d) then some (t + d) else none

def seconds (us : Int) : Double :=
  Double.ofRatio us 1000000

def floorSeconds (us : Int) : Int :=
  (seconds us).floor?.getD 0

def ceilSeconds (us : Int) : Int :=
  (seconds us).ceil?.getD 0

def wholeSeconds (us : Int) : Int :=
  (seconds us).truncate?.getD 0

def minutes (us : Int) : Int :=
  floorSeconds us / 60

inductive DateFault where
  | outOfCalendar
  | uncountable
  deriving DecidableEq, Repr

def ofSeconds (s : Int) : Except DateFault Instant :=
  if s < -9223372036854775808 ∨ 9223372036854775808 ≤ s then .error .outOfCalendar
  else if s < -67768040609740800 ∨ 67768036191676799 < s then .error .uncountable
  else if isInstant (s * second) then .ok (s * second)
  else .error .outOfCalendar

theorem ofSeconds_ok {n : Int} (h : isInstant (n * second) = true) :
    ofSeconds n = .ok (n * second) := by
  have hrange := h
  rw [isInstant, Bool.and_eq_true] at hrange
  have hmin : -62135596800 * 1000000 ≤ n * 1000000 := of_decide_eq_true hrange.1
  have hmax : n * 1000000 ≤ 253402300799 * 1000000 + 999999 := of_decide_eq_true hrange.2
  rw [ofSeconds, if_neg (by omega), if_neg (by omega), if_pos h]

end Time

end Accounts
