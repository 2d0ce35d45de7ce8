import Accounts.Text.Loose
import Accounts.Time

/-! # Session entries

A session entry has a value and a deadline; it is live before the deadline and not at it or after
it. Entries are kept by key, one for each. Any loose text can be asked for as a key.
-/
namespace Accounts.Session

structure Entry where
  value : String
  deadline : Instant
  deriving DecidableEq, Repr

abbrev Entries := List (LooseText × Entry)

namespace Entries

def find? (key : LooseText) (es : Entries) : Option Entry :=
  (List.find? (fun e => e.1 == key) es).map (·.2)

def erase (key : LooseText) (es : Entries) : Entries :=
  es.filter fun e => e.1 != key

def insert (key : LooseText) (entry : Entry) (es : Entries) : Entries :=
  (key, entry) :: es.erase key

def live? (now : Instant) (key : LooseText) (es : Entries) : Option String :=
  match es.find? key with
  | some e => if e.deadline ≤ now then none else some e.value
  | none => none

def afterRead (now : Instant) (key : LooseText) (es : Entries) : Entries :=
  match es.find? key with
  | some e => if e.deadline ≤ now then es.erase key else es
  | none => es

theorem find?_erase (key other : LooseText) (es : Entries) :
    (es.erase key).find? other = if other = key then none else es.find? other := by
  induction es with
  | nil => simp [erase, find?]
  | cons e r ih =>
    simp only [erase, find?, List.filter_cons, List.find?_cons] at ih ⊢
    grind

theorem find?_insert (key other : LooseText) (entry : Entry) (es : Entries) :
    (es.insert key entry).find? other = if other = key then some entry else es.find? other := by
  by_cases h : other = key
  · simp [insert, find?, h]
  · have hk : (key == other) = false := by simpa using fun he => h he.symm
    have := find?_erase key other es
    simp only [h, if_false] at this
    simpa [insert, find?, h, hk] using this

end Entries

end Accounts.Session
