import Accounts.Text.Blank
import Accounts.Text.Lossy

/-! # Loose text

Some sources of text can hold one half of a surrogate pair without the other. Such a half is a code
point but no character, so text with one in it is no string and has no UTF-8 form. Loose text allows
for that: it is a string exactly if `LooseText.string?` says so.
-/
namespace Accounts

inductive Point where
  | char (c : Char)
  /-- The halves are counted from the first one, U+D800. -/
  | half (i : Fin 2048)
  deriving DecidableEq, Repr

namespace Point

def code : Point → Nat
  | .char c => c.toNat
  | .half i => 0xD800 + i

def ofCode? (n : Nat) : Option Point :=
  if h : 0xD800 ≤ n ∧ n < 0xE000 then some (.half ⟨n - 0xD800, by omega⟩)
  else if n < 0x110000 then some (.char (Char.ofNat n))
  else none

def char? : Point → Option Char
  | .char c => some c
  | .half _ => none

def shown : Point → Char
  | .char c => c
  | .half _ => Text.replacement

def isBlank : Point → Bool
  | .char c => Text.isBlank c
  | .half _ => false

/-- The character of a surrogate pair: a half from the lower half of the range, and one from the
upper. -/
def pair? : Point → Point → Option Char
  | .half i, .half j =>
    if i.val < 0x400 ∧ 0x400 ≤ j.val then
      some (Char.ofNat (0x10000 + i * 0x400 + (j - 0x400)))
    else none
  | _, _ => none

end Point

structure LooseText where
  points : List Point
  deriving DecidableEq, Repr

namespace LooseText

@[coe] def ofString (s : String) : LooseText :=
  ⟨s.toList.map .char⟩

instance : Coe String LooseText := ⟨ofString⟩

instance : Inhabited LooseText := ⟨⟨[]⟩⟩

instance : Append LooseText := ⟨fun s t => ⟨s.points ++ t.points⟩⟩

def string? (t : LooseText) : Option String :=
  (t.points.mapM Point.char?).map String.ofList

def shown (t : LooseText) : String :=
  String.ofList (t.points.map Point.shown)

def length (t : LooseText) : Nat :=
  t.points.length

def isEmpty (t : LooseText) : Bool :=
  t.points.isEmpty

def trim (t : LooseText) : LooseText :=
  ⟨Text.stripWhere Point.isBlank t.points⟩

theorem mapM_char? (cs : List Char) : (cs.map Point.char).mapM Point.char? = some cs := by
  induction cs with
  | nil => rfl
  | cons c r ih => simp [Point.char?, ih]

theorem eq_map_of_mapM {ps : List Point} {cs : List Char}
    (h : ps.mapM Point.char? = some cs) : ps = cs.map .char := by
  induction ps generalizing cs with
  | nil => simp_all
  | cons p r ih =>
    cases p with
    | half i => simp [Point.char?] at h
    | char c =>
      simp only [List.mapM_cons, Point.char?] at h
      cases hr : r.mapM Point.char? with
      | none => simp [hr] at h
      | some ds =>
        simp [hr] at h
        simp [← h, ih hr]

@[simp] theorem string?_ofString (s : String) : (ofString s).string? = some s := by
  rw [string?, ofString, mapM_char?, Option.map_some, String.ofList_toList]

theorem string?_eq_some_iff {t : LooseText} {s : String} : t.string? = some s ↔ t = ofString s := by
  refine ⟨fun h => ?_, fun h => h ▸ string?_ofString s⟩
  obtain ⟨cs, hm, rfl⟩ := Option.map_eq_some_iff.1 h
  obtain ⟨ps⟩ := t
  rw [ofString, String.toList_ofList, ← eq_map_of_mapM hm]

theorem ofString_injective {s t : String} (h : ofString s = ofString t) : s = t := by
  have := congrArg string? h
  simpa using this

@[simp] theorem length_ofString (s : String) : (ofString s).length = s.length := by
  rw [length, ofString, List.length_map, String.length_toList]

@[simp] theorem shown_ofString (s : String) : (ofString s).shown = s := by
  simp [shown, ofString, Function.comp_def, Point.shown]

@[simp] theorem trim_ofString (s : String) : (ofString s).trim = ofString (Text.trim s) := by
  simp [trim, ofString, Text.trim, Text.stripWhere_map, Point.isBlank]

theorem ofString_append (s t : String) : ofString (s ++ t) = ofString s ++ ofString t := by
  change LooseText.mk _ = LooseText.mk _
  rw [String.toList_append, List.map_append]
  rfl

end LooseText

end Accounts
