import Accounts.Json.Writer
import Accounts.Json.Reader
import Accounts.Proofs.Text.Hex

/-! # Texts in JSON, written and read

A string is read back from its escapes. A character beyond U+FFFF is written as two halves, each as
an escape with its number, and the reader joins exactly these.
-/
namespace Accounts.Json

/-- The elements stand for a character: as one element, or as the halves of a surrogate pair. -/
inductive Spells (c : Char) : List Element → Prop where
  | one (numbered : Bool) : Spells c [⟨.char c, numbered⟩]
  | pair (i j : Fin 2048) : Point.pair? (.half i) (.half j) = some c →
      Spells c [⟨.half i, true⟩, ⟨.half j, true⟩]

theorem Spells.join {c : Char} {es : List Element} (h : Spells c es) (fs : List Element) :
    joinElements (es ++ fs) = .char c :: joinElements fs := by
  cases h with
  | one numbered =>
    cases fs with
    | nil => rfl
    | cons f r => rfl
  | pair i j hp => simp [joinElements, hp]

def Continues (opened : Nat) (ps : List Point) (es : List Element) (r : List Point) : Prop :=
  readElements opened (ps ++ r) =
    (readElements opened r).map fun q => (es ++ q.1, q.2)

variable {opened : Nat} {c : Char} {r : List Point}

theorem continues_short {c' : Char} (h : shortEscape? (.char c) = some c') :
    Continues opened [.char '\\', .char c] [⟨.char c', false⟩] r := by
  have hu : c ≠ 'u' := by
    rintro rfl
    cases h
  rw [Continues, List.cons_append, List.cons_append, List.nil_append, readElements]
  · simp only [h]
    cases readElements opened r <;> rfl
  · intro a b d e x t hp
    exact absurd (Point.char.inj hp) hu
  · intro hp
    exact hu (Point.char.inj hp)

theorem continues_printable (hquote : c ≠ '"') (hslash : c ≠ '\\') (hcode : 0x20 ≤ c.toNat) :
    Continues opened [.char c] [⟨.char c, false⟩] r := by
  have hlow : ¬ (Point.char c).code < 0x20 := Nat.not_lt.mpr hcode
  rw [Continues, List.cons_append, List.nil_append, readElements]
  · rw [if_neg hlow]
    cases readElements opened r <;> rfl
  · intro hp
    exact hquote (Point.char.inj hp)
  · intro hp
    exact absurd (Point.char.inj hp) hslash
  · intro a b d e x t hp
    exact absurd (Point.char.inj hp) hslash
  · intro t hp
    exact absurd (Point.char.inj hp) hslash
  · intro p t hp
    exact absurd (Point.char.inj hp) hslash

theorem hexDigit?_digitChar : ∀ d < 16, hexDigit? (.char (Nat.digitChar d)) = some d := by
  decide

theorem continues_numbered {n : Nat} {p : Point} (hn : n < 65536) (hp : Point.ofCode? n = some p)
    (hr : r ≠ []) : Continues opened ((unitEscape n).map .char) [⟨p, true⟩] r := by
  have hdigits : (unitEscape n).map Point.char =
      [.char '\\', .char 'u', .char (Nat.digitChar (n / 16 / 16 / 16 % 16)),
        .char (Nat.digitChar (n / 16 / 16 % 16)), .char (Nat.digitChar (n / 16 % 16)),
        .char (Nat.digitChar (n % 16))] := by
    rw [unitEscape, Text.hex_eq_nibbles (by omega) hn]
    rfl
  have hvalue : hexPoint? (.char (Nat.digitChar (n / 16 / 16 / 16 % 16)))
      (.char (Nat.digitChar (n / 16 / 16 % 16))) (.char (Nat.digitChar (n / 16 % 16)))
      (.char (Nat.digitChar (n % 16))) = some p := by
    have hsum : ((n / 16 / 16 / 16 % 16 * 16 + n / 16 / 16 % 16) * 16 + n / 16 % 16) * 16 + n % 16 =
        n := by
      omega
    have hmod : ∀ m, m % 16 < 16 := fun m => Nat.mod_lt m (by omega)
    simp only [hexPoint?, hexDigit?_digitChar _ (hmod _), Option.bind_eq_bind, Option.bind_some,
      hsum, hp]
  obtain ⟨x, t, rfl⟩ := List.exists_cons_of_ne_nil hr
  rw [Continues, hdigits]
  simp only [List.cons_append, List.nil_append]
  rw [readElements, hvalue]
  simp only
  cases readElements opened (x :: t) <;> rfl

theorem Continues.cons {ps qs : List Point} {e : Element} {fs : List Element}
    (hp : Continues opened ps [e] (qs ++ r)) (hq : Continues opened qs fs r) :
    Continues opened (ps ++ qs) (e :: fs) r := by
  rw [Continues] at hp hq ⊢
  rw [List.append_assoc, hp, hq]
  cases readElements opened r with
  | error e => rfl
  | ok q => simp [Except.map]

theorem ofCode?_toNat (c : Char) : Point.ofCode? c.toNat = some (.char c) := by
  have hvalid := c.valid
  have hrange : c.toNat < 0xD800 ∨ 0xDFFF < c.toNat ∧ c.toNat < 0x110000 := hvalid
  rw [Point.ofCode?, dif_neg (by omega), if_pos (by omega), Char.ofNat_toNat]

theorem ofCode?_half {n : Nat} (h : n < 2048) :
    Point.ofCode? (0xD800 + n) = some (.half ⟨n, h⟩) := by
  rw [Point.ofCode?, dif_pos (by omega)]
  simp only [Nat.add_sub_cancel_left]

theorem escapes_short {mark : Char} (h : (c == mark) = true) {letter : Char}
    (hletter : shortEscape? (.char letter) = some mark) :
    ∃ es, Spells c es ∧ Continues opened (['\\', letter].map .char) es r := by
  rw [beq_iff_eq] at h
  exact ⟨_, .one false, h ▸ continues_short hletter⟩

theorem continues_escapeChar (opened : Nat) (c : Char) (hr : r ≠ []) :
    ∃ es, Spells c es ∧ Continues opened ((escapeChar c).map .char) es r := by
  unfold escapeChar
  split
  · next h =>
    simp only [Bool.or_eq_true, beq_iff_eq] at h
    refine ⟨_, .one false, continues_short ?_⟩
    rcases h with rfl | rfl <;> rfl
  split
  · next h => exact escapes_short h rfl
  split
  · next h => exact escapes_short h rfl
  split
  · next h => exact escapes_short h rfl
  split
  · next h => exact escapes_short h rfl
  split
  · next h => exact escapes_short h rfl
  split
  · next hspecial _ _ _ _ _ hprintable =>
    simp only [Bool.or_eq_true, beq_iff_eq, not_or] at hspecial
    simp only [Bool.and_eq_true, decide_eq_true_eq] at hprintable
    exact ⟨_, .one false, continues_printable hspecial.1 hspecial.2 hprintable.1⟩
  split
  · next hsmall => exact ⟨_, .one true, continues_numbered hsmall (ofCode?_toNat c) hr⟩
  · next hlarge =>
    have hvalid : c.toNat < 0x110000 := by
      have hrange : c.toNat < 0xD800 ∨ 0xDFFF < c.toNat ∧ c.toNat < 0x110000 := c.valid
      omega
    have hlow : 0xDC00 + (c.toNat - 0x10000) % 0x400 =
        0xD800 + (0x400 + (c.toNat - 0x10000) % 0x400) := by
      omega
    refine ⟨_, .pair ⟨(c.toNat - 0x10000) / 0x400, by omega⟩
      ⟨0x400 + (c.toNat - 0x10000) % 0x400, by omega⟩ ?_, ?_⟩
    · rw [Point.pair?, if_pos (by constructor <;> simp only <;> omega)]
      simp only
      rw [Nat.add_sub_cancel_left, show 0x10000 + (c.toNat - 0x10000) / 0x400 * 0x400 +
        (c.toNat - 0x10000) % 0x400 = c.toNat by omega, Char.ofNat_toNat]
    · rw [List.map_append]
      refine Continues.cons ?_ ?_
      · exact continues_numbered (by omega) (ofCode?_half (by omega)) (by simp [hr])
      · rw [hlow]
        exact continues_numbered (by omega) (ofCode?_half (by omega)) hr

theorem readElements_escaped (opened : Nat) (cs : List Char) (r : List Point) :
    ∃ es, joinElements es = cs.map .char ∧
      readElements opened ((cs.flatMap escapeChar).map .char ++ .char '"' :: r) = .ok (es, r) := by
  induction cs with
  | nil => exact ⟨[], rfl, by rw [List.flatMap_nil, List.map_nil, List.nil_append, readElements]⟩
  | cons c cs ih =>
    obtain ⟨fs, hjoin, hread⟩ := ih
    have hrest : (cs.flatMap escapeChar).map Point.char ++ .char '"' :: r ≠ [] := by simp
    obtain ⟨es, hspells, hcontinues⟩ := continues_escapeChar opened c hrest
    refine ⟨es ++ fs, ?_, ?_⟩
    · rw [hspells.join, hjoin, List.map_cons]
    · rw [Continues, hread] at hcontinues
      rw [List.flatMap_cons, List.map_append, List.append_assoc, hcontinues]
      rfl

/-- The code points of a string as it is written, without the opening quote. -/
def quotedPoints (s : String) : List Point :=
  (s.toList.flatMap escapeChar).map .char ++ [.char '"']

theorem writeText_ofString (s : String) :
    (writeText (LooseText.ofString s)).map Point.char = .char '"' :: quotedPoints s := by
  simp [writeText, LooseText.ofString, quotedPoints, List.flatMap_map, escapePoint]

theorem readText_quotedPoints (s : String) (r : List Point) :
    readText (quotedPoints s ++ r) = .ok (LooseText.ofString s, r) := by
  obtain ⟨es, hjoin, hread⟩ :=
    readElements_escaped ((quotedPoints s ++ r).length + 1) s.toList r
  rw [readText, quotedPoints, List.append_assoc, List.singleton_append]
  rw [quotedPoints, List.append_assoc, List.singleton_append] at hread
  rw [hread]
  simp only [bind, Except.bind, hjoin]
  rfl

end Accounts.Json
