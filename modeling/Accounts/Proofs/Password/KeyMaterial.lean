import Mathlib.Data.List.PeriodicityLemma
import Accounts.Crypto.Bcrypt

/-! # Key material

The key material of a password starts with the password and, where there is room for it, with a zero
byte after it. From there on it repeats. So it tells the length of a password only as far as no
longer password repeats in the same way.
-/
namespace Accounts.Crypto.Bcrypt

variable {p q : Bytes}

def key (password : Bytes) : Bytes :=
  (password ++ [0]).take maxBytes

theorem key_of_lt (h : p.length < 72) : key p = p ++ [0] := by
  apply List.take_of_length_le
  rw [List.length_append]
  exact h

theorem key_of_length_eq (h : p.length = 72) : key p = p := by
  have hmax : maxBytes = p.length := h.symm
  rw [key, hmax, List.take_left]

theorem length_key_pos (p : Bytes) : 0 < (key p).length := by
  rw [key, List.length_take, List.length_append]
  exact Nat.lt_min.mpr ⟨by decide, Nat.succ_pos _⟩

theorem length_key_le (p : Bytes) : (key p).length ≤ 72 :=
  List.length_take_le ..

theorem getElem?_keyMaterial {i : Nat} (h : i < 72) :
    (keyMaterial p)[i]? = (key p)[i % (key p).length]? := by
  have hmod : i % (key p).length < (key p).length := Nat.mod_lt i (length_key_pos p)
  have hrange : (List.range maxBytes)[i]? = some i := List.getElem?_range h
  have hpart : (keyMaterial p)[i]? = some ((key p).getD (i % (key p).length) 0) := by
    rw [keyMaterial, List.getElem?_map, hrange]
    rfl
  rw [hpart, List.getD_eq_getElem?_getD, List.getElem?_eq_getElem hmod]
  rfl

theorem key_prefix_keyMaterial (p : Bytes) : key p <+: keyMaterial p := by
  rw [List.prefix_iff_getElem?]
  intro i hi
  rw [getElem?_keyMaterial (Nat.lt_of_lt_of_le hi (length_key_le p)), Nat.mod_eq_of_lt hi,
    List.getElem?_eq_getElem hi]

theorem hasPeriod_keyMaterial (p : Bytes) : (keyMaterial p).HasPeriod (key p).length := by
  rw [List.hasPeriod_iff_forall_getElem?_mod]
  intro i hi
  rw [length_keyMaterial] at hi
  have hlt : i < 72 := hi
  have hmod : i % (key p).length < 72 :=
    Nat.lt_of_le_of_lt (Nat.mod_le i _) hlt
  rw [getElem?_keyMaterial hlt, getElem?_keyMaterial hmod, Nat.mod_mod]

theorem prefix_keyMaterial (h : p.length ≤ 72) : p <+: keyMaterial p := by
  refine List.IsPrefix.trans ?_ (key_prefix_keyMaterial p)
  rcases Nat.lt_or_eq_of_le h with h | h
  · rw [key_of_lt h]
    exact List.prefix_append p [0]
  · rw [key_of_length_eq h]

theorem eq_of_hasPeriod {α : Type} {l l' u : List α} (hlength : l.length = l'.length)
    (hu : 0 < u.length) (hl : u <+: l) (hl' : u <+: l') (period : l.HasPeriod u.length)
    (period' : l'.HasPeriod u.length) : l = l' := by
  rw [List.hasPeriod_iff_forall_getElem?_mod] at period period'
  apply List.ext_getElem?
  intro i
  by_cases hi : i < l.length
  · have hmod : i % u.length < u.length := Nat.mod_lt i hu
    rw [period i hi, period' i (hlength ▸ hi), List.prefix_iff_getElem?.mp hl _ hmod,
      List.prefix_iff_getElem?.mp hl' _ hmod]
  · rw [List.getElem?_eq_none (Nat.not_lt.mp hi), List.getElem?_eq_none (by omega)]

theorem eq_of_keyMaterial_eq (hlength : p.length = q.length) (hq : q.length ≤ 72)
    (h : keyMaterial p = keyMaterial q) : p = q := by
  have hp : p <+: keyMaterial q := h ▸ prefix_keyMaterial (hlength ▸ hq)
  exact (List.prefix_of_prefix_length_le hp (prefix_keyMaterial hq)
    (Nat.le_of_eq hlength)).eq_of_length hlength

/-- A longer password has the key material of a shorter one exactly if it starts with that one and a
zero byte, and all its key material repeats these. -/
theorem keyMaterial_eq_iff_of_lt (hlength : p.length < q.length) (hq : q.length ≤ 72) :
    keyMaterial p = keyMaterial q ↔
      p ++ [0] <+: q ∧ (keyMaterial q).HasPeriod (p.length + 1) := by
  have hkey : key p = p ++ [0] := key_of_lt (by omega)
  have hlengthKey : (key p).length = p.length + 1 := by
    rw [hkey, List.length_append, List.length_singleton]
  constructor
  · intro h
    have hp : key p <+: keyMaterial q := h ▸ key_prefix_keyMaterial p
    rw [← hkey, ← hlengthKey, ← h]
    refine ⟨List.prefix_of_prefix_length_le hp (prefix_keyMaterial hq) ?_, hasPeriod_keyMaterial p⟩
    rw [hlengthKey]
    exact hlength
  · rintro ⟨hstart, period⟩
    rw [← hlengthKey] at period
    rw [← hkey] at hstart
    exact eq_of_hasPeriod ((length_keyMaterial p).trans (length_keyMaterial q).symm)
      (length_key_pos p) (key_prefix_keyMaterial p)
      (List.IsPrefix.trans hstart (prefix_keyMaterial hq))
      (hasPeriod_keyMaterial p) period

section Repetition

variable {u v : Bytes}

theorem flatten_replicate_append (h : u ++ v = v ++ u) (k : Nat) :
    (List.replicate k u).flatten ++ v = v ++ (List.replicate k u).flatten := by
  induction k with
  | zero => simp
  | succ k ih =>
    rw [List.replicate_succ, List.flatten_cons, List.append_assoc, ih, ← List.append_assoc, h,
      List.append_assoc]

theorem prefix_flatten_replicate (h : u ++ v = v ++ u) {k : Nat}
    (hlength : v.length ≤ (List.replicate k u).flatten.length) :
    v <+: (List.replicate k u).flatten := by
  have hv : v <+: (List.replicate k u).flatten ++ v :=
    flatten_replicate_append h k ▸ List.prefix_append v _
  exact List.prefix_of_prefix_length_le hv (List.prefix_append _ v) hlength

theorem hasPeriod_flatten_replicate (h : u ++ v = v ++ u) {k : Nat}
    (hlength : v.length ≤ (List.replicate k u).flatten.length) :
    (List.replicate k u).flatten.HasPeriod v.length := by
  have htake : (List.replicate k u).flatten.take v.length = v :=
    (List.prefix_iff_eq_take.mp (prefix_flatten_replicate h hlength)).symm
  rw [List.HasPeriod, htake, ← flatten_replicate_append h k]
  exact List.prefix_append _ v

theorem keyMaterial_eq_take (hu : 0 < u.length) (h : u ++ key p = key p ++ u) :
    keyMaterial p = (List.replicate 72 u).flatten.take 72 := by
  have hlength : 72 ≤ (List.replicate 72 u).flatten.length := by
    rw [List.length_flatten, List.map_replicate, List.sum_replicate_nat]
    omega
  have hkey : (key p).length ≤ (List.replicate 72 u).flatten.length :=
    Nat.le_trans (length_key_le p) hlength
  have hsplit := List.take_append_drop 72 (List.replicate 72 u).flatten
  have hperiod : ((List.replicate 72 u).flatten.take 72).HasPeriod (key p).length := by
    apply List.HasPeriod.factor (u := []) (w := (List.replicate 72 u).flatten.drop 72)
    rw [List.nil_append, hsplit]
    exact hasPeriod_flatten_replicate h hkey
  have hlengthTake : ((List.replicate 72 u).flatten.take 72).length = 72 := by
    rw [List.length_take, Nat.min_eq_left hlength]
  have hstart : key p <+: (List.replicate 72 u).flatten.take 72 :=
    List.prefix_of_prefix_length_le (prefix_flatten_replicate h hkey) ⟨_, hsplit⟩
      (hlengthTake.symm ▸ length_key_le p)
  exact eq_of_hasPeriod ((length_keyMaterial p).trans hlengthTake.symm) (length_key_pos p)
    (key_prefix_keyMaterial p) hstart (hasPeriod_keyMaterial p) hperiod

end Repetition

theorem keyMaterial_eq_of_commute (h : key p ++ key q = key q ++ key p) :
    keyMaterial p = keyMaterial q := by
  rw [keyMaterial_eq_take (length_key_pos p) rfl, keyMaterial_eq_take (length_key_pos p) h]

theorem key_append_starts (h : keyMaterial p = keyMaterial q)
    (hlength : (key p).length + (key q).length ≤ 72) : key p ++ key q <+: keyMaterial p := by
  obtain ⟨rest, hrest⟩ := key_prefix_keyMaterial p
  have hdrop : (keyMaterial p).drop (key p).length = rest := by
    rw [← hrest, List.drop_left]
  have hstart : rest <+: keyMaterial p := by
    rw [← hdrop]
    exact List.HasPeriod.drop_prefix _ (hasPeriod_keyMaterial p)
  have hq : key q <+: keyMaterial p := h ▸ key_prefix_keyMaterial q
  have hlong : (key q).length ≤ rest.length := by
    have htotal : (key p ++ rest).length = 72 := hrest ▸ length_keyMaterial p
    rw [List.length_append] at htotal
    omega
  rw [← hrest, List.prefix_append_right_inj]
  exact List.prefix_of_prefix_length_le hq hstart hlong

/-- Of passwords of at most 70 bytes together, those have equal key material that commute, each with
a zero byte behind it. -/
theorem keyMaterial_eq_iff_commute (hlength : p.length + q.length ≤ 70) :
    keyMaterial p = keyMaterial q ↔ p ++ [0] ++ (q ++ [0]) = q ++ [0] ++ (p ++ [0]) := by
  have hp : key p = p ++ [0] := key_of_lt (by omega)
  have hq : key q = q ++ [0] := key_of_lt (by omega)
  have hkeys : (key p).length + (key q).length ≤ 72 := by
    rw [hp, hq, List.length_append, List.length_append, List.length_singleton]
    omega
  rw [← hp, ← hq]
  constructor
  · intro h
    have hpq := key_append_starts h hkeys
    have hqp : key q ++ key p <+: keyMaterial p := by
      rw [h]
      exact key_append_starts h.symm (by omega)
    have hsame : (key p ++ key q).length = (key q ++ key p).length := by
      rw [List.length_append, List.length_append, Nat.add_comm]
    exact (List.prefix_of_prefix_length_le hpq hqp (Nat.le_of_eq hsame)).eq_of_length hsame
  · exact keyMaterial_eq_of_commute

theorem keyMaterial_twice (h : p.length ≤ 35) : keyMaterial (p ++ [0] ++ p) = keyMaterial p := by
  have hlength : (p ++ [0] ++ p).length < 72 := by
    rw [List.length_append, List.length_append, List.length_singleton]
    omega
  apply keyMaterial_eq_of_commute
  rw [key_of_lt hlength, key_of_lt (by omega)]
  simp only [List.append_assoc]

theorem keyMaterial_terminated (h : p.length = 71) : keyMaterial (p ++ [0]) = keyMaterial p := by
  have hlength : (p ++ [0]).length = 72 := by
    rw [List.length_append, h]
    rfl
  apply keyMaterial_eq_of_commute
  rw [key_of_length_eq hlength, key_of_lt (by omega)]

end Accounts.Crypto.Bcrypt
