import Accounts.Proofs.Password.Hashing
import Accounts.Proofs.Password.KeyMaterial

/-! # Interchangeable passwords

A hash is checked by the digest of the key material, so passwords with the same key material are
right for each other's hashes. Accepted passwords are no longer than the key material, but they may
have zeros in them, and then a password can look like the repetition of a shorter one.
-/
namespace Accounts

variable {s : Service} {w : World} {p q : String}

namespace Text

theorem utf8_append (s t : String) : utf8 (s ++ t) = utf8 s ++ utf8 t := by
  rw [utf8, String.toList_append, List.flatMap_append]
  rfl

theorem utf8_zero : utf8 "\x00" = [0] := rfl

theorem head_of_utf8EncodeChar_append {c d : Char} {as bs : Bytes}
    (h : String.utf8EncodeChar c ++ as = String.utf8EncodeChar d ++ bs) : c = d := by
  have hc := ByteArray.utf8DecodeChar?_utf8EncodeChar_append (b := as.toByteArray) (c := c)
  have hd := ByteArray.utf8DecodeChar?_utf8EncodeChar_append (b := bs.toByteArray) (c := d)
  rw [← List.toByteArray_append, h, List.toByteArray_append, hd] at hc
  exact (Option.some.inj hc).symm

theorem prefix_of_utf8_prefix {cs ds : List Char}
    (h : cs.flatMap String.utf8EncodeChar <+: ds.flatMap String.utf8EncodeChar) : cs <+: ds := by
  induction cs generalizing ds with
  | nil => exact List.nil_prefix
  | cons c cs ih =>
    cases ds with
    | nil =>
      have hnil := List.prefix_nil.mp h
      exact absurd (List.append_eq_nil_iff.mp hnil).1 (String.utf8EncodeChar_ne_nil)
    | cons d ds =>
      rw [List.flatMap_cons, List.flatMap_cons] at h
      obtain ⟨rest, hrest⟩ := h
      rw [List.append_assoc] at hrest
      obtain rfl := head_of_utf8EncodeChar_append hrest
      exact List.cons_prefix_cons.mpr ⟨rfl, ih ⟨rest, List.append_cancel_left hrest⟩⟩

theorem utf8_prefix_iff {s t : String} : utf8 s <+: utf8 t ↔ ∃ r, t = s ++ r := by
  constructor
  · intro h
    obtain ⟨rest, hrest⟩ := prefix_of_utf8_prefix h
    refine ⟨String.ofList rest, String.toList_injective ?_⟩
    rw [String.toList_append, String.toList_ofList, hrest]
  · rintro ⟨r, rfl⟩
    exact ⟨utf8 r, (utf8_append s r).symm⟩

end Text

open Crypto.Bcrypt

namespace Validation

theorem password_accepted_iff : password (some p) = .ok p ↔
    8 ≤ p.length ∧ (Text.utf8 p).length ≤ 72 ∧
      p.toList.any Text.isLetter = true ∧ p.toList.any Text.isDigit = true := by
  have htext : passwordText (some (LooseText.ofString p)) = .ok (LooseText.ofString p) ↔
      8 ≤ p.length := by
    have hmin : minPasswordLength = 8 := rfl
    have hempty : (LooseText.ofString p).isEmpty = true → p.length = 0 := by
      intro h
      rw [← LooseText.length_ofString, LooseText.length, List.isEmpty_iff.mp h]
      rfl
    unfold passwordText
    simp only [Option.getD_some, LooseText.length_ofString, hmin]
    split
    · next h =>
      have hlength := hempty h
      constructor
      · intro h
        cases h
      · omega
    · split
      · constructor
        · intro h
          cases h
        · omega
      · exact ⟨fun _ => by omega, fun _ => rfl⟩
  have hstrong : strongPassword p = .ok p ↔ (Text.utf8 p).length ≤ 72 ∧
      p.toList.any Text.isLetter = true ∧ p.toList.any Text.isDigit = true := by
    have hmax : maxBytes = 72 := rfl
    unfold strongPassword lacking
    by_cases hlong : 72 < (Text.utf8 p).length
    · rw [hmax, if_pos hlong]
      simp [Nat.not_le.mpr hlong]
    · cases hletter : p.toList.any Text.isLetter <;> cases hdigit : p.toList.any Text.isDigit <;>
        simp [hmax, hlong, Nat.not_lt.mp hlong]
  rw [password_ok_iff, htext, hstrong]

theorem password_append {r : String} (hp : password (some p) = .ok p)
    (h : (Text.utf8 (p ++ r)).length ≤ 72) : password (some (p ++ r)) = .ok (p ++ r) := by
  obtain ⟨hlength, -, hletter, hdigit⟩ := password_accepted_iff.mp hp
  refine password_accepted_iff.mpr ⟨?_, h, ?_, ?_⟩
  · rw [String.length_append]
    omega
  · rw [String.toList_append, List.any_append, hletter, Bool.true_or]
  · rw [String.toList_append, List.any_append, hdigit, Bool.true_or]

end Validation

namespace Password

/-- The second password goes on after the first one and a zero, and its key material repeats these.
-/
structure Continues (p q : String) : Prop where
  longer : ∃ r, q = p ++ "\x00" ++ r
  repeats : (keyMaterial (Text.utf8 q)).HasPeriod ((Text.utf8 p).length + 1)

theorem continues_iff : Continues p q ↔ Text.utf8 p ++ [0] <+: Text.utf8 q ∧
    (keyMaterial (Text.utf8 q)).HasPeriod ((Text.utf8 p).length + 1) := by
  rw [← Text.utf8_zero, ← Text.utf8_append, Text.utf8_prefix_iff]
  exact ⟨fun h => ⟨h.longer, h.repeats⟩, fun h => ⟨h.1, h.2⟩⟩

theorem Continues.zero_mem (h : Continues p q) : '\x00' ∈ q.toList := by
  obtain ⟨r, rfl⟩ := h.longer
  simp

theorem not_continues_of_length_le (h : (Text.utf8 q).length ≤ (Text.utf8 p).length) :
    ¬ Continues p q := by
  intro hpq
  have hlength := (continues_iff.mp hpq).1.length_le
  rw [List.length_append, List.length_singleton] at hlength
  omega

theorem keyMaterial_eq_iff_continues (hp : (Text.utf8 p).length ≤ 72)
    (hq : (Text.utf8 q).length ≤ 72) (hne : p ≠ q) :
    keyMaterial (Text.utf8 p) = keyMaterial (Text.utf8 q) ↔ Continues p q ∨ Continues q p := by
  rcases Nat.lt_trichotomy (Text.utf8 p).length (Text.utf8 q).length with hlt | heq | hgt
  · rw [keyMaterial_eq_iff_of_lt hlt hq, ← continues_iff]
    exact (or_iff_left (not_continues_of_length_le (Nat.le_of_lt hlt))).symm
  · constructor
    · intro h
      exact absurd (Text.utf8_injective (eq_of_keyMaterial_eq heq hq h)) hne
    · rintro (h | h)
      · exact absurd h (not_continues_of_length_le (Nat.le_of_eq heq.symm))
      · exact absurd h (not_continues_of_length_le (Nat.le_of_eq heq))
  · rw [eq_comm, keyMaterial_eq_iff_of_lt hgt hp, ← continues_iff]
    exact (or_iff_right (not_continues_of_length_le (Nat.le_of_lt hgt))).symm

theorem keyMaterial_eq_iff_swap (h : (Text.utf8 p).length + (Text.utf8 q).length ≤ 70) :
    keyMaterial (Text.utf8 p) = keyMaterial (Text.utf8 q) ↔
      p ++ "\x00" ++ q = q ++ "\x00" ++ p := by
  have hbytes : ∀ t u : String, Text.utf8 (t ++ "\x00" ++ u) ++ [0] =
      Text.utf8 t ++ [0] ++ (Text.utf8 u ++ [0]) := by
    intro t u
    rw [Text.utf8_append, Text.utf8_append, Text.utf8_zero, List.append_assoc _ _ [0]]
  rw [keyMaterial_eq_iff_commute h, ← hbytes, ← hbytes, List.append_left_inj]
  exact ⟨Text.utf8_injective, congrArg Text.utf8⟩

theorem exists_twin (hp : Validation.password (some p) = .ok p)
    (h : (Text.utf8 p).length ≤ 35 ∨ (Text.utf8 p).length = 71) :
    ∃ q, q ≠ p ∧ Validation.password (some q) = .ok q ∧
      keyMaterial (Text.utf8 q) = keyMaterial (Text.utf8 p) := by
  have hlonger : ∀ r, p ++ ("\x00" ++ r) ≠ p := by
    intro r heq
    have hlength := congrArg String.length heq
    simp at hlength
  rcases h with h | h
  · have hbytes : Text.utf8 (p ++ ("\x00" ++ p)) = Text.utf8 p ++ [0] ++ Text.utf8 p := by
      rw [Text.utf8_append, Text.utf8_append, Text.utf8_zero, List.append_assoc]
    refine ⟨p ++ ("\x00" ++ p), hlonger p, Validation.password_append hp ?_, ?_⟩
    · rw [hbytes, List.length_append, List.length_append, List.length_singleton]
      omega
    · rw [hbytes, keyMaterial_twice h]
  · have hbytes : Text.utf8 (p ++ ("\x00" ++ "")) = Text.utf8 p ++ [0] :=
      Text.utf8_append p "\x00"
    refine ⟨p ++ ("\x00" ++ ""), hlonger "", Validation.password_append hp ?_, ?_⟩
    · rw [hbytes, List.length_append, h]
      rfl
    · rw [hbytes, keyMaterial_terminated h]

variable {suite : Suite} {params : Params}

theorem encodeSextets_inj {bs bs' : Bytes}
    (h : Encoding.encodeSextets letter bs = Encoding.encodeSextets letter bs') : bs = bs' := by
  have hvalues := letters_mapM (Encoding.sextets bs) (Encoding.sextets_lt bs)
  rw [← Encoding.encodeSextets_eq_map, h, Encoding.encodeSextets_eq_map,
    letters_mapM _ (Encoding.sextets_lt bs')] at hvalues
  rw [← Encoding.ofSextets_sextets bs, ← Option.some.inj hvalues, Encoding.ofSextets_sextets]

theorem compute_eq_iff : compute suite params q = compute suite params p ↔
    suite.digest params.cost params.salt (keyMaterial (Text.utf8 q)) =
      suite.digest params.cost params.salt (keyMaterial (Text.utf8 p)) := by
  constructor
  · intro h
    have hchars := List.append_cancel_left (String.ofList_injective h)
    exact Vector.toList_inj.mp (encodeSextets_inj hchars)
  · intro h
    rw [compute, compute, h]

end Password

open Password

theorem exists_hash_answering (hmin : 4 ≤ s.rounds) (hmax : s.rounds ≤ 31)
    (hp : isTooLong p = false) :
    ∃ hash, (s.hash p).run s w = (w.afterSalt, .ok hash) ∧
      ∀ q, isTooLong q = false → verify s.suite hash q = .ok (decide (
        s.suite.digest s.rounds.toNat (s.source.salt w.draws.salts) (keyMaterial (Text.utf8 q)) =
        s.suite.digest s.rounds.toNat (s.source.salt w.draws.salts)
          (keyMaterial (Text.utf8 p)))) := by
  have hrange : 4 ≤ s.rounds.toNat ∧ s.rounds.toNat ≤ 31 := by omega
  refine ⟨_, Prod.ext ?_ (hash_ok_iff.mpr ⟨hmin, hmax, hp, rfl⟩), ?_⟩
  · rw [hash_run, costOfRounds_ok ⟨hmin, hmax⟩]
  · intro q hq
    rw [verify_compute hrange, hq, Bool.not_false, Bool.true_and, beq_eq_decide]
    simp only [compute_eq_iff]

/-- Another accepted password is answered by the digests alone. Its key material is the same exactly
if the longer of the two goes on after the other one and a zero and repeats these; for short ones,
if they can be exchanged around a zero. Without zeros the key material is different. -/
theorem other_password_matches (hmin : 4 ≤ s.rounds) (hmax : s.rounds ≤ 31)
    (hp : Validation.password (some p) = .ok p) (hq : Validation.password (some q) = .ok q)
    (hne : p ≠ q) :
    (∃ hash, (s.hash p).run s w = (w.afterSalt, .ok hash) ∧
      verify s.suite hash q = .ok (decide (
        s.suite.digest s.rounds.toNat (s.source.salt w.draws.salts) (keyMaterial (Text.utf8 q)) =
        s.suite.digest s.rounds.toNat (s.source.salt w.draws.salts)
          (keyMaterial (Text.utf8 p))))) ∧
    (keyMaterial (Text.utf8 p) = keyMaterial (Text.utf8 q) ↔ Continues p q ∨ Continues q p) ∧
    ((Text.utf8 p).length + (Text.utf8 q).length ≤ 70 →
      (keyMaterial (Text.utf8 p) = keyMaterial (Text.utf8 q) ↔
        p ++ "\x00" ++ q = q ++ "\x00" ++ p)) ∧
    ('\x00' ∉ p.toList → '\x00' ∉ q.toList →
      keyMaterial (Text.utf8 p) ≠ keyMaterial (Text.utf8 q)) := by
  have hshort : ∀ {t : String}, Validation.password (some t) = .ok t → isTooLong t = false :=
    fun ht => short_of_strongPassword (password_ok_iff.mp ht).2
  have hbytes : ∀ {t : String}, Validation.password (some t) = .ok t →
      (Text.utf8 t).length ≤ 72 :=
    fun ht => (Validation.password_accepted_iff.mp ht).2.1
  have hsame := keyMaterial_eq_iff_continues (hbytes hp) (hbytes hq) hne
  obtain ⟨hash, hmade, hanswer⟩ := exists_hash_answering (w := w) hmin hmax (hshort hp)
  refine ⟨⟨hash, hmade, hanswer q (hshort hq)⟩, hsame, keyMaterial_eq_iff_swap, ?_⟩
  intro hp0 hq0 heq
  rcases hsame.mp heq with h | h
  · exact hq0 h.zero_mem
  · exact hp0 h.zero_mem

theorem small_other_password : (∃ hash,
      (Service.small.hash "password1").run .small (.initial 0) =
        ((World.initial 0).afterSalt, .ok hash) ∧
      verify Service.small.suite hash "password2" = .ok false) ∧
    keyMaterial (Text.utf8 "password1") ≠ keyMaterial (Text.utf8 "password2") := by
  have hmin : 4 ≤ Service.small.rounds := by
    decide
  have hmax : Service.small.rounds ≤ 31 := by
    decide
  have hp : Validation.password (some "password1") = .ok "password1" := by
    decide
  have hq : Validation.password (some "password2") = .ok "password2" := by
    decide
  obtain ⟨⟨hash, hmade, hverify⟩, -, -, hdiffer⟩ :=
    other_password_matches (w := .initial 0) hmin hmax hp hq (by decide)
  refine ⟨⟨hash, hmade, hverify.trans ?_⟩, hdiffer (by decide) (by decide)⟩
  decide +kernel

def Service.digesting : Service :=
  { Service.small with suite := .standard }

/-- Two passwords are accepted as new ones, and the second, which is the first one twice around a
zero, is right for the hash of the first. -/
theorem repeated_password_matches :
    Validation.password (some "password1") = .ok "password1" ∧
    Validation.password (some "password1\x00password1") = .ok "password1\x00password1" ∧
    "password1" ≠ "password1\x00password1" ∧
    keyMaterial (Text.utf8 "password1") = keyMaterial (Text.utf8 "password1\x00password1") ∧
    ∃ hash, (Service.digesting.hash "password1").run .digesting (.initial 0) =
        ((World.initial 0).afterSalt, .ok hash) ∧
      verify .standard hash "password1\x00password1" = .ok true := by
  have hmaterial : keyMaterial (Text.utf8 "password1") =
      keyMaterial (Text.utf8 "password1\x00password1") :=
    (keyMaterial_twice (by decide)).symm
  have hmin : 4 ≤ Service.digesting.rounds := by
    decide
  have hmax : Service.digesting.rounds ≤ 31 := by
    decide
  obtain ⟨hash, hmade, hanswer⟩ :=
    exists_hash_answering (w := .initial 0) hmin hmax (by decide : isTooLong "password1" = false)
  have hmatch := hanswer "password1\x00password1" (by decide)
  rw [← hmaterial, decide_eq_true rfl] at hmatch
  exact ⟨by decide, by decide, by decide, hmaterial, hash, hmade, hmatch⟩

end Accounts
