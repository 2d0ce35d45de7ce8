import Accounts.Validation
import Accounts.Proofs.Password.Grammar
import Accounts.Proofs.Text.Trimming

/-! # Email addresses

An address is described twice: as a text that its at sign and the last dot divide, and as a pattern
whose parts overlap and which lets a line feed follow. On trimmed texts both say the same, and the
check of an email field accepts exactly that.
-/
namespace Accounts.Validation

open Computability
open Password (one mem_one_pow lineEnd mem_lineEnd)

variable {cs front domain host ending : List Char} {c sep : Char} {test : Char → Bool}

/-- There is a last dot with something in front of it and only letters behind it, two at least. -/
def IsDomain (domain : List Char) : Prop :=
  (∀ c ∈ domain, Text.isAsciiLetter c ∨ Text.isAsciiDigit c ∨ c ∈ ['.', '-']) ∧
    ∃ host ending, domain = host ++ '.' :: ending ∧ '.' ∉ ending ∧ host ≠ [] ∧
      2 ≤ ending.length ∧ ∀ c ∈ ending, Text.isAsciiLetter c

/-- There is exactly one at sign. In front of it stand letters, digits and marks, one character at
least, and behind it a domain. -/
def IsAddress (cs : List Char) : Prop :=
  cs.count '@' = 1 ∧ ∃ front domain, cs = front ++ '@' :: domain ∧ front ≠ [] ∧
    (∀ c ∈ front, Text.isAsciiLetter c ∨ Text.isAsciiDigit c ∨ c ∈ ['.', '_', '%', '+', '-']) ∧
    IsDomain domain

def oneOrMore (test : Char → Bool) : Language Char := one test * (one test)∗

/-- `[a-zA-Z0-9._%+\-]+@[a-zA-Z0-9.\-]+\.[a-zA-Z]{2,}`, to the end of the text or to a line feed that
ends it. Dots and letters may belong to the domain as well as to its ending. -/
def addressPattern : Language Char :=
  oneOrMore isLocalChar * {['@']} * oneOrMore isDomainChar * {['.']} *
    (one Text.isAsciiLetter ^ 2 * (one Text.isAsciiLetter)∗) * (1 + {['\n']})

theorem isLocalChar_iff : isLocalChar c = true ↔
    Text.isAsciiLetter c ∨ Text.isAsciiDigit c ∨ c ∈ ['.', '_', '%', '+', '-'] := by
  simp [isLocalChar, or_assoc]

theorem isDomainChar_iff : isDomainChar c = true ↔
    Text.isAsciiLetter c ∨ Text.isAsciiDigit c ∨ c ∈ ['.', '-'] := by
  simp [isDomainChar, or_assoc]

theorem not_mem_of_fails (h : test sep = false) (hall : ∀ c ∈ cs, test c = true) : sep ∉ cs := by
  intro hmem
  rw [hall sep hmem] at h
  cases h

/-- What an address is made of, apart from its at sign and its last dot. -/
structure Parts (front host ending : List Char) : Prop where
  front_ne : front ≠ []
  front_local : ∀ c ∈ front, isLocalChar c = true
  host_ne : host ≠ []
  host_domain : ∀ c ∈ host, isDomainChar c = true
  ending_length : 2 ≤ ending.length
  ending_letters : ∀ c ∈ ending, Text.isAsciiLetter c = true

theorem Parts.isDomain (h : Parts front host ending) (c : Char)
    (hc : c ∈ host ++ '.' :: ending) : isDomainChar c = true := by
  rcases List.mem_append.mp hc with hc | hc
  · exact h.host_domain c hc
  · rcases List.mem_cons.mp hc with rfl | hc
    · rfl
    · exact isDomainChar_iff.mpr (.inl (h.ending_letters c hc))

theorem isAddress_iff : IsAddress cs ↔
    ∃ front host ending, Parts front host ending ∧
      cs = front ++ '@' :: (host ++ '.' :: ending) := by
  constructor
  · rintro ⟨-, front, _, rfl, hfront, hlocal, hdomain, host, ending, rfl, -, hhost, hlength,
      hletters⟩
    refine ⟨front, host, ending, ⟨hfront, ?_, hhost, ?_, hlength, hletters⟩, rfl⟩
    · exact fun c hc => isLocalChar_iff.mpr (hlocal c hc)
    · exact fun c hc => isDomainChar_iff.mpr (hdomain c (List.mem_append_left _ hc))
  · rintro ⟨front, host, ending, parts, rfl⟩
    have hfront : '@' ∉ front := not_mem_of_fails (by decide) parts.front_local
    have hdomain : '@' ∉ host ++ '.' :: ending := not_mem_of_fails (by decide) parts.isDomain
    refine ⟨?_, front, _, rfl, parts.front_ne, ?_, ?_, host, ending, rfl, ?_, parts.host_ne,
      parts.ending_length, parts.ending_letters⟩
    · rw [List.count_append, List.count_cons_self, List.count_eq_zero_of_not_mem hfront,
        List.count_eq_zero_of_not_mem hdomain]
    · exact fun c hc => isLocalChar_iff.mp (parts.front_local c hc)
    · exact fun c hc => isDomainChar_iff.mp (parts.isDomain c hc)
    · exact not_mem_of_fails (by decide) parts.ending_letters

theorem cut_first (h : sep ∉ front) (rest : List Char) :
    (front ++ sep :: rest).takeWhile (· != sep) = front ∧
      (front ++ sep :: rest).dropWhile (· != sep) = sep :: rest := by
  have hpass : ∀ c ∈ front, (c != sep) = true := by
    intro c hc
    rw [bne_iff_ne]
    rintro rfl
    exact h hc
  constructor
  · rw [List.takeWhile_append_of_pos hpass, List.takeWhile_cons_of_neg (by simp),
      List.append_nil]
  · rw [List.dropWhile_append_of_pos hpass, List.dropWhile_cons_of_neg (by simp)]

theorem dropWhile_of_not_mem (h : sep ∉ cs) : cs.dropWhile (· != sep) = [] := by
  rw [List.dropWhile_eq_nil_iff]
  intro c hc
  rw [bne_iff_ne]
  rintro rfl
  exact h hc

theorem splitLastDot_cut (h : '.' ∉ ending) (host : List Char) :
    splitLastDot (host ++ '.' :: ending) = some (host, ending) := by
  have hrev : (host ++ '.' :: ending).reverse = ending.reverse ++ '.' :: host.reverse := by
    simp
  have hnot : '.' ∉ ending.reverse := by
    rwa [List.mem_reverse]
  rw [splitLastDot, hrev, (cut_first hnot _).1, (cut_first hnot _).2]
  simp

theorem splitLastDot_of_not_mem (h : '.' ∉ cs) : splitLastDot cs = none := by
  have hnot : '.' ∉ cs.reverse := by
    rwa [List.mem_reverse]
  rw [splitLastDot, dropWhile_of_not_mem hnot]

theorem exists_last_dot (h : '.' ∈ cs) :
    ∃ host ending, cs = host ++ '.' :: ending ∧ '.' ∉ ending := by
  obtain ⟨ending, host, heq, hnot⟩ := List.eq_append_cons_of_mem (List.mem_reverse.mpr h)
  refine ⟨host.reverse, ending.reverse, ?_, ?_⟩
  · rw [← cs.reverse_reverse, heq]
    simp
  · rwa [List.mem_reverse]

theorem isDomain_cut (h : '.' ∉ ending) (host : List Char) :
    isDomain (host ++ '.' :: ending) = true ↔
      host ≠ [] ∧ (∀ c ∈ host, isDomainChar c = true) ∧ 2 ≤ ending.length ∧
        ∀ c ∈ ending, Text.isAsciiLetter c = true := by
  simp [isDomain, splitLastDot_cut h, and_assoc]

theorem isEmail_cut (h : '@' ∉ front) (domain : List Char) :
    isEmail (front ++ '@' :: domain) = true ↔
      front ≠ [] ∧ (∀ c ∈ front, isLocalChar c = true) ∧ isDomain domain = true := by
  simp [isEmail, cut_first h, and_assoc]

theorem isEmail_iff : isEmail cs = true ↔ IsAddress cs := by
  rw [isAddress_iff]
  constructor
  · intro h
    have hat : '@' ∈ cs := by
      by_contra hat
      rw [isEmail, dropWhile_of_not_mem hat] at h
      cases h
    obtain ⟨front, domain, rfl, hfront⟩ := List.eq_append_cons_of_mem hat
    obtain ⟨hne, hlocal, hdomain⟩ := (isEmail_cut hfront domain).mp h
    have hdot : '.' ∈ domain := by
      by_contra hdot
      rw [isDomain, splitLastDot_of_not_mem hdot] at hdomain
      cases hdomain
    obtain ⟨host, ending, rfl, hending⟩ := exists_last_dot hdot
    obtain ⟨hhost, hchars, hlength, hletters⟩ := (isDomain_cut hending host).mp hdomain
    exact ⟨front, host, ending, ⟨hne, hlocal, hhost, hchars, hlength, hletters⟩, rfl⟩
  · rintro ⟨front, host, ending, parts, rfl⟩
    have hfront : '@' ∉ front := not_mem_of_fails (by decide) parts.front_local
    have hending : '.' ∉ ending := not_mem_of_fails (by decide) parts.ending_letters
    rw [isEmail_cut hfront, isDomain_cut hending]
    exact ⟨parts.front_ne, parts.front_local, parts.host_ne, parts.host_domain,
      parts.ending_length, parts.ending_letters⟩

theorem mem_kstar_one : cs ∈ (one test)∗ ↔ ∀ c ∈ cs, test c = true := by
  constructor
  · rintro ⟨pieces, rfl, hpieces⟩ c hc
    obtain ⟨piece, hpiece, hc⟩ := List.mem_flatten.mp hc
    obtain ⟨d, hd, rfl⟩ := hpieces piece hpiece
    rwa [List.mem_singleton.mp hc]
  · intro h
    refine ⟨cs.map fun c => [c], ?_, ?_⟩
    · rw [← List.flatMap_def, List.flatMap_singleton']
    · intro piece hpiece
      obtain ⟨c, hc, rfl⟩ := List.mem_map.mp hpiece
      exact ⟨c, h c hc, rfl⟩

theorem mem_oneOrMore : cs ∈ oneOrMore test ↔ cs ≠ [] ∧ ∀ c ∈ cs, test c = true := by
  rw [oneOrMore, Language.mem_mul]
  constructor
  · rintro ⟨_, ⟨c, hc, rfl⟩, r, hr, rfl⟩
    refine ⟨List.cons_ne_nil c r, ?_⟩
    rw [List.singleton_append, List.forall_mem_cons]
    exact ⟨hc, mem_kstar_one.mp hr⟩
  · rintro ⟨hne, hall⟩
    obtain ⟨c, r, rfl⟩ := List.exists_cons_of_ne_nil hne
    rw [List.forall_mem_cons] at hall
    exact ⟨[c], ⟨c, hall.1, rfl⟩, r, mem_kstar_one.mpr hall.2, rfl⟩

theorem mem_atLeast {n : Nat} :
    cs ∈ one test ^ n * (one test)∗ ↔ n ≤ cs.length ∧ ∀ c ∈ cs, test c = true := by
  rw [Language.mem_mul]
  constructor
  · rintro ⟨start, hstart, rest, hrest, rfl⟩
    obtain ⟨hlength, hall⟩ := mem_one_pow.mp hstart
    refine ⟨by rw [List.length_append, hlength]; omega, ?_⟩
    rw [List.forall_mem_append]
    exact ⟨hall, mem_kstar_one.mp hrest⟩
  · rintro ⟨hlength, hall⟩
    refine ⟨cs.take n, ?_, cs.drop n, ?_, List.take_append_drop n cs⟩
    · rw [mem_one_pow, List.length_take_of_le hlength]
      exact ⟨rfl, fun c hc => hall c (List.mem_of_mem_take hc)⟩
    · exact mem_kstar_one.mpr fun c hc => hall c (List.mem_of_mem_drop hc)

/-- The pattern matches an address, and an address with a line feed behind it. -/
theorem mem_addressPattern : cs ∈ addressPattern ↔
    ∃ address lineFeed, IsAddress address ∧ cs = address ++ lineEnd lineFeed := by
  simp only [isAddress_iff]
  rw [addressPattern, Language.mem_mul]
  simp only [mem_lineEnd, Language.mem_mul (m := one Text.isAsciiLetter ^ 2 * _), mem_atLeast]
  simp only [Language.mem_mul, mem_oneOrMore]
  constructor
  · rintro ⟨_, ⟨_, ⟨_, ⟨_, ⟨front, ⟨hfront, hlocal⟩, _, rfl, rfl⟩, host, ⟨hhost, hchars⟩, rfl⟩, _,
      rfl, rfl⟩, ending, ⟨hlength, hletters⟩, rfl⟩, _, ⟨lineFeed, rfl⟩, rfl⟩
    refine ⟨_, lineFeed, ⟨front, host, ending, ⟨hfront, hlocal, hhost, hchars, hlength, hletters⟩,
      rfl⟩, ?_⟩
    simp
  · rintro ⟨_, lineFeed, ⟨front, host, ending, parts, rfl⟩, rfl⟩
    refine ⟨_, ⟨_, ⟨_, ⟨_, ⟨front, ⟨parts.front_ne, parts.front_local⟩, _, rfl, rfl⟩, host,
      ⟨parts.host_ne, parts.host_domain⟩, rfl⟩, _, rfl, rfl⟩, ending,
      ⟨parts.ending_length, parts.ending_letters⟩, rfl⟩, _, ⟨lineFeed, rfl⟩, ?_⟩
    simp

/-- A line feed at the end would have been trimmed away. -/
theorem mem_addressPattern_of_bare {y : String} (h : (LooseText.ofString y).IsBare) :
    y.toList ∈ addressPattern ↔ IsAddress y.toList := by
  rw [mem_addressPattern]
  constructor
  · rintro ⟨address, lineFeed, haddress, heq⟩
    cases lineFeed with
    | false => rwa [heq, lineEnd, if_neg (by decide), List.append_nil]
    | true =>
      have hlast : (LooseText.ofString y).points.getLast? = some (.char '\n') := by
        rw [LooseText.ofString, heq, lineEnd, if_pos rfl]
        simp
      cases h.2 _ hlast
  · intro h
    exact ⟨y.toList, false, h, by rw [lineEnd, if_neg (by decide), List.append_nil]⟩

/-- The field is refused with a message. -/
def Refused {α : Type} (r : Except Problem α) (message : String) : Prop :=
  ∃ problem, r = .error problem ∧ problem.message = message

/-- What is made of an email field with a trimmed text. -/
inductive EmailOutcome (t : LooseText) : Except Problem String → Prop where
  | missing : t = LooseText.ofString "" → EmailOutcome t (.error .emailMissing)
  | tooLong : 255 < t.length → EmailOutcome t (.error .emailTooLong)
  | malformed : t ≠ LooseText.ofString "" → t.length ≤ 255 →
      (∀ y, t = LooseText.ofString y → ¬ IsAddress y.toList) →
      EmailOutcome t (.error .emailMalformed)
  | accepted (y) : t = LooseText.ofString y → y.length ≤ 255 → IsAddress y.toList →
      EmailOutcome t (.ok y)

variable {field : Option LooseText} {t : LooseText}

theorem isEmpty_iff : t.isEmpty = true ↔ t = LooseText.ofString "" := by
  obtain ⟨points⟩ := t
  rw [LooseText.isEmpty, List.isEmpty_iff]
  constructor
  · rintro rfl
    rfl
  · exact fun h => congrArg LooseText.points h

theorem email_outcome (field : Option LooseText) :
    EmailOutcome (field.getD "").trim (email field) := by
  unfold email
  generalize (field.getD (LooseText.ofString "")).trim = t
  dsimp only
  split
  · next hempty => exact .missing (isEmpty_iff.mp hempty)
  · next hempty =>
    rw [isEmpty_iff] at hempty
    split
    · next hlength => exact .tooLong hlength
    · next hlength =>
      have hshort : t.length ≤ 255 := Nat.not_lt.mp hlength
      split
      · next y hy =>
        rw [LooseText.string?_eq_some_iff] at hy
        split
        · next hemail =>
          rw [hy, LooseText.length_ofString] at hshort
          exact .accepted y hy hshort (isEmail_iff.mp hemail)
        · next hemail =>
          refine .malformed hempty hshort fun z hz haddress => hemail ?_
          rw [LooseText.ofString_injective (hy.symm.trans hz)]
          exact isEmail_iff.mpr haddress
      · next hy =>
        refine .malformed hempty hshort fun z hz _ => ?_
        rw [hz, LooseText.string?_ofString] at hy
        cases hy

theorem address_ne_empty {y : String} (h : IsAddress y.toList) :
    LooseText.ofString y ≠ LooseText.ofString "" := by
  intro heq
  rw [LooseText.ofString_injective heq] at h
  exact absurd h.1 (by decide)

theorem EmailOutcome.unique {r r' : Except Problem String} (h : EmailOutcome t r)
    (h' : EmailOutcome t r') : r = r' := by
  cases h with
  | missing hempty =>
    subst hempty
    cases h' with
    | missing => rfl
    | tooLong hlong => exact absurd hlong (by decide)
    | malformed hne => exact absurd rfl hne
    | accepted y hy _ haddress => exact absurd hy.symm (address_ne_empty haddress)
  | tooLong hlong =>
    cases h' with
    | missing hempty =>
      subst hempty
      exact absurd hlong (by decide)
    | tooLong => rfl
    | malformed _ hshort => exact absurd hlong (Nat.not_lt.mpr hshort)
    | accepted y hy hshort =>
      rw [hy, LooseText.length_ofString] at hlong
      exact absurd hlong (Nat.not_lt.mpr hshort)
  | malformed hne hshort hnot =>
    cases h' with
    | missing hempty => exact absurd hempty hne
    | tooLong hlong => exact absurd hlong (Nat.not_lt.mpr hshort)
    | malformed => rfl
    | accepted y hy _ haddress => exact absurd haddress (hnot y hy)
  | accepted y hy hshort haddress =>
    cases h' with
    | missing hempty => exact absurd (hy.symm.trans hempty) (address_ne_empty haddress)
    | tooLong hlong =>
      rw [hy, LooseText.length_ofString] at hlong
      exact absurd hlong (Nat.not_lt.mpr hshort)
    | malformed _ _ hnot => exact absurd haddress (hnot y hy)
    | accepted z hz => rw [LooseText.ofString_injective (hy.symm.trans hz)]

theorem email_eq_iff {r : Except Problem String} :
    email field = r ↔ EmailOutcome (field.getD "").trim r := by
  constructor
  · rintro rfl
    exact email_outcome field
  · exact (email_outcome field).unique

theorem refused_email_iff {message : String} : Refused (email field) message ↔
    ∃ problem, EmailOutcome (field.getD "").trim (.error problem) ∧ problem.message = message := by
  simp only [Refused, email_eq_iff]

/-- A field is accepted exactly if its trimmed text has at most 255 characters and is an address,
and then that text is the answer. Otherwise the message tells whether nothing was left of the text,
too much, or something that is no address. On a trimmed text the pattern says nothing else. -/
theorem email_accepts_addresses (field : Option LooseText) :
    (∀ y : String, email field = .ok y ↔
      (field.getD "").TrimsTo y ∧ y.length ≤ 255 ∧ IsAddress y.toList) ∧
    (Refused (email field) "email is required" ↔ (field.getD "").TrimsTo "") ∧
    (Refused (email field) "email must not exceed 255 characters" ↔
      ∃ t, (field.getD "").TrimsTo t ∧ 255 < t.length) ∧
    (Refused (email field) "invalid email format" ↔ ∃ t, (field.getD "").TrimsTo t ∧
      t ≠ LooseText.ofString "" ∧ t.length ≤ 255 ∧
      ∀ y, t = LooseText.ofString y → ¬ IsAddress y.toList) ∧
    ((∃ y, email field = .ok y) ∨
      ∃ message ∈ ["email is required", "email must not exceed 255 characters",
        "invalid email format"], Refused (email field) message) ∧
    ∀ y : String, (field.getD "").TrimsTo y →
      (y.toList ∈ addressPattern ↔ IsAddress y.toList) := by
  simp only [← LooseText.trim_eq_iff, refused_email_iff, exists_eq_left']
  generalize ht : (field.getD (LooseText.ofString "")).trim = t
  refine ⟨fun y => ?_, ?_, ?_, ?_, ?_, ?_⟩
  · rw [email_eq_iff, ht]
    constructor
    · rintro ⟨⟩
      exact ⟨‹_›, ‹_›, ‹_›⟩
    · rintro ⟨hy, hshort, haddress⟩
      exact .accepted y hy hshort haddress
  · constructor
    · rintro ⟨_, h | h | h, hmessage⟩
      · exact h
      · exact absurd hmessage (by decide)
      · exact absurd hmessage (by decide)
    · exact fun h => ⟨_, .missing h, rfl⟩
  · constructor
    · rintro ⟨_, h | h | h, hmessage⟩
      · exact absurd hmessage (by decide)
      · exact h
      · exact absurd hmessage (by decide)
    · exact fun h => ⟨_, .tooLong h, by decide⟩
  · constructor
    · rintro ⟨_, h | h | ⟨hne, hshort, hnot⟩, hmessage⟩
      · exact absurd hmessage (by decide)
      · exact absurd hmessage (by decide)
      · exact ⟨hne, hshort, hnot⟩
    · exact fun ⟨hne, hshort, hnot⟩ => ⟨_, .malformed hne hshort hnot, rfl⟩
  · have houtcome := email_outcome field
    rw [ht] at houtcome
    cases hr : email field with
    | ok y => exact .inl ⟨y, rfl⟩
    | error problem =>
      rw [hr] at houtcome
      refine .inr ⟨problem.message, ?_, problem, houtcome, rfl⟩
      cases houtcome <;> decide
  · rintro y rfl
    exact mem_addressPattern_of_bare (ht ▸ LooseText.trim_bare _)

/-- Blanks around an address are trimmed away, and what is left matches the pattern. -/
theorem padded_address_accepted :
    email (some "\u2003alice@mail.example.com\n") = .ok "alice@mail.example.com" ∧
      "alice@mail.example.com".toList ∈ addressPattern := by
  have accepted : email (some "\u2003alice@mail.example.com\n") = .ok "alice@mail.example.com" := rfl
  obtain ⟨exactly, -, -, -, -, pattern⟩ :=
    email_accepts_addresses (some "\u2003alice@mail.example.com\n")
  obtain ⟨trims, -, address⟩ := (exactly "alice@mail.example.com").mp accepted
  exact ⟨accepted, (pattern _ trims).mpr address⟩

end Accounts.Validation
