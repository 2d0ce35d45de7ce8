import Accounts.Proofs.Json.Texts

/-! # Flat objects in JSON, written and read

An object whose members are strings, integers and nulls is read as it was written, unless an integer
has too many digits.
-/
namespace Accounts.Json

theorem isFigure_of_isDigit {c : Char} (h : c.isDigit = true) : isFigure c = true := h

theorem digits_figures (n : Nat) : ∀ c ∈ Nat.toDigits 10 n, isFigure c = true :=
  fun _ hc => isFigure_of_isDigit (Nat.isDigit_of_mem_toDigits (by omega) (by omega) hc)

theorem figures_append {ds : List Char} {c : Char} (hd : ∀ d ∈ ds, isFigure d = true)
    (hc : isFigure c = false) (r : List Point) :
    figures (ds.map .char ++ .char c :: r) = (ds, .char c :: r) := by
  induction ds with
  | nil => simp [figures, hc]
  | cons d ds ih =>
    rw [List.map_cons, List.cons_append, figures, if_pos (hd d (.head _)),
      ih fun e he => hd e (.tail _ he)]

theorem ofFigures_toDigits (n : Nat) : Numeral.ofFigures (Nat.toDigits 10 n) = n := by
  have h := Nat.ofDigitChars_ten_toDigits (n := n)
  simp only [Nat.ofDigitChars_eq_foldl, Nat.mul_comm 10] at h
  exact h

theorem toDigits_cases (n : Nat) :
    Nat.toDigits 10 n = ['0'] ∨ ∃ d ds, Nat.toDigits 10 n = d :: ds ∧ d ≠ '0' := by
  induction n using Nat.strongRecOn with
  | ind n ih =>
    rw [Nat.toDigits_eq_if (by omega : 1 < 10)]
    split
    · next hlt =>
      rcases Nat.eq_zero_or_pos n with rfl | hpos
      · exact .inl rfl
      · refine .inr ⟨_, _, rfl, ?_⟩
        rw [ne_eq, Nat.digitChar_eq_zero]
        omega
    · next hge =>
      rcases ih (n / 10) (by omega) with h | ⟨d, ds, h, hd⟩
      · have hvalue := ofFigures_toDigits (n / 10)
        rw [h] at hvalue
        have hzero : n / 10 = 0 := hvalue.symm
        omega
      · exact .inr ⟨d, ds ++ [Nat.digitChar (n % 10)], by rw [h]; rfl, hd⟩

def EndsMember (c : Char) : Prop := c = ',' ∨ c = '}'

theorem EndsMember.spec {c : Char} (h : EndsMember c) :
    isFigure c = false ∧ c ≠ '.' ∧ (c == 'e' || c == 'E') = false ∧ isGap (.char c) = false := by
  rcases h with rfl | rfl <;> decide

theorem readWhole?_toDigits (n : Nat) {c : Char} (hc : isFigure c = false) (r : List Point) :
    readWhole? ((Nat.toDigits 10 n).map .char ++ .char c :: r) =
      some (Nat.toDigits 10 n, .char c :: r) := by
  have hall := figures_append (digits_figures n) hc r
  rcases toDigits_cases n with h | ⟨d, ds, h, hd⟩
  · rw [h]
    rfl
  · rw [h] at hall ⊢
    rw [List.map_cons, List.cons_append] at hall ⊢
    rw [readWhole?, hall]
    intro t hp
    exact hd (Point.char.inj (List.cons.inj hp).1)

theorem readNumeral?_digits {c : Char} (hc : EndsMember c) (n : Nat) (r : List Point) :
    readNumeral? ((Nat.toDigits 10 n).map .char ++ .char c :: r) =
        some (⟨false, Nat.toDigits 10 n, [], []⟩, .char c :: r) ∧
      readNumeral? (.char '-' :: ((Nat.toDigits 10 n).map .char ++ .char c :: r)) =
        some (⟨true, Nat.toDigits 10 n, [], []⟩, .char c :: r) := by
  obtain ⟨hfigure, hdot, hscale, -⟩ := hc.spec
  have hwhole := readWhole?_toDigits n hfigure r
  have hfraction : readFraction (.char c :: r) = ([], .char c :: r) := by
    rw [readFraction]
    intro t hp
    exact hdot (Point.char.inj (List.cons.inj hp).1)
  have hexponent : readScale (.char c :: r) = ([], .char c :: r) := by
    rw [readScale, if_neg (by rw [hscale]; decide)]
  constructor
  · obtain ⟨d, ds, h⟩ := List.exists_cons_of_ne_nil (Nat.toDigits_ne_nil (n := n) (b := 10))
    have hd : d ≠ '-' := by
      rintro rfl
      have := digits_figures n '-' (by simp [h])
      cases this
    rw [h] at hwhole ⊢
    simp only [List.map_cons, List.cons_append] at hwhole ⊢
    simp only [readNumeral?]
    split
    · next t hp => exact absurd (Point.char.inj (List.cons.inj hp).1) hd
    · simp only [Option.bind_eq_bind, hwhole, Option.bind_some, hfraction, hexponent]
      rfl
  · simp only [readNumeral?, Option.bind_eq_bind, hwhole, Option.bind_some, hfraction, hexponent]
    rfl

theorem numeral_head (n : Int) : ∃ d ds, writeInt n = d :: ds ∧
    (isFigure d = true ∨ d = '-' ∧ ∃ e es, ds = e :: es ∧ isFigure e = true) := by
  obtain ⟨d, ds, h⟩ := List.exists_cons_of_ne_nil (Nat.toDigits_ne_nil (n := n.natAbs) (b := 10))
  have hd : isFigure d = true := digits_figures n.natAbs d (by simp [h])
  rw [writeInt, h]
  split
  · exact ⟨_, _, rfl, .inr ⟨rfl, d, ds, rfl, hd⟩⟩
  · exact ⟨d, ds, rfl, .inl hd⟩

theorem dropWord?_figure {c d : Char} {w : List Char} {ps : List Point} (hc : isFigure c = false)
    (hd : isFigure d = true) : dropWord? (c :: w) (.char d :: ps) = none := by
  rw [dropWord?, if_neg]
  rintro rfl
  rw [hc] at hd
  cases hd

theorem readWord?_numeral (n : Int) (r : List Point) :
    readWord? ((writeInt n).map .char ++ r) = none := by
  obtain ⟨d, ds, h, hd⟩ := numeral_head n
  rw [h, List.map_cons, List.cons_append, readWord?, List.findSome?_eq_none_iff]
  have hwords : ∀ word ∈ words,
      dropWord? word.1.toList (.char d :: (ds.map .char ++ r)) = none := by
    simp only [words, List.mem_cons, List.not_mem_nil, or_false, forall_eq_or_imp, forall_eq]
    rcases hd with hd | ⟨rfl, e, es, rfl, he⟩
    · refine ⟨?_, ?_, ?_, ?_, ?_, ?_⟩ <;> exact dropWord?_figure (by decide) hd
    · refine ⟨rfl, rfl, rfl, rfl, rfl, ?_⟩
      -- only the last word has a sign of its own
      exact dropWord?_figure (c := 'I') (by decide) he
  rintro ⟨word, v⟩ hword
  exact congrArg (Option.map (v, ·)) (hwords (word, v) hword)

def isShort : Json → Bool
  | .int n => (Nat.toDigits 10 n.natAbs).length ≤ Text.Integer.maxDigits
  | _ => true

theorem readAtom_writeInt {c : Char} (hc : EndsMember c) (n : Int) (r : List Point) :
    readAtom .value ((writeInt n).map .char ++ .char c :: r) =
      if isShort (.int n) then .ok (.int n, .char c :: r)
      else stop .longInteger (.char c :: r) := by
  obtain ⟨hplain, hminus⟩ := readNumeral?_digits hc n.natAbs r
  have hread : readNumeral? ((writeInt n).map .char ++ .char c :: r) =
      some (⟨decide (n < 0), Nat.toDigits 10 n.natAbs, [], []⟩, .char c :: r) := by
    rw [writeInt]
    split
    · next hn =>
      rw [decide_eq_true hn]
      exact hminus
    · next hn =>
      rw [decide_eq_false hn]
      exact hplain
  have hvalue : Numeral.toInt ⟨decide (n < 0), Nat.toDigits 10 n.natAbs, [], []⟩ = n := by
    simp only [Numeral.toInt, ofFigures_toDigits, decide_eq_true_eq]
    split <;> omega
  rw [readAtom, readWord?_numeral, hread]
  simp only [ofNumeral, Numeral.isInteger, List.isEmpty_nil, Bool.and_self, if_true, hvalue,
    isShort, decide_eq_true_eq]
  by_cases hlong : Text.Integer.maxDigits < (Nat.toDigits 10 n.natAbs).length
  · rw [if_pos hlong, if_neg (by omega)]
  · rw [if_neg hlong, if_pos (by omega)]

inductive Flat : Json → Prop where
  | null : Flat .null
  | text (s : String) : Flat (.text (LooseText.ofString s))
  | int (n : Int) : Flat (.int n)

theorem skipGap_cons {c : Char} (h : isGap (.char c) = false) (r : List Point) :
    skipGap (.char c :: r) = .char c :: r :=
  List.dropWhile_cons_of_neg (by rw [h]; decide)

theorem isGap_of_isFigure {c : Char} (h : isFigure c = true) : isGap (.char c) = false := by
  rw [isGap, Bool.eq_false_iff]
  intro hgap
  simp only [Bool.or_eq_true, beq_iff_eq] at hgap
  rcases hgap with ((rfl | rfl) | rfl) | rfl <;> exact absurd h (by decide)

theorem skipGap_flat {v : Json} (hv : Flat v) (r : List Point) :
    skipGap ((writeChars [] v).map .char ++ r) = (writeChars [] v).map .char ++ r := by
  cases hv with
  | null => exact skipGap_cons (by decide) _
  | text s =>
    rw [writeChars, writeText_ofString]
    exact skipGap_cons (by decide) _
  | int n =>
    obtain ⟨d, ds, h, hd⟩ := numeral_head n
    rw [writeChars, h]
    refine skipGap_cons ?_ _
    rcases hd with hd | ⟨rfl, -⟩
    · exact isGap_of_isFigure hd
    · decide

theorem readValue_flat {v : Json} (hv : Flat v) {c : Char} (hc : EndsMember c) (room fuel : Nat)
    (r : List Point) :
    readValue .value room (fuel + 1) ((writeChars [] v).map .char ++ .char c :: r) =
      if isShort v then .ok (v, .char c :: r) else stop .longInteger (.char c :: r) := by
  cases hv with
  | null => rfl
  | text s =>
    rw [writeChars, writeText_ofString, List.cons_append, readValue, readText_quotedPoints]
    rfl
  | int n =>
    rw [← readAtom_writeInt hc]
    obtain ⟨d, ds, hhead, hd⟩ := numeral_head n
    rw [writeChars, hhead, List.map_cons, List.cons_append]
    have hother : d ≠ '"' ∧ d ≠ '\x7b' ∧ d ≠ '[' := by
      rcases hd with hd | ⟨rfl, -⟩
      · refine ⟨?_, ?_, ?_⟩ <;> rintro rfl <;> cases hd
      · decide
    rw [readValue]
    · intro t hp
      exact hother.1 (Point.char.inj (List.cons.inj hp).1)
    · intro t hp
      exact hother.2.1 (Point.char.inj (List.cons.inj hp).1)
    · intro t hp
      exact hother.2.2 (Point.char.inj (List.cons.inj hp).1)

theorem readMembers_member {v : Json} (hv : Flat v) {c : Char} (hc : EndsMember c) (name : String)
    (room fuel : Nat) (before : Members) (r : List Point) :
    (readMembers .value room (fuel + 2) before ((writeText (LooseText.ofString name)).map .char ++
      .char ':' :: ((writeChars [] v).map .char ++ .char c :: r))).toOption =
      if isShort v then
        if c = '}' then some (before.put (LooseText.ofString name) v, r)
        else (readMembers .value room (fuel + 1) (before.put (LooseText.ofString name) v)
          (skipGap r)).toOption
      else none := by
  have hcolon : isGap (.char ':') = false := by decide
  rw [writeText_ofString, List.cons_append, readMembers, readText_quotedPoints]
  simp only [bind, Except.bind, skipGap_cons hcolon, skipGap_flat hv, readValue_flat hv hc]
  cases isShort v with
  | false => rfl
  | true =>
    simp only [if_true, skipGap_cons hc.spec.2.2.2]
    rcases hc with rfl | rfl <;> rfl

def FlatMember (m : LooseText × Json) : Prop :=
  ∃ name, m.1 = LooseText.ofString name ∧ Flat m.2

def Members.putAll (before ms : Members) : Members :=
  ms.foldl (fun b m => b.put m.1 m.2) before

theorem put_of_fresh {name : LooseText} {ms : Members} (h : name ∉ ms.map (·.1)) (v : Json) :
    ms.put name v = ms ++ [(name, v)] := by
  induction ms with
  | nil => rfl
  | cons m ms ih =>
    obtain ⟨k, u⟩ := m
    rw [List.map_cons, List.mem_cons, not_or] at h
    rw [Members.put, if_neg (Ne.symm h.1), ih h.2, List.cons_append]

theorem putAll_of_nodup {before ms : Members} (h : ((before ++ ms).map (·.1)).Nodup) :
    before.putAll ms = before ++ ms := by
  induction ms generalizing before with
  | nil => exact (List.append_nil before).symm
  | cons m ms ih =>
    have hfresh : m.1 ∉ before.map (·.1) := by
      intro hmem
      rw [List.map_append, List.nodup_append] at h
      exact h.2.2 _ hmem _ (.head _) rfl
    rw [List.append_cons] at h ⊢
    rw [Members.putAll, List.foldl_cons, put_of_fresh hfresh]
    exact ih h

theorem skipGap_members {m : LooseText × Json} (hm : FlatMember m) (ms : Members)
    (r : List Point) :
    skipGap ((writeMembers [] (m :: ms)).map .char ++ r) =
      (writeMembers [] (m :: ms)).map .char ++ r := by
  obtain ⟨k, v⟩ := m
  obtain ⟨name, rfl, -⟩ := hm
  cases ms <;>
    simp only [writeMembers, List.map_append, writeText_ofString, List.cons_append] <;>
    exact skipGap_cons (by decide) _

theorem readMembers_flat {m : LooseText × Json} (hm : FlatMember m) {ms : Members}
    (hms : ∀ m ∈ ms, FlatMember m) (room fuel : Nat) (before : Members) (r : List Point) :
    (readMembers .value room (fuel + ms.length + 2) before
      ((writeMembers [] (m :: ms)).map .char ++ .char '}' :: r)).toOption =
      if (m :: ms).all (isShort ·.2) then some (before.putAll (m :: ms), r) else none := by
  induction ms generalizing m before with
  | nil =>
    obtain ⟨k, v⟩ := m
    obtain ⟨name, rfl, hv⟩ := hm
    simp only [writeMembers, List.map_append, List.map_cons, List.append_assoc,
      List.cons_append, List.nil_append]
    rw [readMembers_member hv (.inr rfl)]
    simp only [List.all_cons, List.all_nil, Bool.and_true, if_true]
    rfl
  | cons m' ms ih =>
    obtain ⟨k, v⟩ := m
    obtain ⟨name, rfl, hv⟩ := hm
    have hm' := hms m' (.head _)
    have hcomma : (',' : Char) ≠ '}' := by decide
    have hrest := ih hm' (fun x hx => hms x (.tail _ hx)) (before.put (LooseText.ofString name) v)
    simp only [writeMembers, List.map_append, List.map_cons, List.append_assoc,
      List.cons_append, List.nil_append]
    have hput : before.putAll ((LooseText.ofString name, v) :: m' :: ms) =
        (before.put (LooseText.ofString name) v).putAll (m' :: ms) := rfl
    rw [readMembers_member hv (.inl rfl), if_neg hcomma, skipGap_members hm', List.length_cons,
      ← Nat.add_assoc, hrest, hput, List.all_cons (a := (LooseText.ofString name, v))]
    cases isShort v with
    | false => rfl
    | true => rw [if_pos rfl, Bool.true_and]

theorem length_le_writeMembers (ms : Members) : ms.length ≤ (writeMembers [] ms).length := by
  induction ms with
  | nil => exact Nat.zero_le _
  | cons m ms ih =>
    obtain ⟨k, v⟩ := m
    cases ms with
    | nil => simp [writeMembers, writeText]
    | cons m' ms =>
      simp only [writeMembers, List.length_append, List.length_cons] at ih ⊢
      omega

theorem toOption_bind {α β ε : Type} {x : Except ε α} {a : α} {p : Bool}
    (h : x.toOption = if p then some a else none) (f : α → Except ε β) :
    (x >>= f).toOption = if p then (f a).toOption else none := by
  cases p with
  | false =>
    cases x with
    | error e => rfl
    | ok b => cases h
  | true =>
    cases x with
    | error e => cases h
    | ok b =>
      cases h
      rfl

theorem readValue_object {m : LooseText × Json} {ms : Members} (hms : ∀ x ∈ m :: ms, FlatMember x)
    (room fuel : Nat) (r : List Point) :
    (readValue .value (room + 1) (fuel + ms.length + 3)
      (.char '\x7b' :: ((writeMembers [] (m :: ms)).map .char ++ .char '}' :: r))).toOption =
      if (m :: ms).all (isShort ·.2) then some (.object (Members.putAll [] (m :: ms)), r)
      else none := by
  have hm := hms m (.head _)
  have hmembers := readMembers_flat hm (fun x hx => hms x (.tail _ hx)) room fuel [] r
  rw [readValue, skipGap_members hm]
  split
  · next t hclose =>
    -- a name stands behind the bracket
    obtain ⟨k, v⟩ := m
    obtain ⟨name, rfl, -⟩ := hm
    cases ms <;>
      simp only [writeMembers, List.map_append, writeText_ofString, List.cons_append,
        List.cons.injEq] at hclose <;>
      exact absurd (Point.char.inj hclose.1) (by decide)
  · exact toOption_bind hmembers _

theorem read?_write_object (depth : Nat) {m : LooseText × Json} {ms : Members}
    (hms : ∀ x ∈ m :: ms, FlatMember x) (hnames : ((m :: ms).map (·.1)).Nodup) :
    read? depth (write (.object (m :: ms))) =
      if (m :: ms).all (isShort ·.2) then some (.object (m :: ms)) else none := by
  have hpoints : (LooseText.ofString (write (.object (m :: ms)))).points =
      .char '\x7b' :: ((writeMembers [] (m :: ms)).map .char ++ [.char '}']) := by
    simp [LooseText.ofString, write, writeChars]
  have hfuel : ∃ fuel, 2 * (Point.char '\x7b' :: ((writeMembers [] (m :: ms)).map .char ++
      [.char '}'])).length + 2 = fuel + ms.length + 3 := by
    have hlength := length_le_writeMembers (m :: ms)
    simp only [List.length_cons, List.length_append, List.length_map, List.length_nil] at hlength ⊢
    exact ⟨2 * (writeMembers [] (m :: ms)).length + 3 - ms.length, by omega⟩
  obtain ⟨fuel, hfuel⟩ := hfuel
  have hvalue := readValue_object hms depth fuel []
  have hput : Members.putAll [] (m :: ms) = m :: ms := putAll_of_nodup hnames
  rw [hput] at hvalue
  have hread : (readAll depth .value
      (LooseText.ofString (write (.object (m :: ms)))).points).toOption =
      if (m :: ms).all (isShort ·.2) then some (.object (m :: ms)) else none := by
    rw [hpoints, readAll, skipGap_cons (by decide), hfuel]
    exact toOption_bind hvalue _
  rw [read?, read, if_neg (by simp [write, writeChars]), readLoose, ← hread]
  cases readAll depth .value (LooseText.ofString (write (.object (m :: ms)))).points <;> rfl

end Accounts.Json
