import Accounts.Proofs.Json.Extent

/-! # How deep what is read can be

The reader follows only so many open arrays and objects. It gives up on a text that opens one more
at its start, and only on texts with more opening brackets than it follows.
-/
namespace Accounts.Json

variable {form : NumberForm} {room fuel depth : Nat} {ps t : List Point}

theorem skipGap_suffix (ps : List Point) : skipGap ps <:+ ps :=
  List.dropWhile_suffix isGap

theorem readElements_suffix {opened : Nat} {es : List Element}
    (h : readElements opened ps = .ok (es, t)) : t <:+ ps := by
  fun_induction readElements opened ps generalizing es t with
  | case1 | case3 | case4 | case6 | case7 | case9 => cases h
  | case2 r =>
    cases h
    exact List.suffix_cons _ r
  | case5 a b c d x r p hp ih =>
    obtain ⟨⟨es', t'⟩, hr, heq⟩ := ok_of_bind h
    cases heq
    exact (ih hr).trans (List.suffix_append [Point.char '\\', Point.char 'u', a, b, c, d] (x :: r))
  | case8 p r _ _ c hc ih =>
    obtain ⟨⟨es', t'⟩, hr, heq⟩ := ok_of_bind h
    cases heq
    exact (ih hr).trans (List.suffix_append [Point.char '\\', p] r)
  | case10 p r _ _ _ _ _ _ ih =>
    obtain ⟨⟨es', t'⟩, hr, heq⟩ := ok_of_bind h
    cases heq
    exact (ih hr).trans (List.suffix_cons p r)

theorem readText_suffix {s : LooseText} (h : readText ps = .ok (s, t)) : t <:+ ps := by
  obtain ⟨⟨es, t'⟩, hr, heq⟩ := ok_of_bind h
  cases heq
  exact readElements_suffix hr

theorem figures_suffix (ps : List Point) : (figures ps).2 <:+ ps := by
  fun_induction figures ps with
  | case1 c r _ ih => exact ih.trans (List.suffix_cons _ r)
  | case2 | case3 => exact List.suffix_refl _

theorem readSign_suffix (ps : List Point) : (readSign ps).2 <:+ ps := by
  unfold readSign
  split
  · exact List.suffix_cons _ _
  · exact List.suffix_cons _ _
  · exact List.suffix_refl _

theorem readScale_suffix (ps : List Point) : (readScale ps).2 <:+ ps := by
  unfold readScale
  split
  · next e r =>
    split
    · have hfigures := (figures_suffix (readSign r).2).trans (readSign_suffix r)
      dsimp only
      split
      · exact List.suffix_refl _
      · next heq =>
        rw [heq] at hfigures
        exact hfigures.trans (List.suffix_cons _ r)
    · exact List.suffix_refl _
  · exact List.suffix_refl _

theorem readFraction_suffix (ps : List Point) : (readFraction ps).2 <:+ ps := by
  unfold readFraction
  split
  · next r =>
    have hfigures := figures_suffix r
    split
    · exact List.suffix_refl _
    · next heq =>
      rw [heq] at hfigures
      exact hfigures.trans (List.suffix_cons _ r)
  · exact List.suffix_refl _

theorem readWhole?_suffix {ds : List Char} (h : readWhole? ps = some (ds, t)) : t <:+ ps := by
  unfold readWhole? at h
  split at h
  · cases h
    exact List.suffix_cons _ _
  · have hfigures := figures_suffix ps
    split at h
    · cases h
    · next heq =>
      cases h
      rw [heq] at hfigures
      exact hfigures

theorem readNumeral?_suffix {n : Numeral} (h : readNumeral? ps = some (n, t)) : t <:+ ps := by
  unfold readNumeral? at h
  split at h
  next negative r hsign =>
  obtain ⟨⟨whole, t₁⟩, hwhole, heq⟩ := Option.bind_eq_some_iff.mp h
  simp only [pure, Option.some.injEq, Prod.mk.injEq] at heq
  obtain ⟨-, rfl⟩ := heq
  have hr : r <:+ ps := by
    split at hsign
    · cases hsign
      exact List.suffix_cons _ _
    · cases hsign
      exact List.suffix_refl _
  exact ((readScale_suffix _).trans (readFraction_suffix t₁)).trans
    ((readWhole?_suffix hwhole).trans hr)

theorem dropWord?_suffix {w : List Char} (h : dropWord? w ps = some t) : t <:+ ps := by
  fun_induction dropWord? w ps with
  | case1 ps =>
    cases h
    exact List.suffix_refl _
  | case2 c r ps ih => exact (ih h).trans (List.suffix_cons _ ps)
  | case3 | case4 => cases h

theorem readAtom_suffix {v : Json} (h : readAtom form ps = .ok (v, t)) : t <:+ ps := by
  unfold readAtom at h
  split at h
  · next found hfound =>
    cases h
    obtain ⟨⟨w, v'⟩, -, hw⟩ := List.exists_of_findSome?_eq_some hfound
    obtain ⟨t', ht, heq⟩ := Option.map_eq_some_iff.mp hw
    cases heq
    exact dropWord?_suffix ht
  · split at h
    · next n r hn =>
      have hr := readNumeral?_suffix hn
      unfold ofNumeral at h
      cases form with
      | written =>
        cases h
        exact hr
      | value =>
        dsimp only at h
        split at h
        · split at h
          · cases h
          · cases h
            exact hr
        · cases h
          exact hr
    · cases h

theorem error_of_bind {ε α β : Type} {x : Except ε α} {f : α → Except ε β} {e : ε}
    (h : (x >>= f) = .error e) : x = .error e ∨ ∃ a, x = .ok a ∧ f a = .error e := by
  cases x with
  | error e' =>
    cases h
    exact .inl rfl
  | ok a => exact .inr ⟨a, rfl, h⟩

theorem flaw_of_readElements {opened : Nat} {e : Stop} (h : readElements opened ps = .error e) :
    e.flaw ≠ .tooDeep := by
  fun_induction readElements opened ps with
  | case2 => cases h
  | case1 | case3 | case4 | case6 | case7 | case9 =>
    cases h
    intro hflaw
    cases hflaw
  | case5 a b c d x r p hp ih =>
    rcases error_of_bind h with h | ⟨a, -, h⟩
    · exact ih h
    · cases h
  | case8 p r _ _ c hc ih =>
    rcases error_of_bind h with h | ⟨a, -, h⟩
    · exact ih h
    · cases h
  | case10 p r _ _ _ _ _ _ ih =>
    rcases error_of_bind h with h | ⟨a, -, h⟩
    · exact ih h
    · cases h

theorem flaw_of_readText {e : Stop} (h : readText ps = .error e) : e.flaw ≠ .tooDeep := by
  rcases error_of_bind h with h | ⟨a, -, h⟩
  · exact flaw_of_readElements h
  · cases h

theorem flaw_of_readAtom {e : Stop} (h : readAtom form ps = .error e) : e.flaw ≠ .tooDeep := by
  unfold readAtom at h
  split at h
  · cases h
  · split at h
    · unfold ofNumeral at h
      split at h
      · cases h
      · split at h
        · split at h
          · cases h
            exact nofun
          · cases h
        · cases h
    · cases h
      exact nofun

def isOpener : Point → Bool
  | .char c => c == '[' || c == '\x7b'
  | .half _ => false

def openers (ps : List Point) : Nat :=
  ps.countP isOpener

theorem openers_le (h : t <:+ ps) : openers t ≤ openers ps :=
  h.sublist.countP_le

theorem openers_skipGap (ps : List Point) : openers (skipGap ps) ≤ openers ps :=
  openers_le (skipGap_suffix ps)

/-- The parts of the reader go on with an end of what they were given, and the room runs out only
on so many opening brackets. They call each other with less fuel. -/
structure Follows (form : NumberForm) (fuel : Nat) : Prop where
  value : ∀ {room ps t v}, readValue form room fuel ps = .ok (v, t) → t <:+ ps
  items : ∀ {room ps t xs}, readItems form room fuel ps = .ok (xs, t) → t <:+ ps
  members : ∀ {room before ps t ms}, readMembers form room fuel before ps = .ok (ms, t) → t <:+ ps
  deepValue : ∀ {room ps e}, readValue form room fuel ps = .error e → e.flaw = .tooDeep →
    room < openers ps
  deepItems : ∀ {room ps e}, readItems form room fuel ps = .error e → e.flaw = .tooDeep →
    room < openers ps
  deepMembers : ∀ {room before ps e}, readMembers form room fuel before ps = .error e →
    e.flaw = .tooDeep → room < openers ps

theorem Follows.value_succ (h : Follows form fuel) {v : Json}
    (hr : readValue form room (fuel + 1) ps = .ok (v, t)) : t <:+ ps := by
  unfold readValue at hr
  split at hr
  · next r =>
    obtain ⟨⟨s, t'⟩, hs, heq⟩ := ok_of_bind hr
    cases heq
    exact (readText_suffix hs).trans (List.suffix_cons _ r)
  · next r =>
    have hgap := (skipGap_suffix r).trans (List.suffix_cons (.char '\x7b') r)
    split at hr
    · cases hr
    split at hr
    · next t' hclosed =>
      cases hr
      rw [hclosed] at hgap
      exact (List.suffix_cons _ t).trans hgap
    · obtain ⟨⟨ms, t'⟩, hms, heq⟩ := ok_of_bind hr
      cases heq
      exact (h.members hms).trans hgap
  · next r =>
    have hgap := (skipGap_suffix r).trans (List.suffix_cons (.char '[') r)
    split at hr
    · cases hr
    split at hr
    · next t' hclosed =>
      cases hr
      rw [hclosed] at hgap
      exact (List.suffix_cons _ t).trans hgap
    · obtain ⟨⟨xs, t'⟩, hxs, heq⟩ := ok_of_bind hr
      cases heq
      exact (h.items hxs).trans hgap
  · exact readAtom_suffix hr

theorem Follows.items_succ (h : Follows form fuel) {xs : List Json}
    (hr : readItems form room (fuel + 1) ps = .ok (xs, t)) : t <:+ ps := by
  unfold readItems at hr
  obtain ⟨⟨x, t₁⟩, hx, hr⟩ := ok_of_bind hr
  have hgap := (skipGap_suffix t₁).trans (h.value hx)
  dsimp only at hr
  split at hr
  · next u hclosed =>
    cases hr
    rw [hclosed] at hgap
    exact (List.suffix_cons _ t).trans hgap
  · next u hcomma =>
    rw [hcomma] at hgap
    obtain ⟨⟨ys, t₂⟩, hys, heq⟩ := ok_of_bind hr
    cases heq
    exact (h.items hys).trans (((skipGap_suffix u).trans (List.suffix_cons _ u)).trans hgap)
  · cases hr

theorem Follows.members_succ (h : Follows form fuel) {before ms : Members}
    (hr : readMembers form room (fuel + 1) before ps = .ok (ms, t)) : t <:+ ps := by
  unfold readMembers at hr
  split at hr
  · next r =>
    obtain ⟨⟨name, t₁⟩, hname, hr⟩ := ok_of_bind hr
    have hgap := ((skipGap_suffix t₁).trans (readText_suffix hname)).trans
      (List.suffix_cons (.char '"') r)
    dsimp only at hr
    split at hr
    · next u hcolon =>
      rw [hcolon] at hgap
      obtain ⟨⟨x, t₂⟩, hx, hr⟩ := ok_of_bind hr
      have hend := (skipGap_suffix t₂).trans ((h.value hx).trans
        ((skipGap_suffix u).trans ((List.suffix_cons _ u).trans hgap)))
      dsimp only at hr
      split at hr
      · next w hclosed =>
        cases hr
        rw [hclosed] at hend
        exact (List.suffix_cons _ t).trans hend
      · next w hcomma =>
        rw [hcomma] at hend
        exact (h.members hr).trans ((skipGap_suffix w).trans ((List.suffix_cons _ w).trans hend))
      · cases hr
    · cases hr
  · cases hr

theorem lt_openers_of_bracket {p : Point} (hp : isOpener p = true)
    (h : room < openers (skipGap t)) : room + 1 < openers (p :: t) := by
  have hcount : openers (p :: t) = openers t + 1 := List.countP_cons_of_pos hp
  have hgap := openers_skipGap t
  omega

theorem Follows.deepValue_succ (h : Follows form fuel) {e : Stop}
    (hr : readValue form room (fuel + 1) ps = .error e) (hflaw : e.flaw = .tooDeep) :
    room < openers ps := by
  unfold readValue at hr
  split at hr
  · rcases error_of_bind hr with hr | ⟨a, -, hr⟩
    · exact absurd hflaw (flaw_of_readText hr)
    · cases hr
  · next r =>
    split at hr
    · exact List.countP_pos_iff.mpr ⟨_, .head _, by decide⟩
    split at hr
    · cases hr
    · rcases error_of_bind hr with hr | ⟨a, -, hr⟩
      · exact lt_openers_of_bracket (by decide) (h.deepMembers hr hflaw)
      · cases hr
  · next r =>
    split at hr
    · exact List.countP_pos_iff.mpr ⟨_, .head _, by decide⟩
    split at hr
    · cases hr
    · rcases error_of_bind hr with hr | ⟨a, -, hr⟩
      · exact lt_openers_of_bracket (by decide) (h.deepItems hr hflaw)
      · cases hr
  · exact absurd hflaw (flaw_of_readAtom hr)

theorem Follows.deepItems_succ (h : Follows form fuel) {e : Stop}
    (hr : readItems form room (fuel + 1) ps = .error e) (hflaw : e.flaw = .tooDeep) :
    room < openers ps := by
  unfold readItems at hr
  rcases error_of_bind hr with hr | ⟨⟨x, t₁⟩, hx, hr⟩
  · exact h.deepValue hr hflaw
  have hgap := (skipGap_suffix t₁).trans (h.value hx)
  dsimp only at hr
  split at hr
  · cases hr
  · next u hcomma =>
    rw [hcomma] at hgap
    rcases error_of_bind hr with hr | ⟨ys, -, hr⟩
    · exact Nat.lt_of_lt_of_le (h.deepItems hr hflaw)
        (openers_le ((skipGap_suffix u).trans ((List.suffix_cons _ u).trans hgap)))
    · cases hr
  · cases hr
    cases hflaw

theorem Follows.deepMembers_succ (h : Follows form fuel) {before : Members} {e : Stop}
    (hr : readMembers form room (fuel + 1) before ps = .error e) (hflaw : e.flaw = .tooDeep) :
    room < openers ps := by
  unfold readMembers at hr
  split at hr
  · next r =>
    rcases error_of_bind hr with hr | ⟨⟨name, t₁⟩, hname, hr⟩
    · exact absurd hflaw (flaw_of_readText hr)
    have hgap := ((skipGap_suffix t₁).trans (readText_suffix hname)).trans
      (List.suffix_cons (.char '"') r)
    dsimp only at hr
    split at hr
    · next u hcolon =>
      rw [hcolon] at hgap
      have hu := (skipGap_suffix u).trans ((List.suffix_cons _ u).trans hgap)
      rcases error_of_bind hr with hr | ⟨⟨x, t₂⟩, hx, hr⟩
      · exact Nat.lt_of_lt_of_le (h.deepValue hr hflaw) (openers_le hu)
      have hend := (skipGap_suffix t₂).trans ((h.value hx).trans hu)
      dsimp only at hr
      split at hr
      · cases hr
      · next w hcomma =>
        rw [hcomma] at hend
        exact Nat.lt_of_lt_of_le (h.deepMembers hr hflaw)
          (openers_le ((skipGap_suffix w).trans ((List.suffix_cons _ w).trans hend)))
      · cases hr
        cases hflaw
    · cases hr
      cases hflaw
  · cases hr
    cases hflaw

theorem follows (form : NumberForm) (fuel : Nat) : Follows form fuel := by
  induction fuel with
  | zero =>
    refine ⟨nofun, nofun, nofun, ?_, ?_, ?_⟩ <;>
    · intros
      rename_i hr hflaw
      cases hr
      cases hflaw
  | succ fuel ih =>
    exact ⟨ih.value_succ, ih.items_succ, ih.members_succ, ih.deepValue_succ, ih.deepItems_succ,
      ih.deepMembers_succ⟩

/-- A text that is too deep has more opening brackets than can be followed. -/
theorem openers_of_isTooDeep {s : String} (h : isTooDeep depth s = true) :
    depth + 1 < openers (LooseText.ofString s).points := by
  unfold isTooDeep read at h
  split at h
  · cases h
  · next r hread =>
    split at hread
    · cases hread
      cases h
    · unfold readLoose at hread
      cases hr : readAll depth .value (LooseText.ofString s).points with
      | ok v =>
        rw [hr] at hread
        cases hread
      | error e =>
        rw [hr] at hread
        cases hread
        have hflaw : e.flaw = .tooDeep := of_decide_eq_true h
        rcases error_of_bind hr with hr | ⟨⟨v, t⟩, -, hr⟩
        · exact Nat.lt_of_lt_of_le ((follows .value _).deepValue hr hflaw) (openers_skipGap _)
        · dsimp only at hr
          split at hr
          · cases hr
          · cases hr
            cases hflaw

theorem readValue_brackets (form : NumberForm) (fuel : Nat) {n : Nat} (hn : room < n)
    (hfuel : 2 * room < fuel) (r : List Point) :
    ∃ e, readValue form room fuel (List.replicate n (.char '[') ++ r) = .error e ∧
      e.flaw = .tooDeep := by
  induction room generalizing n fuel with
  | zero =>
    obtain ⟨n, rfl⟩ := Nat.exists_eq_succ_of_ne_zero (Nat.ne_of_gt hn)
    obtain ⟨fuel, rfl⟩ := Nat.exists_eq_succ_of_ne_zero (Nat.ne_of_gt hfuel)
    exact ⟨_, rfl, rfl⟩
  | succ room ih =>
    obtain ⟨n, rfl⟩ : ∃ m, n = m + 2 := ⟨n - 2, by omega⟩
    obtain ⟨fuel, rfl⟩ : ∃ m, fuel = m + 2 := ⟨fuel - 2, by omega⟩
    obtain ⟨e, he, hflaw⟩ := @ih fuel (n + 1) (by omega) (by omega)
    refine ⟨e, ?_, hflaw⟩
    rw [List.replicate_succ, List.cons_append] at he
    rw [List.replicate_succ, List.replicate_succ, List.cons_append, List.cons_append, readValue]
    have hgap : skipGap (.char '[' :: (List.replicate n (.char '[') ++ r)) =
        .char '[' :: (List.replicate n (.char '[') ++ r) := rfl
    rw [hgap]
    change (readItems form room (fuel + 1) _ >>= _) = _
    rw [readItems, he]
    rfl

theorem isTooDeep_brackets {n : Nat} (hn : depth + 1 < n) (cs : List Char) :
    isTooDeep depth (String.ofList (List.replicate n '[' ++ cs)) = true := by
  have hpoints : (LooseText.ofString (String.ofList (List.replicate n '[' ++ cs))).points =
      List.replicate n (.char '[') ++ cs.map Point.char := by
    simp [LooseText.ofString]
  obtain ⟨n, rfl⟩ : ∃ m, n = m + 1 := ⟨n - 1, by omega⟩
  have hlength : 2 * (depth + 1) < 2 * (List.replicate (n + 1) (Point.char '[') ++
      cs.map Point.char).length + 2 := by
    rw [List.length_append, List.length_replicate]
    omega
  obtain ⟨e, he, hflaw⟩ := readValue_brackets .value _ hn hlength (cs.map Point.char)
  have hmark : (String.ofList (List.replicate (n + 1) '[' ++ cs)).toList.head? ≠
      some '\uFEFF' := by
    rw [String.toList_ofList, List.replicate_succ, List.cons_append, List.head?_cons]
    decide
  have hgap : skipGap (List.replicate (n + 1) (Point.char '[') ++ cs.map Point.char) =
      List.replicate (n + 1) (Point.char '[') ++ cs.map Point.char := rfl
  rw [isTooDeep, read, if_neg hmark, readLoose, hpoints, readAll, hgap, he]
  exact decide_eq_true hflaw

theorem list_of_readValue {r : List Point} {v : Json}
    (h : readValue form room fuel (.char '[' :: r) = .ok (v, t)) : ∃ xs, v = .list xs := by
  cases fuel with
  | zero => cases h
  | succ fuel =>
    cases room with
    | zero => cases h
    | succ room =>
      rw [readValue] at h
      split at h
      · cases h
        exact ⟨[], rfl⟩
      · obtain ⟨⟨xs, t'⟩, -, heq⟩ := ok_of_bind h
        cases heq
        exact ⟨xs, rfl⟩

theorem read?_bracket_ne_object (depth : Nat) (cs : List Char) (ms : Members) :
    read? depth (String.ofList ('[' :: cs)) ≠ some (.object ms) := by
  intro h
  have hmark : (String.ofList ('[' :: cs)).toList.head? ≠ some '\uFEFF' := by
    rw [String.toList_ofList, List.head?_cons]
    decide
  have hpoints : (LooseText.ofString (String.ofList ('[' :: cs))).points =
      .char '[' :: cs.map Point.char := by
    simp [LooseText.ofString]
  rw [read?, read, if_neg hmark, readLoose, hpoints] at h
  cases hr : readAll depth .value (.char '[' :: cs.map Point.char) with
  | error e =>
    rw [hr] at h
    cases h
  | ok v =>
    rw [hr] at h
    cases h
    obtain ⟨⟨v, t⟩, hvalue, heq⟩ := ok_of_bind hr
    obtain ⟨xs, rfl⟩ := list_of_readValue hvalue
    dsimp only at heq
    split at heq <;> cases heq

end Accounts.Json
