import Accounts.Json.Reader

/-! # How long what is read can be

Reading takes a value from the start of a text. No text in the value is longer than what it was
taken from, and those inside a list or an object are shorter, because of its brackets.
-/
namespace Accounts.Json

/-- No text in the value, names included, has more than `n` code points. -/
inductive Fits (n : Nat) : Json → Prop where
  | null : Fits n .null
  | bool (b : Bool) : Fits n (.bool b)
  | int (i : Int) : Fits n (.int i)
  | real (x : Double) : Fits n (.real x)
  | text (s : LooseText) : s.length ≤ n → Fits n (.text s)
  | list (items : List Json) : (∀ x ∈ items, Fits n x) → Fits n (.list items)
  | object (ms : Members) : (∀ m ∈ ms, m.1.length ≤ n) → (∀ m ∈ ms, Fits n m.2) →
      Fits n (.object ms)

theorem Fits.mono {n k : Nat} {v : Json} (h : Fits n v) (hle : n ≤ k) : Fits k v := by
  induction h with
  | null => exact .null
  | bool b => exact .bool b
  | int i => exact .int i
  | real x => exact .real x
  | text s hs => exact .text s (Nat.le_trans hs hle)
  | list items _ ih => exact .list items ih
  | object ms hnames _ ih => exact .object ms (fun m hm => Nat.le_trans (hnames m hm) hle) ih

def Members.Fit (n : Nat) (ms : Members) : Prop :=
  ∀ m ∈ ms, m.1.length ≤ n ∧ Fits n m.2

theorem Members.Fit.object {n : Nat} {ms : Members} (h : ms.Fit n) : Fits n (.object ms) :=
  .object ms (fun m hm => (h m hm).1) fun m hm => (h m hm).2

theorem Members.Fit.put {n : Nat} {ms : Members} (h : ms.Fit n) {name : LooseText} {v : Json}
    (hname : name.length ≤ n) (hv : Fits n v) : (ms.put name v).Fit n := by
  induction ms with
  | nil =>
    intro m hm
    rw [List.mem_singleton.mp hm]
    exact ⟨hname, hv⟩
  | cons x r ih =>
    have hr : Members.Fit n r := fun m hm => h m (.tail _ hm)
    obtain ⟨k, u⟩ := x
    unfold Members.put
    split
    · intro m hm
      rcases List.mem_cons.mp hm with rfl | hm
      · exact ⟨(h (k, u) (.head _)).1, hv⟩
      · exact hr m hm
    · intro m hm
      rcases List.mem_cons.mp hm with rfl | hm
      · exact h _ (.head _)
      · exact ih hr m hm

theorem Members.Fit.get? {n : Nat} {ms : Members} (h : ms.Fit n) {name : LooseText} {v : Json}
    (hv : ms.get? name = some v) : name.length ≤ n ∧ Fits n v := by
  induction ms with
  | nil => cases hv
  | cons x r ih =>
    obtain ⟨k, u⟩ := x
    unfold Members.get? at hv
    split at hv
    · next heq =>
      cases hv
      exact heq ▸ h _ (.head _)
    · exact ih (fun m hm => h m (.tail _ hm)) hv

theorem length_skipGap_le (ps : List Point) : (skipGap ps).length ≤ ps.length :=
  (List.dropWhile_suffix isGap).length_le

theorem length_joinElements_le (es : List Element) : (joinElements es).length ≤ es.length := by
  fun_induction joinElements es with
  | case1 => exact Nat.le_refl 0
  | case2 e => exact Nat.le_refl 1
  | case3 e f r c _ _ ih =>
    simp only [List.length_cons]
    omega
  | case4 e f r c _ _ ih => exact Nat.succ_le_succ ih
  | case5 e f r _ ih => exact Nat.succ_le_succ ih

theorem ok_of_bind {ε α β : Type} {x : Except ε α} {f : α → Except ε β} {b : β}
    (h : (x >>= f) = .ok b) : ∃ a, x = .ok a ∧ f a = .ok b := by
  cases x with
  | error e => cases h
  | ok a => exact ⟨a, rfl, h⟩

theorem length_readElements {opened : Nat} {ps t : List Point} {es : List Element}
    (h : readElements opened ps = .ok (es, t)) : es.length + t.length < ps.length := by
  fun_induction readElements opened ps generalizing es t with
  | case1 | case3 | case4 | case6 | case7 | case9 => cases h
  | case2 r =>
    cases h
    simp
  | case5 a b c d x r p hp ih =>
    obtain ⟨⟨es', t'⟩, hr, heq⟩ := ok_of_bind h
    cases heq
    have hlength := ih hr
    simp only [List.length_cons] at hlength ⊢
    omega
  | case8 p r _ _ c hc ih =>
    obtain ⟨⟨es', t'⟩, hr, heq⟩ := ok_of_bind h
    cases heq
    have hlength := ih hr
    simp only [List.length_cons]
    omega
  | case10 p r _ _ _ _ _ _ ih =>
    obtain ⟨⟨es', t'⟩, hr, heq⟩ := ok_of_bind h
    cases heq
    have hlength := ih hr
    simp only [List.length_cons]
    omega

theorem length_readText {r t : List Point} {s : LooseText} (h : readText r = .ok (s, t)) :
    s.length + t.length < r.length := by
  obtain ⟨⟨es, t'⟩, hr, heq⟩ := ok_of_bind h
  cases heq
  have hlength := length_readElements hr
  have hjoined := length_joinElements_le es
  change (joinElements es).length + t.length < r.length
  omega

theorem length_figures (ps : List Point) :
    (figures ps).1.length + (figures ps).2.length = ps.length := by
  fun_induction figures ps with
  | case1 c r hc ih =>
    simp only [List.length_cons]
    omega
  | case2 | case3 => simp

theorem length_readSign (ps : List Point) :
    (readSign ps).1.length + (readSign ps).2.length = ps.length := by
  unfold readSign
  split <;> simp only [List.length_cons, List.length_nil] <;> omega

theorem length_readScale (ps : List Point) :
    (readScale ps).1.length + (readScale ps).2.length = ps.length := by
  unfold readScale
  split
  · next e r =>
    split
    · have hsign := length_readSign r
      have hfigures := length_figures (readSign r).2
      dsimp only
      split
      · simp
      · next ds u _ heq =>
        simp only [heq] at hfigures
        simp only [List.cons_append, List.length_cons, List.length_append]
        omega
    · simp
  · simp

theorem length_readFraction (ps : List Point) :
    (if (readFraction ps).1.isEmpty then [] else '.' :: (readFraction ps).1).length +
      (readFraction ps).2.length = ps.length := by
  unfold readFraction
  split
  · next r =>
    have hfigures := length_figures r
    split
    · simp
    · next ds t hds heq =>
      simp only [heq] at hfigures
      have hne : ds.isEmpty = false := by
        cases ds with
        | nil => exact (hds rfl).elim
        | cons d ds => rfl
      simp only [hne, Bool.false_eq_true, if_false, List.length_cons]
      omega
  · simp

theorem length_readWhole? {ps t : List Point} {ds : List Char}
    (h : readWhole? ps = some (ds, t)) : ds.length + t.length = ps.length := by
  unfold readWhole? at h
  split at h
  · cases h
    simp only [List.length_cons, List.length_nil]
    omega
  · next r hr =>
    have hfigures := length_figures ps
    split at h
    · cases h
    · next ds' t' _ heq =>
      cases h
      rw [heq] at hfigures
      exact hfigures

theorem length_readNumeral? {ps t : List Point} {n : Numeral}
    (h : readNumeral? ps = some (n, t)) : n.written.length + t.length = ps.length := by
  unfold readNumeral? at h
  split at h
  next negative r hsign =>
  obtain ⟨⟨whole, t₁⟩, hwhole, heq⟩ := Option.bind_eq_some_iff.mp h
  have hlength := length_readWhole? hwhole
  have hfraction := length_readFraction t₁
  have hscale := length_readScale (readFraction t₁).2
  simp only [pure, Option.some.injEq, Prod.mk.injEq] at heq
  obtain ⟨rfl, rfl⟩ := heq
  have hnegative : (if negative then ['-'] else []).length + r.length = ps.length := by
    split at hsign
    · cases hsign
      simp only [if_true, List.length_cons, List.length_nil]
      omega
    · cases hsign
      simp
  simp only [Numeral.written, String.length_ofList, List.length_append]
  omega

theorem length_dropWord? {w : List Char} {ps t : List Point} (h : dropWord? w ps = some t) :
    w.length + t.length = ps.length := by
  fun_induction dropWord? w ps with
  | case1 ps =>
    cases h
    simp
  | case2 c r ps ih =>
    have hlength := ih h
    simp only [List.length_cons]
    omega
  | case3 | case4 => cases h

theorem words_fit : ∀ x ∈ words, 0 < x.1.toList.length ∧ ∀ n, Fits n x.2 := by
  intro x hx
  simp only [words, List.mem_cons, List.not_mem_nil, or_false] at hx
  rcases hx with rfl | rfl | rfl | rfl | rfl | rfl
  · exact ⟨by decide, fun _ => .null⟩
  · exact ⟨by decide, fun _ => .bool true⟩
  · exact ⟨by decide, fun _ => .bool false⟩
  · exact ⟨by decide, fun _ => .real _⟩
  · exact ⟨by decide, fun _ => .real _⟩
  · exact ⟨by decide, fun _ => .real _⟩

/-- A value and what follows it are taken from the code points. Only a text can be as long as all of
them. -/
structure TakenFrom (ps : List Point) (v : Json) (t : List Point) : Prop where
  rest : t.length ≤ ps.length
  fits : Fits ps.length v
  nested : (∀ s, v ≠ .text s) → ∃ n, n < ps.length ∧ Fits n v

theorem TakenFrom.of_shorter {ps t : List Point} {v : Json} {n : Nat} (hrest : t.length ≤ n)
    (hn : n < ps.length) (h : Fits n v) : TakenFrom ps v t :=
  ⟨by omega, h.mono (Nat.le_of_lt hn), fun _ => ⟨n, hn, h⟩⟩

theorem takenFrom_readAtom {form : NumberForm} {ps t : List Point} {v : Json}
    (h : readAtom form ps = .ok (v, t)) : TakenFrom ps v t := by
  unfold readAtom at h
  split at h
  · next found hfound =>
    cases h
    obtain ⟨⟨w, v'⟩, hmem, hw⟩ := List.exists_of_findSome?_eq_some hfound
    obtain ⟨t', ht, heq⟩ := Option.map_eq_some_iff.mp hw
    cases heq
    obtain ⟨hpositive, hfits⟩ := words_fit _ hmem
    have hlength := length_dropWord? ht
    have hshorter : t.length < ps.length := by
      rw [← hlength]
      exact Nat.lt_add_of_pos_left hpositive
    exact .of_shorter (Nat.le_refl _) hshorter (hfits _)
  · split at h
    · next n r hn =>
      have hlength := length_readNumeral? hn
      have hpositive : 0 < ps.length := by
        cases ps with
        | nil => cases hn
        | cons p ps => exact Nat.succ_pos _
      unfold ofNumeral at h
      cases form with
      | written =>
        cases h
        refine ⟨by omega, .text _ ?_, fun hne => (hne _ rfl).elim⟩
        rw [LooseText.length_ofString]
        omega
      | value =>
        dsimp only at h
        split at h
        · split at h
          · cases h
          · cases h
            exact ⟨by omega, .int _, fun _ => ⟨0, hpositive, .int _⟩⟩
        · cases h
          exact ⟨by omega, .real _, fun _ => ⟨0, hpositive, .real _⟩⟩
    · cases h

/-- What the parts of the reader take with some fuel. They call each other with less of it. -/
structure Takes (form : NumberForm) (fuel : Nat) : Prop where
  value : ∀ {room ps t v}, readValue form room fuel ps = .ok (v, t) → TakenFrom ps v t
  items : ∀ {room ps t xs}, readItems form room fuel ps = .ok (xs, t) →
    t.length ≤ ps.length ∧ ∀ x ∈ xs, Fits ps.length x
  members : ∀ {room before ps t ms}, readMembers form room fuel before ps = .ok (ms, t) →
    t.length ≤ ps.length ∧ ∀ n, ps.length ≤ n → before.Fit n → Members.Fit n ms

section Fuel

variable {form : NumberForm} {room fuel : Nat} {ps t : List Point}

theorem Takes.value_succ (h : Takes form fuel) {v : Json}
    (hr : readValue form room (fuel + 1) ps = .ok (v, t)) : TakenFrom ps v t := by
  unfold readValue at hr
  split at hr
  · next r =>
    obtain ⟨⟨s, t'⟩, hs, heq⟩ := ok_of_bind hr
    cases heq
    have hlength := length_readText hs
    exact .of_shorter (by omega) (Nat.lt_succ_self r.length) (.text s (by omega))
  · next r =>
    have hgap := length_skipGap_le r
    split at hr
    · cases hr
    split at hr
    · next t' hclosed =>
      cases hr
      rw [hclosed, List.length_cons] at hgap
      exact .of_shorter (by omega) (Nat.lt_succ_self r.length) (.object [] nofun nofun)
    · obtain ⟨⟨ms, t'⟩, hms, heq⟩ := ok_of_bind hr
      cases heq
      obtain ⟨hrest, hfit⟩ := h.members hms
      have hobject : Fits r.length (.object ms) := (hfit r.length hgap nofun).object
      exact .of_shorter (Nat.le_trans hrest hgap) (Nat.lt_succ_self r.length) hobject
  · next r =>
    have hgap := length_skipGap_le r
    split at hr
    · cases hr
    split at hr
    · next t' hclosed =>
      cases hr
      rw [hclosed, List.length_cons] at hgap
      exact .of_shorter (by omega) (Nat.lt_succ_self r.length) (.list [] nofun)
    · obtain ⟨⟨xs, t'⟩, hxs, heq⟩ := ok_of_bind hr
      cases heq
      obtain ⟨hrest, hfit⟩ := h.items hxs
      have hlist : Fits r.length (.list xs) := .list xs fun x hx => (hfit x hx).mono hgap
      exact .of_shorter (Nat.le_trans hrest hgap) (Nat.lt_succ_self r.length) hlist
  · exact takenFrom_readAtom hr

theorem Takes.items_succ (h : Takes form fuel) {xs : List Json}
    (hr : readItems form room (fuel + 1) ps = .ok (xs, t)) :
    t.length ≤ ps.length ∧ ∀ x ∈ xs, Fits ps.length x := by
  unfold readItems at hr
  obtain ⟨⟨x, t₁⟩, hx, hr⟩ := ok_of_bind hr
  have taken := h.value hx
  have hrest := taken.rest
  have hgap := length_skipGap_le t₁
  dsimp only at hr
  split at hr
  · next u hclosed =>
    cases hr
    rw [hclosed, List.length_cons] at hgap
    refine ⟨by omega, fun y hy => ?_⟩
    rw [List.mem_singleton.mp hy]
    exact taken.fits
  · next u hcomma =>
    rw [hcomma, List.length_cons] at hgap
    have hgap' := length_skipGap_le u
    have hshorter : (skipGap u).length ≤ ps.length := by omega
    obtain ⟨⟨ys, t₂⟩, hys, heq⟩ := ok_of_bind hr
    cases heq
    obtain ⟨hrest', hfit⟩ := h.items hys
    refine ⟨Nat.le_trans hrest' hshorter, fun y hy => ?_⟩
    rcases List.mem_cons.mp hy with rfl | hy
    · exact taken.fits
    · exact (hfit y hy).mono hshorter
  · cases hr

theorem Takes.members_succ (h : Takes form fuel) {before ms : Members}
    (hr : readMembers form room (fuel + 1) before ps = .ok (ms, t)) :
    t.length ≤ ps.length ∧ ∀ n, ps.length ≤ n → before.Fit n → ms.Fit n := by
  unfold readMembers at hr
  split at hr
  · next r =>
    rw [List.length_cons]
    obtain ⟨⟨name, t₁⟩, hname, hr⟩ := ok_of_bind hr
    have hlength := length_readText hname
    have hgap := length_skipGap_le t₁
    dsimp only at hr
    split at hr
    · next u hcolon =>
      rw [hcolon, List.length_cons] at hgap
      have hgap' := length_skipGap_le u
      obtain ⟨⟨x, t₂⟩, hx, hr⟩ := ok_of_bind hr
      have taken := h.value hx
      have hrest := taken.rest
      have hend := length_skipGap_le t₂
      have hput : ∀ n, r.length + 1 ≤ n → before.Fit n → (before.put name x).Fit n :=
        fun n hn hbefore => hbefore.put (by omega) (taken.fits.mono (by omega))
      dsimp only at hr
      split at hr
      · next w hclosed =>
        cases hr
        rw [hclosed, List.length_cons] at hend
        exact ⟨by omega, hput⟩
      · next w hcomma =>
        rw [hcomma, List.length_cons] at hend
        have hend' := length_skipGap_le w
        obtain ⟨hrest', hfit⟩ := h.members hr
        exact ⟨by omega, fun n hn hbefore => hfit n (by omega) (hput n hn hbefore)⟩
      · cases hr
    · cases hr
  · cases hr

end Fuel

theorem takes (form : NumberForm) (fuel : Nat) : Takes form fuel := by
  induction fuel with
  | zero => exact ⟨nofun, nofun, nofun⟩
  | succ fuel ih => exact ⟨ih.value_succ, ih.items_succ, ih.members_succ⟩

theorem fits_of_read {depth : Nat} {form : NumberForm} {s : String} {v : Json}
    (h : read depth form s = .ok v)
    (hv : ∀ t, v ≠ .text t) : ∃ n, n < s.length ∧ Fits n v := by
  unfold read at h
  split at h
  · cases h
  · cases hr : readAll depth form (LooseText.ofString s).points with
    | error e =>
      rw [readLoose, hr] at h
      cases h
    | ok v' =>
      rw [readLoose, hr] at h
      cases h
      obtain ⟨⟨v', t⟩, hvalue, heq⟩ := ok_of_bind hr
      dsimp only at heq
      split at heq
      · cases heq
        obtain ⟨n, hn, hfits⟩ := ((takes form _).value hvalue).nested hv
        have hgap := length_skipGap_le (LooseText.ofString s).points
        have hlength : (LooseText.ofString s).points.length = s.length := LooseText.length_ofString s
        exact ⟨n, by omega, hfits⟩
      · cases heq

end Accounts.Json
