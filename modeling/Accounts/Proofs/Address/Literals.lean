import Accounts.Address.HostLiteral

/-! # Literal hosts without points

Of the literal hosts without a point or a zone, those are accepted that have eight groups, and those
that have at most seven on the two sides of two colons.
-/
namespace Accounts.Address

variable {cs : List Char} {gs before after side : List (List Char)} {n : Nat}

/-- The groups with a colon between any two. -/
def joined (gs : List (List Char)) : List Char :=
  [':'].intercalate gs

/-- What a reader that divides a text at its colons finds where these groups were written. -/
def asRead : List (List Char) → List (List Char)
  | [] => [[]]
  | g :: gs => g :: gs

def IsFull (cs : List Char) : Prop :=
  ∃ gs : List (List Char), gs.length = 8 ∧ (∀ g ∈ gs, isGroup g = true) ∧ cs = joined gs

def IsShortened (cs : List Char) : Prop :=
  ∃ before after : List (List Char), before.length + after.length ≤ 7 ∧
    (∀ g ∈ before ++ after, isGroup g = true) ∧ cs = joined before ++ "::".toList ++ joined after

theorem isGroup_iff : isGroup cs = true ↔
    cs ≠ [] ∧ cs.length ≤ 4 ∧ ∀ c ∈ cs, isHexDigit c = true := by
  simp [isGroup, and_assoc]

theorem colon_not_mem_group (h : isGroup cs = true) : ':' ∉ cs := fun hmem =>
  absurd ((isGroup_iff.mp h).2.2 ':' hmem) (by decide)

theorem asRead_ne_nil (gs : List (List Char)) : asRead gs ≠ [] := by
  cases gs with
  | nil => decide
  | cons g gs => exact List.cons_ne_nil g gs

theorem joined_asRead (gs : List (List Char)) : joined (asRead gs) = joined gs := by
  cases gs with
  | nil => rfl
  | cons g gs => rfl

theorem colon_not_mem_asRead (h : ∀ g ∈ gs, isGroup g = true) : ∀ g ∈ asRead gs, ':' ∉ g := by
  intro g hg
  cases gs with
  | nil =>
    cases List.mem_singleton.mp hg
    exact List.not_mem_nil
  | cons g' gs => exact colon_not_mem_group (h g hg)

theorem sideCount_eq_some (hside : side ≠ []) : sideCount? side = some n ↔
    ∃ gs, side = asRead gs ∧ (∀ g ∈ gs, isGroup g = true) ∧ gs.length = n := by
  unfold sideCount?
  constructor
  · intro h
    split at h
    · next hempty => exact ⟨[], hempty, by simp, by simpa using h⟩
    · split at h
      · next hall =>
        cases side with
        | nil => contradiction
        | cons g gs =>
          exact ⟨g :: gs, rfl, List.all_eq_true.mp hall, Option.some.inj h⟩
      · cases h
  · rintro ⟨gs, rfl, hgs, rfl⟩
    cases gs with
    | nil => rfl
    | cons g gs =>
      have hg := (isGroup_iff.mp (hgs g List.mem_cons_self)).1
      rw [asRead, if_neg (by simp [hg]), if_pos (List.all_eq_true.mpr hgs)]

theorem joined_append (hb : before ≠ []) (ha : after ≠ []) :
    joined (before ++ after) = joined before ++ ':' :: joined after := by
  induction before with
  | nil => contradiction
  | cons g gs ih =>
    cases gs with
    | nil =>
      rw [List.singleton_append, joined, List.intercalate_cons_of_ne_nil ha]
      simp [joined]
    | cons g' gs =>
      simp only [joined, List.cons_append, List.intercalate_cons_cons] at ih ⊢
      rw [ih (List.cons_ne_nil g' gs)]
      simp

theorem joined_gap (hb : before ≠ []) (ha : after ≠ []) :
    joined (before ++ [] :: after) = joined before ++ "::".toList ++ joined after := by
  have hafter : joined ([] :: after) = ':' :: joined after :=
    joined_append (List.cons_ne_nil [] []) ha
  rw [joined_append hb (List.cons_ne_nil _ _), hafter, List.append_assoc]
  rfl

theorem joined_pieces (cs : List Char) : joined (Text.pieces ':' cs) = cs := by
  rw [Text.pieces_eq_splitOn]
  exact List.intercalate_splitOn ':'

theorem pieces_joined (hgs : ∀ g ∈ gs, ':' ∉ g) (hne : gs ≠ []) :
    Text.pieces ':' (joined gs) = gs := by
  rw [Text.pieces_eq_splitOn]
  exact List.splitOn_intercalate ':' hgs hne

theorem mem_joined {g : List Char} {c : Char} (hg : g ∈ gs) (hc : c ∈ g) : c ∈ joined gs := by
  induction gs with
  | nil => cases hg
  | cons g' gs ih =>
    cases gs with
    | nil =>
      cases List.mem_singleton.mp hg
      simpa [joined] using hc
    | cons g'' gs =>
      rw [joined, List.intercalate_cons_cons]
      rcases List.mem_cons.mp hg with rfl | hg
      · exact List.mem_append_left _ (List.mem_append_left _ hc)
      · exact List.mem_append_right _ (ih hg)

theorem groups_of_no_point (hpoint : '.' ∉ cs) : groups? cs = some (Text.pieces ':' cs) := by
  simp only [groups?]
  cases hlast : (Text.pieces ':' cs).getLast? with
  | none => rfl
  | some last =>
    have hnot : '.' ∉ last := fun hmem => hpoint <| by
      have hjoined := mem_joined (List.mem_of_getLast? hlast) hmem
      rwa [joined_pieces] at hjoined
    simp [hnot]

/-- The first two colons in a row are those that the groups were written around. -/
theorem gap_found (hb : ∀ g ∈ before, isGroup g = true) :
    (asRead before ++ [] :: asRead after).tail.dropLast.findIdx? List.isEmpty =
      some ((asRead before).length - 1) := by
  obtain ⟨b, bs, hread, hbs⟩ : ∃ b bs, asRead before = b :: bs ∧ ∀ g ∈ bs, isGroup g = true := by
    cases before with
    | nil => exact ⟨[], [], rfl, by simp⟩
    | cons b bs => exact ⟨b, bs, rfl, fun g hg => hb g (List.mem_cons_of_mem b hg)⟩
  have hnone : bs.findIdx? List.isEmpty = none := by
    rw [List.findIdx?_eq_none_iff]
    intro g hg
    simpa using (isGroup_iff.mp (hbs g hg)).1
  rw [hread, List.cons_append, List.tail_cons, List.dropLast_append_cons,
    List.dropLast_cons_of_ne_nil (asRead_ne_nil after), List.findIdx?_append, hnone,
    List.findIdx?_cons]
  simp

theorem isVersion6_joined (hgs : ∀ g ∈ gs, isGroup g = true) (hlength : gs.length = 8)
    (hgroups : groups? cs = some gs) : isVersion6 cs = true := by
  have hnone : gs.tail.dropLast.findIdx? List.isEmpty = none := by
    rw [List.findIdx?_eq_none_iff]
    intro g hg
    have hmem := List.mem_of_mem_tail (List.dropLast_subset _ hg)
    simpa using (isGroup_iff.mp (hgs g hmem)).1
  simp only [isVersion6, hgroups, hnone]
  simpa [hlength] using hgs

theorem isVersion6_gap (hgs : ∀ g ∈ before ++ after, isGroup g = true)
    (hlength : before.length + after.length ≤ 7)
    (hgroups : groups? cs = some (asRead before ++ [] :: asRead after)) :
    isVersion6 cs = true := by
  have hbefore : ∀ g ∈ before, isGroup g = true := fun g hg =>
    hgs g (List.mem_append_left after hg)
  have hafter : ∀ g ∈ after, isGroup g = true := fun g hg =>
    hgs g (List.mem_append_right before hg)
  have hpos : 0 < (asRead before).length := List.length_pos_iff.mpr (asRead_ne_nil before)
  have hcount : ∀ {gs : List (List Char)}, (∀ g ∈ gs, isGroup g = true) →
      sideCount? (asRead gs) = some gs.length := fun h =>
    (sideCount_eq_some (asRead_ne_nil _)).mpr ⟨_, rfl, h, rfl⟩
  simp only [isVersion6, hgroups, gap_found hbefore]
  have hdrop : (asRead before ++ [] :: asRead after).drop ((asRead before).length - 1 + 2) =
      asRead after := by
    rw [List.append_cons, List.drop_left']
    simp
    omega
  rw [hdrop, Nat.sub_add_cancel hpos, List.take_left' rfl, hcount hbefore, hcount hafter]
  simpa using hlength

theorem isVersion6_cases (hgroups : groups? cs = some gs) (h : isVersion6 cs = true) :
    (gs.length = 8 ∧ ∀ g ∈ gs, isGroup g = true) ∨
      ∃ before after, before.length + after.length ≤ 7 ∧
        (∀ g ∈ before ++ after, isGroup g = true) ∧
        gs = asRead before ++ [] :: asRead after := by
  simp only [isVersion6, hgroups] at h
  cases hfind : gs.tail.dropLast.findIdx? List.isEmpty with
  | none =>
    rw [hfind] at h
    exact .inl (by simpa using h)
  | some i =>
    rw [hfind] at h
    obtain ⟨hlt, hempty, -⟩ := List.findIdx?_eq_some_iff_getElem.mp hfind
    rw [List.length_dropLast, List.length_tail] at hlt
    have hgap : gs[i + 1] = [] := by simpa using hempty
    have hsplit : gs = gs.take (i + 1) ++ [] :: gs.drop (i + 2) := by
      rw [← hgap, ← List.drop_eq_getElem_cons, List.take_append_drop]
    have hbefore : gs.take (i + 1) ≠ [] := List.length_pos_iff.mp (by rw [List.length_take]; omega)
    have hafter : gs.drop (i + 2) ≠ [] := List.length_pos_iff.mp (by rw [List.length_drop]; omega)
    dsimp only at h
    split at h
    · next b a hb ha =>
      obtain ⟨before, hreadb, hallb, rfl⟩ := (sideCount_eq_some hbefore).mp hb
      obtain ⟨after, hreada, halla, rfl⟩ := (sideCount_eq_some hafter).mp ha
      rw [hreadb, hreada] at hsplit
      exact .inr ⟨before, after, by simpa using h,
        fun g hg => (List.mem_append.mp hg).elim (hallb g) (halla g), hsplit⟩
    · cases h

theorem isVersion6_iff (hpoint : '.' ∉ cs) :
    isVersion6 cs = true ↔ IsFull cs ∨ IsShortened cs := by
  have hgroups := groups_of_no_point hpoint
  constructor
  · intro h
    rcases isVersion6_cases hgroups h with ⟨hlength, hall⟩ | ⟨before, after, hlength, hall, heq⟩
    · exact .inl ⟨_, hlength, hall, (joined_pieces cs).symm⟩
    · refine .inr ⟨before, after, hlength, hall, ?_⟩
      rw [← joined_pieces cs, heq, joined_gap (asRead_ne_nil _) (asRead_ne_nil _),
        joined_asRead, joined_asRead]
  · rintro (⟨gs, hlength, hall, rfl⟩ | ⟨before, after, hlength, hall, rfl⟩)
    · refine isVersion6_joined hall hlength (hgroups.trans (congrArg some (pieces_joined ?_ ?_)))
      · exact fun g hg => colon_not_mem_group (hall g hg)
      · rintro rfl
        cases hlength
    · refine isVersion6_gap hall hlength (hgroups.trans (congrArg some ?_))
      rw [← joined_asRead before, ← joined_asRead after,
        ← joined_gap (asRead_ne_nil _) (asRead_ne_nil _)]
      refine pieces_joined ?_ (by simp)
      intro g hg
      rcases List.mem_append.mp hg with hg | hg
      · exact colon_not_mem_asRead (fun g hg => hall g (List.mem_append_left after hg)) g hg
      · rcases List.mem_cons.mp hg with rfl | hg
        · exact List.not_mem_nil
        · exact colon_not_mem_asRead (fun g hg => hall g (List.mem_append_right before hg)) g hg

theorem mem_of_mem_joined {c : Char} (hc : c ∈ joined gs) : c = ':' ∨ ∃ g ∈ gs, c ∈ g := by
  induction gs with
  | nil => cases hc
  | cons g gs ih =>
    cases gs with
    | nil => exact .inr ⟨g, List.mem_cons_self, by simpa [joined] using hc⟩
    | cons g' gs =>
      rw [joined, List.intercalate_cons_cons] at hc
      rcases List.mem_append.mp hc with hc | hc
      · rcases List.mem_append.mp hc with hc | hc
        · exact .inr ⟨g, List.mem_cons_self, hc⟩
        · exact .inl (List.mem_singleton.mp hc)
      · obtain hcolon | ⟨g'', hg, hmem⟩ := ih hc
        · exact .inl hcolon
        · exact .inr ⟨g'', List.mem_cons_of_mem g hg, hmem⟩

theorem mem_address {c : Char} (h : IsFull cs ∨ IsShortened cs) (hc : c ∈ cs) :
    c = ':' ∨ isHexDigit c = true := by
  have hjoined : ∀ {gs : List (List Char)}, (∀ g ∈ gs, isGroup g = true) → c ∈ joined gs →
      c = ':' ∨ isHexDigit c = true := by
    intro gs hgs hc
    obtain hcolon | ⟨g, hg, hmem⟩ := mem_of_mem_joined hc
    · exact .inl hcolon
    · exact .inr ((isGroup_iff.mp (hgs g hg)).2.2 c hmem)
  rcases h with ⟨gs, -, hall, rfl⟩ | ⟨before, after, -, hall, rfl⟩
  · exact hjoined hall hc
  · rcases List.mem_append.mp hc with hc | hc
    · rcases List.mem_append.mp hc with hc | hc
      · exact hjoined (fun g hg => hall g (List.mem_append_left after hg)) hc
      · exact .inl (by simpa using hc)
    · exact hjoined (fun g hg => hall g (List.mem_append_right before hg)) hc

theorem not_later_of_no_point (hpoint : '.' ∉ cs) : isLaterVersion cs = false := by
  simp only [isLaterVersion]
  split
  · next heq =>
    have hmem : '.' ∈ cs.dropWhile isHexDigit := heq ▸ List.mem_cons_self
    exact absurd ((List.dropWhile_suffix isHexDigit).mem hmem) hpoint
  · rfl

/-- Without a point and a zone, the literal hosts are the full addresses and those with a part left
out. -/
theorem literal_host_iff (hpoint : '.' ∉ cs) (hzone : '%' ∉ cs) :
    isHostLiteral cs = true ↔ IsFull cs ∨ IsShortened cs := by
  unfold isHostLiteral
  split
  · next r =>
    rw [not_later_of_no_point fun hmem => hpoint (List.mem_cons_of_mem _ hmem)]
    refine iff_of_false Bool.false_ne_true fun h => ?_
    rcases mem_address h List.mem_cons_self with hv | hv
    · exact absurd hv (by decide)
    · exact absurd hv (by decide)
  · rw [isZoned6, Text.pieces_eq_splitOn, List.splitOn_eq_singleton hzone]
    exact isVersion6_iff hpoint

end Accounts.Address
