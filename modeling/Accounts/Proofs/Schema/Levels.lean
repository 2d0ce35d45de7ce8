import Accounts.Proofs.Json.Extent
import Accounts.Schema.Migration
import Mathlib.Data.Nat.Init

/-! # The layout of a migrated database

Whatever was tried on a database, and whether or not it was refused, the database has what the
revision that it remembers says.
-/
namespace Accounts.Schema

variable {d d' : Database} {r : Revision} {level source target : Nat} {direction : Direction}
  {name : String}

/-- What a new database has after the first revisions of the history. -/
def layoutAt (level : Nat) : Layout :=
  (history.take level).foldl (fun l r => r.up.foldl Change.apply l) Database.empty.layout

structure Database.FitsLevel (d : Database) : Prop where
  within : d.level ≤ top
  layout_eq : d.layout = layoutAt d.level

theorem layoutAt_succ (h : history[level]? = some r) :
    layoutAt (level + 1) = r.up.foldl Change.apply (layoutAt level) := by
  rw [layoutAt, List.take_add_one, h, Option.toList_some, List.foldl_append]
  rfl

theorem down_undoes_up (h : history[level]? = some r) :
    r.down.foldl Change.apply (layoutAt (level + 1)) = layoutAt level := by
  obtain ⟨hlt, rfl⟩ := List.getElem?_eq_some_iff.mp h
  revert level
  decide

theorem Database.FitsLevel.empty : Database.empty.FitsLevel :=
  ⟨by decide, rfl⟩

theorem Database.FitsLevel.up (hd : d.FitsLevel) (h : history[d.level]? = some r) :
    (Step.apply d (.up (d.level + 1) r)).FitsLevel where
  within := (List.getElem?_eq_some_iff.mp h).1
  layout_eq := by
    rw [Step.apply, layoutAt_succ h, hd.layout_eq]

theorem Database.FitsLevel.down (hd : d.FitsLevel) (hlevel : d.level = level + 1)
    (h : history[level]? = some r) : (Step.apply d (.down (level + 1) r)).FitsLevel where
  within := by
    have hwithin := hd.within
    rw [hlevel] at hwithin
    exact Nat.le_of_succ_le hwithin
  layout_eq := by
    rw [Step.apply, hd.layout_eq, hlevel]
    exact down_undoes_up h

theorem levelsBetween_succ (h : source ≤ target) :
    levelsBetween source (target + 1) = levelsBetween source target ++ [target + 1] := by
  rw [levelsBetween, Nat.succ_sub h, List.range_succ, List.map_append]
  simp only [levelsBetween, List.map_cons, List.map_nil]
  congr 2
  omega

theorem levelsBetween_of_le (h : target ≤ source) : levelsBetween source target = [] := by
  rw [levelsBetween, Nat.sub_eq_zero_of_le h]
  rfl

theorem stepsUp_succ (h : source ≤ target) : stepsUp source (target + 1) =
    stepsUp source target ++ (history[target]?.map (.up (target + 1))).toList := by
  rw [stepsUp, levelsBetween_succ h, List.filterMap_append]
  rfl

theorem stepsDown_succ (h : target ≤ source) : stepsDown (source + 1) target =
    (history[source]?.map (.down (source + 1))).toList ++ stepsDown source target := by
  rw [stepsDown, levelsBetween_succ h, List.reverse_append, List.filterMap_append]
  rfl

theorem fits_of_stepsUp (hd : d.FitsLevel) (h : d.level ≤ target) :
    ((stepsUp d.level target).foldl Step.apply d).FitsLevel ∧
      ((stepsUp d.level target).foldl Step.apply d).level = min target top := by
  induction target, h using Nat.le_induction with
  | base =>
    rw [stepsUp, levelsBetween_of_le (Nat.le_refl _)]
    exact ⟨hd, (Nat.min_eq_left hd.within).symm⟩
  | succ target h ih =>
    rw [stepsUp_succ h, List.foldl_append]
    generalize (stepsUp d.level target).foldl Step.apply d = e at ih ⊢
    obtain ⟨hfits, hlevel⟩ := ih
    cases hr : history[target]? with
    | none =>
      have hend : top ≤ target := List.getElem?_eq_none_iff.mp hr
      exact ⟨hfits, by rw [Nat.min_eq_right (by omega)]; rwa [Nat.min_eq_right hend] at hlevel⟩
    | some r =>
      have hlt : target < top := (List.getElem?_eq_some_iff.mp hr).1
      rw [Nat.min_eq_left (Nat.le_of_lt hlt)] at hlevel
      subst hlevel
      exact ⟨hfits.up hr, (Nat.min_eq_left hlt).symm⟩

theorem fits_of_stepsDown (hd : d.FitsLevel) (h : target ≤ d.level) :
    ((stepsDown d.level target).foldl Step.apply d).FitsLevel ∧
      ((stepsDown d.level target).foldl Step.apply d).level = target := by
  generalize hsource : d.level = source at h
  induction source, h using Nat.le_induction generalizing d with
  | base =>
    rw [stepsDown, levelsBetween_of_le (Nat.le_refl _)]
    exact ⟨hd, hsource⟩
  | succ source h ih =>
    have hlt : source < history.length := by
      have hwithin := hd.within
      rwa [hsource] at hwithin
    obtain ⟨r, hr⟩ : ∃ r, history[source]? = some r := ⟨_, List.getElem?_eq_getElem hlt⟩
    rw [stepsDown_succ h, hr]
    exact ih (hd.down hsource hr) rfl

theorem plan_cases {steps : List Step} (h : plan direction level name = .ok steps) :
    (∃ goal, steps = stepsUp level goal) ∨ ∃ goal ≤ level, steps = stepsDown level goal := by
  cases direction with
  | up =>
    obtain ⟨t, -, h⟩ := Json.ok_of_bind h
    obtain ⟨goal, -, h⟩ := Json.ok_of_bind h
    cases h
    exact .inl ⟨goal, rfl⟩
  | down =>
    obtain ⟨t, -, h⟩ := Json.ok_of_bind h
    obtain ⟨goal, -, h⟩ := Json.ok_of_bind h
    by_cases habove : level < goal
    · rw [if_pos habove] at h
      cases h
    · rw [if_neg habove] at h
      cases h
      exact .inr ⟨goal, Nat.le_of_not_lt habove, rfl⟩

theorem migrate_fits (hd : d.FitsLevel) (h : migrate direction name d = .ok d') :
    d'.FitsLevel := by
  unfold migrate at h
  split at h
  · cases h
  cases hplan : plan direction d.level name with
  | error refusal =>
    rw [hplan] at h
    cases h
  | ok steps =>
    rw [hplan] at h
    cases h
    obtain ⟨goal, rfl⟩ | ⟨goal, hgoal, rfl⟩ := plan_cases hplan
    · rcases Nat.le_total d.level goal with hle | hle
      · exact (fits_of_stepsUp hd hle).1
      · rw [stepsUp, levelsBetween_of_le hle]
        exact hd
    · exact (fits_of_stepsDown hd hgoal).1

/-- What is left of a database after a migration that may be refused. -/
def Database.attempt (d : Database) (a : Direction × String) : Database :=
  match migrate a.1 a.2 d with
  | .ok d' => d'
  | .error _ => d

theorem attempt_fits (hd : d.FitsLevel) (a : Direction × String) : (d.attempt a).FitsLevel := by
  unfold Database.attempt
  split
  · next h => exact migrate_fits hd h
  · exact hd

theorem attempts_fit (hd : d.FitsLevel) (attempts : List (Direction × String)) :
    (attempts.foldl Database.attempt d).FitsLevel := by
  induction attempts generalizing d with
  | nil => exact hd
  | cons a attempts ih => exact ih (attempt_fits hd a)

theorem Database.FitsLevel.eq (hd : d.FitsLevel) : d = ⟨layoutAt d.level, d.level⟩ := by
  rw [← hd.layout_eq]

theorem idOf_injective : ∀ a ≤ top, ∀ b ≤ top, idOf? a = idOf? b → a = b := by
  decide

/-- Two databases that remember the same revision are the same. -/
theorem eq_of_version (hd : d.FitsLevel) (hd' : d'.FitsLevel) (h : d.version = d'.version) :
    d = d' := by
  have hid : idOf? d.level = idOf? d'.level := by
    simpa [Database.version] using congrArg List.head? h
  have hlevel := idOf_injective _ hd.within _ hd'.within hid
  rw [hd.eq, hd'.eq, hlevel]

theorem migrate_head (hd : d.FitsLevel) :
    migrate .up "head" d = .ok ⟨layoutAt top, top⟩ := by
  have hplan : plan .up d.level "head" = .ok (stepsUp d.level top) := rfl
  obtain ⟨hfits, hlevel⟩ := fits_of_stepsUp hd hd.within
  rw [Nat.min_self] at hlevel
  rw [migrate, if_neg (by decide), hplan, Except.map, hfits.eq, hlevel]

theorem migrate_base (hd : d.FitsLevel) : migrate .down "base" d = .ok .empty := by
  have hplan : plan .down d.level "base" = .ok (stepsDown d.level 0) := rfl
  obtain ⟨hfits, hlevel⟩ := fits_of_stepsDown hd (Nat.zero_le _)
  rw [migrate, if_neg (by decide), hplan, Except.map, hfits.eq, hlevel]
  rfl

/-- Whatever was tried on a database, the newest revision and the base can be reached from it, and
there it has the same as a database on which nothing else was tried. -/
theorem ends_reached (attempts : List (Direction × String)) :
    let d := attempts.foldl Database.attempt .empty
    migrate .up "head" d = migrate .up "head" .empty ∧
      migrate .down "base" d = .ok .empty := by
  intro d
  have hd : d.FitsLevel := attempts_fit .empty attempts
  exact ⟨(migrate_head hd).trans (migrate_head .empty).symm, migrate_base hd⟩

end Accounts.Schema
