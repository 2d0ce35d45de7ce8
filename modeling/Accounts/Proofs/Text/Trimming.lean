import Accounts.Text.Loose
import Mathlib.Data.List.DropRight

/-! # Trimming

Trimming is pinned down without saying how it is done: the text falls into blanks, the trimmed text
and blanks, and the trimmed text has no blank at either end. There is exactly one such text.
-/
namespace Accounts

namespace Text

variable {α : Type} {p : α → Bool} {xs ys front back : List α}

def IsBare (p : α → Bool) (xs : List α) : Prop :=
  (∀ x ∈ xs.head?, p x = false) ∧ ∀ x ∈ xs.getLast?, p x = false

/-- The second list is what is left of the first without the items at both ends that pass. -/
def Strips (p : α → Bool) (xs ys : List α) : Prop :=
  IsBare p ys ∧ ∃ front back, (∀ x ∈ front, p x = true) ∧ (∀ x ∈ back, p x = true) ∧
    xs = front ++ ys ++ back

theorem dropWhile_of_head (h : ∀ x ∈ xs.head?, p x = false) : xs.dropWhile p = xs := by
  cases xs with
  | nil => rfl
  | cons x r => rw [List.dropWhile_cons_of_neg (by rw [h x rfl]; decide)]

theorem stripWhere_of_bare (h : IsBare p xs) : stripWhere p xs = xs := by
  have hlast : ∀ x ∈ xs.reverse.head?, p x = false := by
    rw [List.head?_reverse]
    exact h.2
  rw [stripWhere, dropWhile_of_head h.1, dropWhile_of_head hlast, List.reverse_reverse]

theorem stripWhere_eq_self (h : ∀ x ∈ xs, p x = false) : stripWhere p xs = xs := by
  apply stripWhere_of_bare
  constructor
  · intro x hx
    exact h x (List.mem_of_mem_head? hx)
  · intro x hx
    exact h x (List.mem_of_mem_getLast? hx)

theorem dropWhile_append_back (xs : List α) (hback : ∀ x ∈ back, p x = true) :
    (xs ++ back).dropWhile p = xs.dropWhile p ++ back ∨
      (xs ++ back).dropWhile p = [] ∧ xs.dropWhile p = [] := by
  rw [List.dropWhile_append]
  split
  · next hall =>
    right
    exact ⟨List.dropWhile_eq_nil_iff.mpr hback, List.isEmpty_iff.mp hall⟩
  · exact .inl rfl

theorem stripWhere_padded (hfront : ∀ x ∈ front, p x = true) (hback : ∀ x ∈ back, p x = true) :
    stripWhere p (front ++ xs ++ back) = stripWhere p xs := by
  have hrev : ∀ x ∈ back.reverse, p x = true := by
    intro x hx
    exact hback x (List.mem_reverse.mp hx)
  rw [stripWhere, stripWhere, List.append_assoc, List.dropWhile_append_of_pos hfront]
  rcases dropWhile_append_back xs hback with h | ⟨h, hxs⟩
  · rw [h, List.reverse_append, List.dropWhile_append_of_pos hrev]
  · rw [h, hxs]

theorem stripWhere_bare (p : α → Bool) (xs : List α) : IsBare p (stripWhere p xs) := by
  have hdrop : ∀ ys : List α, ∀ y ∈ (ys.dropWhile p).head?, p y = false := by
    intro ys y hy
    have hnot := List.head?_dropWhile_not p ys
    rw [hy] at hnot
    exact hnot
  constructor
  · intro x hx
    -- The end is taken off last, and that leaves the head as it was.
    obtain ⟨back, hback⟩ : stripWhere p xs <+: xs.dropWhile p := List.rdropWhile_prefix p _
    apply hdrop xs x
    rw [← hback, List.head?_append, hx]
    rfl
  · rw [stripWhere, List.getLast?_reverse]
    exact hdrop _

theorem stripWhere_stripWhere (p : α → Bool) (xs : List α) :
    stripWhere p (stripWhere p xs) = stripWhere p xs :=
  stripWhere_of_bare (stripWhere_bare p xs)

theorem strips_stripWhere (p : α → Bool) (xs : List α) : Strips p xs (stripWhere p xs) := by
  refine ⟨stripWhere_bare p xs, xs.takeWhile p, (xs.dropWhile p).rtakeWhile p,
    fun x hx => List.mem_takeWhile_imp hx, fun x hx => List.mem_rtakeWhile_imp hx, ?_⟩
  have hback : stripWhere p xs ++ (xs.dropWhile p).rtakeWhile p = xs.dropWhile p :=
    List.rdropWhile_append_rtakeWhile
  rw [List.append_assoc, hback, List.takeWhile_append_dropWhile]

theorem stripWhere_eq_iff : stripWhere p xs = ys ↔ Strips p xs ys := by
  constructor
  · rintro rfl
    exact strips_stripWhere p xs
  · rintro ⟨bare, front, back, hfront, hback, rfl⟩
    rw [stripWhere_padded hfront hback, stripWhere_of_bare bare]

end Text

namespace LooseText

variable {t u : LooseText}

def IsBare (t : LooseText) : Prop := Text.IsBare Point.isBlank t.points

/-- The second text is the first one without the blanks at both ends. -/
def TrimsTo (t u : LooseText) : Prop := Text.Strips Point.isBlank t.points u.points

def padded (t : LooseText) (front back : List Point) : LooseText :=
  ⟨front ++ t.points ++ back⟩

theorem trim_eq_iff : t.trim = u ↔ t.TrimsTo u := by
  rw [TrimsTo, ← Text.stripWhere_eq_iff]
  constructor
  · rintro rfl
    rfl
  · exact congrArg LooseText.mk

theorem trim_bare (t : LooseText) : t.trim.IsBare := Text.stripWhere_bare _ _

theorem trim_trim (t : LooseText) : t.trim.trim = t.trim :=
  congrArg LooseText.mk (Text.stripWhere_stripWhere _ _)

theorem trim_of_unblank {cs : List Char} (h : ∀ c ∈ cs, Text.isBlank c = false) :
    (ofString (String.ofList cs)).trim = ofString (String.ofList cs) := by
  rw [trim_ofString, Text.trim, String.toList_ofList, Text.stripWhere_eq_self h]

theorem trim_padded {front back : List Point} (hfront : ∀ x ∈ front, x.isBlank = true)
    (hback : ∀ x ∈ back, x.isBlank = true) (t : LooseText) :
    (t.padded front back).trim = t.trim :=
  congrArg LooseText.mk (Text.stripWhere_padded hfront hback)

end LooseText

end Accounts
