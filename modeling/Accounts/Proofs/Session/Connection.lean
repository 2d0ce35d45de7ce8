import Accounts.Session.Address

/-! # Options of a connection

What an address says stays as it says it, and what it leaves open is the standard.
-/
namespace Accounts.Session.Options

variable {os given : Options} {name other : String} {value : Setting} {address : String}

theorem get_cons (entry : String × Setting) : get? name (entry :: os) =
    if entry.1 = name then some entry.2 else os.get? name := by
  rw [get?, List.find?_cons]
  by_cases h : entry.1 = name
  · rw [if_pos h, beq_iff_eq.mpr h]
    rfl
  · rw [if_neg h, beq_false_of_ne h]
    rfl

theorem get_append (os more : Options) :
    get? name (os ++ more) = (os.get? name).or (get? name more) := by
  rw [get?, List.find?_append, Option.map_or]
  rfl

theorem any_eq_has (os : Options) : os.any (·.1 == name) = os.has name := by
  rw [has, get?, Option.isSome_map, List.isSome_find?]

theorem get_putNew (os : Options) : (os.putNew other value).get? name =
    (os.get? name).or (if other = name then some value else none) := by
  rw [putNew, any_eq_has, has]
  split
  · next h =>
    split
    · next heq =>
      subst heq
      rw [Option.or_of_isSome h]
    · exact Option.or_none.symm
  · rw [get_append, get_cons]
    rfl

/-- Options that are put in where they are missing give way to those that were there. -/
theorem get_foldl_putNew (more : Options) : get? name
    (more.foldl (fun os o => os.putNew o.1 o.2) os) = (os.get? name).or (more.get? name) := by
  induction more generalizing os with
  | nil => exact Option.or_none.symm
  | cons o more ih =>
    rw [List.foldl_cons, ih, get_putNew, get_cons, Option.or_assoc]
    congr 1
    split <;> rfl

theorem connection_options (h : Options.toConnect address = .ok os) :
    ∃ given, Options.ofAddress? address = some given ∧ given.fault? = none ∧
      ∀ name, os.get? name = (given.get? name).or (standard.get? name) := by
  unfold toConnect at h
  split at h
  · cases h
  · next given hgiven =>
    split at h
    · cases h
    · next hfault =>
      cases h
      exact ⟨given, hgiven, hfault, fun name => get_foldl_putNew standard⟩

end Accounts.Session.Options
