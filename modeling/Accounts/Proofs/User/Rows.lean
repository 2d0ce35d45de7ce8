import Accounts.User.Table

/-! # Rows

A table is keyed when no two rows share an id and no two share an email. Every statement keeps it
so: updates leave ids and emails alone, and a row that is added has neither in use.
-/
namespace Accounts.Users

variable {us : Users} {u v : User}

theorem mem_of_withEmail? {email : String} (h : us.withEmail? email = some u) :
    u ∈ us ∧ u.email = email := by
  refine ⟨List.mem_of_find?_eq_some h, ?_⟩
  simpa using List.find?_some h

theorem mem_of_withId? {id : String} (h : us.withId? id = some u) : u ∈ us ∧ u.id = id := by
  refine ⟨List.mem_of_find?_eq_some h, ?_⟩
  simpa using List.find?_some h

/-- Ids and emails are unique. -/
structure Keyed (us : Users) : Prop where
  ids : us.Pairwise fun u v => u.id ≠ v.id
  emails : us.Pairwise fun u v => u.email ≠ v.email

theorem keyed_nil : Keyed [] := ⟨.nil, .nil⟩

theorem eq_of_pairwise {α : Type} {R : α → α → Prop} {l : List α} {a b : α} (h : l.Pairwise R)
    (ha : a ∈ l) (hb : b ∈ l) (hab : ¬ R a b) (hba : ¬ R b a) : a = b := by
  induction h with
  | nil => cases ha
  | cons hx _ ih =>
    rcases List.mem_cons.mp ha with rfl | ma
    · rcases List.mem_cons.mp hb with rfl | mb
      · rfl
      · exact (hab (hx b mb)).elim
    · rcases List.mem_cons.mp hb with rfl | mb
      · exact (hba (hx a ma)).elim
      · exact ih ma mb

theorem Keyed.eq_of_id (h : Keyed us) (hu : u ∈ us) (hv : v ∈ us) (he : u.id = v.id) : u = v :=
  eq_of_pairwise h.ids hu hv (· he) (· he.symm)

theorem Keyed.eq_of_email (h : Keyed us) (hu : u ∈ us) (hv : v ∈ us) (he : u.email = v.email) :
    u = v :=
  eq_of_pairwise h.emails hu hv (· he) (· he.symm)

theorem Keyed.withId? (h : Keyed us) (hu : u ∈ us) : us.withId? u.id = some u := by
  cases hf : us.withId? u.id with
  | none =>
    have := List.find?_eq_none.mp hf u hu
    simp at this
  | some v =>
    obtain ⟨hv, he⟩ := mem_of_withId? hf
    rw [h.eq_of_id hv hu he]

theorem Keyed.withEmail? (h : Keyed us) (hu : u ∈ us) : us.withEmail? u.email = some u := by
  cases hf : us.withEmail? u.email with
  | none =>
    have := List.find?_eq_none.mp hf u hu
    simp at this
  | some v =>
    obtain ⟨hv, he⟩ := mem_of_withEmail? hf
    rw [h.eq_of_email hv hu he]

/-- A change of rows that leaves alone whatever was settled when they were added. -/
structure KeepsIdentity (change : User → User) : Prop where
  id : ∀ u, (change u).id = u.id
  email : ∀ u, (change u).email = u.email
  firstName : ∀ u, (change u).firstName = u.firstName
  lastName : ∀ u, (change u).lastName = u.lastName
  createdAt : ∀ u, (change u).createdAt = u.createdAt

theorem Keyed.map (h : Keyed us) {change : User → User} (hc : KeepsIdentity change) :
    Keyed (us.map change) := by
  constructor
  · exact List.pairwise_map.mpr (h.ids.imp fun hne => by rwa [hc.id, hc.id])
  · exact List.pairwise_map.mpr (h.emails.imp fun hne => by rwa [hc.email, hc.email])

def onlyWhere (p : User → Prop) [DecidablePred p] (change : User → User) (u : User) : User :=
  if p u then change u else u

theorem KeepsIdentity.onlyWhere {change : User → User} (hc : KeepsIdentity change)
    (p : User → Prop) [DecidablePred p] : KeepsIdentity (onlyWhere p change) := by
  constructor <;> intro u <;> unfold Users.onlyWhere <;> split
  · exact hc.id u
  · rfl
  · exact hc.email u
  · rfl
  · exact hc.firstName u
  · rfl
  · exact hc.lastName u
  · rfl
  · exact hc.createdAt u
  · rfl

theorem not_taken (h : us.isTaken u = false) : ∀ v ∈ us, v.email ≠ u.email ∧ v.id ≠ u.id := by
  intro v hv
  simp only [isTaken, Bool.or_eq_false_iff, Option.isSome_eq_false_iff, Option.isNone_iff_eq_none]
    at h
  have he := List.find?_eq_none.mp h.1 v hv
  have hi := List.find?_eq_none.mp h.2 v hv
  exact ⟨by simpa using he, by simpa using hi⟩

theorem Keyed.append (h : Keyed us) (hu : us.isTaken u = false) : Keyed (us ++ [u]) := by
  have hn := not_taken hu
  constructor
  · refine List.pairwise_append.mpr ⟨h.ids, List.pairwise_singleton _ _, ?_⟩
    intro v hv x hx
    rw [List.mem_singleton.mp hx]
    exact (hn v hv).2
  · refine List.pairwise_append.mpr ⟨h.emails, List.pairwise_singleton _ _, ?_⟩
    intro v hv x hx
    rw [List.mem_singleton.mp hx]
    exact (hn v hv).1

/-- What one step can do to a table: no row disappears or changes what it was added with. -/
inductive Evolves (ts : Users) : Users → Prop where
  | same : Evolves ts ts
  | changed (change : User → User) : KeepsIdentity change → Evolves ts (ts.map change)
  | added (x : User) : ts.isTaken x = false → Evolves ts (ts ++ [x])

theorem Keyed.evolves {us' : Users} (h : Keyed us) (he : Evolves us us') : Keyed us' := by
  cases he with
  | same => exact h
  | changed change hc => exact h.map hc
  | added u hu => exact h.append hu

/-- Two rows agree in everything that is settled when a row is added. -/
structure SameIdentity (u v : User) : Prop where
  id : v.id = u.id
  email : v.email = u.email
  firstName : v.firstName = u.firstName
  lastName : v.lastName = u.lastName
  createdAt : v.createdAt = u.createdAt

theorem SameIdentity.refl (u : User) : SameIdentity u u := ⟨rfl, rfl, rfl, rfl, rfl⟩

theorem row_survives {us' : Users} (he : Evolves us us') (hu : u ∈ us) :
    ∃ v ∈ us', SameIdentity u v := by
  cases he with
  | same => exact ⟨u, hu, .refl u⟩
  | changed change hc =>
    exact ⟨change u, List.mem_map_of_mem hu,
      ⟨hc.id u, hc.email u, hc.firstName u, hc.lastName u, hc.createdAt u⟩⟩
  | added v hv => exact ⟨u, List.mem_append_left _ hu, .refl u⟩

end Accounts.Users
