import Accounts.Proofs.User.Contract
import Accounts.Proofs.User.Rows
import Mathlib.Data.List.Forall2

/-! # The table as a map

As long as no statement fails and no id is drawn twice, the table is a map from ids to rows with a
unique index by email: it has one row for every creation that succeeded, and a creation is refused
exactly if its email is in use, letter by letter.
-/
namespace Accounts.Users

/-- An operation, the instant at which it is carried out by the clock of the service and by the
system's, and the id that is drawn if it adds a row. -/
structure Transaction where
  now : Instant
  system : Instant
  fresh : String
  operation : Operation
  deriving DecidableEq, Repr

namespace Transaction

def perform (x : Transaction) (us : Users) : Outcome Users Reply :=
  x.operation.perform .none x.now x.system x.fresh us

/-- The id that is drawn. Creations draw one even if they are refused. -/
def drawn? (x : Transaction) : Option String :=
  match x.operation with
  | .create _ => some x.fresh
  | _ => none

def created? (x : Transaction) (us : Users) : Option User :=
  match (x.perform us).answer with
  | .ok (.created u) => some u
  | _ => none

end Transaction

/-- All ids drawn, in order. -/
def drawn (xs : List Transaction) : List String :=
  xs.filterMap Transaction.drawn?

def after (us : Users) (xs : List Transaction) : Users :=
  xs.foldl (fun us x => (x.perform us).state) us

/-- The rows of all creations that succeed, as they were returned. -/
def created (us : Users) : List Transaction → List User
  | [] => []
  | x :: xs => (x.created? us).toList ++ created (x.perform us).state xs

variable {us : Users} {u v : User} {x : Transaction} {now system : Instant} {fresh email id : String}

/-- What a transaction can do: it changes rows without touching what they were added with, or it
adds a row with the drawn id. -/
inductive Effect (us : Users) (x : Transaction) : Prop where
  | kept (change : User → User) : KeepsIdentity change → (x.perform us).state = us.map change →
      x.created? us = none → Effect us x
  | added (u : User) : (x.perform us).state = us ++ [u] → x.created? us = some u →
      x.drawn? = some u.id → us.isTaken u = false → Effect us x

theorem keepsIdentity_self : KeepsIdentity fun u => u :=
  ⟨fun _ => rfl, fun _ => rfl, fun _ => rfl, fun _ => rfl, fun _ => rfl⟩

theorem effect_of_same (hstate : (x.perform us).state = us) (hnone : x.created? us = none) :
    Effect us x :=
  .kept (fun u => u) keepsIdentity_self (hstate.trans us.map_id.symm) hnone

theorem id_of_rowFor? {d : Draft} (h : rowFor? fresh system d = some u) : u.id = fresh := by
  simp only [rowFor?, Option.bind_eq_bind, Option.bind_eq_some_iff, Option.pure_def,
    Option.some.injEq] at h
  obtain ⟨_, -, _, -, _, -, _, -, rfl⟩ := h
  rfl

theorem effect_of_update {t : Instant} {columns : List String} {change : Option (User → User)}
    {id : Option String} (hc : ∀ f, change = some f →
      KeepsIdentity fun u => { f u with updatedAt := t })
    (h : x.perform us = (update .none t columns change id us).map .updated) :
    Effect us x := by
  have hnone : x.created? us = none := by
    rw [Transaction.created?, h]
    cases hanswer : (update .none t columns change id us).answer <;>
      simp [Outcome.map, hanswer, Except.map]
  cases hfound : id.bind fun i => us.withId? i with
  | none =>
    refine effect_of_same ?_ hnone
    rw [h, update, hfound]
    rfl
  | some u =>
    cases change with
    | none =>
      refine effect_of_same ?_ hnone
      rw [h, update, hfound]
      rfl
    | some f =>
      refine .kept _ ((hc f rfl).onlyWhere (·.id = u.id)) ?_ hnone
      rw [h, update, hfound]
      rfl

theorem effect_of_create {d : Draft} (hx : x.operation = .create d) : Effect us x := by
  have hperform : x.perform us = (create .none x.system x.fresh d us).map .created := by
    rw [Transaction.perform, hx, Operation.perform]
  cases hrow : rowFor? x.fresh x.system d with
  | none =>
    have hcreate : create .none x.system x.fresh d us = .fault us .emailTaken [] := by
      simp [create, hrow, Outages.none]
    rw [hcreate] at hperform
    exact effect_of_same (by rw [hperform]; rfl) (by rw [Transaction.created?, hperform]; rfl)
  | some u =>
    by_cases htaken : us.isTaken u = true
    · have hcreate : create .none x.system x.fresh d us = .fault us .emailTaken [] := by
        simp [create, hrow, htaken, Outages.none]
      rw [hcreate] at hperform
      exact effect_of_same (by rw [hperform]; rfl) (by rw [Transaction.created?, hperform]; rfl)
    · have hcreate : create .none x.system x.fresh d us = .ok (us ++ [u]) u := by
        simp [create, hrow, htaken, Outages.none]
      rw [hcreate] at hperform
      refine .added u ?_ ?_ ?_ (by simpa using htaken)
      · rw [hperform]
        rfl
      · rw [Transaction.created?, hperform]
        rfl
      · rw [Transaction.drawn?, hx, id_of_rowFor? hrow]

theorem effect (us : Users) (x : Transaction) : Effect us x := by
  obtain ⟨now, system, fresh, op⟩ := x
  cases op with
  | create d => exact effect_of_create rfl
  | findByEmail email => exact effect_of_same rfl rfl
  | findById id => exact effect_of_same rfl rfl
  | updatePassword id hash =>
    refine effect_of_update ?_ rfl
    intro f hf
    cases hash with
    | none => cases hf
    | some hash =>
      cases hf
      exact ⟨fun _ => rfl, fun _ => rfl, fun _ => rfl, fun _ => rfl, fun _ => rfl⟩
  | updateLastLogin id at? =>
    refine effect_of_update ?_ rfl
    intro f hf
    cases hf
    exact ⟨fun _ => rfl, fun _ => rfl, fun _ => rfl, fun _ => rfl, fun _ => rfl⟩

/-- The table is keyed, and has no id but those drawn. -/
structure IsIndexed (ids : List String) (us : Users) : Prop where
  keyed : us.Keyed
  ids : ∀ u ∈ us, u.id ∈ ids

theorem isIndexed_nil : IsIndexed [] [] := ⟨keyed_nil, by simp⟩

theorem IsIndexed.step {ids : List String} (h : IsIndexed ids us) (x : Transaction) :
    IsIndexed (ids ++ x.drawn?.toList) (x.perform us).state := by
  cases effect us x with
  | kept change hc hstate =>
    rw [hstate]
    refine ⟨h.keyed.map hc, ?_⟩
    intro v hv
    obtain ⟨u, hu, rfl⟩ := List.mem_map.mp hv
    rw [hc.id]
    exact List.mem_append_left _ (h.ids u hu)
  | added u hstate hcreated hdrawn hfree =>
    rw [hstate, hdrawn]
    refine ⟨h.keyed.append hfree, ?_⟩
    intro v hv
    rcases List.mem_append.mp hv with hv | hv
    · exact List.mem_append_left _ (h.ids v hv)
    · rw [List.mem_singleton.mp hv]
      exact List.mem_append_right _ (.head _)

theorem IsIndexed.run {ids : List String} (h : IsIndexed ids us) (xs : List Transaction) :
    IsIndexed (ids ++ drawn xs) (after us xs) := by
  induction xs generalizing ids us with
  | nil => simpa [drawn, after] using h
  | cons x xs ih =>
    have hcons : drawn (x :: xs) = x.drawn?.toList ++ drawn xs := by
      simp only [drawn, List.filterMap_cons]
      cases x.drawn? <;> rfl
    rw [hcons, ← List.append_assoc]
    exact ih (h.step x)

theorem SameIdentity.change {change : User → User} (h : SameIdentity u v)
    (hc : KeepsIdentity change) : SameIdentity u (change v) :=
  ⟨(hc.id v).trans h.id, (hc.email v).trans h.email, (hc.firstName v).trans h.firstName,
    (hc.lastName v).trans h.lastName, (hc.createdAt v).trans h.createdAt⟩

theorem rows_of_run {rows : List User} (h : List.Forall₂ SameIdentity rows us)
    (xs : List Transaction) :
    List.Forall₂ SameIdentity (rows ++ created us xs) (after us xs) := by
  induction xs generalizing rows us with
  | nil => simpa [created, after] using h
  | cons x xs ih =>
    rw [created, ← List.append_assoc]
    apply ih
    cases effect us x with
    | kept change hc hstate hnone =>
      rw [hstate, hnone, Option.toList_none, List.append_nil]
      exact List.forall₂_map_right_iff.mpr (h.imp fun _ _ same => same.change hc)
    | added u hstate hcreated hdrawn hfree =>
      rw [hstate, hcreated, Option.toList_some]
      exact List.rel_append h (.cons (.refl u) .nil)

theorem withEmail?_eq_none_iff : us.withEmail? email = none ↔ ∀ u ∈ us, u.email ≠ email := by
  simp [withEmail?, List.find?_eq_none]

theorem withId?_eq_none_iff : us.withId? id = none ↔ ∀ u ∈ us, u.id ≠ id := by
  simp [withId?, List.find?_eq_none]

theorem create_eq (hnew : ∀ u ∈ us, u.id ≠ fresh) (system : Instant)
    (email hash first last : String) :
    create .none system fresh ⟨some email, some hash, some first, some last⟩ us =
      if ∃ u ∈ us, u.email = email then .fault us .emailTaken []
      else .ok (us ++ [⟨fresh, email, hash, first, last, true, system, system, none⟩])
        ⟨fresh, email, hash, first, last, true, system, system, none⟩ := by
  have hid : us.withId? fresh = none := withId?_eq_none_iff.mpr hnew
  have htaken : us.isTaken ⟨fresh, email, hash, first, last, true, system, system, none⟩ = true ↔
      ∃ u ∈ us, u.email = email := by
    simp [isTaken, hid, withEmail?]
  have hrow : rowFor? fresh system ⟨some email, some hash, some first, some last⟩ =
      some ⟨fresh, email, hash, first, last, true, system, system, none⟩ := rfl
  by_cases hused : ∃ u ∈ us, u.email = email
  · rw [if_pos hused]
    simp [create, hrow, htaken.mpr hused, Outages.none]
  · have hfree : ¬ us.isTaken ⟨fresh, email, hash, first, last, true, system, system, none⟩ = true :=
      fun h => hused (htaken.mp h)
    rw [if_neg hused]
    simp [create, hrow, hfree, Outages.none]

theorem update_eq (t : Instant) (columns : List String) (f : User → User) (id : String)
    (us : Users) :
    update .none t columns (some f) (some id) us =
      if ∃ u ∈ us, u.id = id then .ok (us.modify id fun u => { f u with updatedAt := t }) true
      else .ok us false := by
  cases hfound : us.withId? id with
  | none =>
    have hnone : ¬ ∃ u ∈ us, u.id = id := by
      rintro ⟨u, hu, heq⟩
      exact withId?_eq_none_iff.mp hfound u hu heq
    rw [if_neg hnone]
    simp [update, hfound, Outages.none]
  | some u =>
    obtain ⟨hu, rfl⟩ := mem_of_withId? hfound
    rw [if_pos ⟨u, hu, rfl⟩]
    simp [update, hfound, Outages.none]

/-- The table works as a map from ids to rows with a unique index by email. The given ids are those
that were drawn before. -/
structure WorksAsMap (ids : List String) (us : Users) : Prop where
  keyed : us.Keyed
  create : ∀ system fresh email hash first last, fresh ∉ ids →
    us.create .none system fresh ⟨some email, some hash, some first, some last⟩ =
      if ∃ u ∈ us, u.email = email then .fault us .emailTaken []
      else .ok (us ++ [⟨fresh, email, hash, first, last, true, system, system, none⟩])
        ⟨fresh, email, hash, first, last, true, system, system, none⟩
  find : ∀ u ∈ us, us.findByEmail .none (some u.email) = .ok us (some u) ∧
    us.findById .none (some u.id) = .ok us (some u)
  findByEmail_none : ∀ email, us.findByEmail .none (some email) = .ok us none ↔
    ∀ u ∈ us, u.email ≠ email
  findById_none : ∀ id, us.findById .none (some id) = .ok us none ↔ ∀ u ∈ us, u.id ≠ id
  updatePassword : ∀ now id hash, us.updatePassword .none now (some id) (some hash) =
    if ∃ u ∈ us, u.id = id then
      .ok (us.modify id fun u => { u with passwordHash := hash, updatedAt := now }) true
    else .ok us false
  updateLastLogin : ∀ now system id at?, us.updateLastLogin .none now system (some id) at? =
    if ∃ u ∈ us, u.id = id then
      .ok (us.modify id fun u =>
        { u with lastLoginAt := some (at?.getD now), updatedAt := system }) true
    else .ok us false

theorem IsIndexed.worksAsMap {ids : List String} (h : IsIndexed ids us) : us.WorksAsMap ids where
  keyed := h.keyed
  create system fresh email hash first last hfresh := by
    apply create_eq
    rintro u hu rfl
    exact hfresh (h.ids u hu)
  find u hu := by
    constructor
    · rw [findByEmail, Option.bind_some, h.keyed.withEmail? hu]
      rfl
    · rw [findById, Option.bind_some, h.keyed.withId? hu]
      rfl
  findByEmail_none email := by
    simp [findByEmail, Outages.none, Outcome.ok, withEmail?_eq_none_iff]
  findById_none id := by
    simp [findById, Outages.none, Outcome.ok, withId?_eq_none_iff]
  updatePassword now id hash := update_eq now _ _ id us
  updateLastLogin now system id at? := update_eq system _ _ id us

/-- After any transactions without faults, the table has one row for each creation that succeeded,
in their order and with the identity it was returned with, and it works as a map with a unique index
by email. A creation that was refused has left no trace. A change of a password is dated by the
clock of the service, and a login by the system's, so both are dated by the clock where the two show
the same time. The texts of the arguments are those that have UTF-8 bytes; the table is not asked
for any other here. -/
theorem table_works_as_map (xs : List Transaction) :
    List.Forall₂ SameIdentity (created [] xs) (after [] xs) ∧
      (after [] xs).WorksAsMap (drawn xs) := by
  have hrun : IsIndexed (drawn xs) (after [] xs) := isIndexed_nil.run xs
  exact ⟨rows_of_run .nil xs, hrun.worksAsMap⟩

/-- Ann and Bob are added, and a second Ann is refused although her id is new. -/
example :
    let draft := fun email => (⟨some email, some "hash", some "First", some "Last"⟩ : Draft)
    let xs := [⟨0, 0, "1", .create (draft "ann")⟩, ⟨1, 1, "2", .create (draft "ann")⟩,
      ⟨2, 2, "3", .create (draft "bob")⟩, ⟨3, 9, "", .updatePassword (some "3") (some "other")⟩]
    (after [] xs).map (fun u => (u.id, u.email, u.passwordHash, u.updatedAt)) =
      [("1", "ann", "hash", 0), ("3", "bob", "other", 3)] := by
  decide

end Accounts.Users
