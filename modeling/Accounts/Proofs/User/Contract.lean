import Accounts.Proofs.Session.Serving
import Accounts.User.Table

/-! # Failures of the user table

An operation that fails is to leave every row as it was, and to fail in a way the service answers
for. All operations keep to this whatever statements fail, with one exception: a row that was added
is read back outside of what is answered for.
-/
namespace Accounts.Users

inductive Operation where
  | create (d : Draft)
  | findByEmail (email : Option String)
  | findById (id : Option String)
  | updatePassword (id hash : Option String)
  | updateLastLogin (id : Option String) (at? : Option Instant)
  deriving DecidableEq, Repr

inductive Reply where
  | created (u : User)
  | found (u : Option User)
  | updated (any : Bool)
  deriving DecidableEq, Repr

section Outcomes

variable (outages : Outages) (now system : Instant) (fresh : String) (us : Users)

/-- An operation on the table, by the clock of the service and the system's. A row that it adds gets
the fresh id. -/
def Operation.perform : Operation → Outcome Users Reply
  | .create d => (Users.create outages system fresh d us).map .created
  | .findByEmail email => (Users.findByEmail outages email us).map .found
  | .findById id => (Users.findById outages id us).map .found
  | .updatePassword id hash => (Users.updatePassword outages now id hash us).map .updated
  | .updateLastLogin id at? => (Users.updateLastLogin outages now system id at? us).map .updated

/-- A row is added for a draft and cannot be read back. -/
structure AddsUnread (d : Draft) (u : User) : Prop where
  inserts : outages.insert = false
  unread : outages.select = true
  row : rowFor? fresh system d = some u
  free : us.isTaken u = false

end Outcomes

/-- The failures that the table answers for. -/
def IsAnswered (e : Failure) : Prop :=
  e = .fault .emailTaken ∨ ∃ action, e = .fault (.users action)

/-- If the outcome is a failure then it is answered for, and no row has changed. -/
def FailsCleanly {α : Type} (us : Users) (o : Outcome Users α) : Prop :=
  ∀ e, o.answer = .error e → o.state = us ∧ IsAnswered e

variable {outages : Outages} {now system : Instant} {fresh : String} {us : Users} {d : Draft}
  {u : User}

theorem failsCleanly_ok {α : Type} (us us' : Users) (a : α) :
    FailsCleanly us (.ok us' a) := by
  intro e he
  cases he

theorem failsCleanly_fault {α : Type} (us : Users) {f : Fault} (notes : List Note)
    (hf : IsAnswered (.fault f)) : FailsCleanly us (.fault us f notes : Outcome Users α) := by
  intro e he
  cases he
  exact ⟨rfl, hf⟩

theorem FailsCleanly.map {α β : Type} {o : Outcome Users α} (h : FailsCleanly us o) (f : α → β) :
    FailsCleanly us (o.map f) := by
  intro e he
  obtain ⟨state, r | a, notes⟩ := o
  · cases he
    exact h e rfl
  · cases he

theorem answered_statement (action : TableAction) : IsAnswered (.fault (.users action)) :=
  .inr ⟨action, rfl⟩

theorem answered_taken : IsAnswered (.fault .emailTaken) := .inl rfl

theorem create_of_addsUnread (h : AddsUnread outages system fresh us d u) :
    create outages system fresh d us = .broken (us ++ [u]) .database := by
  simp [create, h.inserts, h.row, h.free, h.unread]

theorem create_failsCleanly (h : ∀ u, ¬ AddsUnread outages system fresh us d u) :
    FailsCleanly us (create outages system fresh d us) := by
  unfold create
  split
  · exact failsCleanly_fault us _ (answered_statement .create)
  · next hinsert =>
    split
    · exact failsCleanly_fault us _ answered_taken
    · next u hrow =>
      split
      · exact failsCleanly_fault us _ answered_taken
      · next hfree =>
        split
        · next hselect =>
          exact (h u ⟨by simpa using hinsert, hselect, hrow, by simpa using hfree⟩).elim
        · exact failsCleanly_ok us _ u

theorem findByEmail_failsCleanly (outages : Outages) (email : Option String) (us : Users) :
    FailsCleanly us (findByEmail outages email us) := by
  unfold findByEmail
  split
  · exact failsCleanly_fault us _ (answered_statement .lookUp)
  · exact failsCleanly_ok us us _

theorem findById_failsCleanly (outages : Outages) (id : Option String) (us : Users) :
    FailsCleanly us (findById outages id us) := by
  unfold findById
  split
  · exact failsCleanly_fault us _ (answered_statement .lookUp)
  · exact failsCleanly_ok us us _

theorem update_failsCleanly (outages : Outages) (t : Instant) (columns : List String)
    (change : Option (User → User)) (id : Option String) (us : Users) :
    FailsCleanly us (update outages t columns change id us) := by
  unfold update
  split
  · exact failsCleanly_fault us _ (answered_statement .update)
  · split
    · exact failsCleanly_ok us us false
    · split
      · exact failsCleanly_fault us _ (answered_statement .update)
      · exact failsCleanly_ok us _ true

/-- An operation fails cleanly unless it adds a row that cannot be read back. Then what reading it
raises escapes, and the row stays. The texts of the arguments are those that have UTF-8 bytes; the
table is not asked for any other here. -/
theorem failsCleanly_iff (outages : Outages) (now system : Instant) (fresh : String) (us : Users)
    (op : Operation) :
    (FailsCleanly us (op.perform outages now system fresh us) ↔
      ¬ ∃ d u, op = .create d ∧ AddsUnread outages system fresh us d u) ∧
    ∀ d u, op = .create d ∧ AddsUnread outages system fresh us d u →
      op.perform outages now system fresh us = .broken (us ++ [u]) .database := by
  have hbroken : ∀ d u, op = .create d ∧ AddsUnread outages system fresh us d u →
      op.perform outages now system fresh us = .broken (us ++ [u]) .database := by
    rintro d u ⟨rfl, hu⟩
    rw [Operation.perform, create_of_addsUnread hu]
    rfl
  refine ⟨⟨?_, fun hread => ?_⟩, hbroken⟩
  · rintro hclean ⟨d, u, hu⟩
    rw [hbroken d u hu] at hclean
    rcases (hclean _ rfl).2 with he | ⟨action, he⟩
    · cases he
    · cases he
  · cases op with
    | create d =>
      refine (create_failsCleanly fun u hu => ?_).map _
      exact hread ⟨d, u, rfl, hu⟩
    | findByEmail email => exact (findByEmail_failsCleanly outages email us).map _
    | findById id => exact (findById_failsCleanly outages id us).map _
    | updatePassword id hash => exact (update_failsCleanly outages _ _ _ id us).map _
    | updateLastLogin id at? => exact (update_failsCleanly outages _ _ _ id us).map _

/-- While rows can be inserted but not selected, a user is created and the call fails, in a way that
is not answered for. -/
theorem creation_not_clean :
    let op : Operation :=
      .create ⟨some "a@example.com", some "hash", some "Ann", some "Lee"⟩
    let o := op.perform ⟨true, false, false⟩ 0 0 "7a7ebcb8-70b9-4213-890d-6650a18dee85" []
    ¬ FailsCleanly [] o ∧ o.state.length = 1 := by
  refine ⟨fun hclean => ?_, rfl⟩
  have hempty := (hclean (.broken .database) rfl).1
  cases hempty

end Accounts.Users
