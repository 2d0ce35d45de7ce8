import Accounts.Proofs.Service.History

/-! # Stores

What one call does to an entry and to the rows. An entry appears only where it is put and is gone
once it was popped; a row is added only where its email and its id are free.
-/
namespace Accounts

open World

variable {s : Service} {w : World}

theorem find?_of_erase {key other : LooseText} {es : Session.Entries} {entry : Session.Entry}
    (h : (es.erase key).find? other = some entry) : es.find? other = some entry := by
  rw [Session.Entries.find?_erase] at h
  split at h
  · cases h
  · exact h

theorem find?_of_afterRead {now : Instant} {key other : LooseText} {es : Session.Entries}
    {entry : Session.Entry} (h : (es.afterRead now key).find? other = some entry) :
    es.find? other = some entry := by
  unfold Session.Entries.afterRead at h
  split at h
  · split at h
    · exact find?_of_erase h
    · exact h
  · exact h

theorem entry_of_answer {c : Call} {key : LooseText} {entry : Session.Entry}
    (h : (w.answer s c).1.sessions.find? key = some entry) :
    w.sessions.find? key = some entry ∨ ∃ value ttl, c = .putSession key value ttl := by
  cases c with
  | putSession other value ttl =>
    rw [answer_putSession] at h
    split at h
    · exact .inl h
    · split at h
      · exact .inl h
      · rw [Session.Entries.find?_insert] at h
        split at h
        · next heq => exact .inr ⟨value, ttl, by rw [heq]⟩
        · exact .inl h
  | popSession other =>
    rw [answer_popSession] at h
    split at h
    · exact .inl h
    · exact .inl (find?_of_erase h)
  | deleteSession other =>
    rw [answer_deleteSession] at h
    split at h
    · exact .inl h
    · exact .inl (find?_of_erase h)
  | getSession other =>
    simp only [answer, onSessions, Session.get] at h
    split at h
    · exact .inl h
    · exact .inl (find?_of_afterRead h)
  | issueToken =>
    rw [(w.quiet_answer s (c := .issueToken ..) trivial).sessions] at h
    exact .inl h
  | now | systemTime | drawSecret | drawSalt | recallDummy | keepDummy | checkPassword | createUser
  | findByEmail | findById | updatePassword | updateLastLogin | pingSessions | probeDatabase
  | note => exact .inl h

theorem entry_of_pop {key : LooseText} {id : String}
    (h : (w.answer s (.popSession key)).2 = .ok (some id)) :
    (∃ entry, w.sessions.find? key = some entry) ∧
      (w.answer s (.popSession key)).1.sessions.find? key = none := by
  rw [answer_popSession] at h ⊢
  split at h
  · cases h
  · next hout =>
    rw [if_neg hout]
    constructor
    · cases hentry : w.sessions.find? key with
      | some entry => exact ⟨entry, rfl⟩
      | none =>
        rw [Except.ok.injEq, Session.Entries.live?, hentry] at h
        cases h
    · rw [Session.Entries.find?_erase, if_pos rfl]

theorem update_evolves (o : Users.Outages) (now : Instant) (columns : List String)
    {change : Option (User → User)} (hc : ∀ f, change = some f →
      Users.KeepsIdentity fun u => { f u with updatedAt := now })
    (id : Option String) (us : Users) :
    us.Evolves (Users.update o now columns change id us).state := by
  unfold Users.update
  split
  · exact .same
  split
  · exact .same
  split
  · exact .same
  · next f => exact modify_evolves us _ (hc f rfl)

theorem answer_evolves (s : Service) (w : World) (c : Call) :
    w.users.Evolves (w.answer s c).1.users := by
  cases c with
  | createUser d =>
    simp only [answer, onUsers, Users.create]
    split
    · exact .same
    split
    · exact .same
    split
    · exact .same
    · next user _ htaken =>
      have hnew : w.users.isTaken user = false := by simpa using htaken
      split
      · exact .added user hnew
      · exact .added user hnew
  | updatePassword id hash =>
    refine update_evolves _ _ _ ?_ id w.users
    intro f hf
    cases hash with
    | none => cases hf
    | some hash =>
      cases hf
      exact keepsIdentity_of_credentials _ _ _ _
  | updateLastLogin id at? =>
    refine update_evolves _ _ _ ?_ id w.users
    intro f hf
    cases hf
    exact keepsIdentity_of_credentials _ _ _ _
  | issueToken => exact (w.quiet_answer s (c := .issueToken ..) trivial).evolves
  | findByEmail => exact (w.quiet_answer s (c := .findByEmail _) trivial).evolves
  | findById => exact (w.quiet_answer s (c := .findById _) trivial).evolves
  | putSession | getSession | popSession | deleteSession | now | systemTime | drawSecret | drawSalt
  | recallDummy | keepDummy | checkPassword | pingSessions | probeDatabase | note => exact .same

theorem answer_outages (s : Service) (w : World) (c : Call) :
    (w.answer s c).1.outages = w.outages := by
  cases c with
  | issueToken authority subject ttl type =>
    simp only [answer, issueToken]
    split <;> rfl
  | now | systemTime | drawSecret | drawSalt | recallDummy | keepDummy | checkPassword | createUser
  | findByEmail | findById | updatePassword | updateLastLogin | putSession | getSession | popSession
  | deleteSession | pingSessions | probeDatabase | note => rfl

theorem email_of_rowFor? {id : String} {system : Instant} {d : Draft} {u : User}
    (h : Users.rowFor? id system d = some u) : d.email = some u.email := by
  obtain ⟨email, hash, first, last⟩ := d
  cases email with
  | none => cases h
  | some email =>
  cases hash with
  | none => cases h
  | some hash =>
  cases first with
  | none => cases h
  | some first =>
  cases last with
  | none => cases h
  | some last =>
    cases h
    rfl

theorem answer_createUser_ok {d : Draft} {u : User}
    (h : (w.answer s (.createUser d)).2 = .ok u) :
    d.email = some u.email ∧ w.users.isTaken u = false ∧
      (w.answer s (.createUser d)).1.users = w.users ++ [u] := by
  simp only [answer, onUsers, Users.create] at h ⊢
  split at h
  · cases h
  · next hinsert =>
    split at h
    · cases h
    · next v hv =>
      split at h
      · cases h
      · next htaken =>
        split at h
        · cases h
        · next hselect =>
          cases h
          refine ⟨email_of_rowFor? hv, by simpa using htaken, ?_⟩
          rw [if_neg hinsert, if_neg htaken, if_neg hselect]
          rfl

theorem answer_createUser_error (ho : w.outages = .none) {d : Draft} {e : Failure}
    (h : (w.answer s (.createUser d)).2 = .error e) : e = .fault .emailTaken := by
  simp only [answer, onUsers, Users.create] at h
  rw [ho] at h
  split at h
  · next hinsert => cases hinsert
  · split at h
    · cases h
      rfl
    · split at h
      · cases h
        rfl
      · split at h
        · next hselect => cases hselect
        · cases h

end Accounts
