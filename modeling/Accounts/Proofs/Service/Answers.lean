import Accounts.Proofs.Service.Trace

/-! # Answers of the world

One equation for each command of the two stores: when it fails, what it answers and what it changes.
A step is quiet when a later operation cannot tell that it was taken: at most the log, the draws and
the hash kept for unknown emails are different. Every failure of a store is quiet.
-/
namespace Accounts

namespace World

variable {s : Service} {w v u : World}

/-- Clocks, rows, entries and outages are the same. -/
structure Quiet (w v : World) : Prop where
  now : v.now = w.now
  system : v.system = w.system
  users : v.users = w.users
  sessions : v.sessions = w.sessions
  outages : v.outages = w.outages

theorem Quiet.refl (w : World) : Quiet w w := ⟨rfl, rfl, rfl, rfl, rfl⟩

theorem Quiet.trans (h : Quiet w v) (k : Quiet v u) : Quiet w u :=
  ⟨k.now.trans h.now, k.system.trans h.system, k.users.trans h.users,
    k.sessions.trans h.sessions, k.outages.trans h.outages⟩

def noted (w : World) (ns : List Note) : World := { w with log := w.log ++ ns }

theorem quiet_noted (w : World) (ns : List Note) : Quiet w (w.noted ns) := ⟨rfl, rfl, rfl, rfl, rfl⟩

def afterSecret (w : World) : World :=
  { w with draws := { w.draws with secrets := w.draws.secrets + 1 } }

def afterSalt (w : World) : World :=
  { w with draws := { w.draws with salts := w.draws.salts + 1 } }

theorem quiet_afterSecret (w : World) : Quiet w w.afterSecret := ⟨rfl, rfl, rfl, rfl, rfl⟩

theorem quiet_afterSalt (w : World) : Quiet w w.afterSalt := ⟨rfl, rfl, rfl, rfl, rfl⟩

/-- At most the clocks are different. -/
def Ticked (w v : World) : Prop :=
  ∃ now system, v = { w with now, system }

theorem ticked_advance (w : World) (d : Duration) : Ticked w (w.advance d).1 := by
  unfold advance
  split
  · exact ⟨_, _, rfl⟩
  · exact ⟨w.now, w.system, rfl⟩

theorem ticked_setSystem (w : World) (t : Instant) : Ticked w (w.setSystem t) :=
  ⟨w.now, _, rfl⟩

theorem answer_findByEmail (s : Service) (w : World) (email : Option String) :
    w.answer s (.findByEmail email) =
      if w.outages.users.select then
        (w.noted [.emailLookupFailed], .error (.fault (.users .lookUp)))
      else (w, .ok (email.bind fun e => w.users.withEmail? e)) := by
  simp only [answer, onUsers, Users.findByEmail]
  split
  · rfl
  · simp [Outcome.ok]

theorem answer_findById (s : Service) (w : World) (id : Option String) :
    w.answer s (.findById id) =
      if w.outages.users.select then
        (w.noted [.idLookupFailed id], .error (.fault (.users .lookUp)))
      else (w, .ok (id.bind fun i => w.users.withId? i)) := by
  simp only [answer, onUsers, Users.findById]
  split
  · rfl
  · simp [Outcome.ok]

theorem answer_putSession (s : Service) (w : World) (key : LooseText) (value : String)
    (ttl : Duration) :
    w.answer s (.putSession key value ttl) =
      if s.backing.isOut w.outages.sessions.set then
        (w.noted [.sessionsFailed .write (Session.family key)], .error (.fault .sessions))
      else
        match s.backing.deadline? w.now ttl with
        | none => (w, .error (.broken .range))
        | some t => ({ w with sessions := w.sessions.insert key ⟨value, t⟩ }, .ok ()) := by
  simp only [answer, onSessions, Session.put]
  split
  · rfl
  · cases s.backing.deadline? w.now ttl <;> simp [Outcome.ok, Outcome.broken]

theorem answer_popSession (s : Service) (w : World) (key : LooseText) :
    w.answer s (.popSession key) =
      if s.backing.isOut w.outages.sessions.getdel then
        (w.noted [.sessionsFailed .read (Session.family key)], .error (.fault .sessions))
      else ({ w with sessions := w.sessions.erase key }, .ok (w.sessions.live? w.now key)) := by
  simp only [answer, onSessions, Session.pop]
  split
  · rfl
  · simp [Outcome.ok]

theorem answer_deleteSession (s : Service) (w : World) (key : LooseText) :
    w.answer s (.deleteSession key) =
      if s.backing.isOut w.outages.sessions.delete then
        (w.noted [.sessionsFailed .delete (Session.family key)], .error (.fault .sessions))
      else ({ w with sessions := w.sessions.erase key }, .ok ()) := by
  simp only [answer, onSessions, Session.delete]
  split
  · rfl
  · simp [Outcome.ok]

theorem onUsers_update (w : World) (t : Instant) (columns : List String) (change : User → User)
    (id : String) :
    w.onUsers (Users.update w.outages.users t columns (some change) (some id) w.users) =
      if w.outages.users.update then
        (w.noted [.updateFailed (some id) columns], .error (.fault (.users .update)))
      else
        match w.users.withId? id with
        | none => (w, .ok false)
        | some u =>
          ({ w with users := w.users.modify u.id fun u => { change u with updatedAt := t } },
            .ok true) := by
  simp only [onUsers, Users.update]
  split
  · rfl
  · simp only [Option.bind_some]
    cases w.users.withId? id <;> simp [Outcome.ok]

theorem answer_updatePassword (s : Service) (w : World) (id hash : String) :
    w.answer s (.updatePassword (some id) (some hash)) =
      if w.outages.users.update then
        (w.noted [.updateFailed (some id) ["password_hash", "updated_at"]],
          .error (.fault (.users .update)))
      else
        match w.users.withId? id with
        | none => (w, .ok false)
        | some u =>
          ({ w with users := w.users.modify u.id fun u =>
              { u with passwordHash := hash, updatedAt := w.now } }, .ok true) :=
  onUsers_update ..

theorem answer_updateLastLogin (s : Service) (w : World) (id : String) :
    w.answer s (.updateLastLogin (some id) none) =
      if w.outages.users.update then
        (w.noted [.updateFailed (some id) ["last_login_at"]], .error (.fault (.users .update)))
      else
        match w.users.withId? id with
        | none => (w, .ok false)
        | some u =>
          ({ w with users := w.users.modify u.id fun u =>
              { u with lastLoginAt := some w.now, updatedAt := w.system } }, .ok true) :=
  onUsers_update ..

end World

namespace Plan

open World

variable {α β : Type} {s : Service} {w v : World} {r : Except Failure β}

theorem run_drawSecret (size : Nat) (g : Vector UInt8 size → Plan β) (w : World) :
    (@Bind.bind Plan _ (no_index (Vector UInt8 size)) β (ask (.drawSecret size)) g).run s w =
      (g (s.source.secret w.draws.secrets size)).run s w.afterSecret := rfl

theorem run_drawSalt (g : Vector UInt8 16 → Plan β) (w : World) :
    (@Bind.bind Plan _ (no_index (Vector UInt8 16)) β (ask .drawSalt) g).run s w =
      (g (s.source.salt w.draws.salts)).run s w.afterSalt := rfl

theorem run_findByEmail {email : String} {g : Option User → Plan β}
    (h : (ask (.findByEmail (some email)) >>= fun x => ofExcept x >>= g).run s w = (v, r)) :
    (Quiet w v ∧ ∃ e, r = .error e) ∨
      w.outages.users.select = false ∧ (g (w.users.withEmail? email)).run s w = (v, r) := by
  rw [run_bind_ask, answer_findByEmail] at h
  split at h
  · rw [run_bind_ofExcept_error, Prod.mk.injEq] at h
    exact .inl ⟨h.1 ▸ quiet_noted w _, _, h.2.symm⟩
  · next ho => exact .inr ⟨by simpa using ho, h⟩

theorem trace_findByEmail {email : String} (g : Option User → Plan β)
    (ho : w.outages.users.select = false) :
    (ask (.findByEmail (some email)) >>= fun x => ofExcept x >>= g).trace s w =
      ⟨w, .findByEmail (some email)⟩ :: (g (w.users.withEmail? email)).trace s w := by
  rw [trace_bind_ask, answer_findByEmail, ho]
  rfl

theorem run_putSession {key : LooseText} {value : String} {ttl : Duration} {g : Unit → Plan β}
    (h : (ask (.putSession key value ttl) >>= fun x => ofExcept x >>= g).run s w = (v, r)) :
    (Quiet w v ∧ ∃ e, r = .error e) ∨
      ∃ t, s.backing.deadline? w.now ttl = some t ∧
        (g ()).run s { w with sessions := w.sessions.insert key ⟨value, t⟩ } = (v, r) := by
  rw [run_bind_ask, answer_putSession] at h
  split at h
  · rw [run_bind_ofExcept_error, Prod.mk.injEq] at h
    exact .inl ⟨h.1 ▸ quiet_noted w _, _, h.2.symm⟩
  · cases ht : s.backing.deadline? w.now ttl with
    | none =>
      rw [ht, run_bind_ofExcept_error, Prod.mk.injEq] at h
      exact .inl ⟨h.1 ▸ .refl w, _, h.2.symm⟩
    | some t =>
      rw [ht] at h
      exact .inr ⟨t, rfl, h⟩

theorem run_popSession {key : LooseText} {g : Option String → Plan β}
    (h : (ask (.popSession key) >>= fun x => ofExcept x >>= g).run s w = (v, r)) :
    (Quiet w v ∧ ∃ e, r = .error e) ∨
      s.backing.isOut w.outages.sessions.getdel = false ∧
        (g (w.sessions.live? w.now key)).run s { w with sessions := w.sessions.erase key } =
          (v, r) := by
  rw [run_bind_ask, answer_popSession] at h
  split at h
  · rw [run_bind_ofExcept_error, Prod.mk.injEq] at h
    exact .inl ⟨h.1 ▸ quiet_noted w _, _, h.2.symm⟩
  · next ho => exact .inr ⟨by simpa using ho, h⟩

theorem run_deleteSession {key : LooseText} {g : Unit → Plan β}
    (h : (ask (.deleteSession key) >>= fun x => ofExcept x >>= g).run s w = (v, r)) :
    (Quiet w v ∧ s.backing.isOut w.outages.sessions.delete = true ∧
        r = .error (.fault .sessions)) ∨
      (g ()).run s { w with sessions := w.sessions.erase key } = (v, r) := by
  rw [run_bind_ask, answer_deleteSession] at h
  split at h
  · next ho =>
    rw [run_bind_ofExcept_error, Prod.mk.injEq] at h
    exact .inl ⟨h.1 ▸ quiet_noted w _, ho, h.2.symm⟩
  · exact .inr h

theorem run_updatePassword {id hash : String} {g : Bool → Plan β}
    (h : (ask (.updatePassword (some id) (some hash)) >>= fun x => ofExcept x >>= g).run s w =
      (v, r)) :
    (Quiet w v ∧ ∃ e, r = .error e) ∨
      (w.users.withId? id = none ∧ (g false).run s w = (v, r)) ∨
      ∃ u, w.users.withId? id = some u ∧
        (g true).run s { w with users := w.users.modify u.id fun u =>
          { u with passwordHash := hash, updatedAt := w.now } } = (v, r) := by
  rw [run_bind_ask, answer_updatePassword] at h
  split at h
  · rw [run_bind_ofExcept_error, Prod.mk.injEq] at h
    exact .inl ⟨h.1 ▸ quiet_noted w _, _, h.2.symm⟩
  · cases hu : w.users.withId? id with
    | none =>
      rw [hu] at h
      exact .inr (.inl ⟨rfl, h⟩)
    | some u =>
      rw [hu] at h
      exact .inr (.inr ⟨u, rfl, h⟩)

theorem run_updateLastLogin {user : User} {g : Except Failure Bool → Plan β}
    (hu : w.users.withId? user.id = some user)
    (h : (ask (.updateLastLogin (some user.id) none) >>= g).run s w = (v, r)) :
    (w.outages.users.update = true ∧
      (g (.error (.fault (.users .update)))).run s
        (w.noted [.updateFailed (some user.id) ["last_login_at"]]) = (v, r)) ∨
      (w.outages.users.update = false ∧
        (g (.ok true)).run s { w with users := w.users.modify user.id fun u =>
          { u with lastLoginAt := some w.now, updatedAt := w.system } } = (v, r)) := by
  rw [run_bind_ask, answer_updateLastLogin] at h
  split at h
  · next ho => exact .inl ⟨ho, h⟩
  · next ho =>
    rw [hu] at h
    exact .inr ⟨by simpa using ho, h⟩

theorem run_createUser {d : Draft} {g : User → Plan β}
    (h : (ask (.createUser d) >>= fun x => ofExcept x >>= g).run s w = (v, r)) :
    (Quiet w v ∧ ∃ e, r = .error e) ∨
      ∃ u, Users.rowFor? (w.nextId s).text w.system d = some u ∧ w.users.isTaken u = false ∧
        ((v = { w.afterId with users := w.users ++ [u] } ∧ w.outages.users.select = true ∧
            r = .error (.broken .database)) ∨
          (w.outages.users.select = false ∧
            (g u).run s { w.afterId with users := w.users ++ [u] } = (v, r))) := by
  rw [run_bind_ask] at h
  simp only [answer, onUsers, Users.create] at h
  split at h
  · simp only [Outcome.fault, run_bind_ofExcept_error, Prod.mk.injEq] at h
    exact .inl ⟨h.1 ▸ ⟨rfl, rfl, rfl, rfl, rfl⟩, _, h.2.symm⟩
  · split at h
    · simp only [Outcome.fault, run_bind_ofExcept_error, Prod.mk.injEq] at h
      exact .inl ⟨h.1 ▸ ⟨rfl, rfl, rfl, rfl, rfl⟩, _, h.2.symm⟩
    · next u hu =>
      split at h
      · simp only [Outcome.fault, run_bind_ofExcept_error, Prod.mk.injEq] at h
        exact .inl ⟨h.1 ▸ ⟨rfl, rfl, rfl, rfl, rfl⟩, _, h.2.symm⟩
      · next ht =>
        refine .inr ⟨u, hu, by simpa using ht, ?_⟩
        split at h
        · next hs =>
          simp only [Outcome.broken, List.append_nil, run_bind_ofExcept_error, Prod.mk.injEq] at h
          exact .inl ⟨h.1.symm, hs, h.2.symm⟩
        · next hs =>
          simp only [Outcome.ok, List.append_nil, run_bind_ofExcept_ok] at h
          exact .inr ⟨by simpa using hs, h⟩

end Plan

def Call.IsQuiet : Call → Prop
  | .now | .systemTime | .issueToken .. | .drawSecret _ | .drawSalt | .recallDummy | .keepDummy _
  | .checkPassword .. | .findByEmail _ | .findById _ | .pingSessions | .probeDatabase
  | .note _ => True
  | _ => False

theorem World.quiet_answer (s : Service) (w : World) {c : Call} (hc : c.IsQuiet) :
    World.Quiet w (w.answer s c).1 := by
  cases c with
  | now | systemTime => exact .refl w
  | issueToken authority subject ttl type =>
    simp only [answer, issueToken]
    cases Token.lifespan w.now ttl with
    | error b => exact .refl w
    | ok times => exact ⟨rfl, rfl, rfl, rfl, rfl⟩
  | drawSecret size => exact ⟨rfl, rfl, rfl, rfl, rfl⟩
  | drawSalt => exact ⟨rfl, rfl, rfl, rfl, rfl⟩
  | recallDummy => exact .refl w
  | keepDummy hash => exact ⟨rfl, rfl, rfl, rfl, rfl⟩
  | checkPassword stored password => exact .refl w
  | findByEmail email =>
    rw [answer_findByEmail]
    split
    · exact quiet_noted w _
    · exact .refl w
  | findById id =>
    rw [answer_findById]
    split
    · exact quiet_noted w _
    · exact .refl w
  | pingSessions => exact .refl w
  | probeDatabase => exact .refl w
  | note n => exact quiet_noted w [n]
  | createUser | updatePassword | updateLastLogin | putSession | getSession | popSession
  | deleteSession => exact hc.elim

theorem Plan.quiet_run {α : Type} {s : Service} {p : Plan α} (hp : p.Asks Call.IsQuiet)
    {w v : World} {r : Except Failure α} (h : p.run s w = (v, r)) : World.Quiet w v := by
  have hq : World.Quiet w (p.run s w).1 :=
    run_invariant hp (fun u _ hc hu => hu.trans (u.quiet_answer s hc)) (.refl w)
  rwa [h] at hq

end Accounts
