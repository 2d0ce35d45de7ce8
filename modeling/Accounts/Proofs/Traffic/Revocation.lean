import Accounts.Proofs.Account.Changes
import Accounts.Proofs.Traffic.Courses
import Accounts.Proofs.Traffic.Order

/-! # Logins during resets

The calls of a login and of a reset of the same user may come between each other, and nothing holds
those of one together. Which hash a password was checked against is a matter of the reading and the
overwriting of the row; whether the token stays registered is one of the registration and the
revocation.
-/
namespace Accounts

open World

variable {s : Service}

theorem entry_of_registers {id token : String} {ttl : Duration} {w : World}
    (h : .ok () = (w.answer s (.putSession (Session.refreshKey id) token ttl)).2) :
    ∃ deadline, (w.answer s (.putSession (Session.refreshKey id) token ttl)).1.sessions.find?
      (Session.refreshKey id) = some ⟨token, deadline⟩ := by
  rw [answer_putSession] at h ⊢
  split at h
  · cases h
  · next hout =>
    rw [if_neg hout]
    cases ht : s.backing.deadline? w.now ttl with
    | none =>
      rw [ht] at h
      cases h
    | some deadline => exact ⟨deadline, by rw [Session.Entries.find?_insert, if_pos rfl]⟩

theorem no_entry_of_revokes {id : String} {w : World}
    (h : .ok () = (w.answer s (.deleteSession (Session.refreshKey id))).2) :
    (w.answer s (.deleteSession (Session.refreshKey id))).1.sessions.find?
      (Session.refreshKey id) = none := by
  rw [answer_deleteSession] at h ⊢
  split at h
  · cases h
  · next hout => rw [if_neg hout, Session.Entries.find?_erase, if_pos rfl]

theorem row_of_reads {address : String} {u : User} {w : World}
    (h : .ok (some u) = (w.answer s (.findByEmail (some address))).2) : u ∈ w.users := by
  rw [answer_findByEmail] at h
  split at h
  · cases h
  · exact (Users.mem_of_withEmail? (Except.ok.inj h).symm).1

theorem hash_of_overwrites {id hash : String} {w : World} {u : User}
    (h : .ok true = (w.answer s (.updatePassword (some id) (some hash))).2)
    (hu : u ∈ (w.answer s (.updatePassword (some id) (some hash))).1.users) (hid : u.id = id) :
    u.passwordHash = hash := by
  rw [answer_updatePassword] at h hu
  split at h
  · cases h
  · next hout =>
    rw [if_neg hout] at hu
    cases hold : w.users.withId? id with
    | none =>
      rw [hold] at h
      cases h
    | some old =>
      rw [hold] at hu
      obtain ⟨v, hv, rfl⟩ := mem_modify hu
      have hsame : v.id = old.id := by
        rw [(Users.mem_of_withId? hold).2, ← hid]
        split <;> rfl
      rw [if_pos hsame]

theorem Call.Redeems.users {c : Call} (h : c.Redeems) (s : Service) (w : World) :
    (w.answer s c).1.users = w.users := by
  cases c with
  | popSession | drawSalt => rfl
  | _ => exact h.elim

theorem Call.Records.sessions {c : Call} (h : c.Records) (s : Service) (w : World) :
    (w.answer s c).1.sessions = w.sessions := by
  cases c with
  | updateLastLogin | note => rfl
  | _ => exact h.elim

namespace Traffic

variable {t : Traffic} {w : World} {i j : Nat} {l : LoggedIn} {address hash : String} {u : User}
  {ttl : Duration} {token : LooseText} {mid rest salts : List Exchange} {x : Exchange}

theorem not_before_reads (h : SignsIn l (t.made i) address u ttl mid rest) :
    ¬ t.Before (i, x) (i, .reads address u) := by
  intro hx
  have hsub := hx.made
  rw [h.made] at hsub
  have hlast : Exchange.reads address u ∉ mid ++ .registers u.id l.refreshToken ttl :: rest := by
    intro hmem
    rcases List.mem_append.mp hmem with hmem | hmem
    · exact h.prepares _ hmem
    · rcases List.mem_cons.mp hmem with heq | hmem
      · cases heq
      · exact h.records _ hmem
  cases mem_of_precedes (l := []) hsub hlast

theorem records_of_after_registers (h : SignsIn l (t.made i) address u ttl mid rest)
    (hx : t.Before (i, .registers u.id l.refreshToken ttl) (i, x)) : x.call.Records := by
  have hsub := hx.made
  rw [h.made, ← List.cons_append] at hsub
  refine h.records x (mem_of_follows hsub ?_)
  intro hmem
  rcases List.mem_cons.mp hmem with heq | hmem
  · cases heq
  · exact h.prepares _ hmem

theorem users_before_overwrites (h : Resets (t.made j) token u.id hash salts)
    (hx : t.Before (j, x) (j, .overwrites u.id hash)) (v : World) :
    (v.answer s x.call).1.users = v.users := by
  have hsub := hx.made
  rw [h.made, ← List.cons_append] at hsub
  have hmem := mem_of_precedes hsub (by simp [Exchange.overwrites, Exchange.revokes])
  exact (h.redeems hmem).users s v

theorem users_after_overwrites (h : Resets (t.made j) token u.id hash salts)
    (hx : t.Before (j, .overwrites u.id hash) (j, x)) (v : World) :
    (v.answer s x.call).1.users = v.users := by
  have hsub := hx.made
  rw [h.made, ← List.cons_append] at hsub
  have hmem := mem_of_follows hsub fun hmem => h.redeems hmem
  rcases List.mem_pair.mp hmem with rfl | rfl <;> rfl

theorem records_of_after_revokes (h : Resets (t.made j) token u.id hash salts)
    (hx : t.Before (j, .revokes u.id) (j, x)) : x.call.Records := by
  have hsub := hx.made
  rw [h.made, ← List.cons_append, List.append_cons] at hsub
  have hearlier : Exchange.revokes u.id ∉
      (.spends token u.id :: salts) ++ [.overwrites u.id hash] := by
    intro hmem
    rcases List.mem_append.mp hmem with hmem | hmem
    · exact h.redeems hmem
    · cases List.mem_singleton.mp hmem
  rw [List.mem_singleton.mp (mem_of_follows hsub hearlier)]
  trivial

/-- A login and a reset of one user have succeeded, and there was nothing else. -/
structure Encounter (s : Service) (w : World) (t : Traffic) (i j : Nat) (l : LoggedIn)
    (address : String) (u : User) (ttl : Duration) (mid rest : List Exchange) (token : LooseText)
    (hash : String) (salts : List Exchange) : Prop where
  serves : Serves s w t.trace t.world
  only : ∀ x ∈ t.trace, x.1 = i ∨ x.1 = j
  signs : SignsIn l (t.made i) address u ttl mid rest
  resets : Resets (t.made j) token u.id hash salts

namespace Encounter

variable (h : Encounter s w t i j l address u ttl mid rest token hash salts)
include h

theorem old_row (hread : t.Before (i, .reads address u) (j, .overwrites u.id hash)) :
    u ∈ w.users := by
  obtain ⟨xs, ys, zs, htrace, hearlier, -, -⟩ := hread.parts
  obtain ⟨v, hbefore, hanswer, -⟩ := (htrace ▸ h.serves).at
  have hkept : v.users = w.users := by
    refine hbefore.keeps_users (P := (· = w.users)) ?_ rfl
    rintro ⟨n, x⟩ hx v hv
    obtain ⟨hfirst, hsecond⟩ := hearlier _ hx
    rcases h.only (n, x) hfirst.left with rfl | rfl
    · exact (not_before_reads h.signs hfirst).elim
    · rw [users_before_overwrites h.resets hsecond]
      exact hv
  rw [← hkept]
  exact row_of_reads hanswer

theorem new_hash (hread : t.Before (j, .overwrites u.id hash) (i, .reads address u)) :
    u.passwordHash = hash := by
  obtain ⟨xs, ys, zs, htrace, -, hbetween, -⟩ := hread.parts
  obtain ⟨v, -, hwrite, hserves⟩ := (htrace ▸ h.serves).at
  obtain ⟨v', hkeeps, hanswer, -⟩ := hserves.at
  have hkept : ∀ r ∈ v'.users, r.id = u.id → r.passwordHash = hash := by
    refine hkeeps.keeps_users (P := fun us => ∀ r ∈ us, r.id = u.id → r.passwordHash = hash) ?_ ?_
    · rintro ⟨n, x⟩ hx v hv
      obtain ⟨hfirst, hsecond⟩ := hbetween _ hx
      rcases h.only (n, x) hsecond.left with rfl | rfl
      · exact (not_before_reads h.signs hsecond).elim
      · rw [users_after_overwrites h.resets hfirst]
        exact hv
    · intro r hr hid
      exact hash_of_overwrites hwrite hr hid
  exact hkept u (row_of_reads hanswer) rfl

theorem sessions_at_end {v : World} {zs : List (Nat × Exchange)} (hserves : Serves s v zs t.world)
    (hregister : ∀ z ∈ zs, t.Before (i, .registers u.id l.refreshToken ttl) z)
    (hrevoke : ∀ z ∈ zs, t.Before (j, .revokes u.id) z) : t.world.sessions = v.sessions := by
  refine hserves.keeps_sessions (P := (· = v.sessions)) ?_ rfl
  rintro ⟨n, x⟩ hx v' hv
  have hrecords : x.call.Records := by
    rcases h.only (n, x) (hregister _ hx).right with rfl | rfl
    · exact records_of_after_registers h.signs (hregister _ hx)
    · exact records_of_after_revokes h.resets (hrevoke _ hx)
  rw [hrecords.sessions]
  exact hv

theorem kept_token
    (horder : t.Before (j, .revokes u.id) (i, .registers u.id l.refreshToken ttl)) :
    ∃ deadline, t.world.sessions.find? (Session.refreshKey u.id) =
      some ⟨l.refreshToken, deadline⟩ := by
  obtain ⟨xs, ys, zs, htrace, -, -, hend⟩ := horder.parts
  obtain ⟨v, -, -, hserves⟩ := (htrace ▸ h.serves).at
  obtain ⟨v', -, hanswer, hserves⟩ := hserves.at
  rw [h.sessions_at_end hserves (fun z hz => (hend z hz).2) fun z hz => (hend z hz).1]
  exact entry_of_registers hanswer

theorem revoked_token
    (horder : t.Before (i, .registers u.id l.refreshToken ttl) (j, .revokes u.id)) :
    t.world.sessions.find? (Session.refreshKey u.id) = none := by
  obtain ⟨xs, ys, zs, htrace, -, -, hend⟩ := horder.parts
  obtain ⟨v, -, -, hserves⟩ := (htrace ▸ h.serves).at
  obtain ⟨v', -, hanswer, hserves⟩ := hserves.at
  rw [h.sessions_at_end hserves (fun z hz => (hend z hz).1) fun z hz => (hend z hz).2]
  exact no_entry_of_revokes hanswer

end Encounter

def matched (t : Traffic) (i : Nat) : List String :=
  (t.made i).filterMap Exchange.matched?

def spent (t : Traffic) (i : Nat) : List String :=
  (t.made i).filterMap Exchange.spent?

def stored (t : Traffic) (i : Nat) : List String :=
  (t.made i).filterMap Exchange.stored?

/-- The row that a login checks is the one it has read, and its token is registered in the end if
and only if it was registered after the reset revoked what there was. -/
structure Interleaved (w : World) (t : Traffic) (i j : Nat) (l : LoggedIn) (address : String)
    (u : User) (ttl : Duration) (hash : String) : Prop where
  user : l.user = u.toPublic
  matched : t.matched i = [u.passwordHash]
  stored : t.stored j = [hash]
  read : t.Before (i, .reads address u) (j, .overwrites u.id hash) ∨
    t.Before (j, .overwrites u.id hash) (i, .reads address u)
  old : t.Before (i, .reads address u) (j, .overwrites u.id hash) → u ∈ w.users
  new : t.Before (j, .overwrites u.id hash) (i, .reads address u) → u.passwordHash = hash
  registers : t.Before (i, .registers u.id l.refreshToken ttl) (j, .revokes u.id) ∨
    t.Before (j, .revokes u.id) (i, .registers u.id l.refreshToken ttl)
  registered : (∃ deadline, t.world.sessions.find? (Session.refreshKey u.id) =
      some ⟨l.refreshToken, deadline⟩) ↔
    t.Before (j, .revokes u.id) (i, .registers u.id l.refreshToken ttl)
  revoked : t.Before (i, .registers u.id l.refreshToken ttl) (j, .revokes u.id) →
    t.world.sessions.find? (Session.refreshKey u.id) = none

theorem matched_of_signsIn (h : SignsIn l (t.made i) address u ttl mid rest) :
    t.matched i = [u.passwordHash] := by
  have hrest : rest.filterMap Exchange.matched? = [] := by
    rw [List.filterMap_eq_nil_iff]
    rintro ⟨c, a⟩ hx
    have hrecords := h.records _ hx
    cases c <;> first | rfl | exact hrecords.elim
  rw [matched, h.made, List.filterMap_cons_none rfl, List.filterMap_append, h.matched,
    List.filterMap_cons_none rfl, hrest]
  rfl

theorem spent_of_resets {id : String} (h : Resets (t.made j) token id hash salts) :
    t.spent j = [id] := by
  have hfirst : (Exchange.spends token id).spent? = some id := rfl
  rw [spent, h.made, List.filterMap_cons_some hfirst, List.filterMap_append,
    h.filterMap_salts fun _ => rfl]
  rfl

theorem stored_of_resets {id : String} (h : Resets (t.made j) token id hash salts) :
    t.stored j = [hash] := by
  rw [stored, h.made, List.filterMap_cons_none rfl, List.filterMap_append,
    h.filterMap_salts fun _ => rfl]
  rfl

theorem Encounter.interleaved (h : Encounter s w t i j l address u ttl mid rest token hash salts) :
    Interleaved w t i j l address u ttl hash := by
  have hread : (i, .reads address u) ∈ t.trace := by
    rw [← mem_made, h.signs.made]
    exact List.mem_cons_self
  have hwrite : (j, .overwrites u.id hash) ∈ t.trace := by
    rw [← mem_made, h.resets.made]
    simp
  have hregister : (i, .registers u.id l.refreshToken ttl) ∈ t.trace := by
    rw [← mem_made, h.signs.made]
    simp
  have hrevoke : (j, .revokes u.id) ∈ t.trace := by
    rw [← mem_made, h.resets.made]
    simp
  have hread' : t.Before (i, .reads address u) (j, .overwrites u.id hash) ∨
      t.Before (j, .overwrites u.id hash) (i, .reads address u) := by
    apply before_total hread hwrite
    intro heq
    cases congrArg Prod.snd heq
  have hregister' : t.Before (i, .registers u.id l.refreshToken ttl) (j, .revokes u.id) ∨
      t.Before (j, .revokes u.id) (i, .registers u.id l.refreshToken ttl) := by
    apply before_total hregister hrevoke
    intro heq
    cases congrArg Prod.snd heq
  refine ⟨h.signs.user, matched_of_signsIn h.signs, stored_of_resets h.resets, hread', h.old_row,
    h.new_hash, hregister', ?_, h.revoked_token⟩
  constructor
  · rintro ⟨deadline, hentry⟩
    rcases hregister' with horder | horder
    · rw [h.revoked_token horder] at hentry
      cases hentry
    · exact horder
  · exact h.kept_token

def login? (t : Traffic) (i : Nat) : Option LoggedIn :=
  match t.answer? i with
  | some (.ok (.loggedIn l)) => some l
  | _ => none

theorem answer?_of_login? (h : t.login? i = some l) :
    t.answer? i = some (.ok (.loggedIn l)) := by
  unfold login? at h
  split at h
  · next heq =>
    cases h
    exact heq
  · cases h

/-- One request is a login, the other one a reset for the same user. Both have succeeded, and
nothing else was answered. -/
structure BothSucceed (t : Traffic) (i j : Nat) (l : LoggedIn) : Prop where
  only : ∀ x ∈ t.trace, x.1 = i ∨ x.1 = j
  login : ∃ e p, t.operation? i = some (.login e p)
  reset : ∃ k q, t.operation? j = some (.resetPassword k q)
  signedIn : t.login? i = some l
  changed : t.Succeeds j
  same : t.spent j = [l.user.id]

theorem BothSucceed.encounter (h : BothSucceed t i j l) (order : t.Orderly s)
    (serves : Serves s w t.trace t.world) : ∃ address u ttl mid rest token hash salts,
      Encounter s w t i j l address u ttl mid rest token hash salts := by
  obtain ⟨e, p, hi⟩ := h.login
  obtain ⟨k, q, hj⟩ := h.reset
  obtain ⟨a, ha⟩ := h.changed
  obtain ⟨rest, hlogin⟩ := request_of_operation? hi
  obtain ⟨rest', hreset⟩ := request_of_operation? hj
  obtain rfl := (rest_of_answer? hlogin).mp (answer?_of_login? h.signedIn)
  obtain rfl := (rest_of_answer? hreset).mp ha
  obtain ⟨l', hl', signs⟩ := order.completes hlogin rfl (login_signsIn s e p)
  obtain ⟨a', -, resets⟩ := order.completes hreset rfl (resetPassword_resets s k q)
  cases hl'
  obtain ⟨address, u, ttl, mid, rest, signs⟩ := signs l rfl
  obtain ⟨token, id, hash, salts, resets⟩ := resets a' rfl
  have hid : id = u.id := by
    have same := h.same
    rw [spent_of_resets resets, signs.user] at same
    exact List.singleton_inj.mp same
  subst hid
  exact ⟨address, u, ttl, mid, rest, token, hash, salts, serves, h.only, signs, resets⟩

/-- This holds in whatever order the calls of the two requests come. -/
theorem login_meets_reset (s : Service) (w : World) (turns : List Turn)
    (ht : (opened w).after s turns = t) (h : BothSucceed t i j l) :
    ∃ address u ttl hash, Interleaved w t i j l address u ttl hash := by
  subst ht
  obtain ⟨address, u, ttl, _, _, _, hash, _, encounter⟩ :=
    h.encounter ((Orderly.opened s w).run turns) (serves_opened s w turns)
  exact ⟨address, u, ttl, hash, encounter.interleaved⟩

def annForgot : World :=
  (World.initial 0).after .small
    [annRegisters, .operation (.forgotPassword (some "ann@example.org"))]

/-- Ann logs in with her old password while she resets it: her login has read the row before it is
overwritten, and registers a token after the last one was revoked. -/
def overlap : List Turn :=
  [.arrive (.login (some "ann@example.org") (some "first password 1")),
    .arrive (.resetPassword (some ((World.initial 0).nextToken .small)) (some "second password 2")),
    .proceed 0, .proceed 0, .proceed 1, .proceed 1, .proceed 1, .proceed 1, .proceed 1,
    .proceed 0, .proceed 0, .proceed 0, .proceed 0, .proceed 0]

def overlapped : Traffic :=
  (opened annForgot).after .small overlap

theorem overlap_succeeds : ∃ l, BothSucceed overlapped 0 1 l ∧ annForgot.outages = .none ∧
    overlapped.matched 0 = annForgot.users.map (·.passwordHash) ∧
    overlapped.matched 0 ≠ overlapped.stored 1 ∧
    (overlapped.world.sessions.live? overlapped.world.now
      (Session.refreshKey l.user.id)).isSome := by
  obtain ⟨only, signedIn, changed, same, works, old, other, held⟩ :
      (∀ x ∈ overlapped.trace, x.1 = 0 ∨ x.1 = 1) ∧
      (overlapped.login? 0).map (·.user.id) = some ((World.initial 0).nextId .small).text ∧
      overlapped.Succeeds 1 ∧ overlapped.spent 1 = [((World.initial 0).nextId .small).text] ∧
      annForgot.outages = .none ∧
      overlapped.matched 0 = annForgot.users.map (·.passwordHash) ∧
      overlapped.matched 0 ≠ overlapped.stored 1 ∧
      (overlapped.world.sessions.live? overlapped.world.now
        (Session.refreshKey ((World.initial 0).nextId .small).text)).isSome := by
    decide
  obtain ⟨l, hl, hid⟩ := Option.map_eq_some_iff.mp signedIn
  rw [← hid] at same held
  refine ⟨l, ⟨only, ?_, ?_, hl, changed, same⟩, works, old, other, held⟩
  · exact ⟨_, _, rfl⟩
  · exact ⟨_, _, rfl⟩

/-- The token that was issued for the old password is registered after the reset. -/
theorem renewal_outlives_reset : ∃ l, BothSucceed overlapped 0 1 l ∧ annForgot.outages = .none ∧
    overlapped.matched 0 = annForgot.users.map (·.passwordHash) ∧
    overlapped.matched 0 ≠ overlapped.stored 1 ∧
    overlapped.world.sessions.live? overlapped.world.now (Session.refreshKey l.user.id) =
      some l.refreshToken := by
  obtain ⟨l, both, works, old, other, held⟩ := overlap_succeeds
  obtain ⟨address, u, ttl, _, _, _, hash, _, encounter⟩ :=
    both.encounter ((Orderly.opened .small annForgot).run overlap)
      (serves_opened .small annForgot overlap)
  have met := encounter.interleaved
  have hid : l.user.id = u.id := congrArg PublicUser.id met.user
  refine ⟨l, both, works, old, other, ?_⟩
  rw [hid] at held ⊢
  rcases met.registers with horder | horder
  · rw [Session.Entries.live?, met.revoked horder] at held
    cases held
  · obtain ⟨deadline, hentry⟩ := met.registered.mpr horder
    rw [Session.Entries.live?, hentry] at held ⊢
    dsimp only at held ⊢
    split at held
    · cases held
    · next hlive => rw [if_neg hlive]

theorem overlap_interleaved : ∃ l address u ttl hash, BothSucceed overlapped 0 1 l ∧
    Interleaved annForgot overlapped 0 1 l address u ttl hash := by
  obtain ⟨l, both, -⟩ := overlap_succeeds
  obtain ⟨address, u, ttl, hash, met⟩ := login_meets_reset .small annForgot overlap rfl both
  exact ⟨l, address, u, ttl, hash, both, met⟩

end Traffic

end Accounts
