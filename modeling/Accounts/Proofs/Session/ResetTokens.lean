import Accounts.Proofs.Service.Stores

/-! # Reset tokens

Every entry under the key of a reset token can be traced back to the request that drew the token,
and no entry is left under the key of a token that was popped. If no secret is drawn twice, a
token that was popped never comes back.
-/
namespace Accounts

open World

variable {s : Service} {w : World}

theorem LooseText.points_append (t u : LooseText) : (t ++ u).points = t.points ++ u.points := rfl

theorem resetKey_injective {t u : LooseText} (h : Session.resetKey t = Session.resetKey u) :
    t = u := by
  have ht := List.append_cancel_left (congrArg LooseText.points h)
  cases t
  cases u
  exact congrArg LooseText.mk ht

theorem resetKey_ne_refreshKey (t : LooseText) (id : String) :
    Session.resetKey t ≠ Session.refreshKey id := by
  intro h
  rw [Session.refreshKey, LooseText.ofString_append] at h
  have hp := congrArg (fun x => x.points[2]?) h
  exact absurd hp (by simp [Session.resetKey, LooseText.ofString, LooseText.points_append])

theorem settles_absent {key : LooseText} {c : Call} (hc : c.Settles)
    (h : w.sessions.find? key = none) : (w.answer s c).1.sessions.find? key = none := by
  cases c with
  | drawSalt => exact h
  | updatePassword id hash => exact h
  | note n => exact h
  | deleteSession other =>
    rw [answer_deleteSession]
    split
    · exact h
    · rw [Session.Entries.find?_erase, h]
      split <;> rfl
  | now | systemTime | issueToken | drawSecret | recallDummy | keepDummy | checkPassword | createUser
  | findByEmail | findById | updateLastLogin | putSession | getSession | popSession | pingSessions
  | probeDatabase => exact hc.elim

theorem popped_of_reset {token newPassword : Option LooseText} {m : Moment} {key : LooseText}
    {value : String} (hm : m ∈ (s.resetPassword token newPassword).trace s w)
    (hp : m.Pops s key value) :
    (∃ k, Validation.token token = .ok k ∧ key = Session.resetKey k) ∧
      w.sessions.live? w.now key = some value ∧
      ((s.resetPassword token newPassword).run s w).1.sessions.find? key = none := by
  cases hk : Validation.token token with
  | error problem =>
    simp only [Service.resetPassword, hk, Plan.valid] at hm
    cases hm
  | ok k =>
  obtain ⟨rest, heq, hrest⟩ := resetPassword_shape s hk newPassword
  rw [heq] at hm ⊢
  rcases Plan.mem_trace_bind.mp hm with hm | ⟨v, p, hn, hm⟩
  · exact (Plan.call_of_mem_trace (newPassword_asks (P := fun _ => False) _) hm).elim
  have hv := (newPassword_run hn).1
  rw [hv] at hn hm
  rw [Plan.trace_bind_ask] at hm
  rcases List.mem_cons.mp hm with rfl | hm
  · obtain ⟨hc, ha⟩ := hp
    cases hc
    have ho : s.backing.isOut w.outages.sessions.getdel = false := by
      cases ho : s.backing.isOut w.outages.sessions.getdel with
      | false => rfl
      | true => simp [Session.pop, ho, Session.unavailable, Outcome.fault] at ha
    refine ⟨⟨k, rfl, rfl⟩, ?_, ?_⟩
    · simpa [Session.pop, ho, Outcome.ok] using ha
    · rw [Plan.bind_eq, Plan.run_bind, hn]
      simp only
      rw [Plan.run_bind_ask, answer_popSession, ho]
      refine Plan.run_invariant (R := fun u => u.sessions.find? (Session.resetKey k) = none)
        (hrest p _) (fun u c hc hu => settles_absent hc hu) ?_
      simp [Session.Entries.find?_erase]
  · have hc := Plan.call_of_mem_trace (hrest p _) hm
    rw [hp.1] at hc
    exact hc.elim

/-- The step is a request for a reset in a field, and drew the token at an instant. -/
def Step.Draws (s : Service) (x : Step) (field token : LooseText) (t : Instant) : Prop :=
  x.event = .operation (.forgotPassword (some field)) ∧
    ∃ m ∈ x.moments s, m.call = .drawSecret Service.resetTokenSize ∧ m.world.now = t ∧
      token = LooseText.ofString (m.world.nextToken s)

/-- The step popped the live entry of a reset token. -/
def Step.Pops (s : Service) (x : Step) (token : LooseText) : Prop :=
  ∃ m ∈ x.moments s, ∃ id, m.Pops s (Session.resetKey token) id

theorem Step.Draws.mem_secrets {x : Step} {field token : LooseText} {t : Instant}
    (h : x.Draws s field token t) : ∃ text ∈ x.secrets s, token = LooseText.ofString text := by
  obtain ⟨-, m, hm, hc, -, rfl⟩ := h
  refine ⟨m.world.nextToken s, List.mem_filterMap.mpr ⟨m, hm, ?_⟩, rfl⟩
  rw [Moment.secret?, hc]
  rfl

/-- Only a reset pops a token. It was live before the step, and afterwards it has no entry. -/
theorem Step.Pops.reset {e : Event} {token : LooseText} (h : Step.Pops s ⟨w, e⟩ token) :
    (∃ t p, e = .operation (.resetPassword t p)) ∧
      (∃ id, w.sessions.live? w.now (Session.resetKey token) = some id) ∧
      (w.next s e).sessions.find? (Session.resetKey token) = none := by
  obtain ⟨m, hm, id, hp⟩ := h
  cases e with
  | operation op =>
    have hc := Plan.call_of_mem_trace (plan_asks s op) hm
    rw [hp.1] at hc
    cases op with
    | resetPassword t p =>
      rw [moments_resetPassword] at hm
      obtain ⟨-, hl, hn⟩ := popped_of_reset hm hp
      refine ⟨⟨t, p, rfl⟩, ⟨id, hl⟩, ?_⟩
      rwa [next, Service.perform, Operation.plan, Plan.run_mapResult]
    | signUp | login | forgotPassword | validateToken => exact hc.elim
  | advance | setSystem | outages | activate => cases hm

theorem next_entry (hk : w.users.Keyed) (e : Event) {token : LooseText} {entry : Session.Entry}
    (h : (w.next s e).sessions.find? (Session.resetKey token) = some entry) :
    w.sessions.find? (Session.resetKey token) = some entry ∨
      ∃ field, ∃ u ∈ w.users, Step.Draws s ⟨w, e⟩ field token w.now ∧
        field.trim = LooseText.ofString u.email ∧ entry.value = u.id ∧
        entry.deadline = w.now + s.backing.lifetime s.lifetimes.reset := by
  cases e with
  | operation op =>
    simp only [next] at h
    cases op with
    | signUp email password firstName lastName =>
      obtain ⟨r, hr, -⟩ := perform_signUp s email password firstName lastName w
      cases hr with
      | refused e hq => exact .inl (hq.sessions ▸ h)
      | created p user r he hf hp hfirst hlast hh hid ha hc hu hl ht hn ho hs => exact .inl (hs ▸ h)
    | login email password =>
      obtain ⟨r, hr, -⟩ := perform_login (s := s) hk email password
      cases hr with
      | refused e hq => exact .inl (hq.sessions ▸ h)
      | started a p user x y i j d he hp hu hv ha hi hj hd hn ho hs =>
        rw [hs, Session.Entries.find?_insert, if_neg (resetKey_ne_refreshKey _ _)] at h
        exact .inl h
    | forgotPassword email =>
      obtain ⟨r, hr, -⟩ := perform_forgotPassword s email w
      cases hr with
      | refused e hq => exact .inl (hq.sessions ▸ h)
      | unknown a he hu hq => exact .inl (hq.sessions ▸ h)
      | sent a user d he hu hd hn hus ho hs ht =>
        rw [hs, Session.Entries.find?_insert] at h
        split at h
        · next hkey =>
          cases h
          obtain ⟨field, rfl, htrim⟩ := field_of_email he
          obtain ⟨hmem, rfl⟩ := Users.mem_of_withEmail? hu
          refine .inr ⟨field, user, hmem,
            ⟨rfl, ⟨w, .drawSecret Service.resetTokenSize⟩, ?_, rfl, rfl, resetKey_injective hkey⟩,
            htrim, rfl, ?_⟩
          · rwa [moments_forgotPassword]
          · exact (Session.Backing.deadline?_eq_some_iff.mp hd).1
        · exact .inl h
    | resetPassword t p =>
      obtain ⟨r, hr, -⟩ := perform_resetPassword s t p w
      cases hr with
      | refused e hq => exact .inl (hq.sessions ▸ h)
      | spent k e hk hn hus ho hs => exact .inl (find?_of_erase (hs ▸ h))
      | changed k p id hash user r hk hf hp hl hm hh hu hn ho hus hs =>
        rcases hs with ⟨hs, -⟩ | ⟨hs, -⟩
        · exact .inl (find?_of_erase (hs ▸ h))
        · exact .inl (find?_of_erase (find?_of_erase (hs ▸ h)))
    | validateToken accessToken => exact .inl ((perform_validateToken s accessToken w).sessions ▸ h)
  | advance d =>
    simp only [next, advance] at h
    split at h <;> exact .inl h
  | setSystem | outages | activate => exact .inl h

/-- What is known of an entry under the key of a reset token: which request drew the token, for whom
and that no step popped it. -/
structure Traced (s : Service) (history : List Step) (us : Users) (token : LooseText)
    (entry : Session.Entry) : Prop where
  drawn : ∃ x ∈ history, ∃ field t, ∃ u ∈ us, x.Draws s field token t ∧
    field.trim = LooseText.ofString u.email ∧ entry.value = u.id ∧
    entry.deadline = t + s.backing.lifetime s.lifetimes.reset
  unpopped : ∀ x ∈ history, ¬ x.Pops s token

/-- The state of the reset tokens after a run. -/
structure ResetTokens (s : Service) (history : List Step) (w : World) : Prop where
  keyed : w.users.Keyed
  traced : ∀ token entry, w.sessions.find? (Session.resetKey token) = some entry →
    Traced s history w.users token entry
  popped : ∀ x ∈ history, ∀ token, x.Pops s token →
    ∃ y ∈ history, ∃ text ∈ y.secrets s, token = LooseText.ofString text

theorem ResetTokens.start (s : Service) (now : Instant) : ResetTokens s [] (.initial now) where
  keyed := Users.keyed_nil
  traced _ _ h := nomatch h
  popped _ h := nomatch h

theorem ResetTokens.entry_of_live {history : List Step} {token : LooseText} {id : String}
    (h : ResetTokens s history w)
    (hl : w.sessions.live? w.now (Session.resetKey token) = some id) :
    ∃ entry, Traced s history w.users token entry ∧ entry.value = id ∧ w.now < entry.deadline := by
  rw [Session.Entries.live?] at hl
  split at hl
  · next entry he =>
    split at hl
    · cases hl
    · next hd => exact ⟨entry, h.traced token entry he, Option.some.inj hl, Int.not_le.mp hd⟩
  · cases hl

theorem ResetTokens.step {history : List Step} (h : ResetTokens s history w) (e : Event)
    (fresh : ∀ x ∈ history, ∀ text ∈ x.secrets s, text ∉ Step.secrets s ⟨w, e⟩) :
    ResetTokens s (history ++ [⟨w, e⟩]) (w.next s e) where
  keyed := h.keyed.evolves (next_evolves s h.keyed e)
  traced := by
    intro token entry he
    have survives : ∀ u ∈ w.users, ∃ v ∈ (w.next s e).users, Users.SameIdentity u v :=
      fun u hu => Users.row_survives (next_evolves s h.keyed e) hu
    have here : ¬ Step.Pops s ⟨w, e⟩ token := by
      intro hp
      rw [hp.reset.2.2] at he
      cases he
    rcases next_entry h.keyed e he with hold | ⟨field, u, hu, hd, htrim, hvalue, hdeadline⟩
    · have ht := h.traced token entry hold
      obtain ⟨x, hx, field, t, u, hu, hd, htrim, hvalue, hdeadline⟩ := ht.drawn
      obtain ⟨v, hv, same⟩ := survives u hu
      refine ⟨⟨x, List.mem_append_left _ hx, field, t, v, hv, hd, ?_, ?_, hdeadline⟩, ?_⟩
      · rw [htrim, same.email]
      · rw [hvalue, same.id]
      · intro y hy
        rcases List.mem_append.mp hy with hy | hy
        · exact ht.unpopped y hy
        · rwa [List.mem_singleton.mp hy]
    · obtain ⟨v, hv, same⟩ := survives u hu
      refine ⟨⟨_, List.mem_append_right _ (.head _), field, w.now, v, hv, hd, ?_, ?_,
        hdeadline⟩, ?_⟩
      · rw [htrim, same.email]
      · rw [hvalue, same.id]
      · intro y hy
        rcases List.mem_append.mp hy with hy | hy
        · intro hp
          obtain ⟨z, hz, text, htext, rfl⟩ := h.popped y hy token hp
          obtain ⟨text', hnew, heq⟩ := hd.mem_secrets
          rw [← LooseText.ofString_injective heq] at hnew
          exact fresh z hz text htext hnew
        · rwa [List.mem_singleton.mp hy]
  popped := by
    intro x hx token hp
    rcases List.mem_append.mp hx with hx | hx
    · obtain ⟨y, hy, htext⟩ := h.popped x hx token hp
      exact ⟨y, List.mem_append_left _ hy, htext⟩
    · rw [List.mem_singleton.mp hx] at hp
      obtain ⟨id, hl⟩ := hp.reset.2.1
      obtain ⟨entry, ht, -⟩ := h.entry_of_live hl
      obtain ⟨y, hy, field, t, u, -, hd, -⟩ := ht.drawn
      exact ⟨y, List.mem_append_left _ hy, hd.mem_secrets⟩

theorem resetTokens_after (s : Service) (now : Instant) (past : List Event)
    (hn : ((initial now).secrets s past).Nodup) :
    ResetTokens s ((initial now).steps s past) ((initial now).after s past) := by
  induction past using run_induction with
  | start => exact .start s now
  | step past e ih =>
    rw [secrets_snoc, List.nodup_append] at hn
    rw [steps_snoc, after_snoc]
    refine (ih hn.1).step e fun x hx text ht hnew => ?_
    exact hn.2.2 text (List.mem_flatMap.mpr ⟨x, hx, ht⟩) text hnew rfl

end Accounts
