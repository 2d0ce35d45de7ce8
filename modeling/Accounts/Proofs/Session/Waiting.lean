import Accounts.Proofs.Session.ResetTokens

/-! # Reset tokens that wait

The entry of a reset token stays as it is until the token is presented with a password that can be
set. A token without an entry gets none before it is drawn again.
-/
namespace Accounts

open World

variable {s : Service} {w v : World} {k : LooseText} {entry : Session.Entry}

abbrev Event.request (field : LooseText) : Event :=
  .operation (.forgotPassword (some field))

abbrev Event.reset (token : LooseText) (password : String) : Event :=
  .operation (.resetPassword (some token) (some (LooseText.ofString password)))

theorem after_append (s : Service) (w : World) (before later : List Event) :
    w.after s (before ++ later) = (w.after s before).after s later :=
  List.foldl_append

theorem secrets_cons (s : Service) (w : World) (e : Event) (events : List Event) :
    w.secrets s (e :: events) = Step.secrets s ⟨w, e⟩ ++ (w.next s e).secrets s events :=
  List.flatMap_cons

theorem secrets_append (s : Service) (w : World) (before later : List Event) :
    w.secrets s (before ++ later) = w.secrets s before ++ (w.after s before).secrets s later := by
  induction before generalizing w with
  | nil => rfl
  | cons e before ih =>
    rw [List.cons_append, secrets_cons, secrets_cons, ih, List.append_assoc]
    rfl

def LooseText.IsNew (k : LooseText) (texts : List String) : Prop :=
  ∀ text ∈ texts, k ≠ LooseText.ofString text

theorem LooseText.isNew_append {texts more : List String} :
    k.IsNew (texts ++ more) ↔ k.IsNew texts ∧ k.IsNew more := by
  constructor
  · intro h
    exact ⟨fun t ht => h t (List.mem_append_left _ ht), fun t ht => h t (List.mem_append_right _ ht)⟩
  · rintro ⟨hleft, hright⟩ t ht
    rcases List.mem_append.mp ht with ht | ht
    · exact hleft t ht
    · exact hright t ht

theorem LooseText.isNew_of_nodup {before later : List String} {text : String}
    (fresh : (before ++ later).Nodup) (h : text ∈ before) :
    (LooseText.ofString text).IsNew later := by
  intro t ht heq
  obtain rfl := LooseText.ofString_injective heq
  exact (List.nodup_append.mp fresh).2.2 text h text ht rfl

theorem nextToken_mem_secrets {field : Option LooseText}
    (h : ⟨w, .drawSecret Service.resetTokenSize⟩ ∈ (s.forgotPassword field).trace s w) :
    w.nextToken s ∈ Step.secrets s ⟨w, .operation (.forgotPassword field)⟩ := by
  rw [← moments_forgotPassword] at h
  exact List.mem_filterMap.mpr ⟨_, h, rfl⟩

/-- The event presents the token with a password that can be set. -/
def Event.Spends (k : LooseText) (e : Event) : Prop :=
  ∃ t p, e = .reset t p ∧ t.trim = k ∧ Validation.password (some p) = .ok p

theorem sessions_of_resetPassword {token newPassword : Option LooseText} {r : Except Failure Status}
    (h : (s.resetPassword token newPassword).run s w = (v, r)) :
    v.sessions = w.sessions ∨ ∃ k p, Validation.token token = .ok k ∧
      newPassword = some (LooseText.ofString p) ∧ Validation.password (some p) = .ok p := by
  cases hk : Validation.token token with
  | error problem =>
    simp only [Service.resetPassword, hk, Plan.valid, Plan.run_bind_fail, Prod.mk.injEq] at h
    exact .inl (h.1 ▸ rfl)
  | ok k =>
    simp only [Service.resetPassword, hk, Plan.valid, Plan.run_bind_pure] at h
    rcases Plan.run_bind_cases h with ⟨e, hn, rfl⟩ | ⟨u, p, hn, -⟩
    · exact .inl ((newPassword_run hn).1 ▸ rfl)
    · obtain ⟨hfield, hvalid⟩ := (newPassword_run hn).2 p rfl
      exact .inr ⟨k, p, rfl, hfield, hvalid⟩

theorem find?_of_resetPassword {token newPassword : Option LooseText} {r : Except Failure Status}
    (h : (s.resetPassword token newPassword).run s w = (v, r))
    (unspent : ¬ Event.Spends k (.operation (.resetPassword token newPassword))) :
    v.sessions.find? (Session.resetKey k) = w.sessions.find? (Session.resetKey k) := by
  rcases sessions_of_resetPassword h with hsame | ⟨j, p, hj, rfl, hp⟩
  · rw [hsame]
  have hne : Session.resetKey k ≠ Session.resetKey j := by
    intro heq
    obtain ⟨t, rfl, htrim⟩ := field_of_token hj
    exact unspent ⟨t, p, rfl, htrim.trans (resetKey_injective heq).symm, hp⟩
  cases resetPassword_cases h with
  | refused e hq => rw [hq.sessions]
  | spent j' e hj' hn hus ho hs =>
    cases hj.symm.trans hj'
    rw [hs, Session.Entries.find?_erase, if_neg hne]
  | changed j' q id hash user r hj' hf hq hl hm hh hu hn ho hus hs =>
    cases hj.symm.trans hj'
    rcases hs with ⟨hs, -⟩ | ⟨hs, -⟩
    · rw [hs, Session.Entries.find?_erase, if_neg hne]
    · rw [hs, Session.Entries.find?_erase, if_neg (resetKey_ne_refreshKey _ _),
        Session.Entries.find?_erase, if_neg hne]

theorem entry_stays (hk : w.users.Keyed) {e : Event} (unspent : ¬ e.Spends k)
    (undrawn : k.IsNew (Step.secrets s ⟨w, e⟩)) :
    (w.next s e).sessions.find? (Session.resetKey k) = w.sessions.find? (Session.resetKey k) := by
  cases e with
  | operation op =>
    simp only [next]
    cases op with
    | signUp email password firstName lastName =>
      obtain ⟨r, hr, -⟩ := perform_signUp s email password firstName lastName w
      cases hr with
      | refused e hq => rw [hq.sessions]
      | created p user r he hf hp hfirst hlast hh hid ha hc hu hl ht hn ho hs => rw [hs]
    | login email password =>
      obtain ⟨r, hr, -⟩ := perform_login (s := s) hk email password
      cases hr with
      | refused e hq => rw [hq.sessions]
      | started a p user x y i j d he hp hu hv ha hi hj hd hn ho hs =>
        rw [hs, Session.Entries.find?_insert, if_neg (resetKey_ne_refreshKey _ _)]
    | forgotPassword email =>
      obtain ⟨r, hr, -⟩ := perform_forgotPassword s email w
      cases hr with
      | refused e hq => rw [hq.sessions]
      | unknown a he hu hq => rw [hq.sessions]
      | sent a user d he hu hd hn hus ho hs ht =>
        have hne : Session.resetKey k ≠ Session.resetKey (LooseText.ofString (w.nextToken s)) := by
          intro heq
          exact undrawn _ (nextToken_mem_secrets ht) (resetKey_injective heq)
        rw [hs, Session.Entries.find?_insert, if_neg hne]
    | resetPassword token newPassword =>
      rw [Service.perform, Operation.plan, Plan.run_mapResult]
      exact find?_of_resetPassword rfl unspent
    | validateToken accessToken => rw [(perform_validateToken s accessToken w).sessions]
  | advance d =>
    simp only [next, advance]
    split <;> rfl
  | setSystem | outages | activate => rfl

theorem entry_stays_after (hk : w.users.Keyed) {events : List Event}
    (unspent : ∀ e ∈ events, ¬ e.Spends k) (undrawn : k.IsNew (w.secrets s events)) :
    (w.after s events).sessions.find? (Session.resetKey k) =
      w.sessions.find? (Session.resetKey k) := by
  induction events generalizing w with
  | nil => rfl
  | cons e events ih =>
    rw [secrets_cons, LooseText.isNew_append] at undrawn
    have hnext : (w.next s e).users.Keyed := hk.evolves (next_evolves s hk e)
    have hhead := entry_stays hk (unspent e (.head _)) undrawn.1
    have htail := ih hnext (fun x hx => unspent x (.tail _ hx)) undrawn.2
    exact htail.trans hhead

theorem stays_absent (hk : w.users.Keyed) {e : Event} (undrawn : k.IsNew (Step.secrets s ⟨w, e⟩))
    (h : w.sessions.find? (Session.resetKey k) = none) :
    (w.next s e).sessions.find? (Session.resetKey k) = none := by
  cases hfind : (w.next s e).sessions.find? (Session.resetKey k) with
  | none => rfl
  | some entry =>
    rcases next_entry hk e hfind with hold | ⟨field, u, hu, hdraws, -⟩
    · rw [h] at hold
      cases hold
    · obtain ⟨text, htext, heq⟩ := hdraws.mem_secrets
      exact absurd heq (undrawn text htext)

theorem stays_absent_after (hk : w.users.Keyed) {events : List Event}
    (undrawn : k.IsNew (w.secrets s events))
    (h : w.sessions.find? (Session.resetKey k) = none) :
    (w.after s events).sessions.find? (Session.resetKey k) = none := by
  induction events generalizing w with
  | nil => exact h
  | cons e events ih =>
    rw [secrets_cons, LooseText.isNew_append] at undrawn
    have hnext : (w.next s e).users.Keyed := hk.evolves (next_evolves s hk e)
    exact ih hnext undrawn.2 (stays_absent hk undrawn.1 h)

end Accounts
