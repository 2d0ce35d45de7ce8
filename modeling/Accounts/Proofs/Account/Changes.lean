import Accounts.Proofs.Service.History

/-! # Where rows come from

After an event every row was there before, perhaps with another password or another state, or was
added by a registration. Only a reset gives a row another password. A row that was added stays, and
stays active if nobody changes it by hand.
-/
namespace Accounts

open World

variable {s : Service} {w : World} {u v : User}

theorem mem_modify {us : Users} {id : String} {change : User → User}
    (h : v ∈ us.modify id change) : ∃ u ∈ us, v = if u.id = id then change u else u := by
  obtain ⟨u, hu, rfl⟩ := List.mem_map.mp h
  exact ⟨u, hu, rfl⟩

/-- Where a row of the table after an event comes from. -/
inductive RowStep (s : Service) (w : World) : Event → User → Prop where
  | kept (e u v) : u ∈ w.users → Users.SameIdentity u v → v.passwordHash = u.passwordHash →
      (v.isActive = u.isActive ∨ ∃ email active, e = .activate email active) → RowStep s w e v
  | reset (t p u v) : u ∈ w.users → Users.SameIdentity u v → v.isActive = u.isActive →
      Validation.password (some p) = .ok p →
      w.sessions.live? w.now (Session.resetKey t.trim) = some u.id →
      (∃ m ∈ (s.resetPassword (some t) (some (LooseText.ofString p))).trace s w,
        m.Pops s (Session.resetKey t.trim) u.id) →
      ((s.hash p).run s w).2 = .ok v.passwordHash →
      (s.backing.isOut w.outages.sessions.delete = true ∨
        ∃ r, (s.perform (.resetPassword (some t) (some (LooseText.ofString p))) w).2 =
          .ok (.status r)) →
      RowStep s w (.operation (.resetPassword (some t) (some (LooseText.ofString p)))) v
  | registered (e p f l v) : v.isActive = true → v.id = (w.nextId s).text →
      Validation.email e = .ok v.email →
      w.users.isTaken v = false → Validation.password (some p) = .ok p →
      ((s.hash p).run s w).2 = .ok v.passwordHash →
      (w.outages.users.select = true ∨
        (s.perform (.signUp e (some (LooseText.ofString p)) f l) w).2 =
          .ok (.signedUp ⟨true, "User registered successfully", v.toPublic⟩)) →
      RowStep s w (.operation (.signUp e (some (LooseText.ofString p)) f l)) v

theorem RowStep.same (e : Event) (hv : v ∈ w.users) : RowStep s w e v :=
  .kept e v v hv (.refl v) rfl (.inl rfl)

theorem row_step (hk : w.users.Keyed) (e : Event) (hv : v ∈ (w.next s e).users) :
    RowStep s w e v := by
  cases e with
  | operation op =>
    simp only [next] at hv
    cases op with
    | signUp email password firstName lastName =>
      obtain ⟨r, h, hperform⟩ := perform_signUp s email password firstName lastName w
      cases h with
      | refused e hq => exact .same _ (hq.users ▸ hv)
      | created p user r he hf hp hfirst hlast hh hid ha hc hu hl ht hn ho hs hus hr =>
        rw [hus] at hv
        rcases List.mem_append.mp hv with hv | hv
        · exact .same _ hv
        · rw [List.mem_singleton.mp hv]
          subst hf
          refine .registered email p firstName lastName user ha hid he ht hp hh ?_
          rcases hr with ⟨-, rfl⟩ | ⟨hout, -⟩
          · exact .inr hperform
          · exact .inl hout
    | login email password =>
      obtain ⟨r, h, -⟩ := perform_login (s := s) hk email password
      cases h with
      | refused e hq => exact .same _ (hq.users ▸ hv)
      | started a p user x y i j d he hp hu hc ha hi hj hd hn ho hs hus =>
        rcases hus with ⟨-, hus⟩ | hus
        · exact .same _ (hus ▸ hv)
        · rw [hus] at hv
          obtain ⟨u, hu, rfl⟩ := mem_modify hv
          split
          · exact .kept _ u _ hu ⟨rfl, rfl, rfl, rfl, rfl⟩ rfl (.inl rfl)
          · exact .same _ hu
    | forgotPassword email =>
      obtain ⟨r, h, -⟩ := perform_forgotPassword s email w
      cases h with
      | refused e hq => exact .same _ (hq.users ▸ hv)
      | unknown a he hu hq => exact .same _ (hq.users ▸ hv)
      | sent a user d he hu hd hn hus => exact .same _ (hus ▸ hv)
    | resetPassword token newPassword =>
      obtain ⟨r, h, hperform⟩ := perform_resetPassword s token newPassword w
      cases h with
      | refused e hq => exact .same _ (hq.users ▸ hv)
      | spent k e hk hn hus => exact .same _ (hus ▸ hv)
      | changed k p id hash user r htoken hf hp hl hm hh hu hn ho hus hs =>
        rw [hus] at hv
        obtain ⟨u, hu', rfl⟩ := mem_modify hv
        split
        · next hid =>
          obtain ⟨t, rfl, rfl⟩ := field_of_token htoken
          obtain ⟨-, rfl⟩ := Users.mem_of_withId? hu
          subst hf
          rw [← hid] at hl hm
          refine .reset t p u _ hu' ⟨rfl, rfl, rfl, rfl, rfl⟩ rfl hp hl hm hh ?_
          rcases hs with ⟨-, hout, -⟩ | ⟨-, a, rfl⟩
          · exact .inl hout
          · exact .inr ⟨a, hperform⟩
        · exact .same _ hu'
    | validateToken accessToken =>
      exact .same _ ((perform_validateToken s accessToken w).users ▸ hv)
  | advance d =>
    simp only [next, advance] at hv
    split at hv <;> exact .same _ hv
  | setSystem t => exact .same _ hv
  | outages o => exact .same _ hv
  | activate email active =>
    obtain ⟨u, hu, rfl⟩ := List.mem_map.mp hv
    split
    · exact .kept _ u _ hu ⟨rfl, rfl, rfl, rfl, rfl⟩ rfl (.inr ⟨email, active, rfl⟩)
    · exact .same _ hu

/-- Nobody changes an account by hand. -/
def Event.IsHandsOff : Event → Prop
  | .activate .. => False
  | _ => True

instance : DecidablePred Event.IsHandsOff
  | .activate .. => .isFalse id
  | .operation _ | .advance _ | .setSystem _ | .outages _ => .isTrue trivial

theorem Users.SameIdentity.trans {t : User} (h : SameIdentity t u) {x : User}
    (k : SameIdentity u x) : SameIdentity t x :=
  ⟨k.id.trans h.id, k.email.trans h.email, k.firstName.trans h.firstName,
    k.lastName.trans h.lastName, k.createdAt.trans h.createdAt⟩

theorem row_lasts (hk : w.users.Keyed) {e : Event} (he : e.IsHandsOff) (hu : u ∈ w.users) :
    ∃ x ∈ (w.next s e).users, Users.SameIdentity u x ∧ x.isActive = u.isActive := by
  obtain ⟨x, hx, same⟩ := Users.row_survives (next_evolves s hk e) hu
  refine ⟨x, hx, same, ?_⟩
  cases row_step hk e hx with
  | kept _ y _ hy hsame hhash hactive =>
    have heq : y = u := hk.eq_of_id hy hu (hsame.id.symm.trans same.id)
    rcases hactive with hactive | ⟨email, active, rfl⟩
    · rw [hactive, heq]
    · exact he.elim
  | reset t p y _ hy hsame hactive =>
    have heq : y = u := hk.eq_of_id hy hu (hsame.id.symm.trans same.id)
    rw [hactive, heq]
  | registered email p first last _ hactive hid hemail htaken =>
    exact absurd same.id.symm (Users.not_taken htaken u hu).2

theorem row_lasts_after (hk : w.users.Keyed) {later : List Event}
    (handsOff : ∀ e ∈ later, e.IsHandsOff) (hu : u ∈ w.users) :
    ∃ x ∈ (w.after s later).users, Users.SameIdentity u x ∧ x.isActive = u.isActive := by
  induction later generalizing w u with
  | nil => exact ⟨u, hu, .refl u, rfl⟩
  | cons e later ih =>
    obtain ⟨x, hx, same, active⟩ := row_lasts (s := s) hk (handsOff e (.head _)) hu
    have hnext : (w.next s e).users.Keyed := hk.evolves (next_evolves s hk e)
    obtain ⟨y, hy, same', active'⟩ := ih hnext (fun e he => handsOff e (.tail _ he)) hx
    exact ⟨y, hy, same.trans same', active'.trans active⟩

theorem Users.Keyed.run (hk : w.users.Keyed) (later : List Event) :
    (w.after s later).users.Keyed := by
  induction later generalizing w with
  | nil => exact hk
  | cons e later ih => exact ih (hk.evolves (next_evolves s hk e))

end Accounts
