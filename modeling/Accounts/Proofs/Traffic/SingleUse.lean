import Accounts.Proofs.Session.ResetTokens
import Accounts.Proofs.Traffic.Turns

/-! # No double success

However the calls of requests are interleaved, a reset token changes at most one password, and an
email is registered at most once. A token that was registered is in the store until one request
takes it, and is not registered again; a row that was added keeps its email in use.
-/
namespace Accounts

open World

variable {s : Service} {w : World}

namespace Exchange

def Puts (k : LooseText) (x : Exchange) : Prop :=
  ∃ value ttl a, x = ⟨.putSession (Session.resetKey k) value ttl, a⟩

/-- The token was in the store, and was taken out. -/
def Takes (k : LooseText) (x : Exchange) : Prop :=
  ∃ id, x = ⟨.popSession (Session.resetKey k), .ok (some id)⟩

def Adds (email : String) (x : Exchange) : Prop :=
  ∃ d u, x = ⟨.createUser d, .ok u⟩ ∧ d.email = some email

theorem takes_of_call {k : LooseText} {c : Call} {a : c.Answer} (h : Takes k ⟨c, a⟩) :
    c = .popSession (Session.resetKey k) := by
  obtain ⟨id, h⟩ := h
  exact congrArg Exchange.call h

theorem takes_entry {k : LooseText} {c : Call} (h : Takes k ⟨c, (w.answer s c).2⟩) :
    (∃ entry, w.sessions.find? (Session.resetKey k) = some entry) ∧
      (w.answer s c).1.sessions.find? (Session.resetKey k) = none := by
  obtain rfl := takes_of_call h
  obtain ⟨id, h⟩ := h
  exact entry_of_pop (eq_of_heq (Exchange.mk.inj h).2)

theorem adds_row {email : String} {c : Call} (h : Adds email ⟨c, (w.answer s c).2⟩) :
    ∃ u, u.email = email ∧ w.users.isTaken u = false ∧ (w.answer s c).1.users = w.users ++ [u] := by
  obtain ⟨d, u, h, hemail⟩ := h
  obtain rfl : c = .createUser d := congrArg Exchange.call h
  obtain ⟨hd, htaken, husers⟩ := answer_createUser_ok (eq_of_heq (Exchange.mk.inj h).2)
  refine ⟨u, ?_, htaken, husers⟩
  rw [hd] at hemail
  exact Option.some.inj hemail

end Exchange

theorem Operation.Allows.put_reset {op : Operation} {h : List Exchange} {k : LooseText}
    {value : String} {ttl : Duration}
    (ha : op.Allows h (.putSession (Session.resetKey k) value ttl)) :
    ∃ before n, ∃ x : Vector UInt8 n, h = before ++ [⟨.drawSecret n, x⟩] ∧
      k = LooseText.ofString (Service.secretText x) ∧ ∀ y ∈ before, y.call.IsFree := by
  rcases ha.put with ⟨id, hkey⟩ | ⟨before, n, x, rfl, hkey, hfree⟩
  · exact (resetKey_ne_refreshKey k id hkey).elim
  · exact ⟨before, n, x, rfl, resetKey_injective hkey, hfree⟩

namespace Traffic

variable {t u : Traffic} {i j : Nat} {k : LooseText} {P : Exchange → Prop}

def Had (t : Traffic) (i : Nat) (P : Exchange → Prop) : Prop :=
  ∃ x, (i, x) ∈ t.trace ∧ P x

theorem had_answered {world : World} {requests : List Request} {x : Exchange} :
    Had ⟨world, requests, t.trace ++ [(i, x)]⟩ j P ↔ t.Had j P ∨ (i = j ∧ P x) := by
  constructor
  · rintro ⟨y, hy, hP⟩
    rcases List.mem_append.mp hy with hy | hy
    · exact .inl ⟨y, hy, hP⟩
    · cases List.mem_singleton.mp hy
      exact .inr ⟨rfl, hP⟩
  · rintro (⟨y, hy, hP⟩ | ⟨rfl, hP⟩)
    · exact ⟨y, List.mem_append_left _ hy, hP⟩
    · exact ⟨x, List.mem_append_right _ (List.mem_singleton.mpr rfl), hP⟩

theorem once_answered {world : World} {requests : List Request} {x : Exchange}
    (h : ∀ m n, t.Had m P → t.Had n P → m = n) (first : P x → ∀ n, ¬ t.Had n P) (m n : Nat)
    (hm : Had ⟨world, requests, t.trace ++ [(i, x)]⟩ m P)
    (hn : Had ⟨world, requests, t.trace ++ [(i, x)]⟩ n P) : m = n := by
  rcases had_answered.mp hm with mbefore | ⟨him, now⟩
  · rcases had_answered.mp hn with nbefore | ⟨-, now⟩
    · exact h m n mbefore nbefore
    · exact (first now m mbefore).elim
  · rcases had_answered.mp hn with nbefore | ⟨hin, -⟩
    · exact (first now n nbefore).elim
    · exact him.symm.trans hin

theorem eq_of_filterMap_nodup {α β : Type} {f : α → Option β} {l : List α} {a b : α} {c : β}
    (h : (l.filterMap f).Nodup) (ha : a ∈ l) (hb : b ∈ l) (hfa : f a = some c)
    (hfb : f b = some c) : a = b := by
  rw [List.Nodup, List.pairwise_filterMap] at h
  apply Users.eq_of_pairwise h ha hb
  · intro hne
    exact hne c hfa c hfb rfl
  · intro hne
    exact hne c hfb c hfa rfl

theorem drawn_once (fresh : t.secrets.Nodup) {n m : Nat} {x : Vector UInt8 n} {y : Vector UInt8 m}
    (hx : (i, ⟨.drawSecret n, x⟩) ∈ t.trace) (hy : (j, ⟨.drawSecret m, y⟩) ∈ t.trace)
    (heq : LooseText.ofString (Service.secretText x) = LooseText.ofString (Service.secretText y)) :
    i = j := by
  have hsecret : Service.secretText y = Service.secretText x := LooseText.ofString_injective heq.symm
  have hpair := eq_of_filterMap_nodup fresh hx hy rfl (congrArg some hsecret)
  exact congrArg Prod.fst hpair

theorem Orderly.not_put_again (h : Orderly s t) (fresh : t.secrets.Nodup) {op : Operation}
    {value : String} {ttl : Duration} {next : Except Failure Unit → Plan Answer}
    (hi : t.requests[i]? = some ⟨op, .call (.putSession (Session.resetKey k) value ttl) next⟩) :
    ¬ t.Had j (Exchange.Puts k) := by
  rintro ⟨y, hy, value', ttl', a, rfl⟩
  obtain ⟨before, n, x, hmade, hx, hfree⟩ := (h.obeys hi).1.put_reset
  obtain ⟨r, earlier, -, hearlier, hallows⟩ := h.allowed hy
  obtain ⟨others, m, z, rfl, hz, -⟩ := hallows.put_reset
  have drew : (i, ⟨.drawSecret n, x⟩) ∈ t.trace := by
    apply mem_made.mp
    rw [hmade]
    exact List.mem_append_right _ (List.mem_singleton.mpr rfl)
  have drew' := hearlier _ (List.mem_append_right _ (List.mem_singleton.mpr rfl))
  -- Both have drawn the token, so it is one request, and before it drew it had registered nothing.
  obtain rfl := drawn_once fresh drew drew' (hx.symm.trans hz)
  have hput := mem_made.mpr hy
  rw [hmade] at hput
  rcases List.mem_append.mp hput with hput | hput
  · exact hfree _ hput
  · cases List.mem_singleton.mp hput

/-- A token in the store was registered and not taken, and one request at most takes a token. -/
structure Tickets (t : Traffic) : Prop where
  held : ∀ k entry, t.world.sessions.find? (Session.resetKey k) = some entry →
    (∃ i, t.Had i (Exchange.Puts k)) ∧ ∀ i, ¬ t.Had i (Exchange.Takes k)
  taken : ∀ k i, t.Had i (Exchange.Takes k) → ∃ j, t.Had j (Exchange.Puts k)
  once : ∀ k i j, t.Had i (Exchange.Takes k) → t.Had j (Exchange.Takes k) → i = j

theorem not_had_initial (now : Instant) (i : Nat) (P : Exchange → Prop) :
    ¬ (initial now).Had i P := by
  rintro ⟨x, hx, -⟩
  cases hx

theorem Tickets.start (now : Instant) : Tickets (initial now) where
  held _ _ h := nomatch h
  taken _ i h := (not_had_initial now i _ h).elim
  once _ i _ h := (not_had_initial now i _ h).elim

theorem Tickets.step (h : Tickets t) (order : Orderly s t) (fresh : t.secrets.Nodup)
    (hs : Step s t u) : Tickets u := by
  cases hs with
  | idle => exact h
  | arrived op => exact ⟨h.held, h.taken, h.once⟩
  | waited w hw =>
    obtain ⟨now, system, rfl⟩ := hw
    exact ⟨h.held, h.taken, h.once⟩
  | answered i op c next hi =>
    have found : ∀ k, Exchange.Takes k ⟨c, (t.world.answer s c).2⟩ →
        (∃ j, t.Had j (Exchange.Puts k)) ∧ ∀ j, ¬ t.Had j (Exchange.Takes k) := by
      intro k htakes
      obtain ⟨entry, hentry⟩ := (Exchange.takes_entry htakes).1
      exact h.held k entry hentry
    constructor
    · intro k entry hentry
      rcases entry_of_answer hentry with hold | ⟨value, ttl, rfl⟩
      -- If this call had taken the token, there would be no entry now.
      · obtain ⟨⟨j, hput⟩, hkept⟩ := h.held k entry hold
        refine ⟨⟨j, had_answered.mpr (.inl hput)⟩, ?_⟩
        intro m hm
        rcases had_answered.mp hm with before | ⟨-, now⟩
        · exact hkept m before
        · rw [(Exchange.takes_entry now).2] at hentry
          cases hentry
      -- Had it been taken before, it would have been registered before.
      · refine ⟨⟨i, had_answered.mpr (.inr ⟨rfl, value, ttl, _, rfl⟩)⟩, ?_⟩
        intro m hm
        rcases had_answered.mp hm with before | ⟨-, now⟩
        · obtain ⟨j, hput⟩ := h.taken k m before
          exact order.not_put_again fresh hi hput
        · cases Exchange.takes_of_call now
    · intro k m hm
      rcases had_answered.mp hm with before | ⟨-, now⟩
      · obtain ⟨j, hput⟩ := h.taken k m before
        exact ⟨j, had_answered.mpr (.inl hput)⟩
      · obtain ⟨j, hput⟩ := (found k now).1
        exact ⟨j, had_answered.mpr (.inl hput)⟩
    · intro k
      exact once_answered (h.once k) fun now => (found k now).2

theorem fresh_of_step (hs : Step s t u) (fresh : u.secrets.Nodup) : t.secrets.Nodup := by
  cases hs with
  | idle => exact fresh
  | arrived op => exact fresh
  | waited w hw => exact fresh
  | answered i op c next hi =>
    rw [secrets, List.filterMap_append] at fresh
    exact (List.nodup_append.mp fresh).1

theorem fresh_of_after {turns : List Turn} (fresh : (t.after s turns).secrets.Nodup) :
    t.secrets.Nodup := by
  induction turns generalizing t with
  | nil => exact fresh
  | cons turn turns ih => exact fresh_of_step (next_step s t turn) (ih fresh)

theorem Tickets.run (h : Tickets t) (order : Orderly s t) (turns : List Turn)
    (fresh : (t.after s turns).secrets.Nodup) : Tickets (t.after s turns) := by
  induction turns generalizing t with
  | nil => exact h
  | cons turn turns ih =>
    have hs := next_step s t turn
    have hfresh : t.secrets.Nodup := fresh_of_step hs (fresh_of_after fresh)
    exact ih (h.step order hfresh hs) (order.step hs) fresh

/-- No command fails, an email with a row stays in use, and a row is refused only for that. -/
structure Registry (t : Traffic) : Prop where
  working : t.world.outages = .none
  keyed : t.world.users.Keyed
  present : ∀ email i, t.Had i (Exchange.Adds email) → ∃ v ∈ t.world.users, v.email = email
  refused : ∀ i d e, (i, ⟨.createUser d, .error e⟩) ∈ t.trace → e = .fault .emailTaken
  once : ∀ email i j, t.Had i (Exchange.Adds email) → t.Had j (Exchange.Adds email) → i = j

theorem Registry.start (now : Instant) : Registry (initial now) where
  working := rfl
  keyed := Users.keyed_nil
  present _ i h := (not_had_initial now i _ h).elim
  refused _ _ _ h := nomatch h
  once _ i _ h := (not_had_initial now i _ h).elim

theorem Registry.step (h : Registry t) (hs : Step s t u) : Registry u := by
  cases hs with
  | idle => exact h
  | arrived op => exact ⟨h.working, h.keyed, h.present, h.refused, h.once⟩
  | waited w hw =>
    obtain ⟨now, system, rfl⟩ := hw
    exact ⟨h.working, h.keyed, h.present, h.refused, h.once⟩
  | answered i op c next hi =>
    have evolves := answer_evolves s t.world c
    have unused : ∀ email, Exchange.Adds email ⟨c, (t.world.answer s c).2⟩ →
        ∀ j, ¬ t.Had j (Exchange.Adds email) := by
      intro email hadds j hj
      obtain ⟨u, rfl, htaken, -⟩ := Exchange.adds_row hadds
      obtain ⟨v, hv, hemail⟩ := h.present u.email j hj
      exact (Users.not_taken htaken v hv).1 hemail
    constructor
    · exact (answer_outages s t.world c).trans h.working
    · exact h.keyed.evolves evolves
    · intro email j hj
      rcases had_answered.mp hj with before | ⟨-, now⟩
      · obtain ⟨v, hv, rfl⟩ := h.present email j before
        obtain ⟨v', hv', hsame⟩ := Users.row_survives evolves hv
        exact ⟨v', hv', hsame.email⟩
      · obtain ⟨u, hu, -, husers⟩ := Exchange.adds_row now
        refine ⟨u, ?_, hu⟩
        change u ∈ (t.world.answer s c).1.users
        rw [husers]
        exact List.mem_append_right _ (List.mem_singleton.mpr rfl)
    · intro j d e hj
      rcases List.mem_append.mp hj with before | now
      · exact h.refused j d e before
      · have hx := congrArg Prod.snd (List.mem_singleton.mp now)
        obtain rfl : .createUser d = c := congrArg Exchange.call hx
        exact answer_createUser_error h.working (eq_of_heq (Exchange.mk.inj hx).2).symm
    · intro email
      exact once_answered (h.once email) (unused email)

theorem Registry.run (h : Registry t) (turns : List Turn) : Registry (t.after s turns) := by
  induction turns generalizing t with
  | nil => exact h
  | cons turn turns ih => exact ih (h.step (next_step s t turn))

def Carries (t : Traffic) (i : Nat) (k : LooseText) : Prop :=
  ∃ token password, t.operation? i = some (.resetPassword token password) ∧
    Validation.token token = .ok k

def Registers (t : Traffic) (i : Nat) (email : String) : Prop :=
  ∃ field p f l, t.operation? i = some (.signUp field p f l) ∧ Validation.email field = .ok email

def Succeeds (t : Traffic) (i : Nat) : Prop :=
  ∃ a, t.answer? i = some (.ok a)

instance (t : Traffic) (i : Nat) : Decidable (t.Succeeds i) :=
  match h : t.answer? i with
  | some (.ok a) => isTrue ⟨a, h⟩
  | some (.error _) => isFalse fun ⟨_, ha⟩ => nomatch h.symm.trans ha
  | none => isFalse fun ⟨_, ha⟩ => nomatch h.symm.trans ha

theorem asked_iff {sort : Call → Bool} :
    t.asked i sort = true ↔ ∃ x, (i, x) ∈ t.trace ∧ sort x.call = true := by
  rw [asked, List.any_eq_true]
  constructor
  · rintro ⟨⟨j, x⟩, hx, h⟩
    rw [Bool.and_eq_true, beq_iff_eq] at h
    obtain ⟨rfl, hsort⟩ := h
    exact ⟨x, hx, hsort⟩
  · rintro ⟨x, hx, hsort⟩
    refine ⟨(i, x), hx, ?_⟩
    rw [Bool.and_eq_true, beq_iff_eq]
    exact ⟨rfl, hsort⟩

theorem asked_createUser (h : t.asked i Call.createsUser = true) :
    ∃ d a, (i, ⟨.createUser d, a⟩) ∈ t.trace := by
  obtain ⟨⟨c, a⟩, hx, hc⟩ := asked_iff.mp h
  cases c with
  | createUser d => exact ⟨d, a, hx⟩
  | _ => cases hc

theorem asked_updatePassword (h : t.asked i Call.changesPassword = true) :
    ∃ id hash a, (i, ⟨.updatePassword id hash, a⟩) ∈ t.trace := by
  obtain ⟨⟨c, a⟩, hx, hc⟩ := asked_iff.mp h
  cases c with
  | updatePassword id hash => exact ⟨id, hash, a, hx⟩
  | _ => cases hc

theorem request_of_operation? {op : Operation} (h : t.operation? i = some op) :
    ∃ rest, t.requests[i]? = some ⟨op, rest⟩ := by
  rw [operation?, Option.map_eq_some_iff] at h
  obtain ⟨⟨op, rest⟩, hi, rfl⟩ := h
  exact ⟨rest, hi⟩

theorem rest_of_answer? {op : Operation} {rest : Plan Answer} {r : Except Failure Answer}
    (hi : t.requests[i]? = some ⟨op, rest⟩) : t.answer? i = some r ↔ rest = .done r := by
  rw [answer?, hi]
  cases rest with
  | done a =>
    constructor
    · intro h
      rw [Option.some.inj h]
    · intro h
      cases h
      rfl
  | call c next =>
    constructor
    · intro h
      cases h
    · intro h
      cases h

theorem Carries.takes (hc : t.Carries i k) (order : Orderly s t)
    (hu : t.asked i Call.changesPassword = true) : t.Had i (Exchange.Takes k) := by
  obtain ⟨token, password, hop, hk⟩ := hc
  obtain ⟨rest, hi⟩ := request_of_operation? hop
  obtain ⟨id, hash, a, hx⟩ := asked_updatePassword hu
  obtain ⟨r, before, hr, hbefore, hallows⟩ := order.allowed hx
  obtain ⟨token', password', k', user, hsame, hk', hpop⟩ := hallows.changed
  rw [hi] at hr
  cases hr
  cases hsame
  rw [hk] at hk'
  cases hk'
  exact ⟨_, hbefore _ hpop, user, rfl⟩

theorem Carries.updates (hc : t.Carries i k) (order : Orderly s t) (hs : t.Succeeds i) :
    t.asked i Call.changesPassword = true := by
  obtain ⟨token, password, hop, -⟩ := hc
  obtain ⟨rest, hi⟩ := request_of_operation? hop
  obtain ⟨a, ha⟩ := hs
  obtain rfl := (rest_of_answer? hi).mp ha
  obtain ⟨id, hash, updated, hupdate⟩ := Operation.Ends.updated (order.obeys hi)
  exact asked_iff.mpr ⟨_, mem_made.mp hupdate, rfl⟩

theorem Registers.adds {email : String} {d : Draft} {user : User} (hr : t.Registers i email)
    (order : Orderly s t) (hx : (i, ⟨.createUser d, .ok user⟩) ∈ t.trace) :
    t.Had i (Exchange.Adds email) := by
  obtain ⟨field, p, f, l, hop, hemail⟩ := hr
  obtain ⟨rest, hi⟩ := request_of_operation? hop
  obtain ⟨r, before, hr, -, hallows⟩ := order.allowed hx
  obtain ⟨field', p', f', l', address, hsame, haddress, hd⟩ := hallows.created
  rw [hi] at hr
  cases hr
  cases hsame
  rw [hemail] at haddress
  cases haddress
  exact ⟨_, hx, d, user, rfl, hd⟩

theorem Registers.succeeds {email : String} (hr : t.Registers i email) (order : Orderly s t)
    (hs : t.Succeeds i) : t.Had i (Exchange.Adds email) := by
  have hregisters := hr
  obtain ⟨field, p, f, l, hop, -⟩ := hr
  obtain ⟨rest, hi⟩ := request_of_operation? hop
  obtain ⟨a, ha⟩ := hs
  obtain rfl := (rest_of_answer? hi).mp ha
  obtain ⟨d, user, hcreated⟩ := Operation.Ends.accepted (order.obeys hi)
  exact hregisters.adds order (mem_made.mp hcreated)

theorem Registers.refused {email : String} {d : Draft} {e : Failure} (hr : t.Registers i email)
    (order : Orderly s t) (registry : Registry t)
    (hx : (i, ⟨.createUser d, .error e⟩) ∈ t.trace) :
    t.answer? i = some (.error (.fault .emailTaken)) := by
  obtain ⟨field, p, f, l, hop, -⟩ := hr
  obtain ⟨rest, hi⟩ := request_of_operation? hop
  have hmade := mem_made.mpr hx
  rw [rest_of_answer? hi]
  cases rest with
  | call c next => exact (Operation.Allows.unrefused (order.obeys hi).1 hmade ⟨d, rfl⟩).elim
  | done r =>
    obtain ⟨d', e', hlast, rfl⟩ := Operation.Ends.refusal (order.obeys hi) hmade ⟨d, rfl⟩
    rw [registry.refused i d' e' (mem_made.mp hlast)]

/-- Of the requests that carry a token one changes a password, and of the sign-ups that carry an
email one is accepted. -/
structure NoDoubleSuccess (t : Traffic) : Prop where
  updates : ∀ k i j, t.Carries i k → t.Carries j k →
    t.asked i Call.changesPassword → t.asked j Call.changesPassword → i = j
  resets : ∀ k i j, t.Carries i k → t.Carries j k → t.Succeeds i → t.Succeeds j → i = j
  signUps : ∀ email i j, t.Registers i email → t.Registers j email →
    t.Succeeds i → t.Succeeds j → i = j
  /-- Of any two that reached the table one was told that the email is taken. -/
  refused : ∀ email i j, t.Registers i email → t.Registers j email → i ≠ j →
    t.asked i Call.createsUser → t.asked j Call.createsUser →
    t.answer? i = some (.error (.fault .emailTaken)) ∨
      t.answer? j = some (.error (.fault .emailTaken))
  emails : t.world.users.Pairwise fun u v => u.email ≠ v.email

/-- Whatever comes between the calls of a request, and however the clock moves. -/
theorem no_double_success (s : Service) (start : Instant) (turns : List Turn)
    (fresh : ((initial start).after s turns).secrets.Nodup) :
    NoDoubleSuccess ((initial start).after s turns) := by
  have order := (Orderly.start s start).run turns
  have tickets := (Tickets.start start).run (Orderly.start s start) turns fresh
  have registry := (Registry.start start).run (s := s) turns
  constructor
  · intro k i j hi hj ui uj
    exact tickets.once k i j (hi.takes order ui) (hj.takes order uj)
  · intro k i j hi hj si sj
    have ui := hi.updates order si
    have uj := hj.updates order sj
    exact tickets.once k i j (hi.takes order ui) (hj.takes order uj)
  · intro email i j hi hj si sj
    exact registry.once email i j (hi.succeeds order si) (hj.succeeds order sj)
  · intro email i j hi hj hne ci cj
    obtain ⟨d, a, hx⟩ := asked_createUser ci
    obtain ⟨d', a', hy⟩ := asked_createUser cj
    cases a with
    | error e => exact .inl (hi.refused order registry hx)
    | ok user =>
      cases a' with
      | error e => exact .inr (hj.refused order registry hy)
      | ok user' =>
        have same := registry.once email i j (hi.adds order hx) (hj.adds order hy)
        exact (hne same).elim
  · exact registry.keyed.emails

/-- Two sign-ups with one email, a request for a reset and two resets with its token, the first of
each two overtaken by the second. -/
def race : List Turn :=
  [.arrive (.signUp (some "ann@example.org") (some "first password 1") (some "Ann") (some "Lee")),
    .arrive (.signUp (some " ann@example.org") (some "other password 1") (some "Anna") (some "Li")),
    .proceed 0, .proceed 1, .proceed 1, .proceed 0, .proceed 1,
    .arrive (.forgotPassword (some "ann@example.org")),
    .proceed 2, .proceed 2, .proceed 2, .proceed 2, .wait Time.minute,
    .arrive (.resetPassword (some ((World.initial 0).nextToken .small)) (some "second password 2")),
    .arrive (.resetPassword (some ((World.initial 0).nextToken .small)) (some "third password 3")),
    .proceed 4, .proceed 3, .proceed 4, .proceed 4, .proceed 4, .proceed 4]

def raced : Traffic :=
  (initial 0).after .small race

theorem race_has_one_winner : raced.secrets.Nodup ∧
    raced.Succeeds 1 ∧ raced.answer? 0 = some (.error (.fault .emailTaken)) ∧
    raced.Succeeds 4 ∧ raced.asked 3 Call.changesPassword = false := by
  obtain ⟨fresh, registered, reset, created, alsoCreated, changed⟩ : raced.secrets.Nodup ∧
      raced.Succeeds 1 ∧ raced.Succeeds 4 ∧ raced.asked 0 Call.createsUser ∧
      raced.asked 1 Call.createsUser ∧ raced.asked 4 Call.changesPassword := by
    decide
  have operation : ∀ i, raced.operation? i = (race.filterMap Turn.arrival?)[i]? :=
    operation?_after .small 0 race
  have single : NoDoubleSuccess raced := no_double_success .small 0 race fresh
  refine ⟨fresh, registered, ?_, reset, ?_⟩
  · have early : raced.Registers 0 "ann@example.org" :=
      ⟨_, _, _, _, operation 0, ok_of_toOption (by decide)⟩
    have late : raced.Registers 1 "ann@example.org" :=
      ⟨_, _, _, _, operation 1, ok_of_toOption (by decide)⟩
    rcases single.refused _ 0 1 early late (by decide) created alsoCreated with refused | refused
    · exact refused
    · obtain ⟨a, ha⟩ := registered
      rw [ha] at refused
      cases refused
  · have early : raced.Carries 3 ((World.initial 0).nextToken .small) :=
      ⟨_, _, operation 3, ok_of_toOption (by decide)⟩
    have late : raced.Carries 4 ((World.initial 0).nextToken .small) :=
      ⟨_, _, operation 4, ok_of_toOption (by decide)⟩
    rw [← Bool.not_eq_true]
    intro overtaken
    have same := single.updates _ 3 4 early late overtaken changed
    exact absurd same (by decide)

end Traffic

end Accounts
