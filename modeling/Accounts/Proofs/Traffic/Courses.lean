import Accounts.Proofs.Traffic.SingleUse

/-! # The courses of a login and a reset

A login that succeeds reads a row, checks the password against it, issues two tokens and registers
the second one; after that it only records itself. A reset that succeeds takes its token, overwrites
the hash of a row and then revokes what was registered for its user.
-/
namespace Accounts

open Plan

variable {s : Service}

namespace Exchange

def reads (address : String) (u : User) : Exchange :=
  ⟨.findByEmail (some address), .ok (some u)⟩

def registers (id token : String) (ttl : Duration) : Exchange :=
  ⟨.putSession (Session.refreshKey id) token ttl, .ok ()⟩

def spends (token : LooseText) (id : String) : Exchange :=
  ⟨.popSession (Session.resetKey token), .ok (some id)⟩

def overwrites (id hash : String) : Exchange :=
  ⟨.updatePassword (some id) (some hash), .ok true⟩

def revokes (id : String) : Exchange :=
  ⟨.deleteSession (Session.refreshKey id), .ok ()⟩

def matched? : Exchange → Option String
  | ⟨.checkPassword stored _, .ok true⟩ => some stored
  | _ => none

def spent? : Exchange → Option String
  | ⟨.popSession _, .ok (some id)⟩ => some id
  | _ => none

def stored? : Exchange → Option String
  | ⟨.updatePassword _ (some hash), .ok true⟩ => some hash
  | _ => none

end Exchange

/-- The calls of a login after it has read the row and before it registers a token. -/
def Call.Prepares : Call → Prop
  | .checkPassword .. | .issueToken .. | .now => True
  | _ => False

def Call.Redeems : Call → Prop
  | .popSession _ | .drawSalt => True
  | _ => False

def Call.Records : Call → Prop
  | .updateLastLogin .. | .note _ => True
  | _ => False

/-- The exchanges of a login that succeeds. -/
structure SignsIn (l : LoggedIn) (h : List Exchange) (address : String) (u : User)
    (ttl : Duration) (mid rest : List Exchange) : Prop where
  made : h = .reads address u :: (mid ++ .registers u.id l.refreshToken ttl :: rest)
  matched : mid.filterMap Exchange.matched? = [u.passwordHash]
  prepares : ∀ x ∈ mid, x.call.Prepares
  records : ∀ x ∈ rest, x.call.Records
  user : l.user = u.toPublic

def SignsInIfOk (h : List Exchange) (r : Except Failure LoggedIn) : Prop :=
  ∀ l, r = .ok l → ∃ address u ttl mid rest, SignsIn l h address u ttl mid rest

theorem startSession_signsIn (s : Service) (u : User) (address password : String) :
    (s.startSession u).Obeys (fun _ _ => True) SignsInIfOk
      [.reads address u, ⟨.checkPassword u.passwordHash password, .ok true⟩] := by
  apply obeys_bind
  refine ⟨trivial, fun access => ?_⟩
  cases access with
  | error b => exact fun l h => nomatch h
  | ok access =>
  apply obeys_bind
  refine ⟨trivial, fun refresh => ?_⟩
  cases refresh with
  | error b => exact fun l h => nomatch h
  | ok refresh =>
  refine obeys_ask trivial fun now => ?_
  refine obeys_ask trivial fun registered => ?_
  cases registered with
  | error e => exact fun l h => nomatch h
  | ok =>
  have signed : ∀ rest : List Exchange, (∀ x ∈ rest, x.call.Records) →
      SignsInIfOk ([.reads address u, ⟨.checkPassword u.passwordHash password, .ok true⟩,
          ⟨.issueToken s.authority u.id s.lifetimes.access Token.accessType, .ok access⟩,
          ⟨.issueToken s.authority u.id s.lifetimes.refresh Token.refreshType, .ok refresh⟩,
          ⟨.now, now⟩, .registers u.id refresh.token (refresh.expiresAt - now)] ++ rest)
        (.ok ⟨access.token, refresh.token, Time.wholeSeconds s.lifetimes.access, u.toPublic⟩) := by
    intro rest hrest l hl
    cases hl
    refine ⟨address, u, refresh.expiresAt - now, [_, _, _, _], rest, rfl, rfl, ?_, hrest, rfl⟩
    simp [Call.Prepares]
  refine obeys_ask trivial fun recorded => ?_
  match recorded with
  | .ok _ => exact signed [_] (by simp [Call.Records])
  | .error (.broken b) => exact fun l h => nomatch h
  | .error (.fault f) =>
    refine obeys_ask trivial fun noted => ?_
    exact signed [_, _] (by simp [Call.Records])

theorem login_signsIn (s : Service) (e p : Option LooseText) :
    (s.login e p).Obeys (fun _ _ => True) SignsInIfOk [] := by
  refine obeys_valid (fun _ _ h => nomatch h) fun address _ => ?_
  refine obeys_valid (fun _ _ h => nomatch h) fun password _ => ?_
  refine obeys_ask trivial fun found => ?_
  cases found with
  | error e => exact fun l h => nomatch h
  | ok found =>
  cases found with
  | none =>
    refine obeys_bind (p := s.dummyHash) ?_
    refine obeys_of_asks (dummyHash_asks s) (fun _ _ _ _ => trivial) fun k dummy _ => ?_
    cases dummy with
    | error e => exact fun l h => nomatch h
    | ok dummy =>
    refine obeys_bind ?_
    refine obeys_of_asks (checkPassword_asks dummy password) (fun _ _ _ _ => trivial) ?_
    intro k matched _
    cases matched <;> exact fun l h => nomatch h
  | some u =>
  have corrupted : ∀ c h, Plan.Obeys (fun _ _ => True) SignsInIfOk h (do
      Plan.log (.corruptedHash u.id c)
      .fail .corruptedCredentials) :=
    fun c h => obeys_ask trivial fun _ l hl => nomatch hl
  refine obeys_bind (p := Service.checkPassword u.passwordHash password) ?_
  unfold Service.checkPassword
  split
  · next presented _ =>
    refine ⟨trivial, fun matched => ?_⟩
    rcases matched with c | _ | _
    · exact corrupted c _
    · exact fun l h => nomatch h
    · change Plan.Obeys _ _ _ (if u.isActive then _ else _)
      split
      · exact startSession_signsIn s u address presented
      · exact fun l h => nomatch h
  · split
    · exact fun l h => nomatch h
    · exact corrupted _ _

/-- The exchanges of a reset that succeeds. -/
structure Resets (h : List Exchange) (token : LooseText) (id hash : String)
    (salts : List Exchange) : Prop where
  made : h = .spends token id ::
    (salts ++ [.overwrites id hash, .revokes id, ⟨.note (.passwordReset id), ()⟩])
  salted : ∀ x ∈ salts, x.call = .drawSalt

theorem Resets.redeems {h : List Exchange} {token : LooseText} {id hash : String}
    {salts : List Exchange} (hr : Resets h token id hash salts) {x : Exchange}
    (hx : x ∈ .spends token id :: salts) : x.call.Redeems := by
  rcases List.mem_cons.mp hx with rfl | hx
  · trivial
  · rw [hr.salted x hx]
    trivial

theorem Resets.filterMap_salts {α : Type} {f : Exchange → Option α} {h : List Exchange}
    {token : LooseText} {id hash : String} {salts : List Exchange}
    (hr : Resets h token id hash salts) (hf : ∀ a, f ⟨.drawSalt, a⟩ = none) :
    salts.filterMap f = [] := by
  rw [List.filterMap_eq_nil_iff]
  rintro ⟨c, a⟩ hx
  obtain rfl := hr.salted _ hx
  exact hf a

def ResetsIfOk (h : List Exchange) (r : Except Failure Status) : Prop :=
  ∀ a, r = .ok a → ∃ token id hash salts, Resets h token id hash salts

theorem resetPassword_resets (s : Service) (t p : Option LooseText) :
    (s.resetPassword t p).Obeys (fun _ _ => True) ResetsIfOk [] := by
  refine obeys_valid (fun _ _ h => nomatch h) fun token _ => ?_
  apply obeys_bind
  refine obeys_of_silent (newPassword_asks p) fun password => ?_
  cases password with
  | error e => exact fun a h => nomatch h
  | ok password =>
  refine ⟨trivial, fun taken => ?_⟩
  rcases taken with e | _ | id
  · exact fun a h => nomatch h
  · exact fun a h => nomatch h
  · refine obeys_bind (p := s.hash password) ?_
    refine obeys_of_asks (P := (· = .drawSalt)) (hash_asks s password rfl)
      (fun _ _ _ _ => trivial) ?_
    rintro h hash ⟨salts, rfl, salted⟩
    cases hash with
    | error e => exact fun a h => nomatch h
    | ok hash =>
    refine ⟨trivial, fun updated => ?_⟩
    rcases updated with e | _ | _
    · exact fun a h => nomatch h
    · exact fun a h => nomatch h
    · refine ⟨trivial, fun deleted => ?_⟩
      cases deleted with
      | error e => exact fun a h => nomatch h
      | ok =>
      refine obeys_ask trivial fun noted a ha => ?_
      refine ⟨token, id, hash, salts, ?_, salted⟩
      simp [Exchange.spends, Exchange.overwrites, Exchange.revokes]

theorem Plan.Obeys.mono {α : Type} {C : List Exchange → Call → Prop}
    {D E : List Exchange → Except Failure α → Prop} {h : List Exchange} {p : Plan α}
    (hp : p.Obeys C D h) (hD : ∀ k r, D k r → E k r) : p.Obeys C E h := by
  induction p generalizing h with
  | done r => exact hD h r hp
  | call c next ih => exact ⟨hp.1, fun a => ih a (hp.2 a)⟩

theorem Traffic.Orderly.completes {α : Type} {t : Traffic} {i : Nat} (h : t.Orderly s)
    {op : Operation} {p : Plan α} {f : α → Answer} {b : Answer}
    {D : List Exchange → Except Failure α → Prop}
    (hi : t.requests[i]? = some ⟨op, .done (.ok b)⟩) (hplan : op.plan s = p.mapResult f)
    (hp : p.Obeys (fun _ _ => True) D []) : ∃ a, b = f a ∧ D (t.made i) (.ok a) := by
  have hreached := h.reached i _ hi
  dsimp only at hreached
  rw [hplan] at hreached
  have hends : (p.mapResult f).Obeys (fun _ _ => True)
      (fun k r => ∀ b, r = .ok b → ∃ a, b = f a ∧ D k (.ok a)) [] := by
    refine obeys_mapResult (hp.mono ?_)
    intro k r hD b hb
    cases r with
    | error e => cases hb
    | ok a =>
      cases hb
      exact ⟨a, rfl, hD⟩
  exact (hreached.obeys hends).1 b rfl

end Accounts
