import Accounts.Proofs.Service.Intermittent
import Mathlib.Data.List.Forall2
import Mathlib.Data.Option.Defs

/-! # Twins

Two worlds are twins if they differ at most in the password hashes of their rows. A plan that is
carried out in both makes the same calls, and the answers are alike up to the hashes in rows. Only a
comparison of a password with the hash of a row can tell twins apart.
-/
namespace Accounts

/-- The rows differ at most in their hashes. -/
def User.Twin (u u' : User) : Prop :=
  ∃ hash, u' = { u with passwordHash := hash }

def World.Twin (w w' : World) : Prop :=
  ∃ us, List.Forall₂ User.Twin w.users us ∧ w' = { w with users := us }

/-- Two plans end alike: with related results, or with the same failure. -/
inductive EndsAlike {α β : Type} (R : α → β → Prop) : Except Failure α → Except Failure β → Prop
  | ok (a : α) (b : β) : R a b → EndsAlike R (.ok a) (.ok b)
  | error (e : Failure) : EndsAlike R (.error e) (.error e)

variable {α β γ δ : Type} {s t : Service} {w w' : World} {us us' : Users} {o : Nat → Outages}

theorem EndsAlike.eq {r r' : Except Failure α} (h : EndsAlike Eq r r') : r = r' := by
  cases h with
  | ok a b hab => rw [hab]
  | error e => rfl

theorem User.Twin.refl (u : User) : u.Twin u := ⟨u.passwordHash, rfl⟩

theorem World.Twin.under (h : w.Twin w') (o : Outages) : (w.under o).Twin (w'.under o) := by
  obtain ⟨us, hus, rfl⟩ := h
  exact ⟨us, hus, rfl⟩

namespace Users

/-- The statements leave rows and answers that are alike, and the same notes. -/
structure StepsAlike (R : α → α → Prop) (x y : Outcome Users α) : Prop where
  state : List.Forall₂ User.Twin x.state y.state
  answer : EndsAlike R x.answer y.answer
  notes : y.notes = x.notes

theorem StepsAlike.onUsers {R : α → α → Prop} {x y : Outcome Users α} (h : StepsAlike R x y)
    (w : World) (us : Users) :
    (w.onUsers x).1.Twin (({ w with users := us } : World).onUsers y).1 ∧
      EndsAlike R (w.onUsers x).2 (({ w with users := us } : World).onUsers y).2 := by
  refine ⟨⟨y.state, h.state, ?_⟩, h.answer⟩
  simp only [World.onUsers, h.notes]

theorem find?_twin {p : User → Bool} (hp : ∀ u hash, p { u with passwordHash := hash } = p u)
    (h : List.Forall₂ User.Twin us us') : Option.Rel User.Twin (us.find? p) (us'.find? p) := by
  induction h with
  | nil => exact .none
  | @cons u _ us us' hu _ ih =>
    obtain ⟨hash, rfl⟩ := hu
    cases hu : p u with
    | true =>
      rw [List.find?_cons_of_pos hu, List.find?_cons_of_pos ((hp u hash).trans hu)]
      exact .some ⟨hash, rfl⟩
    | false =>
      rw [List.find?_cons_of_neg (by simp [hu]), List.find?_cons_of_neg (by simp [hp, hu])]
      exact ih

theorem withEmail?_twin (h : List.Forall₂ User.Twin us us') (email : String) :
    Option.Rel User.Twin (us.withEmail? email) (us'.withEmail? email) :=
  find?_twin (fun _ _ => rfl) h

theorem withId?_twin (h : List.Forall₂ User.Twin us us') (id : String) :
    Option.Rel User.Twin (us.withId? id) (us'.withId? id) :=
  find?_twin (fun _ _ => rfl) h

theorem isSome_of_rel {R : α → β → Prop} {x : Option α} {y : Option β} (h : Option.Rel R x y) :
    x.isSome = y.isSome := by
  cases h <;> rfl

theorem isTaken_twin (h : List.Forall₂ User.Twin us us') (u : User) :
    us.isTaken u = us'.isTaken u := by
  rw [isTaken, isTaken, isSome_of_rel (withEmail?_twin h u.email),
    isSome_of_rel (withId?_twin h u.id)]

theorem create_alike (h : List.Forall₂ User.Twin us us') (outages : Outages) (now : Instant)
    (id : String) (d : Draft) :
    StepsAlike User.Twin (create outages now id d us) (create outages now id d us') := by
  simp only [create, isTaken_twin h]
  have added : ∀ u : User, List.Forall₂ User.Twin (us ++ [u]) (us' ++ [u]) :=
    fun u => List.rel_append h (.cons (.refl u) .nil)
  split
  · exact ⟨h, .error _, rfl⟩
  · split
    · exact ⟨h, .error _, rfl⟩
    · split
      · exact ⟨h, .error _, rfl⟩
      · split
        · exact ⟨added _, .error _, rfl⟩
        · exact ⟨added _, .ok _ _ (.refl _), rfl⟩

theorem findByEmail_alike (h : List.Forall₂ User.Twin us us') (outages : Outages)
    (email : Option String) :
    StepsAlike (Option.Rel User.Twin) (findByEmail outages email us)
      (findByEmail outages email us') := by
  unfold findByEmail
  split
  · exact ⟨h, .error _, rfl⟩
  · cases email with
    | none => exact ⟨h, .ok _ _ .none, rfl⟩
    | some e => exact ⟨h, .ok _ _ (withEmail?_twin h e), rfl⟩

theorem findById_alike (h : List.Forall₂ User.Twin us us') (outages : Outages)
    (id : Option String) :
    StepsAlike (Option.Rel User.Twin) (findById outages id us) (findById outages id us') := by
  unfold findById
  split
  · exact ⟨h, .error _, rfl⟩
  · cases id with
    | none => exact ⟨h, .ok _ _ .none, rfl⟩
    | some i => exact ⟨h, .ok _ _ (withId?_twin h i), rfl⟩

theorem modify_twin {change : User → User}
    (hc : ∀ u hash, (change u).Twin (change { u with passwordHash := hash })) (id : String)
    (h : List.Forall₂ User.Twin us us') :
    List.Forall₂ User.Twin (us.modify id change) (us'.modify id change) := by
  rw [modify, modify, List.forall₂_map_left_iff, List.forall₂_map_right_iff]
  refine h.imp ?_
  rintro u _ ⟨hash, rfl⟩
  dsimp only
  split
  · exact hc u hash
  · exact ⟨hash, rfl⟩

theorem update_alike {change : Option (User → User)} (hc : ∀ f, change = some f →
      ∀ now u hash, ({ f u with updatedAt := now } : User).Twin
        { f { u with passwordHash := hash } with updatedAt := now })
    (h : List.Forall₂ User.Twin us us') (outages : Outages) (now : Instant)
    (columns : List String) (id : Option String) :
    StepsAlike Eq (update outages now columns change id us)
      (update outages now columns change id us') := by
  have found : Option.Rel User.Twin (id.bind fun i => us.withId? i)
      (id.bind fun i => us'.withId? i) := by
    cases id with
    | none => exact .none
    | some i => exact withId?_twin h i
  unfold update
  generalize (id.bind fun i => us.withId? i) = x at found
  generalize (id.bind fun i => us'.withId? i) = y at found
  split
  · exact ⟨h, .error _, rfl⟩
  · cases found with
    | none => exact ⟨h, .ok _ _ rfl, rfl⟩
    | some hu =>
      obtain ⟨hash, rfl⟩ := hu
      cases change with
      | none => exact ⟨h, .error _, rfl⟩
      | some f => exact ⟨modify_twin (hc f rfl now) _ h, .ok _ _ rfl, rfl⟩

end Users

/-- The answers to a call are alike: rows in them are twins, and anything else is the same. -/
def Call.AnswersAlike : (c : Call) → c.Answer → c.Answer → Prop
  | .createUser _, a, a' => EndsAlike User.Twin a a'
  | .findByEmail _, a, a' => EndsAlike (Option.Rel User.Twin) a a'
  | .findById _, a, a' => EndsAlike (Option.Rel User.Twin) a a'
  | _, a, a' => a = a'

theorem answers_alike (s : Service) (h : w.Twin w') (c : Call) :
    (w.answer s c).1.Twin (w'.answer s c).1 ∧
      c.AnswersAlike (w.answer s c).2 (w'.answer s c).2 := by
  obtain ⟨us, hus, rfl⟩ := h
  cases c with
  | issueToken authority subject ttl type =>
    simp only [World.answer, World.issueToken]
    cases Token.lifespan w.now ttl with
    | error b => exact ⟨⟨us, hus, rfl⟩, rfl⟩
    | ok times => exact ⟨⟨us, hus, rfl⟩, rfl⟩
  | createUser d => exact (Users.create_alike hus _ _ _ d).onUsers w.afterId us
  | findByEmail email => exact (Users.findByEmail_alike hus _ email).onUsers w us
  | findById id => exact (Users.findById_alike hus _ id).onUsers w us
  | updatePassword id hash =>
    have hc : ∀ f, (hash.map fun h (u : User) => { u with passwordHash := h }) = some f →
        ∀ now u hash, ({ f u with updatedAt := now } : User).Twin
          { f { u with passwordHash := hash } with updatedAt := now } := by
      intro f hf now u hash
      obtain ⟨h, -, rfl⟩ := Option.map_eq_some_iff.mp hf
      exact .refl _
    exact ((Users.update_alike hc hus _ _ _ id).onUsers w us).imp_right EndsAlike.eq
  | updateLastLogin id at? =>
    have hc : ∀ f, some (fun u : User => { u with lastLoginAt := some (at?.getD w.now) }) = some f →
        ∀ now u hash, ({ f u with updatedAt := now } : User).Twin
          { f { u with passwordHash := hash } with updatedAt := now } := by
      rintro f ⟨⟩ now u hash
      exact ⟨hash, rfl⟩
    exact ((Users.update_alike hc hus _ _ _ id).onUsers w us).imp_right EndsAlike.eq
  | now | systemTime | drawSecret | drawSalt | recallDummy | keepDummy | checkPassword | putSession
  | getSession | popSession | deleteSession | pingSessions | probeDatabase | note =>
    exact ⟨⟨us, hus, rfl⟩, rfl⟩

def Call.IsRowless : Call → Prop
  | .createUser _ | .findByEmail _ | .findById _ => False
  | _ => True

theorem Call.IsRowless.eq {c : Call} (hc : c.IsRowless) {a a' : c.Answer}
    (h : c.AnswersAlike a a') : a = a' := by
  cases c with
  | createUser | findByEmail | findById => exact hc.elim
  | now | systemTime | issueToken | drawSecret | drawSalt | recallDummy | keepDummy | checkPassword
  | updatePassword | updateLastLogin | putSession | getSession | popSession | deleteSession
  | pingSessions | probeDatabase | note => exact h

namespace Plan

/-- Two plans are carried out in two worlds with as many calls, under the same outages, until they
end alike in twins. -/
inductive RunAlike (s : Service) (R : α → β → Prop) :
    (Nat → Outages) → World → World → Plan α → Plan β → Prop
  | done (o : Nat → Outages) (w w' : World) (r : Except Failure α) (r' : Except Failure β) :
      w.Twin w' → EndsAlike R r r' → RunAlike s R o w w' (.done r) (.done r')
  | call (o : Nat → Outages) (w w' : World) (c c' : Call) (next : c.Answer → Plan α)
      (next' : c'.Answer → Plan β) :
      RunAlike s R (fun n => o (n + 1)) ((w.under (o 0)).answer s c).1
        ((w'.under (o 0)).answer s c').1 (next ((w.under (o 0)).answer s c).2)
        (next' ((w'.under (o 0)).answer s c').2) →
      RunAlike s R o w w' (.call c next) (.call c' next')

/-- Twins cannot be told apart by the plans, whatever fails. -/
def Alike (s : Service) (R : α → β → Prop) (p : Plan α) (p' : Plan β) : Prop :=
  ∀ o w w', w.Twin w' → RunAlike s R o w w' p p'

variable {R : α → β → Prop} {Q : γ → δ → Prop} {p : Plan α} {p' : Plan β}

theorem RunAlike.run (h : RunAlike s R o w w' p p') :
    (p.runUnder s o w).1.Twin (p'.runUnder s o w').1 ∧
      EndsAlike R (p.runUnder s o w).2 (p'.runUnder s o w').2 := by
  induction h with
  | done o w w' r r' hw hr => exact ⟨hw, hr⟩
  | call o w w' c c' next next' _ ih => exact ih

theorem RunAlike.bind {f : α → Plan γ} {f' : β → Plan δ} (h : RunAlike s R o w w' p p')
    (hf : ∀ a b, R a b → Alike s Q (f a) (f' b)) :
    RunAlike s Q o w w' (p >>= f) (p' >>= f') := by
  induction h with
  | done o w w' r r' hw hr =>
    cases hr with
    | ok a b hab => exact hf a b hab o w w' hw
    | error e => exact .done o w w' _ _ hw (.error e)
  | call o w w' c c' next next' _ ih => exact .call o w w' c c' _ _ ih

theorem RunAlike.attempt (h : RunAlike s R o w w' p p') :
    RunAlike s (EndsAlike R) o w w' p.attempt p'.attempt := by
  induction h with
  | done o w w' r r' hw hr => exact .done o w w' _ _ hw (.ok _ _ hr)
  | call o w w' c c' next next' _ ih => exact .call o w w' c c' _ _ ih

theorem alike_done {r : Except Failure α} {r' : Except Failure β} (h : EndsAlike R r r') :
    Alike s R (.done r) (.done r') :=
  fun o w w' hw => .done o w w' r r' hw h

theorem alike_pure {a : α} {b : β} (h : R a b) : Alike s R (pure a) (pure b) :=
  alike_done (.ok a b h)

theorem alike_fail (f : Fault) : Alike s R (fail f) (fail f) :=
  alike_done (.error _)

theorem alike_bind {f : α → Plan γ} {f' : β → Plan δ} (h : Alike s R p p')
    (hf : ∀ a b, R a b → Alike s Q (f a) (f' b)) : Alike s Q (p >>= f) (p' >>= f') :=
  fun o w w' hw => (h o w w' hw).bind hf

theorem alike_call {c : Call} {f : c.Answer → Plan α} {f' : c.Answer → Plan β}
    (hf : ∀ a b, c.AnswersAlike a b → Alike s R (f a) (f' b)) :
    Alike s R (ask c >>= f) (ask c >>= f') := by
  intro o w w' hw
  obtain ⟨hworld, hanswer⟩ := answers_alike s (hw.under (o 0)) c
  exact .call o w w' c c f f' (hf _ _ hanswer _ _ _ hworld)

theorem alike_rowless {p : Plan α} (hp : p.Asks Call.IsRowless) : Alike s Eq p p := by
  induction p with
  | done r =>
    cases r with
    | ok a => exact alike_pure rfl
    | error e => exact alike_done (.error e)
  | call c next ih =>
    have answered : Alike s Eq (ask c >>= next) (ask c >>= next) := by
      refine alike_call fun a b hab => ?_
      cases hp.1.eq hab
      exact ih a (hp.2 a)
    exact answered

theorem alike_bind_rowless {p : Plan α} {f : α → Plan γ} {f' : α → Plan δ}
    (hp : p.Asks Call.IsRowless) (hf : ∀ a, Alike s Q (f a) (f' a)) :
    Alike s Q (p >>= f) (p >>= f') :=
  alike_bind (alike_rowless hp) fun a _ hab => hab ▸ hf a

end Plan

open Plan

theorem Call.Compares.isRowless {c : Call} (h : c.Compares) : c.IsRowless := by
  cases c <;> trivial

theorem startSession_rowless (s : Service) (u : User) :
    (s.startSession u).Asks Call.IsRowless :=
  (startSession_asks s u).mono fun c hc => by
    cases c <;> trivial

theorem startSession_twin (s : Service) (u : User) (hash : String) :
    s.startSession { u with passwordHash := hash } = s.startSession u := by
  unfold Service.startSession
  refine bind_congr fun access => bind_congr fun refresh => bind_congr fun now =>
    bind_congr fun registered => bind_congr fun _ => bind_congr fun recorded => ?_
  rcases recorded with (f | b) | found <;> rfl

theorem signUp_alike (s : Service) (email password firstName lastName : Option LooseText) :
    Alike t Eq (s.signUp email password firstName lastName)
      (s.signUp email password firstName lastName) := by
  refine alike_bind_rowless (asks_valid _) fun _ => ?_
  refine alike_bind_rowless (newPassword_asks _) fun password => ?_
  refine alike_bind_rowless (asks_valid _) fun _ => ?_
  refine alike_bind_rowless (asks_valid _) fun _ => ?_
  refine alike_bind_rowless (hash_asks s password trivial) fun _ => ?_
  refine alike_call fun created created' hcreated => ?_
  refine alike_bind (alike_done hcreated) ?_
  rintro u _ ⟨hash, rfl⟩
  exact alike_rowless (asks_bind (asks_ask trivial) fun _ => trivial)

theorem forgotPassword_alike (s : Service) (email : Option LooseText) :
    Alike t Eq (s.forgotPassword email) (s.forgotPassword email) := by
  refine alike_bind_rowless (asks_valid _) fun _ => ?_
  refine alike_call fun found found' hfound => ?_
  refine alike_bind (alike_done hfound) fun row row' hrow => ?_
  cases hrow with
  | none => exact alike_pure rfl
  | some hu =>
    obtain ⟨hash, rfl⟩ := hu
    refine alike_rowless (asks_bind ?_ fun _ => trivial)
    refine asks_bind (asks_ask trivial) fun _ => ?_
    refine asks_bind (asks_ask trivial) fun _ => ?_
    exact asks_bind (asks_done _) fun _ => asks_ask trivial

theorem resetPassword_alike (s : Service) (token newPassword : Option LooseText) :
    Alike t Eq (s.resetPassword token newPassword) (s.resetPassword token newPassword) :=
  alike_rowless ((resetPassword_asks s token newPassword).mono fun c hc => by
    cases c <;> trivial)

theorem validateToken_alike (s : Service) (accessToken : Option LooseText) :
    Alike t Eq (s.validateToken accessToken) (s.validateToken accessToken) := by
  unfold Service.validateToken
  split
  · exact alike_fail _
  · refine alike_bind_rowless (asks_ask trivial) fun system => ?_
    refine alike_bind_rowless (asks_ask trivial) fun now => ?_
    split
    · exact alike_fail _
    · exact alike_done (.error _)
    · split
      · exact alike_bind_rowless (asks_ask trivial) fun _ => alike_fail _
      · refine alike_call fun found found' hfound => ?_
        refine alike_bind (alike_done hfound) fun row row' hrow => ?_
        cases hrow with
        | none => exact alike_fail _
        | some hu =>
          obtain ⟨hash, rfl⟩ := hu
          dsimp only
          split
          · exact alike_pure rfl
          · exact alike_fail _

theorem runUnder_mapResult (f : α → β) (p : Plan α) (o : Nat → Outages) (w : World) :
    (p.mapResult f).runUnder s o w = ((p.runUnder s o w).1, (p.runUnder s o w).2.map f) := by
  induction p generalizing o w with
  | done r => cases r <;> rfl
  | call c next ih => exact ih _ _ _

theorem bind_mapResult (f : α → β) (p : Plan α) (g : β → Plan γ) :
    p.mapResult f >>= g = p >>= fun a => g (f a) :=
  bind_bind p (fun a => .done (.ok (f a))) g

def Service.compare (s : Service) (password : LooseText) :
    Option User → Plan (Option User × Except Password.Corruption Bool)
  | none => do
    let dummy ← s.dummyHash
    (checkPassword dummy password).mapResult (none, ·)
  | some user => (checkPassword user.passwordHash password).mapResult (some user, ·)

/-- The part of a login up to the comparison of passwords: the user that was found and what the
comparison gives. An unknown email leads to a comparison as well. -/
def Service.comparison (s : Service) (email password : Option LooseText) :
    Plan (Option User × Except Password.Corruption Bool) := do
  let email ← Plan.valid (Validation.email email)
  let password ← Plan.valid (Validation.presentedPassword password)
  let found ← Plan.ask (.findByEmail (some email))
  let row ← Plan.ofExcept found
  s.compare password row

def Service.conclude (s : Service) :
    Option User × Except Password.Corruption Bool → Plan LoggedIn
  | (none, _) => .fail .wrongCredentials
  | (some user, .error corruption) => do
    Plan.log (.corruptedHash user.id corruption)
    .fail .corruptedCredentials
  | (some user, .ok matched) =>
    if matched && user.isActive then s.startSession user else .fail .wrongCredentials

theorem login_eq (s : Service) (email password : Option LooseText) :
    s.login email password = s.comparison email password >>= s.conclude := by
  unfold Service.login Service.comparison
  simp only [bind_bind]
  refine bind_congr fun address => bind_congr fun presented => bind_congr fun found =>
    bind_congr fun row => ?_
  cases row with
  | none =>
    simp only [Service.rejectUnknown, Service.compare, bind_bind, bind_mapResult]
    rfl
  | some user =>
    simp only [Service.compare, bind_mapResult]
    refine bind_congr fun compared => ?_
    cases compared <;> rfl

/-- What a login in a world finds out about the password: whether it matches, or that the hash is
corrupted. It fails if there is no comparison, or if the comparison breaks. -/
def World.compared (s t : Service) (email password : Option LooseText) (o : Nat → Outages)
    (w : World) : Except Failure (Except Password.Corruption Bool) :=
  ((s.comparison email password).runUnder t o w).2.map (·.2)

theorem checkPassword_alike {stored stored' : String} {password : LooseText} (hw : w.Twin w')
    (h : ((Service.checkPassword stored password).runUnder s o w).2 =
      ((Service.checkPassword stored' password).runUnder s o w').2) :
    RunAlike s Eq o w w' (Service.checkPassword stored password)
      (Service.checkPassword stored' password) := by
  unfold Service.checkPassword at h ⊢
  cases hstring : password.string? with
  | some p =>
    rw [hstring] at h
    have hchecked : Password.verify s.suite stored p = Password.verify s.suite stored' p :=
      Except.ok.inj h
    exact .call o w w' _ _ _ _ (.done _ _ _ _ _ (hw.under (o 0)) (.ok _ _ hchecked))
  | none =>
    rw [hstring] at h
    cases hshape : Password.Shape.ofChars? stored.toList with
    | some shape =>
      cases hshape' : Password.Shape.ofChars? stored'.toList with
      | some shape' => exact .done o w w' _ _ hw (.error _)
      | none =>
        rw [hshape, hshape'] at h
        cases h
    | none =>
      cases hshape' : Password.Shape.ofChars? stored'.toList with
      | some shape' =>
        rw [hshape, hshape'] at h
        cases h
      | none => exact .done o w w' _ _ hw (.ok _ _ rfl)

/-- The same user was found, up to the hash, and the comparison gave the same. -/
def ComparedAlike (x x' : Option User × Except Password.Corruption Bool) : Prop :=
  Option.Rel User.Twin x.1 x'.1 ∧ x.2 = x'.2

theorem compare_alike {presented : LooseText} {row row' : Option User} (hw : w.Twin w')
    (hrow : Option.Rel User.Twin row row')
    (h : ((s.compare presented row).runUnder t o w).2.map (·.2) =
      ((s.compare presented row').runUnder t o w').2.map (·.2)) :
    RunAlike t ComparedAlike o w w' (s.compare presented row) (s.compare presented row') := by
  cases hrow with
  | none =>
    refine alike_bind_rowless ((dummyHash_asks s).mono fun _ => Call.Compares.isRowless)
      (fun dummy => ?_) o w w' hw
    refine alike_bind_rowless ((checkPassword_asks _ _).mono fun _ => Call.Compares.isRowless) ?_
    exact fun compared => alike_pure ⟨.none, rfl⟩
  | @some u u' hu =>
    have outcome : ∀ (x : User) (v : World),
        ((s.compare presented (some x)).runUnder t o v).2.map (·.2) =
          ((Service.checkPassword x.passwordHash presented).runUnder t o v).2 := by
      intro x v
      rw [Service.compare, runUnder_mapResult]
      cases ((Service.checkPassword x.passwordHash presented).runUnder t o v).2 <;> rfl
    rw [outcome, outcome] at h
    refine (checkPassword_alike hw h).bind ?_
    rintro compared _ rfl
    exact alike_pure ⟨.some hu, rfl⟩

theorem comparison_alike {email password : Option LooseText} (hw : w.Twin w')
    (h : w.compared s t email password o = w'.compared s t email password o) :
    RunAlike t ComparedAlike o w w' (s.comparison email password)
      (s.comparison email password) := by
  unfold World.compared at h
  unfold Service.comparison at h ⊢
  cases he : Validation.email email with
  | error problem => exact .done o w w' _ _ hw (.error _)
  | ok address =>
  cases hp : Validation.presentedPassword password with
  | error problem => exact .done o w w' _ _ hw (.error _)
  | ok presented =>
  rw [he, hp] at h
  obtain ⟨hfound, hanswer⟩ := answers_alike t (hw.under (o 0)) (.findByEmail (some address))
  have searched : ∀ v : World,
      (((valid (.ok address) >>= fun email => valid (.ok presented) >>= fun password =>
          ask (.findByEmail (some email)) >>= fun found => ofExcept found >>= fun row =>
            s.compare password row).runUnder t o v).2.map (·.2)) =
        ((ofExcept ((v.under (o 0)).answer t (.findByEmail (some address))).2 >>=
          s.compare presented).runUnder t (fun n => o (n + 1))
            ((v.under (o 0)).answer t (.findByEmail (some address))).1).2.map (·.2) :=
    fun _ => rfl
  rw [searched, searched] at h
  refine .call o w w' _ _ _ _ ?_
  generalize (w.under (o 0)).answer t (.findByEmail (some address)) = x at h hfound hanswer ⊢
  generalize (w'.under (o 0)).answer t (.findByEmail (some address)) = x' at h hfound hanswer ⊢
  obtain ⟨v, r⟩ := x
  obtain ⟨v', r'⟩ := x'
  cases hanswer with
  | ok row row' hrow => exact compare_alike hfound hrow h
  | error e => exact .done _ _ _ _ _ hfound (.error e)

theorem login_alike {email password : Option LooseText} (hw : w.Twin w')
    (h : w.compared s t email password o = w'.compared s t email password o) :
    RunAlike t Eq o w w' (s.login email password) (s.login email password) := by
  rw [login_eq]
  refine (comparison_alike hw h).bind ?_
  rintro ⟨row, compared⟩ ⟨row', _⟩ ⟨hrow, rfl⟩
  cases hrow with
  | none => exact alike_fail _
  | some hu =>
    obtain ⟨hash, rfl⟩ := hu
    cases compared with
    | error corruption => exact alike_bind_rowless (asks_ask trivial) fun _ => alike_fail _
    | ok matched =>
      dsimp only [Service.conclude]
      rw [startSession_twin s _ hash]
      split
      · exact alike_rowless (startSession_rowless s _)
      · exact alike_fail _

end Accounts
