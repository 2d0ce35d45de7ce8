import Accounts.Proofs.Service.Outcomes

/-! # Histories

A history is a run cut into steps, each an event with the world it meets. What a run keeps is
proved for one step and carried along by induction on the events, the last one first.
-/
namespace Accounts

open World

/-- An event and the world it meets. -/
structure Step where
  world : World
  event : Event

def Step.moments (s : Service) (x : Step) : List Moment :=
  match x.event with
  | .operation op => (op.plan s).trace s x.world
  | _ => []

def Moment.secret? (s : Service) (m : Moment) : Option String :=
  match m.call with
  | .drawSecret size => some (Service.secretText (s.source.secret m.world.draws.secrets size))
  | _ => none

def Step.secrets (s : Service) (x : Step) : List String :=
  (x.moments s).filterMap (Moment.secret? s)

namespace World

def steps (s : Service) (w : World) : List Event → List Step
  | [] => []
  | e :: es => ⟨w, e⟩ :: (w.next s e).steps s es

/-- All secrets drawn in a run, in order. -/
def secrets (s : Service) (w : World) (events : List Event) : List String :=
  (w.steps s events).flatMap (Step.secrets s)

end World

variable {s : Service} {w : World} {past : List Event}

theorem after_snoc (s : Service) (w : World) (past : List Event) (e : Event) :
    w.after s (past ++ [e]) = (w.after s past).next s e := by
  simp [after]

theorem steps_snoc (s : Service) (w : World) (past : List Event) (e : Event) :
    w.steps s (past ++ [e]) = w.steps s past ++ [⟨w.after s past, e⟩] := by
  induction past generalizing w with
  | nil => rfl
  | cons x r ih =>
    simp only [List.cons_append, steps, ih, after, List.foldl_cons]

theorem secrets_snoc (s : Service) (w : World) (past : List Event) (e : Event) :
    w.secrets s (past ++ [e]) = w.secrets s past ++ Step.secrets s ⟨w.after s past, e⟩ := by
  simp [secrets, steps_snoc]

/-- Induction on a run, the last event first. -/
theorem run_induction {R : List Event → Prop} (start : R [])
    (step : ∀ past e, R past → R (past ++ [e])) (events : List Event) : R events := by
  rw [← events.reverse_reverse]
  induction events.reverse with
  | nil => exact start
  | cons e r ih =>
    rw [List.reverse_cons]
    exact step _ e ih

theorem world_of_step {x : Step} (hx : x ∈ w.steps s past) :
    ∃ before, x.world = w.after s before := by
  induction past using run_induction with
  | start => cases hx
  | step past e ih =>
    rw [steps_snoc] at hx
    rcases List.mem_append.mp hx with hx | hx
    · exact ih hx
    · rw [List.mem_singleton.mp hx]
      exact ⟨past, rfl⟩

theorem moments_forgotPassword (s : Service) (e : Option LooseText) (w : World) :
    Step.moments s ⟨w, .operation (.forgotPassword e)⟩ = (s.forgotPassword e).trace s w :=
  Plan.trace_mapResult ..

theorem moments_resetPassword (s : Service) (t p : Option LooseText) (w : World) :
    Step.moments s ⟨w, .operation (.resetPassword t p)⟩ = (s.resetPassword t p).trace s w :=
  Plan.trace_mapResult ..

theorem perform_signUp (s : Service) (e p f l : Option LooseText) (w : World) :
    ∃ r, Registration s e p f l w (s.perform (.signUp e p f l) w).1 r ∧
      (s.perform (.signUp e p f l) w).2 = r.map .signedUp := by
  rw [Service.perform, Operation.plan, Plan.run_mapResult]
  exact ⟨_, signUp_cases rfl, rfl⟩

theorem perform_login (hk : w.users.Keyed) (e p : Option LooseText) :
    ∃ r, Login s e p w (s.perform (.login e p) w).1 r ∧
      (s.perform (.login e p) w).2 = r.map .loggedIn := by
  rw [Service.perform, Operation.plan, Plan.run_mapResult]
  exact ⟨_, login_cases hk rfl, rfl⟩

theorem perform_forgotPassword (s : Service) (e : Option LooseText) (w : World) :
    ∃ r, ResetRequest s e w (s.perform (.forgotPassword e) w).1 r ∧
      (s.perform (.forgotPassword e) w).2 = r.map .status := by
  rw [Service.perform, Operation.plan, Plan.run_mapResult]
  exact ⟨_, forgotPassword_cases rfl, rfl⟩

theorem perform_resetPassword (s : Service) (t p : Option LooseText) (w : World) :
    ∃ r, Reset s t p w (s.perform (.resetPassword t p) w).1 r ∧
      (s.perform (.resetPassword t p) w).2 = r.map .status := by
  rw [Service.perform, Operation.plan, Plan.run_mapResult]
  exact ⟨_, resetPassword_cases rfl, rfl⟩

theorem perform_validateToken (s : Service) (t : Option LooseText) (w : World) :
    Quiet w (s.perform (.validateToken t) w).1 := by
  rw [Service.perform, Operation.plan, Plan.run_mapResult]
  exact Plan.quiet_run (validateToken_quiet s t) rfl

theorem World.Quiet.evolves {v : World} (h : Quiet w v) : w.users.Evolves v.users := by
  rw [h.users]
  exact .same

theorem keepsIdentity_of_credentials (hash : User → String) (updated : User → Instant)
    (active : User → Bool) (login : User → Option Instant) :
    Users.KeepsIdentity fun u =>
      { u with passwordHash := hash u, updatedAt := updated u, isActive := active u,
               lastLoginAt := login u } :=
  ⟨fun _ => rfl, fun _ => rfl, fun _ => rfl, fun _ => rfl, fun _ => rfl⟩

theorem modify_evolves (us : Users) (id : String) {change : User → User}
    (hc : Users.KeepsIdentity change) : us.Evolves (us.modify id change) :=
  .changed _ (hc.onlyWhere (·.id = id))

theorem next_evolves (s : Service) (hk : w.users.Keyed) (e : Event) :
    w.users.Evolves (w.next s e).users := by
  cases e with
  | operation op =>
    simp only [next]
    cases op with
    | signUp email password firstName lastName =>
      obtain ⟨r, h, -⟩ := perform_signUp s email password firstName lastName w
      cases h with
      | refused e hq => exact hq.evolves
      | created p user r he hf hp hfirst hlast hh hid ha hc hu hl ht hn ho hs hus hr =>
        rw [hus]
        exact .added user ht
    | login email password =>
      obtain ⟨r, h, -⟩ := perform_login (s := s) hk email password
      cases h with
      | refused e hq => exact hq.evolves
      | started a p user x y i j d he hp hu hv ha hi hj hd hn ho hs hus =>
        rcases hus with ⟨-, hus⟩ | hus
        · rw [hus]
          exact .same
        · rw [hus]
          exact modify_evolves _ _ (keepsIdentity_of_credentials _ _ _ _)
    | forgotPassword email =>
      obtain ⟨r, h, -⟩ := perform_forgotPassword s email w
      cases h with
      | refused e hq => exact hq.evolves
      | unknown a he hu hq => exact hq.evolves
      | sent a user d he hu hd hn hus ho hs ht =>
        rw [hus]
        exact .same
    | resetPassword token newPassword =>
      obtain ⟨r, h, -⟩ := perform_resetPassword s token newPassword w
      cases h with
      | refused e hq => exact hq.evolves
      | spent k e hk hn hus ho hs =>
        rw [hus]
        exact .same
      | changed k p id hash user r hk hf hp hl hm hh hu hn ho hus hs =>
        rw [hus]
        exact modify_evolves _ _ (keepsIdentity_of_credentials _ _ _ _)
    | validateToken accessToken => exact (perform_validateToken s accessToken w).evolves
  | advance d =>
    simp only [next, advance]
    split <;> exact .same
  | setSystem t => exact .same
  | outages o => exact .same
  | activate email active =>
    exact .changed _
      ((keepsIdentity_of_credentials (·.passwordHash) (·.updatedAt) (fun _ => active)
        (·.lastLoginAt)).onlyWhere (·.email = email))

theorem keyed_after (s : Service) (start : Instant) (past : List Event) :
    ((World.initial start).after s past).users.Keyed := by
  induction past using run_induction with
  | start => exact Users.keyed_nil
  | step past e ih =>
    rw [after_snoc]
    exact ih.evolves (next_evolves s ih e)

/-- A service whose draws count upwards and whose digest is the key material under the salt. Its
runs are short enough to be computed in a proof. -/
def Service.small : Service where
  suite := { Suite.standard with
    digest := fun cost salt material =>
      .ofFn fun i => material.getD i 0 ^^^ (salt.toList.getD (i % 16) 0 + cost.toUInt8) }
  source :=
    { identifier := fun k => .ofFn fun i => UInt8.ofNat (k + i)
      secret := fun k size => .ofFn (n := size) fun i => UInt8.ofNat (k + i)
      salt := fun k => .ofFn fun i => UInt8.ofNat (k + i) }
  authority := ⟨"a secret of thirty-two characters", "HS256", "accounts"⟩
  rounds := 4
  resetBase := "https://example.org/reset"
  lifetimes := .standard
  backing := .server

def annRegisters : Event :=
  .operation (.signUp (some "ann@example.org") (some "first password 1") (some "Ann") (some "Lee"))

end Accounts
