import Accounts.Proofs.Service.Calls

/-! # Failures that come and go

Commands may begin and cease to fail while an operation is carried out. No operation sends two
commands of one sort, so it ends as it would if some sorts of commands failed all the time. What
holds for all outages of a world then holds for every pattern of failures during an operation.
-/
namespace Accounts

/-- The sorts of commands that the stores are sent. -/
inductive Command where
  | select
  | insert
  | update
  | set
  | get
  | getdel
  | delete
  | ping
  deriving DecidableEq, Repr

/-- What is sent for a call. A new row is read back. -/
def Call.commands : Call → List Command
  | .createUser _ => [.insert, .select]
  | .findByEmail _ | .findById _ | .probeDatabase => [.select]
  | .updatePassword .. | .updateLastLogin .. => [.update]
  | .putSession .. => [.set]
  | .getSession _ => [.get]
  | .popSession _ => [.getdel]
  | .deleteSession _ => [.delete]
  | .pingSessions => [.ping]
  | .now | .systemTime | .issueToken .. | .drawSecret _ | .drawSalt | .recallDummy | .keepDummy _
  | .checkPassword .. | .note _ => []

namespace Outages

def fails (o : Outages) : Command → Bool
  | .select => o.users.select
  | .insert => o.users.insert
  | .update => o.users.update
  | .set => o.sessions.set
  | .get => o.sessions.get
  | .getdel => o.sessions.getdel
  | .delete => o.sessions.delete
  | .ping => o.sessions.ping || !o.sessions.pong

def ofFails (f : Command → Bool) : Outages :=
  ⟨⟨f .select, f .insert, f .update⟩, ⟨f .set, f .get, f .getdel, f .delete, f .ping, true⟩⟩

@[simp] theorem fails_ofFails (f : Command → Bool) (k : Command) : (ofFails f).fails k = f k := by
  cases k with
  | ping => exact Bool.or_false (f .ping)
  | select | insert | update | set | get | getdel | delete => rfl

def Among (met : Outages) (o : Nat → Outages) : Prop :=
  ∀ k, met.fails k = true → ∃ n, (o n).fails k = true

end Outages

namespace World

def under (o : Outages) (w : World) : World :=
  { w with outages := o }

/-- An answer depends on the outages only through the commands that are sent for it. -/
theorem answer_under {c : Call} {o o' : Outages} (h : ∀ k ∈ c.commands, o.fails k = o'.fails k)
    (s : Service) (w : World) :
    (w.under o).answer s c =
      (((w.under o').answer s c).1.under o, ((w.under o').answer s c).2) := by
  cases c with
  | now | systemTime | drawSecret | drawSalt | recallDummy | keepDummy | checkPassword | note => rfl
  | issueToken authority subject ttl type =>
    have hnow : ∀ o, (w.under o).now = w.now := fun _ => rfl
    simp only [answer, issueToken, hnow]
    cases Token.lifespan w.now ttl <;> rfl
  | createUser d =>
    have hinsert : o.users.insert = o'.users.insert := h .insert (.head _)
    have hselect : o.users.select = o'.users.select := h .select (.tail _ (.head _))
    have hcreate : Users.create o.users = Users.create o'.users := by
      funext system id d us
      simp only [Users.create, hinsert, hselect]
    simp only [answer, under, hcreate]
    rfl
  | findByEmail email =>
    have hselect : o.users.select = o'.users.select := h .select (.head _)
    simp only [answer, under, Users.findByEmail, hselect]
    rfl
  | findById id =>
    have hselect : o.users.select = o'.users.select := h .select (.head _)
    simp only [answer, under, Users.findById, hselect]
    rfl
  | updatePassword id hash =>
    have hupdate : o.users.update = o'.users.update := h .update (.head _)
    simp only [answer, under, Users.updatePassword, Users.update, hupdate]
    rfl
  | updateLastLogin id at? =>
    have hupdate : o.users.update = o'.users.update := h .update (.head _)
    simp only [answer, under, Users.updateLastLogin, Users.update, hupdate]
    rfl
  | putSession key value ttl =>
    have hset : o.sessions.set = o'.sessions.set := h .set (.head _)
    simp only [answer, under, Session.put, hset]
    rfl
  | getSession key =>
    have hget : o.sessions.get = o'.sessions.get := h .get (.head _)
    simp only [answer, under, Session.get, hget]
    rfl
  | popSession key =>
    have hgetdel : o.sessions.getdel = o'.sessions.getdel := h .getdel (.head _)
    simp only [answer, under, Session.pop, hgetdel]
    rfl
  | deleteSession key =>
    have hdelete : o.sessions.delete = o'.sessions.delete := h .delete (.head _)
    simp only [answer, under, Session.delete, hdelete]
    rfl
  | pingSessions =>
    have hping : (o.sessions.ping || !o.sessions.pong) = (o'.sessions.ping || !o'.sessions.pong) :=
      h .ping (.head _)
    have hanswer : (!o.sessions.ping && o.sessions.pong) =
        (!o'.sessions.ping && o'.sessions.pong) := by
      simpa using congrArg not hping
    simp only [answer, under, Session.ping, hanswer]
  | probeDatabase =>
    have hselect : o.users.select = o'.users.select := h .select (.head _)
    simp only [answer, under, hselect]

end World

namespace Plan

variable {α β : Type} {free : List Command} {p : Plan α} {f : α → Plan β}

/-- Carries out a plan when the outages of each call are given by its number. -/
def runUnder (s : Service) : Plan α → (Nat → Outages) → World → World × Except Failure α
  | .done r, _, w => (w, r)
  | .call c next, o, w =>
    (next ((w.under (o 0)).answer s c).2).runUnder s (fun n => o (n + 1))
      ((w.under (o 0)).answer s c).1

/-- Whatever the calls are answered, the plan sends no commands but the given ones, and none of them
in two calls. -/
def SendsOnce : List Command → Plan α → Prop
  | _, .done _ => True
  | free, .call c next =>
    c.commands ⊆ free ∧ ∀ r, (next r).SendsOnce (free.filter (· ∉ c.commands))

theorem sendsOnce_bind (hp : p.Asks (·.commands = [])) (hf : ∀ a, (f a).SendsOnce free) :
    (p >>= f).SendsOnce free := by
  rw [bind_eq]
  induction p with
  | done r =>
    rcases r with e | a
    · trivial
    · exact hf a
  | call c next ih =>
    refine ⟨?_, fun r => ?_⟩
    · rw [hp.1]
      exact List.nil_subset free
    · have hfree : free.filter (· ∉ c.commands) = free := by
        rw [hp.1]
        simp
      rw [hfree]
      exact ih r (hp.2 r)

theorem sendsOnce_of_asks (hp : p.Asks (·.commands = [])) : p.SendsOnce free := by
  induction p generalizing free with
  | done r => trivial
  | call c next ih =>
    refine ⟨?_, fun r => ih r (hp.2 r)⟩
    rw [hp.1]
    exact List.nil_subset free

theorem sendsOnce_ask {c : Call} {k : Command} {ks : List Command} {g : c.Answer → Plan β}
    (hc : c.commands = k :: ks) (hk : ∀ j ∈ k :: ks, j ∈ free)
    (hg : ∀ r, (g r).SendsOnce (free.filter (· ∉ k :: ks))) :
    (@Bind.bind Plan _ c.Answer β (ask c) g).SendsOnce free := by
  rw [← hc] at hk hg
  exact ⟨fun j hj => hk j hj, hg⟩

theorem sendsOnce_mapResult (hp : p.SendsOnce free) (g : α → β) :
    (p.mapResult g).SendsOnce free := by
  induction p generalizing free with
  | done r => cases r <;> trivial
  | call c next ih => exact ⟨hp.1, fun r => ih r (hp.2 r)⟩

theorem run_under_of_asks (s : Service) (hp : p.Asks (·.commands = [])) (o : Outages) (w : World) :
    p.run s (w.under o) = ((p.run s w).1.under o, (p.run s w).2) := by
  induction p generalizing w with
  | done r => rfl
  | call c next ih =>
    have hnone : ∀ k ∈ c.commands, o.fails k = w.outages.fails k := by
      rw [hp.1]
      exact nofun
    have hanswer : (w.under o).answer s c = ((w.answer s c).1.under o, (w.answer s c).2) :=
      World.answer_under hnone s w
    rw [run, hanswer]
    exact ih _ (hp.2 _) _

/-- If no command is sent twice, then the failures that are met are those of some outages. The
induction keeps the other commands open, for the outages of the rest of the plan. -/
theorem run_under (s : Service) (hp : p.SendsOnce free) (o : Nat → Outages) (w : World) :
    ∃ met : Outages, met.Among o ∧ ∀ o' : Outages, (∀ k ∈ free, o'.fails k = met.fails k) →
      p.run s (w.under o') = ((p.runUnder s o w).1.under o', (p.runUnder s o w).2) := by
  induction p generalizing free o w with
  | done r => exact ⟨.ofFails fun _ => false, fun k hk => by simp at hk, fun o' _ => rfl⟩
  | call c next ih =>
    obtain ⟨rest, hamong, hrest⟩ :=
      ih _ (hp.2 _) (fun n => o (n + 1)) ((w.under (o 0)).answer s c).1
    refine ⟨.ofFails fun k => if k ∈ c.commands then (o 0).fails k else rest.fails k, ?_, ?_⟩
    · intro k hk
      rw [Outages.fails_ofFails] at hk
      split at hk
      · exact ⟨0, hk⟩
      · obtain ⟨n, hn⟩ := hamong k hk
        exact ⟨n + 1, hn⟩
    · intro o' ho'
      have hfirst : ∀ k ∈ c.commands, o'.fails k = (o 0).fails k := by
        intro k hk
        rw [ho' k (hp.1 hk), Outages.fails_ofFails, if_pos hk]
      have hlater : ∀ k ∈ free.filter (· ∉ c.commands), o'.fails k = rest.fails k := by
        intro k hk
        obtain ⟨hfree, hnot⟩ := List.mem_filter.mp hk
        rw [ho' k hfree, Outages.fails_ofFails, if_neg (of_decide_eq_true hnot)]
      rw [run, World.answer_under hfirst]
      exact hrest o' hlater

end Plan

open Plan

theorem Call.Compares.commands_eq_nil {c : Call} (h : c.Compares) : c.commands = [] := by
  cases c <;> first | rfl | exact h.elim

theorem signUp_sendsOnce (s : Service) (e p f l : Option LooseText) :
    (s.signUp e p f l).SendsOnce [.insert, .select] := by
  refine sendsOnce_bind (asks_valid _) fun _ => ?_
  refine sendsOnce_bind (newPassword_asks p) fun password => ?_
  refine sendsOnce_bind (asks_valid _) fun _ => ?_
  refine sendsOnce_bind (asks_valid _) fun _ => ?_
  refine sendsOnce_bind (hash_asks s password rfl) fun _ => ?_
  refine sendsOnce_ask rfl (by decide) fun created => ?_
  refine sendsOnce_bind (asks_done created) fun user => ?_
  exact sendsOnce_of_asks (asks_bind (asks_ask rfl) fun _ => trivial)

theorem startSession_sendsOnce (s : Service) (user : User) :
    (s.startSession user).SendsOnce [.set, .update] := by
  have issue : ∀ ttl type, (s.issueToken user.id ttl type).Asks (·.commands = []) := by
    intro ttl type
    refine asks_bind (asks_ask rfl) fun r => ?_
    split <;> trivial
  refine sendsOnce_bind (issue _ _) fun _ => ?_
  refine sendsOnce_bind (issue _ _) fun _ => ?_
  refine sendsOnce_bind (asks_ask rfl) fun _ => ?_
  refine sendsOnce_ask rfl (by decide) fun registered => ?_
  refine sendsOnce_bind (asks_done registered) fun _ => ?_
  refine sendsOnce_ask rfl (by decide) fun recorded => sendsOnce_of_asks ?_
  split
  · trivial
  · exact asks_bind (asks_ask rfl) fun _ => trivial
  · trivial

theorem login_sendsOnce (s : Service) (e p : Option LooseText) :
    (s.login e p).SendsOnce [.select, .set, .update] := by
  refine sendsOnce_bind (asks_valid _) fun _ => ?_
  refine sendsOnce_bind (asks_valid _) fun password => ?_
  refine sendsOnce_ask rfl (by decide) fun found => ?_
  refine sendsOnce_bind (asks_done found) fun row => ?_
  have silent : ∀ c : Call, c.Compares → c.commands = [] := fun _ => Call.Compares.commands_eq_nil
  cases row with
  | none => exact sendsOnce_of_asks ((rejectUnknown_asks s password).mono silent)
  | some user =>
    refine sendsOnce_bind ((checkPassword_asks user.passwordHash password).mono silent) fun c => ?_
    split
    · exact sendsOnce_of_asks (asks_bind (asks_ask rfl) fun _ => trivial)
    · split
      · exact startSession_sendsOnce s user
      · trivial

theorem forgotPassword_sendsOnce (s : Service) (e : Option LooseText) :
    (s.forgotPassword e).SendsOnce [.select, .set] := by
  refine sendsOnce_bind (asks_valid _) fun _ => ?_
  refine sendsOnce_ask rfl (by decide) fun found => ?_
  refine sendsOnce_bind (asks_done found) fun row => ?_
  cases row with
  | none => trivial
  | some user =>
    refine sendsOnce_mapResult ?_ fun _ => Service.resetRequested
    refine sendsOnce_bind (asks_ask rfl) fun _ => ?_
    refine sendsOnce_ask rfl (by decide) fun registered => sendsOnce_of_asks ?_
    exact asks_bind (asks_done registered) fun _ => asks_ask rfl

theorem resetPassword_sendsOnce (s : Service) (t p : Option LooseText) :
    (s.resetPassword t p).SendsOnce [.getdel, .update, .delete] := by
  refine sendsOnce_bind (asks_valid _) fun _ => ?_
  refine sendsOnce_bind (newPassword_asks p) fun password => ?_
  refine sendsOnce_ask rfl (by decide) fun popped => ?_
  refine sendsOnce_bind (asks_done popped) fun owner => ?_
  cases owner with
  | none => trivial
  | some id =>
    refine sendsOnce_bind (hash_asks s password rfl) fun _ => ?_
    refine sendsOnce_ask rfl (by decide) fun updated => ?_
    refine sendsOnce_bind (asks_done updated) fun any => ?_
    split
    · refine sendsOnce_ask rfl (by decide) fun deleted => sendsOnce_of_asks ?_
      refine asks_bind (asks_done deleted) fun _ => ?_
      exact asks_bind (asks_ask rfl) fun _ => trivial
    · trivial

theorem validateToken_sendsOnce (s : Service) (t : Option LooseText) :
    (s.validateToken t).SendsOnce [.select] := by
  unfold Service.validateToken
  split
  · trivial
  · refine sendsOnce_bind (asks_ask rfl) fun _ => ?_
    refine sendsOnce_bind (asks_ask rfl) fun _ => ?_
    split
    · trivial
    · trivial
    · split
      · exact sendsOnce_of_asks (asks_bind (asks_ask rfl) fun _ => trivial)
      · refine sendsOnce_ask rfl (by decide) fun found => sendsOnce_of_asks ?_
        refine asks_bind (asks_done found) fun row => ?_
        split
        · trivial
        · split <;> trivial

/-- Carries out an operation when the outages of each call are given by its number. -/
def Service.performUnder (s : Service) (op : Operation) (o : Nat → Outages) (w : World) :
    World × Except Failure Answer :=
  (op.plan s).runUnder s o w

/-- However commands begin and cease to fail during an operation, it answers and leaves the stores
as it does when some of them fail all the time. -/
theorem perform_under (s : Service) (op : Operation) (o : Nat → Outages) (w : World) :
    ∃ met : Outages, met.Among o ∧ s.perform op (w.under met) =
      ((s.performUnder op o w).1.under met, (s.performUnder op o w).2) := by
  have sends : ∃ free, (op.plan s).SendsOnce free := by
    cases op with
    | signUp email password firstName lastName =>
      exact ⟨_, sendsOnce_mapResult (signUp_sendsOnce ..) _⟩
    | login email password => exact ⟨_, sendsOnce_mapResult (login_sendsOnce ..) _⟩
    | forgotPassword email => exact ⟨_, sendsOnce_mapResult (forgotPassword_sendsOnce ..) _⟩
    | resetPassword token newPassword =>
      exact ⟨_, sendsOnce_mapResult (resetPassword_sendsOnce ..) _⟩
    | validateToken accessToken => exact ⟨_, sendsOnce_mapResult (validateToken_sendsOnce ..) _⟩
  obtain ⟨free, hfree⟩ := sends
  obtain ⟨met, hamong, hmet⟩ := run_under s hfree o w
  exact ⟨met, hamong, hmet met fun _ _ => rfl⟩

end Accounts
