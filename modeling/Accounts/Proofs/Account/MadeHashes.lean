import Accounts.Proofs.Account.Credentials
import Accounts.Proofs.Token.Length

/-! # Hashes that were made

Every hash that is stored was made by the service, and so was the one that is checked for unknown
emails. So every text can be checked against them, and whoever can be checked against one account
can be checked against none.
-/
namespace Accounts

open World Plan

variable {s : Service} {w v : World} {u : User}

/-- The text is a hash that the service makes. -/
def Service.Made (s : Service) (hash : String) : Prop :=
  ∃ password w, ((s.hash password).run s w).2 = .ok hash

theorem Service.Made.verify {hash : String} (h : s.Made hash) :
    ∃ params, ∀ p, Password.verify s.suite hash p =
      .ok (!Password.isTooLong p && Password.compute s.suite params p == hash) := by
  obtain ⟨q, w, hq⟩ := h
  obtain ⟨params, hparams, -⟩ := params_of_hash hq
  exact ⟨params, fun p => Password.verify_of_params hparams p⟩

theorem Service.Made.check {hash : String} (h : s.Made hash) (password : LooseText) (w : World) :
    (Service.checkPassword hash password).run s w =
      (w, match password.string? with
        | some p => .ok (Password.verify s.suite hash p)
        | none => .error (.broken .encoding)) := by
  unfold Service.checkPassword
  cases password.string? with
  | some p => rfl
  | none =>
    obtain ⟨params, hverify⟩ := h.verify
    cases hshape : Password.Shape.ofChars? hash.toList with
    | some shape => rfl
    | none =>
      have hformat := hverify ""
      rw [Password.verify, hshape] at hformat
      cases hformat

theorem width_char : ∀ n < 64, (Encoding.Base64.char n).utf8Size = 1 := by
  decide

theorem dummySecret_short (bytes : Vector UInt8 Service.dummySize) :
    Password.isTooLong (Service.secretText bytes) = false := by
  have hlength : (Text.utf8 (Service.secretText bytes)).length = 22 := by
    rw [Service.secretText, Text.length_utf8, Text.width_eq_length, Token.length_encode,
      Vector.length_toList]
    · rfl
    · intro c hc
      rw [Encoding.Base64.encode, Encoding.encodeSextets_eq_map] at hc
      obtain ⟨n, hn, rfl⟩ := List.mem_map.mp hc
      exact width_char n (Encoding.sextets_lt _ n hn)
  rw [Password.isTooLong, hlength]
  rfl

theorem Service.Made.hash {hash password : String} (h : s.Made hash)
    (short : Password.isTooLong password = false) (w : World) :
    ∃ hash', (s.hash password).run s w = (w.afterSalt, .ok hash') := by
  obtain ⟨q, w', hq⟩ := h
  rw [hash_run] at hq ⊢
  cases hcost : Password.costOfRounds s.rounds with
  | error e =>
    rw [hcost] at hq
    cases hq
  | ok cost =>
    rw [short]
    exact ⟨_, rfl⟩

/-- Every hash that is stored or kept for unknown emails was made by the service. -/
structure World.HashesMade (s : Service) (w : World) : Prop where
  rows : ∀ u ∈ w.users, s.Made u.passwordHash
  dummy : ∀ hash, w.dummy = some hash → s.Made hash

def Call.LeavesDummy : Call → Prop
  | .keepDummy _ => False
  | _ => True

theorem answer_dummy (s : Service) (w : World) {c : Call} (hc : c.LeavesDummy) :
    (w.answer s c).1.dummy = w.dummy := by
  cases c with
  | issueToken authority subject ttl type =>
    simp only [answer, issueToken]
    split <;> rfl
  | keepDummy => exact hc.elim
  | now | systemTime | drawSecret | drawSalt | recallDummy | checkPassword | createUser
  | findByEmail | findById | updatePassword | updateLastLogin | putSession | getSession | popSession
  | deleteSession | pingSessions | probeDatabase | note => rfl

/-- Carrying out the plan keeps it so that the hash for unknown emails was made. -/
def Plan.KeepsDummyMade {α : Type} (s : Service) (p : Plan α) : Prop :=
  ∀ w : World, (∀ hash, w.dummy = some hash → s.Made hash) →
    ∀ hash, (p.run s w).1.dummy = some hash → s.Made hash

variable {α β : Type}

theorem keepsDummyMade_of_asks {p : Plan α} (hp : p.Asks Call.LeavesDummy) :
    p.KeepsDummyMade s := by
  intro w hw
  refine run_invariant (R := fun v => ∀ hash, v.dummy = some hash → s.Made hash) hp ?_ hw
  intro v c hc hv
  rwa [answer_dummy s v hc]

theorem keepsDummyMade_bind {p : Plan α} {f : α → Plan β} (hp : p.KeepsDummyMade s)
    (hf : ∀ a, (f a).KeepsDummyMade s) : (p >>= f).KeepsDummyMade s := by
  intro w hw
  have hv := hp w hw
  rw [bind_eq, run_bind]
  generalize p.run s w = x at hv
  obtain ⟨v, e | a⟩ := x
  · exact hv
  · exact hf a v hv

theorem dummyHash_known {hash : String} (hd : w.dummy = some hash) :
    s.dummyHash.run s w = (w, .ok hash) := by
  unfold Service.dummyHash
  rw [run_bind_ask]
  simp only [answer, hd]
  rfl

theorem dummyHash_first (hd : w.dummy = none) :
    s.dummyHash.run s w =
      match (s.hash (Service.secretText (s.source.secret w.draws.secrets Service.dummySize))).run s
          w.afterSecret with
      | (v, .ok hash) => ({ v with dummy := some hash }, .ok hash)
      | (v, .error e) => (v, .error e) := by
  unfold Service.dummyHash
  rw [run_bind_ask]
  simp only [answer, hd]
  rw [run_drawSecret, bind_eq, run_bind]
  rcases (s.hash _).run s w.afterSecret with ⟨v, e | hash⟩ <;> rfl

theorem dummyHash_keepsMade (s : Service) : s.dummyHash.KeepsDummyMade s := by
  intro w hw
  cases hd : w.dummy with
  | some known =>
    rw [dummyHash_known hd]
    exact hw
  | none =>
    have kept : ((s.hash (Service.secretText (s.source.secret w.draws.secrets
        Service.dummySize))).run s w.afterSecret).1.dummy = none := by
      refine run_invariant (R := fun v => v.dummy = none)
        (hash_asks s _ (P := Call.LeavesDummy) trivial) ?_ hd
      intro v c hc hv
      rw [answer_dummy s v hc, hv]
    rw [dummyHash_first hd]
    rcases hrun : (s.hash _).run s w.afterSecret with ⟨v, e | made⟩
    · rw [hrun] at kept
      intro hash hkept
      cases kept.symm.trans hkept
    · intro hash hkept
      cases hkept
      exact ⟨_, _, congrArg Prod.snd hrun⟩

theorem dummyHash_made (made : ∀ hash, w.dummy = some hash → s.Made hash) {hash : String}
    (h : s.Made hash) : ∃ x dummy, s.dummyHash.run s w = (x, .ok dummy) ∧ s.Made dummy := by
  cases hd : w.dummy with
  | some known => exact ⟨w, known, dummyHash_known hd, made known hd⟩
  | none =>
    obtain ⟨dummy, hrun⟩ := h.hash
      (dummySecret_short (s.source.secret w.draws.secrets Service.dummySize)) w.afterSecret
    refine ⟨{ w.afterSecret.afterSalt with dummy := some dummy }, dummy, ?_, _, _,
      congrArg Prod.snd hrun⟩
    rw [dummyHash_first hd, hrun]

theorem checkPassword_leavesDummy (stored : String) (password : LooseText) :
    (Service.checkPassword stored password).Asks Call.LeavesDummy := by
  unfold Service.checkPassword
  split
  · exact asks_ask trivial
  · split <;> trivial

theorem rejectUnknown_keepsMade (s : Service) (password : LooseText) :
    (s.rejectUnknown password).KeepsDummyMade s := by
  apply keepsDummyMade_bind (dummyHash_keepsMade s)
  intro dummy
  apply keepsDummyMade_of_asks
  exact asks_bind (checkPassword_leavesDummy dummy password) fun _ => trivial

theorem login_keepsMade (s : Service) (email password : Option LooseText) :
    (s.login email password).KeepsDummyMade s := by
  apply keepsDummyMade_bind (keepsDummyMade_of_asks (asks_valid _))
  intro address
  apply keepsDummyMade_bind (keepsDummyMade_of_asks (asks_valid _))
  intro presented
  refine keepsDummyMade_bind (keepsDummyMade_of_asks ?_) fun found => ?_
  · exact asks_ask trivial
  apply keepsDummyMade_bind (keepsDummyMade_of_asks (asks_done found))
  intro row
  cases row with
  | none => exact rejectUnknown_keepsMade s presented
  | some user =>
    apply keepsDummyMade_of_asks
    refine asks_bind (checkPassword_leavesDummy _ presented) fun checked => ?_
    have opens : (s.startSession user).Asks Call.LeavesDummy := by
      refine (startSession_asks s user).mono fun c hc => ?_
      cases c <;> trivial
    split
    · exact asks_bind (asks_ask trivial) fun _ => trivial
    · split
      · exact opens
      · trivial

theorem plan_keepsMade (s : Service) (op : Operation) : (op.plan s).KeepsDummyMade s := by
  cases op with
  | login email password =>
    intro w hw
    rw [Operation.plan, run_mapResult]
    exact login_keepsMade s email password w hw
  | signUp | forgotPassword | resetPassword | validateToken =>
    apply keepsDummyMade_of_asks
    refine (plan_asks s _).mono fun c hc => ?_
    cases c <;> trivial

theorem World.HashesMade.step (h : w.HashesMade s) (hk : w.users.Keyed) (e : Event) :
    (w.next s e).HashesMade s where
  rows := by
    intro v hv
    cases row_step hk e hv with
    | kept _ x _ hx same hhash =>
      rw [hhash]
      exact h.rows x hx
    | reset t p x _ hx same active hp hl hm hh => exact ⟨_, _, hh⟩
    | registered e p f l _ active hid he ht hp hh => exact ⟨_, _, hh⟩
  dummy := by
    cases e with
    | operation op => exact plan_keepsMade s op w h.dummy
    | advance d =>
      simp only [next, advance]
      split <;> exact h.dummy
    | setSystem | outages | activate => exact h.dummy

theorem hashesMade_after (s : Service) (start : Instant) (past : List Event) :
    ((initial start).after s past).HashesMade s := by
  induction past using run_induction with
  | start =>
    constructor
    · intro u hu
      cases hu
    · intro hash hd
      cases hd
  | step past e ih =>
    rw [after_snoc]
    exact ih.step (keyed_after s start past) e

end Accounts
