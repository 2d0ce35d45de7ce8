import Accounts.Proofs.Number.Nearest
import Accounts.Proofs.Token.Expiry

/-! # Exact seconds

Up to `2 ^ 34` seconds, everything the service counts in seconds or minutes is what the exact
quotient gives, although it is taken from a double: the instants in a token, the lifetime of a
session entry, the promise of a login and the minutes of a reset link.
-/
namespace Accounts

open World

namespace Time

open Double

variable {us : Int}

/-- A count of microseconds in seconds, not rounded. -/
def exactSeconds (us : Int) : ℚ :=
  us / 1000000

theorem IsModerate.isNearest (h : IsModerate us) : (seconds us).IsNearest (exactSeconds us) :=
  isNearest_ofRatio (by decide) h (by decide)

theorem floor_exactSeconds (us : Int) : ⌊exactSeconds us⌋ = us / second :=
  Rat.floor_intCast_div_natCast us 1000000

theorem ceil_exactSeconds (us : Int) : ⌈exactSeconds us⌉ = -(-us / second) := by
  have hopposite : exactSeconds us = -exactSeconds (-us) := by
    rw [exactSeconds, exactSeconds, Int.cast_neg, neg_div, neg_neg]
  rw [hopposite, Int.ceil_neg, floor_exactSeconds]

theorem truncated_exactSeconds (us : Int) : truncated (exactSeconds us) = us.tdiv second := by
  have hsign : 0 ≤ exactSeconds us ↔ 0 ≤ us := by
    rw [exactSeconds, le_div_iff₀ (by decide), zero_mul, Int.cast_nonneg_iff]
  unfold truncated
  split
  · next h => rw [floor_exactSeconds, Int.tdiv_eq_ediv_of_nonneg (hsign.mp h)]
  · next h =>
    have hneg : us < 0 := Int.not_le.mp fun hle => h (hsign.mpr hle)
    rw [ceil_exactSeconds, ← Int.tdiv_eq_ediv_of_nonneg (by omega), Int.neg_tdiv, neg_neg]

/-- Whole seconds are taken from the nearest double, and are those of the exact quotient. -/
structure RoundsExactly (us : Int) : Prop where
  nearest : (seconds us).IsNearest (exactSeconds us)
  down : floorSeconds us = ⌊(seconds us).value⌋ ∧ floorSeconds us = ⌊exactSeconds us⌋
  up : ceilSeconds us = ⌈(seconds us).value⌉ ∧ ceilSeconds us = ⌈exactSeconds us⌉
  towardZero : wholeSeconds us = truncated (seconds us).value ∧
    wholeSeconds us = truncated (exactSeconds us)

theorem IsExact.rounds (h : IsExact us) : RoundsExactly us := by
  have hnearest := h.moderate.isNearest
  constructor
  · exact hnearest
  · refine ⟨?_, (floorSeconds_eq h).trans (floor_exactSeconds us).symm⟩
    rw [floorSeconds, floor?_eq_floor hnearest.stored]
    rfl
  · refine ⟨?_, (ceilSeconds_eq h).trans (ceil_exactSeconds us).symm⟩
    rw [ceilSeconds, ceil?_eq_ceil hnearest.stored]
    rfl
  · refine ⟨?_, (wholeSeconds_eq h).trans (truncated_exactSeconds us).symm⟩
    rw [wholeSeconds, truncate?_eq_truncated hnearest.stored]
    rfl

theorem minutes_eq (h : IsExact us) : minutes us = ⌊exactSeconds us / 60⌋ := by
  have hsixty : exactSeconds us / 60 = (us : ℚ) / (60000000 : ℕ) := by
    rw [exactSeconds, div_div]
    norm_num
  rw [hsixty, Rat.floor_intCast_div_natCast, minutes, floorSeconds_eq h,
    Int.ediv_ediv_of_nonneg (by decide)]
  rfl

theorem floor_bounds (us : Int) :
    ⌊exactSeconds us⌋ * second ≤ us ∧ us < ⌊exactSeconds us⌋ * second + second := by
  rw [floor_exactSeconds]
  change us / 1000000 * 1000000 ≤ us ∧ us < us / 1000000 * 1000000 + 1000000
  omega

theorem IsExact.ceilSeconds (h : IsExact us) : IsExact (ceilSeconds us * second) := by
  have hsecond : second = 1000000 := rfl
  rw [ceilSeconds_eq h, hsecond]
  rw [IsExact] at h ⊢
  omega

theorem le_max_ceilSeconds (h : IsExact us) : us ≤ max 1 (ceilSeconds us) * second :=
  calc us ≤ ceilSeconds us * second := (ceilSeconds_bounds h).1
    _ ≤ max 1 (ceilSeconds us) * second :=
      Int.mul_le_mul_of_nonneg_right (Int.le_max_right ..) (by decide)

end Time

variable {s : Service} {w v : World}

def Outcome.OnlyErrors {σ α : Type} (x : Outcome σ α) : Prop :=
  ∀ n ∈ x.notes, n.level = .error

section Errors

variable {σ α : Type}

theorem onlyErrors_quiet {x : Outcome σ α} (h : x.notes = []) : x.OnlyErrors := by
  rw [Outcome.OnlyErrors, h]
  exact fun _ hn => nomatch hn

theorem onlyErrors_single {x : Outcome σ α} {m : Note} (h : x.notes = [m])
    (hm : m.level = .error) : x.OnlyErrors := by
  rw [Outcome.OnlyErrors, h]
  intro n hn
  rw [List.mem_singleton.mp hn, hm]

theorem create_onlyErrors (outages : Users.Outages) (system : Instant) (id : String) (d : Draft)
    (us : Users) : (Users.create outages system id d us).OnlyErrors := by
  unfold Users.create
  split
  · exact onlyErrors_single rfl rfl
  · split
    · exact onlyErrors_quiet rfl
    · split
      · exact onlyErrors_quiet rfl
      · split <;> exact onlyErrors_quiet rfl

theorem update_onlyErrors (outages : Users.Outages) (t : Instant) (columns : List String)
    (change : Option (User → User)) (id : Option String) (us : Users) :
    (Users.update outages t columns change id us).OnlyErrors := by
  unfold Users.update
  split
  · exact onlyErrors_single rfl rfl
  · split
    · exact onlyErrors_quiet rfl
    · split
      · exact onlyErrors_single rfl rfl
      · exact onlyErrors_quiet rfl

theorem put_onlyErrors (backing : Session.Backing) (outages : Session.Outages) (now : Instant)
    (key : LooseText) (value : String) (ttl : Duration) (es : Session.Entries) :
    (Session.put backing outages now key value ttl es).OnlyErrors := by
  unfold Session.put
  split
  · exact onlyErrors_single rfl rfl
  · split <;> exact onlyErrors_quiet rfl

theorem onlyErrors_ite {b : Bool} {x y : Outcome σ α} {m : Note} (hx : x.notes = [m])
    (hm : m.level = .error) (hy : y.notes = []) :
    (if b = true then x else y : Outcome σ α).OnlyErrors := by
  split
  · exact onlyErrors_single hx hm
  · exact onlyErrors_quiet hy

end Errors

theorem log_answer (s : Service) (w : World) (c : Call) :
    ∃ ns, (w.answer s c).1.log = w.log ++ ns ∧ ∀ n ∈ ns, c = .note n ∨ n.level = .error := by
  have added : ∀ {σ α : Type} {x : Outcome σ α}, (w.answer s c).1.log = w.log ++ x.notes →
      x.OnlyErrors →
        ∃ ns, (w.answer s c).1.log = w.log ++ ns ∧ ∀ n ∈ ns, c = .note n ∨ n.level = .error :=
    fun heq errors => ⟨_, heq, fun n hn => .inr (errors n hn)⟩
  have nothing : (w.answer s c).1.log = w.log →
      ∃ ns, (w.answer s c).1.log = w.log ++ ns ∧ ∀ n ∈ ns, c = .note n ∨ n.level = .error :=
    fun heq => ⟨[], by rw [heq, List.append_nil], nofun⟩
  cases c with
  | createUser d => exact added rfl (create_onlyErrors w.outages.users w.system _ d w.users)
  | updatePassword id hash => exact added rfl (update_onlyErrors w.outages.users w.now _ _ id _)
  | updateLastLogin id at? => exact added rfl (update_onlyErrors w.outages.users w.system _ _ id _)
  | putSession key value ttl =>
    exact added rfl (put_onlyErrors s.backing w.outages.sessions w.now key value ttl w.sessions)
  | findByEmail email => exact added rfl (onlyErrors_ite rfl rfl rfl)
  | findById id => exact added rfl (onlyErrors_ite rfl rfl rfl)
  | getSession key => exact added rfl (onlyErrors_ite rfl rfl rfl)
  | popSession key => exact added rfl (onlyErrors_ite rfl rfl rfl)
  | deleteSession key => exact added rfl (onlyErrors_ite rfl rfl rfl)
  | note m =>
    refine ⟨[m], rfl, fun n hn => .inl ?_⟩
    rw [List.mem_singleton.mp hn]
  | issueToken authority subject ttl type =>
    exact nothing (log_issueToken s w authority subject ttl type)
  | now | systemTime | drawSecret | drawSalt | recallDummy | keepDummy | checkPassword | pingSessions
  | probeDatabase => exact nothing rfl

def Call.TellsMinutes (s : Service) (c : Call) : Prop :=
  ∀ id link m, c = .note (.resetLink id link m) → m = Time.minutes s.lifetimes.reset

theorem forgotPassword_tellsMinutes (s : Service) (field : Option LooseText) :
    (s.forgotPassword field).Asks (Call.TellsMinutes s) := by
  refine Plan.asks_bind (Plan.asks_valid _) fun _ => ?_
  refine Plan.asks_bind (Plan.asks_ask nofun) fun _ => ?_
  refine Plan.asks_bind (Plan.asks_done _) fun found => ?_
  cases found with
  | none => trivial
  | some user =>
    refine Plan.asks_bind ?_ fun _ => trivial
    refine Plan.asks_bind (Plan.asks_ask nofun) fun _ => ?_
    refine Plan.asks_bind (Plan.asks_ask nofun) fun _ => ?_
    refine Plan.asks_bind (Plan.asks_done _) fun _ => Plan.asks_ask ?_
    intro id link m heq
    cases heq
    rfl

theorem minutes_of_forgotPassword (s : Service) (w : World) (field : Option LooseText) :
    ∃ ns, ((s.forgotPassword field).run s w).1.log = w.log ++ ns ∧
      ∀ id link m, .resetLink id link m ∈ ns → m = Time.minutes s.lifetimes.reset := by
  refine Plan.run_invariant (R := fun v => ∃ ns, v.log = w.log ++ ns ∧
    ∀ id link m, .resetLink id link m ∈ ns → m = Time.minutes s.lifetimes.reset)
    (forgotPassword_tellsMinutes s field) ?_ ⟨[], (List.append_nil _).symm, nofun⟩
  rintro v c hc ⟨ns, hlog, hminutes⟩
  obtain ⟨more, hmore, hnotes⟩ := log_answer s v c
  refine ⟨ns ++ more, by rw [hmore, hlog, List.append_assoc], fun id link m hmem => ?_⟩
  rcases List.mem_append.mp hmem with hold | hnew
  · exact hminutes id link m hold
  · rcases hnotes _ hnew with hnote | herror
    · exact hc id link m hnote
    · cases herror

theorem lifespan_eq {now : Instant} {ttl : Duration} (ends : Time.IsExact (now + ttl)) :
    Token.lifespan now ttl = .ok (Time.floorSeconds now, Time.ceilSeconds (now + ttl)) := by
  rw [Token.lifespan, Time.after?, if_pos (Time.isInstant_of_exact ends)]

theorem issueToken_of_sign {authority : Token.Authority} {subject type token : String}
    {ttl : Duration} (ends : Time.IsExact (w.now + ttl))
    (h : Token.sign s.suite authority
      (Token.issuedContents s w authority subject ttl type).json = .ok token) :
    w.issueToken s authority subject ttl type =
      (w.afterId, .ok ⟨token, Time.ceilSeconds (w.now + ttl) * Time.second⟩) := by
  have hdate := Time.ofSeconds_ok (Time.isInstant_of_exact ends.ceilSeconds)
  exact Token.issueToken_ok_iff.mpr ⟨rfl, Time.isInstant_of_exact ends, h, hdate⟩

theorem instants_of_issueToken {authority : Token.Authority} {subject type : String}
    {ttl : Duration} {issued : Token.Issued} (begins : Time.IsExact w.now)
    (h : w.issueToken s authority subject ttl type = (v, .ok issued)) :
    ∃ d, Token.decode s.suite.nesting issued.token = .ok d ∧
      d.payload.get? "iat" = some (.int (Time.floorSeconds w.now)) ∧
      d.payload.get? "exp" = some (.int (Time.ceilSeconds (w.now + ttl))) := by
  obtain ⟨-, -, hsign, -⟩ := Token.issueToken_ok_iff.mp h
  have hshort := Token.issuedContents_short (Time.isInstant_of_exact begins) h
  obtain ⟨a, key, -, -, hdecodes⟩ := Token.decodes_of_sign hsign hshort
  refine ⟨_, Token.decode_ok_iff.mpr hdecodes, ?_, ?_⟩
  · rw [Token.get?_members]
    rfl
  · rw [Token.get?_members]
    rfl

/-- Let now, a duration and the end of that duration from now on be within `2 ^ 34` seconds. Their
whole seconds are taken from the nearest doubles and are those of the exact quotients. A token for
the duration is issued if it can be signed, with the floor of now as its issue and the ceiling of
the end as its expiry; an entry put for it gets its ceiling, and at least a second; a login with it
as the access lifetime promises it without its fraction; and a reset link with it as the reset
lifetime tells the floor of its minutes. So the issue is less than a second before now, the expiry
is less than a second after the end, and no entry goes before its time. -/
theorem seconds_exact (s : Service) (w : World) (ttl : Duration) (begins : Time.IsExact w.now)
    (ends : Time.IsExact (w.now + ttl)) (lasts : Time.IsExact ttl) :
    (Time.RoundsExactly w.now ∧ Time.RoundsExactly (w.now + ttl) ∧ Time.RoundsExactly ttl) ∧
    Token.lifespan w.now ttl =
      .ok (⌊Time.exactSeconds w.now⌋, ⌈Time.exactSeconds (w.now + ttl)⌉) ∧
    (∀ authority subject type token,
      Token.sign s.suite authority (Token.Contents.json ⟨subject, ⌊Time.exactSeconds w.now⌋,
        ⌈Time.exactSeconds (w.now + ttl)⌉, (w.nextId s).text, authority.issuer, type⟩) =
          .ok token →
        w.issueToken s authority subject ttl type = (w.afterId,
          .ok ⟨token, ⌈Time.exactSeconds (w.now + ttl)⌉ * Time.second⟩)) ∧
    (∀ authority subject type v issued,
      w.issueToken s authority subject ttl type = (v, .ok issued) →
        ∃ d, Token.decode s.suite.nesting issued.token = .ok d ∧
          d.payload.get? "iat" = some (.int ⌊Time.exactSeconds w.now⌋) ∧
          d.payload.get? "exp" = some (.int ⌈Time.exactSeconds (w.now + ttl)⌉)) ∧
    (∀ key value, (Session.Operation.put key value ttl).command =
      .set key value (max 1 ⌈Time.exactSeconds ttl⌉)) ∧
    (∀ email password l, s.lifetimes.access = ttl →
      (s.perform (.login email password) w).2 = .ok (.loggedIn l) →
        l.expiresIn = Double.truncated (Time.exactSeconds ttl)) ∧
    (∀ field, s.lifetimes.reset = ttl →
      ∃ ns, ((s.forgotPassword field).run s w).1.log = w.log ++ ns ∧
        ∀ id link m, .resetLink id link m ∈ ns → m = ⌊Time.exactSeconds ttl / 60⌋) ∧
    (⌊Time.exactSeconds w.now⌋ * Time.second ≤ w.now ∧
      w.now < ⌊Time.exactSeconds w.now⌋ * Time.second + Time.second) ∧
    (w.now + ttl ≤ ⌈Time.exactSeconds (w.now + ttl)⌉ * Time.second ∧
      ⌈Time.exactSeconds (w.now + ttl)⌉ * Time.second < w.now + ttl + Time.second) ∧
    ttl ≤ max 1 ⌈Time.exactSeconds ttl⌉ * Time.second := by
  have hnow := begins.rounds
  have hend := ends.rounds
  have httl := lasts.rounds
  refine ⟨⟨hnow, hend, httl⟩, ?_, ?_, ?_, ?_, ?_, ?_, ?_, ?_, ?_⟩
  · rw [lifespan_eq ends, hnow.down.2, hend.up.2]
  · intro authority subject type token h
    rw [← hnow.down.2, ← hend.up.2] at h
    rw [← hend.up.2]
    exact issueToken_of_sign ends h
  · intro authority subject type v issued h
    rw [← hnow.down.2, ← hend.up.2]
    exact instants_of_issueToken begins h
  · intro key value
    rw [Session.Operation.command, Session.ttlSeconds, httl.up.2]
  · intro email password l haccess h
    rw [expiresIn_of_login h, haccess, httl.towardZero.2]
  · intro field hreset
    rw [← Time.minutes_eq lasts, ← hreset]
    exact minutes_of_forgotPassword s w field
  · exact Time.floor_bounds w.now
  · rw [← hend.up.2]
    exact Time.ceilSeconds_bounds ends
  · rw [← httl.up.2]
    exact Time.le_max_ceilSeconds lasts

/-- From a second and a half before the epoch for two seconds and a quarter. -/
theorem seconds_exact_around_epoch :
    Time.RoundsExactly (-1500000) ∧ Token.lifespan (-1500000) 2250000 = .ok (-2, 1) ∧
      ∀ key value, (Session.Operation.put key value 2250000).command = .set key value 3 := by
  have hfloor : ⌊Time.exactSeconds (-1500000)⌋ = -2 := by
    rw [Time.floor_exactSeconds]
    decide
  have hend : ⌈Time.exactSeconds (-1500000 + 2250000)⌉ = 1 := by
    rw [Time.ceil_exactSeconds]
    decide
  have hlifetime : ⌈Time.exactSeconds 2250000⌉ = 3 := by
    rw [Time.ceil_exactSeconds]
    decide
  obtain ⟨⟨hnow, -, -⟩, hspan, -, -, hput, -⟩ :=
    seconds_exact .small (.initial (-1500000)) 2250000 (by decide) (by decide) (by decide)
  refine ⟨hnow, ?_, fun key value => ?_⟩
  · rw [← hfloor, ← hend]
    exact hspan
  · rw [hput, hlifetime]
    rfl

end Accounts
