import Accounts.Proofs.Number.Rounding
import Accounts.Proofs.Token.Signing
import Accounts.Proofs.Service.History

/-! # Issued and verified

A token that was issued is verified as what it was issued for, until the expiry that was returned
with it and not from then on.
-/
namespace Accounts

theorem Time.eq_of_ofSeconds {n : Int} {t : Instant} (h : ofSeconds n = .ok t) :
    t = n * second := by
  unfold ofSeconds at h
  repeat' split at h
  all_goals cases h
  rfl

/-- The start of the last year of the calendar. -/
def Time.lastYear : Instant := 253370764800 * Time.second

theorem Time.isInstant_of_ofSeconds {n : Int} {t : Instant} (h : ofSeconds n = .ok t) :
    isInstant t = true := by
  unfold ofSeconds at h
  split at h
  · cases h
  split at h
  · cases h
  split at h
  · next hinstant =>
    cases h
    exact hinstant
  · cases h

theorem Time.ofSeconds_floorSeconds_of_le {t : Instant} {n : Int} (ht : isInstant t = true)
    (hn : isInstant (n * second) = true) (hle : t ≤ n * second) :
    ofSeconds (floorSeconds t) = .ok (floorSeconds t * second) := by
  have hmoderate := moderate_of_isInstant ht
  rw [isInstant, Bool.and_eq_true] at ht hn
  have hlow : -62135596800 ≤ floorSeconds t :=
    le_floorSeconds hmoderate (of_decide_eq_true ht.1)
  have hhigh : floorSeconds t ≤ n := floorSeconds_le hmoderate hle
  have hmin : earliest ≤ floorSeconds t * second :=
    Int.mul_le_mul_of_nonneg_right hlow (by decide)
  have hmax : floorSeconds t * second ≤ n * second :=
    Int.mul_le_mul_of_nonneg_right hhigh (by decide)
  apply ofSeconds_ok
  rw [isInstant, decide_eq_true hmin, decide_eq_true (Int.le_trans hmax (of_decide_eq_true hn.2))]
  rfl

theorem Time.ofSeconds_floorSeconds {t : Instant} (ht : Time.isInstant t = true)
    (hyear : t < Time.lastYear) :
    Time.ofSeconds (Time.floorSeconds t) = .ok (Time.floorSeconds t * Time.second) :=
  ofSeconds_floorSeconds_of_le ht (by decide) (Int.le_of_lt hyear)

namespace Token

def issuedContents (s : Service) (w : World) (authority : Authority) (subject : String)
    (ttl : Duration) (type : String) : Contents :=
  ⟨subject, Time.floorSeconds w.now, Time.ceilSeconds (w.now + ttl), (w.nextId s).text,
    authority.issuer, type⟩

theorem issueToken_ok_iff {s : Service} {w v : World} {authority : Authority}
    {subject type : String} {ttl : Duration} {issued : Issued} :
    w.issueToken s authority subject ttl type = (v, .ok issued) ↔
      v = w.afterId ∧ Time.isInstant (w.now + ttl) = true ∧
        sign s.suite authority (issuedContents s w authority subject ttl type).json =
          .ok issued.token ∧
        Time.ofSeconds (Time.ceilSeconds (w.now + ttl)) = .ok issued.expiresAt := by
  unfold World.issueToken lifespan Time.after?
  by_cases hend : Time.isInstant (w.now + ttl) = true
  · rw [if_pos hend]
    simp only [Prod.mk.injEq, finish_ok_iff, hend, true_and, eq_comm (a := v)]
    rfl
  · rw [if_neg hend]
    simp [hend]

/-- If the secret is no JSON text, whatever is issued before the last year is verified with its
subject, its type, the id drawn for it, the second written in it and the expiry that was returned.
That holds before the expiry, without an expected type or with its own; any other type is refused.
From the expiry on it is refused as expired. -/
theorem issued_token_verifies (s : Service) (w v : World) (authority : Authority)
    (subject type : String) (ttl : Duration) (issued : Issued)
    (plain : (Json.read s.suite.nesting.secret .written authority.secret).isOk = false)
    (calendar : Time.isInstant w.now = true) (early : w.now < Time.lastYear)
    (h : w.issueToken s authority subject ttl type = (v, .ok issued)) :
    (∃ d, decode s.suite.nesting issued.token = .ok d ∧
      d.payload.get? "iat" = some (.int (Time.floorSeconds w.now))) ∧
    ∀ now system : Instant,
      (now < issued.expiresAt →
        (∀ expected, expected = some type ∨ expected = none →
          verify s.suite authority now system expected issued.token =
            .ok ⟨subject, type, (w.nextId s).text, Time.floorSeconds w.now * Time.second,
              issued.expiresAt⟩) ∧
        ∀ other, other ≠ type →
          verify s.suite authority now system (some other) issued.token =
            .error (.refused (.otherType other type))) ∧
      (issued.expiresAt ≤ now → ∀ expected,
        verify s.suite authority now system expected issued.token = .error (.refused .expired)) := by
  obtain ⟨-, -, hsign, hexpiry⟩ := issueToken_ok_iff.mp h
  have hissue := Time.ofSeconds_floorSeconds calendar early
  constructor
  · obtain ⟨a, key, -, -, hdecodes⟩ :=
      decodes_of_sign hsign ⟨isShort_of_ofSeconds hissue, isShort_of_ofSeconds hexpiry⟩
    refine ⟨_, decode_ok_iff.mpr hdecodes, ?_⟩
    rw [get?_members]
    rfl
  · intro now system
    have hverify : ∀ expected, verify s.suite authority now system expected issued.token =
        checkUse now expected ⟨subject, type, (w.nextId s).text,
          Time.floorSeconds w.now * Time.second, issued.expiresAt⟩ :=
      fun expected => verify_sign hsign plain rfl hissue hexpiry
    constructor
    · intro hnow
      constructor
      · intro expected hexpected
        rw [hverify]
        refine checkUse_ok_iff.mpr ⟨rfl, hnow, ?_⟩
        rintro t rfl
        rcases hexpected with heq | heq
        · cases heq
          rfl
        · cases heq
      · intro other hother
        rw [hverify]
        refine checkUse_otherType_iff.mpr ⟨hnow, rfl, rfl, ?_⟩
        intro heq
        exact hother (LooseText.ofString_injective heq).symm
    · intro hnow expected
      rw [hverify]
      exact checkUse_expired_iff.mpr hnow

/-- Issued one and a half seconds before the epoch, for less than a second after it. -/
theorem token_from_before_epoch_verifies : ∃ v issued,
    (World.initial (-1500000)).issueToken .small Service.small.authority "\"\n😀" 2250000 "" =
      (v, .ok issued) ∧
    issued.expiresAt = Time.second ∧
    verify Service.small.suite Service.small.authority 999999 0 none issued.token =
      .ok ⟨LooseText.ofString "\"\n😀", LooseText.ofString "",
        ((World.initial (-1500000)).nextId .small).text, -2 * Time.second, Time.second⟩ ∧
    verify Service.small.suite Service.small.authority 1000000 0 none issued.token =
      .error (.refused .expired) := by
  have plain : (Json.read Service.small.suite.nesting.secret .written
      Service.small.authority.secret).isOk = false := by
    decide
  have key : signingKey Service.small.authority.secret =
      .ok (Text.utf8 Service.small.authority.secret) := by
    rw [signingKey, textKey, if_neg (by decide)]
  have ceil : Time.ceilSeconds (-1500000 + 2250000) = 1 := by decide
  have floor : Time.floorSeconds (-1500000) = -2 := by decide
  have expiry : Time.ofSeconds 1 = .ok (1 * Time.second) := Time.ofSeconds_ok (by decide)
  have before : (999999 : Instant) < Time.second := by decide
  have reached : Time.second ≤ (1000000 : Instant) := by decide
  obtain ⟨text, hsign⟩ : ∃ text, sign Service.small.suite Service.small.authority
      (issuedContents .small (World.initial (-1500000)) Service.small.authority "\"\n😀" 2250000
        "").json = .ok text :=
    ⟨_, sign_ok_iff.mpr ⟨.hs256, _, MacAlgorithm.ofName?_name .hs256, key, rfl⟩⟩
  have hissue : (World.initial (-1500000)).issueToken .small Service.small.authority "\"\n😀"
      2250000 "" = (_, .ok ⟨text, Time.second⟩) :=
    issueToken_ok_iff.mpr ⟨rfl, by decide, hsign, ceil ▸ expiry⟩
  obtain ⟨-, hverify⟩ :=
    issued_token_verifies .small _ _ _ _ _ _ _ plain (by decide) (by decide) hissue
  refine ⟨_, _, hissue, rfl, ?_, (hverify 1000000 0).2 reached none⟩
  have haccepted := ((hverify 999999 0).1 before).1 none (.inr rfl)
  rw [haccepted]
  change _ = Except.ok (Claims.mk _ _ _ _ _)
  rw [← floor]
  rfl

end Token

end Accounts
