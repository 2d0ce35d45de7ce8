import Accounts.Proofs.Account.Changes
import Accounts.Proofs.Text.Hex
import Accounts.Proofs.Token.Signing

/-! # Access to an account

Behind every accepted access token stands a login: it found the account active, the stored hash
verified the password, and only then the token was signed. Tokens of the other two sorts are never
accepted.
-/
namespace Accounts

open World

variable {s : Service} {w : World}

theorem id_of_row (s : Service) (start : Instant) (past : List Event) {u : User}
    (hu : u ∈ ((World.initial start).after s past).users) : ∃ id : Uuid, u.id = id.text := by
  induction past using run_induction generalizing u with
  | start => cases hu
  | step past e ih =>
    rw [after_snoc] at hu
    have hk := keyed_after s start past
    cases row_step hk e hu with
    | kept _ x _ hx same => exact same.id ▸ ih hx
    | reset t p x _ hx same => exact same.id ▸ ih hx
    | registered e p f l _ hactive hid => exact ⟨_, hid⟩

theorem access_ne_refresh : Token.accessType ≠ Token.refreshType := by
  decide

theorem accepted_of_sign {c : Token.Contents} {text : String}
    (hsign : Token.sign s.suite s.authority c.json = .ok text)
    (plain : (Json.read s.suite.nesting.secret .written s.authority.secret).isOk = false)
    (hissuer : c.issuer = s.authority.issuer)
    (htype : c.type = Token.accessType) {id : Uuid} (hsubject : c.subject = id.text)
    {issue expiry : Instant} (hissue : Time.ofSeconds c.issuedAt = .ok issue)
    (hexpiry : Time.ofSeconds c.expiresAt = .ok expiry) (hnow : w.now < expiry)
    (hfield : Validation.token (some (LooseText.ofString text)) = .ok (LooseText.ofString text))
    (ho : w.outages.users.select = false) {user : User} (hu : w.users.withId? id.text = some user)
    (ha : user.isActive = true) :
    (s.validateToken (some (LooseText.ofString text))).run s w =
      (w, .ok ⟨true, user.toPublic, "token is valid"⟩) := by
  have hverify : Token.verify s.suite s.authority w.now w.system (some c.type)
      (LooseText.ofString text) = .ok ⟨c.subject, c.type, c.id, issue, expiry⟩ :=
    Token.verify_of_sign hsign plain hissuer hissue hexpiry hnow
  rw [htype, hsubject] at hverify
  have hid : (LooseText.ofString id.text).string?.bind Uuid.ofText? = some id := by
    rw [LooseText.string?_ofString, Option.bind_some, Uuid.ofText?_text]
  exact validateToken_accepts hfield hverify hid ho hu ha

theorem length_mac (a : MacAlgorithm) (key msg : Bytes) :
    (Suite.standard.mac a key msg).length ≤ 64 := by
  cases a with
  | hs256 => exact Nat.le_trans (List.length_take_le ..) (by decide)
  | hs384 => exact Nat.le_trans (List.length_take_le ..) (by decide)
  | hs512 => exact Nat.le_trans (List.length_take_le ..) (by decide)

def annLogsIn : Event :=
  .operation (.login (some "ann@example.org") (some "first password 1"))

def accessContents : Token.Contents :=
  ⟨((World.initial 0).nextId .small).text, 0, 900,
    (((World.initial 0).after .small [annRegisters]).nextId .small).text, "accounts", "access"⟩

theorem field_of_accessContents {text : String} (h : Token.sign Service.small.suite
    Service.small.authority accessContents.json = .ok text) :
    (LooseText.ofString text).trim = LooseText.ofString text ∧
      Validation.token (some (LooseText.ofString text)) = .ok (LooseText.ofString text) := by
  have short : (Token.signedPart Service.small.authority.algorithm accessContents.json).length ≤
      1000 := by
    decide +kernel
  refine Token.field_of_sign h fun a key => ?_
  have hmac := length_mac a key (Token.signedBytes Service.small.authority.algorithm
    accessContents.json)
  have hsuite : Service.small.suite.mac = Suite.standard.mac := rfl
  have hmax : Validation.maxTokenLength = 2000 := rfl
  rw [hsuite]
  omega

end Accounts
