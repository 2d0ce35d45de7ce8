import Accounts.Proofs.Account.Recovery
import Accounts.Proofs.Text.FormText
import Accounts.Proofs.Token.Signing
import Accounts.Proofs.Validation.Address

/-! # Reset links

Whoever follows a reset link presents the token that the link was made for. The link has a query
of one field, which two readers understand alike, and a token that was drawn for a request is in it
as it stands and is accepted as it stands.
-/
namespace Accounts

open Text Text.FormEncoding

variable {s : Service} {w : World} {base token : String}

/-- The query of an address: what stands behind the first question mark, up to a number sign. -/
def queryOf (link : String) : List Char :=
  ((link.toList.takeWhile (· != '#')).dropWhile (· != '?')).drop 1

/-- The link is the base and a text that stands for the token. -/
structure CarriesToken (link base token text : String) : Prop where
  link_eq : link = base ++ "?token=" ++ text
  form : text.toList ∈ formText
  decoded : decode text = some token
  fields : pieces '&' (queryOf link) = ["token=".toList ++ text.toList]
  queried : queryText text.toList = token.toList

theorem toList_resetLink (base token : String) : (resetLink base token).toList =
    base.toList ++ '?' :: ("token=".toList ++ (encode token).toList) := by
  simp [resetLink]

theorem not_mem_field (mark : Char) (hname : mark ∉ "token=".toList)
    (hmark : mark ≠ '%' ∧ isUnescaped mark = false) (token : String) :
    mark ∉ "token=".toList ++ (encode token).toList := by
  rw [List.mem_append, not_or]
  exact ⟨hname, not_mem_of_formText hmark (encode_mem_formText token)⟩

theorem queryOf_resetLink (hquery : '?' ∉ base.toList) (hfragment : '#' ∉ base.toList) :
    queryOf (resetLink base token) = "token=".toList ++ (encode token).toList := by
  have hfield := not_mem_field '#' (by decide) (by decide) token
  have hwhole : (resetLink base token).toList.takeWhile (· != '#') =
      (resetLink base token).toList := by
    rw [List.takeWhile_eq_self_iff, toList_resetLink]
    intro c hc
    rw [bne_iff_ne]
    rintro rfl
    rcases List.mem_append.mp hc with hc | hc
    · exact hfragment hc
    · rcases List.mem_cons.mp hc with hc | hc
      · exact absurd hc (by decide)
      · exact hfield hc
  rw [queryOf, hwhole, toList_resetLink, (Validation.cut_first hquery _).2]
  rfl

theorem resetLink_carries (hquery : '?' ∉ base.toList) (hfragment : '#' ∉ base.toList)
    (token : String) : CarriesToken (resetLink base token) base token (encode token) where
  link_eq := rfl
  form := encode_mem_formText token
  decoded := decode_encode token
  fields := by
    rw [queryOf_resetLink hquery hfragment, pieces_eq_splitOn]
    exact List.splitOn_eq_singleton (not_mem_field '&' (by decide) (by decide) token)
  queried := queryText_encode token

theorem nextToken_of_mem_secrets {field : Option LooseText} {token : String}
    (h : token ∈ Step.secrets s ⟨w, .operation (.forgotPassword field)⟩) :
    ∃ v, token = World.nextToken s v := by
  obtain ⟨⟨v, call⟩, hmoment, hsecret⟩ := List.mem_filterMap.mp h
  rw [moments_forgotPassword] at hmoment
  have hask := Plan.call_of_mem_trace (forgotPassword_asks s field) hmoment
  cases call with
  | drawSecret size =>
    have hsize : size = Service.resetTokenSize := hask
    subst hsize
    exact ⟨v, (Option.some.inj hsecret).symm⟩
  | _ => cases hsecret

theorem encode_nextToken (s : Service) (w : World) :
    encode (w.nextToken s) = w.nextToken s :=
  encode_letters _

theorem trim_nextToken (s : Service) (w : World) :
    (LooseText.ofString (w.nextToken s)).trim = LooseText.ofString (w.nextToken s) := by
  rw [World.nextToken, Service.secretText]
  exact LooseText.trim_of_unblank fun c hc => Token.isBlank_of_mem_encode hc

/-- The link for a token is the base and a field in which the token is spelled with letters, digits,
a few marks and escapes. Both readers of such fields give the token back, so no other token has the
same link. A token drawn for a request is spelled as it stands, and a reset takes it unchanged. -/
theorem links_carry_tokens (base token : String) (hquery : '?' ∉ base.toList)
    (hfragment : '#' ∉ base.toList) :
    (∃ text, CarriesToken (resetLink base token) base token text) ∧
    (∀ other, resetLink base other = resetLink base token → other = token) ∧
    ∀ s w field, ∀ drawn ∈ Step.secrets s ⟨w, .operation (.forgotPassword field)⟩,
      CarriesToken (resetLink base drawn) base drawn drawn ∧
      (LooseText.ofString drawn).trim = LooseText.ofString drawn ∧
      drawn.length ≤ Validation.maxTokenLength ∧
      Validation.token (some (LooseText.ofString drawn)) = .ok (LooseText.ofString drawn) := by
  refine ⟨⟨_, resetLink_carries hquery hfragment token⟩, ?_, ?_⟩
  · intro other h
    have hlist := congrArg String.toList h
    rw [toList_resetLink, toList_resetLink] at hlist
    have hvalue := List.append_cancel_left (List.cons.inj (List.append_cancel_left hlist)).2
    exact encode_injective (String.toList_inj.mp hvalue)
  · intro s w field drawn h
    obtain ⟨v, rfl⟩ := nextToken_of_mem_secrets h
    have hcarries := resetLink_carries hquery hfragment (v.nextToken s)
    rw [encode_nextToken] at hcarries
    have hlength : (v.nextToken s).length ≤ Validation.maxTokenLength := by
      rw [length_resetToken]
      decide
    exact ⟨hcarries, trim_nextToken s v, hlength, token_of_trim (trim_nextToken s v)⟩

/-- Characters of one to four bytes, a space and marks that would end the field. -/
theorem link_of_mixed_token :
    ('?' ∉ "https://example.org/reset".toList ∧ '#' ∉ "https://example.org/reset".toList) ∧
    (∃ text, CarriesToken
      "https://example.org/reset?token=a%2Bb+%26%3D%C3%A9%E2%82%AC%F0%9F%98%80"
      "https://example.org/reset" "a+b &=é€😀" text) ∧
    (∀ other, resetLink "https://example.org/reset" other =
      resetLink "https://example.org/reset" "a+b &=é€😀" → other = "a+b &=é€😀") ∧
    ∃ drawn ∈ Step.secrets .small
        ⟨World.withAnn .small 0, .operation (.forgotPassword (some "ann@example.org"))⟩,
      CarriesToken (resetLink "https://example.org/reset" drawn) "https://example.org/reset" drawn
        drawn ∧
      Validation.token (some (LooseText.ofString drawn)) = .ok (LooseText.ofString drawn) := by
  have hquery : '?' ∉ "https://example.org/reset".toList := by decide
  have hfragment : '#' ∉ "https://example.org/reset".toList := by decide
  obtain ⟨hlink, honly, hdrawn⟩ :=
    links_carry_tokens "https://example.org/reset" "a+b &=é€😀" hquery hfragment
  have hmem : (World.withAnn .small 0).nextToken .small ∈ Step.secrets .small
      ⟨World.withAnn .small 0, .operation (.forgotPassword (some "ann@example.org"))⟩ := by
    decide
  obtain ⟨hcarries, -, -, htoken⟩ := hdrawn _ _ _ _ hmem
  exact ⟨⟨hquery, hfragment⟩, hlink, honly, _, hmem, hcarries, htoken⟩

end Accounts
