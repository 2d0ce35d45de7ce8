import Accounts.Proofs.Encoding.Sextets
import Accounts.Proofs.Json.Nesting
import Accounts.Proofs.Token.Decoding

/-! # Tokens that are nested too deep

A payload that only opens arrays is too deep once there are enough of them, signed or not. A token
with no more characters than can be followed has no such payload.
-/
namespace Accounts.Token

variable {nesting : Json.Nesting}

/-- A token that nobody signed. Its header is empty, and its payload opens arrays. -/
def openedToken (n : Nat) : String :=
  String.ofList ("e30".toList ++ '.' :: (Encoding.Base64.encode
    (Text.utf8 (String.ofList (List.replicate n '['))) ++ '.' :: "xx".toList))

theorem jsonIn_braces (depth : Nat) : jsonIn depth [123, 125] = some (.object []) := by
  have htext : Text.ofUtf8? [123, 125] = some "\x7b\x7d" := Text.ofUtf8?_utf8 "\x7b\x7d"
  rw [jsonIn, htext]
  rfl

def openedPayload (n : Nat) : Bytes :=
  (Encoding.Base64.encode (Text.utf8 (String.ofList (List.replicate n '[')))).flatMap
    String.utf8EncodeChar

theorem utf8_openedToken (n : Nat) :
    Text.utf8 (openedToken n) =
      Text.utf8 "e30" ++ dot :: openedPayload n ++ dot :: Text.utf8 "xx" := by
  rw [Text.utf8, openedToken, String.toList_ofList, List.flatMap_append, List.flatMap_cons,
    List.flatMap_append, List.flatMap_cons, List.append_assoc]
  rfl

theorem dot_not_mem_openedToken : dot ∉ Text.utf8 "e30" ∧ dot ∉ Text.utf8 "xx" := by
  decide +kernel

theorem parts_openedToken (n : Nat) :
    Parts.ofText? (LooseText.ofString (openedToken n)) =
      some ⟨Text.utf8 "e30" ++ dot :: openedPayload n, Text.utf8 "e30", openedPayload n,
        Text.utf8 "xx"⟩ :=
  ofText?_eq_some_iff.mpr ⟨_, rfl, utf8_openedToken n, dot_not_mem_openedToken.2, rfl,
    dot_not_mem_openedToken.1⟩

theorem not_decodes_openedToken (nesting : Json.Nesting) (n : Nat) (d : Decoded) :
    ¬ Decodes nesting (LooseText.ofString (openedToken (n + 1))) d := by
  rintro ⟨text, header, payload, signature, headerText, payloadText, ht, hbytes, hheader,
    hsignature, hsigned, -, -, hpayload, hread, -⟩
  have hparts : Parts.ofText? (LooseText.ofString (openedToken (n + 1))) =
      some ⟨header ++ dot :: payload, header, payload, signature⟩ :=
    ofText?_eq_some_iff.mpr ⟨text, ht, hbytes, hsignature, rfl, hheader⟩
  rw [parts_openedToken, Option.some.injEq, Parts.mk.injEq] at hparts
  rw [← hparts.2.2.1, openedPayload, Encoding.Base64.decode?_encode, Option.some.injEq] at hpayload
  rw [← hpayload, jsonIn, Text.ofUtf8?_utf8, Option.bind_some, List.replicate_succ] at hread
  exact Json.read?_bracket_ne_object _ _ _ hread

theorem overdeep_openedToken {n : Nat} (hn : nesting.payload + 1 < n) :
    Overdeep nesting (LooseText.ofString (openedToken n)) := by
  have hheader : Encoding.Base64.decode? (Text.utf8 "e30") = some [123, 125] := by decide +kernel
  have hsignature : Encoding.Base64.decode? (Text.utf8 "xx") = some [199] := by decide +kernel
  have hdeep := Json.isTooDeep_brackets hn []
  rw [List.append_nil] at hdeep
  refine ⟨openedToken n, _, _, _, _, _, _, _, rfl, utf8_openedToken n, dot_not_mem_openedToken.1,
    dot_not_mem_openedToken.2, hheader, jsonIn_braces _, Encoding.Base64.decode?_encode _, ?_,
    hsignature⟩
  rw [isTooDeep, Text.ofUtf8?_utf8, Option.any_some, hdeep]

/-- Each opening bracket of a payload takes a byte of it, and each byte a letter of the token. -/
theorem not_overdeep_of_short {token : LooseText} (h : token.length ≤ nesting.payload + 1) :
    ¬ Overdeep nesting token := by
  rintro ⟨text, header, payload, signature, headerText, payloadText, code, ms, rfl, hbytes, -, -, -,
    -, hpayload, hdeep, -⟩
  rw [LooseText.length_ofString] at h
  obtain ⟨s, hs, hdeep⟩ := (Option.any_eq_true ..).mp hdeep
  have hopeners := Json.openers_of_isTooDeep hdeep
  have hpoints : Json.openers (LooseText.ofString s).points ≤ payloadText.length := by
    have hcount : Json.openers (LooseText.ofString s).points ≤ s.length :=
      Nat.le_trans List.countP_le_length (Nat.le_of_eq (LooseText.length_ofString s))
    rw [Text.ofUtf8?_eq_some_iff.mp hs]
    exact Nat.le_trans hcount (Text.length_le_utf8 s)
  have hletters : payloadText.length ≤ (Text.utf8 text).countP Encoding.Base64.isLetter := by
    have hbytes' : payloadText.length ≤ payload.countP Encoding.Base64.isLetter :=
      Encoding.Base64.length_decode_le_countP (Encoding.Base64.ok_of_decode? hpayload)
    rw [hbytes, List.countP_append, List.countP_append, List.countP_cons, List.countP_cons]
    omega
  have hlength := Encoding.Base64.countP_utf8_le text
  omega

end Accounts.Token
