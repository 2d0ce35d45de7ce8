import Accounts.Token.Verify

/-! # Decodable tokens

A token is decodable when it has a last dot, a first dot before it, and segments around them that
can be read. Decoding finds exactly these segments.
-/
namespace Accounts.Token

variable {b : UInt8} {bs before after : Bytes} {nesting : Json.Nesting} {token : LooseText}
  {d : Decoded}

theorem splitFirst_append (h : b ∉ before) :
    splitFirst b (before ++ b :: after) = some (before, after) := by
  have hb : ∀ x ∈ before, (x != b) = true := by
    intro x hx
    simp only [bne_iff_ne, ne_eq]
    rintro rfl
    exact h hx
  simp [splitFirst, List.dropWhile_append_of_pos hb, List.takeWhile_append_of_pos hb]

theorem splitFirst_eq_some_iff :
    splitFirst b bs = some (before, after) ↔ bs = before ++ b :: after ∧ b ∉ before := by
  constructor
  · intro h
    unfold splitFirst at h
    split at h
    · cases h
    · next x rest hdrop =>
      obtain ⟨rfl, rfl⟩ := Prod.mk.inj (Option.some.inj h)
      have hx : x = b := by
        have hne : bs.dropWhile (· != b) ≠ [] := by simp [hdrop]
        have hhead := List.head_dropWhile_not (fun y => y != b) hne
        simpa [hdrop] using hhead
      refine ⟨?_, ?_⟩
      · rw [← hx, ← hdrop, hx, List.takeWhile_append_dropWhile]
      · intro hmem
        have hall := List.all_eq_true.mp List.all_takeWhile b hmem
        simp at hall
  · rintro ⟨rfl, h⟩
    exact splitFirst_append h

theorem splitLast_eq_some_iff :
    splitLast b bs = some (before, after) ↔ bs = before ++ b :: after ∧ b ∉ after := by
  have hrev : splitLast b bs =
      (splitFirst b bs.reverse).map fun p => (p.2.reverse, p.1.reverse) := by
    unfold splitLast splitFirst
    cases bs.reverse.dropWhile (· != b) <;> rfl
  rw [hrev, Option.map_eq_some_iff]
  constructor
  · rintro ⟨⟨p, q⟩, h, heq⟩
    obtain ⟨rfl, rfl⟩ := Prod.mk.inj heq
    obtain ⟨hbs, hp⟩ := splitFirst_eq_some_iff.mp h
    refine ⟨?_, by simpa using hp⟩
    rw [← bs.reverse_reverse, hbs]
    simp
  · rintro ⟨rfl, h⟩
    refine ⟨(after.reverse, before.reverse), splitFirst_eq_some_iff.mpr ⟨?_, by simpa using h⟩, ?_⟩
    · simp
    · simp

/-- The token is the text of a header, a payload and a signature with dots between them, each in
base64, the first two of them JSON objects that can be followed. There is no dot in the header or in
the signature. -/
def Decodes (nesting : Json.Nesting) (token : LooseText) (d : Decoded) : Prop :=
  ∃ text header payload signature headerText payloadText, token = LooseText.ofString text ∧
    Text.utf8 text = header ++ dot :: payload ++ dot :: signature ∧ dot ∉ header ∧ dot ∉ signature ∧
    d.signed = header ++ dot :: payload ∧
    Encoding.Base64.decode? header = some headerText ∧
    jsonIn nesting.header headerText = some (.object d.header) ∧
    Encoding.Base64.decode? payload = some payloadText ∧
    jsonIn nesting.payload payloadText = some (.object d.payload) ∧
    Encoding.Base64.decode? signature = some d.signature

theorem ofText?_eq_some_iff {p : Parts} :
    Parts.ofText? token = some p ↔ ∃ text, token = LooseText.ofString text ∧
      Text.utf8 text = p.signed ++ dot :: p.signature ∧ dot ∉ p.signature ∧
      p.signed = p.header ++ dot :: p.payload ∧ dot ∉ p.header := by
  obtain ⟨signed, header, payload, signature⟩ := p
  simp only [Parts.ofText?, Option.bind_eq_bind, Option.bind_eq_some_iff, Prod.exists,
    splitLast_eq_some_iff, splitFirst_eq_some_iff, LooseText.string?_eq_some_iff]
  constructor
  · rintro ⟨text, ht, a, c, ⟨hlast, hc⟩, x, y, ⟨hfirst, hx⟩, heq⟩
    cases heq
    exact ⟨text, ht, hlast, hc, hfirst, hx⟩
  · rintro ⟨text, ht, hlast, hc, hfirst, hx⟩
    exact ⟨text, ht, signed, signature, ⟨hlast, hc⟩, header, payload, ⟨hfirst, hx⟩, rfl⟩

theorem decodes_of_parts {signed header payload signature headerText payloadText code : Bytes}
    {hs ps : Json.Members} (hp : Parts.ofText? token = some ⟨signed, header, payload, signature⟩)
    (hh : Encoding.Base64.decode? header = some headerText)
    (hread : jsonIn nesting.header headerText = some (.object hs))
    (hpay : Encoding.Base64.decode? payload = some payloadText)
    (hread' : jsonIn nesting.payload payloadText = some (.object ps))
    (hcode : Encoding.Base64.decode? signature = some code) :
    Decodes nesting token ⟨signed, hs, ps, code⟩ := by
  obtain ⟨text, ht, hbytes, hsignature, hsigned, hheader⟩ := ofText?_eq_some_iff.mp hp
  exact ⟨text, header, payload, signature, headerText, payloadText, ht, hsigned ▸ hbytes, hheader,
    hsignature, hsigned, hh, hread, hpay, hread', hcode⟩

theorem decode?_eq_some_iff {depth : Nat} {p : Parts} {header : Json.Members}
    {payload signature : Bytes} :
    p.decode? depth = some (header, payload, signature) ↔
      ∃ headerText, Encoding.Base64.decode? p.header = some headerText ∧
        jsonIn depth headerText = some (.object header) ∧
        Encoding.Base64.decode? p.payload = some payload ∧
        Encoding.Base64.decode? p.signature = some signature := by
  simp only [Parts.decode?, Option.bind_eq_bind, Option.bind_eq_some_iff]
  constructor
  · rintro ⟨headerText, hh, v, hv, h⟩
    cases v with
    | object ms =>
      simp only [Option.bind_eq_some_iff] at h
      obtain ⟨x, hx, y, hy, heq⟩ := h
      cases heq
      exact ⟨headerText, hh, hv, hx, hy⟩
    | null | bool | int | real | text | list => cases h
  · rintro ⟨headerText, hh, hv, hp, hs⟩
    refine ⟨headerText, hh, .object header, hv, ?_⟩
    simp only [hp, hs]
    rfl

theorem isTooDeep_of_jsonIn {depth : Nat} {bs : Bytes} {v : Json} (h : jsonIn depth bs = some v) :
    isTooDeep depth bs = false := by
  obtain ⟨s, hs, hv⟩ := Option.bind_eq_some_iff.mp h
  rw [isTooDeep, hs, Option.any_some, Json.isTooDeep]
  cases hread : Json.read depth .value s with
  | ok v => rfl
  | error r =>
    rw [Json.read?, hread] at hv
    cases hv

theorem decode_ok_iff : decode nesting token = .ok d ↔ Decodes nesting token d := by
  unfold decode
  constructor
  · intro h
    cases hp : Parts.ofText? token with
    | none =>
      rw [hp] at h
      cases h
    | some p =>
    cases hq : p.decode? nesting.header with
    | none =>
      simp only [hp, hq] at h
      cases h
    | some q =>
    obtain ⟨header, payload, signature⟩ := q
    simp only [hp, hq] at h
    obtain ⟨headerText, hh, hv, hpay, hs⟩ := decode?_eq_some_iff.mp hq
    split at h
    · cases h
    split at h
    · cases h
    · next claims hj =>
      cases h
      exact decodes_of_parts hp hh hv hpay hj hs
    · cases h
  · rintro ⟨text, header, payload, signature, headerText, payloadText, ht, hbytes, hx, hc, hsigned,
      hh, hv, hpay, hj, hs⟩
    have hp : Parts.ofText? token = some ⟨d.signed, header, payload, signature⟩ :=
      ofText?_eq_some_iff.mpr ⟨text, ht, hsigned ▸ hbytes, hc, hsigned, hx⟩
    have hq : Parts.decode? nesting.header ⟨d.signed, header, payload, signature⟩ =
        some (d.header, payloadText, d.signature) :=
      decode?_eq_some_iff.mpr ⟨headerText, hh, hv, hpay, hs⟩
    simp only [hp, hq, isTooDeep_of_jsonIn hj, hj]
    rfl

/-- The header can be read and every part is in base64, but the payload is nested too deep. -/
def Overdeep (nesting : Json.Nesting) (token : LooseText) : Prop :=
  ∃ text header payload signature headerText payloadText code, ∃ ms : Json.Members,
    token = LooseText.ofString text ∧
    Text.utf8 text = header ++ dot :: payload ++ dot :: signature ∧ dot ∉ header ∧ dot ∉ signature ∧
    Encoding.Base64.decode? header = some headerText ∧
    jsonIn nesting.header headerText = some (.object ms) ∧
    Encoding.Base64.decode? payload = some payloadText ∧
    isTooDeep nesting.payload payloadText = true ∧
    Encoding.Base64.decode? signature = some code

/-- Decoding breaks on a payload that is nested too deep, and on nothing else. -/
theorem decode_broken_iff {b : Breakage} :
    decode nesting token = .error (.broken b) ↔ b = .tooDeep ∧ Overdeep nesting token := by
  unfold decode
  constructor
  · intro h
    cases hp : Parts.ofText? token with
    | none =>
      rw [hp] at h
      cases h
    | some p =>
    cases hq : p.decode? nesting.header with
    | none =>
      simp only [hp, hq] at h
      cases h
    | some q =>
    obtain ⟨ms, payload, code⟩ := q
    simp only [hp, hq] at h
    split at h
    · next hdeep =>
      cases h
      obtain ⟨text, ht, hbytes, hsignature, hsigned, hheader⟩ := ofText?_eq_some_iff.mp hp
      obtain ⟨headerText, hh, hv, hpay, hs⟩ := decode?_eq_some_iff.mp hq
      exact ⟨rfl, text, p.header, p.payload, p.signature, headerText, payload, code, ms, ht,
        hsigned ▸ hbytes, hheader, hsignature, hh, hv, hpay, hdeep, hs⟩
    · split at h <;> cases h
  · rintro ⟨rfl, text, header, payload, signature, headerText, payloadText, code, ms, ht, hbytes,
      hx, hc, hh, hv, hpay, hdeep, hs⟩
    have hp : Parts.ofText? token =
        some ⟨header ++ dot :: payload, header, payload, signature⟩ :=
      ofText?_eq_some_iff.mpr ⟨text, ht, hbytes, hc, rfl, hx⟩
    have hq : Parts.decode? nesting.header ⟨header ++ dot :: payload, header, payload, signature⟩ =
        some (ms, payloadText, code) :=
      decode?_eq_some_iff.mpr ⟨headerText, hh, hv, hpay, hs⟩
    simp only [hp, hq, hdeep, if_true]

theorem category_of_decode {r : Refusal} (h : decode nesting token = .error (.refused r)) :
    r.category = .malformed := by
  unfold decode at h
  split at h
  · cases h
    rfl
  split at h
  · cases h
    rfl
  split at h
  · cases h
  · split at h <;> cases h <;> rfl

end Accounts.Token
