import Accounts.Proofs.Http.Replies
import Accounts.Proofs.Json.Objects
import Accounts.Proofs.Service.Fields

/-! # Forms that are written as JSON

A request whose body is an object with a string for each field of an endpoint asks for the operation
of the endpoint, whatever the strings are.
-/
namespace Accounts.Http

open Json

variable {e : Endpoint} {op : Operation} {fields : List (String × String)}

def formMembers (fields : List (String × String)) : Json.Members :=
  fields.map fun f => (LooseText.ofString f.1, .text (LooseText.ofString f.2))

def formRequest (e : Endpoint) (fields : List (String × String)) : Request :=
  ⟨e.method, e.path, [("content-type", "application/json")],
    write (.object (formMembers fields)), none, .ofRatio 0 1⟩

theorem lower_ofList (cs : List Char) :
    lower (String.ofList cs) = String.ofList (cs.map Char.toLower) := by
  rw [lower, ← String.toList_inj, String.toList_map, String.toList_ofList, String.toList_ofList]

theorem isJsonType_json : isJsonType "application/json" = true := by
  have h : mediaType? "application/json" = some ("application", "json") := by
    unfold mediaType?
    simp only [lower_ofList]
    rfl
  rw [isJsonType, h]
  rfl

theorem isJson_formRequest (e : Endpoint) (fields : List (String × String)) :
    (((formRequest e fields).header? "content-type").map isJsonType).getD false = true := by
  have hlower : lower "content-type" = "content-type" := (lower_ofList _).trans rfl
  have h : (formRequest e fields).header? "content-type" = some "application/json" := by
    rw [formRequest, Request.header?, List.find?_cons_of_pos (by rw [hlower]; rfl)]
    rfl
  rw [h]
  exact isJsonType_json

theorem addressPath_formRequest (e : Endpoint) (fields : List (String × String)) :
    (formRequest e fields).addressPath = .ok e.path := by
  have hlower : lower "content-type" = "content-type" := (lower_ofList _).trans rfl
  have hhost : (formRequest e fields).host = "" := by
    rw [formRequest, Request.host, Request.header?,
      List.find?_cons_of_neg (by rw [hlower]; decide)]
    rfl
  have hpath : (formRequest e fields).path = e.path := rfl
  rw [Request.addressPath, Request.address, hhost, hpath]
  cases e <;> rfl

theorem sent_formRequest (e : Endpoint) (fields : List (String × String)) (reply : Reply) :
    reply.sent (formRequest e fields) =
      match reply with
      | .crash b => .crash b
      | .response response => .response response.secured := by
  cases reply with
  | crash b => rfl
  | response response => simp only [Reply.sent, addressPath_formRequest]

theorem form_of_object (r : Bytes) : Form.ofBytes (123 :: 34 :: r) = .utf8 := by
  rcases r with _ | ⟨c, _ | ⟨d, r⟩⟩ <;> rfl

theorem write_form (f : String × String) (fs : List (String × String)) :
    ∃ r, (write (.object (formMembers (f :: fs)))).toList = '\x7b' :: '"' :: r := by
  rw [write, String.toList_ofList]
  cases fs with
  | nil => exact ⟨_, rfl⟩
  | cons f' fs => exact ⟨_, rfl⟩

theorem flat_of_form {m : LooseText × Json} (h : m ∈ formMembers fields) :
    FlatMember m ∧ isShort m.2 = true := by
  obtain ⟨f, -, rfl⟩ := List.mem_map.mp h
  exact ⟨⟨f.1, rfl, .text f.2⟩, rfl⟩

theorem names_of_form (names : (fields.map (·.1)).Nodup) :
    ((formMembers fields).map (·.1)).Nodup := by
  have hmap : (formMembers fields).map (·.1) = (fields.map (·.1)).map LooseText.ofString := by
    rw [formMembers, List.map_map, List.map_map]
    rfl
  rw [hmap]
  exact List.pairwise_map.mpr (names.imp fun hne heq => hne (LooseText.ofString_injective heq))

theorem readDocument_form (depth : Nat) (hne : fields ≠ [])
    (names : (fields.map (·.1)).Nodup) :
    readDocument depth (Text.utf8 (write (.object (formMembers fields)))) =
      .ok (.object (formMembers fields)) := by
  obtain ⟨f, fs, rfl⟩ := List.exists_cons_of_ne_nil hne
  obtain ⟨r, hr⟩ := write_form f fs
  have hread : read? depth (write (.object (formMembers (f :: fs)))) =
      some (.object (formMembers (f :: fs))) := by
    have hflat : ∀ m ∈ formMembers (f :: fs), FlatMember m := fun m hm => (flat_of_form hm).1
    have hshort : (formMembers (f :: fs)).all (isShort ·.2) = true :=
      List.all_eq_true.mpr fun m hm => (flat_of_form hm).2
    exact (read?_write_object depth hflat (names_of_form names)).trans (if_pos hshort)
  generalize write (.object (formMembers (f :: fs))) = body at hr hread
  have hform : Form.ofBytes (Text.utf8 body) = .utf8 := by
    rw [Text.utf8, hr]
    exact form_of_object _
  have hmark : ¬ body.toList.head? = some '\uFEFF' := by
    rw [hr, List.head?_cons]
    decide
  rw [read?, Json.read, if_neg hmark] at hread
  rw [readDocument, documentText?, hform]
  simp only [Text.ofUtf8?_utf8, Option.map_some, ok_of_toOption hread]
  rfl

theorem payload_form (e : Endpoint) (depth : Nat) (hne : fields ≠ [])
    (names : (fields.map (·.1)).Nodup) :
    (formRequest e fields).payload depth = .value (.object (formMembers fields)) := by
  have hbody : ¬ (formRequest e fields).body.isEmpty = true := by
    obtain ⟨f, fs, rfl⟩ := List.exists_cons_of_ne_nil hne
    obtain ⟨r, hr⟩ := write_form f fs
    intro hempty
    have hwritten : write (.object (formMembers (f :: fs))) = "" := String.isEmpty_iff.mp hempty
    rw [hwritten] at hr
    cases hr
  rw [Request.payload, if_neg hbody, if_pos (isJson_formRequest e fields)]
  have hread : readDocument depth (Text.utf8 (formRequest e fields).body) =
      .ok (.object (formMembers fields)) := readDocument_form depth hne names
  rw [hread]

theorem get?_form {name : String} (h : name ∈ fields.map (·.1)) :
    ∃ t : String, Members.get? (LooseText.ofString name) (formMembers fields) =
      some (.text (LooseText.ofString t)) := by
  induction fields with
  | nil => cases h
  | cons f fs ih =>
    rw [formMembers, List.map_cons, Members.get?]
    by_cases hname : LooseText.ofString f.1 = LooseText.ofString name
    · rw [if_pos hname]
      exact ⟨_, rfl⟩
    · rw [if_neg hname]
      apply ih
      rcases List.mem_cons.mp h with heq | h
      · exact (hname (congrArg LooseText.ofString heq.symm)).elim
      · exact h

theorem formOf_texts {names : List String} {ms : Json.Members} (h : ∀ name ∈ names,
      ∃ t : String, ms.get? (LooseText.ofString name) = some (.text (LooseText.ofString t))) :
    formOf names (.object ms) = .ok ms := by
  have hnone : names.filterMap (fieldComplaint? ms) = [] := by
    rw [List.filterMap_eq_nil_iff]
    intro name hname
    obtain ⟨t, ht⟩ := h name hname
    rw [fieldComplaint?, ht]
  rw [formOf, hnone]

theorem fieldOf_text {ms : Json.Members} {name t : String}
    (h : ms.get? (LooseText.ofString name) = some (.text (LooseText.ofString t))) :
    fieldOf ms name = some (LooseText.ofString t) := by
  rw [fieldOf, h]
  rfl

theorem formOf_form (h : fields.map (·.1) = e.fields) :
    formOf e.fields (.object (formMembers fields)) = .ok (formMembers fields) :=
  formOf_texts fun _ hname => get?_form (h ▸ hname)

theorem at?_path (e : Endpoint) : Endpoint.at? e.path = some e := by
  cases e <;> decide

theorem formRequest_asks {depth : Nat} (hnames : fields.map (·.1) = e.fields)
    (hop : e.operation? (formMembers fields) = some op) :
    (formRequest e fields).AsksFor depth op := by
  have proper : e.fields ≠ [] ∧ e.fields.Nodup := by
    cases e with
    | signUp | login | forgotPassword | resetPassword | validateToken => decide
    | me | health => cases hop
  have hne : fields ≠ [] := by
    rintro rfl
    exact proper.1 hnames.symm
  have names : (fields.map (·.1)).Nodup := hnames ▸ proper.2
  exact ⟨e, _, _, at?_path e, rfl, payload_form e depth hne names, formOf_form hnames, hop⟩

end Accounts.Http
