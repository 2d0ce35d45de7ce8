import Accounts.Proofs.Account.Access
import Accounts.Proofs.Http.Forms
import Accounts.Proofs.Service.Unbroken

/-! # Every request is answered

While rows can be read and written and the service is usable, no request of the proper form breaks
the front, whatever commands of the session store fail, unless it presents a token that is nested
too deeply or its address cannot be read. The response is secured, it tells a fault by its kind and
hides it if it is the server's, and a POST to an account leaves one note.
-/
namespace Accounts.Http

open Plan

variable {s : Service} {w : World} {app : App} {r : Request} {p : Plan Response} {f : Fault}

/-- The body is empty, or it is declared as JSON and is an object with a string for each field of
the endpoint, if it can be read at all. -/
def Request.BringsForm (r : Request) (depth : Nat) : Prop :=
  r.body.isEmpty = true ∨
    ((r.header? "content-type").map isJsonType).getD false = true ∧
      (Json.readDocument depth (Text.utf8 r.body) = .error .unreadable ∨
        ∃ ms : Json.Members, Json.readDocument depth (Text.utf8 r.body) = .ok (.object ms) ∧
          ∀ e name, Endpoint.at? r.path = some e → name ∈ e.fields →
            ∃ t : String, ms.get? (LooseText.ofString name) = some (.text (LooseText.ofString t)))

/-- A token that the request presents, in its header or its form. -/
inductive Request.Presents (r : Request) (depth : Nat) : LooseText → Prop where
  | bearer (t : String) (token : LooseText) : Endpoint.at? r.path = some .me →
      r.method = Endpoint.me.method → bearerToken? r = some t →
      Validation.token (some (LooseText.ofString t)) = .ok token → Request.Presents r depth token
  | field (ms : Json.Members) (token : LooseText) : Endpoint.at? r.path = some .validateToken →
      r.method = Endpoint.validateToken.method → r.payload depth = .value (.object ms) →
      formOf Endpoint.validateToken.fields (.object ms) = .ok ms →
      Validation.token (fieldOf ms "access_token") = .ok token → Request.Presents r depth token

/-- The request gets to the service and is handled by a plan. -/
inductive Request.Reaches (s : Service) (r : Request) : Plan Response → Prop where
  | health : Endpoint.at? r.path = some .health → r.method = Endpoint.health.method →
      Request.Reaches s r health
  | me : Endpoint.at? r.path = some .me → r.method = Endpoint.me.method →
      Request.Reaches s r (currentUser s r)
  | form (e : Endpoint) (v : Json) (ms : Json.Members) : Endpoint.at? r.path = some e →
      r.method = e.method → r.payload s.suite.nesting.body = .value v →
      formOf e.fields v = .ok ms → (e.operation? ms).isSome → Request.Reaches s r (submit s ms e)

/-- The request presents a token that is nested too deeply, or its address cannot be read. -/
inductive Request.Breaks (s : Service) (r : Request) : Prop where
  | nesting (token : LooseText) : r.Presents s.suite.nesting.body token →
      Token.Overdeep s.suite.nesting token → Request.Breaks s r
  | address (b : Breakage) : r.addressPath = .error b → Request.Breaks s r

theorem payload_of_form {depth : Nat} (h : r.BringsForm depth) :
    r.payload depth = .none ∨ r.payload depth = .unreadable ∨
      ∃ ms : Json.Members, r.payload depth = .value (.object ms) ∧
        ∀ e name, Endpoint.at? r.path = some e → name ∈ e.fields →
          ∃ t : String, ms.get? (LooseText.ofString name) =
            some (.text (LooseText.ofString t)) := by
  unfold Request.payload
  by_cases hempty : r.body.isEmpty = true
  · rw [if_pos hempty]
    exact .inl rfl
  rcases h with h | ⟨htype, hread | ⟨ms, hread, hfields⟩⟩
  · exact absurd h hempty
  · rw [if_neg hempty, if_pos htype, hread]
    exact .inr (.inl rfl)
  · rw [if_neg hempty, if_pos htype, hread]
    exact .inr (.inr ⟨ms, rfl, hfields⟩)

theorem suite_of_service (hs : app.service = .ok s) : app.base.suite = s.suite :=
  (congrArg Service.suite (lifetimes_of_service hs)).symm

theorem dispatch_reached (hs : app.service = .ok s) (h : r.Reaches s p) :
    dispatch app r = guarded r p := by
  cases h with
  | health hpath hmethod => simp only [dispatch, hpath, hmethod, if_true, handle]
  | me hpath hmethod => simp only [dispatch, hpath, hmethod, if_true, handle, hs]
  | form e v ms hpath hmethod hpayload hform hop =>
    have handled : handleForm app e r = guarded r (submit s ms e) := by
      unfold handleForm
      simp only [suite_of_service hs, hpayload, hs, hform]
    unfold dispatch
    simp only [hpath, hmethod, if_true]
    cases e with
    | signUp | login | forgotPassword | resetPassword | validateToken => exact handled
    | me | health => cases hop

theorem complaintReply_bodyMissing {depth : Nat} (h : 3 ≤ depth) :
    ∃ response, complaintReply depth [.bodyMissing] = .response response := by
  have hdepth : Json.depth (.object [("detail", .list ([Complaint.bodyMissing].map
      Complaint.json))]) = 4 := by
    decide
  rw [complaintReply, hdepth, if_neg (by omega)]
  exact ⟨_, rfl⟩

theorem reaches_or_answered (hs : app.service = .ok s) (hreply : 3 ≤ s.suite.nesting.reply)
    (hform : r.BringsForm s.suite.nesting.body) :
    (∃ p, r.Reaches s p) ∨ ∃ response, dispatch app r = pure (.response response) := by
  unfold dispatch
  cases hpath : Endpoint.at? r.path with
  | none => exact .inr ⟨_, rfl⟩
  | some e =>
    dsimp only
    by_cases hmethod : r.method = e.method
    · have taken : (∀ ms, (e.operation? ms).isSome) → (∃ p, r.Reaches s p) ∨
          ∃ response, handleForm app e r = pure (.response response) := by
        intro hop
        rcases payload_of_form hform with hpayload | hpayload | ⟨ms, hpayload, hfields⟩
        · obtain ⟨response, hmissing⟩ := complaintReply_bodyMissing hreply
          refine .inr ⟨response, ?_⟩
          unfold handleForm
          simp only [suite_of_service hs, hpayload, hs, hmissing]
        · refine .inr ?_
          unfold handleForm
          simp only [suite_of_service hs, hpayload]
          exact ⟨_, rfl⟩
        · exact .inl ⟨_, .form e _ ms hpath hmethod hpayload
            (formOf_texts fun name => hfields e name hpath) (hop ms)⟩
      rw [if_pos hmethod]
      cases e with
      | health => exact .inl ⟨_, .health hpath hmethod⟩
      | me => exact .inl ⟨_, .me hpath hmethod⟩
      | signUp | login | forgotPassword | resetPassword | validateToken => exact taken fun _ => rfl
    · rw [if_neg hmethod]
      exact .inr ⟨_, rfl⟩

theorem health_ensures : health.Ensures s w.now fun _ => True := by
  refine ensures_call trivial fun database _ => ?_
  split
  · exact ensures_call trivial fun _ _ => ensures_pure trivial
  · exact ensures_bind (ensures_log rfl) fun _ _ =>
      ensures_call trivial fun _ _ => ensures_pure trivial

theorem reached_ensures (usable : s.IsUsable w.now) (hform : r.BringsForm s.suite.nesting.body)
    (shallow : ∀ token, r.Presents s.suite.nesting.body token →
      ¬ Token.Overdeep s.suite.nesting token)
    (issued : ∀ token d, r.Presents s.suite.nesting.body token →
      Token.Decodes s.suite.nesting token d → Token.Authentic s.suite s.authority d →
      s.HasIssued token)
    (h : r.Reaches s p) : p.Ensures s w.now fun _ => True := by
  have answered : ∀ {α : Type} {p : Plan α} (f : α → Response),
      p.Ensures s w.now (fun _ => True) →
      (p >>= fun a => pure (f a)).Ensures s w.now fun _ => True :=
    fun f hp => ensures_bind hp fun _ _ => ensures_pure trivial
  have unbroken : ∀ field : Option LooseText,
      (∀ token, Validation.token field = .ok token → r.Presents s.suite.nesting.body token) →
      (s.validateToken field).Ensures s w.now fun _ => True := by
    intro field hfield
    refine validateToken_ensures fun token system b htoken => ?_
    have presented := hfield token htoken
    exact Token.verify_unbroken usable (shallow token presented)
      (fun d => issued token d presented) b
  cases h with
  | health => exact health_ensures
  | me hpath hmethod =>
    unfold currentUser
    cases hbearer : bearerToken? r with
    | none => exact ensures_fail _
    | some t => exact answered _ (unbroken _ fun token => .bearer t token hpath hmethod hbearer)
  | form e v ms hpath hmethod hpayload hformOf hop =>
    rcases payload_of_form hform with hnone | hunread | ⟨ms', hvalue, hfields⟩
    · cases hnone.symm.trans hpayload
    · cases hunread.symm.trans hpayload
    cases hvalue.symm.trans hpayload
    cases hformOf.symm.trans (formOf_texts fun name => hfields e name hpath)
    have texts : ∀ name ∈ e.fields, ∃ t, fieldOf ms name = some (LooseText.ofString t) :=
      fun name hname => (hfields e name hpath hname).imp fun _ => fieldOf_text
    cases e with
    | signUp =>
      obtain ⟨password, hpassword⟩ := texts "password" (by decide)
      rw [submit, hpassword]
      exact answered _ (signUp_ensures usable _ password _ _)
    | login =>
      obtain ⟨password, hpassword⟩ := texts "password" (by decide)
      rw [submit, hpassword]
      exact answered _ (login_ensures usable _ password)
    | forgotPassword => exact answered _ (forgotPassword_ensures usable _)
    | resetPassword =>
      obtain ⟨password, hpassword⟩ := texts "new_password" (by decide)
      rw [submit, hpassword]
      exact answered _ (resetPassword_ensures usable _ password)
    | validateToken =>
      exact answered _ (unbroken _ fun token => .field ms token hpath hmethod hpayload hformOf)
    | me | health => cases hop

def Reply.IsResponse (reply : Reply) : Prop :=
  ∃ response, reply = .response response

theorem guarded_ensures {path : String} (hpath : r.addressPath = .ok path)
    (h : p.Ensures s w.now fun _ => True) : (guarded r p).Ensures s w.now Reply.IsResponse := by
  have faulty : ∀ f, (answerFault r f).Ensures s w.now Reply.IsResponse := by
    intro f
    unfold answerFault
    split
    · simp only [hpath]
      exact ensures_bind (ensures_log rfl) fun _ _ => ensures_pure ⟨_, rfl⟩
    · exact ensures_pure ⟨_, rfl⟩
  refine ensures_bind (ensures_attempt h) fun result hresult => ?_
  rcases result with (f | b) | response
  · exact faulty f
  · exact hresult.elim
  · exact ensures_pure ⟨_, rfl⟩

theorem dispatch_ensures (hs : app.service = .ok s) (usable : s.IsUsable w.now)
    (hform : r.BringsForm s.suite.nesting.body) (unbroken : ¬ r.Breaks s)
    (issued : ∀ token d, r.Presents s.suite.nesting.body token →
      Token.Decodes s.suite.nesting token d → Token.Authentic s.suite s.authority d →
      s.HasIssued token) :
    (dispatch app r).Ensures s w.now Reply.IsResponse := by
  rcases reaches_or_answered hs usable.reply hform with ⟨p, hreach⟩ | ⟨response, hresponse⟩
  · cases hpath : r.addressPath with
    | error b => exact absurd (.address b hpath) unbroken
    | ok path =>
      have shallow : ∀ token, r.Presents s.suite.nesting.body token →
          ¬ Token.Overdeep s.suite.nesting token :=
        fun token presented hdeep => unbroken (.nesting token presented hdeep)
      rw [dispatch_reached hs hreach]
      exact guarded_ensures hpath (reached_ensures usable hform shallow issued hreach)
  · rw [hresponse]
    exact ensures_pure ⟨response, rfl⟩

theorem dispatch_replies (app : App) (r : Request) (s : Service) (w : World) :
    ∃ reply, ((dispatch app r).run s w).2 = .ok reply := by
  have replies : ∀ p : Plan Response, ∃ reply, ((guarded r p).run s w).2 = .ok reply :=
    fun p => (guarded_run r p).imp fun _ h => h.1
  have handled : ∀ e, ∃ reply, ((handleForm app e r).run s w).2 = .ok reply := by
    intro e
    unfold handleForm
    dsimp only
    cases r.payload app.base.suite.nesting.body with
    | notJson refusal => exact ⟨_, rfl⟩
    | unreadable => exact ⟨_, rfl⟩
    | none => cases app.service <;> exact ⟨_, rfl⟩
    | value v =>
      cases app.service with
      | error b => exact ⟨_, rfl⟩
      | ok s =>
        dsimp only
        cases formOf e.fields v with
        | error cs => exact ⟨_, rfl⟩
        | ok ms => exact replies _
  unfold dispatch
  cases Endpoint.at? r.path with
  | none => exact ⟨_, rfl⟩
  | some e =>
    dsimp only
    split
    · cases e with
      | health => exact replies _
      | me =>
        unfold handle
        cases app.service with
        | error b => exact ⟨_, rfl⟩
        | ok s => exact replies _
      | signUp | login | forgotPassword | resetPassword | validateToken => exact handled _
    · exact ⟨_, rfl⟩

theorem reaches_of_presents {token : LooseText} (h : r.Presents s.suite.nesting.body token)
    (hdeep : Token.Overdeep s.suite.nesting token) :
    ∃ p, r.Reaches s p ∧ (p.run s w).2 = .error (.broken .tooDeep) := by
  have broken : ∀ (field : Option LooseText) (f : Validated → Response),
      Validation.token field = .ok token →
      ((s.validateToken field >>= fun v => pure (f v)).run s w).2 = .error (.broken .tooDeep) := by
    intro field f htoken
    rw [bind_eq, run_bind, validateToken_overdeep htoken hdeep]
  cases h with
  | bearer t _ hpath hmethod hbearer htoken =>
    refine ⟨_, .me hpath hmethod, ?_⟩
    unfold currentUser
    rw [hbearer]
    exact broken _ _ htoken
  | field ms _ hpath hmethod hpayload hform htoken =>
    exact ⟨_, .form .validateToken _ ms hpath hmethod hpayload hform rfl, broken _ _ htoken⟩

/-- The request breaks the front. Nothing is answered for it. -/
theorem respond_crashes (hs : app.service = .ok s) (h : r.Breaks s) (w : World) :
    ∃ v b, (respond app r).run s w = (v, .ok (.crash b)) := by
  have crashes : ∃ b, ((respond app r).run s w).2 = .ok (.crash b) := by
    cases h with
    | address b hpath =>
      obtain ⟨reply, hreply⟩ := dispatch_replies app r s w
      rw [respond_run app r hreply]
      cases reply with
      | crash b' => exact ⟨b', rfl⟩
      | response response =>
        simp only [Reply.sent, hpath]
        exact ⟨b, rfl⟩
    | nesting token presented hdeep =>
      obtain ⟨p, hreach, hbroken⟩ := reaches_of_presents (w := w) presented hdeep
      obtain ⟨reply, hreply, hsent⟩ := guarded_run (s := s) (w := w) r p
      rw [hbroken] at hsent
      rw [← dispatch_reached hs hreach] at hreply
      rw [respond_run app r hreply, hsent]
      exact ⟨_, rfl⟩
  obtain ⟨b, hb⟩ := crashes
  exact ⟨_, b, Prod.ext rfl hb⟩

theorem problem_ne_hidden (problem : Validation.Problem) :
    problem.message ≠ "internal server error" := by
  have ending : ∀ (start rest : String) (c : Char), rest.toList.getLast? = some c → c ≠ 'r' →
      start ++ rest ≠ "internal server error" := by
    intro start rest c hrest hc heq
    have hlast := congrArg (·.toList.getLast?) heq
    rw [String.toList_append, List.getLast?_append, hrest, Option.some_or] at hlast
    exact hc (Option.some.inj hlast)
  cases problem with
  | nameMissing field => exact ending _ _ 'd' rfl (by decide)
  | nameTooShort field => exact ending _ _ 'g' rfl (by decide)
  | nameTooLong field => exact ending _ _ 's' rfl (by decide)
  | nameMalformed field => exact ending _ _ 's' rfl (by decide)
  | passwordLacks first more =>
    intro heq
    have hfirst := congrArg (·.toList.head?) heq
    dsimp only [Validation.Problem.message] at hfirst
    rw [String.toList_append, List.head?_append] at hfirst
    cases hfirst
  | emailMissing | emailTooLong | emailMalformed | passwordMissing | passwordTooShort
  | passwordTooLong | tokenMissing | tokenTooLong => decide

theorem publicMessage_hidden_iff (f : Fault) :
    f.kind.publicMessage f.message = "internal server error" ↔ 500 ≤ f.kind.status := by
  cases f with
  | invalid problem =>
    exact iff_of_false (problem_ne_hidden problem) (by rw [Fault.kind, Kind.status]; decide)
  | emailTaken | wrongCredentials | wrongToken | notAuthenticated | wrongResetToken =>
    exact iff_of_false (by decide) (by decide)
  | users action =>
    exact iff_of_true rfl (by rw [Fault.kind, Kind.status]; decide)
  | sessions | corruptedCredentials | subjectNotId => exact iff_of_true rfl (by decide)

/-- The response tells the kind of a fault. The message is told as well unless the fault is the
server's, and only a response to one without authority asks for a token. -/
structure Response.Tells (response : Response) (f : Fault) : Prop where
  status : response.status = f.kind.status
  body : response.content = .json (.object
    [("detail", .text (f.kind.publicMessage f.message)), ("code", .text f.kind.code)])
  hidden : f.kind.publicMessage f.message = "internal server error" ↔ 500 ≤ response.status
  challenge : ("www-authenticate", "Bearer") ∈ response.headers ↔ response.status = 401

theorem tells_faultResponse (f : Fault) : (faultResponse f).secured.Tells f := by
  refine ⟨rfl, rfl, publicMessage_hidden_iff f, ?_⟩
  have hheaders : (faultResponse f).secured.headers = ("content-type", "application/json") ::
      (if f.kind.status = 401 then [("www-authenticate", "Bearer")] else []) ++ securityHeaders :=
    rfl
  have hstatus : (faultResponse f).secured.status = f.kind.status := rfl
  rw [hheaders, hstatus]
  by_cases h : f.kind.status = 401
  · rw [if_pos h]
    exact iff_of_true (by decide) h
  · rw [if_neg h]
    exact iff_of_false (by decide) h

/-- How a request is answered: by a secured response, which tells the fault if the service ends with
one. A POST below the common path leaves one note with the status of the response and the time it
took, and no other request leaves a note of that sort. -/
structure Request.IsAnswered (s : Service) (r : Request) (w v : World) (response : Response) :
    Prop where
  secured : ∀ h ∈ securityHeaders, h ∈ response.headers
  told : ∀ p f, r.Reaches s p → (p.run s w).2 = .error (.fault f) → response.Tells f
  noted : ∃ path ns, r.addressPath = .ok path ∧ v.log = w.log ++ ns ∧ ns.filter Note.isAudit =
    if r.method = "POST" ∧ accountPath.toList <+: path.toList then
      [.audit r.method path response.status r.took (r.client.getD "unknown")]
    else []

theorem isAudited_iff (method path : String) :
    isAudited method path = true ↔ method = "POST" ∧ accountPath.toList <+: path.toList := by
  rw [isAudited, Bool.and_eq_true, beq_iff_eq, List.isPrefixOf_iff_prefix]

theorem respond_of_dispatch {v : World} {response : Response} {path : String}
    (h : (dispatch app r).run s w = (v, .ok (.response response)))
    (hpath : r.addressPath = .ok path) :
    (respond app r).run s w =
      (if isAudited r.method path then
          v.noted [.audit r.method path response.status r.took (r.client.getD "unknown")]
        else v,
        .ok (.response response.secured)) := by
  unfold respond
  rw [bind_eq, run_bind, h]
  simp only [hpath]
  split <;> rfl

/-- A request of the proper form is answered, in every state in which rows can be read and written
and the service is usable, if any token with a valid signature that it presents was issued, and
whatever commands of the session store fail. It breaks only if it presents a token that is nested
too deeply, signed or not, or if its address cannot be read, and then it is not answered. -/
theorem every_request_answered (hs : app.service = .ok s) (usable : s.IsUsable w.now)
    (ho : w.outages.users = .none) (hform : r.BringsForm s.suite.nesting.body)
    (issued : ∀ token d, r.Presents s.suite.nesting.body token →
      Token.Decodes s.suite.nesting token d → Token.Authentic s.suite s.authority d →
      s.HasIssued token) :
    (¬ r.Breaks s → ∃ v response,
      (respond app r).run app.base w = (v, .ok (.response response)) ∧
        r.IsAnswered s w v response) ∧
    (r.Breaks s → ∃ v b, (respond app r).run app.base w = (v, .ok (.crash b))) := by
  have lifetimes : (respond app r).run app.base w = (respond app r).run s w := by
    rw [← run_lifetimes app.base s.lifetimes, ← lifetimes_of_service hs]
  rw [lifetimes]
  constructor
  · intro unbroken
    obtain ⟨leads, hends⟩ :=
      run_ensures usable.issue ho (dispatch_ensures hs usable hform unbroken issued)
    rcases hrun : (dispatch app r).run s w with ⟨v, result⟩
    rw [hrun] at leads hends
    obtain ⟨response, rfl⟩ : ∃ response, result = .ok (.response response) := by
      rcases result with e | reply
      · obtain ⟨reply, hreply⟩ := dispatch_replies app r s w
        cases (congrArg Prod.snd hrun).symm.trans hreply
      · obtain ⟨response, rfl⟩ := hends
        exact ⟨response, rfl⟩
    cases hpath : r.addressPath with
    | error b => exact absurd (.address b hpath) unbroken
    | ok path =>
    obtain ⟨ns, hlog, hnone⟩ := leads.log
    rw [respond_of_dispatch hrun hpath]
    refine ⟨_, _, rfl, fun h hh => List.mem_append_right _ hh, ?_, path, ?_⟩
    · intro p f hreach hfault
      obtain ⟨reply, hreply, hsent⟩ := guarded_run (s := s) (w := w) r p
      rw [← dispatch_reached hs hreach, hrun] at hreply
      cases hreply
      simp only [Reply.sent, hpath, hfault, replyOf, Reply.response.injEq] at hsent
      rw [hsent]
      exact tells_faultResponse f
    · simp only [← isAudited_iff]
      by_cases haudited : isAudited r.method path = true
      · rw [if_pos haudited, if_pos haudited]
        refine ⟨ns ++ [.audit r.method path response.status r.took (r.client.getD "unknown")],
          hpath, ?_, ?_⟩
        · rw [World.noted, hlog, List.append_assoc]
        · rw [List.filter_append, hnone]
          rfl
      · rw [if_neg haudited, if_neg haudited]
        exact ⟨ns, hpath, hlog, hnone⟩
  · exact fun breaks => respond_crashes hs breaks w

theorem formRequest_bringsForm {e : Endpoint} {fields : List (String × String)} {depth : Nat}
    (hne : fields ≠ []) (names : (fields.map (·.1)).Nodup) (h : fields.map (·.1) = e.fields) :
    (formRequest e fields).BringsForm depth := by
  refine .inr ⟨isJson_formRequest e fields, .inr ⟨_, readDocument_form depth hne names, ?_⟩⟩
  intro e' name hpath hname
  cases (at?_path e).symm.trans hpath
  rw [← h] at hname
  exact get?_form hname

/-- A quarter of an hour after Ann registered, with no command of the session store working. -/
def annInFullOutage : World :=
  { World.withAnn .small 0 with
    now := Service.small.lifetimes.access
    outages := ⟨.none, ⟨true, true, true, true, true, false⟩⟩ }

def checkForm (text : String) : Request :=
  formRequest .validateToken [("access_token", text)]

theorem checkForm_bringsForm (text : String) (depth : Nat) : (checkForm text).BringsForm depth :=
  formRequest_bringsForm (by simp) (by simp) rfl

theorem fieldOf_checkForm (text : String) :
    fieldOf (formMembers [("access_token", text)]) "access_token" =
      some (LooseText.ofString text) :=
  fieldOf_text (if_pos rfl)

theorem presents_checkForm_iff {text : String} {depth : Nat} {token : LooseText} :
    (checkForm text).Presents depth token ↔
      Validation.token (some (LooseText.ofString text)) = .ok token := by
  have hvalue : (checkForm text).payload depth =
      .value (.object (formMembers [("access_token", text)])) :=
    payload_form .validateToken depth (by simp) (by simp)
  constructor
  · intro h
    cases h with
    | bearer t _ hpath => cases (at?_path .validateToken).symm.trans hpath
    | field ms _ hpath hmethod hpayload hform htoken =>
      cases hvalue.symm.trans hpayload
      rwa [fieldOf_checkForm] at htoken
  · intro h
    rw [← fieldOf_checkForm] at h
    exact .field _ token (at?_path .validateToken) rfl hvalue (formOf_form rfl) h

theorem checkForm_reaches (text : String) : (checkForm text).Reaches .small
    (submit .small (formMembers [("access_token", text)]) .validateToken) :=
  .form .validateToken _ _ (at?_path .validateToken) rfl
    (payload_form .validateToken _ (by simp) (by simp)) (formOf_form rfl) rfl

theorem usable_small {now : Instant} (h : Service.small.CanIssue now)
    (hreset : (Service.small.backing.deadline? now Service.small.lifetimes.reset).isSome) :
    Service.small.IsUsable now :=
  ⟨by decide, by decide +kernel, by decide, h, hreset⟩

/-- The access token that Ann got at first is told to be expired. -/
theorem expired_token_told : ∃ text v response,
    Service.small.IsUsable annInFullOutage.now ∧
    (checkForm text).BringsForm Service.small.suite.nesting.body ∧
    (∀ token, (checkForm text).Presents Service.small.suite.nesting.body token →
      Service.small.HasIssued token) ∧
    ¬ (checkForm text).Breaks .small ∧
    (respond ⟨.small, 15, 168, 30⟩ (checkForm text)).run .small annInFullOutage =
      (v, .ok (.response response)) ∧
    (checkForm text).IsAnswered .small annInFullOutage v response ∧ response.status = 401 := by
  have usable : Service.small.IsUsable annInFullOutage.now :=
    usable_small (canIssue_of_dates rfl (by decide +kernel)) (by decide +kernel)
  obtain ⟨key, hkey⟩ := smallAuthority_key
  obtain ⟨text, hsign⟩ : ∃ text, Token.sign Service.small.suite Service.small.authority
      accessContents.json = .ok text :=
    ⟨_, Token.sign_ok_iff.mpr ⟨.hs256, key, MacAlgorithm.ofName?_name .hs256, hkey, rfl⟩⟩
  obtain ⟨-, field⟩ := field_of_accessContents hsign
  have hcontents : Token.issuedContents .small (World.withAnn .small 0) Service.small.authority
      ((World.initial 0).nextId .small).text Service.small.lifetimes.access Token.accessType =
        accessContents := by
    decide +kernel
  have hexpiry : Time.ofSeconds (Time.ceilSeconds (0 + Service.small.lifetimes.access)) =
      .ok (900 * Time.second) := by
    have hceil : Time.ceilSeconds (0 + Service.small.lifetimes.access) = 900 := by decide +kernel
    rw [hceil]
    exact Time.ofSeconds_ok (by decide +kernel)
  have hissue : (World.withAnn .small 0).issueToken .small Service.small.authority
      ((World.initial 0).nextId .small).text Service.small.lifetimes.access Token.accessType =
        ((World.withAnn .small 0).afterId, .ok ⟨text, 900 * Time.second⟩) :=
    Token.issueToken_ok_iff.mpr ⟨rfl, by decide +kernel, hcontents ▸ hsign, hexpiry⟩
  have issued : ∀ token, (checkForm text).Presents Service.small.suite.nesting.body token →
      Service.small.HasIssued token := by
    intro token htoken
    obtain ⟨a, key', -, -, hparts⟩ := Token.parts_of_sign hsign
    cases field.symm.trans (presents_checkForm_iff.mp htoken)
    exact ⟨_, _, _, _, _, by decide +kernel, congrArg Prod.snd hissue, _, _, hparts, hparts, rfl⟩
  have expired : Token.verify Service.small.suite Service.small.authority annInFullOutage.now
      annInFullOutage.system (some Token.accessType) (LooseText.ofString text) =
        .error (.refused .expired) := by
    have hissued : Time.ofSeconds accessContents.issuedAt = .ok 0 :=
      Time.ofSeconds_ok (by decide +kernel)
    have hexpires : Time.ofSeconds accessContents.expiresAt = .ok (900 * Time.second) :=
      Time.ofSeconds_ok (by decide +kernel)
    have late : 900 * Time.second ≤ annInFullOutage.now := by decide +kernel
    rw [Token.verify_sign hsign usable.plain rfl hissued hexpires]
    exact Token.checkUse_expired_iff.mpr late
  have unbroken : ¬ (checkForm text).Breaks .small := by
    rintro (⟨token, htoken, hdeep⟩ | ⟨b, hpath⟩)
    · cases field.symm.trans (presents_checkForm_iff.mp htoken)
      rw [Token.verify_overdeep _ _ _ _ _ hdeep] at expired
      cases expired
    · cases (addressPath_formRequest ..).symm.trans hpath
  have hservice : App.service ⟨.small, 15, 168, 30⟩ = .ok .small := rfl
  obtain ⟨answers, -⟩ := every_request_answered hservice usable rfl
    (checkForm_bringsForm text Service.small.suite.nesting.body)
    fun token d htoken _ _ => issued token htoken
  obtain ⟨v, response, hrun, answered⟩ := answers unbroken
  refine ⟨text, v, response, usable, checkForm_bringsForm text _, issued, unbroken, hrun, answered,
    ?_⟩
  have refused : ((submit .small (formMembers [("access_token", text)]) .validateToken).run .small
      annInFullOutage).2 = .error (.fault .wrongToken) := by
    simp only [submit, fieldOf_checkForm, Service.validateToken, field]
    rw [bind_eq, run_bind, run_bind_ask, run_bind_ask]
    simp only [World.answer, expired, run_fail]
  exact (answered.told _ _ (checkForm_reaches text) refused).status

/-- A check of a token that nobody signed is not answered, although nothing fails. The token only
opens arrays. -/
theorem opened_token_unanswered : ∃ v b,
    Service.small.IsUsable 0 ∧
    (checkForm (Token.openedToken 1480)).BringsForm Service.small.suite.nesting.body ∧
    (∀ token d,
      (checkForm (Token.openedToken 1480)).Presents Service.small.suite.nesting.body token →
      ¬ Token.Decodes Service.small.suite.nesting token d) ∧
    (respond ⟨.small, 15, 168, 30⟩ (checkForm (Token.openedToken 1480))).run .small
      (World.initial 0) = (v, .ok (.crash b)) ∧
    ∀ h ∈ securityHeaders, h ∉ (Reply.crash b).seen.headers := by
  have usable : Service.small.IsUsable 0 :=
    usable_small (canIssue_of_dates rfl (by decide +kernel)) (by decide +kernel)
  have field := Token.field_of_openedToken (n := 1480) (by decide)
  have breaks : (checkForm (Token.openedToken 1480)).Breaks .small :=
    .nesting _ (presents_checkForm_iff.mpr field) (Token.overdeep_openedToken (by decide))
  have hservice : App.service ⟨.small, 15, 168, 30⟩ = .ok .small := rfl
  obtain ⟨v, b, hcrash⟩ := respond_crashes hservice breaks (World.initial 0)
  refine ⟨v, b, usable, checkForm_bringsForm _ _, ?_, hcrash, ?_⟩
  · intro token d htoken
    rw [← Except.ok.inj (field.symm.trans (presents_checkForm_iff.mp htoken))]
    exact Token.not_decodes_openedToken _ 1479 d
  · intro h hh
    have missing : ∀ h ∈ securityHeaders,
        h ∉ [("content-type", "text/plain; charset=utf-8")] := by
      decide
    exact missing h hh

end Accounts.Http
