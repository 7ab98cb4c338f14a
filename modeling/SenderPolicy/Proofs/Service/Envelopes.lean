/-
What answers a request for a validation over HTTP.

Nearly every GET and POST request to the path for validations is answered by an envelope, whatever
its query, its header fields and its body are: with the status 200 and a report, or with the status
400 or 500 and a message (`Service.IsEnvelope`).  Reading the body gives the envelope again.

There is one exception.  A form that gives a field of a request twice makes no request
(`CheckRequest.repeats_of_ofForm`), and a GET request with such a query is answered in plain text,
whereas a document that gives a field twice, like every other body that cannot be read, is answered
by an envelope.
-/
import SenderPolicy.Proofs.Lookup.Document
import SenderPolicy.Proofs.Resolution.Timeline
import SenderPolicy.Proofs.Service.Bookkeeping
import SenderPolicy.Proofs.Service.Encodings

namespace SenderPolicy

open Web

/-! ### Fields that are given twice -/

namespace CheckRequest

/-- The names of the fields of a request. -/
def IsField (name : String) : Prop := name = "domain" ∨ name = "resolver"

/-- A field of a request that a form gives more than once. -/
def Repeats (form : List (String × String)) (name : String) : Prop :=
  IsField name ∧ 1 < form.countP fun field => field.1 = name

/-- How often a field was given to a request. -/
def given (r : CheckRequest) (name : String) : Nat :=
  (if name = "domain" then r.domain else r.resolver).isSome.toNat

/-- The request with one more field. -/
def addField (r : CheckRequest) (field : String × String) : Except String CheckRequest :=
  if field.1 = "domain" then
    if r.domain.isSome then .error field.1 else .ok { r with domain := some field.2 }
  else if field.1 = "resolver" then
    if r.resolver.isSome then .error field.1 else .ok { r with resolver := some field.2 }
  else .ok r

lemma ofForm_eq (form : List (String × String)) : ofForm form = form.foldlM addField {} := rfl

variable {r : CheckRequest} {field : String × String}

lemma given_le_one (r : CheckRequest) (name : String) : r.given name ≤ 1 :=
  Bool.toNat_le _

/-- A field that was given before is refused; every other one is given once more. -/
lemma addField_cases (r : CheckRequest) (field : String × String) :
    (IsField field.1 ∧ r.given field.1 = 1 ∧ r.addField field = .error field.1) ∨
      ∃ r', r.addField field = .ok r' ∧ ∀ name, IsField name →
        r'.given name = r.given name + if field.1 = name then 1 else 0 := by
  obtain ⟨domain, resolver⟩ := r
  obtain ⟨name, value⟩ := field
  by_cases hdomain : name = "domain"
  · subst hdomain
    cases domain with
    | some _ => exact Or.inl ⟨Or.inl rfl, rfl, rfl⟩
    | none =>
        refine Or.inr ⟨_, rfl, ?_⟩
        rintro _ (rfl | rfl) <;> simp [given]
  · by_cases hresolver : name = "resolver"
    · subst hresolver
      cases resolver with
      | some _ => exact Or.inl ⟨Or.inr rfl, rfl, rfl⟩
      | none =>
          refine Or.inr ⟨_, rfl, ?_⟩
          rintro _ (rfl | rfl) <;> simp [given]
    · refine Or.inr ⟨_, by rw [addField, if_neg hdomain, if_neg hresolver], ?_⟩
      rintro _ (rfl | rfl)
      · simp [hdomain]
      · simp [hresolver]

/-- Fields that are added one after the other are each given once, or the first one that is given
again is named. -/
lemma foldlM_addField_spec (form : List (String × String)) (r : CheckRequest) :
    match form.foldlM addField r with
    | .error name => IsField name ∧ 1 < r.given name + form.countP fun field => field.1 = name
    | .ok _ => ∀ name, IsField name →
        r.given name + (form.countP fun field => field.1 = name) ≤ 1 := by
  induction form generalizing r with
  | nil => exact fun name _ => r.given_le_one name
  | cons field form ih =>
      -- what the rest of the form has to keep below two is the same sum, with one field moved over
      rw [List.foldlM_cons]
      rcases r.addField_cases field with ⟨hfield, hgiven, herror⟩ | ⟨r', hok, hgiven⟩
      · rw [herror]
        refine ⟨hfield, ?_⟩
        rw [List.countP_cons_of_pos (by simp)]
        omega
      · have hrest := ih r'
        have hcount : ∀ name, IsField name →
            r'.given name + (form.countP fun field => field.1 = name) =
              r.given name + (field :: form).countP fun field => field.1 = name := by
          intro name hname
          rw [hgiven name hname, List.countP_cons]
          simp only [decide_eq_true_eq]
          omega
        rw [hok, ok_bind]
        cases hfold : form.foldlM addField r' with
        | error name =>
            simp only [hfold] at hrest ⊢
            exact ⟨hrest.1, (hcount name hrest.1) ▸ hrest.2⟩
        | ok _ =>
            simp only [hfold] at hrest ⊢
            exact fun name hname => (hcount name hname) ▸ hrest name hname

private lemma given_default (name : String) : given {} name = 0 := by simp [given]

/-- A form that makes no request gives the named field twice. -/
lemma repeats_of_ofForm {form : List (String × String)} {name : String}
    (h : ofForm form = .error name) : Repeats form name := by
  have hspec := foldlM_addField_spec form {}
  rw [← ofForm_eq, h] at hspec
  simp only [given_default, Nat.zero_add] at hspec
  exact hspec

/-- A form that makes a request gives no field of it twice. -/
lemma not_repeats_of_ofForm {form : List (String × String)} {r : CheckRequest}
    (h : ofForm form = .ok r) (name : String) : ¬ Repeats form name := by
  have hspec := foldlM_addField_spec form {}
  rw [← ofForm_eq, h] at hspec
  simp only [given_default, Nat.zero_add] at hspec
  exact fun hrepeats => absurd (hspec name hrepeats.1) (Nat.not_le_of_lt hrepeats.2)

end CheckRequest

namespace RequestError

/-- Every message starts with some words of its own. -/
lemma message_eq (e : RequestError) : ∃ head rest, head ≠ "" ∧ e.message = head ++ rest := by
  cases e with
  | missingDomain => exact ⟨"Domain is required", "", by decide, String.append_empty.symm⟩
  | domainTooLong domain =>
      have hmessage : (domainTooLong domain).message =
          "Invalid domain format: " ++ domain ++ " is " ++ toString domain.utf8ByteSize ++
            " characters long (max " ++ toString maxDomainLength ++ ")" := rfl
      simp only [String.append_assoc] at hmessage
      exact ⟨_, _, by decide, hmessage⟩
  | invalidDomain domain => exact ⟨_, domain, by decide, rfl⟩
  | unknownResolver selector => exact ⟨_, selector, by decide, rfl⟩
  | invalidBody reason => exact ⟨_, reason, by decide, rfl⟩
  | internal reason => exact ⟨_, reason, by decide, rfl⟩

lemma message_ne_empty (e : RequestError) : e.message ≠ "" := by
  obtain ⟨head, rest, hhead, hmessage⟩ := e.message_eq
  rw [hmessage]
  exact fun hempty => hhead (String.append_eq_empty_iff.mp hempty).1

end RequestError

/-! ### Responses with envelopes -/

namespace Service

/-- A response with an envelope, which is as envelopes have to be and has no empty message.  Its
body is read as that envelope. -/
def IsEnvelope (response : Response) : Prop :=
  ∃ answer : Nat × Envelope, Proper answer ∧ answer.2.error ≠ some "" ∧
    response = envelopeResponse answer ∧
    Json.decodeText Envelope.decode response.body = .ok answer.2

lemma isEnvelope_error (e : RequestError) :
    IsEnvelope (envelopeResponse (respond (.error e))) := by
  have hcanonical : (Envelope.failure e).IsCanonical := nofun
  have hnesting : (Envelope.failure e).toJson.nesting ≤ Json.maxDepth := by
    rw [Envelope.nesting_toJson]
    exact Nat.le_of_ble_eq_true rfl
  refine ⟨_, proper_respond (.error e), ?_, rfl, ?_⟩
  · exact fun h => e.message_ne_empty (Option.some.inj h)
  · exact ((Envelope.reverses_decode _).readsAs (Envelope.isComplete_toJson _) hcanonical
      hnesting).1

lemma isEnvelope_ok {domain : String} {events : List (String × TxtAnswer)} {report : Report}
    (hrun : Inquiry.Run (validate domain) events report) :
    IsEnvelope (envelopeResponse (respond (.ok report))) :=
  ⟨_, proper_respond (.ok report), nofun, rfl, (Report.readsAs_envelope_of_run hrun rfl).2.1⟩

/-- A report that the service makes is that of some validation. -/
lemma exists_run_of_outcome {s : Service} {task : Nat} {domain : String}
    {first : Option Backend} {report : Report}
    (h : (s.run task domain first).outcome = .ok report) :
    ∃ events, Inquiry.Run (validate domain) events report := by
  simp only [run] at h
  split at h
  · cases h
  · cases hresult : ((validate domain).runAttempts fun domain =>
        Resolution.Chain.attempts s.resolvers.timeoutMs domain (s.resolvers.chain first)).2 with
    | error payload =>
        rw [hresult] at h
        cases h
    | ok r =>
        rw [hresult] at h
        obtain rfl : r = report := Except.ok.inj h
        exact Inquiry.exists_run_of_runAttempts hresult

variable (s : Service) (uptime task : Nat) (state : State) {http : Web.Request}

/-- An answer is that to a request that was refused or came to nothing, or it has the report of a
validation. -/
lemma check_eq_failure_or_ok (request : CheckRequest) :
    (∃ reason, (s.check task request state).1 = respond (.error reason)) ∨
      ∃ domain events report, Inquiry.Run (validate domain) events report ∧
        (s.check task request state).1 = respond (.ok report) := by
  rw [check]
  cases request.check with
  | error reason => exact Or.inl ⟨reason, rfl⟩
  | ok p =>
      obtain ⟨domain, first⟩ := p
      cases houtcome : (s.run task domain first).outcome with
      | error reason => exact Or.inl ⟨reason, by simp only [houtcome]⟩
      | ok report =>
          obtain ⟨events, hrun⟩ := exists_run_of_outcome houtcome
          exact Or.inr ⟨domain, events, report, hrun, by simp only [houtcome]⟩

lemma isEnvelope_answer (request : CheckRequest) : IsEnvelope (s.answer task request state).1 := by
  change IsEnvelope (envelopeResponse (s.check task request state).1)
  rcases s.check_eq_failure_or_ok task state request with
    ⟨reason, hcheck⟩ | ⟨domain, events, report, hrun, hcheck⟩
  · rw [hcheck]
    exact isEnvelope_error reason
  · rw [hcheck]
    exact isEnvelope_ok hrun

lemma isEnvelope_post (http : Web.Request) : IsEnvelope (s.post task http state).1 := by
  rw [post]
  cases CheckRequest.ofBody s.wording http with
  | error e => exact isEnvelope_error e
  | ok request => exact s.isEnvelope_answer task state request

/-- Plain text is no envelope. -/
lemma not_isEnvelope_repeatedField (name : String) : ¬ IsEnvelope (repeatedField name) := by
  rintro ⟨answer, -, -, heq, -⟩
  have htype : some "text/plain; charset=utf-8" = some "application/json" :=
    congrArg Response.contentType heq
  exact absurd htype (by decide)

lemma get_check_of_error {name : String}
    (h : CheckRequest.ofForm (Form.decode http.query) = .error name) :
    s.get uptime task .check http state = (repeatedField name, state) := by
  simp only [get, h]

lemma get_check_of_ok {request : CheckRequest}
    (h : CheckRequest.ofForm (Form.decode http.query) = .ok request) :
    s.get uptime task .check http state = s.answer task request state := by
  simp only [get, h]

/-- A GET or POST request to the path for validations is answered by an envelope exactly if it is
not a GET request whose query gives a field twice.  Such a request is answered in plain text, which
names a field of which that is so, and leaves the state as it is. -/
theorem isEnvelope_handle_iff (hpath : http.path = Endpoint.check.path)
    (hmethod : http.method = .get ∨ http.method = .post) :
    (IsEnvelope (s.handle uptime task http state).1 ↔
      ¬ (http.method = .get ∧ ∃ name, CheckRequest.Repeats (Form.decode http.query) name)) ∧
    (¬ IsEnvelope (s.handle uptime task http state).1 →
      ∃ name, CheckRequest.Repeats (Form.decode http.query) name ∧
        s.handle uptime task http state = (repeatedField name, state)) := by
  rcases hmethod with hget | hpost
  · rw [s.handle_get_check uptime task state hpath hget]
    cases hform : CheckRequest.ofForm (Form.decode http.query) with
    | error name =>
        have hrepeats := CheckRequest.repeats_of_ofForm hform
        have hnot := not_isEnvelope_repeatedField name
        rw [s.get_check_of_error uptime task state hform]
        exact ⟨iff_of_false hnot fun h => h ⟨hget, name, hrepeats⟩,
          fun _ => ⟨name, hrepeats, rfl⟩⟩
    | ok request =>
        have hrepeats := CheckRequest.not_repeats_of_ofForm hform
        have hanswer := s.isEnvelope_answer task state request
        rw [s.get_check_of_ok uptime task state hform]
        exact ⟨iff_of_true hanswer fun h => h.2.elim hrepeats, fun h => absurd hanswer h⟩
  · rw [s.handle_post_check uptime task state hpath hpost]
    have hanswer := s.isEnvelope_post task state http
    refine ⟨iff_of_true hanswer fun h => ?_, fun h => absurd hanswer h⟩
    rw [hpost] at h
    cases h.1

/-- A body that is not JSON. -/
def garbled : Web.Request where
  method := .post
  target := "/api/spf"
  headers := [("content-type", Text.Utf8.encode "application/json")]
  body := Text.Utf8.encode "\x7bnot json"

theorem isEnvelope_handle_iff_garbled :
    garbled.path = Endpoint.check.path ∧ garbled.method = .post ∧
      IsEnvelope (bare.handle 0 7 garbled {}).1 := by
  have hpath : garbled.path = Endpoint.check.path := by decide +kernel
  obtain ⟨hiff, -⟩ := bare.isEnvelope_handle_iff 0 7 {} hpath (Or.inr rfl)
  exact ⟨hpath, rfl, hiff.2 nofun⟩

/-- A query that gives two domains. -/
def twice : Web.Request where
  method := .get
  target := "/api/spf?domain=example.com&domain=x"

/-- A query that gives two domains is answered in plain text. -/
theorem not_isEnvelope_handle_twice :
    twice.path = Endpoint.check.path ∧ twice.method = .get ∧
      (bare.handle 0 7 twice {}).1 = .plain 400
        "Failed to deserialize query string: duplicate field \x60domain\x60" ∧
      ¬ IsEnvelope (bare.handle 0 7 twice {}).1 := by
  have hresponse : (bare.handle 0 7 twice {}).1 = repeatedField "domain" := by decide +kernel
  refine ⟨by decide +kernel, rfl, hresponse.trans (by decide +kernel), ?_⟩
  rw [hresponse]
  exact not_isEnvelope_repeatedField "domain"

end Service

end SenderPolicy
