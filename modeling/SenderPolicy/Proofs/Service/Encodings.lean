/-
A request in a query and the same request in a body are answered alike.

A request for a validation can be written as a form, in the query of a GET request, and as a JSON
document, in the body of a POST request.  Either way of reading undoes its way of writing, whatever
the texts are: a form has none of the characters at which a target is cut
(`Endpoint.path_and_query_of_target`) and is read as the request that it was made of
(`CheckRequest.ofForm_decode_encode`), and so is the document (`CheckRequest.ofBody_of_asksInBody`).
So both requests come to the service as the same one, and what it has answered before does not
matter.
-/
import SenderPolicy.Api
import SenderPolicy.Proofs.Json.Decoder
import SenderPolicy.Proofs.Service.Bookkeeping
import SenderPolicy.Proofs.Web.Form

namespace SenderPolicy

open Web

/-! ### Targets -/

namespace Endpoint

variable {e : Endpoint} {http : Web.Request}

/-- The path of an endpoint starts with a slash. -/
lemma path_eq_cons (e : Endpoint) : ∃ s, e.path.toList = '/' :: s := by
  cases e <;> exact ⟨_, rfl⟩

/-- No query starts in the path of an endpoint. -/
lemma bne_of_mem_path : ∀ c ∈ e.path.toList, (c != '?') = true :=
  List.all_eq_true.1 (by cases e <;> decide +kernel)

/-- No fragment starts in the path of an endpoint. -/
lemma not_mem_path (e : Endpoint) : '#' ∉ e.path.toList := by
  cases e <;> decide

lemma withoutHost_cons_slash (s : List Char) : Request.withoutHost ('/' :: s) = '/' :: s := by
  have hscheme : ('/' :: s).dropWhile Url.isSchemeChar = '/' :: s :=
    List.dropWhile_cons_of_neg (by decide)
  rw [Request.withoutHost, hscheme]
  rfl

/-- What follows the path of an endpoint in a target is kept, if no fragment starts there. -/
lemma origin_of_target {rest : List Char} (htarget : http.target.toList = e.path.toList ++ rest)
    (hrest : '#' ∉ rest) : http.origin = e.path.toList ++ rest := by
  obtain ⟨s, hs⟩ := e.path_eq_cons
  have hhost : Request.withoutHost http.target.toList = e.path.toList ++ rest := by
    rw [htarget, hs]
    exact withoutHost_cons_slash (s ++ rest)
  rw [Request.origin, hhost]
  refine List.takeWhile_eq_self_iff.2 fun c hc => ?_
  rw [bne_iff_ne]
  rintro rfl
  rcases List.mem_append.1 hc with hc | hc
  · exact e.not_mem_path hc
  · exact hrest hc

/-- The path and the query of a target that is made of them. -/
lemma path_and_query_of_target {query : String} (hquery : '#' ∉ query.toList)
    (htarget : http.target = e.path ++ "?" ++ query) :
    http.path = e.path ∧ http.query = query := by
  have horigin : http.origin = e.path.toList ++ '?' :: query.toList := by
    refine origin_of_target ?_ (by simp [hquery])
    rw [htarget]
    simp
  constructor
  · rw [Request.path, horigin, List.takeWhile_append_of_pos bne_of_mem_path,
      List.takeWhile_cons_of_neg (by simp), List.append_nil, String.ofList_toList]
  · rw [Request.query, horigin, List.dropWhile_append_of_pos bne_of_mem_path,
      List.dropWhile_cons_of_neg (by simp), List.drop_one, List.tail_cons, String.ofList_toList]

/-- The path of a target without a query. -/
lemma path_and_query_of_path (htarget : http.target = e.path) :
    http.path = e.path ∧ http.query = "" := by
  have horigin : http.origin = e.path.toList := by
    rw [← List.append_nil e.path.toList]
    refine origin_of_target ?_ List.not_mem_nil
    rw [htarget, List.append_nil]
  constructor
  · rw [Request.path, horigin, List.takeWhile_eq_self_iff.2 bne_of_mem_path, String.ofList_toList]
  · rw [Request.query, horigin, List.dropWhile_eq_nil_iff.2 bne_of_mem_path]
    rfl

@[simp] lemma ofPath?_path (e : Endpoint) : ofPath? e.path = some e := by
  cases e <;> decide +kernel

end Endpoint

/-! ### The two ways of writing a request -/

namespace CheckRequest

variable {r : CheckRequest} {http : Web.Request}

/-- The form of a request is read as the request. -/
lemma ofForm_decode_encode (r : CheckRequest) :
    ofForm (Form.decode (Form.encode r.toForm)) = .ok r := by
  obtain ⟨domain, resolver⟩ := r
  rw [Form.decode_encode]
  cases domain <;> cases resolver <;> rfl

lemma nesting_toJson (r : CheckRequest) : r.toJson.nesting = 1 := by
  simp [toJson, Member.named, Json.nesting, Json.nestingOfMembers, Json.nestingOfMember]

lemma isComplete_toJson (r : CheckRequest) : r.toJson.IsComplete := by
  simp [toJson, Member.named, Json.IsComplete, Json.AreCompleteMembers, Json.IsCompleteMember]

/-- Requests are decoded from their documents. -/
lemma reverses_decode (limit : Nat) : Json.Reverses decode toJson (fun _ => True) limit where
  decode_enc {depth r} _ _ hnesting := by
    rw [nesting_toJson] at hnesting
    obtain ⟨n, rfl⟩ : ∃ n, depth = n + 1 := ⟨depth - 1, by omega⟩
    simp [decode, toJson, Json.Shape.decode, Json.Shape.putMembers, Member.named, shape]
  of_decode {depth j r} hj := by
    rw [nesting_toJson]
    exact ⟨trivial, Json.Shape.pos_of_decode hj⟩

/-- A GET request whose query is the form of a request for a validation.  If the form is empty, the
question mark in front of it may be missing. -/
structure AsksInQuery (r : CheckRequest) (http : Web.Request) : Prop where
  method : http.method = .get
  target : http.target = Endpoint.check.path ++ "?" ++ Form.encode r.toForm ∨
    r.toForm = [] ∧ http.target = Endpoint.check.path

/-- A POST request whose body is the document of a request for a validation, in either form and
within the limit. -/
structure AsksInBody (r : CheckRequest) (http : Web.Request) : Prop where
  method : http.method = .post
  target : http.target = Endpoint.check.path
  contentType : http.header? "content-type" = some (Text.Utf8.encode "application/json")
  body : http.body = Text.Utf8.encode r.toJson.compact ∨
    http.body = Text.Utf8.encode r.toJson.indented
  size : http.body.length ≤ maxBodyBytes

lemma AsksInQuery.path_and_query (h : r.AsksInQuery http) :
    http.path = Endpoint.check.path ∧ http.query = Form.encode r.toForm := by
  rcases h.target with htarget | ⟨hnone, htarget⟩
  · refine Endpoint.path_and_query_of_target (fun hmem => ?_) htarget
    rcases Form.of_mem_encode hmem with h | h | h
    · exact absurd h (by decide)
    · cases h
    · cases h
  · obtain ⟨hpath, hquery⟩ := Endpoint.path_and_query_of_path htarget
    rw [hnone]
    exact ⟨hpath, hquery⟩

/-- The document in a body is read as the request. -/
lemma ofBody_of_asksInBody (w : Wording) (h : r.AsksInBody http) : ofBody w http = .ok r := by
  have hjson : saysJson http = true := by
    rw [saysJson, h.contentType]
    decide +kernel
  have hsize : ¬ http.body.length > maxBodyBytes := Nat.not_lt.2 h.size
  have hdecode : decode Json.maxDepth r.toJson = .ok r :=
    (reverses_decode (Json.maxDepth + 1)).decode_enc (Nat.lt_succ_self _) trivial
      (by rw [nesting_toJson]; decide)
  have htext {text : String} (h : text = r.toJson.compact ∨ text = r.toJson.indented) :
      Json.decodeBytes decode (Text.Utf8.encode text) = .ok r := by
    rw [Json.decodeBytes_encode, Json.decodeText_eq decode r.isComplete_toJson h, hdecode]
  have hbytes : Json.decodeBytes decode http.body = .ok r := by
    rcases h.body with hbody | hbody <;> rw [hbody]
    · exact htext (Or.inl rfl)
    · exact htext (Or.inr rfl)
  rw [ofBody, if_pos hjson, if_neg hsize, hbytes]
  rfl

end CheckRequest

/-! ### Answers -/

namespace Service

variable (s : Service) (uptime uptime' task : Nat) (state : State) {http : Web.Request}

lemma handle_get_check (hpath : http.path = Endpoint.check.path) (hmethod : http.method = .get) :
    s.handle uptime task http state = s.get uptime task .check http state := by
  rw [handle, hpath, hmethod, Endpoint.ofPath?_path]

lemma handle_post_check (hpath : http.path = Endpoint.check.path) (hmethod : http.method = .post) :
    s.handle uptime task http state = s.post task http state := by
  rw [handle, hpath, hmethod, Endpoint.ofPath?_path]

/-- A request in a query and the same request in a body have the same response and leave the same
state behind, in every state of the service and in every task: those that the request itself has
when it comes to the service.  So the status and the envelope are the same, the same questions go to
the backends, and the same is counted. -/
theorem handle_get_eq_handle_post (r : CheckRequest) {get post : Web.Request}
    (hget : r.AsksInQuery get) (hpost : r.AsksInBody post) :
    s.handle uptime task get state = s.handle uptime' task post state ∧
      s.handle uptime task get state = s.answer task r state := by
  obtain ⟨hgetPath, hquery⟩ := hget.path_and_query
  obtain ⟨hpostPath, -⟩ := Endpoint.path_and_query_of_path hpost.target
  have hgetAnswer : s.handle uptime task get state = s.answer task r state := by
    rw [s.handle_get_check uptime task state hgetPath hget.method, Service.get, hquery,
      CheckRequest.ofForm_decode_encode]
  have hpostAnswer : s.handle uptime' task post state = s.answer task r state := by
    rw [s.handle_post_check uptime' task state hpostPath hpost.method, Service.post,
      CheckRequest.ofBody_of_asksInBody s.wording hpost]
  exact ⟨hgetAnswer.trans hpostAnswer.symm, hgetAnswer⟩

/-- A service without backends. -/
def bare : Service where
  resolvers := { sources := [], default := .native, fallbackOrder := [], timeoutMs := 1000 }
  requestTimeoutMs := 5000
  wording := .quoting

/-- A request with separators, blanks, quotes, a control character and characters of several
bytes. -/
def awkward : CheckRequest where
  domain := some "a&b=c+d %é\"\\\n#?😀"
  resolver := some ""

def awkwardQuery : Web.Request where
  method := .get
  target :=
    "/api/spf?domain=a%26b%3Dc%2Bd+%25%C3%A9%22%5C%0A%23%3F%F0%9F%98%80&resolver="

def awkwardBody : Web.Request where
  method := .post
  target := "/api/spf"
  headers := [("Content-Type", Text.Utf8.encode "application/json")]
  body := Text.Utf8.encode
    "\x7b\"domain\":\"a&b=c+d %é\\\"\\\\\\n#?😀\",\"resolver\":\"\"\x7d"

/-- An awkward request is answered alike in both ways. -/
theorem handle_get_eq_handle_post_awkward :
    awkward.AsksInQuery awkwardQuery ∧ awkward.AsksInBody awkwardBody ∧
      bare.handle 1 7 awkwardQuery {} = bare.handle 2 7 awkwardBody {} ∧
      (bare.handle 1 7 awkwardQuery {}).1.status = 400 := by
  have hname : "Content-Type".toLower = "content-type".toLower := by
    rw [← String.toList_inj, String.toLower, String.toLower, String.toList_map, String.toList_map]
    decide +kernel
  have hcontentType : awkwardBody.header? "content-type" =
      some (Text.Utf8.encode "application/json") := by
    simp [Request.header?, awkwardBody, hname]
  have hget : awkward.AsksInQuery awkwardQuery := ⟨rfl, Or.inl (by decide +kernel)⟩
  have hpost : awkward.AsksInBody awkwardBody :=
    ⟨rfl, rfl, hcontentType, Or.inl (by decide +kernel), by decide +kernel⟩
  obtain ⟨hsame, hanswer⟩ := bare.handle_get_eq_handle_post 1 2 7 {} awkward hget hpost
  have hstatus : (bare.handle 1 7 awkwardQuery {}).1.status = 400 := by
    rw [hanswer]
    decide +kernel
  exact ⟨hget, hpost, hsame, hstatus⟩

end Service

end SenderPolicy
