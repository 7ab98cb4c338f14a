/-
What a service answers and what it counts.

A request is either rejected by the checks on it, and then nothing is asked, or it is run, and then
its outcome is a report or an internal error (`Service.check_cases`).  What answers it is read off
the outcome alone, and so is the label under which it is counted.  The label can be read off the
response as well (`Service.labelOf`), so the counters of a service that starts afresh tell how many
responses of each kind it gave, whatever the requests were.

The number that the runtime gives to the task of a request can be seen in the response only if a
backend breaks down, in the words that the runtime finds for that (`Service.response_cases`).
-/
import Mathlib.Tactic.Lemma
import Mathlib.Tactic.SplitIfs
import SenderPolicy.Proofs.Resolution.Fallback
import SenderPolicy.Proofs.Resolution.Timeline
import SenderPolicy.Service

namespace SenderPolicy

/-! ### Durations -/

namespace Metrics

/-- How many durations were observed for an outcome. -/
def samples (m : Metrics) (outcome : String) : Nat :=
  ((m.durations.lookup outcome).map Histogram.count).getD 0

/-- Each observation is one more sample of its outcome. -/
lemma count_lookup_observe (outcome name : String) (seconds : Float)
    (durations : List (String × Histogram)) :
    (((observe outcome seconds durations).lookup name).map Histogram.count).getD 0 =
      ((durations.lookup name).map Histogram.count).getD 0 + if name = outcome then 1 else 0 := by
  induction durations with
  | nil =>
      rw [observe, List.lookup_cons, List.lookup_nil]
      by_cases h : name = outcome
      · subst h
        simp [Histogram.observe, Histogram.empty]
      · simp [beq_false_of_ne h, h]
  | cons e rest ih =>
      obtain ⟨name', h'⟩ := e
      rw [observe]
      by_cases hname' : name' = outcome
      · subst hname'
        rw [if_pos rfl, List.lookup_cons, List.lookup_cons]
        by_cases h : name = name'
        · subst h
          simp [Histogram.observe]
        · simp [beq_false_of_ne h, h]
      · rw [if_neg hname', List.lookup_cons, List.lookup_cons]
        by_cases h : name = name'
        · subst h
          simp [hname']
        · simpa [beq_false_of_ne h] using ih

@[simp] lemma samples_recordValidation (m : Metrics) (outcome name : String) (seconds : Float) :
    (m.recordValidation outcome seconds).samples name =
      m.samples name + if name = outcome then 1 else 0 :=
  count_lookup_observe outcome name seconds m.durations

@[simp] lemma count_recordValidation (m : Metrics) (outcome name : String) (seconds : Float) :
    (m.recordValidation outcome seconds).validations.count name =
      m.validations.count name + if name = outcome then 1 else 0 :=
  Tally.count_add _ _ _

end Metrics

/-- The words of a runtime that quotes what a task said, and of a reader that finds no name behind
the opening bracket. -/
def Wording.quoting : Wording where
  brokenTask
    | task, .text message =>
      "task " ++ toString task ++ " panicked with message \"" ++ message ++ "\""
    | task, .other => "task " ++ toString task ++ " panicked"
  notRequest _ := "key must be a string at line 1 column 2"

namespace Service

/-! ### Responses -/

/-- A response as responses have to be: either the request was carried out and there is a report, or
it was not and there is an error. -/
inductive Proper : Nat × Envelope → Prop where
  | carriedOut (report : Report) :
      Proper (200, { success := true, result := some report, error := none })
  | refused {status : Nat} (hstatus : status = 400 ∨ status = 500) (message : String) :
      Proper (status, { success := false, result := none, error := some message })

/-- The request was carried out, and no node of the report has an error. -/
def isClean (response : Nat × Envelope) : Bool :=
  response.1 == 200 && response.2.result.any fun report =>
    report.nodes.all fun node => node.finding.issues.all fun i => i.severity != .error

/-- The label under which a response is counted. -/
def labelOf (response : Nat × Envelope) : String :=
  if isClean response then "ok"
  else if response.1 = 200 then "issues"
  else if response.1 = 400 then "rejected"
  else "failed"

/-- The outcome of a request that is run: a report or an internal error. -/
inductive Ran : Except RequestError Report → Prop where
  | report (r : Report) : Ran (.ok r)
  | internal (reason : String) : Ran (.error (.internal reason))

lemma status_eq (e : RequestError) : e.status = 400 ∨ e.status = 500 := by
  cases e <;> simp [RequestError.status]

lemma proper_respond (outcome : Except RequestError Report) : Proper (respond outcome) := by
  cases outcome with
  | ok r => exact .carriedOut r
  | error e => exact .refused (status_eq e) e.message

lemma isClean_respond_ok (r : Report) : isClean (respond (.ok r)) = !r.hasErrorsInTree := by
  have hnode : ∀ node : Report,
      (node.finding.issues.all fun i => i.severity != .error) = !node.hasErrors := by
    intro node
    rw [Report.hasErrors, Finding.hasErrors, List.not_any_eq_all_not]
    rfl
  simp only [isClean, respond, Envelope.ok, Option.any_some, hnode, Report.hasErrorsInTree,
    List.not_any_eq_all_not]
  rfl

/-- The label of an outcome can be read off its response. -/
lemma label_eq_labelOf_respond (outcome : Except RequestError Report) :
    label outcome = labelOf (respond outcome) := by
  cases outcome with
  | ok r =>
      rw [label, labelOf, isClean_respond_ok]
      cases r.hasErrorsInTree <;> rfl
  | error e =>
      rw [label, labelOf]
      rcases status_eq e with h | h <;> simp [isClean, respond, h]

/-! ### One request -/

/-- One of the checks on a request fails. -/
def Rejected (request : CheckRequest) : Prop :=
  (∃ e, CheckRequest.checkDomain request.domain = .error e) ∨
    ∃ e, CheckRequest.checkResolver request.resolver = .error e

lemma status_of_checkDomain {domain : Option String} {e : RequestError}
    (h : CheckRequest.checkDomain domain = .error e) : e.status = 400 := by
  rw [CheckRequest.checkDomain] at h
  split at h
  · cases h
    rfl
  · split_ifs at h <;>
      · cases h
        rfl

lemma status_of_checkResolver {resolver : Option String} {e : RequestError}
    (h : CheckRequest.checkResolver resolver = .error e) : e.status = 400 := by
  rw [CheckRequest.checkResolver] at h
  split at h
  · cases h
  · split_ifs at h
    split at h
    · cases h
    · cases h
      rfl

/-- A request is refused with the error of one of its checks, or passes both of them. -/
lemma check_request_cases (request : CheckRequest) :
    (∃ e, request.check = .error e ∧ e.status = 400 ∧ Rejected request) ∨
      ∃ domain first, request.check = .ok (domain, first) ∧ ¬ Rejected request := by
  rw [CheckRequest.check, Rejected]
  cases hdomain : CheckRequest.checkDomain request.domain with
  | error e => exact Or.inl ⟨e, rfl, status_of_checkDomain hdomain, Or.inl ⟨e, rfl⟩⟩
  | ok domain =>
      cases hresolver : CheckRequest.checkResolver request.resolver with
      | error e => exact Or.inl ⟨e, rfl, status_of_checkResolver hresolver, Or.inr ⟨e, rfl⟩⟩
      | ok first => exact Or.inr ⟨domain, first, rfl, by simp⟩

section Run

variable (s : Service) (domain : String) (first : Option Backend)

lemma ran_run (task : Nat) : Ran (s.run task domain first).outcome := by
  simp only [run]
  split
  · exact .internal _
  · generalize (Inquiry.runAttempts _ _).2 = result
    cases result with
    | error payload => exact .internal _
    | ok report => exact .report report

/-- The number of the task matters to the outcome only if a backend breaks down. -/
lemma outcome_run_cases :
    (∃ outcome, ∀ task, (s.run task domain first).outcome = outcome) ∨
      ∃ payload, s.resolvers.BreaksDown payload ∧ ∀ task,
        (s.run task domain first).outcome = .error (brokeDown s.wording task payload) := by
  simp only [run]
  generalize hresult : Inquiry.runAttempts _ _ = attempted
  obtain ⟨made, result⟩ := attempted
  by_cases hlate : Resolution.elapsedMs made > s.requestTimeoutMs
  · exact Or.inl ⟨_, fun task => by rw [if_pos hlate]⟩
  · cases result with
    | ok report => exact Or.inl ⟨.ok report, fun task => by rw [if_neg hlate]; rfl⟩
    | error payload =>
        obtain ⟨name, houtcome⟩ :=
          Inquiry.exists_error_of_runAttempts (congrArg Prod.snd hresult)
        obtain ⟨e, he, hpanics⟩ := (Resolution.follows_attempts _).exists_panics houtcome
        exact Or.inr ⟨payload, ⟨e, Resolution.Resolvers.mem_sources_of_mem_chain he, name, hpanics⟩,
          fun task => by rw [if_neg hlate]; rfl⟩

end Run

/-- A request is rejected and nothing is asked for it, or it is run.  In both cases the outcome and
what is counted do not depend on what happened before. -/
lemma check_cases (s : Service) (request : CheckRequest) :
    (∃ e, Rejected request ∧ e.status = 400 ∧ ∀ task state,
      s.check task request state = (respond (.error e), state.record [] [] 0 (.error e))) ∨
    ∃ domain first, ¬ Rejected request ∧ ∀ task state,
      let r := s.run task domain first
      s.check task request state =
        (respond r.outcome, state.record r.started r.finished r.elapsedMs r.outcome) := by
  rcases check_request_cases request with
    ⟨e, hcheck, hstatus, hrejected⟩ | ⟨domain, first, hcheck, hpassed⟩
  · exact Or.inl ⟨e, hrejected, hstatus, fun task state => by rw [check, hcheck]⟩
  · exact Or.inr ⟨domain, first, hpassed, fun task state => by rw [check, hcheck]⟩

/-- The response to a request is always the same, unless a backend breaks down. -/
lemma response_cases (s : Service) (request : CheckRequest) :
    (∃ response, ∀ task state, (s.check task request state).1 = response) ∨
      ∃ payload, s.resolvers.BreaksDown payload ∧ ∀ task state,
        (s.check task request state).1 = (500, .failure (brokeDown s.wording task payload)) := by
  rcases s.check_cases request with ⟨e, -, -, hcheck⟩ | ⟨domain, first, -, hcheck⟩
  · exact Or.inl ⟨_, fun task state => by rw [hcheck]⟩
  · rcases s.outcome_run_cases domain first with ⟨outcome, hrun⟩ | ⟨payload, hpanics, hrun⟩
    · exact Or.inl ⟨respond outcome, fun task state => by rw [hcheck, hrun]⟩
    · refine Or.inr ⟨payload, hpanics, fun task state => ?_⟩
      rw [hcheck, hrun]
      rfl

section Check

variable (s : Service) (task : Nat) (request : CheckRequest) (state : State)

lemma proper_check : Proper (s.check task request state).1 := by
  rcases s.check_cases request with ⟨e, -, -, hcheck⟩ | ⟨domain, first, -, hcheck⟩
  · simpa only [hcheck] using proper_respond (.error e)
  · simpa only [hcheck] using proper_respond (s.run task domain first).outcome

/-- The status tells whether the request was rejected. -/
lemma status_check_eq_iff : (s.check task request state).1.1 = 400 ↔ Rejected request := by
  rcases s.check_cases request with
    ⟨e, hrejected, hstatus, hcheck⟩ | ⟨domain, first, hpassed, hcheck⟩
  · rw [hcheck]
    exact iff_of_true hstatus hrejected
  · rw [hcheck]
    refine iff_of_false ?_ hpassed
    have hran := s.ran_run domain first task
    generalize (s.run task domain first).outcome = outcome at hran
    cases hran with
    | report report => simp [respond]
    | internal reason => simp [respond, RequestError.status]

/-- For a request that is rejected no backend is asked, and no lookup is counted. -/
lemma check_of_status_eq (h : (s.check task request state).1.1 = 400) :
    (s.check task request state).2.queries = state.queries ∧
      (s.check task request state).2.metrics.lookups = state.metrics.lookups := by
  have hrejected := (s.status_check_eq_iff task request state).1 h
  rcases s.check_cases request with ⟨e, -, -, hcheck⟩ | ⟨domain, first, hpassed, -⟩
  · rw [hcheck]
    exact ⟨rfl, rfl⟩
  · exact absurd hrejected hpassed

lemma response_eq : (s.check task request state).1 = (s.check task request {}).1 := by
  rcases s.check_cases request with ⟨e, -, -, hcheck⟩ | ⟨domain, first, -, hcheck⟩ <;>
    rw [hcheck, hcheck]

/-- The counter and the histogram of the label of the response go up by one. -/
lemma metrics_check (name : String) :
    (s.check task request state).2.metrics.validations.count name =
      state.metrics.validations.count name +
      (if name = labelOf (s.check task request state).1 then 1 else 0) ∧
    (s.check task request state).2.metrics.samples name = state.metrics.samples name +
      (if name = labelOf (s.check task request state).1 then 1 else 0) := by
  rcases s.check_cases request with ⟨e, -, -, hcheck⟩ | ⟨domain, first, -, hcheck⟩ <;>
    · rw [hcheck, ← label_eq_labelOf_respond]
      exact ⟨Metrics.count_recordValidation .., Metrics.samples_recordValidation ..⟩

end Check

/-! ### One request after the other -/

/-- Answers requests one after the other, each in the task whose number stands beside it. -/
def checkAll (s : Service) : List (Nat × CheckRequest) → State → List (Nat × Envelope) × State
  | [], state => ([], state)
  | (task, request) :: requests, state =>
    let (response, state) := s.check task request state
    let (responses, state) := s.checkAll requests state
    (response :: responses, state)

section CheckAll

variable (s : Service) (requests : List (Nat × CheckRequest)) (state : State)

/-- No response depends on the requests before it. -/
lemma responses_eq :
    (s.checkAll requests state).1 =
      requests.map fun (task, request) => (s.check task request {}).1 := by
  induction requests generalizing state with
  | nil => rfl
  | cons e requests ih =>
      obtain ⟨task, request⟩ := e
      simp only [checkAll, List.map_cons, ih, s.response_eq task request state]

/-- Each response is counted and timed once, under its label. -/
lemma metrics_checkAll (name : String) :
    (s.checkAll requests state).2.metrics.validations.count name =
        state.metrics.validations.count name +
          (s.checkAll requests state).1.countP (fun response => name = labelOf response) ∧
      (s.checkAll requests state).2.metrics.samples name = state.metrics.samples name +
        (s.checkAll requests state).1.countP (fun response => name = labelOf response) := by
  induction requests generalizing state with
  | nil => exact ⟨rfl, rfl⟩
  | cons e requests ih =>
      obtain ⟨hcount, hsamples⟩ := s.metrics_check e.1 e.2 state name
      obtain ⟨ihcount, ihsamples⟩ := ih (s.check e.1 e.2 state).2
      simp only [checkAll, List.countP_cons, decide_eq_true_eq]
      constructor <;> omega

end CheckAll

lemma labelOf_mem (response : Nat × Envelope) :
    labelOf response ∈ ["ok", "issues", "rejected", "failed"] := by
  rw [labelOf]
  split_ifs <;> simp

/-- The label of a proper response, by its status. -/
lemma Proper.labelOf_eq_iff {response : Nat × Envelope} (h : Proper response) :
    ("ok" = labelOf response ↔ isClean response = true) ∧
      ("issues" = labelOf response ↔ (response.1 = 200 ∧ isClean response = false)) ∧
      ("rejected" = labelOf response ↔ response.1 = 400) ∧
      ("failed" = labelOf response ↔ response.1 = 500) := by
  rw [labelOf]
  cases h with
  | carriedOut report =>
      cases isClean (200, { success := true, result := some report, error := none }) <;> simp
  | refused hstatus message =>
      rcases hstatus with rfl | rfl <;> simp [isClean]

/-- A service that answers requests.

Every response is a proper one.  Its status is 400 exactly if one of the checks on the request
fails, and then no backend is asked and no lookup is counted.

No response depends on the requests before it: it is the response of a service that starts afresh to
the same request in the same task.  Nor does the number of the task make a difference, unless a
backend breaks down; then it can be seen in what the runtime says of that, and nowhere else.

After all requests, of a service that starts afresh, the counters of the validations are the numbers
of the responses of their kinds, there are no other counters, and every histogram has as many
samples as the counter says. -/
theorem checkAll_accounts (s : Service) (requests : List (Nat × CheckRequest)) :
    (∀ task request state, Proper (s.check task request state).1 ∧
      ((s.check task request state).1.1 = 400 ↔ Rejected request) ∧
      ((s.check task request state).1.1 = 400 →
        (s.check task request state).2.queries = state.queries ∧
          (s.check task request state).2.metrics.lookups = state.metrics.lookups)) ∧
    (∀ state, (s.checkAll requests state).1 =
      requests.map fun (task, request) => (s.check task request {}).1) ∧
    (∀ request,
      (∃ response, ∀ task state, (s.check task request state).1 = response) ∨
      ∃ payload, s.resolvers.BreaksDown payload ∧ ∀ task state,
        (s.check task request state).1 = (500, .failure (brokeDown s.wording task payload))) ∧
    let responses := (s.checkAll requests {}).1
    let m := (s.checkAll requests {}).2.metrics
    m.validations.count "ok" = responses.countP isClean ∧
      m.validations.count "issues" =
        responses.countP (fun response => response.1 = 200 && !isClean response) ∧
      m.validations.count "rejected" = responses.countP (fun response => response.1 = 400) ∧
      m.validations.count "failed" = responses.countP (fun response => response.1 = 500) ∧
      (∀ name ∉ ["ok", "issues", "rejected", "failed"], m.validations.count name = 0) ∧
      ∀ name, m.samples name = m.validations.count name := by
  refine ⟨fun task request state => ⟨s.proper_check task request state,
    s.status_check_eq_iff task request state, s.check_of_status_eq task request state⟩,
    s.responses_eq requests, s.response_cases, ?_⟩
  intro responses m
  have hproper : ∀ response ∈ responses, Proper response := by
    intro response hresponse
    rw [show responses = _ from s.responses_eq requests {}] at hresponse
    obtain ⟨e, -, rfl⟩ := List.mem_map.1 hresponse
    exact s.proper_check e.1 e.2 {}
  have hcount : ∀ name, m.validations.count name =
      responses.countP fun response => name = labelOf response := fun name =>
    ((s.metrics_checkAll requests {} name).1).trans (Nat.zero_add _)
  have hsamples : ∀ name, m.samples name =
      responses.countP fun response => name = labelOf response := fun name =>
    ((s.metrics_checkAll requests {} name).2).trans (Nat.zero_add _)
  -- a counter is the number of the responses of any kind that its label stands for
  have hkind : ∀ (name : String) (kind : Nat × Envelope → Bool),
      (∀ response, Proper response → (name = labelOf response ↔ kind response = true)) →
      m.validations.count name = responses.countP kind := by
    intro name kind h
    rw [hcount]
    refine List.countP_congr fun response hresponse => ?_
    rw [decide_eq_true_eq]
    exact h response (hproper response hresponse)
  refine ⟨hkind _ _ fun response h => h.labelOf_eq_iff.1, hkind _ _ fun response h => ?_,
    hkind _ _ fun response h => ?_, hkind _ _ fun response h => ?_, fun name hname => ?_,
    fun name => (hsamples name).trans (hcount name).symm⟩
  · simpa using h.labelOf_eq_iff.2.1
  · simpa using h.labelOf_eq_iff.2.2.1
  · simpa using h.labelOf_eq_iff.2.2.2
  · rw [hcount, List.countP_eq_zero]
    intro response _ heq
    rw [decide_eq_true_eq] at heq
    exact hname (heq ▸ labelOf_mem response)

/-! ### A day of a service -/

section Sample

/-- A backend that has a policy for one domain, is too slow for another one and breaks down for a
third one. -/
def moody : Resolution.Source := fun domain =>
  if domain = "a.example" then .answers 10 (.ok ["v=spf1 -all"])
  else if domain = "slow.example" then .answers 9000 (.ok [])
  else if domain = "broken.example" then .panics (.text "backend panic")
  else .answers 10 (.ok [])

def moodyService : Service where
  resolvers := {
    sources := [(.native, moody)], default := .native, fallbackOrder := [], timeoutMs := 10000 }
  requestTimeoutMs := 5000
  wording := .quoting

/-- Requests of all kinds, and the numbers of their tasks. -/
def moodyRequests : List (Nat × CheckRequest) :=
  [(11, { domain := some "A.example " }), (12, { domain := some "none.example" }),
    (17, { domain := some "slow.example" }), (18, { domain := some "a_b" }),
    (18, { domain := some "broken.example" }),
    (20, { domain := some "a.example", resolver := some "quad9" }),
    (20, { domain := some "a.example" })]

/-- The service has counted two validations without errors, one with errors, two rejected requests,
and two that failed, one by the deadline and one by the backend.  The latter tells its task. -/
theorem checkAll_accounts_moody :
    (moodyService.checkAll moodyRequests {}).1.map Prod.fst =
        [200, 200, 500, 400, 500, 400, 200] ∧
      ((moodyService.checkAll moodyRequests {}).1.filterMap fun response => response.2.error) =
        ["Internal error: validation timed out after 5000ms", "Invalid domain format: a_b",
          "Internal error: task 18 panicked with message \"backend panic\"",
          "Unknown resolver: quad9"] ∧
      let m := (moodyService.checkAll moodyRequests {}).2.metrics
      m.validations.count "ok" = 2 ∧ m.validations.count "issues" = 1 ∧
        m.validations.count "rejected" = 2 ∧ m.validations.count "failed" = 2 ∧
        m.samples "failed" = 2 := by
  obtain ⟨-, hresponses, -, hok, hissues, hrejected, hfailed, -, hsamples⟩ :=
    moodyService.checkAll_accounts moodyRequests
  rw [hresponses] at hok hissues hrejected hfailed
  refine ⟨?_, ?_, hok.trans ?_, hissues.trans ?_, hrejected.trans ?_, hfailed.trans ?_,
    (hsamples "failed").trans (hfailed.trans ?_)⟩
  · rw [hresponses]
    decide +kernel
  · rw [hresponses]
    decide +kernel
  all_goals decide +kernel

end Sample

end Service

end SenderPolicy
