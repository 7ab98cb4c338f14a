/-
The deadline of a request.

For a request that passes the checks the engine can be run without a deadline, with the chain of the
request to answer its questions: that run has its lookups, its report, its time and the times at
which its attempts start.  With backends that answer, what the service does within its deadline is
told by that run alone (`Service.check_deadline`).  If there is time enough, the report is that of
the run without a deadline, and the same attempts are made.  Otherwise the request fails, and the
attempts are those of the run without a deadline that start before it.

That this is what a race against a timer comes to, in which nothing is asked once the timer has gone
off, is part of the statement.
-/
import SenderPolicy.Proofs.Service.Bookkeeping

namespace SenderPolicy

open Resolution

namespace Service

variable (s : Service) (first : Option Backend) (domain : String)

/-! ### The run without a deadline -/

/-- The attempts to look up a name with the chain of a request. -/
def attempts (name : String) : List Attempt :=
  (s.resolvers.chain first).attempts s.resolvers.timeoutMs name

/-- What these attempts come to, as long as no backend breaks down. -/
def answerOf (name : String) : TxtAnswer :=
  (outcomeOf (s.attempts first name)).toOption.getD (.error .noBackends)

/-- The names that are looked up one after the other. -/
def lookups : List String := (validate domain).queries (s.answerOf first)

/-- The report in the end. -/
def unhurriedReport : Report := (validate domain).run (s.answerOf first)

/-- The time that all lookups take together. -/
def unhurriedMs : Nat :=
  ((s.lookups first domain).map fun name => elapsedMs (s.attempts first name)).sum

/-- The attempts of all lookups with the times at which they start. -/
def unhurriedTimetable : List (Nat × Attempt) :=
  timetable 0 ((s.lookups first domain).flatMap (s.attempts first))

variable {s first domain}

lemma outcomeOf_attempts (h : s.resolvers.Answers) (name : String) :
    outcomeOf (s.attempts first name) = .ok (s.answerOf first name) := by
  obtain ⟨answer, hanswer⟩ := (h.settled first name).exists_outcome
  have hattempts : outcomeOf (s.attempts first name) = .ok answer := hanswer
  rw [answerOf, hattempts]
  rfl

/-- The engine without a deadline. -/
lemma runAttempts_validate (h : s.resolvers.Answers) :
    (validate domain).runAttempts (s.attempts first) =
      ((s.lookups first domain).flatMap (s.attempts first), .ok (s.unhurriedReport first domain)) :=
  Inquiry.runAttempts_eq (outcomeOf_attempts h) (validate domain)

lemma elapsedMs_lookups :
    elapsedMs ((s.lookups first domain).flatMap (s.attempts first)) = s.unhurriedMs first domain :=
  elapsedMs_flatMap _ _

/-! ### The run with the deadline -/

/-- What the service does within the deadline, told by the run without one. -/
lemma run_eq (h : s.resolvers.Answers) (task : Nat) :
    let made := (s.lookups first domain).flatMap (s.attempts first)
    s.run task domain first =
      if s.requestTimeoutMs < s.unhurriedMs first domain then
        { started := startedBefore s.requestTimeoutMs 0 made
          finished := finishedBy s.requestTimeoutMs 0 made
          elapsedMs := s.requestTimeoutMs
          outcome := .error (timedOut s.requestTimeoutMs) }
      else
        { started := made
          finished := made
          elapsedMs := s.unhurriedMs first domain
          outcome := .ok (s.unhurriedReport first domain) } := by
  have hrun : (validate domain).runAttempts (s.attempts first) = _ := runAttempts_validate h
  rw [← elapsedMs_lookups]
  unfold attempts at hrun ⊢
  simp only [run, hrun]
  rfl

lemma run_of_lt (h : s.resolvers.Answers) (task : Nat)
    (htime : s.unhurriedMs first domain < s.requestTimeoutMs) :
    (s.run task domain first).outcome = .ok (s.unhurriedReport first domain) ∧
      (s.run task domain first).started = (s.unhurriedTimetable first domain).map Prod.snd := by
  rw [run_eq h task, if_neg (Nat.lt_asymm htime), unhurriedTimetable, map_snd_timetable]
  exact ⟨rfl, rfl⟩

lemma run_of_gt (h : s.resolvers.Answers) (task : Nat)
    (htime : s.requestTimeoutMs < s.unhurriedMs first domain) :
    (s.run task domain first).outcome = .error (timedOut s.requestTimeoutMs) ∧
      (s.run task domain first).started = ((s.unhurriedTimetable first domain).filter fun e =>
        e.1 < s.requestTimeoutMs).map Prod.snd := by
  rw [run_eq h task, if_pos htime, unhurriedTimetable, ← startedBefore_eq_filter]
  exact ⟨rfl, rfl⟩

/-- Whoever races the engine against a timer sees what the service does. -/
lemma run_of_raced (h : s.resolvers.Answers) (task : Nat) {started : List Attempt}
    {result : Option Report}
    (hraced : Inquiry.Raced (s.attempts first) s.requestTimeoutMs 0 (validate domain) started
      result) :
    (s.run task domain first).started = started ∧
      (s.run task domain first).outcome =
        result.elim (.error (timedOut s.requestTimeoutMs)) Except.ok := by
  obtain ⟨hstarted, hresult⟩ := hraced.spec
  rw [runAttempts_validate h] at hstarted hresult
  simp only [elapsedMs_lookups, Nat.zero_add] at hresult
  rcases hresult with ⟨r, rfl, hr, htime⟩ | ⟨rfl, htime⟩
  · obtain ⟨houtcome, hall⟩ := run_of_lt h task htime
    have hmade : started = (s.lookups first domain).flatMap (s.attempts first) := by
      rw [hstarted, startedBefore_of_lt]
      rw [Nat.zero_add, elapsedMs_lookups]
      exact htime
    obtain rfl := Except.ok.inj hr
    rw [hall, houtcome, hmade, unhurriedTimetable, map_snd_timetable]
    exact ⟨rfl, rfl⟩
  · obtain ⟨houtcome, hbefore⟩ := run_of_gt h task htime
    rw [hbefore, houtcome, hstarted, startedBefore_eq_filter]
    exact ⟨rfl, rfl⟩

/-- A request that passes the checks, with backends that answer.

Each lookup is with the chain of the request and takes its time, the first backend no longer than
the timeout.  If all lookups together take less than the deadline allows, the answer is the report
of the run without a deadline, and all its attempts are made.  If they take longer, the answer is
that the validation timed out, and the attempts are those of the run without a deadline that start
before it.  In both cases the queries are those of the attempts.

This is what a race of the engine against a timer comes to, and there is such a race unless
something ends just when the timer goes off. -/
theorem check_deadline (h : s.resolvers.Answers) {request : CheckRequest}
    (hcheck : request.check = .ok (domain, first)) (task : Nat) (state : State) :
    let limit := s.requestTimeoutMs
    let total := s.unhurriedMs first domain
    let table := s.unhurriedTimetable first domain
    let early := table.filter fun e => e.1 < limit
    (∀ name, Settled s.resolvers.timeoutMs name (s.resolvers.chain first) (s.attempts first name) ∧
      outcomeOf (s.attempts first name) = .ok (s.answerOf first name)) ∧
    (total < limit →
      (s.check task request state).1 = (200, .ok (s.unhurriedReport first domain)) ∧
      (s.run task domain first).started = table.map Prod.snd ∧
      (s.check task request state).2.queries =
        state.queries.addAll (table.map fun e => e.2.backend)) ∧
    (limit < total →
      (s.check task request state).1 = (500, .failure (timedOut limit)) ∧
      (s.run task domain first).started = early.map Prod.snd ∧
      (s.check task request state).2.queries =
        state.queries.addAll (early.map fun e => e.2.backend)) ∧
    (∀ started result,
      Inquiry.Raced (s.attempts first) limit 0 (validate domain) started result →
      (s.run task domain first).started = started ∧
        (s.run task domain first).outcome = result.elim (.error (timedOut limit)) Except.ok) ∧
    (0 < limit → (∀ e ∈ table, e.1 + e.2.durationMs ≠ limit) →
      ∃ started result,
        Inquiry.Raced (s.attempts first) limit 0 (validate domain) started result) := by
  intro limit total table early
  have hresponse : (s.check task request state).1 = respond (s.run task domain first).outcome := by
    rw [check, hcheck]
  have hqueries : (s.check task request state).2.queries =
      state.queries.addAll ((s.run task domain first).started.map Attempt.backend) := by
    rw [check, hcheck]
    rfl
  refine ⟨fun name => ⟨h.settled first name, outcomeOf_attempts h name⟩, fun htime => ?_,
    fun htime => ?_, fun started result hraced => run_of_raced h task hraced, fun hpos htie => ?_⟩
  · obtain ⟨houtcome, hstarted⟩ := run_of_lt h task htime
    rw [hresponse, hqueries, houtcome, hstarted, List.map_map]
    exact ⟨rfl, rfl, rfl⟩
  · obtain ⟨houtcome, hstarted⟩ := run_of_gt h task htime
    rw [hresponse, hqueries, houtcome, hstarted, List.map_map]
    exact ⟨rfl, rfl, rfl⟩
  · refine Inquiry.exists_raced (outcomeOf_attempts h) hpos ?_
    rw [runAttempts_validate h]
    exact htie

/-! ### A slow service -/

section Sample

/-- A first backend that is always cut off, and a second one that has the policies of two
domains. -/
def sluggish (requestTimeoutMs : Nat) : Service where
  resolvers := {
    sources := [(.native, .ofZone {} 1000),
      (.google, .ofZone
        { records := [("a.example", ["v=spf1 include:b.example"]), ("b.example", ["v=spf1 -all"])] }
        50)]
    default := .native
    fallbackOrder := [.google]
    timeoutMs := 20 }
  requestTimeoutMs
  wording := .quoting

lemma answers_sluggish (requestTimeoutMs : Nat) :
    (sluggish requestTimeoutMs).resolvers.Answers := by
  intro e he name
  simp only [sluggish, List.mem_cons, List.not_mem_nil, or_false] at he
  rcases he with rfl | rfl <;> exact ⟨_, _, rfl⟩

/-- Two lookups of 70 milliseconds each are carried out within 200 milliseconds.  Within 80 they are
not, and then the second backend is not asked for the second domain. -/
theorem check_deadline_sluggish :
    (sluggish 200).resolvers.Answers ∧ (sluggish 80).resolvers.Answers ∧
      CheckRequest.check { domain := some "A.example" } = .ok ("a.example", none) ∧
      ((sluggish 200).check 7 { domain := some "A.example" } {}).1 =
        (200, .ok ((sluggish 200).unhurriedReport none "a.example")) ∧
      ((sluggish 200).check 7 { domain := some "A.example" } {}).2.queries =
        ({} : Tally Backend).addAll [.native, .google, .native, .google] ∧
      ((sluggish 80).check 7 { domain := some "A.example" } {}).1 =
        (500, .failure (timedOut 80)) ∧
      ((sluggish 80).check 7 { domain := some "A.example" } {}).2.queries =
        ({} : Tally Backend).addAll [.native, .google, .native] ∧
      ∃ started result, Inquiry.Raced ((sluggish 80).attempts none) 80 0 (validate "a.example")
        started result := by
  have hcheck : CheckRequest.check { domain := some "A.example" } = .ok ("a.example", none) := by
    decide +kernel
  obtain ⟨-, hintime, -⟩ := check_deadline (answers_sluggish 200) hcheck 7 {}
  obtain ⟨-, -, hlate, -, hraced⟩ := check_deadline (answers_sluggish 80) hcheck 7 {}
  obtain ⟨hreport, -, hall⟩ := hintime (by decide +kernel)
  obtain ⟨herror, -, hsome⟩ := hlate (by decide +kernel)
  refine ⟨answers_sluggish 200, answers_sluggish 80, hcheck, hreport, hall.trans ?_, herror,
    hsome.trans ?_, hraced (by decide) (by decide +kernel)⟩
  · exact congrArg (Tally.addAll {}) (by decide +kernel)
  · exact congrArg (Tally.addAll {}) (by decide +kernel)

end Sample

end Service

end SenderPolicy
