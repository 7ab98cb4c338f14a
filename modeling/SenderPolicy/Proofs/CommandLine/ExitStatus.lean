/-
What the exit status of a check tells.

A check ends with the status 2 if the service did not carry out the request, with 1 if there is an
error anywhere in the report, and with 0 otherwise (`CommandLine.Tells`).  Since the status of an
answer, the flag of success in its envelope and the presence of a report go together
(`Service.Proper`), an envelope tells by itself with which status its check ended; and since the
printed envelope is read again as the envelope that was printed, the status can be found out from
the output alone.

Nothing of this depends on the times that a report shows, so it is said of every envelope that
differs in them at most from the one that the service answers.
-/
import SenderPolicy.CommandLine.Run
import SenderPolicy.Proofs.Report.Paths
import SenderPolicy.Proofs.Service.Envelopes
import SenderPolicy.Proofs.Settings.Nameservers

namespace SenderPolicy

namespace Envelope

/-- There is an error at the end of some path from the root of the report. -/
def HasErrorAtPath (e : Envelope) : Prop :=
  ∃ r ∈ e.result, ∃ path n, r.at? path = some n ∧ ∃ i ∈ n.finding.issues, i.severity = .error

/-- The envelope with all times set to zero. -/
def withoutTiming (e : Envelope) : Envelope :=
  { e with result := e.result.map Report.withoutTiming }

variable {e : Envelope}

lemma eq_ok_of_withoutTiming {report : Report}
    (h : e.withoutTiming = (ok report).withoutTiming) :
    ∃ r, e = .ok r ∧ r.withoutTiming = report.withoutTiming := by
  obtain ⟨success, result, error⟩ := e
  obtain ⟨rfl, hresult, rfl⟩ := Envelope.mk.inj h
  obtain ⟨r, rfl, hr⟩ := Option.map_eq_some_iff.1 hresult
  exact ⟨r, rfl, hr⟩

lemma eq_failure_of_withoutTiming {reason : RequestError}
    (h : e.withoutTiming = (failure reason).withoutTiming) : e = .failure reason := by
  obtain ⟨success, result, error⟩ := e
  obtain ⟨rfl, hresult, rfl⟩ := Envelope.mk.inj h
  obtain rfl := Option.map_eq_none_iff.1 hresult
  rfl

end Envelope

/-! ### Answers of the service -/

namespace Service

variable (s : Service) (task : Nat) (request : CheckRequest) (state : State) {e : Envelope}

/-- Whatever its times are, an answer is as answers have to be, and its envelope can be decoded. -/
lemma proper_and_decode_of_withoutTiming
    (h : e.withoutTiming = (s.check task request state).1.2.withoutTiming) :
    Proper ((s.check task request state).1.1, e) ∧
      Envelope.decode Json.maxDepth e.toJson = .ok e := by
  have hdecode : ∀ e : Envelope, e.IsCanonical → e.toJson.nesting ≤ Json.maxDepth →
      Envelope.decode Json.maxDepth e.toJson = .ok e := fun e hcanonical hnesting =>
    (Envelope.reverses_decode _).decode_enc (Nat.lt_succ_self _) hcanonical hnesting
  rcases s.check_eq_failure_or_ok task state request with
    ⟨reason, hcheck⟩ | ⟨domain, events, report, hrun, hcheck⟩
  · rw [hcheck] at h ⊢
    obtain rfl := Envelope.eq_failure_of_withoutTiming h
    refine ⟨proper_respond (.error reason), hdecode _ nofun ?_⟩
    rw [Envelope.nesting_toJson]
    exact Nat.le_of_ble_eq_true rfl
  · rw [hcheck] at h ⊢
    obtain ⟨r, rfl, hr⟩ := Envelope.eq_ok_of_withoutTiming h
    obtain ⟨hcanonical, hnesting⟩ := Report.isCanonical_and_nesting_le_of_run hrun hr
    refine ⟨.carriedOut r, hdecode _ ?_ ?_⟩
    · rintro _ ⟨⟩
      exact hcanonical
    · rw [Envelope.nesting_toJson]
      exact Nat.le_trans (Nat.succ_le_succ hnesting) (by decide)

end Service

namespace CommandLine

/-! ### The exit status of an answer -/

/-- The exit status of which an envelope tells by itself. -/
def exitStatusOf (e : Envelope) : Nat :=
  if e.success then
    if e.result.any Report.hasErrorsInTree then 1 else 0
  else 2

/-- What the exit status and the output of a check tell of the answer of the service. -/
structure Tells (json : Bool) (answer : Nat × Envelope) (outcome : Outcome) : Prop where
  /-- The flag of success tells the status of the answer. -/
  success_iff : answer.2.success = true ↔ answer.1 = 200
  /-- So does the presence of a report. -/
  result_iff : answer.2.result.isSome = true ↔ answer.1 = 200
  /-- There is no report. -/
  two_iff : outcome.exitStatus = 2 ↔ answer.1 ≠ 200
  /-- Some path leads to an error. -/
  one_iff : outcome.exitStatus = 1 ↔ answer.1 = 200 ∧ answer.2.HasErrorAtPath
  /-- There is a report, and no path leads to an error. -/
  zero_iff : outcome.exitStatus = 0 ↔ answer.1 = 200 ∧ ¬ answer.2.HasErrorAtPath
  /-- The printed envelope is read again, and tells the exit status. -/
  reread : json = true → ∃ e, Json.decodeText Envelope.decode outcome.output = .ok e ∧
    e = answer.2 ∧ outcome.exitStatus = exitStatusOf e

variable {json : Bool} {answer : Nat × Envelope}

@[simp] lemma exitStatus_present (json : Bool) (status : Nat) (e : Envelope) :
    (present json status e).exitStatus = exitStatus status e := by
  unfold present
  split
  · rfl
  · split <;> rfl

lemma hasErrorAtPath_iff {e : Envelope} :
    e.HasErrorAtPath ↔ e.result.any Report.hasErrorsInTree = true := by
  cases hresult : e.result with
  | none => simp [Envelope.HasErrorAtPath, hresult]
  | some r => simp [Envelope.HasErrorAtPath, hresult, Report.hasErrorsInTree_iff_exists_path]

section ExitStatusOf

variable {e : Envelope}

lemma exitStatusOf_eq_two_iff : exitStatusOf e = 2 ↔ ¬ e.success = true := by
  rw [exitStatusOf]
  cases e.success <;> cases e.result.any Report.hasErrorsInTree <;> decide

lemma exitStatusOf_eq_one_iff : exitStatusOf e = 1 ↔ e.success = true ∧ e.HasErrorAtPath := by
  rw [exitStatusOf, hasErrorAtPath_iff]
  cases e.success <;> cases e.result.any Report.hasErrorsInTree <;> decide

lemma exitStatusOf_eq_zero_iff : exitStatusOf e = 0 ↔ e.success = true ∧ ¬ e.HasErrorAtPath := by
  rw [exitStatusOf, hasErrorAtPath_iff]
  cases e.success <;> cases e.result.any Report.hasErrorsInTree <;> decide

end ExitStatusOf

/-- The flag of success stands for the status of an answer. -/
lemma exitStatus_eq (h : Service.Proper answer) :
    exitStatus answer.1 answer.2 = exitStatusOf answer.2 := by
  cases h with
  | carriedOut report => rfl
  | refused hstatus message => rcases hstatus with rfl | rfl <;> rfl

lemma success_iff_of_proper (h : Service.Proper answer) :
    answer.2.success = true ↔ answer.1 = 200 := by
  cases h with
  | carriedOut report => simp
  | refused hstatus message => rcases hstatus with rfl | rfl <;> simp

lemma result_iff_of_proper (h : Service.Proper answer) :
    answer.2.result.isSome = true ↔ answer.1 = 200 := by
  cases h with
  | carriedOut report => simp
  | refused hstatus message => rcases hstatus with rfl | rfl <;> simp

lemma tells_present (h : Service.Proper answer)
    (hdecode : Envelope.decode Json.maxDepth answer.2.toJson = .ok answer.2) (json : Bool) :
    Tells json answer (present json answer.1 answer.2) := by
  have hsuccess := success_iff_of_proper h
  have hstatus : (present json answer.1 answer.2).exitStatus = exitStatusOf answer.2 := by
    rw [exitStatus_present, exitStatus_eq h]
  refine ⟨hsuccess, result_iff_of_proper h, ?_, ?_, ?_, fun hjson => ?_⟩
  · rw [hstatus, exitStatusOf_eq_two_iff, hsuccess]
  · rw [hstatus, exitStatusOf_eq_one_iff, hsuccess]
  · rw [hstatus, exitStatusOf_eq_zero_iff, hsuccess]
  · refine ⟨answer.2, ?_, rfl, hstatus⟩
    rw [present, if_pos hjson]
    exact (Json.decodeText_indented_append _ answer.2.isComplete_toJson).trans hdecode

/-- Whatever its times are, the envelope of an answer is presented so that it can be found out
again. -/
lemma tells_of_withoutTiming (s : Service) (task : Nat) (request : CheckRequest)
    (state : Service.State) {e : Envelope}
    (htiming : e.withoutTiming = (s.check task request state).1.2.withoutTiming) (json : Bool) :
    Tells json ((s.check task request state).1.1, e)
      (present json (s.check task request state).1.1 e) := by
  obtain ⟨hproper, hdecode⟩ := s.proper_and_decode_of_withoutTiming task request state htiming
  exact tells_present hproper hdecode json

/-- A command line with accepted settings that asks for a check is run as that check. -/
lemma run_eq_present {env : Environment} {readFile : String → Except FileFault (List UInt8)}
    {n : Network} {args : List String} {i : Invocation} {s : Settings} {domain : String}
    {resolver : Option String} {json : Bool} (hread : Invocation.read args = .ok i)
    (hcommand : i.command = .check domain resolver json)
    (hsettings : i.settings env readFile = .ok s) :
    run env readFile n args =
      present json ((serviceOf n s).check n.task { domain := some domain, resolver } {}).1.1
        ((serviceOf n s).check n.task { domain := some domain, resolver } {}).1.2 := by
  simp only [run, hread, hsettings, Invocation.run, hcommand, check]

/-- The exit status of a check can be trusted, and it can be found out again from what is printed.

This holds of every service, request and network, whatever the settings, the domain and the choice
of a resolver are: a check ends with 2 exactly if the status of the answer is not 200, with 1
exactly if it is 200 and some path from the root of the report leads to a node with an error, and
with 0 exactly if it is 200 and there is no such path.  An envelope that is printed as JSON is read
again as the envelope of the answer, whatever times are in it, and the same rule gives the same exit
status for what was read. -/
theorem tells_check :
    (∀ (s : Service) (task : Nat) (request : CheckRequest) (state : Service.State) (e : Envelope)
      (json : Bool),
      e.withoutTiming = (s.check task request state).1.2.withoutTiming →
      Tells json ((s.check task request state).1.1, e)
        (present json (s.check task request state).1.1 e)) ∧
    ∀ (env : Environment) (readFile : String → Except FileFault (List UInt8)) (n : Network)
      (args : List String) (i : Invocation) (s : Settings) (domain : String)
      (resolver : Option String) (json : Bool),
      Invocation.read args = .ok i → i.command = .check domain resolver json →
      i.settings env readFile = .ok s →
      Tells json ((serviceOf n s).check n.task { domain := some domain, resolver } {}).1
        (run env readFile n args) := by
  refine ⟨fun s task request state e json htiming =>
    tells_of_withoutTiming s task request state htiming json, ?_⟩
  intro env readFile n args i s domain resolver json hread hcommand hsettings
  rw [run_eq_present hread hcommand hsettings]
  generalize ({ domain := some domain, resolver } : CheckRequest) = request
  have htells := tells_of_withoutTiming (serviceOf n s) n.task request {} rfl json
  rwa [Prod.mk.eta] at htells

open Invocation (googleByDefault bareText bareSettings silentNetwork)

/-- A check by a backend without a nameserver. -/
def unservedArgs : List String :=
  ["-c", "settings.toml", "check", "a.example", "-r", "native", "--json"]

/-- The settings file, whatever its name. -/
def bareFile : String → Except FileFault (List UInt8) := fun _ => .ok (Text.Utf8.encode bareText)

/-- A check by a backend without a nameserver ends with an error in the report. -/
theorem tells_check_unserved :
    ∃ i, Invocation.read unservedArgs = .ok i ∧
      i.command = .check "a.example" (some "native") true ∧
      i.settings googleByDefault bareFile = .ok bareSettings ∧
      (run googleByDefault bareFile silentNetwork unservedArgs).exitStatus = 1 ∧
      Tells true ((serviceOf silentNetwork bareSettings).check silentNetwork.task
          { domain := some "a.example", resolver := some "native" } {}).1
        (run googleByDefault bareFile silentNetwork unservedArgs) := by
  have hread : Invocation.read unservedArgs = .ok
      { verbose := false, config := some "settings.toml"
        command := .check "a.example" (some "native") true } := by
    decide +kernel
  have hsettings : Settings.ofFile "settings.toml" (bareFile "settings.toml") googleByDefault =
      .ok bareSettings := by
    decide +kernel
  refine ⟨_, hread, rfl, hsettings, by decide +kernel, ?_⟩
  exact tells_check.2 _ _ silentNetwork unservedArgs _ _ _ _ _ hread rfl hsettings

end CommandLine

end SenderPolicy
