/-
The domain of a request.

A request and the engine each bring a domain into the form in which domains are looked up.  Doing it
twice changes nothing, so the domain that was checked is the one that is asked for and reported.

The domains that pass are described without the reader of host names (`CheckRequest.IsAcceptable`):
those of one byte, and those with a letter or a digit at both ends and letters, digits, dots and
hyphens between them, where letters are those of ASCII in lower case.  How the request spells the
domain does not matter.  Lower-casing can make ASCII characters of others, and longer characters
too, but what is checked is what comes out of it.
-/
import SenderPolicy.Proofs.Lookup.Session
import SenderPolicy.Proofs.Service.Envelopes
import SenderPolicy.Proofs.Text.LowerCase

namespace SenderPolicy

open Inquiry (Run)

namespace CheckRequest

/-! ### Acceptable domains -/

/-- The text has a letter or a digit at both ends, and letters, digits, dots and hyphens between
them. -/
def HasHostForm (s : List Char) : Prop :=
  ∃ first middle last, s = first :: middle ++ [last] ∧ isHostEnd first = true ∧
    isHostEnd last = true ∧ ∀ c ∈ middle, isHostChar c = true

/-- What a domain in its normal form must be so that it is accepted. -/
structure IsAcceptable (d : String) : Prop where
  ne_empty : d ≠ ""
  size_le : d.utf8ByteSize ≤ 253
  form : d.utf8ByteSize = 1 ∨ HasHostForm d.toList

/-- The error says that there is a domain, but that it is not acceptable, and names it. -/
inductive Faults (d : String) : RequestError → Prop where
  | tooLong (hsize : 253 < d.utf8ByteSize) : Faults d (.domainTooLong d)
  | noHostName (hsize : d.utf8ByteSize ≤ 253) : Faults d (.invalidDomain d)

variable {s d : String} {cs : List Char} {c : Char}

lemma isHostChar_of_isHostEnd (h : isHostEnd c = true) : isHostChar c = true := by
  rw [isHostChar, h]
  rfl

lemma HasHostForm.isHostChar (h : HasHostForm cs) : ∀ c ∈ cs, isHostChar c = true := by
  obtain ⟨first, middle, last, rfl, hfirst, hlast, hmiddle⟩ := h
  intro c hc
  rcases List.mem_append.1 hc with hc | hc
  · rcases List.mem_cons.1 hc with rfl | hc
    · exact isHostChar_of_isHostEnd hfirst
    · exact hmiddle c hc
  · rw [List.mem_singleton.1 hc]
    exact isHostChar_of_isHostEnd hlast

lemma isHostName_iff : isHostName cs = true ↔ HasHostForm cs := by
  constructor
  · intro h
    rw [isHostName.eq_def] at h
    split at h
    next first second rest last hlast =>
      simp only [Bool.and_eq_true, List.all_eq_true] at h
      obtain ⟨⟨hfirst, hend⟩, hall⟩ := h
      have hdrop : (second :: rest).dropLast ++ [last] = second :: rest :=
        List.dropLast_append_getLast? last hlast
      refine ⟨first, (second :: rest).dropLast, last, ?_, hfirst, hend, fun c hc => ?_⟩
      · rw [List.cons_append, hdrop]
      · exact hall c (List.mem_cons_of_mem first (List.mem_of_mem_dropLast hc))
    next => cases h
  · intro h
    have hall := h.isHostChar
    obtain ⟨first, middle, last, rfl, hfirst, hlast, -⟩ := h
    have hend : (first :: middle ++ [last]).getLast? = some last := List.getLast?_concat
    -- there is a second character, because the last one is not the first
    obtain ⟨second, rest, htail⟩ := List.exists_cons_of_ne_nil
      (List.append_ne_nil_of_right_ne_nil middle (List.cons_ne_nil last []))
    rw [List.cons_append, htail] at hall hend ⊢
    simp only [isHostName, hend, hfirst, hlast, Bool.true_and, List.all_eq_true]
    exact hall

/-! ### Characters of an acceptable domain -/

lemma toNat_lt_of_isHostChar (h : isHostChar c = true) : c.toNat < 0x80 := by
  simp only [isHostChar, isHostEnd, Bool.or_eq_true, Bool.and_eq_true, decide_eq_true_eq,
    beq_iff_eq] at h
  rcases h with ((⟨-, h⟩ | ⟨-, h⟩) | rfl) | rfl
  · exact Nat.lt_of_le_of_lt (show c.toNat ≤ 'z'.toNat from h) (by decide)
  · exact Nat.lt_of_le_of_lt (show c.toNat ≤ '9'.toNat from h) (by decide)
  · decide
  · decide

/-- A character takes at least one byte, and those that are not ASCII take more. -/
lemma toNat_lt_of_utf8ByteSize_le (h : s.utf8ByteSize ≤ 1) (hc : c ∈ s.toList) :
    c.toNat < 0x80 := by
  have hsub : (String.utf8EncodeChar c).Sublist (Text.Utf8.encode s) :=
    List.sublist_flatten_of_mem (List.mem_map_of_mem hc)
  have hsize : c.utf8Size ≤ 1 := by
    rw [← String.length_utf8EncodeChar]
    exact (hsub.length_le.trans_eq (Text.Utf8.length_encode s)).trans h
  have hone : c.utf8Size = 1 := Nat.le_antisymm hsize c.utf8Size_pos
  exact Nat.lt_succ_of_le (Char.utf8Size_eq_one_iff.1 hone)

/-- An acceptable domain is ASCII. -/
lemma IsAcceptable.toNat_lt (h : IsAcceptable d) (hc : c ∈ d.toList) : c.toNat < 0x80 := by
  rcases h.form with hsize | hform
  · exact toNat_lt_of_utf8ByteSize_le hsize.le hc
  · exact toNat_lt_of_isHostChar (hform.isHostChar c hc)

/-! ### The check -/

lemma isAcceptable_iff : IsAcceptable d ↔ d ≠ "" ∧ ¬ d.utf8ByteSize > maxDomainLength ∧
    ¬ (d.utf8ByteSize > 1 && !isHostName d.toList) = true := by
  have hempty : d ≠ "" ↔ d.utf8ByteSize ≠ 0 := not_congr String.utf8ByteSize_eq_zero_iff.symm
  have hmax : maxDomainLength = 253 := rfl
  rw [Bool.and_eq_true, Bool.not_eq_true', ← Bool.not_eq_true, isHostName_iff, decide_eq_true_eq,
    hmax]
  constructor
  · rintro ⟨hne, hsize, hform⟩
    refine ⟨hne, Nat.not_lt.2 hsize, ?_⟩
    rintro ⟨hlong, hnot⟩
    rcases hform with hone | hform
    · omega
    · exact hnot hform
  · rintro ⟨hne, hsize, hform⟩
    refine ⟨hne, Nat.not_lt.1 hsize, ?_⟩
    by_cases hone : d.utf8ByteSize = 1
    · exact Or.inl hone
    · refine Or.inr (by_contra fun hnot => hform ⟨?_, hnot⟩)
      have := hempty.1 hne
      omega

/-- The check has one of three outcomes, and each of them says what the domain is like. -/
lemma checkDomain_cases (s : String) :
    Domain.normalize s = "" ∧ checkDomain (some s) = .error .missingDomain ∨
      Domain.normalize s ≠ "" ∧ ¬ IsAcceptable (Domain.normalize s) ∧
        (∃ e, Faults (Domain.normalize s) e ∧ checkDomain (some s) = .error e) ∨
      IsAcceptable (Domain.normalize s) ∧ checkDomain (some s) = .ok (Domain.normalize s) := by
  rw [isAcceptable_iff]
  simp only [checkDomain, Option.map_some]
  generalize Domain.normalize s = d
  by_cases hempty : d = ""
  · exact Or.inl ⟨hempty, if_pos hempty⟩
  right
  rw [if_neg hempty]
  by_cases hlong : d.utf8ByteSize > maxDomainLength
  · rw [if_pos hlong]
    exact Or.inl ⟨hempty, fun h => h.2.1 hlong, _, .tooLong hlong, rfl⟩
  rw [if_neg hlong]
  by_cases hname : (d.utf8ByteSize > 1 && !isHostName d.toList) = true
  · rw [if_pos hname]
    exact Or.inl ⟨hempty, fun h => h.2.2 hname, _, .noHostName (Nat.not_lt.1 hlong), rfl⟩
  · rw [if_neg hname]
    exact Or.inr ⟨⟨hempty, hlong, hname⟩, rfl⟩

lemma checkDomain_eq_ok_iff {x : String} :
    checkDomain (some s) = .ok x ↔ x = Domain.normalize s ∧ IsAcceptable (Domain.normalize s) := by
  rcases checkDomain_cases s with ⟨hempty, heq⟩ | ⟨-, hnot, e, -, heq⟩ | ⟨hacceptable, heq⟩ <;>
    rw [heq]
  · exact iff_of_false nofun fun h => h.2.ne_empty hempty
  · exact iff_of_false nofun fun h => hnot h.2
  · rw [Except.ok.injEq, eq_comm, and_iff_left hacceptable]

lemma checkDomain_eq_missing_iff :
    checkDomain (some s) = .error .missingDomain ↔ Domain.normalize s = "" := by
  rcases checkDomain_cases s with ⟨hempty, heq⟩ | ⟨hne, -, e, hfaults, heq⟩ | ⟨h, heq⟩ <;> rw [heq]
  · exact iff_of_true rfl hempty
  · refine iff_of_false (fun hmissing => ?_) hne
    obtain rfl := Except.error.inj hmissing
    cases hfaults
  · exact iff_of_false nofun h.ne_empty

lemma exists_faults_iff :
    (∃ e, Faults (Domain.normalize s) e ∧ checkDomain (some s) = .error e) ↔
      Domain.normalize s ≠ "" ∧ ¬ IsAcceptable (Domain.normalize s) := by
  rcases checkDomain_cases s with ⟨hempty, heq⟩ | ⟨hne, hnot, hfaults⟩ | ⟨h, heq⟩
  · refine iff_of_false ?_ fun h => h.1 hempty
    rintro ⟨e, hfaults, herror⟩
    rw [heq] at herror
    obtain rfl := Except.error.inj herror
    cases hfaults
  · exact iff_of_true hfaults ⟨hne, hnot⟩
  · refine iff_of_false ?_ fun hnot => hnot.2 h
    rintro ⟨e, -, herror⟩
    rw [heq] at herror
    cases herror

/-- A request that passes is about the domain that was checked. -/
lemma checkDomain_of_check {request : CheckRequest} {domain : String} {first : Option Backend}
    (h : request.check = .ok (domain, first)) : checkDomain request.domain = .ok domain := by
  rw [check] at h
  cases hdomain : checkDomain request.domain with
  | error e =>
      rw [hdomain] at h
      cases h
  | ok checked =>
      rw [hdomain] at h
      cases hresolver : checkResolver request.resolver with
      | error e =>
          rw [hresolver] at h
          cases h
      | ok backend =>
          rw [hresolver] at h
          obtain ⟨rfl, -⟩ := Prod.mk.inj (Except.ok.inj h)
          rfl

/-- The report that answers a request is about the domain that was checked, in its normal form. -/
lemma domain_of_service_check {service : Service} {task : Nat} {request : CheckRequest}
    {state : Service.State} {report : Report}
    (h : (service.check task request state).1.2.result = some report) :
    ∃ x, checkDomain request.domain = .ok x ∧ report.finding.domain = Domain.normalize x := by
  rw [Service.check] at h
  cases hcheck : request.check with
  | error e =>
      rw [hcheck] at h
      cases h
  | ok p =>
      obtain ⟨x, first⟩ := p
      rw [hcheck] at h
      refine ⟨x, checkDomain_of_check hcheck, ?_⟩
      cases houtcome : (service.run task x first).outcome with
      | error e =>
          simp only [houtcome] at h
          cases h
      | ok r =>
          simp only [houtcome] at h
          obtain rfl : r = report := Option.some.inj h
          obtain ⟨events, hrun⟩ := Service.exists_run_of_outcome houtcome
          exact Lookup.domain_of_run_validate hrun

/-- The outcomes of checking a domain that a request spells in any way.

It is accepted in its normal form if that is acceptable, it is missing if that is empty, and it is
at fault otherwise.  A domain that was accepted is ASCII, passes once more as it is, and is in its
normal form already.  So each run of the engine on it asks for this domain first and reports on it,
and so does the service when it answers such a request with a report. -/
theorem checkDomain_outcomes (s : String) :
    (∀ x, checkDomain (some s) = .ok x ↔
      x = Domain.normalize s ∧ IsAcceptable (Domain.normalize s)) ∧
    (checkDomain (some s) = .error .missingDomain ↔ Domain.normalize s = "") ∧
    ((∃ e, Faults (Domain.normalize s) e ∧ checkDomain (some s) = .error e) ↔
      Domain.normalize s ≠ "" ∧ ¬ IsAcceptable (Domain.normalize s)) ∧
    ∀ x, checkDomain (some s) = .ok x →
      (∀ c ∈ x.toList, c.toNat < 0x80) ∧ checkDomain (some x) = .ok x ∧ Domain.normalize x = x ∧
      (∀ events report, Run (validate x) events report →
        events.head?.map Prod.fst = some x ∧ report.finding.domain = x) ∧
      ∀ (service : Service) task request state report, request.domain = some s →
        (service.check task request state).1.2.result = some report → report.finding.domain = x := by
  refine ⟨fun x => checkDomain_eq_ok_iff, checkDomain_eq_missing_iff, exists_faults_iff, ?_⟩
  intro x hok
  obtain ⟨hx, hacceptable⟩ := checkDomain_eq_ok_iff.1 hok
  have hnormal : Domain.normalize x = x := by rw [hx, Domain.normalize_normalize]
  rw [← hx] at hacceptable
  refine ⟨fun c => hacceptable.toNat_lt, ?_, hnormal, ?_, ?_⟩
  · rw [checkDomain_eq_ok_iff, hnormal]
    exact ⟨rfl, hacceptable⟩
  · intro events report hrun
    obtain ⟨-, -, hfirst⟩ := Lookup.questions_of_run_validate hrun
    rw [List.head?_map, hnormal] at hfirst
    exact ⟨hfirst, (Lookup.domain_of_run_validate hrun).trans hnormal⟩
  · intro service task request state report hdomain hreport
    obtain ⟨y, hy, hroot⟩ := domain_of_service_check hreport
    rw [hdomain, hok] at hy
    obtain rfl := Except.ok.inj hy
    exact hroot.trans hnormal

/-- A request in which the sign for kelvins stands in place of a letter. -/
theorem checkDomain_outcomes_kelvin :
    checkDomain (some " \u212Aelvin.Example\t") = .ok "kelvin.example" ∧
      checkDomain (some "kelvin.example") = .ok "kelvin.example" ∧
      ∀ events report, Run (validate "kelvin.example") events report →
        events.head?.map Prod.fst = some "kelvin.example" ∧
          report.finding.domain = "kelvin.example" := by
  have hok : checkDomain (some " \u212Aelvin.Example\t") = .ok "kelvin.example" := by
    decide +kernel
  obtain ⟨-, -, -, haccepted⟩ := checkDomain_outcomes " \u212Aelvin.Example\t"
  obtain ⟨-, hagain, -, hrun, -⟩ := haccepted _ hok
  exact ⟨hok, hagain, hrun⟩

end CheckRequest

end SenderPolicy
