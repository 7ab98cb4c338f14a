/-
What a validation takes from the answer for a domain.

Of an answer only two things matter: the terms to go through, which are those of the first policy
among the TXT strings, and the finding on the domain.  An answer that gives no policy has no
terms, so that both kinds of answers can be treated alike (`Lookup.examine_eq`).
-/
import Mathlib.Tactic.Lemma
import SenderPolicy.Lookup

namespace SenderPolicy

namespace Lookup

/-- The domain that a term refers to. -/
def target (t : Term) : String := Domain.normalize t.value

/-- The domains that the references among some terms name, in order. -/
def targets (ts : List Term) : List String :=
  (ts.filter fun t => t.kind.isReference).map target

/-- The policy that an answer gives: the first of its TXT strings that is one. -/
def policy? : TxtAnswer → Option String
  | .error _ => none
  | .ok txt => (policies txt).head?

/-- The terms that a validation goes through after an answer: those of the policy that it gives. -/
def termsOf (answer : TxtAnswer) : List Term :=
  match policy? answer with
  | none => []
  | some record => (Record.read record).terms

/-- The domains to which the policy of a domain refers, in order, when every name has a fixed
answer.  A reference that names no domain counts as one to the empty name. -/
def links (resolve : String → TxtAnswer) (domain : String) : List String :=
  targets (termsOf (resolve domain))

/-- The finding on a domain that an answer leads to, with the count at its end. -/
def findingFor (domain : String) (answer : TxtAnswer) (count : UInt32) : Finding :=
  match policyOfAnswer answer with
  | .error message => .failed domain count message
  | .ok (record, issues) => { findingOf domain record issues with lookupCount := count }

@[simp] lemma lookupCount_findingFor (domain : String) (answer : TxtAnswer) (count : UInt32) :
    (findingFor domain answer count).lookupCount = count := by
  unfold findingFor
  split <;> rfl

@[simp] lemma domain_findingFor (domain : String) (answer : TxtAnswer) (count : UInt32) :
    (findingFor domain answer count).domain = domain := by
  unfold findingFor
  split <;> rfl

@[simp] lemma targets_nil : targets [] = [] := rfl

lemma targets_cons_of_isReference {t : Term} (h : t.kind.isReference = true) (ts : List Term) :
    targets (t :: ts) = target t :: targets ts := by
  simp [targets, h]

lemma targets_cons_of_not_isReference {t : Term} (h : t.kind.isReference = false)
    (ts : List Term) : targets (t :: ts) = targets ts := by
  simp [targets, h]

/-- An answer gives no policy, or the first of its policies, and then an error if there are others. -/
lemma policyOfAnswer_cases (answer : TxtAnswer) :
    (∃ message, policyOfAnswer answer = .error message ∧
      ∀ txt, answer = .ok txt → policies txt = []) ∨
    ∃ txt record others, answer = .ok txt ∧ policies txt = record :: others ∧
      policyOfAnswer answer = .ok (record,
        if others = [] then [] else [.error (severalPolicies (others.length + 1))]) := by
  rcases answer with e | _ | ⟨s, rest⟩
  · exact Or.inl ⟨_, rfl, fun txt htxt => by cases htxt⟩
  · exact Or.inl ⟨_, rfl, fun txt htxt => by cases htxt; rfl⟩
  · cases h : policies (s :: rest) with
    | nil =>
        refine Or.inl ⟨noPolicy (s :: rest).length, by simp only [policyOfAnswer, h], ?_⟩
        intro txt htxt
        cases htxt
        exact h
    | cons record others =>
        refine Or.inr ⟨s :: rest, record, others, rfl, h, ?_⟩
        cases others with
        | nil => simp only [policyOfAnswer, h, if_true]
        | cons other others => simp only [policyOfAnswer, h, reduceCtorEq, if_false]

lemma termsOf_of_error {answer : TxtAnswer} {message : String}
    (h : policyOfAnswer answer = .error message) : termsOf answer = [] := by
  rcases policyOfAnswer_cases answer with ⟨_, -, hnone⟩ | ⟨txt, record, others, -, -, hok⟩
  · rcases answer with e | txt
    · rfl
    · simp [termsOf, policy?, hnone txt rfl]
  · rw [hok] at h
    cases h

lemma termsOf_of_ok {answer : TxtAnswer} {record : String} {issues : List Issue}
    (h : policyOfAnswer answer = .ok (record, issues)) :
    termsOf answer = (Record.read record).terms := by
  rcases policyOfAnswer_cases answer with ⟨_, herror, -⟩ | ⟨txt, _, others, rfl, hpolicies, hok⟩
  · rw [herror] at h
    cases h
  · rw [hok] at h
    cases h
    simp [termsOf, policy?, hpolicies]

lemma examine_eq (visit : Visit) (domain : String) (answer : TxtAnswer) (ctx : Context) :
    examine visit domain answer ctx = (do
      let (entries, ctx) ← walk visit (termsOf answer) ctx
      return (.node (findingFor domain answer ctx.lookupCount) entries, ctx)) := by
  unfold examine findingFor
  cases h : policyOfAnswer answer with
  | error message =>
      rw [termsOf_of_error h]
      rfl
  | ok p =>
      obtain ⟨record, issues⟩ := p
      rw [termsOf_of_ok h]

/-- Two domains whose policies refer to each other. -/
def ring (domain : String) : TxtAnswer :=
  if domain = "b" then .ok ["v=spf1 include:C -all"]
  else if domain = "c" then .ok ["some text", "v=spf1 a include:b ?all"]
  else .error .noBackends

end Lookup

end SenderPolicy
