/-
Traversals: what a validation does, step by step.

A run of an inquiry shows the questions and their answers only.  A traversal shows all that a
validation does to its context as well: it charges lookups, notes domains as visited, and asks for
records.  `Traversal ts ctx steps entries ctx'` says that going through the terms `ts` from the
context `ctx` does the `steps`, yields the `entries` and ends in the context `ctx'`; it has one rule
for each thing that can happen to a term.  `Fetch` says the same of a domain, whose records are
asked for first.

The traversals are exactly the runs of `lookup`, with the same questions, entries and final
context (`Lookup.run_lookup_iff_exists_fetch`), and the final context is the one to which the
steps lead (`Lookup.Traversal.after_steps`).
-/
import SenderPolicy.Proofs.Lookup.Depth

namespace SenderPolicy

namespace Lookup

open Inquiry (Run run_done_iff run_ask_iff run_bind_iff)

/-- One thing that a validation does. -/
inductive Step where
  /-- Charges a lookup. -/
  | charge
  /-- Notes a domain as visited. -/
  | mark (domain : String)
  /-- Asks for the TXT records of a domain. -/
  | ask (domain : String) (answer : TxtAnswer)

/-- The context after a step. -/
def Step.apply (ctx : Context) : Step → Context
  | charge => ctx.charge
  | mark domain => ctx.mark domain
  | ask _ _ => ctx

/-- The question of a step, with its answer. -/
def Step.question? : Step → Option (String × TxtAnswer)
  | charge => none
  | mark _ => none
  | ask domain answer => some (domain, answer)

/-- The context after some steps. -/
def after (ctx : Context) (steps : List Step) : Context := steps.foldl Step.apply ctx

/-- The questions that are asked in some steps, with their answers. -/
def questions (steps : List Step) : List (String × TxtAnswer) := steps.filterMap Step.question?

/-- The domains that are asked for in some steps. -/
def asked (steps : List Step) : List String := (questions steps).map Prod.fst

/-- All questions in some steps have the answers that are fixed for their names. -/
def AnsweredBy (resolve : String → TxtAnswer) (steps : List Step) : Prop :=
  ∀ p ∈ questions steps, p.2 = resolve p.1

/-! ### Steps one after the other -/

section Steps

variable {ctx : Context} {steps : List Step} {domain : String} {answer : TxtAnswer}

@[simp] lemma after_nil : after ctx [] = ctx := rfl

@[simp] lemma after_charge : after ctx (.charge :: steps) = after ctx.charge steps := rfl

@[simp] lemma after_mark : after ctx (.mark domain :: steps) = after (ctx.mark domain) steps := rfl

@[simp] lemma after_ask : after ctx (.ask domain answer :: steps) = after ctx steps := rfl

@[simp] lemma after_append (ctx : Context) (steps steps' : List Step) :
    after ctx (steps ++ steps') = after (after ctx steps) steps' :=
  List.foldl_append

@[simp] lemma questions_nil : questions [] = [] := rfl

@[simp] lemma questions_charge : questions (.charge :: steps) = questions steps := rfl

@[simp] lemma questions_mark : questions (.mark domain :: steps) = questions steps := rfl

@[simp] lemma questions_ask :
    questions (.ask domain answer :: steps) = (domain, answer) :: questions steps := rfl

@[simp] lemma questions_append (steps steps' : List Step) :
    questions (steps ++ steps') = questions steps ++ questions steps' :=
  List.filterMap_append

@[simp] lemma asked_nil : asked [] = [] := rfl

@[simp] lemma asked_charge : asked (.charge :: steps) = asked steps := rfl

@[simp] lemma asked_mark : asked (.mark domain :: steps) = asked steps := rfl

@[simp] lemma asked_ask : asked (.ask domain answer :: steps) = domain :: asked steps := rfl

@[simp] lemma asked_append (steps steps' : List Step) :
    asked (steps ++ steps') = asked steps ++ asked steps' := by
  simp [asked]

lemma answeredBy_ask_iff {resolve : String → TxtAnswer} :
    AnsweredBy resolve (.ask domain answer :: steps) ↔
      answer = resolve domain ∧ AnsweredBy resolve steps := by
  simp [AnsweredBy]

lemma answeredBy_append_iff {resolve : String → TxtAnswer} {steps' : List Step} :
    AnsweredBy resolve (steps ++ steps') ↔
      AnsweredBy resolve steps ∧ AnsweredBy resolve steps' := by
  rw [AnsweredBy, questions_append, List.forall_mem_append]
  rfl

lemma extends_apply (ctx : Context) (step : Step) : ctx.Extends (step.apply ctx) := by
  cases step with
  | charge => exact .charge ctx
  | mark domain => exact .mark ctx domain
  | ask domain answer => exact .refl ctx

lemma extends_after (ctx : Context) (steps : List Step) : ctx.Extends (after ctx steps) := by
  induction steps generalizing ctx with
  | nil => exact .refl ctx
  | cons step steps ih => exact (extends_apply ctx step).trans (ih (step.apply ctx))

end Steps

/-! ### Traversals -/

/-- Going through some terms from a context: the steps, the entries, and the context at the end. -/
inductive Traversal : List Term → Context → List Step → List Entry → Context → Prop where
  /-- There are no more terms. -/
  | nil (ctx : Context) : Traversal [] ctx [] [] ctx
  /-- A term that neither refers to a domain nor takes a lookup. -/
  | free {t : Term} {ts : List Term} {ctx ctx' : Context} {steps : List Step}
      {entries : List Entry} (href : t.kind.isReference = false)
      (hcost : t.kind.takesLookup = false) (rest : Traversal ts ctx steps entries ctx') :
      Traversal (t :: ts) ctx steps (.plain t :: entries) ctx'
  /-- A term that refers to no domain but takes a lookup. -/
  | charged {t : Term} {ts : List Term} {ctx ctx' : Context} {steps : List Step}
      {entries : List Entry} (href : t.kind.isReference = false)
      (hcost : t.kind.takesLookup = true) (rest : Traversal ts ctx.charge steps entries ctx') :
      Traversal (t :: ts) ctx (.charge :: steps) (.plain t :: entries) ctx'
  /-- A reference that names no domain. -/
  | missing {t : Term} {ts : List Term} {ctx ctx' : Context} {steps : List Step}
      {entries : List Entry} (href : t.kind.isReference = true) (hempty : target t = "")
      (rest : Traversal ts ctx steps entries ctx') :
      Traversal (t :: ts) ctx steps
        (.expanded t (.failed (target t) ctx.lookupCount (noTarget t.kind)) :: entries) ctx'
  /-- A reference to a visited domain. -/
  | circular {t : Term} {ts : List Term} {ctx ctx' : Context} {steps : List Step}
      {entries : List Entry} (href : t.kind.isReference = true) (hne : target t ≠ "")
      (hmem : target t ∈ ctx.visited) (rest : Traversal ts ctx steps entries ctx') :
      Traversal (t :: ts) ctx steps
        (.expanded t (.failed (target t) ctx.lookupCount (circular (target t))) :: entries) ctx'
  /-- A reference that the budget does not allow to follow. -/
  | overLimit {t : Term} {ts : List Term} {ctx ctx' : Context} {steps : List Step}
      {entries : List Entry} (href : t.kind.isReference = true) (hne : target t ≠ "")
      (hmem : target t ∉ ctx.visited) (hlimit : ctx.charge.isWithinLimit = false)
      (rest : Traversal ts ctx.charge steps entries ctx') :
      Traversal (t :: ts) ctx (.charge :: steps)
        (.expanded t (.failed (target t) ctx.charge.lookupCount (overLimit (target t))) :: entries)
        ctx'
  /-- A reference that is followed. -/
  | followed {t : Term} {ts : List Term} {ctx ctx₁ ctx' : Context} {answer : TxtAnswer}
      {inner steps : List Step} {children entries : List Entry}
      (href : t.kind.isReference = true) (hne : target t ≠ "") (hmem : target t ∉ ctx.visited)
      (hlimit : ctx.charge.isWithinLimit = true)
      (terms : Traversal (termsOf answer) (ctx.charge.mark (target t)) inner children ctx₁)
      (rest : Traversal ts ctx₁ steps entries ctx') :
      Traversal (t :: ts) ctx
        (.charge :: .mark (target t) :: .ask (target t) answer :: (inner ++ steps))
        (.expanded t (.node (findingFor (target t) answer ctx₁.lookupCount) children) :: entries)
        ctx'

/-- Looking a domain up from a context: its records are asked for, and the terms of its policy are
gone through. -/
inductive Fetch (domain : String) (ctx : Context) : List Step → Report → Context → Prop where
  | intro {answer : TxtAnswer} {steps : List Step} {entries : List Entry} {ctx' : Context}
      (terms : Traversal (termsOf answer) ctx steps entries ctx') :
      Fetch domain ctx (.ask domain answer :: steps)
        (.node (findingFor domain answer ctx'.lookupCount) entries) ctx'

variable {ts : List Term} {ctx ctx' : Context} {steps : List Step} {entries : List Entry}
  {domain : String} {report : Report} {events : List (String × TxtAnswer)}

/-- A traversal ends in the context to which its steps lead. -/
lemma Traversal.after_steps (h : Traversal ts ctx steps entries ctx') : after ctx steps = ctx' := by
  induction h with
  | nil => rfl
  | free _ _ _ ih => exact ih
  | charged _ _ _ ih => exact ih
  | missing _ _ _ ih => exact ih
  | circular _ _ _ _ ih => exact ih
  | overLimit _ _ _ _ _ ih => exact ih
  | followed _ _ _ _ _ _ ihterms ih =>
      rw [after_charge, after_mark, after_ask, after_append, ihterms, ih]

lemma Traversal.extends_context (h : Traversal ts ctx steps entries ctx') : ctx.Extends ctx' := by
  rw [← h.after_steps]
  exact extends_after ctx steps

lemma Fetch.after_steps (h : Fetch domain ctx steps report ctx') : after ctx steps = ctx' := by
  cases h with
  | intro terms => exact terms.after_steps

/-! ### Traversals and runs -/

/-- A run of a lookup is a question followed by a run through the terms of the answer. -/
lemma run_lookup_iff :
    Run (lookup domain ctx) events (report, ctx') ↔
      ∃ answer rest entries, events = (domain, answer) :: rest ∧
        Run (walk lookup (termsOf answer) ctx) rest (entries, ctx') ∧
        report = .node (findingFor domain answer ctx'.lookupCount) entries := by
  rw [lookup_eq, run_ask_iff]
  constructor
  · rintro ⟨answer, rest, rfl, h⟩
    rw [examine_eq] at h
    obtain ⟨first, second, ⟨entries, ctx₁⟩, rfl, hwalk, hdone⟩ := run_bind_iff.1 h
    obtain ⟨rfl, heq⟩ := run_done_iff.1 hdone
    obtain ⟨rfl, rfl⟩ := Prod.mk.inj heq
    exact ⟨answer, first, entries, by simp, hwalk, rfl⟩
  · rintro ⟨answer, rest, entries, rfl, hwalk, rfl⟩
    refine ⟨answer, rest, rfl, ?_⟩
    rw [examine_eq]
    exact run_bind_iff.2 ⟨rest, [], (entries, ctx'), by simp, hwalk, Run.done _⟩

/-- Every run through some terms is a traversal.  A reference that is followed takes up the first
question of the run, so the induction is on the number of questions, and within it on the
terms. -/
lemma exists_traversal_of_run (h : Run (walk lookup ts ctx) events (entries, ctx')) :
    ∃ steps, Traversal ts ctx steps entries ctx' ∧ questions steps = events := by
  generalize hn : events.length = n
  have hle : events.length ≤ n := Nat.le_of_eq hn
  clear hn
  induction n using Nat.strongRecOn generalizing ts ctx events entries ctx' with
  | ind n ihn =>
      induction ts generalizing ctx events entries with
      | nil =>
          obtain ⟨rfl, heq⟩ := run_done_iff.1 h
          obtain ⟨rfl, rfl⟩ := Prod.mk.inj heq
          exact ⟨[], .nil _, rfl⟩
      | cons t ts ih =>
          cases href : t.kind.isReference with
          | false =>
              obtain ⟨rest, rfl, hwalk⟩ := run_walk_cons_of_not_isReference href h
              obtain ⟨steps, hsteps, rfl⟩ := ih hwalk hle
              cases hcost : t.kind.takesLookup with
              | false =>
                  rw [hcost] at hsteps
                  exact ⟨steps, .free href hcost hsteps, rfl⟩
              | true =>
                  rw [hcost] at hsteps
                  exact ⟨.charge :: steps, .charged href hcost hsteps, rfl⟩
          | true =>
              obtain ⟨first, second, report, ctx₁, rest, rfl, rfl, hfollow, hwalk⟩ :=
                run_walk_cons_of_isReference href h
              rw [List.length_append] at hle
              obtain ⟨steps, hsteps, rfl⟩ := ih hwalk (by omega)
              rcases run_follow_cases hfollow with ⟨hempty, rfl, rfl, rfl⟩ |
                ⟨hne, hmem, rfl, rfl, rfl⟩ | ⟨hne, hmem, hlimit, rfl, rfl, rfl⟩ |
                ⟨hne, hmem, hlimit, hvisit⟩
              · exact ⟨steps, .missing href hempty hsteps, rfl⟩
              · exact ⟨steps, .circular href hne hmem hsteps, rfl⟩
              · exact ⟨.charge :: steps, .overLimit href hne hmem hlimit hsteps, rfl⟩
              · -- the question on the target itself is not among those of its terms
                obtain ⟨answer, inside, children, rfl, hterms, rfl⟩ := run_lookup_iff.1 hvisit
                rw [List.length_cons] at hle
                obtain ⟨inner, hinner, rfl⟩ := ihn _ (by omega) hterms (Nat.le_refl _)
                exact ⟨_, .followed href hne hmem hlimit hinner hsteps, by simp⟩

/-- Every traversal is a run. -/
lemma Traversal.run (h : Traversal ts ctx steps entries ctx') :
    Run (walk lookup ts ctx) (questions steps) (entries, ctx') := by
  induction h with
  | nil ctx => exact Run.done _
  | free href hcost _ ih =>
      rw [walk_cons_of_not_isReference href, hcost]
      exact run_bind_iff.2 ⟨_, [], _, by simp, ih, Run.done _⟩
  | charged href hcost _ ih =>
      rw [walk_cons_of_not_isReference href, hcost]
      exact run_bind_iff.2 ⟨_, [], _, by simp, ih, Run.done _⟩
  | missing href hempty _ ih =>
      rw [walk_cons_of_isReference href, follow_of_eq_empty hempty, Inquiry.done_bind]
      exact run_bind_iff.2 ⟨_, [], _, by simp, ih, Run.done _⟩
  | circular href hne hmem _ ih =>
      rw [walk_cons_of_isReference href, follow_of_mem hne hmem, Inquiry.done_bind]
      exact run_bind_iff.2 ⟨_, [], _, by simp, ih, Run.done _⟩
  | overLimit href hne hmem hlimit _ ih =>
      rw [walk_cons_of_isReference href, follow_of_overLimit hne hmem hlimit, Inquiry.done_bind]
      exact run_bind_iff.2 ⟨_, [], _, by simp, ih, Run.done _⟩
  | followed href hne hmem hlimit _ _ ihterms ih =>
      rw [walk_cons_of_isReference href, follow_of_isWithinLimit hne hmem hlimit]
      refine run_bind_iff.2 ⟨_, _, _, ?_, run_lookup_iff.2 ⟨_, _, _, rfl, ihterms, rfl⟩,
        run_bind_iff.2 ⟨_, [], _, rfl, ih, Run.done _⟩⟩
      simp

/-- The runs of a lookup are the traversals of its domain, with the same questions. -/
theorem run_lookup_iff_exists_fetch :
    Run (lookup domain ctx) events (report, ctx') ↔
      ∃ steps, Fetch domain ctx steps report ctx' ∧ questions steps = events := by
  rw [run_lookup_iff]
  constructor
  · rintro ⟨answer, rest, entries, rfl, hwalk, rfl⟩
    obtain ⟨steps, hsteps, rfl⟩ := exists_traversal_of_run hwalk
    exact ⟨_, .intro hsteps, rfl⟩
  · rintro ⟨steps, hfetch, rfl⟩
    cases hfetch with
    | intro terms => exact ⟨_, _, _, rfl, terms.run, rfl⟩

/-! ### Validations -/

/-- The report of a validation, given that of the lookup of its domain and the final context. -/
def verdict (report : Report) (ctx : Context) : Report :=
  if ctx.isWithinLimit then report else report.addIssue (.error (tooMany ctx.count))

lemma verdict_of_le (h : ctx.count ≤ maxLookups) : verdict report ctx = report :=
  if_pos (Context.isWithinLimit_iff.2 h)

lemma verdict_of_lt (h : maxLookups < ctx.count) :
    verdict report ctx = report.addIssue (.error (tooMany ctx.count)) :=
  if_neg fun hlimit => Nat.not_le_of_lt h (Context.isWithinLimit_iff.1 hlimit)

@[simp] lemma lookupCount_verdict (report : Report) (ctx : Context) :
    (verdict report ctx).finding.lookupCount = report.finding.lookupCount := by
  unfold verdict
  split <;> rfl

@[simp] lemma domain_verdict (report : Report) (ctx : Context) :
    (verdict report ctx).finding.domain = report.finding.domain := by
  unfold verdict
  split <;> rfl

@[simp] lemma entries_verdict (report : Report) (ctx : Context) :
    (verdict report ctx).entries = report.entries := by
  unfold verdict
  split <;> rfl

lemma validate_eq (domain : String) :
    validate domain =
      lookup (Domain.normalize domain) (Context.empty.mark (Domain.normalize domain)) >>=
        fun p => .done (verdict p.1 p.2) := by
  dsimp only [validate]
  congr 1
  funext p
  unfold verdict
  split
  · rfl
  · rfl

/-- The runs of a validation are the traversals of its domain from a context in which only this
domain is visited. -/
lemma run_validate_iff :
    Run (validate domain) events report ↔
      ∃ steps r ctx, Fetch (Domain.normalize domain)
          (Context.empty.mark (Domain.normalize domain)) steps r ctx ∧
        questions steps = events ∧ report = verdict r ctx := by
  rw [validate_eq, run_bind_iff]
  constructor
  · rintro ⟨first, second, ⟨r, ctx⟩, rfl, hlookup, hdone⟩
    obtain ⟨rfl, rfl⟩ := run_done_iff.1 hdone
    obtain ⟨steps, hfetch, rfl⟩ := run_lookup_iff_exists_fetch.1 hlookup
    exact ⟨steps, r, ctx, hfetch, by simp, rfl⟩
  · rintro ⟨steps, r, ctx, hfetch, rfl, rfl⟩
    exact ⟨questions steps, [], (r, ctx), by simp,
      run_lookup_iff_exists_fetch.2 ⟨steps, hfetch, rfl⟩, Run.done _⟩

/-- The root of a report is about the domain that was validated. -/
lemma domain_of_run_validate (h : Run (validate domain) events report) :
    report.finding.domain = Domain.normalize domain := by
  obtain ⟨steps, r, ctx, hfetch, -, rfl⟩ := run_validate_iff.1 h
  rw [domain_verdict]
  cases hfetch with
  | intro terms => rw [Report.finding_node, domain_findingFor]

/-- The traversal of a validation when every name has a fixed answer. -/
lemma exists_fetch_of_fixed (resolve : String → TxtAnswer) (domain : String) :
    ∃ steps r ctx, Fetch (Domain.normalize domain)
        (Context.empty.mark (Domain.normalize domain)) steps r ctx ∧
      AnsweredBy resolve steps ∧ asked steps = (validate domain).queries resolve ∧
      (validate domain).run resolve = verdict r ctx := by
  obtain ⟨steps, r, ctx, hfetch, hquestions, hverdict⟩ :=
    run_validate_iff.1 (Inquiry.run_of_fixed resolve (validate domain))
  refine ⟨steps, r, ctx, hfetch, ?_, ?_, hverdict⟩
  · intro p hp
    rw [hquestions] at hp
    obtain ⟨name, -, rfl⟩ := List.mem_map.1 hp
    rfl
  · rw [asked, hquestions, List.map_map]
    exact List.map_id _

end Lookup

end SenderPolicy
