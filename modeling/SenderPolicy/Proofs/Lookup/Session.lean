/-
Sessions: several calls on one context.

A context is made for one validation, but nothing keeps its owner from using it for more: to note
domains as visited and to look domains up, in any order and any number of times, while the answers
may change from one question to the next.  `perform` is such a session, and its traces are lists
of steps, one for each call.

The main statement is about all sessions from a context that is new.  At any time the count is at
most one above the limit, and neither the count nor the set of visited domains has gone down.
Every fetch but the one that a lookup starts with is for a domain that was not visited, is charged
for within the limit and noted.  So these fetches are for distinct domains, ten at most.  A
validation is a session of its own in which the first domain is noted before it is fetched.
-/
import SenderPolicy.Proofs.Lookup.Expansion

namespace SenderPolicy

namespace Lookup

open Inquiry (Run run_done_iff run_bind_iff)

/-- What the owner of a context can do with it. -/
inductive Call where
  /-- Notes a domain as visited. -/
  | mark (domain : String)
  /-- Looks a domain up. -/
  | lookup (domain : String)

/-- A call on a context.  Its report is of no further interest. -/
def Call.perform : Call → Context → Inquiry Context
  | mark domain, ctx => .done (ctx.mark domain)
  | lookup domain, ctx => do
    let (_, ctx) ← SenderPolicy.lookup domain ctx
    return ctx

/-- Calls one after the other on the same context. -/
def perform : List Call → Context → Inquiry Context
  | [], ctx => .done ctx
  | call :: calls, ctx => do
    let ctx ← call.perform ctx
    perform calls ctx

/-- The steps of the calls on a context, and the context at the end. -/
inductive Session : Context → List Call → List (List Step) → Context → Prop where
  | nil (ctx : Context) : Session ctx [] [] ctx
  | mark {ctx ctx' : Context} {domain : String} {calls : List Call} {traces : List (List Step)}
      (rest : Session (ctx.mark domain) calls traces ctx') :
      Session ctx (.mark domain :: calls) ([.mark domain] :: traces) ctx'
  | lookup {ctx ctx₁ ctx' : Context} {domain : String} {report : Report} {trace : List Step}
      {calls : List Call} {traces : List (List Step)} (fetch : Fetch domain ctx trace report ctx₁)
      (rest : Session ctx₁ calls traces ctx') :
      Session ctx (.lookup domain :: calls) (trace :: traces) ctx'

/-- The domains that are fetched in some traces, apart from the one that a trace starts with. -/
def expansions (traces : List (List Step)) : List String :=
  traces.flatMap fun trace => asked trace.tail

variable {ctx ctx' : Context} {calls : List Call} {traces : List (List Step)}
  {events : List (String × TxtAnswer)}

/-- The runs of a session are its traces, with the same questions. -/
lemma run_perform_iff :
    Run (perform calls ctx) events ctx' ↔
      ∃ traces, Session ctx calls traces ctx' ∧ questions traces.flatten = events := by
  induction calls generalizing ctx events with
  | nil =>
      rw [perform, run_done_iff]
      constructor
      · rintro ⟨rfl, rfl⟩
        exact ⟨[], .nil _, rfl⟩
      · rintro ⟨traces, h, rfl⟩
        cases h
        exact ⟨rfl, rfl⟩
  | cons call calls ih =>
      rw [perform, run_bind_iff]
      constructor
      · rintro ⟨first, second, ctx₁, rfl, hcall, hrest⟩
        obtain ⟨traces, htraces, rfl⟩ := ih.1 hrest
        cases call with
        | mark domain =>
            obtain ⟨rfl, rfl⟩ := run_done_iff.1 hcall
            exact ⟨_, .mark htraces, by simp⟩
        | lookup domain =>
            obtain ⟨_, _, ⟨report, ctx₂⟩, rfl, hlookup, hdone⟩ := run_bind_iff.1 hcall
            obtain ⟨rfl, rfl⟩ := run_done_iff.1 hdone
            obtain ⟨trace, hfetch, rfl⟩ := run_lookup_iff_exists_fetch.1 hlookup
            exact ⟨_, .lookup hfetch htraces, by simp⟩
      · rintro ⟨traces, h, rfl⟩
        cases h with
        | mark rest =>
            exact ⟨[], _, _, by simp, Run.done _, ih.2 ⟨_, rest, rfl⟩⟩
        | @lookup _ ctx₁ _ _ report trace _ traces fetch rest =>
            refine ⟨questions trace, questions traces.flatten, ctx₁, by simp, ?_,
              ih.2 ⟨_, rest, rfl⟩⟩
            exact run_bind_iff.2 ⟨_, [], (report, ctx₁), by simp,
              run_lookup_iff_exists_fetch.2 ⟨_, fetch, rfl⟩, Run.done _⟩

namespace Session

lemma after_flatten (h : Session ctx calls traces ctx') : after ctx traces.flatten = ctx' := by
  induction h with
  | nil ctx => rfl
  | mark _ ih => exact ih
  | lookup fetch _ ih => rw [List.flatten_cons, after_append, fetch.after_steps, ih]

/-- The trace of a call notes a domain, or it asks for one and goes on with paid steps. -/
lemma trace_cases (h : Session ctx calls traces ctx') {prior rest : List (List Step)}
    {trace : List Step} (heq : traces = prior ++ trace :: rest) :
    (∃ domain, trace = [.mark domain]) ∨
      ∃ domain answer steps, trace = .ask domain answer :: steps ∧
        Paid (after ctx prior.flatten) steps := by
  induction h generalizing prior with
  | nil ctx => simp at heq
  | @mark ctx _ domain _ _ _ ih =>
      rcases prior with _ | ⟨first, prior⟩
      · simp only [List.nil_append, List.cons.injEq] at heq
        exact Or.inl ⟨domain, heq.1.symm⟩
      · simp only [List.cons_append, List.cons.injEq] at heq
        obtain ⟨rfl, heq⟩ := heq
        exact ih heq
  | @lookup ctx ctx₁ _ domain _ _ _ _ fetch _ ih =>
      rcases prior with _ | ⟨first, prior⟩
      · simp only [List.nil_append, List.cons.injEq] at heq
        obtain ⟨rfl, -⟩ := heq
        cases fetch with
        | intro terms => exact Or.inr ⟨domain, _, _, rfl, terms.paid⟩
      · simp only [List.cons_append, List.cons.injEq] at heq
        obtain ⟨rfl, heq⟩ := heq
        rw [List.flatten_cons, after_append, fetch.after_steps]
        exact ih heq

/-- What stands before a fetch that is not the first step of its call. -/
lemma exists_of_ask (h : Session ctx calls traces ctx') {prior rest : List (List Step)}
    {trace before later : List Step} {domain : String} {answer : TxtAnswer}
    (htraces : traces = prior ++ trace :: rest)
    (htrace : trace = before ++ .ask domain answer :: later) (hbefore : before ≠ []) :
    ∃ earlier t, before = earlier ++ [.charge, .mark domain] ∧ domain = target t ∧ domain ≠ "" ∧
      domain ∉ (after ctx (prior.flatten ++ earlier)).visited ∧
      (after ctx (prior.flatten ++ earlier)).charge.isWithinLimit = true := by
  rcases before with _ | ⟨step, before⟩
  · exact absurd rfl hbefore
  rcases h.trace_cases htraces with ⟨d, rfl⟩ | ⟨d, a, steps, rfl, hpaid⟩
  · simp at htrace
  · simp only [List.cons_append, List.cons.injEq] at htrace
    obtain ⟨rfl, hsteps⟩ := htrace
    obtain ⟨earlier, t, rfl, hrest⟩ := hpaid.exists_of_ask hsteps
    refine ⟨.ask d a :: earlier, t, rfl, ?_⟩
    rw [after_append, after_ask]
    exact hrest

lemma expansions_not_mem_visited (h : Session ctx calls traces ctx') :
    ∀ x ∈ expansions traces, x ∉ ctx.visited := by
  induction h with
  | nil ctx => simp [expansions]
  | @mark ctx _ domain _ _ _ ih =>
      intro x hx hvisited
      exact ih x hx (Context.mem_visited_mark.2 (Or.inr hvisited))
  | @lookup ctx ctx₁ _ domain _ _ _ traces fetch _ ih =>
      intro x hx hvisited
      cases fetch with
      | @intro answer steps _ _ terms =>
          rw [expansions, List.flatMap_cons, List.tail_cons, List.mem_append] at hx
          rcases hx with hx | hx
          · exact terms.paid.not_mem_visited x hx hvisited
          · exact ih x hx (terms.extends_context.visited_subset hvisited)

lemma nodup_expansions (h : Session ctx calls traces ctx') : (expansions traces).Nodup := by
  induction h with
  | nil ctx => exact List.nodup_nil
  | mark _ ih => exact ih
  | @lookup ctx ctx₁ _ domain _ _ _ traces fetch rest ih =>
      cases fetch with
      | @intro answer steps _ _ terms =>
          rw [expansions, List.flatMap_cons, List.tail_cons, List.nodup_append]
          refine ⟨terms.paid.nodup_asked, ih, ?_⟩
          -- what a lookup fetches is visited in all later calls
          rintro x hx _ hy rfl
          refine rest.expansions_not_mem_visited x hy ?_
          rw [← terms.after_steps]
          exact terms.paid.mem_visited_after_iff.2 (Or.inr hx)

lemma length_expansions_add_remaining_le (h : Session ctx calls traces ctx') :
    (expansions traces).length + ctx'.remaining ≤ ctx.remaining := by
  induction h with
  | nil ctx => simp [expansions]
  | @mark ctx _ domain _ _ _ ih => exact Nat.le_trans ih (Context.Extends.mark _ _).remaining_le
  | @lookup ctx ctx₁ _ domain _ _ _ traces fetch _ ih =>
      cases fetch with
      | @intro answer steps _ _ terms =>
          have hsteps := terms.paid.length_asked_add_remaining_le
          rw [terms.after_steps] at hsteps
          rw [expansions] at ih
          rw [expansions, List.flatMap_cons, List.tail_cons, List.length_append]
          omega

end Session

/-- The questions of a validation are for distinct domains, the first one for its own. -/
lemma questions_of_run_validate {domain : String} {report : Report}
    (h : Run (validate domain) events report) :
    (events.map Prod.fst).Nodup ∧ events.length ≤ maxLookups + 1 ∧
      (events.map Prod.fst).head? = some (Domain.normalize domain) := by
  obtain ⟨steps, r, ctx, hfetch, rfl, -⟩ := run_validate_iff.1 h
  cases hfetch with
  | @intro answer steps entries _ terms =>
      have hlength := terms.paid.length_asked_add_remaining_le
      refine ⟨?_, ?_, rfl⟩
      · refine List.nodup_cons.2 ⟨fun hx => ?_, terms.paid.nodup_asked⟩
        -- the first domain is noted before anything is asked for
        exact terms.paid.not_mem_visited _ hx (Context.mem_visited_mark.2 (Or.inl rfl))
      · simp only [asked, List.length_map, Context.remaining, Context.count_mark, Context.empty]
          at hlength
        rw [questions_ask, List.length_cons]
        omega

/-- Fetches in a session from a new context, and in a validation.

The first parts are about a session, whose calls have `traces` that lead from the new context to
the last one.  At any time the count is at most one above the limit, and a later context extends an
earlier one.  A fetch that is not the first step of its trace comes right after a charge that stays
within the limit and after its domain is noted, which was not visited before that.  All these
fetches are for distinct domains, no more than the limit allows.  The last part is about the
questions of a validation. -/
theorem fetches_of_session_and_validation :
    (∀ calls events ctx, Run (perform calls .empty) events ctx →
      ∃ traces, Session .empty calls traces ctx ∧ questions traces.flatten = events ∧
        after .empty traces.flatten = ctx ∧
        (∀ earlier between later, traces.flatten = earlier ++ between ++ later →
          (after .empty earlier).count ≤ maxLookups + 1 ∧
          (after .empty earlier).Extends (after .empty (earlier ++ between))) ∧
        (∀ prior trace rest before domain answer later, traces = prior ++ trace :: rest →
          trace = before ++ .ask domain answer :: later → before ≠ [] →
          ∃ earlier value, before = earlier ++ [.charge, .mark domain] ∧
            domain = Domain.normalize value ∧ domain ≠ "" ∧
            let ctx₀ := after .empty (prior.flatten ++ earlier)
            domain ∉ ctx₀.visited ∧ domain ∈ (ctx₀.charge.mark domain).visited ∧
              ctx₀.charge.count = ctx₀.count + 1 ∧ ctx₀.charge.count ≤ maxLookups) ∧
        (expansions traces).Nodup ∧ (expansions traces).length ≤ maxLookups) ∧
    (∀ domain events report, Run (validate domain) events report →
      (events.map Prod.fst).Nodup ∧ events.length ≤ maxLookups + 1 ∧
        (events.map Prod.fst).head? = some (Domain.normalize domain)) := by
  refine ⟨?_, fun domain events report h => questions_of_run_validate h⟩
  intro calls events ctx h
  obtain ⟨traces, hsession, hevents⟩ := run_perform_iff.1 h
  refine ⟨traces, hsession, hevents, hsession.after_flatten, ?_, ?_, hsession.nodup_expansions, ?_⟩
  · intro earlier between later _
    refine ⟨count_after_le (Nat.zero_le _) earlier, ?_⟩
    rw [after_append]
    exact extends_after _ between
  · intro prior trace rest before domain answer later htraces htrace hbefore
    obtain ⟨earlier, t, heq, hname, hne, hmem, hlimit⟩ :=
      hsession.exists_of_ask htraces htrace hbefore
    refine ⟨earlier, t.value, heq, hname, hne, hmem, Context.mem_visited_mark.2 (Or.inl rfl), ?_⟩
    exact ⟨(Context.count_charge_of_isWithinLimit hlimit).1, Context.isWithinLimit_iff.1 hlimit⟩
  · have hlength := hsession.length_expansions_add_remaining_le
    simp only [Context.remaining, Context.empty] at hlength
    omega

/-- A session in which the second lookup finds the domains of the first one visited. -/
theorem fetches_of_ring :
    (∃ traces ctx, Session .empty [.lookup "b", .mark "x", .lookup "b"] traces ctx ∧
      (questions traces.flatten).map Prod.fst = ["b", "c", "b", "b"] ∧
      (expansions traces).Nodup) ∧
    ((validate "B").queries ring).length ≤ maxLookups + 1 := by
  obtain ⟨hsessions, hvalidations⟩ := fetches_of_session_and_validation
  constructor
  · obtain ⟨traces, hsession, hevents, -, -, -, hnodup, -⟩ := hsessions _ _ _
      (Inquiry.run_of_fixed ring (perform [.lookup "b", .mark "x", .lookup "b"] .empty))
    refine ⟨traces, _, hsession, ?_, hnodup⟩
    rw [hevents]
    decide +kernel
  · obtain ⟨-, hlength, -⟩ := hvalidations _ _ _ (Inquiry.run_of_fixed ring (validate "B"))
    rwa [List.length_map] at hlength

end Lookup

end SenderPolicy
