/-
A lookup comes to an end, and its report is bounded.

The records that a lookup reads come from outside and may name new domains for ever, so there is no
list of domains that it works off.  What it works off is the budget: a reference is followed only
with fewer lookups remaining than before (`Context.remaining_charge_mark_lt`).  Hence the recursion
of a lookup, written down without any bound, has one solution only (`Lookup.eq_lookup_of_rec`), and
whatever the questions are answered, a run has no more of them than lookups remained at the start,
and one for the domain itself.

Every question below the root belongs to one reference of the report, in the same order.  So the
number of references that were followed is bounded by the budget, in all of the report and the more
so in each chain of references below one another (`Lookup.Nested`).
-/
import SenderPolicy.Proofs.Lookup.Itinerary

namespace SenderPolicy

namespace Lookup

open Inquiry (Run Answered)

/-- The references among some whose domain was fetched. -/
def fetchedAmong (refs : List (Term × Report)) : List (Term × Report) :=
  refs.filter fun p => fate p.1 p.2 = .fetched

/-- `Nested report chain`: references of a report, each but the first in the report on the one
before it. -/
inductive Nested : Report → List (Term × Report) → Prop where
  | nil (report : Report) : Nested report []
  | cons {report inner : Report} {t : Term} {chain : List (Term × Report)}
      (here : .expanded t inner ∈ report.entries) (below : Nested inner chain) :
      Nested report ((t, inner) :: chain)

variable {visit : Visit} {ctx ctx' : Context} {steps : List Step} {domain : String}
  {report : Report} {events : List (String × TxtAnswer)} {chain : List (Term × Report)}

/-! ### The recursion of a lookup -/

lemma lookup_grows : Visit.Grows lookup := by
  intro domain ctx events report ctx' h
  obtain ⟨steps, hfetch, -⟩ := run_lookup_iff_exists_fetch.1 h
  rw [← hfetch.after_steps]
  exact extends_after ctx steps

/-- Whatever satisfies the recursion of a lookup is the lookup: below a reference the recursion goes
on with fewer lookups remaining. -/
lemma eq_lookup_of_rec (h : ∀ domain ctx,
    visit domain ctx = .ask domain fun answer => examine visit domain answer ctx) :
    visit = lookup := by
  have hbelow : ∀ n domain ctx, Context.remaining ctx = n →
      lookup domain ctx = visit domain ctx := by
    intro n
    induction n using Nat.strongRecOn with
    | ind n ih =>
        rintro domain ctx rfl
        rw [lookup_eq, h]
        congr 1
        funext answer
        exact examine_congr lookup_grows (fun target ctx' hlt => ih _ hlt target ctx' rfl) domain
          answer
  funext domain ctx
  exact (hbelow _ domain ctx rfl).symm

/-! ### The references that were followed -/

section Followed

variable {t : Term} {message : String} {count : UInt32} {answer : TxtAnswer}
  (children entries : List Entry)

lemma fetchedAmong_failed (h : fate t (.failed domain count message) ≠ .fetched) :
    fetchedAmong (referencesOfEntries (.expanded t (.failed domain count message) :: entries)) =
      fetchedAmong (referencesOfEntries entries) := by
  rw [referencesOfEntries_failed]
  exact List.filter_cons_of_neg (by simpa using h)

lemma fetchedAmong_fetched :
    fetchedAmong (referencesOfEntries
        (.expanded t (.node (findingFor domain answer count) children) :: entries)) =
      (t, .node (findingFor domain answer count) children) ::
        (fetchedAmong (referencesOfEntries children) ++
          fetchedAmong (referencesOfEntries entries)) := by
  rw [referencesOfEntries_node, fetchedAmong, List.filter_cons_of_pos (by simp), List.filter_append]
  rfl

end Followed

/-- What is asked for are the domains of the references that are followed. -/
lemma Traversal.asked_eq {ts : List Term} {entries : List Entry}
    (h : Traversal ts ctx steps entries ctx') :
    asked steps = (fetchedAmong (referencesOfEntries entries)).map fun p => target p.1 := by
  induction h with
  | nil ctx => rfl
  | free _ _ _ ih => exact ih
  | charged _ _ _ ih => exact ih
  | missing _ _ _ ih => rw [ih, fetchedAmong_failed _ (by simp)]
  | circular _ _ _ _ ih => rw [ih, fetchedAmong_failed _ (by simp)]
  | overLimit _ _ _ _ _ ih => rw [asked_charge, ih, fetchedAmong_failed _ (by simp)]
  | followed _ _ _ _ _ _ ihterms ih =>
      rw [asked_charge, asked_mark, asked_ask, asked_append, ihterms, ih, fetchedAmong_fetched,
        List.map_cons, List.map_append]

/-- Nothing stands below a reference that is not followed. -/
lemma Traversal.entries_of_not_fetched {ts : List Term} {entries : List Entry}
    (h : Traversal ts ctx steps entries ctx') :
    ∀ p ∈ referencesOfEntries entries, fate p.1 p.2 ≠ .fetched → p.2.entries = [] := by
  induction h with
  | nil ctx => exact List.forall_mem_nil _
  | free _ _ _ ih => exact ih
  | charged _ _ _ ih => exact ih
  | missing _ _ _ ih => exact List.forall_mem_cons.2 ⟨fun _ => rfl, ih⟩
  | circular _ _ _ _ ih => exact List.forall_mem_cons.2 ⟨fun _ => rfl, ih⟩
  | overLimit _ _ _ _ _ ih => exact List.forall_mem_cons.2 ⟨fun _ => rfl, ih⟩
  | followed _ _ _ _ _ _ ihterms ih =>
      rw [referencesOfEntries_node]
      refine List.forall_mem_cons.2 ⟨fun hfate => ?_, List.forall_mem_append.2 ⟨ihterms, ih⟩⟩
      exact absurd (fate_fetched _ _ _ _ _) hfate

/-! ### Chains of references -/

lemma sublist_referencesOfEntries {entry : Entry} {entries : List Entry} (h : entry ∈ entries) :
    (referencesOfEntry entry).Sublist (referencesOfEntries entries) := by
  induction entries with
  | nil => cases h
  | cons first entries ih =>
      rw [referencesOfEntries]
      rcases List.mem_cons.1 h with rfl | h
      · exact List.sublist_append_left _ _
      · exact (ih h).trans (List.sublist_append_right _ _)

/-- One comes upon the references of a chain one after the other. -/
lemma Nested.sublist (h : Nested report chain) : chain.Sublist (references report) := by
  induction h with
  | nil report => exact List.nil_sublist _
  | @cons report inner t chain here _ ih =>
      rw [references_eq_referencesOfEntries report]
      refine List.Sublist.trans ?_ (sublist_referencesOfEntries here)
      exact ih.cons_cons (t, inner)

/-- A lookup comes to an end in every context, and its report is bounded by the budget.

The recursion of a lookup has one solution.  Whatever the questions are answered, also if every
answer names domains that were never seen before, there is a run that gives these answers.  In every
run one domain is fetched for the root of the report and one for each reference that was followed,
in their order; and for every reference that was followed one of the lookups that remained at the
start no longer remains at the end.  So 11 nodes at most are those of fetched domains, no more than
10 of them stand below one another and the root, and below all other nodes stands nothing. -/
theorem lookup_terminates (domain : String) (ctx : Context) :
    (∀ visit : Visit, (∀ domain ctx,
        visit domain ctx = .ask domain fun answer => examine visit domain answer ctx) ↔
      visit = lookup) ∧
    (∀ (σ : Type) (resolve : String → σ → TxtAnswer × σ) (s : σ), ∃ events,
      Run (lookup domain ctx) events ((lookup domain ctx).runState resolve s).1 ∧
      Answered resolve s events ((lookup domain ctx).runState resolve s).2) ∧
    ∀ events report ctx', Run (lookup domain ctx) events (report, ctx') →
      events.map Prod.fst = domain :: (fetchedAmong (references report)).map (fun p => target p.1) ∧
      (fetchedAmong (references report)).length + ctx'.remaining ≤ ctx.remaining ∧
      (fetchedAmong (references report)).length + 1 ≤ 11 ∧
      (∀ chain, Nested report chain → (fetchedAmong chain).length ≤ 10) ∧
      ∀ p ∈ references report, fate p.1 p.2 ≠ .fetched → p.2.entries = [] := by
  refine ⟨fun visit => ⟨eq_lookup_of_rec, ?_⟩, fun σ resolve s =>
    Inquiry.exists_run_of_state resolve (lookup domain ctx) s, fun events report ctx' hrun => ?_⟩
  · rintro rfl
    exact lookup_eq
  obtain ⟨steps, hfetch, rfl⟩ := run_lookup_iff_exists_fetch.1 hrun
  cases hfetch with
  | @intro answer steps entries _ terms =>
      have hasked := terms.asked_eq
      have hpaid := terms.paid.length_asked_add_remaining_le
      rw [terms.after_steps, hasked, List.length_map] at hpaid
      have hremaining : ctx.remaining ≤ 10 := Nat.sub_le _ _
      refine ⟨?_, hpaid, ?_, fun chain hchain => ?_, terms.entries_of_not_fetched⟩
      · rw [questions_ask, List.map_cons, ← asked, hasked]
        rfl
      · rw [references]
        omega
      · have hle := (hchain.sublist.filter fun p => fate p.1 p.2 = .fetched).length_le
        rw [← fetchedAmong, ← fetchedAmong, references] at hle
        omega

/-- Every domain has a policy that names two domains which no other policy names. -/
def fresh (domain : String) : TxtAnswer :=
  .ok ["v=spf1 include:" ++ domain ++ "a redirect=" ++ domain ++ "b"]

/-- With ever new domains a lookup goes as far as the budget allows, also when no domain is named
twice. -/
theorem lookup_terminates_fresh :
    (lookup "x" .empty).queries fresh = "x" ::
        (fetchedAmong (references ((lookup "x" .empty).run fresh).1)).map (fun p => target p.1) ∧
      (fetchedAmong (references ((lookup "x" .empty).run fresh).1)).length + 1 = 11 ∧
      ((references ((lookup "x" .empty).run fresh).1).map fun p => target p.1).Nodup := by
  obtain ⟨-, -, hrun⟩ := lookup_terminates "x" .empty
  obtain ⟨hqueries, -⟩ := hrun _ _ _ (Inquiry.run_of_fixed fresh (lookup "x" .empty))
  rw [List.map_map] at hqueries
  refine ⟨(List.map_id _).symm.trans hqueries, ?_⟩
  decide +kernel

end Lookup

end SenderPolicy
