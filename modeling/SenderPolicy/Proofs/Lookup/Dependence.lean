/-
What a validation depends on.

A validation knows of the records of domains by asking only.  So where two ways of answering agree
on all that it asks for with the first one, it does the same steps with the second one
(`Lookup.SameValidation`): it charges and notes the same, it asks for the same domains in the same
order, and its report is the same.  The first run alone tells where the two have to agree.

Of some domains the report shows that they were not asked for (`Lookup.Spared`): those that were
refused because the budget was spent, and those that are named nowhere before such a refusal, since
nothing is asked for behind it.
-/
import SenderPolicy.Proofs.Lookup.Itinerary
import SenderPolicy.Proofs.Lookup.Refinement

namespace SenderPolicy

namespace Lookup

open Inquiry (run_of_fixed)

namespace Stop

/-- The domain that the reference at a stop names. -/
def named? (stop : Stop) : Option String := stop.reference?.map fun p => target p.1

/-- The domain that is refused at a stop because the budget is spent. -/
def overLimit? : Stop → Option String
  | charge => none
  | reference t report => if fate t report = .overLimit then some (target t) else none

end Stop

/-- The domains that are named at some stops, in order. -/
def namedAt (stops : List Stop) : List String := stops.filterMap Stop.named?

/-- The stops of the report on a domain show that a name was not asked for. -/
inductive Spared (domain : String) (stops : List Stop) (name : String) : Prop where
  /-- It was refused because the budget was spent. -/
  | refused {stop : Stop} (hstop : stop ∈ stops) (hrefused : stop.overLimit? = some name)
  /-- It is another domain than the first one, and is not named before a refusal. -/
  | behind {before later : List Stop} {stop : Stop} (hstops : stops = before ++ stop :: later)
      (hrefused : stop.overLimit? ≠ none) (hname : name ∉ namedAt before) (hne : name ≠ domain)

/-- The validations of a domain with two ways of answering do the same. -/
structure SameValidation (domain : String) (resolve resolve' : String → TxtAnswer) : Prop where
  /-- They ask for the same domains in the same order. -/
  queries_eq : (validate domain).queries resolve' = (validate domain).queries resolve
  /-- They have the same report. -/
  run_eq : (validate domain).run resolve' = (validate domain).run resolve
  /-- All that they do, charges and notes included, are the same steps. -/
  steps : ∃ steps r ctx, Fetch (Domain.normalize domain)
      (Context.empty.mark (Domain.normalize domain)) steps r ctx ∧
    AnsweredBy resolve steps ∧ AnsweredBy resolve' steps ∧
    asked steps = (validate domain).queries resolve ∧
    (validate domain).run resolve = verdict r ctx

variable {resolve resolve' : String → TxtAnswer} {domain : String} {ctx : Context} {stop : Stop}
  {stops before later : List Stop} {steps : List Step}

lemma answeredBy_congr (h : AnsweredBy resolve steps)
    (hagree : ∀ x ∈ asked steps, resolve' x = resolve x) : AnsweredBy resolve' steps := by
  intro p hp
  rw [h p hp, hagree p.1 (List.mem_map.2 ⟨p, hp, rfl⟩)]

/-- Answers that agree on what is asked for make no difference. -/
lemma sameValidation_of_agree
    (hagree : ∀ x ∈ (validate domain).queries resolve, resolve' x = resolve x) :
    SameValidation domain resolve resolve' := by
  obtain ⟨steps, r, ctx, hfetch, hfixed, hasked, hverdict⟩ := exists_fetch_of_fixed resolve domain
  have hfixed' : AnsweredBy resolve' steps := answeredBy_congr hfixed (by rwa [hasked])
  -- the steps are also those of a run with the other answers, and there is only one such run
  have hrun := run_validate_iff.2 ⟨steps, r, ctx, hfetch, rfl, rfl⟩
  obtain ⟨hqueries, hreport⟩ := hrun.eq_of_fixed hfixed'
  exact
    { queries_eq := hqueries.trans hasked
      run_eq := hreport.trans hverdict.symm
      steps := ⟨steps, r, ctx, hfetch, hfixed, hfixed', hasked, hverdict⟩ }

/-! ### Behind a refusal -/

/-- At a stop where a domain is refused, the domain is not visited and the limit is passed. -/
lemma Happens.of_overLimit {name : String} (h : Happens ctx stop steps)
    (hrefused : stop.overLimit? = some name) :
    name ∉ ctx.visited ∧ maxLookups < (after ctx steps).count := by
  cases h with
  | charge => cases hrefused
  | missing hempty => simp [Stop.overLimit?] at hrefused
  | circular hne hmem => simp [Stop.overLimit?] at hrefused
  | overLimit hne hmem hlimit =>
      obtain rfl : target _ = name := by simpa [Stop.overLimit?] using hrefused
      exact ⟨hmem, Context.maxLookups_lt_count_charge hlimit⟩
  | fetched hne hmem hlimit => simp [Stop.overLimit?] at hrefused

/-- A domain that is fetched at a stop is named there. -/
lemma Happens.named_of_fetched {name : String} (h : Happens ctx stop steps)
    (hfetched : stop.fetched? = some name) : stop.named? = some name := by
  cases h with
  | charge => cases hfetched
  | missing hempty => simp [Stop.fetched?] at hfetched
  | circular hne hmem => simp [Stop.fetched?] at hfetched
  | overLimit hne hmem hlimit => simp [Stop.fetched?] at hfetched
  | fetched hne hmem hlimit => simpa [Stop.fetched?, Stop.named?, Stop.reference?] using hfetched

lemma Replay.fetchedAt_subset (h : Replay ctx stops steps) : fetchedAt stops ⊆ namedAt stops := by
  induction h with
  | nil ctx => exact List.Subset.refl _
  | @cons ctx stop stops first steps here _ ih =>
      intro name hname
      rw [fetchedAt, List.mem_filterMap] at hname
      obtain ⟨stop', hmem, hfetched⟩ := hname
      rcases List.mem_cons.1 hmem with rfl | hmem
      · exact List.mem_filterMap.2 ⟨stop', hmem, here.named_of_fetched hfetched⟩
      · obtain ⟨stop'', hmem', hnamed⟩ :=
          List.mem_filterMap.1 (ih (List.mem_filterMap.2 ⟨stop', hmem, hfetched⟩))
        exact List.mem_filterMap.2 ⟨stop'', List.mem_cons_of_mem _ hmem', hnamed⟩

/-- Nothing is asked for at a refusal or behind it, and what is refused is not asked for before. -/
lemma Replay.of_overLimit {name : String} (h : Replay ctx (before ++ stop :: later) steps)
    (hrefused : stop.overLimit? = some name) :
    asked steps = fetchedAt before ∧ name ∉ ctx.visited ∧ name ∉ asked steps := by
  obtain ⟨earlier, rest, rfl, hbefore, hlater⟩ := h.exists_of_append
  cases hlater with
  | @cons _ _ _ here others hhere hothers =>
      obtain ⟨hmem, hcount⟩ := hhere.of_overLimit hrefused
      rw [hbefore.paid.mem_visited_after_iff, not_or] at hmem
      have hnone : stop.fetched? = none := by
        cases hhere <;> simp [Stop.overLimit?, Stop.fetched?] at hrefused ⊢
      have hrest : asked (here ++ others) = [] := by
        rw [asked_append, hhere.asked_eq, hnone, hothers.paid.asked_eq_nil hcount]
        rfl
      rw [asked_append, hrest, List.append_nil]
      exact ⟨hbefore.asked_eq, hmem⟩

/-- What the report spares was not asked for. -/
lemma Spared.not_mem_queries {name : String}
    (h : Spared (Domain.normalize domain) (itinerary ((validate domain).run resolve)) name) :
    name ∉ (validate domain).queries resolve := by
  obtain ⟨steps, r, ctx, hfetch, -, hasked, hverdict⟩ := exists_fetch_of_fixed resolve domain
  rw [← hasked]
  rw [hverdict, itinerary_eq, entries_verdict] at h
  cases hfetch with
  | @intro answer inner entries _ terms =>
      have hreplay := terms.replay
      rw [Report.entries_node] at h
      rw [asked_ask, List.mem_cons, not_or]
      cases h with
      | refused hstop hrefused =>
          obtain ⟨before, later, hstops⟩ := List.append_of_mem hstop
          rw [hstops] at hreplay
          obtain ⟨-, hvisited, hname⟩ := hreplay.of_overLimit hrefused
          exact ⟨fun heq => hvisited (mem_visited_start.2 heq), hname⟩
      | @behind before later stop hstops hrefused hname hne =>
          obtain ⟨name', hname'⟩ := Option.ne_none_iff_exists'.1 hrefused
          rw [hstops] at hreplay
          obtain ⟨hbefore, -, -⟩ := hreplay.of_overLimit hname'
          obtain ⟨earlier, -, -, hearlier, -⟩ := hreplay.exists_of_append
          rw [hbefore]
          exact ⟨hne, fun hmem => hname (hearlier.fetchedAt_subset hmem)⟩

/-! ### Validations -/

/-- What a validation depends on, with two ways of answering.

If they agree on every domain that is asked for with the first one, then the validation does the
same with both, wherever else they differ.  In particular it does so if they differ on domains only
that the report on the first one shows to be refused because of the budget, or not to be named
before such a refusal. -/
theorem sameValidation_of_agree_on_queries (resolve resolve' : String → TxtAnswer)
    (domain : String) :
    ((∀ x ∈ (validate domain).queries resolve, resolve' x = resolve x) →
      SameValidation domain resolve resolve') ∧
    ((∀ x, resolve' x ≠ resolve x →
        Spared (Domain.normalize domain) (itinerary ((validate domain).run resolve)) x) →
      SameValidation domain resolve resolve') := by
  refine ⟨sameValidation_of_agree, fun hspared => sameValidation_of_agree fun x hx => ?_⟩
  by_contra hne
  exact (hspared x hne).not_mem_queries hx

/-- A domain whose budget is spent below its first reference. -/
def crowded (domain : String) : TxtAnswer :=
  if domain = "a" then .ok ["v=spf1 include:b include:d -all"]
  else if domain = "b" then .ok ["v=spf1 a a a a a a a a a include:c -all"]
  else .error .noBackends

/-- Other answers, for all domains but two. -/
def crowdedElsewhere (domain : String) : TxtAnswer :=
  if domain = "a" ∨ domain = "b" then crowded domain else .ok ["v=spf1 redirect=" ++ domain]

/-- Two references are refused, and all domains but the two that are fetched are spared. -/
theorem sameValidation_crowded :
    ((∀ x ∈ (validate "A").queries crowded, crowdedElsewhere x = crowded x) ∧
      SameValidation "A" crowded crowdedElsewhere) ∧
    (∀ x, crowdedElsewhere x ≠ crowded x →
      Spared (Domain.normalize "A") (itinerary ((validate "A").run crowded)) x) ∧
    SameValidation "A" crowded crowdedElsewhere := by
  obtain ⟨hqueries, hspared⟩ := sameValidation_of_agree_on_queries crowded crowdedElsewhere "A"
  have hagree : ∀ x ∈ (validate "A").queries crowded, crowdedElsewhere x = crowded x := by
    decide +kernel
  -- before the first refusal there are one reference and nine charges
  have hnamed : namedAt ((itinerary ((validate "A").run crowded)).take 10) = ["b"] := by
    decide +kernel
  have hlast : (itinerary ((validate "A").run crowded))[10]?.bind Stop.overLimit? = some "c" := by
    decide +kernel
  have hspares : ∀ x, crowdedElsewhere x ≠ crowded x →
      Spared (Domain.normalize "A") (itinerary ((validate "A").run crowded)) x := by
    intro x hx
    obtain ⟨hnotA, hnotB⟩ : x ≠ "a" ∧ x ≠ "b" := not_or.1 fun hfetched => hx (if_pos hfetched)
    have hname : Domain.normalize "A" = "a" := by decide +kernel
    obtain ⟨stop, hstop, hrefused⟩ := Option.bind_eq_some_iff.1 hlast
    obtain ⟨hlt, hget⟩ := List.getElem?_eq_some_iff.1 hstop
    have hsplit := (List.take_append_drop 10 (itinerary ((validate "A").run crowded))).symm
    rw [List.drop_eq_getElem_cons hlt, hget] at hsplit
    refine .behind hsplit (by simp [hrefused]) ?_ (by rwa [hname])
    rwa [hnamed, List.mem_singleton]
  exact ⟨⟨hagree, hqueries hagree⟩, hspares, hspared hspares⟩

end Lookup

end SenderPolicy
