/-
Expansions are paid for.

Below the domain that a lookup is for, nothing is fetched for free: a fetch comes right after a
charge that stays within the limit and after the domain, which was not visited before, is noted.
`Paid` says so of a list of steps.  The steps of every traversal are paid
(`Lookup.Traversal.paid`), and three consequences are drawn from that alone: the fetched domains
are new and distinct, they are visited in the end, and each of them has used up one of the lookups
that remained.
-/
import SenderPolicy.Proofs.Lookup.Traversal

namespace SenderPolicy

namespace Lookup

/-- Steps in which every fetch is paid for: there are charges, and fetches of new domains that
are charged and noted right before. -/
inductive Paid : Context → List Step → Prop where
  | nil (ctx : Context) : Paid ctx []
  | charge {ctx : Context} {steps : List Step} (rest : Paid ctx.charge steps) :
      Paid ctx (.charge :: steps)
  | fetch {ctx : Context} {steps : List Step} {t : Term} {answer : TxtAnswer}
      (hne : target t ≠ "") (hmem : target t ∉ ctx.visited)
      (hlimit : ctx.charge.isWithinLimit = true)
      (rest : Paid (ctx.charge.mark (target t)) steps) :
      Paid ctx (.charge :: .mark (target t) :: .ask (target t) answer :: steps)

variable {ctx ctx' : Context} {steps : List Step}

namespace Paid

lemma append {steps' : List Step} (h : Paid ctx steps) (h' : Paid (after ctx steps) steps') :
    Paid ctx (steps ++ steps') := by
  induction h with
  | nil ctx => exact h'
  | charge _ ih => exact .charge (ih h')
  | fetch hne hmem hlimit _ ih => exact .fetch hne hmem hlimit (ih h')

/-- What stands before a fetch among paid steps. -/
lemma exists_of_ask (h : Paid ctx steps) {before later : List Step} {domain : String}
    {answer : TxtAnswer} (heq : steps = before ++ .ask domain answer :: later) :
    ∃ earlier t, before = earlier ++ [.charge, .mark domain] ∧ domain = target t ∧ domain ≠ "" ∧
      domain ∉ (after ctx earlier).visited ∧
      (after ctx earlier).charge.isWithinLimit = true := by
  induction h generalizing before with
  | nil ctx => simp at heq
  | charge _ ih =>
      rcases before with _ | ⟨step, before⟩
      · simp at heq
      · simp only [List.cons_append, List.cons.injEq] at heq
        obtain ⟨rfl, heq⟩ := heq
        obtain ⟨earlier, t, rfl, hrest⟩ := ih heq
        exact ⟨.charge :: earlier, t, rfl, hrest⟩
  | fetch hne hmem hlimit _ ih =>
      -- the steps start with a charge, a note and a fetch: it is this fetch or a later one
      rcases before with _ | ⟨s₁, _ | ⟨s₂, _ | ⟨s₃, before⟩⟩⟩
      · simp at heq
      · simp at heq
      · simp only [List.cons_append, List.nil_append, List.cons.injEq, Step.ask.injEq] at heq
        obtain ⟨rfl, rfl, ⟨rfl, -⟩, -⟩ := heq
        exact ⟨[], _, rfl, rfl, hne, hmem, hlimit⟩
      · simp only [List.cons_append, List.cons.injEq] at heq
        obtain ⟨rfl, rfl, rfl, heq⟩ := heq
        obtain ⟨earlier, t, rfl, hrest⟩ := ih heq
        exact ⟨.charge :: .mark _ :: .ask _ _ :: earlier, t, rfl, hrest⟩

lemma not_mem_visited (h : Paid ctx steps) : ∀ x ∈ asked steps, x ∉ ctx.visited := by
  induction h with
  | nil ctx => simp
  | @charge ctx _ _ ih =>
      intro x hx
      rw [← Context.visited_charge ctx]
      exact ih x hx
  | @fetch ctx _ t _ hne hmem hlimit _ ih =>
      intro x hx
      simp only [asked_charge, asked_mark, asked_ask, List.mem_cons] at hx
      rcases hx with rfl | hx
      · exact hmem
      · intro hvisited
        refine ih x hx (Context.mem_visited_mark.2 (Or.inr ?_))
        rwa [Context.visited_charge]

lemma ne_empty (h : Paid ctx steps) : ∀ x ∈ asked steps, x ≠ "" := by
  induction h with
  | nil ctx => simp
  | charge _ ih => exact ih
  | fetch hne _ _ _ ih =>
      intro x hx
      simp only [asked_charge, asked_mark, asked_ask, List.mem_cons] at hx
      rcases hx with rfl | hx
      · exact hne
      · exact ih x hx

/-- The domains that are visited after paid steps are those from before and the fetched ones. -/
lemma mem_visited_after_iff (h : Paid ctx steps) {x : String} :
    x ∈ (after ctx steps).visited ↔ x ∈ ctx.visited ∨ x ∈ asked steps := by
  induction h with
  | nil ctx => simp
  | @charge ctx _ _ ih =>
      rw [after_charge, ih, Context.visited_charge, asked_charge]
  | @fetch ctx steps t _ _ _ _ _ ih =>
      rw [after_charge, after_mark, after_ask, ih, Context.mem_visited_mark,
        Context.visited_charge, asked_charge, asked_mark, asked_ask, List.mem_cons, or_assoc,
        or_left_comm]

lemma nodup_asked (h : Paid ctx steps) : (asked steps).Nodup := by
  induction h with
  | nil ctx => exact List.nodup_nil
  | charge _ ih => exact ih
  | fetch hne hmem hlimit hrest ih =>
      -- the fetched domain was noted, and later ones are new
      refine List.nodup_cons.2 ⟨fun hx => ?_, ih⟩
      exact hrest.not_mem_visited _ hx (Context.mem_visited_mark.2 (Or.inl rfl))

/-- Every fetch uses up one of the lookups that remained. -/
lemma length_asked_add_remaining_le (h : Paid ctx steps) :
    (asked steps).length + (after ctx steps).remaining ≤ ctx.remaining := by
  induction h with
  | nil ctx => simp
  | @charge ctx _ _ ih =>
      exact Nat.le_trans ih (Context.Extends.charge ctx).remaining_le
  | @fetch ctx steps t _ hne hmem hlimit _ ih =>
      have hlt := Context.remaining_charge_mark_lt (target t) hlimit
      simp only [asked_charge, asked_mark, asked_ask, List.length_cons, after_charge, after_mark,
        after_ask]
      omega

end Paid

/-- The steps of a traversal are paid for. -/
lemma Traversal.paid {ts : List Term} {entries : List Entry}
    (h : Traversal ts ctx steps entries ctx') : Paid ctx steps := by
  induction h with
  | nil ctx => exact .nil ctx
  | free _ _ _ ih => exact ih
  | charged _ _ _ ih => exact .charge ih
  | missing _ _ _ ih => exact ih
  | circular _ _ _ _ ih => exact ih
  | overLimit _ _ _ _ _ ih => exact .charge ih
  | followed _ hne hmem hlimit hterms _ ihterms ih =>
      refine .fetch hne hmem hlimit (ihterms.append ?_)
      rw [hterms.after_steps]
      exact ih

/-- The count of a context in which it is at most one above the limit stays so. -/
lemma count_after_le (h : ctx.count ≤ maxLookups + 1) (steps : List Step) :
    (after ctx steps).count ≤ maxLookups + 1 := by
  induction steps generalizing ctx with
  | nil => exact h
  | cons step steps ih =>
      refine ih ?_
      cases step with
      | charge =>
          rw [Step.apply, Context.count_charge_of_le h]
          omega
      | mark domain => rwa [Step.apply, Context.count_mark]
      | ask domain answer => exact h

/-- The report on a domain shows the count at the end. -/
lemma Fetch.toNat_lookupCount {domain : String} {report : Report}
    (h : Fetch domain ctx steps report ctx') (hc : ctx.count ≤ maxLookups + 1) :
    report.finding.lookupCount.toNat = ctx'.count := by
  have hcount : ctx'.count ≤ maxLookups + 1 := by
    rw [← h.after_steps]
    exact count_after_le hc steps
  cases h with
  | intro terms =>
      rw [Report.finding_node, lookupCount_findingFor, Context.toNat_lookupCount hcount]

/-! ### Validations -/

/-- The final count of a validation is the one at its root. -/
lemma exists_fetch_of_validate (resolve : String → TxtAnswer) (domain : String) :
    ∃ steps r ctx, Fetch (Domain.normalize domain)
        (Context.empty.mark (Domain.normalize domain)) steps r ctx ∧
      AnsweredBy resolve steps ∧ asked steps = (validate domain).queries resolve ∧
      (validate domain).run resolve = verdict r ctx ∧
      ((validate domain).run resolve).finding.lookupCount.toNat = ctx.count ∧
      ctx.count ≤ maxLookups + 1 := by
  obtain ⟨steps, r, ctx, hfetch, hfixed, hasked, hrun⟩ := exists_fetch_of_fixed resolve domain
  have hempty : (Context.empty.mark (Domain.normalize domain)).count ≤ maxLookups + 1 := by
    rw [Context.count_mark]
    exact Nat.zero_le _
  refine ⟨steps, r, ctx, hfetch, hfixed, hasked, hrun, ?_, ?_⟩
  · rw [hrun, lookupCount_verdict, hfetch.toNat_lookupCount hempty]
  · rw [← hfetch.after_steps]
    exact count_after_le hempty steps

end Lookup

end SenderPolicy
