/-
A validation is a depth-first search that may be cut short.

When every name has a fixed answer, the references between domains form a graph.  A validation
goes through this graph like a depth-first search without a budget: it asks for domains in the
order of the search, and it leaves none out before it stops asking.  It stops for good when the
count passes the limit, since every fetch has to be charged for first; so what it asks for is a
beginning of the order of the search, and all of it if the count stays within the limit.
-/
import SenderPolicy.Proofs.Graph.DepthFirst
import SenderPolicy.Proofs.Lookup.Accounting

namespace SenderPolicy

namespace Lookup

/-- The domains that the references among some terms name, without those that name none. -/
def named (ts : List Term) : List String := (targets ts).filter fun name => !decide (name = "")

/-- The domains to which a validation may go from a domain. -/
def followable (resolve : String → TxtAnswer) (domain : String) : List String :=
  named (termsOf (resolve domain))

section Named

variable {t : Term} (ts : List Term)

lemma named_cons_of_not_isReference (h : t.kind.isReference = false) :
    named (t :: ts) = named ts := by
  rw [named, named, targets_cons_of_not_isReference h]

lemma named_cons_of_eq_empty (href : t.kind.isReference = true) (h : target t = "") :
    named (t :: ts) = named ts := by
  rw [named, named, targets_cons_of_isReference href]
  exact List.filter_cons_of_neg (by rw [decide_eq_true h]; exact Bool.false_ne_true)

lemma named_cons_of_ne_empty (href : t.kind.isReference = true) (h : target t ≠ "") :
    named (t :: ts) = target t :: named ts := by
  rw [named, named, targets_cons_of_isReference href]
  exact List.filter_cons_of_pos (by rw [decide_eq_false h]; rfl)

end Named

variable {resolve : String → TxtAnswer} {ctx ctx' : Context} {ts : List Term}
  {steps : List Step} {entries : List Entry}

/-- Once the count has passed the limit, nothing is asked for any more. -/
lemma Paid.asked_eq_nil (h : Paid ctx steps) (hcount : maxLookups < ctx.count) :
    asked steps = [] := by
  have hlength := h.length_asked_add_remaining_le
  have hremaining : ctx.remaining = 0 := by
    simp only [Context.remaining]
    omega
  exact List.eq_nil_of_length_eq_zero (by omega)

/-- A traversal asks for domains like a depth-first search that has seen the visited ones, up to
the point where the count passes the limit. -/
lemma Traversal.asked_isPrefix (h : Traversal ts ctx steps entries ctx')
    (hfixed : AnsweredBy resolve steps) {order : List String}
    (horder : DepthFirst (followable resolve) {x | x ∈ ctx.visited} (named ts) order) :
    asked steps <+: order ∧ (ctx'.count ≤ maxLookups → asked steps = order) := by
  induction h generalizing order with
  | nil ctx =>
      cases horder
      exact ⟨List.prefix_refl _, fun _ => rfl⟩
  | free href _ _ ih =>
      rw [named_cons_of_not_isReference _ href] at horder
      exact ih hfixed horder
  | @charged t ts ctx _ _ _ href _ _ ih =>
      rw [named_cons_of_not_isReference _ href, ← Context.visited_charge ctx] at horder
      exact ih hfixed horder
  | missing href hempty _ ih =>
      rw [named_cons_of_eq_empty _ href hempty] at horder
      exact ih hfixed horder
  | circular href hne hmem _ ih =>
      rw [named_cons_of_ne_empty _ href hne] at horder
      rcases horder.cons_cases with ⟨-, rest⟩ | ⟨hnew, -⟩
      · exact ih hfixed rest
      · exact absurd hmem hnew
  | overLimit href hne hmem hlimit hrest ih =>
      have hcount := Context.maxLookups_lt_count_charge hlimit
      rw [asked_charge, hrest.paid.asked_eq_nil hcount]
      refine ⟨List.nil_prefix, fun hle => ?_⟩
      have := hrest.extends_context.count_le
      omega
  | @followed t ts ctx ctx₁ ctx' answer inner steps children entries href hne hmem hlimit hterms
      hrest ihterms ih =>
      obtain ⟨rfl, hboth⟩ := answeredBy_ask_iff.1 hfixed
      obtain ⟨hinner, hsteps⟩ := answeredBy_append_iff.1 hboth
      rw [named_cons_of_ne_empty _ href hne] at horder
      rcases horder.cons_cases with ⟨hold, -⟩ | ⟨-, inside, outside, rfl, successors, rest⟩
      · exact absurd hold hmem
      have hseen : {x | x ∈ (ctx.charge.mark (target t)).visited} =
          insert (target t) {x | x ∈ ctx.visited} := by
        ext x
        simp only [Set.mem_ofPred_eq, Set.mem_insert_iff, Context.mem_visited_mark,
          Context.visited_charge]
      rw [← hseen] at successors rest
      obtain ⟨hbegin, hexact⟩ := ihterms hinner successors
      simp only [asked_charge, asked_mark, asked_ask, asked_append, List.cons_prefix_cons,
        List.cons.injEq, true_and]
      by_cases hcount : ctx₁.count ≤ maxLookups
      · -- nothing is left out below the reference, so the search goes on from what is visited
        have hinside := hexact hcount
        have hvisited : {x | x ∈ ctx₁.visited} =
            {x | x ∈ (ctx.charge.mark (target t)).visited} ∪ {y | y ∈ inside} := by
          ext x
          rw [← hterms.after_steps, Set.mem_ofPred_eq, hterms.paid.mem_visited_after_iff, hinside]
          rfl
        rw [← hvisited] at rest
        obtain ⟨hbegin', hexact'⟩ := ih hsteps rest
        rw [hinside, List.prefix_append_right_inj]
        exact ⟨hbegin', fun hle => by rw [hexact' hle]⟩
      · -- nothing is asked for behind the reference
        have hnil := hrest.paid.asked_eq_nil (by omega)
        rw [hnil, List.append_nil]
        refine ⟨hbegin.trans (List.prefix_append _ _), fun hle => ?_⟩
        have := hrest.extends_context.count_le
        omega

/-! ### Validations -/

/-- The domains that a validation asks for, next to the depth-first order. -/
lemma queries_isPrefix_of_depthFirst {domain : String} {order : List String}
    (horder : DepthFirst (followable resolve) ∅ [Domain.normalize domain] order) :
    (validate domain).queries resolve <+: order ∧
      (((validate domain).run resolve).finding.lookupCount.toNat ≤ maxLookups →
        (validate domain).queries resolve = order) := by
  obtain ⟨steps, r, ctx, hfetch, hfixed, hasked, -, hcount, -⟩ :=
    exists_fetch_of_validate resolve domain
  rw [← hasked, hcount]
  clear hasked hcount
  cases hfetch with
  | @intro answer steps entries _ terms =>
      obtain ⟨rfl, hsteps⟩ := answeredBy_ask_iff.1 hfixed
      rcases horder.cons_cases with ⟨hold, -⟩ | ⟨-, inside, outside, rfl, successors, rest⟩
      · cases hold
      obtain rfl : outside = [] := by
        cases rest
        rfl
      have hseen : insert (Domain.normalize domain) ∅ =
          {x | x ∈ (Context.empty.mark (Domain.normalize domain)).visited} := by
        ext x
        simp [Context.mem_visited_mark, Context.empty]
      rw [hseen] at successors
      obtain ⟨hbegin, hexact⟩ := terms.asked_isPrefix hsteps successors
      rw [asked_ask, List.append_nil]
      refine ⟨List.cons_prefix_cons.2 ⟨rfl, hbegin⟩, fun hle => ?_⟩
      rw [hexact hle]

/-- A validation beside a depth-first search without a budget, where every name has a fixed answer
and only finitely many domains can be reached through references.

The search comes upon the domains that can be reached, each once and in an order that is unique.
The validation asks for the first of them in this order, and for all if its count is within the
limit.  If it leaves one out then the count is one above the limit, and the root says so. -/
theorem queries_isPrefix_and_eq_of_finite_reachable (resolve : String → TxtAnswer) (domain : String)
    (hfin : (reachable (followable resolve) (Domain.normalize domain)).Finite) :
    ∃ order,
      (∀ order', DepthFirst (followable resolve) ∅ [Domain.normalize domain] order' ↔
        order' = order) ∧
      order.Nodup ∧
      (∀ x, x ∈ order ↔ x ∈ reachable (followable resolve) (Domain.normalize domain)) ∧
      (validate domain).queries resolve <+: order ∧
      (((validate domain).run resolve).finding.lookupCount.toNat ≤ maxLookups →
        (validate domain).queries resolve = order) ∧
      ((validate domain).queries resolve ≠ order →
        ((validate domain).run resolve).finding.lookupCount.toNat = maxLookups + 1 ∧
        .error (tooMany (maxLookups + 1)) ∈ ((validate domain).run resolve).finding.issues) := by
  obtain ⟨order, horder⟩ := exists_depthFirst hfin
  obtain ⟨hbegin, hexact⟩ := queries_isPrefix_of_depthFirst horder
  refine ⟨order, fun order' => ⟨horder.unique, ?_⟩, horder.nodup, horder.mem_iff_reachable,
    hbegin, hexact, fun hne => ?_⟩
  · rintro rfl
    exact horder
  · obtain ⟨steps, r, ctx, -, -, -, hrun, hcount, hle⟩ := exists_fetch_of_validate resolve domain
    have hlt : maxLookups < ctx.count := by
      by_contra hwithin
      exact hne (hexact (by omega))
    have heq : ctx.count = maxLookups + 1 := by omega
    refine ⟨by rw [hcount, heq], ?_⟩
    rw [hrun, verdict_of_lt hlt, heq]
    exact List.mem_append_right _ List.mem_cons_self

/-- The validation of a domain in a cycle asks for both of its domains. -/
theorem queries_eq_of_ring :
    (reachable (followable ring) (Domain.normalize "B")).Finite ∧
      DepthFirst (followable ring) ∅ [Domain.normalize "B"] ["b", "c"] := by
  have hfin : (reachable (followable ring) (Domain.normalize "B")).Finite := by
    refine (List.finite_toSet ["b", "c"]).subset (reachable_subset_of_closed ?_ ?_)
    · decide +kernel
    · intro x hx
      rcases List.mem_pair.1 hx with rfl | rfl
      · decide +kernel
      · decide +kernel
  refine ⟨hfin, ?_⟩
  obtain ⟨order, hunique, -, -, -, hexact, -⟩ :=
    queries_isPrefix_and_eq_of_finite_reachable ring "B" hfin
  rw [hunique, ← hexact (by decide +kernel)]
  decide +kernel

end Lookup

end SenderPolicy
