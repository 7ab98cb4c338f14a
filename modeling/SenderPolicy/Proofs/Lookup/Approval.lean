/-
What a validation approves.

A report without errors says something about all domains that can be reached through references,
although the validation goes through them with a budget and leaves some out.  The domains that it
asks for, with the references that it refuses, make up a census of the reachable domains
(`Lookup.Census`).  If nothing is refused then the census is closed under references, so it is
complete; and if the reachable domains form a tree within the budget, then there is no reason to
refuse anything.  Hence a report has no errors exactly if the domains are approvable
(`Lookup.hasErrorsInTree_validate_iff`).
-/
import Mathlib.Algebra.BigOperators.Group.Finset.Basic
import Mathlib.Algebra.Order.BigOperators.Group.Finset
import Mathlib.Data.Set.Finite.Basic
import SenderPolicy.Proofs.Lookup.Census

namespace SenderPolicy

namespace Lookup

/-- The conditions under which a validation approves a domain, on all domains that can be reached
from it through references. -/
structure Approvable (resolve : String → TxtAnswer) (root : String) : Prop where
  /-- A domain is answered without error and has exactly one policy. -/
  one_policy : ∀ x ∈ reachable (links resolve) root,
    ∃ txt record, resolve x = .ok txt ∧ policies txt = [record]
  /-- Its policy has at most one redirect. -/
  one_redirect : ∀ x ∈ reachable (links resolve) root,
    Rules.redirectCount (termsOf (resolve x)) ≤ 1
  /-- Every reference names a domain. -/
  names_target : ∀ x ∈ reachable (links resolve) root, "" ∉ links resolve x
  /-- No two references have the same target. -/
  one_reference : ∀ x ∈ reachable (links resolve) root, ∀ y ∈ reachable (links resolve) root,
    ∀ (i j : Nat) (z : String), (links resolve x)[i]? = some z → (links resolve y)[j]? = some z →
      x = y ∧ i = j
  /-- The first domain is no target. -/
  root_not_target : ∀ x ∈ reachable (links resolve) root, root ∉ links resolve x
  /-- There are finitely many domains, and they take no more lookups than allowed. -/
  within_limit : ∃ hfin : (reachable (links resolve) root).Finite,
    ∑ x ∈ hfin.toFinset, cost resolve x ≤ maxLookups

/-- The domains that a validation asks for, the targets that it refuses, and its final count. -/
structure Census (resolve : String → TxtAnswer) (root : String) (order refusals : List String)
    (count : Nat) : Prop where
  /-- The first domain is asked for. -/
  root_mem : root ∈ order
  /-- No domain is asked for twice. -/
  nodup : order.Nodup
  /-- Only reachable domains are asked for. -/
  mem_reachable : ∀ x ∈ order, x ∈ reachable (links resolve) root
  /-- Only the first domain can have no name. -/
  named : ∀ x ∈ order, x = root ∨ x ≠ ""
  /-- Apart from the first domain, what is asked for or refused is the target of a reference. -/
  perm : (order ++ refusals).Perm (root :: order.flatMap (links resolve))
  /-- There is a reason for every refusal. -/
  of_mem_refusals : ∀ z ∈ refusals, z = "" ∨ z ∈ order ∨ maxLookups < count
  /-- No more lookups are charged for than there are terms that take one. -/
  count_le : count ≤ (order.map (cost resolve)).sum
  /-- Without a refusal, all lookups are charged for. -/
  sum_le : refusals = [] → count ≤ maxLookups → (order.map (cost resolve)).sum ≤ count

/-! ### Lists without repetition -/

section Nodup

variable {α β : Type} {f : α → List β} {l : List α}

/-- Two parts of a list without repetition have nothing in common. -/
lemma eq_of_mem_of_nodup_flatMap (h : (l.flatMap f).Nodup) {x y : α} (hx : x ∈ l) (hy : y ∈ l)
    {z : β} (hzx : z ∈ f x) (hzy : z ∈ f y) : x = y := by
  by_contra hne
  have hsymm : Std.Symm (Function.onFun List.Disjoint f) := ⟨fun _ _ => List.Disjoint.symm⟩
  exact (List.nodup_flatMap.1 h).2.forall hx hy hne hzx hzy

/-- A list of lists has no repetition if every element has one place in it. -/
lemma nodup_flatMap_of_getElem? (hl : l.Nodup)
    (h : ∀ x ∈ l, ∀ y ∈ l, ∀ (i j : Nat) (z : β), (f x)[i]? = some z → (f y)[j]? = some z →
      x = y ∧ i = j) : (l.flatMap f).Nodup := by
  refine List.nodup_flatMap.2 ⟨fun x hx => ?_, ?_⟩
  · refine List.nodup_iff_injective_getElem.2 fun i j hij => ?_
    refine Fin.ext (h x hx x hx i j _ (List.getElem?_eq_getElem i.isLt) ?_).2
    rw [List.getElem?_eq_getElem j.isLt]
    exact congrArg some hij.symm
  · refine List.Pairwise.imp_of_mem (fun {x y} hx hy hne => ?_) hl
    intro z hzx hzy
    obtain ⟨i, hi⟩ := List.mem_iff_getElem?.1 hzx
    obtain ⟨j, hj⟩ := List.mem_iff_getElem?.1 hzy
    exact hne (h x hx y hy i j z hi hj).1

end Nodup

/-! ### What a census says -/

namespace Census

variable {resolve : String → TxtAnswer} {root : String} {order refusals : List String}
  {count : Nat}

/-- Without a refusal, the domains that are asked for are all that can be reached. -/
lemma reachable_eq (h : Census resolve root order [] count) :
    reachable (links resolve) root = {x | x ∈ order} := by
  refine Set.Subset.antisymm (reachable_subset_of_closed h.root_mem ?_) h.mem_reachable
  intro x hx y hy
  have hmem : y ∈ order ++ [] :=
    h.perm.mem_iff.2 (List.mem_cons_of_mem _ (List.mem_flatMap.2 ⟨x, hx, hy⟩))
  rwa [List.append_nil] at hmem

/-- The domains of a census without refusals are approvable if their answers are usable and the
count is within the limit. -/
lemma approvable (h : Census resolve root order [] count)
    (husable : ∀ x ∈ order, Usable (resolve x)) (hcount : count ≤ maxLookups) :
    Approvable resolve root := by
  have hreach := h.reachable_eq
  have hperm := h.perm
  rw [List.append_nil] at hperm
  obtain ⟨hroot, hnodup⟩ := List.nodup_cons.1 (hperm.nodup_iff.1 h.nodup)
  have hmem : ∀ x ∈ order, ∀ z ∈ links resolve x, z ∈ order.flatMap (links resolve) :=
    fun x hx z hz => List.mem_flatMap.2 ⟨x, hx, hz⟩
  constructor
  · intro x hx
    rw [hreach] at hx
    exact (husable x hx).one_policy
  · intro x hx
    rw [hreach] at hx
    exact (husable x hx).one_redirect
  · intro x hx hempty
    rw [hreach] at hx
    -- the empty name would be asked for, and not as the first one
    have horder := hperm.mem_iff.2 (List.mem_cons_of_mem root (hmem x hx "" hempty))
    rcases h.named "" horder with heq | hne
    · rw [← heq] at hroot
      exact hroot (hmem x hx "" hempty)
    · exact hne rfl
  · intro x hx y hy i j z hi hj
    rw [hreach] at hx hy
    obtain rfl := eq_of_mem_of_nodup_flatMap hnodup hx hy (List.mem_of_getElem? hi)
      (List.mem_of_getElem? hj)
    refine ⟨rfl, ?_⟩
    have hlt : i < (links resolve x).length := (List.getElem?_eq_some_iff.1 hi).1
    exact (List.getElem?_inj hlt ((List.nodup_flatMap.1 hnodup).1 x hx)).1 (hi.trans hj.symm)
  · intro x hx hmemroot
    rw [hreach] at hx
    exact hroot (hmem x hx root hmemroot)
  · have hfin : (reachable (links resolve) root).Finite := by
      rw [hreach]
      exact List.finite_toSet order
    refine ⟨hfin, ?_⟩
    have hset : hfin.toFinset = order.toFinset := by
      ext x
      rw [Set.Finite.mem_toFinset, hreach, List.mem_toFinset]
      rfl
    rw [hset, List.sum_toFinset _ h.nodup]
    exact (h.sum_le rfl hcount).trans hcount

/-- If the domains are approvable then nothing is refused, and the count is within the limit. -/
lemma of_approvable (h : Census resolve root order refusals count)
    (happrovable : Approvable resolve root) : refusals = [] ∧ count ≤ maxLookups := by
  have hcount : count ≤ maxLookups := by
    obtain ⟨hfin, hle⟩ := happrovable.within_limit
    refine h.count_le.trans (Nat.le_trans ?_ hle)
    rw [← List.sum_toFinset _ h.nodup]
    refine Finset.sum_le_sum_of_subset fun x hx => ?_
    exact hfin.mem_toFinset.2 (h.mem_reachable x (List.mem_toFinset.1 hx))
  refine ⟨List.eq_nil_iff_forall_not_mem.2 fun z hz => ?_, hcount⟩
  have hnodup : (root :: order.flatMap (links resolve)).Nodup := by
    refine List.nodup_cons.2 ⟨fun hroot => ?_, nodup_flatMap_of_getElem? h.nodup ?_⟩
    · obtain ⟨x, hx, hlink⟩ := List.mem_flatMap.1 hroot
      exact happrovable.root_not_target x (h.mem_reachable x hx) hlink
    · intro x hx y hy
      exact happrovable.one_reference x (h.mem_reachable x hx) y (h.mem_reachable y hy)
  -- a refused target is the target of another reference than those that are followed
  have hnew : z ∉ order := fun horder =>
    (List.nodup_append.1 (h.perm.nodup_iff.2 hnodup)).2.2 z horder z hz rfl
  rcases h.of_mem_refusals z hz with hempty | horder | hlt
  · rcases List.mem_cons.1 (h.perm.mem_iff.1 (List.mem_append_right order hz)) with heq | hlink
    · rw [heq] at hnew
      exact hnew h.root_mem
    · obtain ⟨x, hx, hlink⟩ := List.mem_flatMap.1 hlink
      rw [hempty] at hlink
      exact happrovable.names_target x (h.mem_reachable x hx) hlink
  · exact hnew horder
  · omega

end Census

/-! ### The census of a validation -/

variable {resolve : String → TxtAnswer} {root : String} {ctx : Context} {steps : List Step}
  {entries : List Entry} {count : UInt32}

/-- The traversal of a validation makes a census. -/
lemma Traversal.census
    (h : Traversal (termsOf (resolve root)) (Context.empty.mark root) steps entries ctx)
    (hfixed : AnsweredBy resolve steps) :
    Census resolve root (root :: asked steps) (refused (referencesOfEntries entries)) ctx.count := by
  have hroot : root ∈ (Context.empty.mark root).visited := Context.mem_visited_mark.2 (Or.inl rfl)
  have hcount : ctx.count = min (maxLookups + 1) (0 + charges (momentsOfEntries entries)) := by
    refine (h.counted ?_).2
    rw [Context.count_mark]
    rfl
  obtain ⟨hle, hge⟩ := h.charges_le hfixed
  constructor
  · exact List.mem_cons_self
  · exact List.nodup_cons.2 ⟨fun hx => h.paid.not_mem_visited root hx hroot, h.paid.nodup_asked⟩
  · intro x hx
    rcases List.mem_cons.1 hx with rfl | hx
    · exact Relation.ReflTransGen.refl
    · obtain ⟨z, hz, hreach⟩ := h.exists_reachable hfixed x hx
      exact Relation.ReflTransGen.head hz hreach
  · intro x hx
    rcases List.mem_cons.1 hx with rfl | hx
    · exact Or.inl rfl
    · exact Or.inr (h.paid.ne_empty x hx)
  · exact (h.perm_targets hfixed).cons root
  · intro z hz
    rcases h.of_mem_refused z hz with hempty | hvisited | hlt
    · exact Or.inl hempty
    · -- only the first domain was visited before the traversal
      rw [← h.after_steps, h.paid.mem_visited_after_iff, Context.mem_visited_mark] at hvisited
      rcases hvisited with (rfl | hnone) | hasked
      · exact Or.inr (Or.inl List.mem_cons_self)
      · cases hnone
      · exact Or.inr (Or.inl (List.mem_cons_of_mem root hasked))
    · exact Or.inr (Or.inr hlt)
  · rw [List.map_cons, List.sum_cons, cost]
    omega
  · -- the counter has not stopped, so it shows all charges
    intro hnone hwithin
    rw [hnone, List.length_nil] at hge
    rw [List.map_cons, List.sum_cons, cost]
    omega

/-- A validation reports no errors exactly if it refuses nothing, finds usable answers and stays
within the limit. -/
lemma Traversal.hasErrorsInTree_verdict_iff
    (h : Traversal (termsOf (resolve root)) (Context.empty.mark root) steps entries ctx)
    (hfixed : AnsweredBy resolve steps) :
    (verdict (.node (findingFor root (resolve root) count) entries) ctx).hasErrorsInTree = false ↔
      refused (referencesOfEntries entries) = [] ∧
        (∀ x ∈ root :: asked steps, Usable (resolve x)) ∧ ctx.count ≤ maxLookups := by
  rw [hasErrorsInTree_eq_false_iff]
  by_cases hcount : ctx.count ≤ maxLookups
  · rw [verdict_of_le hcount, references, h.hasErrors_iff hfixed, Report.hasErrors,
      Report.finding_node, hasErrors_findingFor_iff, List.forall_mem_cons]
    constructor
    · rintro ⟨hroot, hnone, hrest⟩
      exact ⟨hnone, ⟨hroot, hrest⟩, hcount⟩
    · rintro ⟨hnone, ⟨hroot, hrest⟩, -⟩
      exact ⟨hroot, hnone, hrest⟩
  · constructor
    · -- the error on the count stands at the root
      rintro ⟨hroot, -⟩
      rw [verdict_of_lt (Nat.lt_of_not_le hcount)] at hroot
      simp [Report.hasErrors, Report.addIssue, Finding.hasErrors] at hroot
    · rintro ⟨-, -, hle⟩
      exact absurd hle hcount

/-- When every name has a fixed answer, a validation reports no errors exactly if the domains that
can be reached from its domain are approvable. -/
theorem hasErrorsInTree_validate_iff (resolve : String → TxtAnswer) (domain : String) :
    ((validate domain).run resolve).hasErrorsInTree = false ↔
      Approvable resolve (Domain.normalize domain) := by
  obtain ⟨steps, r, ctx, hfetch, hfixed, -, hrun⟩ := exists_fetch_of_fixed resolve domain
  rw [hrun]
  cases hfetch with
  | @intro answer steps entries _ terms =>
      obtain ⟨rfl, hsteps⟩ := answeredBy_ask_iff.1 hfixed
      have hcensus := terms.census hsteps
      rw [terms.hasErrorsInTree_verdict_iff hsteps]
      constructor
      · rintro ⟨hnone, husable, hcount⟩
        rw [hnone] at hcensus
        exact hcensus.approvable husable hcount
      · intro happrovable
        obtain ⟨hnone, hcount⟩ := hcensus.of_approvable happrovable
        refine ⟨hnone, fun x hx => ?_, hcount⟩
        have hreach := hcensus.mem_reachable x hx
        exact ⟨happrovable.one_policy x hreach, happrovable.one_redirect x hreach⟩

end Lookup

end SenderPolicy
