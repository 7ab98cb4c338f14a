/-
The lookup counts of a report.

A report tells what happened while it was made, in the order of the source: a term that takes a
lookup is charged for, and a node is completed once its terms are gone through.  A reference is
charged for unless it names no domain or a domain that was fetched before; the charge comes before
anything that happens below the reference.  `Lookup.moments` lists these things.

The count that a node shows is the number of charges from the start of the validation to the
completion of the node, as far as the counter goes.  `Lookup.Counted` says so of a list of moments,
and it holds of the moments of every traversal (`Lookup.Traversal.counted`), because a traversal
changes the count of its context by the charges of its moments.
-/
import SenderPolicy.Proofs.Lookup.Reference
import SenderPolicy.Proofs.Lookup.Expansion

namespace SenderPolicy

namespace Lookup

open Inquiry (Run)

/-- Something that happens while a report is made. -/
inductive Moment where
  /-- A term that takes a lookup is charged for. -/
  | charge
  /-- A node is completed. -/
  | completed (report : Report)

/-- Whether a charge happens. -/
def Moment.isCharge : Moment → Bool
  | charge => true
  | completed _ => false

/-- The node that is completed. -/
def Moment.report? : Moment → Option Report
  | charge => none
  | completed report => some report

/-- Whether a reference is charged for, given the report on it. -/
def isCharged (t : Term) (report : Report) : Bool :=
  fate t report != .missing && fate t report != .circular

mutual

/-- What happened while a report was made, in the order of the source. -/
def moments : Report → List Moment
  | .node finding entries => momentsOfEntries entries ++ [.completed (.node finding entries)]

/-- What happened while some terms were gone through. -/
def momentsOfEntries : List Entry → List Moment
  | [] => []
  | entry :: entries => momentsOfEntry entry ++ momentsOfEntries entries

/-- What happened at a term. -/
def momentsOfEntry : Entry → List Moment
  | .plain t => if t.kind.takesLookup then [.charge] else []
  | .expanded t report => (if isCharged t report then [.charge] else []) ++ moments report

end

/-- The number of charges among some moments. -/
def charges (ms : List Moment) : Nat := ms.countP Moment.isCharge

/-- The nodes that are completed among some moments, in this order. -/
def completions (ms : List Moment) : List Report := ms.filterMap Moment.report?

/-! ### Charges and completions -/

section Charges

variable {ms ms' : List Moment} {report : Report}

@[simp] lemma charges_nil : charges [] = 0 := rfl

@[simp] lemma charges_charge : charges (.charge :: ms) = charges ms + 1 :=
  List.countP_cons_of_pos rfl

@[simp] lemma charges_completed : charges (.completed report :: ms) = charges ms :=
  List.countP_cons_of_neg Bool.false_ne_true

@[simp] lemma charges_append : charges (ms ++ ms') = charges ms + charges ms' :=
  List.countP_append

@[simp] lemma completions_nil : completions [] = [] := rfl

@[simp] lemma completions_charge : completions (.charge :: ms) = completions ms := rfl

@[simp] lemma completions_completed :
    completions (.completed report :: ms) = report :: completions ms := rfl

@[simp] lemma completions_append : completions (ms ++ ms') = completions ms ++ completions ms' :=
  List.filterMap_append

end Charges

mutual

/-- Every node of a report is completed once. -/
lemma completions_moments (report : Report) :
    (completions (moments report)).Perm report.nodes := by
  cases report with
  | node finding entries =>
      rw [moments, completions_append, Report.nodes]
      exact (List.perm_append_singleton _ _).trans
        ((completions_momentsOfEntries entries).cons _)

lemma completions_momentsOfEntries (entries : List Entry) :
    (completions (momentsOfEntries entries)).Perm (Report.nodesOfEntries entries) := by
  cases entries with
  | nil => exact List.Perm.nil
  | cons entry entries =>
      rw [momentsOfEntries, completions_append, Report.nodesOfEntries]
      exact (completions_momentsOfEntry entry).append (completions_momentsOfEntries entries)

lemma completions_momentsOfEntry (entry : Entry) :
    (completions (momentsOfEntry entry)).Perm (Report.nodesOfEntry entry) := by
  cases entry with
  | plain t =>
      rw [momentsOfEntry, Report.nodesOfEntry]
      split <;> exact List.Perm.nil
  | expanded t report =>
      rw [momentsOfEntry, completions_append, Report.nodesOfEntry]
      split <;> exact completions_moments report

end

mutual

/-- What happens below a node is a stretch of what happens while the whole report is made. -/
lemma isInfix_moments (report n : Report) (h : n ∈ report.nodes) :
    moments n <:+: moments report := by
  cases report with
  | node finding entries =>
      rw [Report.nodes, List.mem_cons] at h
      rcases h with rfl | h
      · exact List.infix_refl _
      · rw [moments]
        exact (isInfix_momentsOfEntries entries n h).trans
          (List.prefix_append _ _).isInfix

lemma isInfix_momentsOfEntries (entries : List Entry) (n : Report)
    (h : n ∈ Report.nodesOfEntries entries) : moments n <:+: momentsOfEntries entries := by
  cases entries with
  | nil => cases h
  | cons entry entries =>
      rw [Report.nodesOfEntries, List.mem_append] at h
      rw [momentsOfEntries]
      rcases h with h | h
      · exact (isInfix_momentsOfEntry entry n h).trans (List.prefix_append _ _).isInfix
      · exact (isInfix_momentsOfEntries entries n h).trans (List.suffix_append _ _).isInfix

lemma isInfix_momentsOfEntry (entry : Entry) (n : Report)
    (h : n ∈ Report.nodesOfEntry entry) : moments n <:+: momentsOfEntry entry := by
  cases entry with
  | plain t => cases h
  | expanded t report =>
      rw [momentsOfEntry]
      exact (isInfix_moments report n h).trans (List.suffix_append _ _).isInfix

end

/-! ### Counted moments -/

/-- Every node that is completed shows the number of charges so far, of which there were `c` before,
as far as the counter goes. -/
def Counted : Nat → List Moment → Prop
  | _, [] => True
  | c, .charge :: ms => Counted (c + 1) ms
  | c, .completed n :: ms =>
    n.finding.lookupCount.toNat = min (maxLookups + 1) c ∧ Counted c ms

namespace Counted

variable {c : Nat} {ms ms' : List Moment} {report : Report}

lemma append_iff : Counted c (ms ++ ms') ↔ Counted c ms ∧ Counted (c + charges ms) ms' := by
  induction ms generalizing c with
  | nil => simp [Counted]
  | cons m ms ih =>
      cases m with
      | charge =>
          rw [List.cons_append, Counted, Counted, ih, charges_charge, Nat.add_assoc c 1,
            Nat.add_comm 1]
      | completed n =>
          rw [List.cons_append, Counted, Counted, ih, charges_completed, and_assoc]

/-- The count of a node, by the charges before its completion. -/
lemma lookupCount_eq (h : Counted c ms) {before after : List Moment}
    (heq : ms = before ++ .completed report :: after) :
    report.finding.lookupCount.toNat = min (maxLookups + 1) (c + charges before) := by
  rw [heq, append_iff] at h
  exact h.2.1

/-- The count of the root of a report, by all charges. -/
lemma lookupCount_root (h : Counted c (moments report)) :
    report.finding.lookupCount.toNat = min (maxLookups + 1) (c + charges (moments report)) := by
  cases report with
  | node finding entries =>
      rw [moments] at h
      rw [moments, charges_append, charges_completed, charges_nil, Nat.add_zero]
      exact h.lookupCount_eq rfl

/-- Later completions show no smaller count. -/
lemma pairwise (h : Counted c ms) :
    ((completions ms).map fun n => n.finding.lookupCount.toNat).Pairwise (· ≤ ·) ∧
      ∀ n ∈ completions ms, min (maxLookups + 1) c ≤ n.finding.lookupCount.toNat := by
  induction ms generalizing c with
  | nil => simp
  | cons m ms ih =>
      cases m with
      | charge =>
          obtain ⟨hpairwise, hle⟩ := ih h
          refine ⟨hpairwise, fun n hn => ?_⟩
          have := hle n hn
          omega
      | completed n =>
          obtain ⟨hcount, hrest⟩ := h
          obtain ⟨hpairwise, hle⟩ := ih hrest
          rw [completions_completed]
          refine ⟨?_, ?_⟩
          · rw [List.map_cons, List.pairwise_cons]
            refine ⟨?_, hpairwise⟩
            intro k hk
            obtain ⟨m, hm, rfl⟩ := List.mem_map.1 hk
            rw [hcount]
            exact hle m hm
          · intro m hm
            rcases List.mem_cons.1 hm with rfl | hm
            · exact Nat.le_of_eq hcount.symm
            · exact hle m hm

/-- Within a report, no node shows a greater count than one above it. -/
lemma lookupCount_le (h : Counted c (moments report)) {n m : Report} (hn : n ∈ report.nodes)
    (hm : m ∈ n.nodes) : m.finding.lookupCount.toNat ≤ n.finding.lookupCount.toNat := by
  -- both counts are taken at the end of a stretch of moments, one of which is part of the other
  obtain ⟨before, after, hinfix⟩ := isInfix_moments report n hn
  rw [← hinfix, append_iff, append_iff] at h
  have hcounted := h.1.2
  obtain ⟨before', after', hinfix'⟩ := isInfix_moments n m hm
  have hcounted' := hcounted
  rw [← hinfix', append_iff, append_iff] at hcounted'
  rw [hcounted.lookupCount_root, hcounted'.1.2.lookupCount_root, ← hinfix', charges_append,
    charges_append]
  omega

end Counted

/-! ### The moments of a traversal -/

@[simp] lemma isCharged_missing (t : Term) (domain : String) (count : UInt32) :
    isCharged t (.failed domain count (noTarget t.kind)) = false := by
  simp [isCharged]

@[simp] lemma isCharged_circular (t : Term) (domain : String) (count : UInt32) :
    isCharged t (.failed domain count (circular (target t))) = false := by
  simp [isCharged]

@[simp] lemma isCharged_overLimit (t : Term) (domain : String) (count : UInt32) :
    isCharged t (.failed domain count (overLimit (target t))) = true := by
  simp [isCharged]

@[simp] lemma isCharged_fetched (t : Term) (domain : String) (count : UInt32)
    (answer : TxtAnswer) (entries : List Entry) :
    isCharged t (.node (findingFor domain answer count) entries) = true := by
  simp [isCharged]

@[simp] lemma moments_failed (domain : String) (count : UInt32) (message : String) :
    moments (.failed domain count message) = [.completed (.failed domain count message)] := rfl

section Moments

variable {t : Term} {domain message : String} {count : UInt32} {finding : Finding}
  (children entries : List Entry)

lemma momentsOfEntries_plain_of_takesLookup (h : t.kind.takesLookup = true) :
    momentsOfEntries (.plain t :: entries) = .charge :: momentsOfEntries entries := by
  rw [momentsOfEntries, momentsOfEntry, if_pos h, List.singleton_append]

lemma momentsOfEntries_plain_of_not_takesLookup (h : t.kind.takesLookup = false) :
    momentsOfEntries (.plain t :: entries) = momentsOfEntries entries := by
  rw [momentsOfEntries, momentsOfEntry, if_neg (Bool.eq_false_iff.1 h), List.nil_append]

lemma momentsOfEntries_failed_of_isCharged
    (h : isCharged t (.failed domain count message) = true) :
    momentsOfEntries (.expanded t (.failed domain count message) :: entries) =
      .charge :: .completed (.failed domain count message) :: momentsOfEntries entries := by
  rw [momentsOfEntries, momentsOfEntry, if_pos h, moments_failed, List.singleton_append,
    List.cons_append, List.singleton_append]

lemma momentsOfEntries_failed_of_not_isCharged
    (h : isCharged t (.failed domain count message) = false) :
    momentsOfEntries (.expanded t (.failed domain count message) :: entries) =
      .completed (.failed domain count message) :: momentsOfEntries entries := by
  rw [momentsOfEntries, momentsOfEntry, if_neg (Bool.eq_false_iff.1 h), moments_failed,
    List.nil_append, List.singleton_append]

lemma momentsOfEntries_node_of_isCharged (h : isCharged t (.node finding children) = true) :
    momentsOfEntries (.expanded t (.node finding children) :: entries) =
      .charge :: (momentsOfEntries children ++
        .completed (.node finding children) :: momentsOfEntries entries) := by
  rw [momentsOfEntries, momentsOfEntry, if_pos h, moments, List.singleton_append,
    List.cons_append, List.append_assoc, List.singleton_append]

end Moments

variable {ctx ctx' : Context} {c : Nat}

lemma count_charge_of_eq_min (hc : ctx.count = min (maxLookups + 1) c) :
    ctx.charge.count = min (maxLookups + 1) (c + 1) := by
  rw [Context.count_charge_of_le (by omega)]
  omega

/-- A node that is completed in a context whose count is as far as the counter goes. -/
lemma toNat_lookupCount_of_eq_min (hc : ctx.count = min (maxLookups + 1) c) :
    ctx.lookupCount.toNat = min (maxLookups + 1) c := by
  rw [Context.toNat_lookupCount (by omega), hc]

/-- The moments of a traversal are counted, and their charges are those of the context. -/
lemma Traversal.counted {ts : List Term} {steps : List Step} {entries : List Entry}
    (h : Traversal ts ctx steps entries ctx') (hc : ctx.count = min (maxLookups + 1) c) :
    Counted c (momentsOfEntries entries) ∧
      ctx'.count = min (maxLookups + 1) (c + charges (momentsOfEntries entries)) := by
  induction h generalizing c with
  | nil ctx => exact ⟨trivial, by simpa [momentsOfEntries] using hc⟩
  | free href hcost _ ih =>
      rw [momentsOfEntries_plain_of_not_takesLookup _ hcost]
      exact ih hc
  | charged href hcost _ ih =>
      obtain ⟨hcounted, hcount⟩ := ih (count_charge_of_eq_min hc)
      rw [momentsOfEntries_plain_of_takesLookup _ hcost, charges_charge]
      exact ⟨hcounted, by omega⟩
  | missing href hempty _ ih =>
      obtain ⟨hcounted, hcount⟩ := ih hc
      rw [momentsOfEntries_failed_of_not_isCharged _ (isCharged_missing _ _ _), charges_completed]
      exact ⟨⟨toNat_lookupCount_of_eq_min hc, hcounted⟩, hcount⟩
  | circular href hne hmem _ ih =>
      obtain ⟨hcounted, hcount⟩ := ih hc
      rw [momentsOfEntries_failed_of_not_isCharged _ (isCharged_circular _ _ _), charges_completed]
      exact ⟨⟨toNat_lookupCount_of_eq_min hc, hcounted⟩, hcount⟩
  | overLimit href hne hmem hlimit _ ih =>
      have hcharge := count_charge_of_eq_min hc
      obtain ⟨hcounted, hcount⟩ := ih hcharge
      rw [momentsOfEntries_failed_of_isCharged _ (isCharged_overLimit _ _ _), charges_charge,
        charges_completed]
      exact ⟨⟨toNat_lookupCount_of_eq_min hcharge, hcounted⟩, by omega⟩
  | @followed t ts ctx ctx₁ ctx' answer inner steps children entries href hne hmem hlimit _ _
      ihterms ih =>
      -- the charge comes before the terms of the target, the completion after them
      have hcharge := count_charge_of_eq_min hc
      rw [← Context.count_mark _ (target t)] at hcharge
      obtain ⟨hinner, hcount₁⟩ := ihterms hcharge
      obtain ⟨hcounted, hcount⟩ := ih hcount₁
      rw [momentsOfEntries_node_of_isCharged _ _ (isCharged_fetched _ _ _ _ _), charges_charge,
        charges_append, charges_completed]
      refine ⟨?_, by omega⟩
      rw [Counted, Counted.append_iff]
      refine ⟨hinner, ?_, hcounted⟩
      rw [Report.finding_node, lookupCount_findingFor]
      exact toNat_lookupCount_of_eq_min hcount₁

/-- Nothing but its completion happens at a reference that is not charged for. -/
lemma Traversal.momentsOfEntry_of_not_isCharged {ts : List Term} {steps : List Step}
    {entries : List Entry} (h : Traversal ts ctx steps entries ctx') :
    ∀ p ∈ referencesOfEntries entries, isCharged p.1 p.2 = false →
      momentsOfEntry (.expanded p.1 p.2) = [.completed p.2] := by
  induction h with
  | nil ctx => simp [referencesOfEntries]
  | free _ _ _ ih => exact ih
  | charged _ _ _ ih => exact ih
  | missing _ _ _ ih =>
      intro p hp hcharge
      rcases List.mem_cons.1 hp with rfl | hp
      · simp [momentsOfEntry]
      · exact ih p hp hcharge
  | circular _ _ _ _ ih =>
      intro p hp hcharge
      rcases List.mem_cons.1 hp with rfl | hp
      · simp [momentsOfEntry]
      · exact ih p hp hcharge
  | overLimit _ _ _ _ _ ih =>
      intro p hp hcharge
      rcases List.mem_cons.1 hp with rfl | hp
      · simp at hcharge
      · exact ih p hp hcharge
  | followed _ _ _ _ _ _ ihterms ih =>
      intro p hp hcharge
      rw [referencesOfEntries, referencesOfEntry, references, List.cons_append, List.mem_cons,
        List.mem_append] at hp
      rcases hp with rfl | hp | hp
      · simp at hcharge
      · exact ihterms p hp hcharge
      · exact ih p hp hcharge

/-- The lookup counts of a report that is made from a context with at most one lookup more than
the limit.

A node shows the count of the context and the charges up to its completion, as far as the counter
goes; the nodes that are completed are those of the report.  Hence the counts do not go down from
one completion to the next, a node shows no greater count than one above it, and the root shows the
count at the end.  At a reference that names no domain, or one that was fetched before, nothing
happens but its completion. -/
theorem lookupCount_of_nodes {domain : String} {events : List (String × TxtAnswer)}
    {report : Report} (hc : ctx.count ≤ maxLookups + 1)
    (h : Run (lookup domain ctx) events (report, ctx')) :
    (∀ before n after, moments report = before ++ .completed n :: after →
      n.finding.lookupCount.toNat = min (maxLookups + 1) (ctx.count + charges before)) ∧
    (completions (moments report)).Perm report.nodes ∧
    ((completions (moments report)).map fun n => n.finding.lookupCount.toNat).Pairwise (· ≤ ·) ∧
    (∀ n ∈ report.nodes, ∀ m ∈ n.nodes,
      m.finding.lookupCount.toNat ≤ n.finding.lookupCount.toNat) ∧
    report.finding.lookupCount.toNat = ctx'.count ∧
    (∀ p ∈ references report, fate p.1 p.2 = .missing ∨ fate p.1 p.2 = .circular →
      momentsOfEntry (.expanded p.1 p.2) = [.completed p.2]) := by
  obtain ⟨steps, hfetch, -⟩ := run_lookup_iff_exists_fetch.1 h
  cases hfetch with
  | @intro answer steps entries _ terms =>
      obtain ⟨hinner, hcount⟩ := terms.counted (c := ctx.count) (by omega)
      have hroot := toNat_lookupCount_of_eq_min hcount
      have hcounted : Counted ctx.count
          (moments (.node (findingFor domain answer ctx'.lookupCount) entries)) := by
        rw [moments, Counted.append_iff]
        refine ⟨hinner, ?_, trivial⟩
        rw [Report.finding_node, lookupCount_findingFor]
        exact hroot
      refine ⟨fun _ _ _ heq => hcounted.lookupCount_eq heq, completions_moments _,
        hcounted.pairwise.1, fun n hn m hm => hcounted.lookupCount_le hn hm, ?_, ?_⟩
      · rw [Report.finding_node, lookupCount_findingFor, hroot, hcount]
      · intro p hp hfate
        refine terms.momentsOfEntry_of_not_isCharged p hp ?_
        rcases hfate with hfate | hfate
        · simp [isCharged, hfate]
        · simp [isCharged, hfate]

/-- The root of a report with a cycle shows the count at the end. -/
theorem lookupCount_of_ring :
    Context.empty.count ≤ maxLookups + 1 ∧
      ((lookup "b" .empty).run ring).1.finding.lookupCount.toNat =
        ((lookup "b" .empty).run ring).2.count ∧
      ((lookup "b" .empty).run ring).2.count = 3 := by
  have hc : Context.empty.count ≤ maxLookups + 1 := Nat.zero_le _
  obtain ⟨-, -, -, -, hroot, -⟩ :=
    lookupCount_of_nodes hc (Inquiry.run_of_fixed ring (lookup "b" .empty))
  exact ⟨hc, hroot, by decide +kernel⟩

end Lookup

end SenderPolicy
