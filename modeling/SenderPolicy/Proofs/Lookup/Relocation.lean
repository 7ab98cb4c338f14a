/-
A record costs the same wherever it is included.

The budget is looked at in one place only: before a reference is followed.  As long as the limit is
not passed every such look has the same outcome, whatever the count was at the start, and the counts
that reports show are all moved by the same number.  So a lookup that ends within the limit can be
taken to a context with fewer charges: it does the same steps, and its report shows counts that are
smaller by the number of charges that are missing (`Lookup.Traversal.lowered`).

That the limit is not passed at the end is all that has to be known, since counts do not go down.
-/
import SenderPolicy.Proofs.Lookup.Accounting

namespace SenderPolicy

/-! ### Fewer charges -/

/-- The context with a number of charges fewer. -/
def Context.lowered (d : Nat) (ctx : Context) : Context := { ctx with count := ctx.count - d }

/-- The finding with a count that is smaller by a number of charges. -/
def Finding.lowered (d : Nat) (f : Finding) : Finding :=
  { f with lookupCount := UInt32.ofNat (f.lookupCount.toNat - d) }

/-- The report with counts that are smaller by a number of charges, at every depth. -/
def Report.lowered (d : Nat) (r : Report) : Report := r.map (Finding.lowered d)

/-- The entries with counts that are smaller by a number of charges below them. -/
def Report.loweredEntries (d : Nat) (entries : List Entry) : List Entry :=
  mapEntries (Finding.lowered d) entries

namespace Context

variable {ctx : Context} {d : Nat}

/-- A charge that is within the limit is one without the others as well. -/
lemma charge_lowered (hd : d ≤ ctx.count) (hlimit : ctx.charge.count ≤ maxLookups) :
    (ctx.lowered d).charge = ctx.charge.lowered d := by
  obtain ⟨-, hlt⟩ := count_charge_of_isWithinLimit (isWithinLimit_iff.2 hlimit)
  have hcharge : ctx.charge = { ctx with count := ctx.count + 1 } := if_neg (by omega)
  have hfewer : ¬ (ctx.lowered d).count > maxLookups := by
    simp only [lowered]
    omega
  have hcount : ctx.count - d + 1 = ctx.count + 1 - d := by omega
  rw [charge, if_neg hfewer, hcharge]
  exact congrArg (Context.mk · ctx.visited) hcount

lemma mark_lowered (domain : String) : (ctx.lowered d).mark domain = (ctx.mark domain).lowered d := by
  unfold mark
  split <;> rename_i h
  · rw [if_pos (show ctx.isVisited domain = true from h)]
  · rw [if_neg (show ¬ ctx.isVisited domain = true from h)]
    rfl

lemma isWithinLimit_lowered (h : ctx.isWithinLimit = true) :
    (ctx.lowered d).isWithinLimit = true := by
  rw [isWithinLimit_iff] at h ⊢
  exact Nat.le_trans (Nat.sub_le _ _) h

lemma lookupCount_lowered (h : ctx.count ≤ maxLookups) :
    UInt32.ofNat (ctx.lookupCount.toNat - d) = (ctx.lowered d).lookupCount := by
  rw [toNat_lookupCount (Nat.le_succ_of_le h)]
  rfl

end Context

namespace Lookup

variable {ctx ctx' : Context} {d : Nat} {ts : List Term} {steps : List Step}
  {entries : List Entry} {domain message : String} {report : Report}

lemma lowered_failed (h : ctx.count ≤ maxLookups) :
    (Report.failed domain ctx.lookupCount message).lowered d =
      .failed domain (ctx.lowered d).lookupCount message := by
  rw [← Context.lookupCount_lowered h]
  rfl

lemma lowered_findingFor (answer : TxtAnswer) (h : ctx.count ≤ maxLookups) :
    (findingFor domain answer ctx.lookupCount).lowered d =
      findingFor domain answer (ctx.lowered d).lookupCount := by
  rw [← Context.lookupCount_lowered h]
  unfold findingFor
  split <;> rfl

lemma loweredEntries_expanded (t : Term) (r : Report) :
    Report.loweredEntries d (.expanded t r :: entries) =
      .expanded t (r.lowered d) :: Report.loweredEntries d entries := rfl

/-! ### Traversals -/

/-- A traversal that ends within the limit does the same steps with fewer charges at its start. -/
lemma Traversal.lowered (h : Traversal ts ctx steps entries ctx') (hd : d ≤ ctx.count)
    (hend : ctx'.count ≤ maxLookups) :
    Traversal ts (ctx.lowered d) steps (Report.loweredEntries d entries) (ctx'.lowered d) := by
  induction h with
  | nil ctx => exact .nil _
  | free href hcost _ ih => exact .free href hcost (ih hd hend)
  | @charged t ts ctx _ _ _ href hcost rest ih =>
      have hcharge := Nat.le_trans rest.extends_context.count_le hend
      have hle := Nat.le_trans hd (Context.Extends.charge ctx).count_le
      refine .charged href hcost ?_
      rw [Context.charge_lowered hd hcharge]
      exact ih hle hend
  | missing href hempty rest ih =>
      have hcount := Nat.le_trans rest.extends_context.count_le hend
      rw [loweredEntries_expanded, lowered_failed hcount]
      exact .missing href hempty (ih hd hend)
  | circular href hne hmem rest ih =>
      have hcount := Nat.le_trans rest.extends_context.count_le hend
      rw [loweredEntries_expanded, lowered_failed hcount]
      exact .circular href hne hmem (ih hd hend)
  | overLimit href hne hmem hlimit rest ih =>
      -- the limit would be passed at the end as well
      have hpassed := Context.maxLookups_lt_count_charge hlimit
      have hle := rest.extends_context.count_le
      omega
  | @followed t ts ctx ctx₁ ctx' answer inner steps children entries href hne hmem hlimit terms
      rest ihterms ih =>
      have hcount₁ := Nat.le_trans rest.extends_context.count_le hend
      have hcharge := Context.isWithinLimit_iff.1 hlimit
      have hle : d ≤ (ctx.charge.mark (target t)).count := by
        rw [Context.count_mark]
        exact Nat.le_trans hd (Context.Extends.charge ctx).count_le
      have hle₁ := Nat.le_trans hle terms.extends_context.count_le
      have hinner := ihterms hle hcount₁
      rw [← Context.mark_lowered, ← Context.charge_lowered hd hcharge] at hinner
      have hlimit' : (ctx.lowered d).charge.isWithinLimit = true := by
        rw [Context.charge_lowered hd hcharge]
        exact Context.isWithinLimit_lowered hlimit
      rw [loweredEntries_expanded, Report.lowered, Report.map, lowered_findingFor answer hcount₁]
      exact .followed href hne hmem hlimit' hinner (ih hle₁ hend)

lemma Fetch.lowered (h : Fetch domain ctx steps report ctx') (hd : d ≤ ctx.count)
    (hend : ctx'.count ≤ maxLookups) :
    Fetch domain (ctx.lowered d) steps (report.lowered d) (ctx'.lowered d) := by
  cases h with
  | intro terms =>
      rw [Report.lowered, Report.map, lowered_findingFor _ hend]
      exact .intro (terms.lowered hd hend)

/-- No node shows fewer charges than there were at the start. -/
lemma Fetch.count_le (h : Fetch domain ctx steps report ctx') (hend : ctx'.count ≤ maxLookups) :
    ctx.count ≤ ctx'.count ∧ ∀ n ∈ report.nodes, ctx.count ≤ n.finding.lookupCount.toNat := by
  have hle : ctx.count ≤ ctx'.count := by
    rw [← h.after_steps]
    exact (extends_after ctx steps).count_le
  have hroot := h.toNat_lookupCount (by omega)
  refine ⟨hle, fun n hn => ?_⟩
  cases h with
  | @intro answer steps entries _ terms =>
      rw [Report.nodes, List.mem_cons] at hn
      rcases hn with rfl | hn
      · omega
      · -- the counts of the nodes below start from that of the context
        obtain ⟨hcounted, -⟩ := terms.counted (c := ctx.count) (by omega)
        have hmin := hcounted.pairwise.2 n ((completions_momentsOfEntries entries).mem_iff.2 hn)
        omega

/-- The cost of a record does not depend on where it is included.

A lookup that ends within the limit is taken to a context with the same visited domains and with
fewer charges.  It asks for the same domains in the same order, ends with the same visited domains,
and its count and those of its report are smaller by exactly the number of charges that are missing;
else its report is the same. -/
theorem run_lookup_of_fewer_charges {resolve : String → TxtAnswer} {visited : List String}
    {c₁ c₂ : Nat} (hle : c₁ ≤ c₂)
    (h : (lookup domain ⟨c₂, visited⟩).run resolve = (report, ctx))
    (hend : ctx.count ≤ maxLookups) :
    (lookup domain ⟨c₁, visited⟩).queries resolve = (lookup domain ⟨c₂, visited⟩).queries resolve ∧
    (lookup domain ⟨c₁, visited⟩).run resolve =
      (report.lowered (c₂ - c₁), { ctx with count := ctx.count - (c₂ - c₁) }) ∧
    c₂ - c₁ ≤ ctx.count ∧ ∀ n ∈ report.nodes, c₂ - c₁ ≤ n.finding.lookupCount.toNat := by
  have hrun := Inquiry.run_of_fixed resolve (lookup domain ⟨c₂, visited⟩)
  rw [h] at hrun
  obtain ⟨steps, hfetch, hquestions⟩ := run_lookup_iff_exists_fetch.1 hrun
  have hstart : Context.lowered (c₂ - c₁) ⟨c₂, visited⟩ = ⟨c₁, visited⟩ :=
    congrArg (Context.mk · visited) (Nat.sub_sub_self hle)
  have hlowered := hfetch.lowered (Nat.sub_le c₂ c₁) hend
  rw [hstart] at hlowered
  -- the same steps are those of the run with fewer charges, and there is only one such run
  obtain ⟨hqueries, hvalue⟩ :=
    (run_lookup_iff_exists_fetch.2 ⟨steps, hlowered, hquestions⟩).eq_of_queries
  obtain ⟨hcount, hnodes⟩ := hfetch.count_le hend
  have hle' : c₂ - c₁ ≤ c₂ := Nat.sub_le c₂ c₁
  exact ⟨hqueries, hvalue, Nat.le_trans hle' hcount,
    fun n hn => Nat.le_trans hle' (hnodes n hn)⟩

/-- A record with a nested reference and a cycle, looked up after seven charges and after two. -/
theorem run_lookup_of_fewer_charges_ring :
    2 ≤ 7 ∧ ((lookup "b" ⟨7, ["b"]⟩).run ring).2.count ≤ maxLookups ∧
      (lookup "b" ⟨2, ["b"]⟩).queries ring = ["b", "c"] ∧
      ((lookup "b" ⟨2, ["b"]⟩).run ring).1 = ((lookup "b" ⟨7, ["b"]⟩).run ring).1.lowered 5 ∧
      ((lookup "b" ⟨2, ["b"]⟩).run ring).2 = ⟨4, ["c", "b"]⟩ := by
  have hle : 2 ≤ 7 := by decide
  have hcontext : ((lookup "b" ⟨7, ["b"]⟩).run ring).2 = ⟨9, ["c", "b"]⟩ := by decide +kernel
  have hend : ((lookup "b" ⟨7, ["b"]⟩).run ring).2.count ≤ maxLookups := by
    rw [hcontext]
    decide
  obtain ⟨hqueries, hrun, -, -⟩ := run_lookup_of_fewer_charges hle (Prod.eta _).symm hend
  refine ⟨hle, hend, ?_, ?_, ?_⟩
  · rw [hqueries]
    decide +kernel
  · rw [hrun]
  · rw [hrun, hcontext]
    rfl

end Lookup

end SenderPolicy
