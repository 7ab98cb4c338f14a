/-
The bound on the depth restricts nothing.

`Lookup.visitWithin` carries a bound on the depth of references so that it is a definition by
recursion on a number.  Every reference that is followed has been charged for, so below it fewer
lookups remain than above it (`Context.remaining_charge_mark_lt`), and a bound that is not smaller
than the number of remaining lookups is never reached.  Hence all such bounds give the same
inquiry (`Lookup.visitWithin_congr`), and `lookup` satisfies the recursion that one would write
down without a bound (`lookup_eq`).
-/
import SenderPolicy.Proofs.Inquiry.Runs
import SenderPolicy.Proofs.Lookup.Answer
import SenderPolicy.Proofs.Lookup.Context

namespace SenderPolicy

namespace Lookup

open Inquiry (Run run_done_iff run_ask_iff run_bind_iff bind_congr_of_run)

variable {visit visit' : Visit} {t : Term} {ts : List Term} {ctx ctx' : Context}

/-! ### What is done with a reference -/

lemma follow_eq (visit : Visit) (t : Term) (ctx : Context) :
    follow visit t ctx =
      if target t = "" then
        .done (.failed (target t) ctx.lookupCount (noTarget t.kind), ctx)
      else if ctx.isVisited (target t) then
        .done (.failed (target t) ctx.lookupCount (circular (target t)), ctx)
      else if ctx.charge.isWithinLimit then visit (target t) (ctx.charge.mark (target t))
      else
        .done (.failed (target t) ctx.charge.lookupCount (overLimit (target t)), ctx.charge) := rfl

lemma follow_of_eq_empty (h : target t = "") :
    follow visit t ctx =
      .done (.failed (target t) ctx.lookupCount (noTarget t.kind), ctx) := by
  rw [follow_eq, if_pos h]

lemma follow_of_mem (h : target t ≠ "") (hv : target t ∈ ctx.visited) :
    follow visit t ctx =
      .done (.failed (target t) ctx.lookupCount (circular (target t)), ctx) := by
  rw [follow_eq, if_neg h, if_pos (Context.isVisited_iff.2 hv)]

lemma follow_of_overLimit (h : target t ≠ "") (hv : target t ∉ ctx.visited)
    (hl : ctx.charge.isWithinLimit = false) :
    follow visit t ctx = .done (.failed (target t) ctx.charge.lookupCount
      (overLimit (target t)), ctx.charge) := by
  rw [follow_eq, if_neg h, if_neg (mt Context.isVisited_iff.1 hv), if_neg (by simp [hl])]

lemma follow_of_isWithinLimit (h : target t ≠ "") (hv : target t ∉ ctx.visited)
    (hl : ctx.charge.isWithinLimit = true) :
    follow visit t ctx = visit (target t) (ctx.charge.mark (target t)) := by
  rw [follow_eq, if_neg h, if_neg (mt Context.isVisited_iff.1 hv), if_pos hl]

/-- What following a reference can come to. -/
lemma run_follow_cases {events : List (String × TxtAnswer)} {report : Report}
    (h : Run (follow visit t ctx) events (report, ctx')) :
    (target t = "" ∧ events = [] ∧ ctx' = ctx ∧
        report = .failed (target t) ctx.lookupCount (noTarget t.kind)) ∨
      (target t ≠ "" ∧ target t ∈ ctx.visited ∧ events = [] ∧ ctx' = ctx ∧
        report = .failed (target t) ctx.lookupCount (circular (target t))) ∨
      (target t ≠ "" ∧ target t ∉ ctx.visited ∧ ctx.charge.isWithinLimit = false ∧
        events = [] ∧ ctx' = ctx.charge ∧
        report = .failed (target t) ctx.charge.lookupCount (overLimit (target t))) ∨
      (target t ≠ "" ∧ target t ∉ ctx.visited ∧ ctx.charge.isWithinLimit = true ∧
        Run (visit (target t) (ctx.charge.mark (target t))) events (report, ctx')) := by
  by_cases hempty : target t = ""
  · rw [follow_of_eq_empty hempty, run_done_iff] at h
    obtain ⟨hevents, heq⟩ := h
    exact Or.inl ⟨hempty, hevents, (Prod.mk.inj heq).2, (Prod.mk.inj heq).1⟩
  by_cases hmem : target t ∈ ctx.visited
  · rw [follow_of_mem hempty hmem, run_done_iff] at h
    obtain ⟨hevents, heq⟩ := h
    exact Or.inr (Or.inl ⟨hempty, hmem, hevents, (Prod.mk.inj heq).2, (Prod.mk.inj heq).1⟩)
  cases hl : ctx.charge.isWithinLimit with
  | false =>
      rw [follow_of_overLimit hempty hmem hl, run_done_iff] at h
      obtain ⟨hevents, heq⟩ := h
      exact Or.inr (Or.inr (Or.inl
        ⟨hempty, hmem, rfl, hevents, (Prod.mk.inj heq).2, (Prod.mk.inj heq).1⟩))
  | true =>
      rw [follow_of_isWithinLimit hempty hmem hl] at h
      exact Or.inr (Or.inr (Or.inr ⟨hempty, hmem, rfl, h⟩))

/-! ### What is done with the terms of a record -/

lemma walk_cons_of_isReference (h : t.kind.isReference = true) :
    walk visit (t :: ts) ctx = (do
      let (report, ctx) ← follow visit t ctx
      let (entries, ctx) ← walk visit ts ctx
      return (.expanded t report :: entries, ctx)) := by
  rw [walk, if_pos h]

lemma walk_cons_of_not_isReference (h : t.kind.isReference = false) :
    walk visit (t :: ts) ctx = (do
      let (entries, ctx) ← walk visit ts (if t.kind.takesLookup then ctx.charge else ctx)
      return (.plain t :: entries, ctx)) := by
  rw [walk, if_neg (by simp [h])]

lemma run_walk_cons_of_isReference (href : t.kind.isReference = true)
    {events : List (String × TxtAnswer)} {entries : List Entry}
    (h : Run (walk visit (t :: ts) ctx) events (entries, ctx')) :
    ∃ first second report ctx₁ rest, events = first ++ second ∧
      entries = .expanded t report :: rest ∧ Run (follow visit t ctx) first (report, ctx₁) ∧
      Run (walk visit ts ctx₁) second (rest, ctx') := by
  rw [walk_cons_of_isReference href] at h
  obtain ⟨first, _, ⟨report, ctx₁⟩, rfl, hfollow, hrest⟩ := run_bind_iff.1 h
  obtain ⟨second, _, ⟨rest, ctx₂⟩, rfl, hwalk, hdone⟩ := run_bind_iff.1 hrest
  obtain ⟨rfl, heq⟩ := run_done_iff.1 hdone
  obtain ⟨rfl, rfl⟩ := Prod.mk.inj heq
  exact ⟨first, second, report, ctx₁, rest, by simp, rfl, hfollow, hwalk⟩

lemma run_walk_cons_of_not_isReference (href : t.kind.isReference = false)
    {events : List (String × TxtAnswer)} {entries : List Entry}
    (h : Run (walk visit (t :: ts) ctx) events (entries, ctx')) :
    ∃ rest, entries = .plain t :: rest ∧
      Run (walk visit ts (if t.kind.takesLookup then ctx.charge else ctx)) events
        (rest, ctx') := by
  rw [walk_cons_of_not_isReference href] at h
  obtain ⟨first, _, ⟨rest, ctx₂⟩, rfl, hwalk, hdone⟩ := run_bind_iff.1 h
  obtain ⟨rfl, heq⟩ := run_done_iff.1 hdone
  obtain ⟨rfl, rfl⟩ := Prod.mk.inj heq
  exact ⟨rest, rfl, by simpa using hwalk⟩

/-! ### Contexts grow -/

/-- A way of continuing with a domain that can only add to the context. -/
def Visit.Grows (visit : Visit) : Prop :=
  ∀ domain ctx events report ctx', Run (visit domain ctx) events (report, ctx') →
    ctx.Extends ctx'

lemma follow_extends (hv : visit.Grows) {events : List (String × TxtAnswer)} {report : Report}
    (h : Run (follow visit t ctx) events (report, ctx')) : ctx.Extends ctx' := by
  rcases run_follow_cases h with ⟨-, -, rfl, -⟩ | ⟨-, -, -, rfl, -⟩ | ⟨-, -, -, -, rfl, -⟩ |
    ⟨-, -, -, hvisit⟩
  · exact .refl _
  · exact .refl _
  · exact .charge ctx
  · exact ((Context.Extends.charge ctx).trans (.mark _ _)).trans (hv _ _ _ _ _ hvisit)

lemma walk_extends (hv : visit.Grows) {events : List (String × TxtAnswer)}
    {entries : List Entry} (h : Run (walk visit ts ctx) events (entries, ctx')) :
    ctx.Extends ctx' := by
  induction ts generalizing ctx events entries with
  | nil =>
      obtain ⟨-, heq⟩ := run_done_iff.1 h
      rw [(Prod.mk.inj heq).2]
      exact .refl ctx
  | cons t ts ih =>
      cases href : t.kind.isReference with
      | true =>
          obtain ⟨_, _, _, ctx₁, _, -, -, hfollow, hwalk⟩ := run_walk_cons_of_isReference href h
          exact (follow_extends hv hfollow).trans (ih hwalk)
      | false =>
          obtain ⟨_, -, hwalk⟩ := run_walk_cons_of_not_isReference href h
          refine Context.Extends.trans ?_ (ih hwalk)
          split
          · exact .charge ctx
          · exact .refl ctx

/-! ### The bound on the depth -/

lemma examine_extends (hv : visit.Grows) {domain : String} {answer : TxtAnswer}
    {events : List (String × TxtAnswer)} {report : Report}
    (h : Run (examine visit domain answer ctx) events (report, ctx')) : ctx.Extends ctx' := by
  rw [examine_eq] at h
  obtain ⟨_, _, ⟨entries, ctx₁⟩, -, hwalk, hdone⟩ := run_bind_iff.1 h
  obtain ⟨-, heq⟩ := run_done_iff.1 hdone
  rw [(Prod.mk.inj heq).2]
  exact walk_extends hv hwalk

/-- What is done with the references of a domain that is visited within a depth. -/
def below : Nat → Visit
  | 0 => fun target ctx => .done (.failed target ctx.lookupCount (overLimit target), ctx)
  | depth + 1 => visitWithin depth

lemma visitWithin_eq (depth : Nat) (domain : String) (ctx : Context) :
    visitWithin depth domain ctx =
      .ask domain fun answer => examine (below depth) domain answer ctx := by
  cases depth <;> rfl

lemma below_grows (depth : Nat) : (below depth).Grows := by
  induction depth with
  | zero =>
      intro domain ctx events report ctx' h
      obtain ⟨-, heq⟩ := run_done_iff.1 h
      rw [(Prod.mk.inj heq).2]
      exact .refl ctx
  | succ depth ih =>
      intro domain ctx events report ctx' h
      rw [below, visitWithin_eq] at h
      obtain ⟨answer, rest, -, hexamine⟩ := run_ask_iff.1 h
      exact examine_extends ih hexamine

lemma walk_congr (hg : visit.Grows) {n : Nat}
    (h : ∀ domain ctx, ctx.remaining < n → visit domain ctx = visit' domain ctx) :
    ∀ (ts : List Term) (ctx : Context), ctx.remaining ≤ n →
      walk visit ts ctx = walk visit' ts ctx := by
  intro ts
  induction ts with
  | nil => intro ctx _; rfl
  | cons t ts ih =>
      intro ctx hctx
      cases href : t.kind.isReference with
      | true =>
          have hfollow : follow visit t ctx = follow visit' t ctx := by
            rw [follow_eq, follow_eq]
            split
            · rfl
            split
            · rfl
            split
            · rename_i hl
              exact h _ _ (Nat.lt_of_lt_of_le (Context.remaining_charge_mark_lt _ hl) hctx)
            · rfl
          rw [walk_cons_of_isReference href, walk_cons_of_isReference href, ← hfollow]
          -- what is left of the terms starts from a context that a run can reach
          refine bind_congr_of_run fun events p hp => ?_
          have hle := (follow_extends hg hp).remaining_le
          simp only [ih p.2 (Nat.le_trans hle hctx)]
      | false =>
          rw [walk_cons_of_not_isReference href, walk_cons_of_not_isReference href, ih]
          split
          · exact Nat.le_trans (Context.Extends.charge ctx).remaining_le hctx
          · exact hctx

lemma examine_congr (hg : visit.Grows)
    (h : ∀ domain ctx', ctx'.remaining < ctx.remaining → visit domain ctx' = visit' domain ctx')
    (domain : String) (answer : TxtAnswer) :
    examine visit domain answer ctx = examine visit' domain answer ctx := by
  rw [examine_eq, examine_eq, walk_congr hg h _ _ (Nat.le_refl _)]

/-- Bounds that are not smaller than the number of remaining lookups give the same inquiry. -/
lemma visitWithin_congr {n m : Nat} (domain : String) (ctx : Context)
    (hn : ctx.remaining ≤ n) (hm : ctx.remaining ≤ m) :
    visitWithin n domain ctx = visitWithin m domain ctx := by
  induction n generalizing m domain ctx with
  | zero =>
      rw [visitWithin_eq, visitWithin_eq]
      congr 1
      funext answer
      exact examine_congr (below_grows 0) (fun _ ctx' h => by omega) domain answer
  | succ n ih =>
      rw [visitWithin_eq, visitWithin_eq]
      congr 1
      funext answer
      refine examine_congr (below_grows _) (fun target ctx' h => ?_) domain answer
      cases m with
      | zero =>
          -- no lookups remain, so nothing is visited below
          omega
      | succ m => exact ih target ctx' (by omega) (by omega)

end Lookup

open Lookup

/-- The recursion of a lookup without any bound on the depth. -/
theorem lookup_eq (domain : String) (ctx : Context) :
    lookup domain ctx = .ask domain fun answer => examine lookup domain answer ctx := by
  unfold lookup
  rw [visitWithin_eq]
  congr 1
  funext answer
  refine examine_congr (below_grows _) (fun target ctx' h => ?_) domain answer
  cases hr : ctx.remaining with
  | zero => omega
  | succ n => exact visitWithin_congr target ctx' (by omega) (Nat.le_refl _)

end SenderPolicy
