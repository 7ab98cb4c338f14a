/-
What a validation can do to its context.

The count of a context only goes up, one lookup at a time, and stops one above the limit; the
visited domains only become more.  A validation charges a lookup before it follows a reference,
so a context in which a reference is followed has fewer lookups remaining than the one before.
-/
import Mathlib.Tactic.Lemma
import SenderPolicy.Lookup

namespace SenderPolicy

namespace Context

variable {ctx ctx₁ ctx₂ ctx₃ : Context} {domain : String}

/-! ### Charging and marking -/

lemma isVisited_iff : ctx.isVisited domain = true ↔ domain ∈ ctx.visited := by
  simp [isVisited]

lemma isWithinLimit_iff : ctx.isWithinLimit = true ↔ ctx.count ≤ maxLookups := by
  simp [isWithinLimit]

lemma count_charge (ctx : Context) :
    ctx.charge.count = if ctx.count > maxLookups then ctx.count else ctx.count + 1 := by
  unfold charge
  split <;> rfl

lemma count_charge_of_le (h : ctx.count ≤ maxLookups + 1) :
    ctx.charge.count = min (maxLookups + 1) (ctx.count + 1) := by
  rw [count_charge]
  split <;> omega

@[simp] lemma visited_charge (ctx : Context) : ctx.charge.visited = ctx.visited := by
  unfold charge
  split <;> rfl

@[simp] lemma count_mark (ctx : Context) (domain : String) :
    (ctx.mark domain).count = ctx.count := by
  unfold mark
  split <;> rfl

lemma mem_visited_mark {x : String} :
    x ∈ (ctx.mark domain).visited ↔ x = domain ∨ x ∈ ctx.visited := by
  unfold mark
  split
  · rename_i h
    rw [isVisited_iff] at h
    constructor
    · exact Or.inr
    · rintro (rfl | hx)
      · exact h
      · exact hx
  · exact List.mem_cons

/-- Within the limit, a charge is one lookup more. -/
lemma count_charge_of_isWithinLimit (h : ctx.charge.isWithinLimit = true) :
    ctx.charge.count = ctx.count + 1 ∧ ctx.count < maxLookups := by
  rw [isWithinLimit_iff, count_charge] at h
  rw [count_charge]
  split at h <;> rename_i hc
  · omega
  · rw [if_neg hc]
    omega

/-- A charge that is not within the limit finds or makes the count one above the limit. -/
lemma maxLookups_lt_count_charge (h : ctx.charge.isWithinLimit = false) :
    maxLookups < ctx.charge.count := by
  have h' : ¬ ctx.charge.count ≤ maxLookups := fun hle => by
    rw [isWithinLimit_iff.2 hle] at h
    cases h
  omega

/-- If a charge is not within the limit, there was none left. -/
lemma maxLookups_le_of_not_isWithinLimit (h : ctx.charge.isWithinLimit = false) :
    maxLookups ≤ ctx.count := by
  have hlt := maxLookups_lt_count_charge h
  rw [count_charge] at hlt
  split at hlt <;> omega

/-- The count of a context as a report shows it is the count itself. -/
lemma toNat_lookupCount (h : ctx.count ≤ maxLookups + 1) :
    ctx.lookupCount.toNat = ctx.count := by
  have h32 : ctx.count < 2 ^ 32 := by
    simp only [maxLookups] at h
    omega
  rw [lookupCount, UInt32.toNat_ofNat_of_lt' h32]

/-! ### Contexts grow -/

/-- A context that may come later than another one in the same validation: the count has not gone
down, and no visited domain is forgotten. -/
structure Extends (earlier later : Context) : Prop where
  count_le : earlier.count ≤ later.count
  visited_subset : earlier.visited ⊆ later.visited

namespace Extends

lemma refl (ctx : Context) : ctx.Extends ctx := ⟨Nat.le_refl _, List.Subset.refl _⟩

lemma trans (h₁ : ctx₁.Extends ctx₂) (h₂ : ctx₂.Extends ctx₃) : ctx₁.Extends ctx₃ :=
  ⟨Nat.le_trans h₁.count_le h₂.count_le, List.Subset.trans h₁.visited_subset h₂.visited_subset⟩

lemma charge (ctx : Context) : ctx.Extends ctx.charge := by
  refine ⟨?_, ?_⟩
  · rw [count_charge]
    split <;> omega
  · rw [visited_charge]
    exact List.Subset.refl _

lemma mark (ctx : Context) (domain : String) : ctx.Extends (ctx.mark domain) :=
  ⟨Nat.le_of_eq (count_mark ctx domain).symm, fun _ hx => mem_visited_mark.2 (Or.inr hx)⟩

lemma remaining_le (h : ctx₁.Extends ctx₂) : ctx₂.remaining ≤ ctx₁.remaining := by
  have := h.count_le
  simp only [remaining]
  omega

end Extends

/-- Where a reference is followed, fewer lookups remain than before it. -/
lemma remaining_charge_mark_lt (domain : String) (h : ctx.charge.isWithinLimit = true) :
    (ctx.charge.mark domain).remaining < ctx.remaining := by
  obtain ⟨hcount, hlt⟩ := count_charge_of_isWithinLimit h
  simp only [remaining, count_mark]
  omega

end Context

end SenderPolicy
