/-
Tallies: how often each of a number of things happened.
-/
namespace SenderPolicy

/-- Counts by key, each key once. -/
structure Tally (α : Type) where
  entries : List (α × Nat) := []
  deriving Repr

namespace Tally

variable {α : Type} [DecidableEq α]

/-- The entries with one more for a key, which goes to the end if it is new. -/
def bump (key : α) : List (α × Nat) → List (α × Nat)
  | [] => [(key, 1)]
  | (k, n) :: rest => if k = key then (k, n + 1) :: rest else (k, n) :: bump key rest

/-- Counts one more for a key. -/
def add (t : Tally α) (key : α) : Tally α := { entries := bump key t.entries }

/-- Counts one more for every key of a list. -/
def addAll (t : Tally α) (keys : List α) : Tally α := keys.foldl add t

/-- The count of a key. -/
def count (t : Tally α) (key : α) : Nat := (t.entries.lookup key).getD 0

theorem lookup_bump (key k : α) (entries : List (α × Nat)) :
    ((bump key entries).lookup k).getD 0 =
      (entries.lookup k).getD 0 + if k = key then 1 else 0 := by
  induction entries with
  | nil =>
    rw [bump, List.lookup_cons, List.lookup_nil]
    by_cases h : k = key
    · simp [h]
    · simp [beq_false_of_ne h, h]
  | cons e rest ih =>
    obtain ⟨k', n⟩ := e
    by_cases h' : k' = key
    · subst h'
      rw [bump, if_pos rfl, List.lookup_cons, List.lookup_cons]
      by_cases h : k = k'
      · simp [h]
      · simp [beq_false_of_ne h, h]
    · rw [bump, if_neg h', List.lookup_cons, List.lookup_cons]
      by_cases h : k = k'
      · subst h
        simp [h']
      · simpa [beq_false_of_ne h] using ih

@[simp] theorem count_add (t : Tally α) (key k : α) :
    (t.add key).count k = t.count k + if k = key then 1 else 0 :=
  lookup_bump key k t.entries

/-- Adding a list of keys adds to each count how often the key is in the list. -/
theorem count_addAll (t : Tally α) (keys : List α) (k : α) :
    (t.addAll keys).count k = t.count k + keys.count k := by
  induction keys generalizing t with
  | nil => simp [addAll]
  | cons key keys ih =>
    have h : t.addAll (key :: keys) = (t.add key).addAll keys := rfl
    rw [h, ih, count_add, List.count_cons]
    by_cases hk : k = key
    · simp [hk]; omega
    · simp [hk, Ne.symm hk]

end Tally

end SenderPolicy
