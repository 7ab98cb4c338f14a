/-
Texts that are cut into fields, and texts that trimming leaves as they are.

Cutting a text at a separator loses nothing: put together again with the separator in between, the
fields are the text, so two texts with the same fields are equal.
-/
import Mathlib.Data.List.DropRight
import SenderPolicy.Text.Split

namespace SenderPolicy

namespace Text

variable {p : Char → Bool} {s : List Char}

/-! ### Ends of a text -/

/-- A text keeps its end if its last character does not satisfy the condition. -/
lemma dropEndWhile_eq_self (h : ∀ c ∈ s.getLast?, p c = false) : dropEndWhile p s = s := by
  change s.rdropWhile p = s
  refine List.rdropWhile_eq_self_iff.2 fun hne => ?_
  rw [h _ (List.getLast?_eq_some_getLast hne)]
  exact Bool.false_ne_true

/-- A text without blanks at its two ends stays as it is. -/
lemma trimmed_eq_self (hhead : ∀ c ∈ s.head?, isBlank c = false)
    (hlast : ∀ c ∈ s.getLast?, isBlank c = false) : trimmed s = s := by
  have hdrop : s.dropWhile isBlank = s := by
    cases s with
    | nil => rfl
    | cons c s => exact List.dropWhile_cons_of_neg (by simp [hhead c rfl])
  rw [trimmed, hdrop, dropEndWhile_eq_self hlast]

lemma trimmed_eq_rdropWhile (s : List Char) :
    trimmed s = (s.dropWhile isBlank).rdropWhile isBlank :=
  rfl

/-- A text that was trimmed does not start with a blank. -/
lemma isBlank_of_mem_head?_trimmed {c : Char} (h : c ∈ (trimmed s).head?) : isBlank c = false := by
  rw [trimmed_eq_rdropWhile] at h
  obtain ⟨rest, hprefix⟩ := List.rdropWhile_prefix isBlank (s.dropWhile isBlank)
  have hhead : (s.dropWhile isBlank).head? = some c := by
    rw [← hprefix, List.head?_append_of_ne_nil _ (List.ne_nil_of_mem (List.mem_of_mem_head? h))]
    exact h
  have hdrop := List.head?_dropWhile_not isBlank s
  rw [hhead] at hdrop
  simpa using hdrop

/-- A text that was trimmed does not end in a blank. -/
lemma isBlank_of_mem_getLast?_trimmed {c : Char} (h : c ∈ (trimmed s).getLast?) :
    isBlank c = false := by
  rw [trimmed_eq_rdropWhile] at h
  obtain ⟨hne, rfl⟩ := List.mem_getLast?_eq_getLast h
  simpa using List.rdropWhile_last_not isBlank _ hne

/-! ### Fields of a text -/

lemma split_eq_splitOnP (p : Char → Bool) (s : List Char) : split p s = s.splitOnP p := by
  induction s with
  | nil => rfl
  | cons c s ih =>
      obtain ⟨field, rest, hs⟩ := List.exists_cons_of_ne_nil (split_ne_nil p s)
      rw [List.splitOnP_cons_eq_if_modifyHead, ← ih, hs]
      cases hc : p c with
      | false =>
          rw [split_cons_of_not_sep hc hs]
          rfl
      | true =>
          rw [split_cons_of_sep hc, hs]
          rfl

/-- The fields of a text, put together again, are the text. -/
lemma intercalate_split (sep : Char) (s : List Char) :
    [sep].intercalate (split (· == sep) s) = s := by
  rw [split_eq_splitOnP]
  exact List.intercalate_splitOn sep

/-- A character of fields that are put together is the separator or stands in one of them. -/
lemma mem_intercalate {sep c : Char} {fields : List (List Char)}
    (h : c ∈ [sep].intercalate fields) : c = sep ∨ ∃ field ∈ fields, c ∈ field := by
  induction fields with
  | nil => cases h
  | cons field fields ih =>
      cases fields with
      | nil =>
          rw [List.intercalate_singleton] at h
          exact Or.inr ⟨field, List.mem_cons_self, h⟩
      | cons next fields =>
          rw [List.intercalate_cons_cons, List.mem_append, List.mem_append, List.mem_singleton] at h
          rcases h with (h | h) | h
          · exact Or.inr ⟨field, List.mem_cons_self, h⟩
          · exact Or.inl h
          · obtain rfl | ⟨other, hother, hc⟩ := ih h
            · exact Or.inl rfl
            · exact Or.inr ⟨other, List.mem_cons_of_mem field hother, hc⟩
end Text

end SenderPolicy
