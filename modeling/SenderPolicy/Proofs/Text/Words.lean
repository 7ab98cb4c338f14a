/-
The words of a text.

A text is its words with blanks around and between them (`Text.Separated`), and there is only one
way of reading it like this: `words` finds these words and no others.  As a blank ends a word, what
stands behind a blank does not change the words in front of it.
-/
import SenderPolicy.Proofs.Text.Split

namespace SenderPolicy

namespace Text

/-- `Separated ws s`: the text `s` is made of the words `ws`, in order.  Any blanks may stand around
them, and there are some between any two. -/
inductive Separated : List (List Char) → List Char → Prop where
  | nil : Separated [] []
  | blank {c : Char} {s : List Char} {ws : List (List Char)} (hc : isBlank c = true)
      (rest : Separated ws s) : Separated ws (c :: s)
  | word {w s : List Char} {ws : List (List Char)} (hne : w ≠ [])
      (hw : ∀ c ∈ w, isBlank c = false) (hend : ∀ c ∈ s.head?, isBlank c = true)
      (rest : Separated ws s) : Separated (w :: ws) (w ++ s)

variable {s t blanks : List Char} {c : Char}

lemma forall_isBlank_eq_false_iff : (∀ c ∈ s, isBlank c = false) ↔ s.any isBlank = false := by
  simp

@[simp] lemma words_nil : words [] = [] := rfl

/-- A blank-free text is a word. -/
lemma words_eq_singleton (hne : s ≠ []) (h : ∀ c ∈ s, isBlank c = false) : words s = [s] := by
  rw [words, split_eq_splitOnP, List.splitOnP_eq_singleton h]
  exact List.filter_eq_self.2 (by simpa using hne)

lemma words_append_cons (hc : isBlank c = true) (s t : List Char) :
    words (s ++ c :: t) = words s ++ words t := by
  rw [words, split_eq_splitOnP, List.splitOnP_append_cons s t hc, List.filter_append,
    ← split_eq_splitOnP, ← split_eq_splitOnP]
  rfl

lemma words_cons_of_isBlank (hc : isBlank c = true) (s : List Char) : words (c :: s) = words s :=
  words_append_cons hc [] s

/-- A text that starts with a blank has its words behind those of what it is appended to. -/
lemma words_append (s : List Char) (ht : ∀ c ∈ t.head?, isBlank c = true) :
    words (s ++ t) = words s ++ words t := by
  cases t with
  | nil => simp
  | cons c t =>
      have hc := ht c rfl
      rw [words_append_cons hc, words_cons_of_isBlank hc]

lemma words_append_of_isBlank (h : ∀ c ∈ blanks, isBlank c = true)
    (s : List Char) : words (blanks ++ s) = words s := by
  induction blanks with
  | nil => rfl
  | cons c blanks ih =>
      obtain ⟨hc, hblanks⟩ := List.forall_mem_cons.1 h
      rw [List.cons_append, words_cons_of_isBlank hc, ih hblanks]

/-- Blanks between two texts add no word and join none. -/
lemma words_append_blanks_append (hne : blanks ≠ [])
    (h : ∀ c ∈ blanks, isBlank c = true) (s t : List Char) :
    words (s ++ (blanks ++ t)) = words s ++ words t := by
  obtain ⟨c, blanks, rfl⟩ := List.exists_cons_of_ne_nil hne
  obtain ⟨hc, hblanks⟩ := List.forall_mem_cons.1 h
  rw [List.cons_append, words_append_cons hc, words_append_of_isBlank hblanks]

lemma Separated.blanks_append {ws : List (List Char)} (h : ∀ c ∈ blanks, isBlank c = true)
    (rest : Separated ws s) : Separated ws (blanks ++ s) := by
  induction blanks with
  | nil => exact rest
  | cons c blanks ih =>
      obtain ⟨hc, hblanks⟩ := List.forall_mem_cons.1 h
      exact .blank hc (ih hblanks)

/-- Nothing else than the words is found. -/
lemma Separated.words_eq {ws : List (List Char)} (h : Separated ws s) : words s = ws := by
  induction h with
  | nil => rfl
  | blank hc _ ih => rw [words_cons_of_isBlank hc, ih]
  | @word w s ws hne hw hend _ ih =>
      rw [words_append w hend, words_eq_singleton hne hw, ih, List.singleton_append]

lemma Separated.not_isBlank {ws : List (List Char)} (h : Separated ws s) :
    ∀ w ∈ ws, ∀ c ∈ w, isBlank c = false := by
  induction h with
  | nil => simp
  | blank _ _ ih => exact ih
  | word _ hw _ _ ih => exact List.forall_mem_cons.2 ⟨hw, ih⟩

/-- A text that does not start with a blank starts with a word, which goes up to the next blank. -/
lemma exists_eq_word_append (hc : isBlank c = false) (s : List Char) :
    ∃ w rest, c :: s = w ++ rest ∧ w ≠ [] ∧ (∀ d ∈ w, isBlank d = false) ∧
      ∀ d ∈ rest.head?, isBlank d = true := by
  refine ⟨(c :: s).takeWhile (!isBlank ·), (c :: s).dropWhile (!isBlank ·),
    List.takeWhile_append_dropWhile.symm, by simp [hc], fun d hd => ?_, fun d hd => ?_⟩
  · simpa using List.mem_takeWhile_imp hd
  · have hnot := List.head?_dropWhile_not (!isBlank ·) (c :: s)
    rw [Option.mem_def.1 hd] at hnot
    simpa using hnot

/-- The words of a text make it up. -/
lemma separated_words (s : List Char) : Separated (words s) s := by
  generalize hn : s.length = n
  induction n using Nat.strongRecOn generalizing s with
  | ind n ih =>
      cases s with
      | nil => exact .nil
      | cons c s =>
          rw [List.length_cons] at hn
          cases hc : isBlank c with
          | true =>
              rw [words_cons_of_isBlank hc]
              exact .blank hc (ih s.length (by omega) s rfl)
          | false =>
              obtain ⟨w, rest, hs, hne, hw, hend⟩ := exists_eq_word_append hc s
              have hlength : s.length + 1 = w.length + rest.length := by
                rw [← List.length_cons, hs, List.length_append]
              have hpos := List.length_pos_iff.2 hne
              have hrest := ih rest.length (by omega) rest rfl
              rw [hs, words_append w hend, words_eq_singleton hne hw]
              exact .word hne hw hend hrest

end Text

end SenderPolicy
