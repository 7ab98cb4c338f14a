/-
Reading a policy yields no error of its own.

A TXT string counts as a policy if it starts with the version tag, before it is cut into words.
No character of the tag is a blank, so the tag is also the start of the first word, and reading a
policy never finds the version missing.  All that it may complain about is a deprecated term, and
that is a warning.  Of the rules on a record as a whole, only the one on redirects makes an error.
-/
import Mathlib.Tactic.Lemma
import SenderPolicy.Record
import SenderPolicy.Rules

namespace SenderPolicy

namespace Text

/-- Characters in front of a text that are no separators go to its first field. -/
lemma split_append_of_not_sep {p : Char → Bool} {s t field : List Char} {rest : List (List Char)}
    (h : ∀ c ∈ s, p c = false) (ht : split p t = field :: rest) :
    split p (s ++ t) = (s ++ field) :: rest := by
  induction s with
  | nil => exact ht
  | cons c s ih =>
      have hs := ih fun d hd => h d (List.mem_cons_of_mem c hd)
      exact split_cons_of_not_sep (h c List.mem_cons_self) hs

/-- A blank has no case. -/
lemma toLower_of_isBlank {c : Char} (h : isBlank c = true) : c.toLower = c := by
  refine dif_neg ?_
  rintro ⟨hge, hle⟩
  have hge' : 65 ≤ c.toNat := UInt32.le_iff_toNat_le.1 hge
  have hle' : c.toNat ≤ 90 := UInt32.le_iff_toNat_le.1 hle
  simp only [isBlank, Bool.or_eq_true, Bool.and_eq_true, decide_eq_true_eq, beq_iff_eq] at h
  omega

/-- The first word of a text that starts with characters that are no blanks. -/
lemma words_append_of_not_isBlank {s : List Char} (hne : s ≠ []) (h : ∀ c ∈ s, isBlank c = false)
    (t : List Char) : ∃ field rest, words (s ++ t) = (s ++ field) :: rest := by
  obtain ⟨field, rest, ht⟩ := List.exists_cons_of_ne_nil (split_ne_nil isBlank t)
  refine ⟨field, rest.filter fun field => !field.isEmpty, ?_⟩
  rw [words, split_append_of_not_sep h ht]
  refine List.filter_cons_of_pos ?_
  simp [hne]

end Text

namespace Record

open Text

variable {record : String}

/-- What starts with the version tag has no blank where the tag stands. -/
lemma not_isBlank_of_startsWithTag {s : List Char} (h : startsWithTag s = true) :
    ∀ c ∈ s.take versionTag.length, isBlank c = false := by
  intro c hc
  have hmem : c.toLower ∈ versionTag.toList := by
    rw [← eq_of_beq h]
    exact List.mem_map_of_mem hc
  have htag : versionTag.toList.any isBlank = false := by decide +kernel
  rw [Bool.eq_false_iff]
  intro hblank
  -- a blank would be a character of the tag itself
  rw [toLower_of_isBlank hblank] at hmem
  exact List.any_eq_false.1 htag c hmem hblank

lemma length_take_of_startsWithTag {s : List Char} (h : startsWithTag s = true) :
    (s.take versionTag.length).length = versionTag.length := by
  have hlength := congrArg List.length (eq_of_beq h)
  rw [List.length_map] at hlength
  exact hlength

/-- The first word of a policy starts with the version tag. -/
lemma exists_words_of_isPolicy (h : isPolicy record = true) :
    ∃ first tokens, words record.toList = first :: tokens ∧ startsWithTag first = true := by
  have hlength := length_take_of_startsWithTag h
  have hne : record.toList.take versionTag.length ≠ [] := by
    intro hnil
    rw [hnil] at hlength
    exact absurd hlength (by decide +kernel)
  obtain ⟨field, tokens, hwords⟩ := words_append_of_not_isBlank hne
    (not_isBlank_of_startsWithTag h) (record.toList.drop versionTag.length)
  rw [List.take_append_drop] at hwords
  refine ⟨_, tokens, hwords, ?_⟩
  rw [startsWithTag, List.take_append_of_le_length (Nat.le_of_eq hlength.symm),
    List.take_take, Nat.min_self]
  exact h

/-- A policy is read with a version, and the issues are those on deprecated terms. -/
lemma read_of_isPolicy (h : isPolicy record = true) :
    (read record).version.isSome = true ∧
      (read record).issues = (read record).terms.filterMap deprecation := by
  obtain ⟨first, tokens, hwords, htag⟩ := exists_words_of_isPolicy h
  have hread : read record = readTokens first tokens := by rw [read, hwords]
  rw [hread, readTokens, if_pos htag]
  exact ⟨rfl, rfl⟩

/-- Reading a policy makes no error. -/
lemma isError_of_mem_issues (h : isPolicy record = true) :
    ∀ i ∈ (read record).issues, i.isError = false := by
  intro i hi
  rw [(read_of_isPolicy h).2] at hi
  obtain ⟨t, -, ht⟩ := List.mem_filterMap.1 hi
  rw [deprecation] at ht
  split at ht
  · cases ht
    rfl
  · cases ht

end Record

namespace Rules

variable {record : String} {ts : List Term} {i : Issue}

lemma isError_of_mem_allIssue (h : i ∈ allIssue ts) : i.isError = false := by
  unfold allIssue at h
  split at h
  · cases h
    rfl
  · split at h
    · cases h
      rfl
    · cases h

lemma isError_of_mem_pointlessRedirectIssue (h : i ∈ pointlessRedirectIssue ts) :
    i.isError = false := by
  unfold pointlessRedirectIssue at h
  split at h
  · cases h
    rfl
  · cases h

lemma isError_of_mem_lengthIssue (h : i ∈ lengthIssue record) : i.isError = false := by
  simp only [lengthIssue, Option.mem_def, Option.ite_none_right_eq_some] at h
  obtain ⟨-, heq⟩ := h
  cases heq
  rfl

lemma mem_redirectsIssue_iff :
    (∃ i ∈ redirectsIssue ts, i.isError = true) ↔ 1 < redirectCount ts := by
  simp only [redirectsIssue, Option.mem_def, Option.ite_none_right_eq_some]
  constructor
  · rintro ⟨i, ⟨hcount, -⟩, -⟩
    exact hcount
  · intro hcount
    exact ⟨_, ⟨hcount, rfl⟩, rfl⟩

/-- The rules make an error of a record exactly if it has more than one redirect. -/
lemma exists_isError_check_iff :
    (∃ i ∈ check record ts, i.isError = true) ↔ 1 < redirectCount ts := by
  rw [← mem_redirectsIssue_iff]
  simp only [check, List.mem_append, Option.mem_toList]
  constructor
  · rintro ⟨i, ((hi | hi) | hi) | hi, herror⟩
    · rw [isError_of_mem_allIssue hi] at herror
      cases herror
    · exact ⟨i, hi, herror⟩
    · rw [isError_of_mem_pointlessRedirectIssue hi] at herror
      cases herror
    · rw [isError_of_mem_lengthIssue hi] at herror
      cases herror
  · rintro ⟨i, hi, herror⟩
    exact ⟨i, Or.inl (Or.inl (Or.inr hi)), herror⟩

end Rules

end SenderPolicy
