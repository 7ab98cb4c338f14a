/-
Lower case is lower case already.

What lower-casing gives for a character depends on the text around it only for the capital sigma.
No character that it gives is that sigma or another capital (`Text.IsLower`), so a text in lower
case stays as it is wherever its characters stand, and lower-casing it once more changes nothing.
For the table of capitals this is a comparison of any two ranges: what the one becomes lies apart
from the other, or falls between its capitals (`Text.CaseRange.clears`).

Lower-casing makes no blank of a character that is none, so a text without blanks at its ends has
none there in lower case.  Together this is why a normalized domain is normalized already.
-/
import SenderPolicy.Domain
import SenderPolicy.Proofs.Text.Split
import SenderPolicy.Proofs.Text.Utf8

namespace SenderPolicy

namespace Text

/-! ### Ranges of capitals -/

/-- The code points of the blanks. -/
def blankRanges : List (Nat × Nat) :=
  [(0x09, 0x0D), (0x20, 0x20), (0x85, 0x85), (0xA0, 0xA0), (0x1680, 0x1680), (0x2000, 0x200A),
    (0x2028, 0x2029), (0x202F, 0x202F), (0x205F, 0x205F), (0x3000, 0x3000)]

namespace CaseRange

/-- Whether the capitals of the range become characters below `lo` or above `hi`. -/
def avoids (r : CaseRange) (lo hi : Nat) : Bool :=
  Nat.blt (r.target + (r.last - r.first)) lo || Nat.blt hi r.target

/-- Whether no capital of the one range becomes a capital of the other: they lie apart, or the other
has every second character, and so has the one unless it is a single character, and they
alternate. -/
def clears (r r' : CaseRange) : Bool :=
  r.avoids r'.first r'.last ||
    (r.step == 2 || r.first == r.last) && r'.step == 2 && (r.target + r'.first) % 2 == 1

variable {r r' : CaseRange} {n lo hi : Nat}

lemma contains_iff :
    r.contains n = true ↔ r.first ≤ n ∧ n ≤ r.last ∧ (n - r.first) % r.step = 0 := by
  simp [contains, and_assoc]

lemma lt_or_lt_of_avoids (h : r.avoids lo hi = true) (hn : r.contains n = true) :
    r.target + (n - r.first) < lo ∨ hi < r.target + (n - r.first) := by
  obtain ⟨-, hlast, -⟩ := contains_iff.1 hn
  rw [avoids, Bool.or_eq_true, Nat.blt_eq, Nat.blt_eq] at h
  omega

lemma contains_eq_false_of_clears (h : r.clears r' = true) (hn : r.contains n = true) :
    r'.contains (r.target + (n - r.first)) = false := by
  rw [Bool.eq_false_iff, ne_eq, contains_iff]
  rintro ⟨hfirst', hlast', hstep'⟩
  simp only [clears, Bool.or_eq_true, Bool.and_eq_true, beq_iff_eq] at h
  rcases h with h | ⟨⟨htwo, htwo'⟩, hodd⟩
  · have hapart := lt_or_lt_of_avoids h hn
    omega
  · obtain ⟨hfirst, hlast, hstep⟩ := contains_iff.1 hn
    have heven : (n - r.first) % 2 = 0 := by
      rcases htwo with htwo | hsingle
      · rwa [htwo] at hstep
      · omega
    rw [htwo'] at hstep'
    omega

lemma clears_of_mem_all (hr : r ∈ all) (hr' : r' ∈ all) : r.clears r' = true := by
  have hall : (all.all fun r => all.all r.clears) = true := by decide +kernel
  exact List.all_eq_true.1 (List.all_eq_true.1 hall r hr) r' hr'

/-- What a capital becomes is not the dotted capital I, which the table leaves out. -/
lemma avoids_dotted (hr : r ∈ all) : r.avoids 0x130 0x130 = true := by
  have hall : (all.all fun r => r.avoids 0x130 0x130) = true := by decide +kernel
  exact List.all_eq_true.1 hall r hr

lemma avoids_blanks (hr : r ∈ all) {b : Nat × Nat} (hb : b ∈ blankRanges) :
    r.avoids b.1 b.2 = true := by
  have hall : (all.all fun r => blankRanges.all fun b => r.avoids b.1 b.2) = true := by
    decide +kernel
  exact List.all_eq_true.1 (List.all_eq_true.1 hall r hr) b hb

/-- What a capital becomes is a character. -/
lemma isValidChar_of_contains (hr : r ∈ all) (hn : r.contains n = true) :
    (r.target + (n - r.first)).isValidChar := by
  have hall : (all.all fun r =>
      r.avoids 0xD800 0xDFFF && Nat.blt (r.target + (r.last - r.first)) 0x110000) = true := by
    decide +kernel
  obtain ⟨hsurrogate, hmax⟩ := Bool.and_eq_true_iff.1 (List.all_eq_true.1 hall r hr)
  rw [Nat.blt_eq] at hmax
  obtain ⟨-, hlast, -⟩ := contains_iff.1 hn
  rcases lt_or_lt_of_avoids hsurrogate hn with h | h
  · exact Or.inl h
  · exact Or.inr ⟨h, by omega⟩

end CaseRange

/-! ### Characters -/

/-- The character is no capital: neither the dotted capital I nor one of the table. -/
def IsLower (c : Char) : Prop := c ≠ 'İ' ∧ ∀ r ∈ CaseRange.all, r.contains c.toNat = false

instance (c : Char) : Decidable (IsLower c) := inferInstanceAs (Decidable (_ ∧ _))

variable {before after s : List Char} {c d : Char}

lemma isBlank_eq_inRanges (c : Char) : isBlank c = inRanges blankRanges c.toNat := by
  rw [Bool.eq_iff_iff]
  simp [isBlank, inRanges, blankRanges]
  omega

/-- The capital sigma is in the table, which has the ordinary small one for it. -/
lemma IsLower.ne_sigma (h : IsLower c) : c ≠ 'Σ' := by
  rintro rfl
  exact absurd h (by decide +kernel)

/-- A character stays as it is, or it is a capital of some range and has its place there. -/
lemma lowerSimple_cases (c : Char) :
    lowerSimple c = c ∧ (∀ r ∈ CaseRange.all, r.contains c.toNat = false) ∨
      ∃ r ∈ CaseRange.all, r.contains c.toNat = true ∧
        (lowerSimple c).toNat = r.target + (c.toNat - r.first) := by
  rw [lowerSimple]
  cases hfind : CaseRange.all.find? (·.contains c.toNat) with
  | none => exact Or.inl ⟨rfl, by simpa using hfind⟩
  | some r =>
      have hmem := List.mem_of_find?_eq_some hfind
      have hcontains := List.find?_some hfind
      exact Or.inr ⟨r, hmem, hcontains,
        Utf8.toNat_val_ofNat (CaseRange.isValidChar_of_contains hmem hcontains)⟩

/-- The table agrees with the mapping of the ASCII letters. -/
lemma lowerSimple_eq_toLower (h : c.toNat < 0x80) : lowerSimple c = c.toLower := by
  have hascii : ∀ n : Fin 0x80, lowerSimple (Char.ofNat n) = (Char.ofNat n).toLower := by
    decide +kernel
  simpa using hascii ⟨c.toNat, h⟩

lemma lowerChar_eq (hsigma : c ≠ 'Σ') (hdotted : c ≠ 'İ') :
    lowerChar before c after = [lowerSimple c] := by
  rw [lowerChar, if_neg hsigma, if_neg hdotted]
  split
  next hascii => rw [lowerSimple_eq_toLower hascii]
  next => rfl

/-- What a character becomes, if it is not one of the two special ones. -/
lemma lowerChar_cases (before : List Char) (c : Char) (after : List Char) :
    c = 'Σ' ∧ (lowerChar before c after = ['ς'] ∨ lowerChar before c after = ['σ']) ∨
      c = 'İ' ∧ lowerChar before c after = ['i', '\u0307'] ∨
        c ≠ 'İ' ∧ lowerChar before c after = [lowerSimple c] := by
  by_cases hsigma : c = 'Σ'
  · left
    rw [lowerChar, if_pos hsigma]
    exact ⟨hsigma, ite_eq_or_eq ..⟩
  by_cases hdotted : c = 'İ'
  · right; left
    rw [lowerChar, if_neg hsigma, if_pos hdotted]
    exact ⟨hdotted, rfl⟩
  · right; right
    exact ⟨hdotted, lowerChar_eq hsigma hdotted⟩

lemma lowerChar_ne_nil (before : List Char) (c : Char) (after : List Char) :
    lowerChar before c after ≠ [] := by
  rcases lowerChar_cases before c after with ⟨-, h | h⟩ | ⟨-, h⟩ | ⟨-, h⟩ <;>
    exact h ▸ List.cons_ne_nil _ _

/-- What is so for the lower case of the two special characters, and for what any other character
becomes, is so for every character of a lower case. -/
lemma of_mem_lowerChar {p : Char → Prop} (h : d ∈ lowerChar before c after)
    (hfinal : p 'ς') (hsigma : p 'σ') (hletter : p 'i') (hdot : p '\u0307')
    (hsimple : c ≠ 'İ' → p (lowerSimple c)) : p d := by
  rcases lowerChar_cases before c after with ⟨-, heq | heq⟩ | ⟨-, heq⟩ | ⟨hdotted, heq⟩ <;>
    rw [heq] at h
  · rwa [List.mem_singleton.1 h]
  · rwa [List.mem_singleton.1 h]
  · rcases List.mem_pair.1 h with rfl | rfl
    · exact hletter
    · exact hdot
  · rw [List.mem_singleton.1 h]
    exact hsimple hdotted

lemma isLower_lowerSimple (h : c ≠ 'İ') : IsLower (lowerSimple c) := by
  rcases lowerSimple_cases c with ⟨heq, hnone⟩ | ⟨r, hr, hcontains, heq⟩
  · rw [heq]
    exact ⟨h, hnone⟩
  · constructor
    · intro hdotted
      have hapart := CaseRange.lt_or_lt_of_avoids (CaseRange.avoids_dotted hr) hcontains
      have hcode : (lowerSimple c).toNat = 0x130 := congrArg Char.toNat hdotted
      omega
    · intro r' hr'
      rw [heq]
      exact CaseRange.contains_eq_false_of_clears (CaseRange.clears_of_mem_all hr hr') hcontains

lemma isBlank_lowerSimple (h : isBlank c = false) : isBlank (lowerSimple c) = false := by
  rcases lowerSimple_cases c with ⟨heq, -⟩ | ⟨r, hr, hcontains, heq⟩
  · rwa [heq]
  · rw [isBlank_eq_inRanges, heq, inRanges, List.any_eq_false]
    intro b hb
    have hapart := CaseRange.lt_or_lt_of_avoids (CaseRange.avoids_blanks hr hb) hcontains
    simp only [Bool.and_eq_true, decide_eq_true_eq, not_and]
    omega

/-- The same holds where only the case of ASCII letters is changed. -/
lemma isBlank_toLower (h : isBlank c = false) : isBlank c.toLower = false := by
  by_cases hascii : c.toNat < 0x80
  · rw [← lowerSimple_eq_toLower hascii]
    exact isBlank_lowerSimple h
  · have hletter : ¬ (c.val ≥ 'A'.val ∧ c.val ≤ 'Z'.val) := by
      rintro ⟨-, hle⟩
      have hle' : c.toNat ≤ 90 := UInt32.le_iff_toNat_le.1 hle
      omega
    have hsame : c.toLower = c := dif_neg hletter
    rwa [hsame]

lemma isLower_of_mem_lowerChar (h : d ∈ lowerChar before c after) : IsLower d :=
  of_mem_lowerChar h (by decide +kernel) (by decide +kernel) (by decide +kernel) (by decide +kernel)
    isLower_lowerSimple

lemma isBlank_of_mem_lowerChar (h : d ∈ lowerChar before c after) (hc : isBlank c = false) :
    isBlank d = false :=
  of_mem_lowerChar (p := fun d => isBlank d = false) h rfl rfl rfl rfl fun _ =>
    isBlank_lowerSimple hc

/-- A character that is no capital stays as it is, whatever stands around it. -/
lemma lowerChar_of_isLower (h : IsLower c) : lowerChar before c after = [c] := by
  rw [lowerChar_eq h.ne_sigma h.1]
  rcases lowerSimple_cases c with ⟨heq, -⟩ | ⟨r, hr, hcontains, -⟩
  · rw [heq]
  · rw [h.2 r hr] at hcontains
    cases hcontains

/-! ### Texts -/

lemma lowerAfter_of_isLower (h : ∀ c ∈ s, IsLower c) : lowerAfter before s = s := by
  induction s generalizing before with
  | nil => rfl
  | cons c s ih =>
      rw [lowerAfter, lowerChar_of_isLower (h c List.mem_cons_self),
        ih fun d hd => h d (List.mem_cons_of_mem c hd), List.singleton_append]

lemma isLower_of_mem_lowerAfter (h : d ∈ lowerAfter before s) : IsLower d := by
  induction s generalizing before with
  | nil => cases h
  | cons c s ih =>
      rcases List.mem_append.1 h with h | h
      · exact isLower_of_mem_lowerChar h
      · exact ih h

lemma lowerAfter_ne_nil (h : s ≠ []) : lowerAfter before s ≠ [] := by
  obtain ⟨c, s, rfl⟩ := List.exists_cons_of_ne_nil h
  exact List.append_ne_nil_of_left_ne_nil (lowerChar_ne_nil before c s) _

/-- The text does not start with a blank in lower case if it does not do so before. -/
lemma isBlank_of_mem_head?_lowerAfter (h : ∀ c ∈ s.head?, isBlank c = false)
    (hd : d ∈ (lowerAfter before s).head?) : isBlank d = false := by
  cases s with
  | nil => cases hd
  | cons c s =>
      rw [lowerAfter, List.head?_append_of_ne_nil _ (lowerChar_ne_nil before c s)] at hd
      exact isBlank_of_mem_lowerChar (List.mem_of_mem_head? hd) (h c rfl)

/-- The text does not end in a blank in lower case if it does not do so before. -/
lemma isBlank_of_mem_getLast?_lowerAfter (h : ∀ c ∈ s.getLast?, isBlank c = false)
    (hd : d ∈ (lowerAfter before s).getLast?) : isBlank d = false := by
  induction s generalizing before with
  | nil => cases hd
  | cons c s ih =>
      rw [lowerAfter] at hd
      cases s with
      | nil =>
          rw [lowerAfter, List.append_nil] at hd
          exact isBlank_of_mem_lowerChar (List.mem_of_getLast? hd) (h c rfl)
      | cons c' s =>
          rw [List.getLast?_append_of_ne_nil _ (lowerAfter_ne_nil (List.cons_ne_nil c' s))] at hd
          exact ih h hd

/-- Lower-casing twice is lower-casing once. -/
lemma lower_lower (s : String) : lower (lower s) = lower s := by
  rw [lower, lower, String.toList_ofList,
    lowerAfter_of_isLower fun c hc => isLower_of_mem_lowerAfter hc]

end Text

namespace Domain

open Text

lemma toList_normalize (s : String) :
    (normalize s).toList = lowerAfter [] (trimmed s.toList) := by
  rw [normalize, lower, trim, String.toList_ofList, String.toList_ofList]

/-- A normalized domain has no blanks around it. -/
lemma trim_normalize (s : String) : trim (normalize s) = normalize s := by
  rw [← String.toList_inj, trim, String.toList_ofList, toList_normalize]
  apply trimmed_eq_self
  · exact fun c => isBlank_of_mem_head?_lowerAfter fun c => isBlank_of_mem_head?_trimmed
  · exact fun c => isBlank_of_mem_getLast?_lowerAfter fun c => isBlank_of_mem_getLast?_trimmed

/-- A normalized domain is in lower case. -/
lemma lower_normalize (s : String) : lower (normalize s) = normalize s := lower_lower (trim s)

lemma normalize_normalize (s : String) : normalize (normalize s) = normalize s := by
  rw [normalize, trim_normalize, lower_normalize]

end Domain

end SenderPolicy
