/-
Quoted strings are read back.

A character that is written between quotes is read as its code point, whatever follows it: the ones
that stand for themselves, those with an escape of their own, and the control characters, whose
escape has two digits that are not zero at most (`Json.Quoted.units?_encodeChar_append`).  No code
point is a surrogate, so the code points of a text make that text again.
-/
import Mathlib.Tactic.Lemma
import Mathlib.Tactic.SplitIfs
import SenderPolicy.Json.Quoted

namespace SenderPolicy

namespace Json

namespace Quoted

open Text

/-- The four digits of a control character. -/
lemma hex4?_of_lt {n : Nat} (h : n < 32) :
    hex4? '0' '0' (Hex.lowerDigit (n / 16)) (Hex.lowerDigit (n % 16)) = some n := by
  have hzero : Hex.value? '0' = some 0 := by decide
  have hhigh : Hex.value? (Hex.lowerDigit (n / 16)) = some (n / 16) :=
    Hex.value?_lowerDigit (by omega)
  have hlow : Hex.value? (Hex.lowerDigit (n % 16)) = some (n % 16) :=
    Hex.value?_lowerDigit (by omega)
  have hvalue : 0 * 4096 + 0 * 256 + n / 16 * 16 + n % 16 = n := by omega
  simp only [hex4?, hzero, hhigh, hlow, Option.bind_eq_bind, Option.bind_some, Option.pure_def,
    hvalue]

/-! ### Steps of reading -/

section Units

variable {c d : Char} (rest : List Char)

lemma units?_quote : units? ('"' :: rest) = some ([], rest) := by
  rw [units?]

lemma units?_escaped (h : escaped? c = some d) :
    units? ('\\' :: c :: rest) = (units? rest).map fun p => (d.toNat :: p.1, p.2) := by
  have hc : c ≠ 'u' := by
    rintro rfl
    cases h
  rw [units?]
  · rw [h, Option.map_eq_bind]
    rfl
  · intro _ _ _ _ _ hu
    exact absurd hu hc

lemma units?_control (h : c.toNat < 0x20) :
    units? ('\\' :: 'u' :: '0' :: '0' :: Hex.lowerDigit (c.toNat / 16) ::
        Hex.lowerDigit (c.toNat % 16) :: rest) =
      (units? rest).map fun p => (c.toNat :: p.1, p.2) := by
  rw [units?, hex4?_of_lt h, Option.map_eq_bind]
  rfl

lemma units?_itself (hquote : c ≠ '"') (hslash : c ≠ '\\') (h : ¬ c.toNat < 0x20) :
    units? (c :: rest) = (units? rest).map fun p => (c.toNat :: p.1, p.2) := by
  have hplain : ¬ (c.toNat < 0x20 ∨ c = '\\') := by
    rintro (hlt | heq)
    · exact h hlt
    · exact hslash heq
  rw [units?]
  · rw [if_neg hplain, Option.map_eq_bind]
    rfl
  · exact hquote
  · intro _ _ _ _ _ heq
    exact absurd heq hslash
  · intro _ _ heq
    exact absurd heq hslash

/-- A character between quotes is read as its code point, whatever follows it. -/
lemma units?_encodeChar_append (c : Char) :
    units? (encodeChar c ++ rest) = (units? rest).map fun p => (c.toNat :: p.1, p.2) := by
  unfold encodeChar
  split_ifs with hquote hslash hb hf hn hr ht hcontrol
  · subst hquote
    exact units?_escaped rest rfl
  · subst hslash
    exact units?_escaped rest rfl
  · subst hb
    exact units?_escaped rest rfl
  · subst hf
    exact units?_escaped rest rfl
  · subst hn
    exact units?_escaped rest rfl
  · subst hr
    exact units?_escaped rest rfl
  · subst ht
    exact units?_escaped rest rfl
  · exact units?_control rest hcontrol
  · exact units?_itself rest hquote hslash hcontrol

end Units

/-! ### Texts -/

/-- A text with a quote behind it is read as its code points. -/
lemma units?_flatMap_append (s rest : List Char) :
    units? (s.flatMap encodeChar ++ '"' :: rest) = some (s.map Char.toNat, rest) := by
  induction s with
  | nil => exact units?_quote rest
  | cons c s ih =>
      rw [List.flatMap_cons, List.append_assoc, units?_encodeChar_append, ih]
      rfl

/-- The code points of a text are those of its characters, and none of them is a surrogate. -/
lemma chars?_map_toNat (s : List Char) : chars? (s.map Char.toNat) = some s := by
  induction s with
  | nil => rfl
  | cons c s ih =>
      have hvalid : c.toNat < 0xD800 ∨ 0xDFFF < c.toNat ∧ c.toNat < 0x110000 := c.valid
      have hhigh : isHighSurrogate c.toNat = false := by
        simp only [isHighSurrogate, Bool.and_eq_false_iff, decide_eq_false_iff_not]
        omega
      have hlow : isLowSurrogate c.toNat = false := by
        simp only [isLowSurrogate, Bool.and_eq_false_iff, decide_eq_false_iff_not]
        omega
      rw [List.map_cons, chars?.eq_def]
      simp only [hhigh, hlow, ih, Bool.false_eq_true, if_false, Char.ofNat_toNat]
      rfl

end Quoted

end Json

end SenderPolicy
