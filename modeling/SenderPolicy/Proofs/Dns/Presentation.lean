/-
Presentation format is read back.

In presentation format each character-string stands between quotes, and a space stands between two
of them.  Most octets can be written in two ways: as the ASCII character that they are, or as a
backslash and their value in three decimal digits.  So there are many ways of presenting the same
strings, and `Dns.CharacterString.Presents` says that a text is one of them.

The reader goes through the octets of the text and knows only whether it is between quotes.  The
way of writing an octet ends where the next one starts, so in front of anything else each octet is
read back alone; from this come the statements about a string, about all of them, and about the
text as a whole (`Dns.CharacterString.Presents.ofPresentation_eq`).
-/
import Mathlib.Data.List.Forall2
import SenderPolicy.Dns.CharacterString
import SenderPolicy.Proofs.Text.Split
import SenderPolicy.Proofs.Text.Utf8

namespace SenderPolicy

namespace Dns

namespace CharacterString

open Text

/-- `PresentsOctet b text`: the text is a way of writing the octet between quotes. -/
inductive PresentsOctet (b : UInt8) : List Char → Prop where
  /-- An ASCII character that is neither a quote nor a backslash stands for itself. -/
  | itself (hascii : b.toNat < 128) (hquote : b ≠ 0x22) (hbackslash : b ≠ 0x5C) :
      PresentsOctet b [Char.ofNat b.toNat]
  /-- A quote or a backslash stands after a backslash. -/
  | escaped (h : b = 0x22 ∨ b = 0x5C) : PresentsOctet b ['\\', Char.ofNat b.toNat]
  /-- Any octet can be written as its value, in three decimal digits after a backslash. -/
  | decimal : PresentsOctet b ['\\', Nat.digitChar (b.toNat / 100),
      Nat.digitChar (b.toNat / 10 % 10), Nat.digitChar (b.toNat % 10)]

/-- The text is a way of writing a character-string: its octets one after the other, in quotes. -/
def PresentsString (s : List UInt8) (text : List Char) : Prop :=
  ∃ parts, List.Forall₂ PresentsOctet s parts ∧ text = '"' :: parts.flatten ++ ['"']

/-- The text is a way of writing some character-strings, with a space between two of them. -/
def Presents (strings : List (List UInt8)) (data : String) : Prop :=
  ∃ parts, List.Forall₂ PresentsString strings parts ∧ data.toList = [' '].intercalate parts

/-! ### One step of the reader -/

section Unquote

variable {b d₁ d₂ d₃ : UInt8} (rest : List UInt8)

lemma unquote_quote (quoted : Bool) : unquote quoted (0x22 :: rest) = unquote (!quoted) rest := by
  rw [unquote.eq_def]
  simp

lemma unquote_space : unquote false (0x20 :: rest) = unquote false rest := by
  rw [unquote.eq_def]
  simp

lemma unquote_itself (hquote : b ≠ 0x22) (hbackslash : b ≠ 0x5C) :
    unquote true (b :: rest) = b :: unquote true rest := by
  rw [unquote.eq_def]
  simp [hquote, hbackslash]

lemma unquote_escaped (h : isDigit b = false) :
    unquote true (0x5C :: b :: rest) = b :: unquote true rest := by
  rw [unquote.eq_def]
  simp [h]

lemma unquote_decimal (h₁ : isDigit d₁ = true) (h₂ : isDigit d₂ = true) (h₃ : isDigit d₃ = true) :
    unquote true (0x5C :: d₁ :: d₂ :: d₃ :: rest) = decimal d₁ d₂ d₃ :: unquote true rest := by
  rw [unquote.eq_def]
  simp [h₁, h₂, h₃]

end Unquote

section Digits

variable {n : Nat}

/-- The octet of a decimal digit. -/
def digitOctet (n : Nat) : UInt8 := UInt8.ofNat (48 + n)

lemma toNat_digitOctet (h : n < 10) : (digitOctet n).toNat = 48 + n :=
  Utf8.toNat_octet (by omega)

lemma isDigit_digitOctet (h : n < 10) : isDigit (digitOctet n) = true := by
  revert n
  decide

lemma encodeChar_digitChar (h : n < 10) :
    String.utf8EncodeChar (Nat.digitChar n) = [digitOctet n] := by
  revert n
  decide

/-- Three digits of the value of an octet stand for it. -/
lemma decimal_digitOctet (b : UInt8) :
    decimal (digitOctet (b.toNat / 100)) (digitOctet (b.toNat / 10 % 10))
      (digitOctet (b.toNat % 10)) = b := by
  have hb : b.toNat < 256 := b.toNat_lt
  rw [decimal, toNat_digitOctet (by omega), toNat_digitOctet (by omega),
    toNat_digitOctet (by omega)]
  exact Utf8.ofNat_eq_of_toNat_eq (by omega)

end Digits

/-! ### Reading a presented text -/

variable {b : UInt8} {text : List Char} {s : List UInt8} {strings : List (List UInt8)}
  {parts : List (List Char)}

/-- An octet is read back, whatever follows it. -/
lemma PresentsOctet.unquote_append (h : PresentsOctet b text) (rest : List UInt8) :
    unquote true (text.flatMap String.utf8EncodeChar ++ rest) = b :: unquote true rest := by
  cases h with
  | itself hascii hquote hbackslash =>
      rw [List.flatMap_singleton, Utf8.encodeChar_of_one hascii]
      exact unquote_itself rest hquote hbackslash
  | escaped h =>
      have hascii : b.toNat < 128 := by rcases h with rfl | rfl <;> decide
      have hdigit : isDigit b = false := by rcases h with rfl | rfl <;> decide
      rw [List.flatMap_cons, List.flatMap_singleton, Utf8.encodeChar_of_one hascii]
      exact unquote_escaped rest hdigit
  | decimal =>
      have hb : b.toNat < 256 := b.toNat_lt
      have h₁ : b.toNat / 100 < 10 := by omega
      have h₂ : b.toNat / 10 % 10 < 10 := by omega
      have h₃ : b.toNat % 10 < 10 := by omega
      have hoctets := unquote_decimal rest (isDigit_digitOctet h₁) (isDigit_digitOctet h₂)
        (isDigit_digitOctet h₃)
      rw [decimal_digitOctet] at hoctets
      simp only [List.flatMap_cons, List.flatMap_nil, encodeChar_digitChar h₁,
        encodeChar_digitChar h₂, encodeChar_digitChar h₃]
      exact hoctets

lemma unquote_flatten_append (h : List.Forall₂ PresentsOctet s parts) (rest : List UInt8) :
    unquote true (parts.flatten.flatMap String.utf8EncodeChar ++ rest) =
      s ++ unquote true rest := by
  induction h with
  | nil => rfl
  | cons first _ ih =>
      rw [List.flatten_cons, List.flatMap_append, List.append_assoc, first.unquote_append, ih]
      rfl

/-- A character-string is read back from one quote to the other. -/
lemma PresentsString.unquote_append (h : PresentsString s text) (rest : List UInt8) :
    unquote false (text.flatMap String.utf8EncodeChar ++ rest) = s ++ unquote false rest := by
  obtain ⟨parts, hparts, rfl⟩ := h
  have hquote : String.utf8EncodeChar '"' = [0x22] := by decide
  rw [List.cons_append, List.flatMap_cons, List.flatMap_append, List.flatMap_singleton, hquote,
    List.append_assoc, List.append_assoc, List.singleton_append, unquote_quote]
  refine (unquote_flatten_append hparts _).trans ?_
  rw [List.singleton_append, unquote_quote]
  rfl

lemma unquote_intercalate (h : List.Forall₂ PresentsString strings parts) :
    unquote false (([' '].intercalate parts).flatMap String.utf8EncodeChar) =
      strings.flatten := by
  have hspace : String.utf8EncodeChar ' ' = [0x20] := by decide
  induction h with
  | nil => rfl
  | @cons s text strings parts first rest ih =>
      cases rest with
      | nil =>
          have hfirst := first.unquote_append []
          rw [List.append_nil, unquote] at hfirst
          rw [List.intercalate_singleton, hfirst, List.flatten_singleton, List.append_nil]
      | cons _ _ =>
          rw [List.intercalate_cons_cons, List.flatMap_append, List.flatMap_append,
            List.append_assoc, first.unquote_append, List.flatMap_singleton, hspace,
            List.singleton_append, unquote_space, ih]
          rfl

/-- A text that presents at least one string starts and ends with a quote. -/
lemma exists_intercalate_eq (h : List.Forall₂ PresentsString (s :: strings) parts) :
    ∃ inner, [' '].intercalate parts = '"' :: (inner ++ ['"']) := by
  generalize hall : s :: strings = all at h
  induction h generalizing s strings with
  | nil => cases hall
  | @cons s' text strings' parts first rest ih =>
      obtain ⟨octets, -, rfl⟩ := first
      cases rest with
      | nil => exact ⟨octets.flatten, List.intercalate_singleton⟩
      | cons second rest =>
          obtain ⟨inner, hinner⟩ := ih rfl
          refine ⟨octets.flatten ++ ['"', ' ', '"'] ++ inner, ?_⟩
          rw [List.intercalate_cons_cons, hinner]
          simp

/-- Character-strings are read back from a text that presents them, joined to one text. -/
lemma Presents.ofPresentation_eq {data : String} (h : Presents strings data) :
    ofPresentation data = join strings := by
  obtain ⟨parts, hparts, hdata⟩ := h
  cases hparts with
  | nil =>
      have hempty : data = "" := String.toList_eq_nil_iff.1 hdata
      rw [hempty]
      decide +kernel
  | @cons s text strings parts first rest =>
      obtain ⟨inner, hinner⟩ := exists_intercalate_eq (.cons first rest)
      have hquoted := hdata.trans hinner
      -- a quote is no blank, so nothing is trimmed
      have htrim : trim data = data := by
        rw [trim, hquoted, trimmed_eq_self, ← hquoted, String.ofList_toList]
        · rintro c ⟨⟩
          decide
        · rw [← List.cons_append, List.getLast?_concat]
          rintro c ⟨⟩
          decide
      have hunquote : unquote false (Utf8.encode data) = (s :: strings).flatten := by
        rw [Utf8.encode, hdata, unquote_intercalate (.cons first rest)]
      simp only [ofPresentation, htrim, hquoted, hunquote]
      rfl

end CharacterString

end Dns

end SenderPolicy
