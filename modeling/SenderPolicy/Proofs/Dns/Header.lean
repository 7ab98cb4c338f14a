/-
Headers are read back.

The word of the flags is a sum of fields, each with a weight of its own, and every field is smaller
than the weight of the one above it.  So the fields are the digits of the word, and reading takes
them out again.  Of the fields that are numbers a word has the lowest bits only, so this is right
for flags within these widths.
-/
import SenderPolicy.Dns.Header
import SenderPolicy.Proofs.Dns.Octets

namespace SenderPolicy

namespace Dns

/-- Flags whose numbers fit into the bits that a word has for them. -/
structure Flags.Fits (f : Flags) : Prop where
  opcode_lt : f.opcode.toNat < 16
  reserved_lt : f.reserved.toNat < 8
  responseCode_lt : f.responseCode.toNat < 16

namespace Flags

lemma bit_eq (b : Bool) (weight : Nat) : bit b weight = b.toNat * weight := by
  cases b <;> simp [bit]

lemma decide_toNat_eq_one (b : Bool) : decide (b.toNat = 1) = b := by
  cases b <;> rfl

lemma toNat_toWord {f : Flags} (h : f.Fits) :
    f.toWord.toNat = f.response.toNat * 32768 + f.opcode.toNat * 2048 +
      f.authoritative.toNat * 1024 + f.truncated.toNat * 512 + f.recursionDesired.toNat * 256 +
      f.recursionAvailable.toNat * 128 + f.reserved.toNat * 16 + f.responseCode.toNat := by
  obtain ⟨hopcode, hreserved, hcode⟩ := h
  have hr := f.response.toNat_le
  have haa := f.authoritative.toNat_le
  have htc := f.truncated.toNat_le
  have hrd := f.recursionDesired.toNat_le
  have hra := f.recursionAvailable.toNat_le
  simp only [toWord, bit_eq]
  rw [UInt16.toNat_ofNat_of_lt' (by simp only [UInt16.size]; omega)]
  omega

/-- The flags of the word of some flags are these. -/
lemma ofWord_toWord {f : Flags} (h : f.Fits) : ofWord f.toWord = f := by
  have hword := toNat_toWord h
  obtain ⟨hopcode, hreserved, hcode⟩ := h
  have hr := f.response.toNat_le
  have haa := f.authoritative.toNat_le
  have htc := f.truncated.toNat_le
  have hrd := f.recursionDesired.toNat_le
  have hra := f.recursionAvailable.toNat_le
  unfold ofWord
  generalize f.toWord.toNat = n at hword ⊢
  have h₁ : n / 32768 % 2 = f.response.toNat := by omega
  have h₂ : n / 2048 % 16 = f.opcode.toNat := by omega
  have h₃ : n / 1024 % 2 = f.authoritative.toNat := by omega
  have h₄ : n / 512 % 2 = f.truncated.toNat := by omega
  have h₅ : n / 256 % 2 = f.recursionDesired.toNat := by omega
  have h₆ : n / 128 % 2 = f.recursionAvailable.toNat := by omega
  have h₇ : n / 16 % 8 = f.reserved.toNat := by omega
  have h₈ : n % 16 = f.responseCode.toNat := by omega
  simp only [h₁, h₂, h₃, h₄, h₅, h₆, h₇, h₈, decide_toNat_eq_one, UInt8.ofNat_toNat]

/-- The flags of a word fit. -/
lemma fits_ofWord (w : UInt16) : (ofWord w).Fits := by
  constructor <;> simp only [ofWord, UInt8.toNat_ofNat'] <;> omega

lemma toNat_decide_eq_one {n : Nat} (h : n < 2) : (decide (n = 1)).toNat = n :=
  match n, h with
  | 0, _ | 1, _ => rfl

/-- The word of the flags of a word is this word. -/
lemma toWord_ofWord (w : UInt16) : (ofWord w).toWord = w := by
  have hw := w.toNat_lt
  refine UInt16.toNat_inj.1 ?_
  rw [toNat_toWord (fits_ofWord w)]
  simp only [ofWord, UInt8.toNat_ofNat', toNat_decide_eq_one (Nat.mod_lt _ (Nat.zero_lt_two))]
  omega

end Flags

@[simp] lemma Header.length_write (h : Header) : h.write.length = Header.size := rfl

/-- A header is read back if its flags fit. -/
lemma Header.read_write_append {h : Header} (hfits : h.flags.Fits) (rest : List UInt8) :
    Header.read (h.write ++ rest) = .ok (h, rest) := by
  simp only [write, List.append_assoc, read, readWord_writeWord_append, ok_bind,
    Flags.ofWord_toWord hfits]
  rfl

end Dns

end SenderPolicy
