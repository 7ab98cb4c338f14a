/-
Reading back what was written.

A reader takes what it reads from the front of a byte string, so the statement about every reader
is that it reads a part back from the octets of that part, whatever follows them, and leaves what
follows.  Here are these statements for words, for a number of octets, and for parts that stand
one after the other (`Dns.InSequence`), as the sections of a message do.
-/
import SenderPolicy.Dns.Octets
import SenderPolicy.Proofs.Steps

namespace SenderPolicy

namespace Dns

variable {ε α β : Type}

/-! ### Words -/

/-- A word of two octets is read back. -/
@[simp] lemma readWord_writeWord_append (w : UInt16) (rest : List UInt8) :
    readWord (writeWord w ++ rest) = .ok (w, rest) := by
  have hw : w.toNat < 65536 := w.toNat_lt
  have hvalue : w.toNat / 256 % 256 * 256 + w.toNat % 256 = w.toNat := by omega
  simp only [writeWord, List.cons_append, List.nil_append, readWord, UInt8.toNat_ofNat']
  rw [hvalue, UInt16.ofNat_toNat]

/-- A word of four octets is read back. -/
@[simp] lemma readLong_writeLong_append (w : UInt32) (rest : List UInt8) :
    readLong (writeLong w ++ rest) = .ok (w, rest) := by
  have hw : w.toNat < 4294967296 := w.toNat_lt
  have hvalue : ((w.toNat / 16777216 % 256 * 256 + w.toNat / 65536 % 256) * 256 +
      w.toNat / 256 % 256) * 256 + w.toNat % 256 = w.toNat := by omega
  simp only [writeLong, List.cons_append, List.nil_append, readLong, UInt8.toNat_ofNat']
  rw [hvalue, UInt32.ofNat_toNat]

/-- As many octets are read back as there are. -/
lemma readOctets_append {n : Nat} {octets : List UInt8} (h : octets.length = n)
    (rest : List UInt8) : readOctets n (octets ++ rest) = .ok (octets, rest) := by
  rw [readOctets, if_pos (by rw [List.length_append]; omega), List.take_left' h,
    List.drop_left' h]

/-! ### Parts one after the other -/

/-- The octets of some parts one after the other, where `Part a octets` says that `octets` are
octets of the part `a`. -/
inductive InSequence (Part : α → List UInt8 → Prop) : List α → List UInt8 → Prop where
  | nil : InSequence Part [] []
  | cons {a : α} {as : List α} {octets octets' : List UInt8} (first : Part a octets)
      (rest : InSequence Part as octets') : InSequence Part (a :: as) (octets ++ octets')

namespace InSequence

variable {Part : α → List UInt8 → Prop} {read : Reader α} {as : List α} {octets : List UInt8}

lemma flatMap {layout : α → List UInt8} (h : ∀ a ∈ as, Part a (layout a)) :
    InSequence Part as (as.flatMap layout) := by
  induction as with
  | nil => exact .nil
  | cons a as ih =>
      obtain ⟨ha, has⟩ := List.forall_mem_cons.1 h
      exact .cons ha (ih has)

/-- Parts that are read back are read back one after the other. -/
lemma readMany_append (hread : ∀ a ∈ as, ∀ octets, Part a octets →
    ∀ rest, read (octets ++ rest) = .ok (a, rest)) (h : InSequence Part as octets)
    (rest : List UInt8) :
    readMany read as.length (octets ++ rest) = .ok (as, rest) := by
  induction h with
  | nil => rfl
  | @cons a as octets octets' first _ ih =>
      obtain ⟨ha, has⟩ := List.forall_mem_cons.1 hread
      rw [List.length_cons, readMany, List.append_assoc, ha _ first]
      simp only [ok_bind, ih has]
      rfl

/-- Parts that are read back are read up to their number. -/
lemma readUpTo_append (hread : ∀ a ∈ as, ∀ octets, Part a octets →
    ∀ rest, read (octets ++ rest) = .ok (a, rest)) (h : InSequence Part as octets)
    (rest : List UInt8) :
    readUpTo read as.length (octets ++ rest) = as := by
  induction h with
  | nil => rfl
  | @cons a as octets octets' first _ ih =>
      obtain ⟨ha, has⟩ := List.forall_mem_cons.1 hread
      rw [List.length_cons, readUpTo, List.append_assoc, ha _ first]
      exact congrArg _ (ih has)

end InSequence

end Dns

end SenderPolicy
