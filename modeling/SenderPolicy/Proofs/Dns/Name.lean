/-
Names are read back, however they are compressed.

A name can be written in many ways: after any number of its labels there may be a pointer in place
of the others.  `Dns.Name.Written` says that octets are a way of writing some labels in a given
message, and counts the pointers that have to be followed.

The readers take a name apart at its first pointer: `spell` takes the labels before it, and
`labelsAt` goes on at the place that it names.  `Dns.Name.Written.spell_cases` says the same of the
ways of writing, so both readers give the labels back as long as they follow enough pointers.
-/
import SenderPolicy.Dns.Name
import SenderPolicy.Proofs.Dns.Octets
import SenderPolicy.Proofs.Text.Utf8

namespace SenderPolicy

namespace Dns

namespace Name

open Text

/-- A text that can be written as a label. -/
structure IsLabel (label : String) : Prop where
  ne_empty : label ≠ ""
  length_le : (Utf8.encode label).length ≤ maxLabelLength

/-- A text that is taken for one label of at most `limit` octets: its length does not start a
pointer. -/
structure IsLabelWithin (limit : Nat) (label : String) : Prop where
  ne_empty : label ≠ ""
  length_le : (Utf8.encode label).length ≤ limit
  length_lt : (Utf8.encode label).length < 0xC0

/-- The octets of a label, with its length. -/
def labelOctets (label : String) : List UInt8 :=
  UInt8.ofNat (Utf8.encode label).length :: Utf8.encode label

/-- The octets of a pointer to a place: two bits that are set and fourteen bits of the place. -/
def pointerOctets (place : Nat) : List UInt8 :=
  [UInt8.ofNat (0xC0 + place / 256), UInt8.ofNat place]

/-- The octets of a name without a pointer. -/
def plainOctets (labels : List String) : List UInt8 := labels.flatMap labelOctets ++ [0]

/-- `Written message pointers labels octets`: in the given message the `octets` are a way of writing
the `labels`, for which no more than the given number of pointers have to be followed. -/
inductive Written (message : List UInt8) : Nat → List String → List UInt8 → Prop where
  /-- There are no more labels. -/
  | root {pointers : Nat} : Written message pointers [] [0]
  /-- A label, and the others after it. -/
  | label {pointers : Nat} {label : String} {labels : List String} {octets : List UInt8}
      (hlabel : IsLabel label) (rest : Written message pointers labels octets) :
      Written message pointers (label :: labels) (labelOctets label ++ octets)
  /-- A pointer to a place in the message where the labels are written. -/
  | pointer {pointers place : Nat} {labels : List String} {octets rest : List UInt8}
      (hplace : place < 16384) (hdrop : message.drop place = octets ++ rest)
      (there : Written message pointers labels octets) :
      Written message (pointers + 1) labels (pointerOctets place)

variable {message octets rest : List UInt8} {pointers place limit : Nat} {label : String}
  {labels : List String} {short : WireError}

/-! ### Names without a pointer -/

lemma writeLabel_eq (h : IsLabel label) : writeLabel label = .ok (labelOctets label) := by
  simp only [writeLabel, labelOctets, if_neg (Nat.not_lt_of_le h.length_le)]

lemma write_eq (h : ∀ label ∈ labels, IsLabel label) : write labels = .ok (plainOctets labels) := by
  induction labels with
  | nil => rfl
  | cons label labels ih =>
      obtain ⟨hlabel, hlabels⟩ := List.forall_mem_cons.1 h
      rw [write, if_neg hlabel.ne_empty, writeLabel_eq hlabel, ok_bind, ih hlabels, ok_bind,
        plainOctets, plainOctets, List.flatMap_cons, List.append_assoc]
      rfl

/-- Empty labels are left out. -/
lemma write_filter_ne_empty (labels : List String) :
    write (labels.filter (· ≠ "")) = write labels := by
  induction labels with
  | nil => rfl
  | cons label labels ih =>
      by_cases hempty : label = ""
      · rw [List.filter_cons_of_neg (by simpa using hempty), ih, write, if_pos hempty]
      · rw [List.filter_cons_of_pos (by simpa using hempty), write, write, if_neg hempty,
          if_neg hempty, ih]

/-- In any message a name can be written without a pointer. -/
lemma written_plainOctets (message : List UInt8) (pointers : Nat)
    (h : ∀ label ∈ labels, IsLabel label) :
    Written message pointers labels (plainOctets labels) := by
  induction labels with
  | nil => exact .root
  | cons label labels ih =>
      obtain ⟨hlabel, hlabels⟩ := List.forall_mem_cons.1 h
      rw [plainOctets, List.flatMap_cons, List.append_assoc]
      exact .label hlabel (ih hlabels)

/-! ### Spelling -/

lemma isPointer_iff {b : UInt8} : isPointer b = true ↔ 192 ≤ b.toNat := by
  simp [isPointer, UInt8.le_iff_toNat_le]

lemma spell_root : spell limit short (0 :: rest) = .ok ([], .root rest) := by
  rw [spell, if_pos rfl]

lemma IsLabel.within (h : IsLabel label) (hlimit : maxLabelLength ≤ limit) :
    IsLabelWithin limit label where
  ne_empty := h.ne_empty
  length_le := Nat.le_trans h.length_le hlimit
  length_lt := Nat.lt_of_le_of_lt h.length_le (by decide)

lemma spell_pointer {high : UInt8} (h : isPointer high = true) :
    spell limit short (high :: rest) = .ok ([], .pointer high rest) := by
  have hzero : high ≠ 0 := by
    rintro rfl
    exact absurd h (by decide)
  rw [spell, if_neg hzero, if_pos h]

/-- After the length of a label as many octets are taken for the label. -/
lemma spell_length_cons (h : IsLabelWithin limit label) (rest : List UInt8) :
    spell limit short (UInt8.ofNat (Utf8.encode label).length :: rest) =
      if rest.length < (Utf8.encode label).length then .error short
      else (Utf8.decode? (rest.take (Utf8.encode label).length)).elim (.error .invalidLabel)
        fun first => do
          let (labels, ending) ← spell limit short (rest.drop (Utf8.encode label).length)
          return (first :: labels, ending) := by
  obtain ⟨hne, hle, hlt⟩ := h
  have hpos : 0 < (Utf8.encode label).length :=
    List.length_pos_iff.2 (mt Utf8.encode_eq_nil_iff.1 hne)
  generalize hn : UInt8.ofNat (Utf8.encode label).length = n
  have hlength : n.toNat = (Utf8.encode label).length := by
    rw [← hn, Utf8.toNat_octet (by omega)]
  -- the length neither ends the name nor starts a pointer
  have hzero : n ≠ 0 := fun h => by
    rw [h] at hlength
    exact absurd hlength (Nat.ne_of_lt hpos)
  have hpointer : ¬ isPointer n = true := by
    rw [isPointer_iff]
    omega
  rw [spell, if_neg hzero, if_neg hpointer, if_neg (by omega), hlength]
  cases Utf8.decode? (rest.take (Utf8.encode label).length) <;> rfl

/-- A label in front of other labels is spelled first. -/
lemma spell_labelOctets_append (h : IsLabelWithin limit label) (tail : List UInt8) :
    spell limit short (labelOctets label ++ tail) = (do
      let (labels, ending) ← spell limit short tail
      return (label :: labels, ending)) := by
  have hshort : ¬ (Utf8.encode label ++ tail).length < (Utf8.encode label).length := by
    rw [List.length_append]
    omega
  rw [labelOctets, List.cons_append, spell_length_cons h, if_neg hshort, List.take_left,
    List.drop_left, Utf8.decode?_encode]
  rfl

/-- A label that is cut short is not spelled. -/
lemma spell_take_labelOctets (h : IsLabelWithin limit label) {n : Nat}
    (hn : n < (labelOctets label).length) :
    spell limit short ((labelOctets label).take n) = .error short := by
  cases n with
  | zero => rw [List.take_zero, spell]
  | succ n =>
      rw [labelOctets, List.length_cons] at hn
      have hshort : ((Utf8.encode label).take n).length < (Utf8.encode label).length := by
        rw [List.length_take]
        omega
      rw [labelOctets, List.take_succ_cons, spell_length_cons h, if_pos hshort]

/-- A name that is cut short is not spelled. -/
lemma spell_take_plainOctets (h : ∀ label ∈ labels, IsLabel label)
    (hlimit : maxLabelLength ≤ limit) {n : Nat} (hn : n < (plainOctets labels).length) :
    spell limit short ((plainOctets labels).take n) = .error short := by
  induction labels generalizing n with
  | nil =>
      have hzero : n = 0 := Nat.lt_one_iff.1 hn
      rw [hzero, List.take_zero, spell]
  | cons label labels ih =>
      obtain ⟨hlabel, hlabels⟩ := List.forall_mem_cons.1 h
      rw [plainOctets, List.flatMap_cons, List.append_assoc, ← plainOctets] at hn ⊢
      rw [List.length_append] at hn
      rcases Nat.lt_or_ge n (labelOctets label).length with hlt | hge
      · -- the cut is in the first label
        rw [List.take_append_of_le_length (Nat.le_of_lt hlt),
          spell_take_labelOctets (hlabel.within hlimit) hlt]
      · rw [List.take_append, List.take_of_length_le hge,
          spell_labelOctets_append (hlabel.within hlimit), ih hlabels (by omega)]
        rfl

section Pointers

lemma toNat_high (hplace : place < 16384) :
    (UInt8.ofNat (0xC0 + place / 256)).toNat = 0xC0 + place / 256 :=
  Utf8.toNat_octet (by omega)

lemma spell_pointerOctets_append (hplace : place < 16384) :
    spell limit short (pointerOctets place ++ rest) =
      .ok ([], .pointer (UInt8.ofNat (0xC0 + place / 256)) (UInt8.ofNat place :: rest)) := by
  have hpointer : isPointer (UInt8.ofNat (0xC0 + place / 256)) = true := by
    rw [isPointer_iff, toNat_high hplace]
    omega
  rw [pointerOctets, List.cons_append, List.singleton_append, spell_pointer hpointer]

lemma target_pointerOctets (hplace : place < 16384) :
    target (UInt8.ofNat (0xC0 + place / 256)) (UInt8.ofNat place) = place := by
  rw [target, toNat_high hplace, UInt8.toNat_ofNat']
  omega

end Pointers

/-- What is spelled of a written name: all its labels, or those before the first pointer, and then
the others are written where the pointer leads. -/
lemma Written.spell_cases (h : Written message pointers labels octets) {limit : Nat}
    (hlimit : maxLabelLength ≤ limit) (short : WireError) (rest : List UInt8) :
    spell limit short (octets ++ rest) = .ok (labels, .root rest) ∨
      ∃ front back place more there others,
        spell limit short (octets ++ rest) = .ok (front,
          .pointer (UInt8.ofNat (0xC0 + place / 256)) (UInt8.ofNat place :: rest)) ∧
        labels = front ++ back ∧ pointers = more + 1 ∧ place < 16384 ∧
        message.drop place = there ++ others ∧ Written message more back there := by
  induction h with
  | root => exact Or.inl spell_root
  | @label pointers label labels octets hlabel _ ih =>
      rw [List.append_assoc, spell_labelOctets_append (hlabel.within hlimit)]
      rcases ih with hroot | ⟨front, back, place, more, there, others, hspell, rfl, hrest⟩
      · left
        rw [hroot]
        rfl
      · right
        refine ⟨label :: front, back, place, more, there, others, ?_, rfl, hrest⟩
        rw [hspell]
        rfl
  | @pointer pointers place labels octets others hplace hdrop there _ =>
      right
      exact ⟨[], labels, place, pointers, octets, others, spell_pointerOctets_append hplace, rfl,
        rfl, hplace, hdrop, there⟩

/-! ### Reading -/

/-- The labels that are written at a place are found there. -/
lemma Written.labelsAt_eq (h : Written message pointers labels octets)
    (hdrop : message.drop place = octets ++ rest) :
    labelsAt message pointers place = .ok labels := by
  have hlimit : maxLabelLength ≤ 0xBF := by decide
  -- what is written where a pointer leads has one pointer less to follow, as the reader has
  induction pointers generalizing labels octets place rest with
  | zero =>
      rcases h.spell_cases hlimit .invalidLabel rest with
        hroot | ⟨_, _, _, _, _, _, -, -, hmore, -⟩
      · rw [labelsAt, hdrop, hroot]
        rfl
      · cases hmore
  | succ pointers ih =>
      rcases h.spell_cases hlimit .invalidLabel rest with
        hroot | ⟨front, back, next, more, there, others, hspell, rfl, hmore, hplace, hnext, hback⟩
      · rw [labelsAt, hdrop, hroot]
        rfl
      · cases hmore
        rw [labelsAt, hdrop, hspell]
        simp only [ok_bind, target_pointerOctets hplace, ih hback hnext]
        rfl

/-- A name is read back, however it is written. -/
lemma Written.read_append (h : Written message (maxHops + 1) labels octets) (rest : List UInt8) :
    read message (octets ++ rest) = .ok (labels, rest) := by
  rcases h.spell_cases (Nat.le_refl maxLabelLength) .truncated rest with
    hroot | ⟨front, back, next, more, there, others, hspell, rfl, hmore, hplace, hnext, hback⟩
  · rw [read, hroot]
    rfl
  · cases hmore
    rw [read, hspell]
    simp only [ok_bind, target_pointerOctets hplace, hback.labelsAt_eq hnext]
    rfl

end Name

end Dns

end SenderPolicy
