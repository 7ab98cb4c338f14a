/-
Character-strings are read back, and make up the text that was cut into them.

Each string stands after its length, so a list of strings of at most 255 octets is taken apart
again at the same places, and octets that can be taken apart are those of the strings that come of
it.  Hence reading is the inverse of writing: each octet string has one list of strings at most
(`Dns.CharacterString.read_eq_ok_iff_written`).  A text is cut without regard to its characters, but
joining the strings comes before reading their octets as a text, so the places where it was cut do
not show.
-/
import Mathlib.Algebra.Order.Floor.Div
import Mathlib.GroupTheory.GroupAction.Ring
import SenderPolicy.Dns.CharacterString
import SenderPolicy.Proofs.Dns.Octets
import SenderPolicy.Proofs.Text.Utf8

namespace SenderPolicy

namespace Dns

namespace CharacterString

open Text

/-- The octets of character-strings, each after its length. -/
def stringOctets (strings : List (List UInt8)) : List UInt8 :=
  strings.flatMap fun s => UInt8.ofNat s.length :: s

variable {bytes : List UInt8} {strings : List (List UInt8)}

lemma write_eq (h : ∀ s ∈ strings, s.length ≤ maxLength) :
    write strings = .ok (stringOctets strings) := by
  induction strings with
  | nil => rfl
  | cons s strings ih =>
      obtain ⟨hs, hstrings⟩ := List.forall_mem_cons.1 h
      rw [write, if_neg (Nat.not_lt_of_le hs), ih hstrings]
      rfl

lemma read_stringOctets (h : ∀ s ∈ strings, s.length ≤ maxLength) :
    read (stringOctets strings) = .ok strings := by
  induction strings with
  | nil => rw [stringOctets, List.flatMap_nil, read]
  | cons s strings ih =>
      obtain ⟨hs, hstrings⟩ := List.forall_mem_cons.1 h
      simp only [maxLength] at hs
      have hlength : (UInt8.ofNat s.length).toNat = s.length := Utf8.toNat_octet (by omega)
      have hshort : ¬ (s ++ stringOctets strings).length < (UInt8.ofNat s.length).toNat := by
        rw [hlength, List.length_append]
        omega
      rw [stringOctets, List.flatMap_cons, ← stringOctets, List.cons_append, read, if_neg hshort,
        hlength, List.take_left, List.drop_left, ih hstrings]
      rfl

lemma write_eq_ok_iff :
    write strings = .ok bytes ↔
      (∀ s ∈ strings, s.length ≤ maxLength) ∧ bytes = stringOctets strings := by
  refine ⟨fun h => ?_, fun ⟨hstrings, hoctets⟩ => hoctets ▸ write_eq hstrings⟩
  induction strings generalizing bytes with
  | nil =>
      cases h
      exact ⟨List.forall_mem_nil _, rfl⟩
  | cons s strings ih =>
      rw [write] at h
      split at h
      case isTrue => cases h
      case isFalse hs =>
          obtain ⟨others, hothers, h⟩ := bind_eq_ok_iff.1 h
          cases h
          obtain ⟨hstrings, rfl⟩ := ih hothers
          exact ⟨List.forall_mem_cons.2 ⟨Nat.le_of_not_lt hs, hstrings⟩, rfl⟩

/-- Character-strings are the octets that they were read from.  A length that stands in one octet is
within the limit for them. -/
lemma stringOctets_of_read (h : read bytes = .ok strings) :
    stringOctets strings = bytes ∧ ∀ s ∈ strings, s.length ≤ maxLength := by
  fun_induction read bytes generalizing strings
  case case1 =>
      cases h
      exact ⟨rfl, List.forall_mem_nil _⟩
  case case2 => cases h
  case case3 n rest hshort ih =>
      obtain ⟨others, hothers, h⟩ := bind_eq_ok_iff.1 h
      cases h
      obtain ⟨hoctets, hlengths⟩ := ih hothers
      have hn := n.toNat_lt
      have hlength : (rest.take n.toNat).length = n.toNat :=
        List.length_take_of_le (Nat.le_of_not_lt hshort)
      refine ⟨?_, List.forall_mem_cons.2 ⟨?_, hlengths⟩⟩
      · rw [stringOctets, List.flatMap_cons, ← stringOctets, hoctets, hlength, UInt8.ofNat_toNat,
          List.cons_append, List.take_append_drop]
      · rw [hlength, maxLength]
        omega

/-- There is one thing only that can be wrong with octets that are read as character-strings. -/
lemma read_error {e : WireError} (h : read bytes = .error e) : e = .invalidAnswerSection := by
  fun_induction read bytes
  case case1 => cases h
  case case2 =>
      cases h
      rfl
  case case3 ih =>
      rcases bind_eq_error_iff.1 h with hrest | ⟨_, -, hreturn⟩
      · exact ih hrest
      · cases hreturn

/-- Reading is the inverse of writing.

Octets are read as some character-strings exactly if no string has more than 255 octets and the
octets are those of the strings one after the other, each behind its length; and this is so exactly
if they are what writing the strings gives.  Octets that are not written for any strings are
refused, and no others are.  No octets are written for two lists of strings. -/
theorem read_eq_ok_iff_written :
    (∀ bytes strings, read bytes = .ok strings ↔
      (∀ s ∈ strings, s.length ≤ 255) ∧
        (strings.flatMap fun s => UInt8.ofNat s.length :: s) = bytes) ∧
    (∀ bytes strings, read bytes = .ok strings ↔ write strings = .ok bytes) ∧
    (∀ bytes, read bytes = .error .invalidAnswerSection ↔ ¬ ∃ strings, write strings = .ok bytes) ∧
    ∀ bytes strings strings', write strings = .ok bytes → write strings' = .ok bytes →
      strings = strings' := by
  have hlayout : ∀ bytes strings, read bytes = .ok strings ↔
      (∀ s ∈ strings, s.length ≤ maxLength) ∧ stringOctets strings = bytes := by
    refine fun bytes strings => ⟨fun h => (stringOctets_of_read h).symm, ?_⟩
    rintro ⟨hstrings, rfl⟩
    exact read_stringOctets hstrings
  have hwritten : ∀ bytes strings, read bytes = .ok strings ↔ write strings = .ok bytes := by
    intro bytes strings
    rw [hlayout, write_eq_ok_iff, eq_comm]
  refine ⟨hlayout, hwritten, fun bytes => ?_, fun bytes strings strings' h h' => ?_⟩
  · simp only [← hwritten]
    cases hread : read bytes with
    | ok strings => simp
    | error e => simp [read_error hread]
  · -- both lists are what the octets are read as
    rw [← hwritten] at h h'
    exact Except.ok.inj (h.symm.trans h')

/-- Strings at both bounds of their length, the last of which looks like a length itself. -/
def edgeStrings : List (List UInt8) := [[], List.replicate 255 0x61, [0]]

/-- Empty strings and the longest ones are read back.  A last octet is taken for the length of an
empty string if it is zero, and is refused otherwise. -/
theorem read_eq_ok_iff_written_edge :
    write edgeStrings = .ok (stringOctets edgeStrings) ∧
      read (stringOctets edgeStrings) = .ok edgeStrings ∧
      (∀ strings, write strings = .ok (stringOctets edgeStrings) → strings = edgeStrings) ∧
      read [1, 0x61, 0] = .ok [[0x61], []] ∧
      ¬ ∃ strings, write strings = .ok [1, 0x61, 5] := by
  obtain ⟨hlayout, hwritten, hrefused, hunique⟩ := read_eq_ok_iff_written
  have hedge : write edgeStrings = .ok (stringOctets edgeStrings) := write_eq (by decide +kernel)
  refine ⟨hedge, (hwritten _ _).2 hedge, fun strings h => hunique _ _ _ h hedge,
    (hlayout _ _).2 (by decide), (hrefused _).1 ?_⟩
  simp [read]

/-- Every string takes an octet for its length. -/
lemma length_stringOctets (strings : List (List UInt8)) :
    (stringOctets strings).length = strings.flatten.length + strings.length := by
  induction strings with
  | nil => rfl
  | cons s strings ih =>
      rw [stringOctets, List.flatMap_cons, ← stringOctets, List.length_append, List.length_cons, ih,
        List.flatten_cons, List.length_append, List.length_cons]
      omega

/-! ### Cutting -/

lemma flatten_chunks (bytes : List UInt8) : (chunks bytes).flatten = bytes := by
  fun_induction chunks bytes with
  | case1 => rfl
  | case2 bytes _ ih => rw [List.flatten_cons, ih, List.take_append_drop]

/-- There are no empty strings, and none that is too long. -/
lemma length_of_mem_chunks {s : List UInt8} (h : s ∈ chunks bytes) :
    1 ≤ s.length ∧ s.length ≤ maxLength := by
  fun_induction chunks bytes with
  | case1 => cases h
  | case2 bytes hne ih =>
      rcases List.mem_cons.1 h with rfl | h
      · have hpos := List.length_pos_iff.2 hne
        rw [List.length_take, maxLength]
        omega
      · exact ih h

/-- There are no more strings than needed. -/
lemma length_chunks (bytes : List UInt8) :
    (chunks bytes).length = bytes.length ⌈/⌉ maxLength := by
  rw [Nat.ceilDiv_eq_add_pred_div, maxLength]
  fun_induction chunks bytes with
  | case1 => rfl
  | case2 bytes hne ih =>
      have hpos := List.length_pos_iff.2 hne
      rw [List.length_cons, ih, List.length_drop, maxLength]
      omega

/-- A text that was cut is joined to itself again, also where a character was cut. -/
lemma join_chunks_encode (text : String) : join (chunks (Utf8.encode text)) = text := by
  rw [join, flatten_chunks, Utf8.decodeLossy_encode]

end CharacterString

end Dns

end SenderPolicy
