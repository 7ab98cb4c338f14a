/-
Reading a form undoes writing it.

What percent-encoding leaves of a text are the characters that it keeps, percent signs and digits.
If all that it keeps is ASCII and no percent sign, the bytes of the text can be read off again
(`Web.percentDecode_percentEncode`).  A form keeps letters, digits, four marks and the blanks, which
it writes as plus signs; so none of the characters that a form puts between its texts occurs in
them, nor do those that end a query, and the texts, the fields and the form can be cut out where
they were put together (`Web.Form.decode_encode`).
-/
import Mathlib
import SenderPolicy.Proofs.Text.Split
import SenderPolicy.Proofs.Text.Utf8
import SenderPolicy.Web.Percent

namespace SenderPolicy.Web

open Text

/-! ### Percent-encoding -/

section Percent

variable {b : UInt8} {c : Char}

lemma utf8EncodeChar_of_lt (h : c.toNat < 128) :
    String.utf8EncodeChar c = [UInt8.ofNat c.toNat] := by
  have hle : c.val.toNat ≤ 127 := Nat.le_of_lt_succ h
  rw [String.utf8EncodeChar, if_pos hle]
  rfl

/-- A byte that is no percent sign stands for itself. -/
lemma percentDecode_cons (hb : b ≠ 0x25) (rest : List UInt8) :
    percentDecode (b :: rest) = b :: percentDecode rest := by
  rw [percentDecode]
  rintro a b rest rfl
  exact absurd rfl hb

lemma toNat_upperDigit_lt {n : Nat} (h : n < 16) : (Hex.upperDigit n).toNat < 128 := by
  have hdigit : ∀ m : Fin 16, (Hex.upperDigit m.val).toNat < 128 := by decide
  exact hdigit ⟨n, h⟩

/-- The byte of a digit is read as the digit. -/
lemma hexValue?_upperDigit {n : Nat} (h : n < 16) :
    hexValue? (UInt8.ofNat (Hex.upperDigit n).toNat) = some n := by
  have hoctet : (UInt8.ofNat (Hex.upperDigit n).toNat).toNat = (Hex.upperDigit n).toNat :=
    Utf8.toNat_octet (Nat.lt_trans (toNat_upperDigit_lt h) (by decide))
  rw [hexValue?, hoctet, Char.ofNat_toNat, Hex.value?_upperDigit h]

/-- The digits of a byte are read as that byte. -/
lemma percentDecode_percentByte (b : UInt8) (rest : List UInt8) :
    percentDecode ((percentByte b).flatMap String.utf8EncodeChar ++ rest) =
      b :: percentDecode rest := by
  have hhigh : b.toNat / 16 < 16 := Nat.div_lt_of_lt_mul b.toNat_lt
  have hlow : b.toNat % 16 < 16 := Nat.mod_lt _ (by decide)
  have hsum : b.toNat / 16 * 16 + b.toNat % 16 = b.toNat := by omega
  have htext : (percentByte b).flatMap String.utf8EncodeChar =
      [0x25, UInt8.ofNat (Hex.upperDigit (b.toNat / 16)).toNat,
        UInt8.ofNat (Hex.upperDigit (b.toNat % 16)).toNat] := by
    simp only [percentByte, List.flatMap_cons, List.flatMap_nil,
      utf8EncodeChar_of_lt (toNat_upperDigit_lt hhigh),
      utf8EncodeChar_of_lt (toNat_upperDigit_lt hlow)]
    rfl
  rw [htext, List.cons_append, List.cons_append, List.cons_append, List.nil_append, percentDecode]
  simp only [hexValue?_upperDigit hhigh, hexValue?_upperDigit hlow, hsum, UInt8.ofNat_toNat]

lemma percentDecode_flatMap_percentByte (bytes rest : List UInt8) :
    percentDecode ((bytes.flatMap percentByte).flatMap String.utf8EncodeChar ++ rest) =
      bytes ++ percentDecode rest := by
  induction bytes with
  | nil => rfl
  | cons b bytes ih =>
      rw [List.flatMap_cons, List.flatMap_append, List.append_assoc, percentDecode_percentByte, ih,
        List.cons_append]

/-- The bytes of a text that is percent-encoded are read off. -/
lemma percentDecode_percentEncode {keep : Char → Bool}
    (hkeep : ∀ c, keep c = true → c.toNat < 128 ∧ c ≠ '%') (s : List Char) :
    percentDecode ((percentEncode keep s).flatMap String.utf8EncodeChar) =
      s.flatMap String.utf8EncodeChar := by
  induction s with
  | nil => rfl
  | cons c s ih =>
      rw [percentEncode, List.flatMap_cons, List.flatMap_append, List.flatMap_cons, ← ih]
      cases hc : keep c with
      | true =>
          obtain ⟨hlt, hne⟩ := hkeep c hc
          have hb : UInt8.ofNat c.toNat ≠ 0x25 := by
            intro heq
            have hcode : c.toNat = 37 := by
              rw [← Utf8.toNat_octet (by omega : c.toNat < 256), heq]
              rfl
            exact hne (Char.toNat_inj.1 hcode)
          rw [if_pos rfl, List.flatMap_singleton, utf8EncodeChar_of_lt hlt, List.singleton_append,
            percentDecode_cons hb]
          rfl
      | false =>
          rw [if_neg Bool.false_ne_true, percentDecode_flatMap_percentByte]
          rfl

/-- What a percent-encoded text consists of. -/
lemma of_mem_percentEncode {keep : Char → Bool} {s : List Char} (h : c ∈ percentEncode keep s) :
    keep c = true ∨ c = '%' ∨ c.isAlphanum = true := by
  obtain ⟨d, -, hd⟩ := List.mem_flatMap.1 h
  split at hd
  · rename_i hkeep
    rw [List.mem_singleton.1 hd]
    exact Or.inl hkeep
  · have hdigit : ∀ n : Fin 16, (Hex.upperDigit n.val).isAlphanum = true := by decide
    obtain ⟨b, -, hb⟩ := List.mem_flatMap.1 hd
    have hlt : b.toNat < 256 := b.toNat_lt
    simp only [percentByte, List.mem_cons, List.not_mem_nil, or_false] at hb
    rcases hb with rfl | rfl | rfl
    · exact Or.inr (Or.inl rfl)
    · exact Or.inr (Or.inr (hdigit ⟨b.toNat / 16, by omega⟩))
    · exact Or.inr (Or.inr (hdigit ⟨b.toNat % 16, by omega⟩))

end Percent

namespace Form

/-! ### Texts of a form -/

/-- The characters of a text in a form: those that are left as they are, plus signs and percent
signs. -/
def isWritten (c : Char) : Bool := isPlain c || c == '+' || c == '%'

/-- A form keeps ASCII characters only. -/
lemma toNat_lt_of_isPlain {c : Char} (h : isPlain c = true) : c.toNat < 128 := by
  simp only [isPlain, Char.isAlphanum, Char.isAlpha, Char.isUpper, Char.isLower, Char.isDigit,
    Bool.or_eq_true, Bool.and_eq_true, decide_eq_true_eq, beq_iff_eq, UInt32.le_iff_toNat_le,
    ge_iff_le] at h
  have hcode : c.toNat = c.val.toNat := rfl
  have hupper : 'Z'.val.toNat = 90 := rfl
  have hlower : 'z'.val.toNat = 122 := rfl
  have hdigit : '9'.val.toNat = 57 := rfl
  rcases h with (((h | rfl) | rfl) | rfl) | rfl
  · omega
  all_goals decide

lemma ne_of_isPlain {c d : Char} (h : isPlain c = true) (hd : isPlain d = false) : c ≠ d := by
  rintro rfl
  rw [hd] at h
  cases h

/-- The characters that percent-encoding keeps in a form. -/
lemma of_isKept {c : Char} (h : (isPlain c || c == ' ') = true) : c.toNat < 128 ∧ c ≠ '%' := by
  rw [Bool.or_eq_true, beq_iff_eq] at h
  rcases h with h | rfl
  · exact ⟨toNat_lt_of_isPlain h, ne_of_isPlain h (by decide)⟩
  · decide

lemma of_mem_percentEncode {s : List Char} {c : Char}
    (h : c ∈ percentEncode (fun c => isPlain c || c == ' ') s) :
    isPlain c = true ∨ c = ' ' ∨ c = '%' := by
  rcases Web.of_mem_percentEncode h with hkeep | rfl | hdigit
  · rw [Bool.or_eq_true, beq_iff_eq] at hkeep
    exact hkeep.imp_right Or.inl
  · exact Or.inr (Or.inr rfl)
  · exact Or.inl (by simp [isPlain, hdigit])

lemma isWritten_of_mem_encodeText {s : String} {c : Char} (h : c ∈ (encodeText s).toList) :
    isWritten c = true := by
  rw [encodeText, String.toList_ofList] at h
  obtain ⟨d, hd, rfl⟩ := List.mem_map.1 h
  rcases of_mem_percentEncode hd with hplain | rfl | rfl
  · rw [if_neg (ne_of_isPlain hplain (by decide))]
    simp [isWritten, hplain]
  · rfl
  · rfl

/-- A text that is written in a form is read as that text. -/
lemma decodeText_encodeText (s : String) : decodeText (encodeText s).toList = s := by
  -- the plus signs are taken back first: one that is in the text itself has been encoded
  have hspaced : ((encodeText s).toList.map fun c => if c = '+' then ' ' else c) =
      percentEncode (fun c => isPlain c || c == ' ') s.toList := by
    rw [encodeText, String.toList_ofList, List.map_map]
    refine (List.map_congr_left fun c hc => ?_).trans (List.map_id _)
    rcases of_mem_percentEncode hc with hplain | rfl | rfl
    · have hblank : c ≠ ' ' := ne_of_isPlain hplain (by decide)
      have hplus : c ≠ '+' := ne_of_isPlain hplain (by decide)
      simp [hblank, hplus]
    · rfl
    · rfl
  have hbytes : percentDecode (Utf8.encode (String.ofList
      (percentEncode (fun c => isPlain c || c == ' ') s.toList))) = Utf8.encode s := by
    rw [Utf8.encode, String.toList_ofList, percentDecode_percentEncode fun c => of_isKept]
    rfl
  simp only [decodeText, hspaced, hbytes]
  rw [Utf8.decodeLossy, Utf8.pieces_encode, List.map_map]
  exact (congrArg String.ofList (List.map_id _)).trans String.ofList_toList

/-! ### Fields -/

/-- The text of a field. -/
def fieldText (field : String × String) : List Char :=
  (encodeText field.1).toList ++ '=' :: (encodeText field.2).toList

lemma toList_encode (form : List (String × String)) :
    (encode form).toList = ['&'].intercalate (form.map fieldText) := by
  have hfield : ∀ field ∈ form,
      (encodeText field.1 ++ "=" ++ encodeText field.2).toList = fieldText field := by
    intro field _
    simp [fieldText]
  rw [encode, String.toList_intercalate, List.map_map]
  exact congrArg (List.intercalate ['&']) (List.map_congr_left hfield)

lemma isWritten_or_eq_of_mem_fieldText {field : String × String} {c : Char}
    (h : c ∈ fieldText field) : isWritten c = true ∨ c = '=' := by
  rcases List.mem_append.1 h with h | h
  · exact Or.inl (isWritten_of_mem_encodeText h)
  · exact (List.mem_cons.1 h).symm.imp_left isWritten_of_mem_encodeText

lemma decodeField_fieldText (field : String × String) : decodeField (fieldText field) = field := by
  have hname : ∀ c ∈ (encodeText field.1).toList, (c != '=') = true := by
    intro c hc
    rw [bne_iff_ne]
    rintro rfl
    exact absurd (isWritten_of_mem_encodeText hc) (by decide)
  rw [decodeField, fieldText, List.takeWhile_append_of_pos hname,
    List.dropWhile_append_of_pos hname, List.takeWhile_cons_of_neg (by simp),
    List.dropWhile_cons_of_neg (by simp), List.append_nil, List.drop_one, List.tail_cons,
    decodeText_encodeText, decodeText_encodeText]

/-- A form that is written is read as that form. -/
lemma decode_encode (form : List (String × String)) : decode (encode form) = form := by
  cases form with
  | nil => rfl
  | cons field fields =>
      -- no ampersand is in a field, and no field is left out, as each has its equals sign
      have hfields : split (· == '&') (encode (field :: fields)).toList =
          (field :: fields).map fieldText := by
        rw [split_eq_splitOnP, toList_encode]
        refine List.splitOn_intercalate '&' ?_ (by simp)
        intro text htext hmem
        obtain ⟨f, -, rfl⟩ := List.mem_map.1 htext
        rcases isWritten_or_eq_of_mem_fieldText hmem with h | h
        · exact absurd h (by decide)
        · exact absurd h (by decide)
      have hfilter : ((field :: fields).map fieldText).filter (fun text => !text.isEmpty) =
          (field :: fields).map fieldText := by
        refine List.filter_eq_self.2 fun text htext => ?_
        obtain ⟨f, -, rfl⟩ := List.mem_map.1 htext
        simp [fieldText]
      rw [decode, hfields, hfilter, List.map_map]
      exact (List.map_congr_left fun f _ => decodeField_fieldText f).trans (List.map_id _)

/-- The characters of a form that is written: none of them ends a query. -/
lemma of_mem_encode {form : List (String × String)} {c : Char} (h : c ∈ (encode form).toList) :
    isWritten c = true ∨ c = '=' ∨ c = '&' := by
  rw [toList_encode] at h
  rcases mem_intercalate h with rfl | ⟨text, htext, hc⟩
  · exact Or.inr (Or.inr rfl)
  · obtain ⟨field, -, rfl⟩ := List.mem_map.1 htext
    exact (isWritten_or_eq_of_mem_fieldText hc).imp_right Or.inl

end Form

end SenderPolicy.Web
