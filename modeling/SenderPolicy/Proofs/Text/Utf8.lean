/-
Reading UTF-8 undoes writing it, and only what is written can be read.

A character is written with one to four bytes.  For each of these lengths there is one lemma that
says, in terms of numbers, which bytes `pieces` takes for one character.  The bytes of a character
satisfy the condition of their length and carry its code point, so they are read as that character
whatever follows them (`Text.Utf8.pieces_encodeChar_append`), and a text is read character by
character.

In the other direction the bytes that `pieces` takes for a character are the bytes of that
character, by one lemma for each length again.  So bytes without a malformed piece are those of
exactly one text (`Text.Utf8.decode?_eq_some_iff`).
-/
import Mathlib.Tactic.Lemma
import SenderPolicy.Text.Utf8

namespace SenderPolicy

namespace Text

namespace Utf8

section Pieces

variable {a b c d : UInt8} (rest : List UInt8)

lemma isTail_iff : isTail b = true ↔ 128 ≤ b.toNat ∧ b.toNat ≤ 191 := by
  simp [isTail, UInt8.le_iff_toNat_le]

/-- Two leading bytes `x` and `y` restrict the byte after them, from below and from above. -/
lemma isSecond_iff {x y lo hi : UInt8} (hne : x ≠ y) (hlo : 128 ≤ lo.toNat) (hhi : hi.toNat ≤ 191) :
    (if a == x then lo ≤ b && b ≤ 0xBF else if a == y then 0x80 ≤ b && b ≤ hi else isTail b) =
      true ↔ 128 ≤ b.toNat ∧ b.toNat ≤ 191 ∧
        (a.toNat = x.toNat → lo.toNat ≤ b.toNat) ∧ (a.toNat = y.toNat → b.toNat ≤ hi.toNat) := by
  simp only [UInt8.toNat_inj]
  by_cases hx : a = x
  · subst hx
    simp [UInt8.le_iff_toNat_le, hne]
    omega
  · by_cases hy : a = y
    · subst hy
      simp [UInt8.le_iff_toNat_le, hx]
      omega
    · simp [isTail_iff, hx, hy]

lemma isSecondOfThree_iff : isSecondOfThree a b = true ↔ 128 ≤ b.toNat ∧ b.toNat ≤ 191 ∧
    (a.toNat = 224 → 160 ≤ b.toNat) ∧ (a.toNat = 237 → b.toNat ≤ 159) :=
  isSecond_iff (by decide) (by decide) (by decide)

lemma isSecondOfFour_iff : isSecondOfFour a b = true ↔ 128 ≤ b.toNat ∧ b.toNat ≤ 191 ∧
    (a.toNat = 240 → 144 ≤ b.toNat) ∧ (a.toNat = 244 → b.toNat ≤ 143) :=
  isSecond_iff (by decide) (by decide) (by decide)

lemma pieces_of_one (h : a.toNat < 128) :
    pieces (a :: rest) = some (Char.ofNat a.toNat) :: pieces rest := by
  have ha : a < 0x80 := UInt8.lt_iff_toNat_lt.2 h
  rw [pieces.eq_def]
  simp only [if_pos ha]

lemma pieces_of_two (h : 194 ≤ a.toNat ∧ a.toNat ≤ 223) (hb : isTail b = true) :
    pieces (a :: b :: rest) = some (char2 a b) :: pieces rest := by
  have h₁ : ¬ a.toNat < 128 := by omega
  rw [pieces.eq_def]
  simp [UInt8.lt_iff_toNat_lt, UInt8.le_iff_toNat_le, h₁, h, hb]

lemma pieces_of_three (h : 224 ≤ a.toNat ∧ a.toNat ≤ 239) (hb : isSecondOfThree a b = true)
    (hc : isTail c = true) :
    pieces (a :: b :: c :: rest) = some (char3 a b c) :: pieces rest := by
  have h₁ : ¬ a.toNat < 128 := by omega
  have h₂ : ¬ a.toNat ≤ 223 := by omega
  rw [pieces.eq_def]
  simp [UInt8.lt_iff_toNat_lt, UInt8.le_iff_toNat_le, h₁, h₂, h, hb, hc]

lemma pieces_of_four (h : 240 ≤ a.toNat ∧ a.toNat ≤ 244) (hb : isSecondOfFour a b = true)
    (hc : isTail c = true) (hd : isTail d = true) :
    pieces (a :: b :: c :: d :: rest) = some (char4 a b c d) :: pieces rest := by
  have h₁ : ¬ a.toNat < 128 := by omega
  have h₂ : ¬ a.toNat ≤ 223 := by omega
  have h₃ : ¬ a.toNat ≤ 239 := by omega
  rw [pieces.eq_def]
  simp [UInt8.lt_iff_toNat_lt, UInt8.le_iff_toNat_le, h₁, h₂, h₃, h, hb, hc, hd]

end Pieces

/-! ### Characters -/

section Characters

/-- The byte that carries the last six bits of a number. -/
def tailOctet (n : Nat) : UInt8 := UInt8.ofNat (n % 64 + 128)

lemma toNat_octet {n : Nat} (h : n < 256) : (UInt8.ofNat n).toNat = n :=
  UInt8.toNat_ofNat_of_lt' h

lemma toNat_tailOctet (n : Nat) : (tailOctet n).toNat = n % 64 + 128 := by
  rw [tailOctet, toNat_octet (by omega)]

@[simp] lemma isTail_tailOctet (n : Nat) : isTail (tailOctet n) = true := by
  rw [isTail_iff, toNat_tailOctet]
  omega

@[simp] lemma tailBits_tailOctet (n : Nat) : tailBits (tailOctet n) = n % 64 := by
  rw [tailBits, toNat_tailOctet]
  omega

/-- The bytes of a character are read as that character, whatever follows them. -/
lemma pieces_encodeChar_append (ch : Char) (rest : List UInt8) :
    pieces (String.utf8EncodeChar ch ++ rest) = some ch :: pieces rest := by
  have hvalid : ch.val.toNat < 0xD800 ∨ 0xDFFF < ch.val.toNat ∧ ch.val.toNat < 0x110000 := ch.valid
  have hch : Char.ofNat ch.val.toNat = ch := Char.ofNat_toNat ch
  rw [String.utf8EncodeChar]
  generalize ch.val.toNat = v at hvalid hch
  split
  · -- one byte
    have ha : (UInt8.ofNat v).toNat = v := toNat_octet (by omega)
    rw [List.singleton_append, pieces_of_one rest (by omega), ha, hch]
  split
  · -- two bytes
    have ha : (UInt8.ofNat (v / 64 % 32 + 192)).toNat = v / 64 % 32 + 192 := toNat_octet (by omega)
    have hcode : (v / 64 % 32 + 192) % 32 * 64 + v % 64 = v := by omega
    change pieces (_ :: tailOctet v :: rest) = _
    rw [pieces_of_two rest (by omega) (isTail_tailOctet v), char2, ha, tailBits_tailOctet, hcode,
      hch]
  split
  · -- three bytes
    have ha : (UInt8.ofNat (v / 4096 % 16 + 224)).toNat = v / 4096 % 16 + 224 :=
      toNat_octet (by omega)
    have hb : isSecondOfThree (UInt8.ofNat (v / 4096 % 16 + 224)) (tailOctet (v / 64)) = true := by
      rw [isSecondOfThree_iff, ha, toNat_tailOctet]
      omega
    have hcode : (v / 4096 % 16 + 224) % 16 * 4096 + v / 64 % 64 * 64 + v % 64 = v := by omega
    change pieces (_ :: tailOctet (v / 64) :: tailOctet v :: rest) = _
    rw [pieces_of_three rest (by omega) hb (isTail_tailOctet v), char3, ha, tailBits_tailOctet,
      tailBits_tailOctet, hcode, hch]
  · -- four bytes
    have ha : (UInt8.ofNat (v / 262144 % 8 + 240)).toNat = v / 262144 % 8 + 240 :=
      toNat_octet (by omega)
    have hb : isSecondOfFour (UInt8.ofNat (v / 262144 % 8 + 240)) (tailOctet (v / 4096)) =
        true := by
      rw [isSecondOfFour_iff, ha, toNat_tailOctet]
      omega
    have hcode : (v / 262144 % 8 + 240) % 8 * 262144 + v / 4096 % 64 * 4096 + v / 64 % 64 * 64 +
        v % 64 = v := by omega
    change pieces (_ :: tailOctet (v / 4096) :: tailOctet (v / 64) :: tailOctet v :: rest) = _
    rw [pieces_of_four rest (by omega) hb (isTail_tailOctet _) (isTail_tailOctet v), char4, ha,
      tailBits_tailOctet, tailBits_tailOctet, tailBits_tailOctet, hcode, hch]

end Characters

/-! ### Texts -/

/-- The pieces of a text that is written are its characters. -/
lemma pieces_encode (s : String) : pieces (encode s) = s.toList.map some := by
  rw [encode]
  induction s.toList with
  | nil => rfl
  | cons ch chs ih => rw [List.flatMap_cons, pieces_encodeChar_append, ih, List.map_cons]

lemma mapM_id_map_some {α : Type} (l : List α) : (l.map some).mapM id = some l := by
  induction l with
  | nil => rfl
  | cons a l ih =>
      rw [List.map_cons, List.mapM_cons, ih]
      rfl

/-- Reading a text that is written gives the text. -/
lemma decode?_encode (s : String) : decode? (encode s) = some s := by
  rw [decode?, pieces_encode, mapM_id_map_some, Option.map_some, String.ofList_toList]

lemma encode_inj {s t : String} : encode s = encode t ↔ s = t := by
  refine ⟨fun h => ?_, congrArg encode⟩
  rw [← Option.some_inj, ← decode?_encode, h, decode?_encode]

/-- A text that is written has no malformed piece, so the lenient reader gives the text as well. -/
lemma decodeLossy_encode (s : String) : decodeLossy (encode s) = s := by
  have hpieces : (s.toList.map some).map (fun piece => piece.getD '\uFFFD') = s.toList := by
    rw [List.map_map]
    exact List.map_id _
  rw [decodeLossy, pieces_encode, hpieces, String.ofList_toList]

/-- As many bytes are written as the text is counted to have. -/
lemma length_encode (s : String) : (encode s).length = s.utf8ByteSize := by
  have htext : s.toByteArray = (encode s).toByteArray := by
    rw [encode, ← List.utf8Encode, ← String.toByteArray_ofList, String.ofList_toList]
  rw [String.utf8ByteSize, htext, List.size_toByteArray]

lemma encode_eq_nil_iff {s : String} : encode s = [] ↔ s = "" := by
  constructor
  · intro h
    have hpieces := pieces_encode s
    rw [h] at hpieces
    rw [← String.toList_eq_nil_iff]
    exact List.map_eq_nil_iff.1 hpieces.symm
  · rintro rfl
    rfl

/-! ### Bytes that are read -/

section Bytes

variable {a b c d : UInt8}

lemma toNat_val_ofNat {n : Nat} (h : n.isValidChar) : (Char.ofNat n).val.toNat = n := by
  rw [Char.ofNat, dif_pos h]
  rfl

lemma ofNat_eq_of_toNat_eq {n : Nat} (h : a.toNat = n) : UInt8.ofNat n = a := by
  rw [← h, UInt8.ofNat_toNat]

lemma encodeChar_of_one (h : a.toNat < 128) :
    String.utf8EncodeChar (Char.ofNat a.toNat) = [a] := by
  have hvalid : a.toNat.isValidChar := Or.inl (by omega)
  rw [String.utf8EncodeChar, toNat_val_ofNat hvalid, if_pos (by omega), UInt8.ofNat_toNat]

lemma encodeChar_char2 (h : 194 ≤ a.toNat ∧ a.toNat ≤ 223) (hb : isTail b = true) :
    String.utf8EncodeChar (char2 a b) = [a, b] := by
  rw [isTail_iff] at hb
  rw [char2, tailBits]
  generalize hv : a.toNat % 32 * 64 + b.toNat % 64 = v
  have hvalid : v.isValidChar := Or.inl (by omega)
  have ha : a.toNat = v / 64 % 32 + 192 := by omega
  have hb : b.toNat = v % 64 + 128 := by omega
  rw [String.utf8EncodeChar, toNat_val_ofNat hvalid, if_neg (by omega), if_pos (by omega),
    ofNat_eq_of_toNat_eq ha, ofNat_eq_of_toNat_eq hb]

lemma encodeChar_char3 (h : 224 ≤ a.toNat ∧ a.toNat ≤ 239) (hb : isSecondOfThree a b = true)
    (hc : isTail c = true) : String.utf8EncodeChar (char3 a b c) = [a, b, c] := by
  rw [isSecondOfThree_iff] at hb
  rw [isTail_iff] at hc
  rw [char3, tailBits, tailBits]
  generalize hv : a.toNat % 16 * 4096 + b.toNat % 64 * 64 + c.toNat % 64 = v
  have hvalid : v < 55296 ∨ 57343 < v ∧ v < 1114112 := by omega
  have ha : a.toNat = v / 4096 % 16 + 224 := by omega
  have hb : b.toNat = v / 64 % 64 + 128 := by omega
  have hc : c.toNat = v % 64 + 128 := by omega
  rw [String.utf8EncodeChar, toNat_val_ofNat hvalid, if_neg (by omega), if_neg (by omega),
    if_pos (by omega), ofNat_eq_of_toNat_eq ha, ofNat_eq_of_toNat_eq hb, ofNat_eq_of_toNat_eq hc]

lemma encodeChar_char4 (h : 240 ≤ a.toNat ∧ a.toNat ≤ 244) (hb : isSecondOfFour a b = true)
    (hc : isTail c = true) (hd : isTail d = true) :
    String.utf8EncodeChar (char4 a b c d) = [a, b, c, d] := by
  rw [isSecondOfFour_iff] at hb
  rw [isTail_iff] at hc hd
  rw [char4, tailBits, tailBits, tailBits]
  generalize hv :
    a.toNat % 8 * 262144 + b.toNat % 64 * 4096 + c.toNat % 64 * 64 + d.toNat % 64 = v
  have hvalid : v < 55296 ∨ 57343 < v ∧ v < 1114112 := by omega
  have ha : a.toNat = v / 262144 % 8 + 240 := by omega
  have hb : b.toNat = v / 4096 % 64 + 128 := by omega
  have hc : c.toNat = v / 64 % 64 + 128 := by omega
  have hd : d.toNat = v % 64 + 128 := by omega
  rw [String.utf8EncodeChar, toNat_val_ofNat hvalid, if_neg (by omega), if_neg (by omega),
    if_neg (by omega), ofNat_eq_of_toNat_eq ha, ofNat_eq_of_toNat_eq hb, ofNat_eq_of_toNat_eq hc,
    ofNat_eq_of_toNat_eq hd]

/-- Bytes whose first piece is a character start with the bytes of that character. -/
lemma exists_of_pieces_eq_cons {bytes : List UInt8} {ch : Char} {more : List (Option Char)}
    (h : pieces bytes = some ch :: more) :
    ∃ rest, bytes = String.utf8EncodeChar ch ++ rest ∧ pieces rest = more := by
  revert h
  -- in all other cases there is no piece, or the first one is malformed
  fun_cases pieces bytes <;> intro h <;>
    simp only [List.cons.injEq, Option.some.injEq, reduceCtorEq, false_and] at h <;>
    obtain ⟨rfl, rfl⟩ := h
  case case2 a rest hone =>
      have ha : a.toNat < 128 := UInt8.lt_iff_toNat_lt.1 hone
      exact ⟨rest, by rw [encodeChar_of_one ha, List.singleton_append], rfl⟩
  case case4 a _ htwo b rest hb =>
      have ha : 194 ≤ a.toNat ∧ a.toNat ≤ 223 := by simpa [UInt8.le_iff_toNat_le] using htwo
      exact ⟨rest, by rw [encodeChar_char2 ha hb]; rfl, rfl⟩
  case case8 a _ _ hthree b hb c rest hc =>
      have ha : 224 ≤ a.toNat ∧ a.toNat ≤ 239 := by simpa [UInt8.le_iff_toNat_le] using hthree
      exact ⟨rest, by rw [encodeChar_char3 ha hb hc]; rfl, rfl⟩
  case case14 a _ _ _ hfour b hb c hc d rest hd =>
      have ha : 240 ≤ a.toNat ∧ a.toNat ≤ 244 := by simpa [UInt8.le_iff_toNat_le] using hfour
      exact ⟨rest, by rw [encodeChar_char4 ha hb hc hd]; rfl, rfl⟩

lemma eq_nil_of_pieces_eq_nil {bytes : List UInt8} (h : pieces bytes = []) : bytes = [] := by
  revert h
  fun_cases pieces bytes <;> intro h
  · rfl
  all_goals cases h

/-- Bytes without a malformed piece are those of their characters. -/
lemma flatMap_encodeChar_of_pieces {bytes : List UInt8} {chs : List Char}
    (h : pieces bytes = chs.map some) : chs.flatMap String.utf8EncodeChar = bytes := by
  induction chs generalizing bytes with
  | nil => exact (eq_nil_of_pieces_eq_nil h).symm
  | cons ch chs ih =>
      obtain ⟨rest, rfl, hrest⟩ := exists_of_pieces_eq_cons h
      rw [List.flatMap_cons, ih hrest]

lemma eq_map_some_of_mapM_id {α : Type} {l : List (Option α)} {as : List α}
    (h : l.mapM id = some as) : l = as.map some := by
  induction l generalizing as with
  | nil =>
      cases h
      rfl
  | cons a l ih =>
      simp only [List.mapM_cons, id, Option.bind_eq_bind, Option.bind_eq_some_iff, Option.pure_def,
        Option.some.injEq] at h
      obtain ⟨a', rfl, as', has, rfl⟩ := h
      rw [ih has, List.map_cons]

/-- The text that is read is the one that is written with these bytes. -/
lemma decode?_eq_some_iff {bytes : List UInt8} {s : String} :
    decode? bytes = some s ↔ bytes = encode s := by
  constructor
  · intro h
    obtain ⟨chs, hchs, rfl⟩ := Option.map_eq_some_iff.1 h
    have hpieces := eq_map_some_of_mapM_id hchs
    rw [encode, String.toList_ofList, flatMap_encodeChar_of_pieces hpieces]
  · rintro rfl
    exact decode?_encode s

end Bytes

end Utf8

end Text

end SenderPolicy
