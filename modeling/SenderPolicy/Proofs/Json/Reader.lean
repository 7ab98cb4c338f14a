/-
Documents that are printed are read back.

The two printers differ in the blanks only that they put between the parts of a document.  A
`Json.Layout` says where blanks go, and `Layout.chars` is the text of a document in a layout; the
compact and the indented form are the texts in two layouts (`Json.compactChars_eq`,
`Json.indentedChars_eq`).  Reading a text in any layout gives the document again if the document is
complete, which means that nothing of it was lost (`Json.Layout.readValue_chars`).  What follows the
text must not go on with the number that it may end in.

The induction is on the steps that reading may still take, which are twice as many as the text is
long: whenever the reader goes into a part, it leaves the bracket or the comma in front of the part
behind.
-/
import Mathlib.Data.List.TakeDrop
import SenderPolicy.Json.Decoder
import SenderPolicy.Json.Printer
import SenderPolicy.Proofs.Json.Quoted
import SenderPolicy.Proofs.Text.Utf8

namespace SenderPolicy

namespace Json

mutual

/-- A document of which nothing is lost: it has no number that was not kept and no unreadable
part. -/
def IsComplete : Json → Prop
  | null => True
  | bool _ => True
  | natural n => n < UInt64.size
  | otherNumber => False
  | string _ => True
  | array items => AreComplete items
  | object members => AreCompleteMembers members
  | unreadable => False

/-- All items are complete. -/
def AreComplete : List Json → Prop
  | [] => True
  | j :: js => IsComplete j ∧ AreComplete js

/-- All members are complete. -/
def AreCompleteMembers : List Member → Prop
  | [] => True
  | m :: ms => IsCompleteMember m ∧ AreCompleteMembers ms

/-- The member has a name and a complete value. -/
def IsCompleteMember : Member → Prop
  | .mk name value => name.isSome = true ∧ IsComplete value

end

lemma areComplete_iff {js : List Json} : AreComplete js ↔ ∀ j ∈ js, j.IsComplete := by
  induction js with
  | nil => simp [AreComplete]
  | cons j js ih => simp [AreComplete, ih]

@[simp] lemma isComplete_ofText? (s : Option String) : (ofText? s).IsComplete := by
  cases s <;> trivial

/-! ### Layouts -/

/-- A way of putting blanks into the text of a document. -/
structure Layout where
  /-- What stands in front of a part at the given level. -/
  line : Nat → List Char
  /-- What stands behind the colon of a member. -/
  afterColon : List Char
  isSpace_line : ∀ level, ∀ c ∈ line level, isSpace c = true
  isSpace_afterColon : ∀ c ∈ afterColon, isSpace c = true

namespace Layout

/-- Without blanks. -/
def compact : Layout where
  line _ := []
  afterColon := []
  isSpace_line := by simp
  isSpace_afterColon := by simp

/-- Every part on a line of its own. -/
def indented : Layout where
  line := newLine
  afterColon := [' ']
  isSpace_line level c hc := by
    rcases List.mem_cons.1 hc with rfl | hc
    · rfl
    · rw [List.eq_of_mem_replicate hc]
      rfl
  isSpace_afterColon := by simp [isSpace]

variable (l : Layout)

mutual

/-- The text of a document whose brackets stand at the given level. -/
def chars (level : Nat) : Json → List Char
  | array [] => ['[', ']']
  | array (j :: js) => '[' :: (l.line (level + 1) ++ (chars (level + 1) j ++ items level js))
  | object [] => ['{', '}']
  | object (m :: ms) => '{' :: (l.line (level + 1) ++ (member (level + 1) m ++ members level ms))
  | null => scalar null
  | bool b => scalar (bool b)
  | natural n => scalar (natural n)
  | otherNumber => scalar otherNumber
  | string s => scalar (string s)
  | unreadable => scalar unreadable

/-- The items after the first of an array whose brackets stand at the given level. -/
def items (level : Nat) : List Json → List Char
  | [] => l.line level ++ [']']
  | j :: js => ',' :: (l.line (level + 1) ++ (chars (level + 1) j ++ items level js))

/-- The members after the first of an object whose brackets stand at the given level. -/
def members (level : Nat) : List Member → List Char
  | [] => l.line level ++ ['}']
  | m :: ms => ',' :: (l.line (level + 1) ++ (member (level + 1) m ++ members level ms))

/-- One member of an object, at the given level. -/
def member (level : Nat) : Member → List Char
  | .mk name value => nameText name ++ ':' :: (l.afterColon ++ chars level value)

end

end Layout

mutual

lemma compactChars_eq (level : Nat) : ∀ j : Json, compactChars j = Layout.compact.chars level j
  | array [] => rfl
  | array (j :: js) => by
      rw [compactChars, Layout.chars, compactChars_eq (level + 1) j, compactItems_eq level js]
      rfl
  | object [] => rfl
  | object (m :: ms) => by
      rw [compactChars, Layout.chars, compactMember_eq (level + 1) m, compactMembers_eq level ms]
      rfl
  | null => rfl
  | bool _ => rfl
  | natural _ => rfl
  | otherNumber => rfl
  | string _ => rfl
  | unreadable => rfl

lemma compactItems_eq (level : Nat) :
    ∀ js : List Json, compactItems js = Layout.compact.items level js
  | [] => rfl
  | j :: js => by
      rw [compactItems, Layout.items, compactChars_eq (level + 1) j, compactItems_eq level js]
      rfl

lemma compactMembers_eq (level : Nat) :
    ∀ ms : List Member, compactMembers ms = Layout.compact.members level ms
  | [] => rfl
  | m :: ms => by
      rw [compactMembers, Layout.members, compactMember_eq (level + 1) m,
        compactMembers_eq level ms]
      rfl

lemma compactMember_eq (level : Nat) : ∀ m : Member, compactMember m = Layout.compact.member level m
  | .mk name value => by
      rw [compactMember, Layout.member, compactChars_eq level value]
      rfl

end

mutual

lemma indentedChars_eq (level : Nat) :
    ∀ j : Json, indentedChars level j = Layout.indented.chars level j
  | array [] => rfl
  | array (j :: js) => by
      rw [indentedChars, Layout.chars, indentedChars_eq (level + 1) j, indentedItems_eq level js]
      simp [Layout.indented]
  | object [] => rfl
  | object (m :: ms) => by
      rw [indentedChars, Layout.chars, indentedMember_eq (level + 1) m, indentedMembers_eq level ms]
      simp [Layout.indented]
  | null => rfl
  | bool _ => rfl
  | natural _ => rfl
  | otherNumber => rfl
  | string _ => rfl
  | unreadable => rfl

lemma indentedItems_eq (level : Nat) :
    ∀ js : List Json, indentedItems level js = Layout.indented.items level js
  | [] => rfl
  | j :: js => by
      rw [indentedItems, Layout.items, indentedChars_eq (level + 1) j, indentedItems_eq level js]
      simp [Layout.indented]

lemma indentedMembers_eq (level : Nat) :
    ∀ ms : List Member, indentedMembers level ms = Layout.indented.members level ms
  | [] => rfl
  | m :: ms => by
      rw [indentedMembers, Layout.members, indentedMember_eq (level + 1) m,
        indentedMembers_eq level ms]
      simp [Layout.indented]

lemma indentedMember_eq (level : Nat) :
    ∀ m : Member, indentedMember level m = Layout.indented.member level m
  | .mk name value => by
      rw [indentedMember, Layout.member, indentedChars_eq level value]
      rfl

end

/-! ### Numbers -/

/-- A text that does not go on with a number in front of it. -/
def EndsNumber (rest : List Char) : Prop :=
  ∀ c ∈ rest.head?, c.isDigit = false ∧ c ≠ '.' ∧ c ≠ 'e' ∧ c ≠ 'E'

lemma digitsValue_toDigits (n : Nat) : digitsValue (Nat.toDigits 10 n) = n := by
  have h := Nat.ofDigitChars_ten_toDigits (n := n)
  rw [Nat.ofDigitChars_eq_foldl] at h
  simp only [Nat.mul_comm 10] at h
  exact h

/-- A number is written with a digit in front. -/
lemma exists_toDigits_eq_cons (n : Nat) :
    ∃ c digits, Nat.toDigits 10 n = c :: digits ∧ c.isDigit = true := by
  obtain ⟨c, digits, hn⟩ := List.exists_cons_of_ne_nil (Nat.toDigits_ne_nil (n := n) (b := 10))
  have hmem : c ∈ Nat.toDigits 10 n := by
    rw [hn]
    exact List.mem_cons_self
  exact ⟨c, digits, hn, Nat.isDigit_of_mem_toDigits (by omega) (by omega) hmem⟩

/-- No number but zero is written with a zero in front. -/
lemma head?_toDigits_ne {n : Nat} (h : 0 < n) : (Nat.toDigits 10 n).head? ≠ some '0' := by
  induction n using Nat.strongRecOn with
  | ind n ih =>
      rcases Nat.lt_or_ge n 10 with hlt | hge
      · have hdigit : ∀ m : Fin 10, 0 < m.val → [Nat.digitChar m.val].head? ≠ some '0' := by
          decide
        rw [Nat.toDigits_of_lt_base hlt]
        exact hdigit ⟨n, hlt⟩ h
      · -- a number of several digits starts as its tenth does
        have hhead := ih (n / 10) (by omega) (by omega)
        obtain ⟨c, digits, hn, -⟩ := exists_toDigits_eq_cons (n / 10)
        rw [hn, List.head?_cons] at hhead
        rw [Nat.toDigits_of_base_le (by omega) hge, hn, List.cons_append, List.head?_cons]
        exact hhead

lemma span_isDigit_append {digits rest : List Char} (hdigits : ∀ c ∈ digits, c.isDigit = true)
    (hrest : EndsNumber rest) : (digits ++ rest).span Char.isDigit = (digits, rest) := by
  have hends : rest.takeWhile Char.isDigit = [] ∧ rest.dropWhile Char.isDigit = rest := by
    cases rest with
    | nil => exact ⟨rfl, rfl⟩
    | cons c rest =>
        have hc : ¬ c.isDigit = true := by simp [(hrest c rfl).1]
        exact ⟨List.takeWhile_cons_of_neg hc, List.dropWhile_cons_of_neg hc⟩
  rw [List.span_eq_takeWhile_dropWhile, List.takeWhile_append_of_pos hdigits,
    List.dropWhile_append_of_pos hdigits, hends.1, hends.2, List.append_nil]

lemma whole?_toDigits_append (n : Nat) {rest : List Char} (hrest : EndsNumber rest) :
    NumberText.whole? (Nat.toDigits 10 n ++ rest) = some (Nat.toDigits 10 n, rest) := by
  rcases Nat.eq_zero_or_pos n with rfl | hpos
  · rw [Nat.toDigits_zero]
    cases rest with
    | nil => rfl
    | cons c rest =>
        have hc := (hrest c rfl).1
        simp [NumberText.whole?, hc]
  · have hdigits : ∀ c ∈ Nat.toDigits 10 n, c.isDigit = true := fun c hc =>
      Nat.isDigit_of_mem_toDigits (by omega) (by omega) hc
    have hhead := head?_toDigits_ne hpos
    have hspan := span_isDigit_append hdigits hrest
    obtain ⟨c, digits, hn, -⟩ := exists_toDigits_eq_cons n
    rw [hn] at hhead hspan ⊢
    have hc : c ≠ '0' := by simpa using hhead
    rw [NumberText.whole?]
    · rw [hspan]
    · intro rest' heq
      exact hc (List.cons.inj heq).1

/-- A natural number that is kept is read up to its last digit. -/
lemma readNumber_toDigits_append {n : Nat} (hn : n < UInt64.size) {rest : List Char}
    (hrest : EndsNumber rest) :
    readNumber (Nat.toDigits 10 n ++ rest) = (natural n, some rest) := by
  have hwhole := whole?_toDigits_append n hrest
  have hfraction : NumberText.fraction? rest = some ([], rest) := by
    rw [NumberText.fraction?]
    rintro rest' rfl
    exact (hrest '.' rfl).2.1 rfl
  have hexponent : NumberText.exponent? rest = some (false, [], rest) := by
    cases rest with
    | nil => rfl
    | cons c rest =>
        obtain ⟨-, -, he, hE⟩ := hrest c rfl
        rw [NumberText.exponent?, if_neg (by simp [he, hE])]
  have hread : NumberText.read? (Nat.toDigits 10 n ++ rest) = some
      ({ negative := false, whole := Nat.toDigits 10 n, fraction := [],
         exponentNegative := false, exponent := [] }, rest) := by
    rw [NumberText.read?]
    · simp [hwhole, hfraction, hexponent]
    · intro rest' heq
      obtain ⟨c, digits, hn, hc⟩ := exists_toDigits_eq_cons n
      rw [hn, List.cons_append] at heq
      rw [(List.cons.inj heq).1] at hc
      cases hc
  rw [readNumber, hread]
  simp [NumberText.toJson, NumberText.isNatural, digitsValue_toDigits, hn]

/-! ### Parts of a text -/

section Parts

variable {w s rest : List Char} {c : Char} {fuel : Nat}

lemma skipSpace_append (hw : ∀ c ∈ w, isSpace c = true) : skipSpace (w ++ s) = skipSpace s :=
  List.dropWhile_append_of_pos hw

lemma skipSpace_cons (hc : isSpace c = false) : skipSpace (c :: s) = c :: s :=
  List.dropWhile_cons_of_neg (by simp [hc])

lemma isSpace_of_isDigit (hc : c.isDigit = true) : isSpace c = false := by
  rw [Bool.eq_false_iff]
  intro hspace
  simp only [isSpace, Bool.or_eq_true, beq_iff_eq] at hspace
  rcases hspace with ((rfl | rfl) | rfl) | rfl <;> cases hc

/-- Blanks in front of a value do not matter. -/
lemma readValue_append (hw : ∀ c ∈ w, isSpace c = true) :
    readValue fuel (w ++ s) = readValue fuel s := by
  cases fuel with
  | zero => rfl
  | succ fuel => rw [readValue, readValue, skipSpace_append hw]

lemma readItems_append (hw : ∀ c ∈ w, isSpace c = true) :
    readItems fuel (w ++ s) = readItems fuel s := by
  cases fuel with
  | zero => rfl
  | succ fuel => rw [readItems, readItems, readValue_append hw]

lemma readMembers_append (hw : ∀ c ∈ w, isSpace c = true) :
    readMembers fuel (w ++ s) = readMembers fuel s := by
  cases fuel with
  | zero => rfl
  | succ fuel => rw [readMembers, readMembers, skipSpace_append hw]

lemma readWord_append (word : String) (j : Json) :
    readWord word j (word.toList ++ rest) = (j, some rest) := by
  have hprefix : word.toList.isPrefixOf (word.toList ++ rest) = true := by simp
  have hdrop : (word.toList ++ rest).drop word.length = rest := by
    rw [← String.length_toList, List.drop_left]
  rw [readWord, if_pos hprefix, hdrop]

lemma readString_append (text : String) :
    readString (text.toList.flatMap Quoted.encodeChar ++ '"' :: rest) = (some text, some rest) := by
  rw [readString, Quoted.units?_flatMap_append]
  simp only [Quoted.chars?_map_toNat, Option.map_some, String.ofList_toList]

end Parts

/-! ### Reading back -/

lemma readValue_string (fuel : Nat) (text : String) (rest : List Char) :
    readValue (fuel + 1) (scalar (string text) ++ rest) = (string text, some rest) := by
  have htext : scalar (string text) ++ rest =
      '"' :: (text.toList.flatMap Quoted.encodeChar ++ '"' :: rest) := by
    simp [scalar, Quoted.encode]
  rw [htext, readValue, skipSpace_cons rfl]
  simp only [readString_append, ofString?]

lemma readValue_natural (fuel : Nat) {n : Nat} (hn : n < UInt64.size) {rest : List Char}
    (hrest : EndsNumber rest) :
    readValue (fuel + 1) (scalar (natural n) ++ rest) = (natural n, some rest) := by
  obtain ⟨c, digits, hdigits, hc⟩ := exists_toDigits_eq_cons n
  have hread := readNumber_toDigits_append hn hrest
  rw [scalar]
  rw [hdigits, List.cons_append] at hread ⊢
  rw [readValue, skipSpace_cons (isSpace_of_isDigit hc)]
  -- a digit is none of the characters that the other kinds of values start with
  split
  case h_7 => exact hread
  all_goals
    rename_i heq
    rw [(List.cons.inj heq).1] at hc
    cases hc

namespace Layout

variable (l : Layout)

/-- The text of a document starts with a character that is no blank and closes no array. -/
lemma exists_chars_eq_cons (level : Nat) (j : Json) :
    ∃ c s, l.chars level j = c :: s ∧ isSpace c = false ∧ c ≠ ']' := by
  cases j with
  | null => exact ⟨'n', "ull".toList, rfl, rfl, by decide⟩
  | bool b =>
      cases b with
      | false => exact ⟨'f', "alse".toList, rfl, rfl, by decide⟩
      | true => exact ⟨'t', "rue".toList, rfl, rfl, by decide⟩
  | natural n =>
      obtain ⟨c, digits, hdigits, hc⟩ := exists_toDigits_eq_cons n
      refine ⟨c, digits, hdigits, isSpace_of_isDigit hc, ?_⟩
      rintro rfl
      cases hc
  | otherNumber => exact ⟨'n', "ull".toList, rfl, rfl, by decide⟩
  | string s => exact ⟨'"', _, rfl, rfl, by decide⟩
  | array items =>
      cases items with
      | nil => exact ⟨'[', _, rfl, rfl, by decide⟩
      | cons j js => exact ⟨'[', _, rfl, rfl, by decide⟩
  | object members =>
      cases members with
      | nil => exact ⟨'{', _, rfl, rfl, by decide⟩
      | cons m ms => exact ⟨'{', _, rfl, rfl, by decide⟩
  | unreadable => exact ⟨'n', "ull".toList, rfl, rfl, by decide⟩

lemma length_chars_pos (level : Nat) (j : Json) : 0 < (l.chars level j).length := by
  obtain ⟨c, s, hchars, -, -⟩ := l.exists_chars_eq_cons level j
  rw [hchars]
  exact Nat.succ_pos _

lemma endsNumber_cons {c : Char} (hc : isSpace c = true ∨ c = ',' ∨ c = ']' ∨ c = '}')
    (rest : List Char) : EndsNumber (c :: rest) := by
  intro c' hhead
  cases hhead
  simp only [isSpace, Bool.or_eq_true, beq_iff_eq] at hc
  rcases hc with (((rfl | rfl) | rfl) | rfl) | rfl | rfl | rfl <;> decide

/-- No number goes on with the start of a line, or with a bracket. -/
lemma endsNumber_line_append (level : Nat) {c : Char} (hc : c = ']' ∨ c = '}')
    (rest : List Char) : EndsNumber (l.line level ++ c :: rest) := by
  cases hline : l.line level with
  | nil => exact endsNumber_cons (Or.inr (Or.inr hc)) rest
  | cons b w =>
      have hb := l.isSpace_line level b (by simp [hline])
      exact endsNumber_cons (Or.inl hb) _

lemma endsNumber_items (level : Nat) (js : List Json) (rest : List Char) :
    EndsNumber (l.items level js ++ rest) := by
  cases js with
  | nil =>
      rw [items, List.append_assoc]
      exact l.endsNumber_line_append level (Or.inl rfl) rest
  | cons j js => exact endsNumber_cons (by decide) _

lemma endsNumber_members (level : Nat) (ms : List Member) (rest : List Char) :
    EndsNumber (l.members level ms ++ rest) := by
  cases ms with
  | nil =>
      rw [members, List.append_assoc]
      exact l.endsNumber_line_append level (Or.inr rfl) rest
  | cons m ms => exact endsNumber_cons (by decide) _

section Brackets

variable {level fuel : Nat} {rest : List Char}

/-- The brackets of an array around its items. -/
lemma readValue_array {j : Json} {js : List Json}
    (hitems : readItems fuel (l.chars (level + 1) j ++ (l.items level js ++ rest)) =
      (j :: js, some rest)) :
    readValue (fuel + 1) (l.chars level (array (j :: js)) ++ rest) =
      (array (j :: js), some rest) := by
  obtain ⟨c, s, hchars, hspace, hclosing⟩ := l.exists_chars_eq_cons (level + 1) j
  rw [chars, List.cons_append, readValue, skipSpace_cons rfl]
  simp only [List.append_assoc]
  rw [skipSpace_append (l.isSpace_line (level + 1))]
  rw [hchars, List.cons_append] at hitems ⊢
  rw [skipSpace_cons hspace]
  -- an array that has items is not closed at once
  split
  case h_1 heq => exact absurd (List.cons.inj heq).1 hclosing
  case h_2 => rw [hitems]

lemma member_append (name : String) (value : Json) :
    l.member level (.mk (some name) value) ++ rest =
      '"' :: (name.toList.flatMap Quoted.encodeChar ++
        '"' :: ':' :: (l.afterColon ++ (l.chars level value ++ rest))) := by
  simp [member, nameText, Quoted.encode]

/-- The brackets of an object around its members. -/
lemma readValue_object {name : String} {value : Json} {ms : List Member}
    (hmembers : readMembers fuel
        (l.member (level + 1) (.mk (some name) value) ++ (l.members level ms ++ rest)) =
      (.mk (some name) value :: ms, some rest)) :
    readValue (fuel + 1) (l.chars level (object (.mk (some name) value :: ms)) ++ rest) =
      (object (.mk (some name) value :: ms), some rest) := by
  rw [chars, List.cons_append, readValue, skipSpace_cons rfl]
  simp only [List.append_assoc]
  rw [skipSpace_append (l.isSpace_line (level + 1))]
  rw [member_append] at hmembers ⊢
  rw [skipSpace_cons rfl]
  split
  case h_1 heq => exact absurd (List.cons.inj heq).1 (by decide)
  case h_2 => rw [hmembers]

/-- What stands behind the value of a member decides how reading goes on. -/
lemma readMembers_member {name : String} {value : Json}
    (hvalue : readValue fuel (l.chars level value ++ rest) = (value, some rest)) :
    readMembers (fuel + 1) (l.member level (.mk (some name) value) ++ rest) =
      match skipSpace rest with
      | '}' :: rest => ([.mk (some name) value], some rest)
      | ',' :: rest =>
        let (ms, rest) := readMembers fuel rest
        (.mk (some name) value :: ms, rest)
      | _ => ([.mk (some name) value, .mk none .unreadable], none) := by
  have hafter : readValue fuel (l.afterColon ++ (l.chars level value ++ rest)) =
      (value, some rest) := by
    rw [readValue_append l.isSpace_afterColon, hvalue]
  rw [member_append, readMembers, skipSpace_cons rfl]
  simp only [readString_append]
  rw [skipSpace_cons rfl]
  split
  case h_1 heq =>
    obtain rfl := (List.cons.inj heq).2
    exact hafter ▸ rfl
  case h_2 hne => exact absurd rfl (hne _)

end Brackets

mutual

/-- The text of a document is read as that document. -/
lemma readValue_chars : ∀ (j : Json) (level fuel : Nat) (rest : List Char), IsComplete j →
    EndsNumber rest → 2 * (l.chars level j).length ≤ fuel →
    readValue fuel (l.chars level j ++ rest) = (j, some rest)
  -- no text is empty, so there is always a step left to read it
  | j, level, 0, rest, _, _, hfuel => by
      have hpos := l.length_chars_pos level j
      omega
  | null, level, fuel + 1, rest, _, _, _ => readWord_append "null" null
  | bool true, level, fuel + 1, rest, _, _, _ => readWord_append "true" (bool true)
  | bool false, level, fuel + 1, rest, _, _, _ => readWord_append "false" (bool false)
  | natural n, level, fuel + 1, rest, hj, hrest, _ => readValue_natural fuel hj hrest
  | string s, level, fuel + 1, rest, _, _, _ => readValue_string fuel s rest
  | array [], level, fuel + 1, rest, _, _, _ => rfl
  | array (j :: js), level, fuel + 1, rest, hj, _, hfuel => by
      refine l.readValue_array (readItems_items j js level fuel rest hj ?_)
      simp only [chars, List.length_cons, List.length_append] at hfuel
      omega
  | object [], level, fuel + 1, rest, _, _, _ => rfl
  | object (.mk none _ :: _), _, _ + 1, _, hj, _, _ => by cases hj.1.1
  | object (.mk (some name) value :: ms), level, fuel + 1, rest, hj, _, hfuel => by
      refine l.readValue_object
        (readMembers_members (.mk (some name) value) ms level fuel rest hj ?_)
      simp only [chars, List.length_cons, List.length_append] at hfuel
      omega
termination_by _ _ fuel => fuel

/-- The items of an array are read up to the closing bracket. -/
lemma readItems_items : ∀ (j : Json) (js : List Json) (level fuel : Nat) (rest : List Char),
    AreComplete (j :: js) →
    2 * ((l.chars (level + 1) j).length + (l.items level js).length) ≤ fuel →
    readItems fuel (l.chars (level + 1) j ++ (l.items level js ++ rest)) = (j :: js, some rest)
  | j, js, level, 0, rest, _, hfuel => by
      have hpos := l.length_chars_pos (level + 1) j
      omega
  | j, js, level, fuel + 1, rest, hj, hfuel => by
      have hvalue := readValue_chars j (level + 1) fuel (l.items level js ++ rest) hj.1
        (l.endsNumber_items level js rest) (by
          have hpos : 0 < (l.items level js).length := by cases js <;> simp [items]
          omega)
      rw [readItems, hvalue]
      cases js with
      | nil =>
          simp only [items, List.append_assoc]
          rw [skipSpace_append (l.isSpace_line level)]
          rfl
      | cons j' js =>
          have hitems := readItems_items j' js level fuel rest hj.2 (by
            simp only [items, List.length_cons, List.length_append] at hfuel
            omega)
          simp only [items, List.cons_append, List.append_assoc]
          rw [skipSpace_cons rfl]
          simp only [readItems_append (l.isSpace_line (level + 1)), hitems]
termination_by _ _ _ fuel => fuel

/-- The members of an object are read up to the closing bracket. -/
lemma readMembers_members : ∀ (m : Member) (ms : List Member) (level fuel : Nat)
    (rest : List Char), AreCompleteMembers (m :: ms) →
    2 * ((l.member (level + 1) m).length + (l.members level ms).length) ≤ fuel →
    readMembers fuel (l.member (level + 1) m ++ (l.members level ms ++ rest)) =
      (m :: ms, some rest)
  | .mk none _, _, _, _, _, hm, _ => by cases hm.1.1
  | .mk (some name) value, ms, level, 0, rest, _, hfuel => by
      simp only [member, List.length_append, List.length_cons] at hfuel
      omega
  | .mk (some name) value, ms, level, fuel + 1, rest, hm, hfuel => by
      have hvalue := readValue_chars value (level + 1) fuel (l.members level ms ++ rest) hm.1.2
        (l.endsNumber_members level ms rest) (by
          simp only [member, List.length_append, List.length_cons] at hfuel
          omega)
      rw [l.readMembers_member hvalue]
      cases ms with
      | nil =>
          simp only [members, List.append_assoc]
          rw [skipSpace_append (l.isSpace_line level)]
          rfl
      | cons m' ms =>
          have hmembers := readMembers_members m' ms level fuel rest hm.2 (by
            simp only [members, List.length_cons, List.length_append] at hfuel
            omega)
          simp only [members, List.cons_append, List.append_assoc]
          rw [skipSpace_cons rfl]
          simp only [readMembers_append (l.isSpace_line (level + 1)), hmembers]
termination_by _ _ _ fuel => fuel

end

/-- The text of a complete document, also with blanks behind it, is a document and nothing else. -/
lemma read_chars_append {j : Json} (hj : j.IsComplete) {blanks : List Char}
    (hblanks : ∀ c ∈ blanks, isSpace c = true) : read (l.chars 0 j ++ blanks) = (j, true) := by
  have hends : EndsNumber blanks := by
    cases blanks with
    | nil => simp [EndsNumber]
    | cons c blanks => exact endsNumber_cons (Or.inl (hblanks c List.mem_cons_self)) blanks
  have hvalue := l.readValue_chars j 0 (2 * (l.chars 0 j ++ blanks).length + 2) blanks hj hends (by
    rw [List.length_append]
    omega)
  have hskip : skipSpace blanks = [] := by
    rw [← List.append_nil blanks, skipSpace_append hblanks]
    rfl
  rw [read, hvalue]
  simp only [hskip, List.isEmpty_nil]

lemma read_chars {j : Json} (hj : j.IsComplete) : read (l.chars 0 j) = (j, true) := by
  have hread := l.read_chars_append hj (List.forall_mem_nil _)
  rwa [List.append_nil] at hread

end Layout

section Texts

variable {α : Type} (d : Decoder α) {j : Json}

lemma decodeText_of_read {text : String} (h : read text.toList = (j, true)) :
    decodeText d text = d maxDepth j := by
  rw [decodeText, h]
  simp only
  split
  · rename_i h
    exact h.symm
  · rename_i h
    exact h.symm

/-- What a decoder makes of a printed document is what it makes of the document. -/
lemma decodeText_eq (hj : j.IsComplete) {text : String}
    (htext : text = j.compact ∨ text = j.indented) : decodeText d text = d maxDepth j := by
  refine decodeText_of_read d ?_
  rcases htext with rfl | rfl
  · rw [compact, String.toList_ofList, compactChars_eq 0, Layout.read_chars _ hj]
  · rw [indented, String.toList_ofList, indentedChars_eq 0, Layout.read_chars _ hj]

/-- The end of the last line does not matter. -/
lemma decodeText_indented_append (hj : j.IsComplete) :
    decodeText d (j.indented ++ "\n") = d maxDepth j := by
  have hline : ∀ c ∈ ['\n'], isSpace c = true := List.forall_mem_singleton.2 rfl
  refine decodeText_of_read d ?_
  rw [String.toList_append, indented, String.toList_ofList, indentedChars_eq 0]
  exact Layout.read_chars_append _ hj hline

/-- Nothing stands for the bytes of a text but the text itself. -/
lemma textOfBytes_encode (s : String) : textOfBytes (Text.Utf8.encode s) = s := by
  simp [textOfBytes, Text.Utf8.pieces_encode, List.flatMap_map]

lemma decodeBytes_encode (s : String) :
    decodeBytes d (Text.Utf8.encode s) = decodeText d s := by
  rw [decodeBytes, textOfBytes_encode]

end Texts

end Json

end SenderPolicy
