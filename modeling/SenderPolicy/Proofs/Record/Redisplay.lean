/-
What the display forms of the terms of a record mean.

The reader makes a term of every word, but the display form of a term need not be the word that it
was read from.  It has another separator before the value, perhaps, and no mark for a pass.  So there
are four ways in which it can mean something else: without its mark the name starts like one, or is
empty; without a value the name is divided; the colon before the value is not the first one; or the
value of a modifier has a separator that is preferred to the equals sign.

If none of this is so for a term (`Term.Survives`), it is read back from its display form, and
otherwise it is not.  A record is read back from the display forms of its terms exactly if all its
terms survive (`Record.read_redisplayed`).
-/
import SenderPolicy.Proofs.Record.Display
import SenderPolicy.Proofs.Report.Document
import SenderPolicy.Proofs.Text.LowerCase

namespace SenderPolicy

open Text

/-! ### Terms of a record -/

/-- What is so for every term that a word stands for. -/
structure Term.IsRead (t : Term) : Prop where
  isCanonical : t.kind.IsCanonical
  name_ne_nil : t.value ≠ "" → t.kind.name.toList ≠ []
  name_not_blank : ∀ c ∈ t.kind.name.toList, isBlank c = false
  value_not_blank : ∀ c ∈ t.value.toList, isBlank c = false

/-- The display form of the term has its meaning. -/
structure Term.Survives (t : Term) : Prop where
  /-- A name whose mark is left out is not empty and does not start like a mark. -/
  unmarked : t.qualifier = .pass → t.kind.name.toList ≠ [] ∧
    ∀ c ∈ t.kind.name.toList.head?, Qualifier.ofChar? c = none
  /-- A name without a value cannot be divided. -/
  bare : t.value = "" → Record.separatorOf t.kind.name.toList = []
  /-- The colon before a value is the first one. -/
  colon : t.value ≠ "" → t.kind.isModifier = false → ':' ∉ t.kind.name.toList
  /-- The value of a modifier has no separators that are preferred to the equals sign. -/
  equals : t.value ≠ "" → t.kind.isModifier = true → ':' ∉ t.value.toList ∧ '/' ∉ t.value.toList

lemma Term.survives_iff {t : Term} : t.Survives ↔
    (t.qualifier = .pass → t.kind.name.toList ≠ [] ∧
      t.kind.name.toList.head?.all fun c => Qualifier.ofChar? c = none) ∧
    (t.value = "" → Record.separatorOf t.kind.name.toList = []) ∧
    (t.value ≠ "" → t.kind.isModifier = false → ':' ∉ t.kind.name.toList) ∧
    (t.value ≠ "" → t.kind.isModifier = true →
      ':' ∉ t.value.toList ∧ '/' ∉ t.value.toList) := by
  simp only [Option.all_eq_true, decide_eq_true_eq]
  exact ⟨fun ⟨h₁, h₂, h₃, h₄⟩ => ⟨h₁, h₂, h₃, h₄⟩, fun ⟨h₁, h₂, h₃, h₄⟩ => ⟨h₁, h₂, h₃, h₄⟩⟩

instance (t : Term) : Decidable t.Survives := decidable_of_iff' _ Term.survives_iff

variable {t : Term} {token name sep value : List Char} {c : Char}

lemma Kind.toList_name_ofName (name : List Char) :
    (ofName (String.ofList name)).name.toList = name.map Char.toLower := by
  rw [ofName, name_ofLowerName, String.toLower, String.toList_map, String.toList_ofList]

namespace Record

lemma Divided.name_ne_nil (h : Divided name sep value) (hsep : sep ≠ []) : name ≠ [] := by
  rintro rfl
  rcases nameAndValue_cases ([] ++ sep ++ value) with ⟨hnone, -⟩ | ⟨c, hone, hdivide, -⟩
  · exact hsep (h.sep_eq.trans hnone)
  · obtain rfl : sep = [c] := h.sep_eq.trans hone
    exact hdivide.2 rfl

/-- The parts of a term that a word stands for are parts of the word. -/
lemma IsTerm.isRead (h : IsTerm token t) (hblank : ∀ c ∈ token, isBlank c = false) : t.IsRead := by
  obtain ⟨mark, name, sep, value, rfl, -, hdivided, hkind, hvalue⟩ := h
  have hname : t.kind.name.toList = name.map Char.toLower := by
    rw [hkind, Kind.toList_name_ofName]
  simp only [List.forall_mem_append] at hblank
  obtain ⟨-, ⟨hblankName, -⟩, hblankValue⟩ := hblank
  refine ⟨?_, fun hne => ?_, ?_, ?_⟩
  · rw [hkind]
    exact Kind.isCanonical_ofName _
  · rw [hname, ne_eq, List.map_eq_nil_iff]
    refine hdivided.name_ne_nil fun hsep => hne ?_
    rw [hvalue, hdivided.value_eq hsep]
  · rw [hname, List.forall_mem_map]
    exact fun c hc => isBlank_toLower (hblankName c hc)
  · rw [hvalue, String.toList_ofList]
    exact hblankValue

/-! ### The separator of the display form -/

/-- A text is all name if no separator can divide it. -/
lemma divided_nil_iff : Divided name [] [] ↔ separatorOf name = [] :=
  ⟨fun h => by simpa using h.sep_eq.symm, divided_nil⟩

/-- The colon is preferred to the other separators, so it divides a text where it stands first. -/
lemma divided_colon_iff (hne : name ≠ []) : Divided name [':'] value ↔ ':' ∉ name := by
  have hcolon : separators = [] ++ ':' :: ['/', '='] := rfl
  exact ⟨fun h => h.not_mem ':' List.mem_cons_self,
    fun h => divided_singleton hne h hcolon (by simp)⟩

lemma not_canDivide_of_equals {s : List Char} (h : separatorOf s = ['=']) :
    ¬ CanDivide ':' s ∧ ¬ CanDivide '/' s := by
  rw [separatorOf, Option.toList_eq_singleton_iff, separators] at h
  by_cases hcolon : CanDivide ':' s
  · simp [hcolon] at h
  by_cases hslash : CanDivide '/' s
  · simp [hcolon, hslash] at h
  · exact ⟨hcolon, hslash⟩

/-- The equals sign divides a name from a value without the other separators. -/
lemma divided_equals_iff (hname : IsName name) :
    Divided name ['='] value ↔ ':' ∉ value ∧ '/' ∉ value := by
  have hequals : separators = [':', '/'] ++ '=' :: [] := rfl
  constructor
  · intro h
    obtain ⟨hcolon, hslash⟩ := not_canDivide_of_equals h.sep_eq.symm
    -- a separator of the value does not start the name, so it could divide the text
    have hvalue : ∀ c ∈ separators, c ∈ value → CanDivide c (name ++ ['='] ++ value) := by
      intro c hc hmem
      refine ⟨List.mem_append_right _ hmem, fun hhead => hname.not_separator c hc ?_⟩
      rw [List.append_assoc, List.head?_append_of_ne_nil _ hname.ne_nil] at hhead
      exact List.mem_of_mem_head? hhead
    exact ⟨mt (hvalue ':' (by decide)) hcolon, mt (hvalue '/' (by decide)) hslash⟩
  · exact fun h => hname.divided_singleton hequals (by simpa using h)

end Record

namespace Term

lemma divided_separatorFor_iff (hne : t.value ≠ "" → t.kind.name.toList ≠ []) :
    Record.Divided t.kind.name.toList t.separatorFor t.value.toList ↔
      (t.value = "" → Record.separatorOf t.kind.name.toList = []) ∧
      (t.value ≠ "" → t.kind.isModifier = false → ':' ∉ t.kind.name.toList) ∧
      (t.value ≠ "" → t.kind.isModifier = true → ':' ∉ t.value.toList ∧ '/' ∉ t.value.toList) := by
  rw [separatorFor]
  by_cases hvalue : t.value = ""
  · simp [hvalue, Record.divided_nil_iff]
  cases hmodifier : t.kind.isModifier with
  | false => simp [hvalue, Record.divided_colon_iff (hne hvalue)]
  | true =>
      have hname : IsName t.kind.name.toList := by
        refine isName_of_isUnknown_eq_false ?_
        cases hkind : t.kind with
        | unknown name =>
            rw [hkind] at hmodifier
            cases hmodifier
        | _ => rfl
      simp [hvalue, Record.divided_equals_iff hname]

/-! ### Terms -/

lemma length_separatorFor (t : Term) : t.separatorFor.length = if t.value = "" then 0 else 1 := by
  rw [separatorFor]
  split
  · rfl
  · split <;> rfl

/-- A word that is the display form of a term and stands for it has the mark of the term.  A mark
that is left out is not found at the start of a longer name, because the names are equally long. -/
lemma mark_eq_markOf {mark : List Char}
    (htoken : t.markOf ++ t.kind.name.toList ++ t.separatorFor = mark ++ name ++ sep)
    (hmarks : Record.Marks mark t.qualifier (name ++ sep ++ t.value.toList))
    (hdivided : Record.Divided name sep t.value.toList)
    (hlength : t.kind.name.toList.length = name.length) : mark = t.markOf := by
  unfold markOf at htoken ⊢
  generalize t.qualifier = q at htoken hmarks ⊢
  cases hmarks with
  | absent => rfl
  | @written c _ _ hc =>
      by_cases hpass : q = .pass
      · rw [if_pos hpass] at htoken
        have hlengths := congrArg List.length htoken
        simp only [List.length_append, List.length_nil, List.length_singleton,
          length_separatorFor] at hlengths
        by_cases hvalue : t.value = ""
        · rw [if_pos hvalue] at hlengths
          omega
        · -- the one separator would be the mark, and none be left for the value
          rw [if_neg hvalue] at hlengths
          have hsep : sep = [] := List.length_eq_zero_iff.1 (by omega)
          exact absurd (String.toList_eq_nil_iff.1 (hdivided.value_eq hsep)) hvalue
      · rw [if_neg hpass] at htoken ⊢
        rw [List.append_assoc, List.append_assoc] at htoken
        rw [List.head_eq_of_cons_eq htoken]

/-- The display form of a term stands for it exactly if its parts are those of the term. -/
lemma isTerm_display_iff (hcanonical : t.kind.IsCanonical) :
    Record.IsTerm t.display.toList t ↔
      Record.Marks t.markOf t.qualifier
          (t.kind.name.toList ++ t.separatorFor ++ t.value.toList) ∧
        Record.Divided t.kind.name.toList t.separatorFor t.value.toList := by
  constructor
  · rintro ⟨mark, name, sep, value, htoken, hmarks, hdivided, hkind, hvalue⟩
    have hlength : t.kind.name.toList.length = name.length := by
      rw [hkind, Kind.toList_name_ofName, List.length_map]
    obtain rfl : t.value.toList = value := by rw [hvalue, String.toList_ofList]
    have hfront : t.markOf ++ t.kind.name.toList ++ t.separatorFor = mark ++ name ++ sep := by
      rw [toList_display, ← List.append_assoc, ← List.append_assoc, ← List.append_assoc,
        ← List.append_assoc] at htoken
      exact List.append_cancel_right htoken
    obtain rfl := mark_eq_markOf hfront hmarks hdivided hlength
    rw [List.append_assoc, List.append_assoc, List.append_cancel_left_eq] at hfront
    obtain ⟨rfl, rfl⟩ := List.append_inj hfront hlength
    exact ⟨hmarks, hdivided⟩
  · rintro ⟨hmarks, hdivided⟩
    refine ⟨t.markOf, _, t.separatorFor, _, t.toList_display, hmarks, hdivided, ?_,
      String.ofList_toList.symm⟩
    rw [String.ofList_toList]
    exact hcanonical.symm

lemma marks_markOf_iff {rest : List Char} : Record.Marks t.markOf t.qualifier rest ↔
    (t.qualifier = .pass → ∀ c ∈ rest.head?, Qualifier.ofChar? c = none) := by
  refine ⟨fun h hpass => ?_, marks_markOf⟩
  rw [markOf, if_pos hpass, hpass] at h
  cases h with
  | absent hrest => exact hrest

/-- A term survives if its display form is not empty and stands for it. -/
lemma IsRead.survives_iff (h : t.IsRead) :
    t.Survives ↔ t.display ≠ "" ∧ Record.IsTerm t.display.toList t := by
  have hbody : t.kind.name.toList = [] →
      t.kind.name.toList ++ t.separatorFor ++ t.value.toList = [] := by
    intro hnil
    have hvalue : t.value = "" := not_not.1 (mt h.name_ne_nil (not_not.2 hnil))
    rw [hnil, separatorFor, if_pos hvalue, hvalue]
    rfl
  have hhead : t.kind.name.toList ≠ [] →
      (t.kind.name.toList ++ t.separatorFor ++ t.value.toList).head? =
        t.kind.name.toList.head? := by
    intro hne
    rw [List.append_assoc, List.head?_append_of_ne_nil _ hne]
  rw [isTerm_display_iff h.isCanonical, marks_markOf_iff, divided_separatorFor_iff h.name_ne_nil,
    ne_eq, ← String.toList_eq_nil_iff, toList_display]
  constructor
  · rintro ⟨hunmarked, hbare, hcolon, hequals⟩
    refine ⟨?_, fun hpass => ?_, hbare, hcolon, hequals⟩
    · by_cases hpass : t.qualifier = .pass
      · simp [(hunmarked hpass).1]
      · simp [markOf, hpass]
    · obtain ⟨hne, hmark⟩ := hunmarked hpass
      rwa [hhead hne]
  · rintro ⟨hdisplay, hmark, hbare, hcolon, hequals⟩
    refine ⟨fun hpass => ?_, hbare, hcolon, hequals⟩
    have hne : t.kind.name.toList ≠ [] := by
      intro hnil
      rw [hbody hnil, markOf, if_pos hpass] at hdisplay
      exact hdisplay rfl
    exact ⟨hne, hhead hne ▸ hmark hpass⟩

end Term

/-! ### Records -/

namespace Record

/-- The record of the display forms of some terms. -/
def redisplayed (ts : List Term) : String := written (ts.map fun t => (" ", t))

lemma isRead_of_mem_terms {record : String} (h : t ∈ (read record).terms) : t.IsRead := by
  rw [read_eq] at h
  by_cases htag : StartsWithTag ((words record.toList).headD [])
  · rw [readTokens_of_startsWithTag htag] at h
    obtain ⟨token, htoken, hterm⟩ := List.mem_map.1 h
    exact (isTerm_iff.2 hterm).isRead
      ((separated_words _).not_isBlank token (List.mem_of_mem_tail htoken))
  · rw [readTokens_of_not_startsWithTag htag] at h
    cases h

/-- What is read from display forms are the terms again if none of the forms is empty and each is
read as its term. -/
lemma map_termOfToken_display_eq_iff {ts : List Term} :
    ((ts.map fun t => t.display.toList).filter fun w => !w.isEmpty).map termOfToken = ts ↔
      ∀ t ∈ ts, t.display ≠ "" ∧ IsTerm t.display.toList t := by
  have hempty : ∀ t : Term, (!t.display.toList.isEmpty) = true ↔ t.display ≠ "" := by simp
  constructor
  · intro h
    -- no form was left out, for then there would be fewer terms
    have hall : ∀ w ∈ ts.map fun t => t.display.toList, (!w.isEmpty) = true := by
      rw [← List.length_filter_eq_length_iff, List.length_map]
      simpa using congrArg List.length h
    rw [List.filter_eq_self.2 hall, List.map_map] at h
    intro t ht
    refine ⟨(hempty t).1 (hall _ (List.mem_map_of_mem ht)), isTerm_iff.2 ?_⟩
    exact List.map_inj_left.1 (h.trans (List.map_id ts).symm) t ht
  · intro h
    have hall : ∀ w ∈ ts.map fun t => t.display.toList, (!w.isEmpty) = true :=
      List.forall_mem_map.2 fun t ht => (hempty t).2 (h t ht).1
    rw [List.filter_eq_self.2 hall, List.map_map]
    exact (List.map_congr_left fun t ht => isTerm_iff.1 (h t ht).2).trans (List.map_id ts)

/-- The record of the display forms of the terms of any record has a version.  It has the same terms
exactly if all of them survive. -/
theorem read_redisplayed (record : String) :
    (read (redisplayed (read record).terms)).version = some "spf1" ∧
    ((read (redisplayed (read record).terms)).terms = (read record).terms ↔
      ∀ t ∈ (read record).terms, t.Survives) := by
  have hread : ∀ t ∈ (read record).terms, t.IsRead := fun t => isRead_of_mem_terms
  have hspace : ∀ c ∈ " ".toList, isBlank c = true := List.all_eq_true.1 (by decide)
  have hspaced : IsSpaced ((read record).terms.map fun t => (" ", t)) := by
    refine List.forall_mem_map.2 fun t ht => ⟨by simp, hspace, ?_⟩
    exact Term.isBlank_of_mem_display (hread t ht).name_not_blank (hread t ht).value_not_blank
  rw [redisplayed, read_written_eq hspaced, List.map_map]
  refine ⟨rfl, map_termOfToken_display_eq_iff.trans (forall₂_congr fun t ht => ?_)⟩
  exact (hread t ht).survives_iff.symm

/-- A mark for a fail, a name with another mark in it, a modifier with an equals sign in its value,
and a name that starts with a separator. -/
def hardyRecord : String := "V=SPF1.1 -+Foo/1 exp:x=y :z"

/-- The hardy record is read back from the display forms of its terms. -/
theorem read_redisplayed_hardy :
    (∀ t ∈ (read hardyRecord).terms, t.Survives) ∧
      redisplayed (read hardyRecord).terms = "v=spf1 -+foo:1 exp=x=y :z" ∧
      (read (redisplayed (read hardyRecord).terms)).terms = (read hardyRecord).terms := by
  have hwords : words hardyRecord.toList =
      ["V=SPF1.1".toList, "-+Foo/1".toList, "exp:x=y".toList, ":z".toList] := by
    decide +kernel
  have hterms : (read hardyRecord).terms =
      [⟨.fail, .unknown "+foo", "1"⟩, ⟨.pass, .explanation, "x=y"⟩, ⟨.pass, .unknown ":z", ""⟩] := by
    rw [read_eq, hwords]
    decide +kernel
  have hsurvives : ∀ t ∈ (read hardyRecord).terms, t.Survives := by
    rw [hterms]
    decide +kernel
  refine ⟨hsurvives, ?_, (read_redisplayed hardyRecord).2.2 hsurvives⟩
  rw [hterms]
  decide +kernel

/-- A term that lets everybody pass becomes one that lets nobody pass. -/
theorem read_redisplayed_ne :
    (read "v=spf1 +-all").version = some "spf1" ∧
      (read "v=spf1 +-all").terms = [⟨.pass, .unknown "-all", ""⟩] ∧
      redisplayed (read "v=spf1 +-all").terms = "v=spf1 -all" ∧
      (read "v=spf1 -all").terms = [⟨.fail, .all, ""⟩] ∧
      (read (redisplayed (read "v=spf1 +-all").terms)).terms ≠ (read "v=spf1 +-all").terms := by
  decide +kernel

/-- A term without a name, a name that starts with a colon, one that a separator divides and no
value is left for, and a modifier with a colon in its value do not survive either. -/
example : ∀ record ∈ ["v=spf1 +", "v=spf1 :x/y", "v=spf1 x=y:", "v=spf1 redirect:a:b"],
    (read (redisplayed (read record).terms)).terms ≠ (read record).terms := by
  decide +kernel

end Record

end SenderPolicy
