/-
Terms are read back from their display form.

The display form has a colon before a value, or an equals sign if the term is a modifier, and a
reader prefers the colon to all other separators, wherever it stands.  So a value may have any
separators in it, except that the value of a modifier must have none that is preferred to the equals
sign.  A name must have no separator at all, and it must not start like a qualifier, because the
qualifier for a pass is left out (`Term.IsReadable`).

A record that is written with any blanks between such terms is read as these terms, in order.
-/
import SenderPolicy.Proofs.Record.Reading

namespace SenderPolicy

open Text

/-! ### Names -/

/-- A text that is read as the whole name of a term if it stands where the name belongs. -/
structure IsName (name : List Char) : Prop where
  ne_nil : name ≠ []
  not_blank : ∀ c ∈ name, isBlank c = false
  not_separator : ∀ c ∈ Record.separators, c ∉ name
  not_qualifier : ∀ c ∈ name.head?, Qualifier.ofChar? c = none

lemma isName_iff {name : List Char} :
    IsName name ↔ name ≠ [] ∧ name.any isBlank = false ∧
      Record.separators.any name.contains = false ∧
      (name.head?.bind Qualifier.ofChar?) = none := by
  constructor
  · rintro ⟨hne, hblank, hsep, hqualifier⟩
    exact ⟨hne, by simpa using hblank, by simpa using hsep, by simpa using hqualifier⟩
  · rintro ⟨hne, hblank, hsep, hqualifier⟩
    exact ⟨hne, by simpa using hblank, by simpa using hsep, by simpa using hqualifier⟩

instance (name : List Char) : Decidable (IsName name) := decidable_of_iff' _ isName_iff

/-- The name of a kind that RFC 7208 does not define, in lower case and without anything that has a
meaning of its own. -/
structure IsFreeName (name : String) : Prop extends IsName name.toList where
  toLower_eq : name.toLower = name
  not_defined : ∀ k : Kind, k.isUnknown = false → k.name ≠ name

/-- A term that can be read back from its display form. -/
structure Term.IsReadable (t : Term) : Prop where
  value_not_blank : ∀ c ∈ t.value.toList, isBlank c = false
  modifier : t.kind.isModifier = true → ':' ∉ t.value.toList ∧ '/' ∉ t.value.toList
  name : ∀ name, t.kind = .unknown name → IsFreeName name

variable {k : Kind} {t : Term} {name : String} {ts : List Term} {ps : List (String × Term)}

lemma isName_of_isUnknown_eq_false (h : k.isUnknown = false) : IsName k.name.toList := by
  cases k with
  | unknown name => cases h
  | _ => decide

/-! ### Division -/

section Division

variable {name value preferred others : List Char} {c : Char}

namespace Record

/-- A text that no separator can divide is a name. -/
lemma divided_nil (h : separatorOf name = []) : Divided name [] [] where
  sep_eq := by simpa using h.symm
  not_mem := by simp
  value_eq _ := rfl

/-- A separator divides a text where it stands first, if there are no preferred ones in it. -/
lemma divided_singleton (hne : name ≠ []) (hc : c ∉ name)
    (hseps : separators = preferred ++ c :: others)
    (hnone : ∀ d ∈ preferred, d ∉ name ∧ d ∉ value) : Divided name [c] value := by
  have hdivide : CanDivide c (name ++ [c] ++ value) := by
    rw [List.append_assoc, List.singleton_append]
    exact (canDivide_append_cons hc).2 hne
  have hpreferred : ∀ d ∈ preferred, d ∉ name ++ [c] ++ value := by
    intro d hd
    have hnodup : (preferred ++ c :: others).Nodup := hseps ▸ (by decide : separators.Nodup)
    have hne : d ≠ c := (List.nodup_append.1 hnodup).2.2 d hd c List.mem_cons_self
    simp [hnone d hd, hne]
  exact
    { sep_eq := (separatorOf_eq_singleton hseps hpreferred hdivide).symm
      not_mem := by simpa using hc
      value_eq := by simp }

end Record

namespace IsName

lemma divided_nil (h : IsName name) : Record.Divided name [] [] :=
  Record.divided_nil (Record.separatorOf_eq_nil (by simpa using h.not_separator))

/-- A separator divides a name from a value that has no preferred ones in it. -/
lemma divided_singleton (h : IsName name) (hseps : Record.separators = preferred ++ c :: others)
    (hvalue : ∀ d ∈ preferred, d ∉ value) : Record.Divided name [c] value := by
  have hname : ∀ d ∈ preferred ++ c :: others, d ∉ name := hseps ▸ h.not_separator
  exact Record.divided_singleton h.ne_nil (hname c (by simp)) hseps fun d hd =>
    ⟨hname d (List.mem_append_left _ hd), hvalue d hd⟩

end IsName

end Division

/-- The kind of a free name is a kind of this name. -/
lemma IsFreeName.ofName_eq (h : IsFreeName name) : Kind.ofName name = .unknown name := by
  rw [Kind.ofName, h.toLower_eq]
  have hname := Kind.name_ofLowerName name
  cases hkind : Kind.ofLowerName name with
  | unknown other =>
      rw [hkind] at hname
      rw [← hname, Kind.name]
  | _ =>
      rw [hkind] at hname
      exact absurd hname (h.not_defined _ rfl)

namespace Term

namespace IsReadable

lemma isName (h : t.IsReadable) : IsName t.kind.name.toList := by
  cases hkind : t.kind with
  | unknown name => exact (h.name name hkind).toIsName
  | _ => exact isName_of_isUnknown_eq_false rfl

lemma ofName_eq (h : t.IsReadable) : Kind.ofName t.kind.name = t.kind := by
  cases hkind : t.kind with
  | unknown name => exact (h.name name hkind).ofName_eq
  | _ => decide +kernel

end IsReadable

/-! ### Terms -/

/-- The mark for the qualifier of a term. -/
def markOf (t : Term) : List Char := if t.qualifier = .pass then [] else [t.qualifier.toChar]

/-- The separator before the value of a term. -/
def separatorFor (t : Term) : List Char :=
  if t.value = "" then [] else if t.kind.isModifier then ['='] else [':']

lemma toList_display (t : Term) :
    t.display.toList = t.markOf ++ (t.kind.name.toList ++ t.separatorFor ++ t.value.toList) := by
  simp only [display, separator, markOf, separatorFor, String.toList_append, List.append_assoc]
  congr 1
  · split
    · rfl
    · simp
  · congr 1
    split
    · simp_all
    · rw [String.toList_append]
      split <;> rfl

/-- The mark of a term says what its qualifier is, unless it is left out before a text that starts
like one. -/
lemma marks_markOf {rest : List Char}
    (h : t.qualifier = .pass → ∀ c ∈ rest.head?, Qualifier.ofChar? c = none) :
    Record.Marks t.markOf t.qualifier rest := by
  rw [markOf]
  split <;> rename_i hpass
  · rw [hpass]
    exact .absent (h hpass)
  · exact .written (Qualifier.ofChar?_toChar _)

/-- The display form has no blanks but those of the name and the value. -/
lemma isBlank_of_mem_display (hname : ∀ c ∈ t.kind.name.toList, isBlank c = false)
    (hvalue : ∀ c ∈ t.value.toList, isBlank c = false) :
    ∀ c ∈ t.display.toList, isBlank c = false := by
  have hmark : ∀ c ∈ t.markOf, isBlank c = false := by
    rw [forall_isBlank_eq_false_iff, markOf]
    cases t.qualifier <;> decide
  have hsep : ∀ c ∈ t.separatorFor, isBlank c = false := by
    rw [forall_isBlank_eq_false_iff, separatorFor]
    split
    · rfl
    · split <;> decide
  intro c hc
  simp only [toList_display, List.mem_append] at hc
  rcases hc with hc | (hc | hc) | hc
  · exact hmark c hc
  · exact hname c hc
  · exact hsep c hc
  · exact hvalue c hc

namespace IsReadable

/-- The separator of the display form is the one that a reader finds there. -/
lemma divided (h : t.IsReadable) :
    Record.Divided t.kind.name.toList t.separatorFor t.value.toList := by
  have hequals : Record.separators = [':', '/'] ++ '=' :: [] := rfl
  have hcolon : Record.separators = [] ++ ':' :: ['/', '='] := rfl
  unfold separatorFor
  split
  case isTrue hvalue =>
      rw [hvalue]
      exact h.isName.divided_nil
  case isFalse =>
      split
      case isTrue hmodifier =>
          exact h.isName.divided_singleton hequals (by simpa using h.modifier hmodifier)
      case isFalse => exact h.isName.divided_singleton hcolon (by simp)

/-- A term is read back from its display form. -/
lemma isTerm_display (h : t.IsReadable) : Record.IsTerm t.display.toList t := by
  have hname := h.isName
  refine ⟨t.markOf, _, t.separatorFor, _, t.toList_display, ?_, h.divided, ?_,
    String.ofList_toList.symm⟩
  · refine marks_markOf fun _ c hc => hname.not_qualifier c ?_
    -- the name is in front
    rwa [List.append_assoc, List.head?_append_of_ne_nil _ hname.ne_nil] at hc
  · rw [String.ofList_toList, h.ofName_eq]

/-- The display form is a word. -/
lemma display_not_blank (h : t.IsReadable) : ∀ c ∈ t.display.toList, isBlank c = false :=
  isBlank_of_mem_display h.isName.not_blank h.value_not_blank

lemma display_ne_nil (h : t.IsReadable) : t.display.toList ≠ [] := by
  simp [toList_display, h.isName.ne_nil]

end IsReadable

end Term

/-! ### Records -/

namespace Record

/-- A record of terms, each with the blanks in front of it. -/
def written (ps : List (String × Term)) : String :=
  versionTag ++ String.join (ps.map fun p => p.1 ++ p.2.display)

/-- Blanks between display forms that have none, of which some may be empty. -/
def IsSpaced (ps : List (String × Term)) : Prop :=
  ∀ p ∈ ps, p.1 ≠ "" ∧ (∀ c ∈ p.1.toList, isBlank c = true) ∧
    ∀ c ∈ p.2.display.toList, isBlank c = false

/-- The words behind the version tag are the display forms that are not empty. -/
lemma separated_join (h : IsSpaced ps) :
    Separated ((ps.map fun p => p.2.display.toList).filter fun w => !w.isEmpty)
        (String.join (ps.map fun p => p.1 ++ p.2.display)).toList ∧
      ∀ c ∈ (String.join (ps.map fun p => p.1 ++ p.2.display)).toList.head?,
        isBlank c = true := by
  induction ps with
  | nil => exact ⟨.nil, by simp⟩
  | cons p ps ih =>
      obtain ⟨⟨hne, hblanks, hterm⟩, hps⟩ := List.forall_mem_cons.1 h
      obtain ⟨hrest, hend⟩ := ih hps
      simp only [List.map_cons, String.join_cons, String.toList_append, List.append_assoc]
      refine ⟨.blanks_append hblanks ?_, fun c hc => hblanks c (List.mem_of_mem_head? ?_)⟩
      · by_cases hempty : p.2.display.toList = []
        · rw [hempty]
          exact hrest
        · rw [List.filter_cons_of_pos (by simpa using hempty)]
          exact .word hempty hterm hend hrest
      · rwa [List.head?_append_of_ne_nil _ (mt String.toList_eq_nil_iff.1 hne)] at hc

lemma words_written (h : IsSpaced ps) : words (written ps).toList = versionTag.toList ::
    (ps.map fun p => p.2.display.toList).filter fun w => !w.isEmpty := by
  obtain ⟨hrest, hend⟩ := separated_join h
  have htag : ∀ c ∈ versionTag.toList, isBlank c = false :=
    forall_isBlank_eq_false_iff.2 (by decide +kernel)
  rw [written, String.toList_append]
  exact (Separated.word (by decide) htag hend hrest).words_eq

/-- A written record has a version, and its terms are those that the display forms stand for. -/
lemma read_written_eq (h : IsSpaced ps) :
    let ts := ((ps.map fun p => p.2.display.toList).filter fun w => !w.isEmpty).map termOfToken
    read (written ps) =
      { version := some "spf1", terms := ts, issues := ts.filterMap deprecation } := by
  have htag : StartsWithTag versionTag.toList := startsWithTag_iff.1 (by decide +kernel)
  have hversion : String.ofList ((versionTag.toList.drop 2).map Char.toLower) = "spf1" := by
    decide +kernel
  intro ts
  rw [read_eq, words_written h, List.headD_cons, List.tail_cons, readTokens_of_startsWithTag htag,
    hversion]

/-- There is one warning for each pointer. -/
lemma filterMap_deprecation (ts : List Term) :
    ts.filterMap deprecation =
      List.replicate (ts.countP fun t => t.kind = .pointer)
        (.warning
          "The 'ptr' mechanism is deprecated (RFC 7208 section 5.5) and should not be used") := by
  induction ts with
  | nil => rfl
  | cons t ts ih =>
      by_cases h : t.kind = .pointer
      · simp [deprecation, h, ih, List.replicate_succ]
      · simp [deprecation, h, ih]

/-- A record of terms that can be read back is read as these terms, with a warning for each pointer
and no other issues. -/
theorem read_written
    (h : ∀ p ∈ ps, p.1 ≠ "" ∧ (∀ c ∈ p.1.toList, isBlank c = true) ∧ p.2.IsReadable) :
    read (written ps) =
      { version := some "spf1"
        terms := ps.map Prod.snd
        issues := List.replicate (ps.countP fun p => p.2.kind = .pointer)
          (.warning
            "The 'ptr' mechanism is deprecated (RFC 7208 section 5.5) and should not be used") } := by
  have hspaced : IsSpaced ps := fun p hp =>
    ⟨(h p hp).1, (h p hp).2.1, (h p hp).2.2.display_not_blank⟩
  have hwords : ((ps.map fun p => p.2.display.toList).filter fun w => !w.isEmpty) =
      ps.map fun p => p.2.display.toList := by
    rw [List.filter_eq_self, List.forall_mem_map]
    exact fun p hp => by simpa using (h p hp).2.2.display_ne_nil
  have hterms : (ps.map fun p => p.2.display.toList).map termOfToken = ps.map Prod.snd := by
    rw [List.map_map]
    exact List.map_congr_left fun p hp => isTerm_iff.1 (h p hp).2.2.isTerm_display
  rw [read_written_eq hspaced, hwords, hterms, filterMap_deprecation, List.countP_map]
  rfl

/-- Terms with separators in their values, and one whose name has a qualifier inside. -/
def delicateTerms : List (String × Term) :=
  [(" ", ⟨.fail, .inclusion, "a:b/c=d"⟩), ("\t\u2003", ⟨.pass, .redirect, "x=y"⟩),
    ("\n", ⟨.neutral, .unknown "é+", ":/="⟩), ("  ", ⟨.pass, .pointer, ""⟩),
    ("\u00a0", ⟨.softFail, .address, "//24"⟩)]

/-- The delicate terms are read back. -/
theorem read_written_delicate :
    (∀ p ∈ delicateTerms, p.1 ≠ "" ∧ (∀ c ∈ p.1.toList, isBlank c = true) ∧ p.2.IsReadable) ∧
      written delicateTerms =
        "v=spf1 -include:a:b/c=d\t\u2003redirect=x=y\n?é+::/=  ptr\u00a0~a://24" ∧
      read (written delicateTerms) =
        { version := some "spf1"
          terms := delicateTerms.map Prod.snd
          issues := [.warning
            "The 'ptr' mechanism is deprecated (RFC 7208 section 5.5) and should not be used"] } := by
  have hfree : IsFreeName "é+" :=
    { (by decide +kernel : IsName "é+".toList) with
      toLower_eq := by decide +kernel
      not_defined := fun k hk hname => by
        cases k with
        | unknown name => cases hk
        | _ => exact absurd hname (by decide) }
  have hblanks : ∀ p ∈ delicateTerms,
      p.1 ≠ "" ∧ p.1.toList.all isBlank = true ∧ p.2.value.toList.any isBlank = false := by
    decide +kernel
  have hterms : ∀ p ∈ delicateTerms,
      (p.2.kind.isModifier = true → ':' ∉ p.2.value.toList ∧ '/' ∉ p.2.value.toList) ∧
        (p.2.kind.isUnknown = true → p.2.kind = .unknown "é+") := by
    decide +kernel
  have h : ∀ p ∈ delicateTerms,
      p.1 ≠ "" ∧ (∀ c ∈ p.1.toList, isBlank c = true) ∧ p.2.IsReadable := by
    intro p hp
    obtain ⟨hne, hblank, hvalue⟩ := hblanks p hp
    obtain ⟨hmodifier, hunknown⟩ := hterms p hp
    refine ⟨hne, List.all_eq_true.1 hblank, forall_isBlank_eq_false_iff.2 hvalue, hmodifier,
      fun name hname => ?_⟩
    rw [hname] at hunknown
    obtain rfl : name = "é+" := Kind.unknown.inj (hunknown rfl)
    exact hfree
  refine ⟨h, by decide +kernel, ?_⟩
  rw [read_written h]
  decide +kernel

end Record

end SenderPolicy
