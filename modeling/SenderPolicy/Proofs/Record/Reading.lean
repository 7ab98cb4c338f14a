/-
What a record is read as.

A token is a mark for its qualifier, a name, a separator and a value, one after the other, of which
all but the name may be left out.  `Record.IsTerm` says which term a token stands for, and it does
so without a reader: the three separators have a fixed order, and the one that counts is the first
of them that stands in the token, but not at the start of the name.  So the name ends where that
separator stands first, also if another one stands before it.

The reader finds this term and no other (`Record.isTerm_iff`).  Each token is read by itself, so what
is appended to a record behind a blank adds terms and changes none.
-/
import SenderPolicy.Proofs.Record.Policy
import SenderPolicy.Proofs.Steps
import SenderPolicy.Proofs.Text.Words

namespace SenderPolicy

namespace Record

open Text

/-! ### The parts of a token -/

/-- The text starts with the version tag, in any case of its letters. -/
def StartsWithTag (s : List Char) : Prop :=
  ∃ tag rest, s = tag ++ rest ∧ tag.map Char.toLower = versionTag.toList

/-- The mark in front of the rest of a token says what the qualifier is.  Without a mark it is the
one for a pass, and then the rest does not start like one. -/
inductive Marks : List Char → Qualifier → List Char → Prop where
  | written {c : Char} {q : Qualifier} {rest : List Char} (hc : Qualifier.ofChar? c = some q) :
      Marks [c] q rest
  | absent {rest : List Char} (hrest : ∀ c ∈ rest.head?, Qualifier.ofChar? c = none) :
      Marks [] .pass rest

/-- A separator can divide a text that it stands in, unless the text starts with it. -/
def CanDivide (sep : Char) (s : List Char) : Prop := sep ∈ s ∧ s.head? ≠ some sep

instance (sep : Char) (s : List Char) : Decidable (CanDivide sep s) :=
  inferInstanceAs (Decidable (_ ∧ _))

/-- The separator of a text: the preferred one of those that can divide it, if there is any. -/
def separatorOf (s : List Char) : List Char := (separators.find? (CanDivide · s)).toList

/-- The text of these parts is divided by its separator, where this stands first.  Without a
separator there is no value. -/
structure Divided (name sep value : List Char) : Prop where
  sep_eq : sep = separatorOf (name ++ sep ++ value)
  not_mem : ∀ c ∈ sep, c ∉ name
  value_eq : sep = [] → value = []

/-- The token stands for the term. -/
def IsTerm (token : List Char) (t : Term) : Prop :=
  ∃ mark name sep value, token = mark ++ (name ++ sep ++ value) ∧
    Marks mark t.qualifier (name ++ sep ++ value) ∧ Divided name sep value ∧
    t.kind = .ofName (String.ofList name) ∧ t.value = String.ofList value

variable {s name sep value mark rest token : List Char} {c : Char} {q : Qualifier} {t : Term}

/-! ### The separator -/

/-- Where a separator stands first, it can divide the text unless nothing is in front of it. -/
lemma canDivide_append_cons (h : c ∉ name) : CanDivide c (name ++ c :: value) ↔ name ≠ [] := by
  cases name with
  | nil => simp [CanDivide]
  | cons d name =>
      have hne : d ≠ c := fun heq => h (heq ▸ List.mem_cons_self)
      simp [CanDivide, hne]

lemma cutAt?_append_cons (h : c ∉ name) :
    cutAt? c (name ++ c :: value) = if name = [] then none else some (name, value) := by
  have hname : ∀ d ∈ name, (d != c) = true := fun d hd => by
    simpa using ne_of_mem_of_not_mem hd h
  rw [cutAt?, List.takeWhile_append_of_pos hname, List.dropWhile_append_of_pos hname]
  cases name <;> simp

/-- A text that the separator can divide is cut where it stands first. -/
lemma CanDivide.cutAt?_eq (h : CanDivide c s) :
    ∃ name value, s = name ++ c :: value ∧ c ∉ name ∧ cutAt? c s = some (name, value) := by
  obtain ⟨name, value, rfl, hname⟩ := List.eq_append_cons_of_mem h.1
  have hne := (canDivide_append_cons hname).1 h
  exact ⟨name, value, rfl, hname, by rw [cutAt?_append_cons hname, if_neg hne]⟩

lemma cutAt?_eq_none (h : ¬ CanDivide c s) : cutAt? c s = none := by
  by_cases hmem : c ∈ s
  · obtain ⟨name, value, rfl, hname⟩ := List.eq_append_cons_of_mem hmem
    rw [canDivide_append_cons hname] at h
    rw [cutAt?_append_cons hname, if_pos (not_not.1 h)]
  · have hall : s.dropWhile (· != c) = [] :=
      List.dropWhile_eq_nil_iff.2 fun d hd => by simpa using ne_of_mem_of_not_mem hd hmem
    rw [cutAt?, hall]
    split <;> simp_all

/-- The first separator that cuts a text is the preferred one of those that can divide it. -/
lemma findSome?_cutAt? (seps : List Char) (s : List Char) :
    seps.findSome? (cutAt? · s) = (seps.find? (CanDivide · s)).bind (cutAt? · s) := by
  induction seps with
  | nil => rfl
  | cons c seps ih =>
      by_cases hdivide : CanDivide c s
      · obtain ⟨name, value, -, -, hcut⟩ := hdivide.cutAt?_eq
        simp [hdivide, hcut]
      · simp [hdivide, cutAt?_eq_none hdivide, ih]

/-- The reader cuts a text at its separator. -/
lemma nameAndValue_cases (s : List Char) :
    (separatorOf s = [] ∧ nameAndValue s = (s, [])) ∨
      ∃ c, separatorOf s = [c] ∧ CanDivide c s ∧ cutAt? c s = some (nameAndValue s) := by
  rw [nameAndValue, findSome?_cutAt?, separatorOf]
  cases hfind : separators.find? (CanDivide · s) with
  | none => exact Or.inl ⟨rfl, rfl⟩
  | some c =>
      have hdivide : CanDivide c s := by simpa using List.find?_some hfind
      obtain ⟨name, value, -, -, hcut⟩ := hdivide.cutAt?_eq
      exact Or.inr ⟨c, rfl, hdivide, by simp [hcut]⟩

/-- A text without any separators is not divided. -/
lemma separatorOf_eq_nil (h : ∀ c ∈ separators, c ∉ s) : separatorOf s = [] := by
  have hfind : separators.find? (CanDivide · s) = none :=
    List.find?_eq_none.2 fun c hc => by simpa using fun hdivide => h c hc hdivide.1
  rw [separatorOf, hfind]
  rfl

/-- A text is divided by a separator that can divide it if it has none of the preferred ones. -/
lemma separatorOf_eq_singleton {preferred others : List Char}
    (hseps : separators = preferred ++ c :: others) (hpreferred : ∀ d ∈ preferred, d ∉ s)
    (h : CanDivide c s) : separatorOf s = [c] := by
  have hfind : separators.find? (CanDivide · s) = some c :=
    List.find?_eq_some_iff_append.2 ⟨by simpa using h, preferred, others, hseps, fun d hd => by
      simpa using fun hdivide => hpreferred d hd hdivide.1⟩
  rw [separatorOf, hfind]
  rfl

/-- What the reader takes for name and value divides the text. -/
lemma exists_divided (s : List Char) :
    ∃ sep, s = (nameAndValue s).1 ++ sep ++ (nameAndValue s).2 ∧
      Divided (nameAndValue s).1 sep (nameAndValue s).2 := by
  rcases nameAndValue_cases s with ⟨hsep, hparts⟩ | ⟨c, hsep, hdivide, hparts⟩
  · rw [hparts]
    exact ⟨[], by simp, by simp [hsep], by simp, fun _ => rfl⟩
  · obtain ⟨name, value, hs, hname, hcut⟩ := hdivide.cutAt?_eq
    have hs' : s = name ++ [c] ++ value := by rw [hs, List.append_assoc, List.singleton_append]
    rw [Option.some.inj (hparts.symm.trans hcut)]
    exact ⟨[c], hs', by rw [← hs', hsep], by simpa using hname, by simp⟩

/-- A text that is divided is read as its name and its value. -/
lemma Divided.nameAndValue_eq (h : Divided name sep value) :
    nameAndValue (name ++ sep ++ value) = (name, value) := by
  obtain ⟨hsep, hmem, hvalue⟩ := h
  rcases nameAndValue_cases (name ++ sep ++ value) with
    ⟨hnone, hparts⟩ | ⟨c, hone, hdivide, hparts⟩
  · have hnil : sep = [] := hsep.trans hnone
    rw [hparts, hnil, hvalue hnil, List.append_nil, List.append_nil]
  · obtain rfl : sep = [c] := hsep.trans hone
    have hname : c ∉ name := hmem c List.mem_cons_self
    rw [List.append_assoc, List.singleton_append] at hdivide hparts ⊢
    rw [cutAt?_append_cons hname, if_neg ((canDivide_append_cons hname).1 hdivide)] at hparts
    exact (Option.some.inj hparts).symm

/-! ### The qualifier -/

lemma exists_marks (token : List Char) :
    ∃ mark, token = mark ++ (takeQualifier token).2 ∧
      Marks mark (takeQualifier token).1 (takeQualifier token).2 := by
  cases token with
  | nil => exact ⟨[], rfl, .absent (by simp [takeQualifier])⟩
  | cons c rest =>
      cases hc : Qualifier.ofChar? c with
      | some q =>
          have htake : takeQualifier (c :: rest) = (q, rest) := by simp [takeQualifier, hc]
          rw [htake]
          exact ⟨[c], rfl, .written hc⟩
      | none =>
          have htake : takeQualifier (c :: rest) = (.pass, c :: rest) := by
            simp [takeQualifier, hc]
          rw [htake]
          exact ⟨[], rfl, .absent (by simpa using hc)⟩

lemma Marks.takeQualifier_eq (h : Marks mark q rest) :
    takeQualifier (mark ++ rest) = (q, rest) := by
  cases h with
  | written hc => simp [takeQualifier, hc]
  | absent hrest =>
      cases rest with
      | nil => rfl
      | cons c rest => simp [takeQualifier, hrest c rfl]

/-! ### Tokens -/

/-- Every token stands for one term, and the reader finds it. -/
theorem isTerm_iff : IsTerm token t ↔ termOfToken token = t := by
  constructor
  · rintro ⟨mark, name, sep, value, rfl, hmark, hdivided, hkind, hvalue⟩
    rw [termOfToken, hmark.takeQualifier_eq]
    simp only [hdivided.nameAndValue_eq, ← hkind, ← hvalue]
  · rintro rfl
    obtain ⟨mark, htoken, hmark⟩ := exists_marks token
    obtain ⟨sep, hrest, hdivided⟩ := exists_divided (takeQualifier token).2
    refine ⟨mark, _, sep, _, ?_, ?_, hdivided, rfl, rfl⟩
    · rw [← hrest]
      exact htoken
    · rw [← hrest]
      exact hmark

/-- The terms of some tokens, in order. -/
lemma forall₂_isTerm_iff {tokens : List (List Char)} {ts : List Term} :
    List.Forall₂ IsTerm tokens ts ↔ tokens.map termOfToken = ts := by
  have hterm : IsTerm = fun token t => termOfToken token = t :=
    funext₂ fun _ _ => propext isTerm_iff
  rw [hterm, ← List.forall₂_map_left_iff (R := (· = ·)), List.forall₂_eq_eq_eq]

/-! ### Records -/

lemma startsWithTag_iff : startsWithTag s = true ↔ StartsWithTag s := by
  constructor
  · intro h
    exact ⟨_, _, (List.take_append_drop versionTag.length s).symm, eq_of_beq h⟩
  · rintro ⟨tag, rest, rfl, htag⟩
    have hlength : tag.length = versionTag.length := by
      rw [← List.length_map Char.toLower, htag]
      rfl
    rw [startsWithTag, ← hlength, List.take_left, htag]
    exact beq_self_eq_true _

lemma read_eq (record : String) :
    read record = readTokens ((words record.toList).headD []) (words record.toList).tail := by
  rw [read]
  split <;> rename_i h <;> rw [h] <;> rfl

lemma readTokens_of_startsWithTag (h : StartsWithTag s) (tokens : List (List Char)) :
    readTokens s tokens =
      { version := some (String.ofList ((s.drop 2).map Char.toLower))
        terms := tokens.map termOfToken
        issues := (tokens.map termOfToken).filterMap deprecation } :=
  if_pos (startsWithTag_iff.2 h)

lemma readTokens_of_not_startsWithTag (h : ¬ StartsWithTag s) (tokens : List (List Char)) :
    readTokens s tokens = { version := none, terms := [], issues := [invalidVersion s] } :=
  if_neg (mt startsWithTag_iff.1 h)

/-- What is appended to a record behind a blank comes after what it has been read as. -/
lemma readTokens_append (first : List Char) (tokens others : List (List Char)) :
    ∃ ts issues, (StartsWithTag first → List.Forall₂ IsTerm others ts) ∧
      readTokens first (tokens ++ others) =
        { version := (readTokens first tokens).version
          terms := (readTokens first tokens).terms ++ ts
          issues := (readTokens first tokens).issues ++ issues } := by
  by_cases h : StartsWithTag first
  · refine ⟨others.map termOfToken, (others.map termOfToken).filterMap deprecation,
      fun _ => forall₂_isTerm_iff.2 rfl, ?_⟩
    simp only [readTokens_of_startsWithTag h, List.map_append, List.filterMap_append]
  · refine ⟨[], [], fun htag => absurd htag h, ?_⟩
    simp only [readTokens_of_not_startsWithTag h, List.append_nil]

section Append

variable {record blanks rest : String}

lemma words_append_blanks (hne : blanks ≠ "") (hblanks : ∀ c ∈ blanks.toList, isBlank c = true) :
    words (record ++ blanks ++ rest).toList = words record.toList ++ words rest.toList := by
  rw [String.toList_append, String.toList_append, List.append_assoc,
    words_append_blanks_append (by simpa using hne) hblanks]

/-- What is appended to a record behind blanks adds terms and issues to those of the record. -/
lemma read_append_of_words_ne_nil (hne : blanks ≠ "")
    (hblanks : ∀ c ∈ blanks.toList, isBlank c = true) (hrecord : words record.toList ≠ []) :
    ∃ ts issues,
      (StartsWithTag ((words record.toList).headD []) →
        List.Forall₂ IsTerm (words rest.toList) ts) ∧
      read (record ++ blanks ++ rest) =
        { version := (read record).version
          terms := (read record).terms ++ ts
          issues := (read record).issues ++ issues } := by
  obtain ⟨first, tokens, hwords⟩ := List.exists_cons_of_ne_nil hrecord
  rw [read_eq (record ++ blanks ++ rest), words_append_blanks hne hblanks, read_eq record, hwords]
  exact readTokens_append first tokens (words rest.toList)

/-- Behind blanks alone a record is read as it is. -/
lemma read_append_of_words_eq_nil (hne : blanks ≠ "")
    (hblanks : ∀ c ∈ blanks.toList, isBlank c = true) (hrecord : words record.toList = []) :
    read (record ++ blanks ++ rest) = read rest := by
  rw [read_eq, words_append_blanks hne hblanks, hrecord, List.nil_append, read_eq rest]

end Append

/-- How a record is read.

A record is made of words.  It has a version exactly if the first word starts with the version tag,
and then the version is that word without its first two characters, in lower case, and the terms are
those that the other words stand for, in order.  If not, there are no terms and there is one error.

What is appended to a record behind blanks adds terms and issues and leaves the others as they are.
Only blanks are no record, and may be left out. -/
theorem read_splits (record : String) :
    let first := (words record.toList).headD []
    let tokens := (words record.toList).tail
    Separated (words record.toList) record.toList ∧
    ((read record).version.isSome = true ↔ StartsWithTag first) ∧
    (StartsWithTag first →
      (read record).version = some (String.ofList ((first.drop 2).map Char.toLower)) ∧
      ∀ ts, (read record).terms = ts ↔ List.Forall₂ IsTerm tokens ts) ∧
    (¬ StartsWithTag first →
      (read record).terms = [] ∧ ∃ message, (read record).issues = [.error message]) ∧
    ∀ blanks rest : String, blanks ≠ "" → (∀ c ∈ blanks.toList, isBlank c = true) →
      (words record.toList ≠ [] → ∃ ts issues,
        (StartsWithTag first → List.Forall₂ IsTerm (words rest.toList) ts) ∧
        read (record ++ blanks ++ rest) =
          { version := (read record).version
            terms := (read record).terms ++ ts
            issues := (read record).issues ++ issues }) ∧
      (words record.toList = [] → read (record ++ blanks ++ rest) = read rest) := by
  intro first tokens
  have hread : read record = readTokens first tokens := read_eq record
  refine ⟨separated_words _, ?_, fun htag => ?_, fun htag => ?_, fun blanks rest hne hblanks => ?_⟩
  · rw [hread]
    by_cases htag : StartsWithTag first
    · simp [readTokens_of_startsWithTag htag, htag]
    · simp [readTokens_of_not_startsWithTag htag, htag]
  · rw [hread, readTokens_of_startsWithTag htag]
    exact ⟨rfl, fun ts => forall₂_isTerm_iff.symm⟩
  · rw [hread, readTokens_of_not_startsWithTag htag]
    exact ⟨rfl, _, rfl⟩
  · exact ⟨read_append_of_words_ne_nil hne hblanks, read_append_of_words_eq_nil hne hblanks⟩

/-- A record with more behind its tag, a name that starts with a separator and a value that has two
of them. -/
def oddRecord : String := "V=SPF1.1\u2003~Foo:é/b=c :x/y"

/-- The odd record, with two tokens appended to it, a record without a tag, and blanks. -/
theorem read_splits_odd :
    (StartsWithTag "V=SPF1.1".toList ∧ (read oddRecord).version = some "spf1.1" ∧
      List.Forall₂ IsTerm ["~Foo:é/b=c".toList, ":x/y".toList]
        [⟨.softFail, .unknown "foo", "é/b=c"⟩, ⟨.pass, .unknown ":x", "y"⟩] ∧
      ∃ ts, List.Forall₂ IsTerm ["+".toList, "-ALL".toList] ts ∧
        (read (oddRecord ++ "\t" ++ "+ -ALL")).terms = (read oddRecord).terms ++ ts) ∧
    (¬ StartsWithTag "spf1".toList ∧ ∃ message, (read "spf1 -all").issues = [.error message]) ∧
    words "\n".toList = [] ∧ read ("\n" ++ " " ++ "v=spf1") = read "v=spf1" := by
  have htag : StartsWithTag "V=SPF1.1".toList := startsWithTag_iff.1 (by decide +kernel)
  have hnotag : ¬ StartsWithTag "spf1".toList := mt startsWithTag_iff.2 (by decide +kernel)
  have hwords : words oddRecord.toList =
      ["V=SPF1.1".toList, "~Foo:é/b=c".toList, ":x/y".toList] := by decide +kernel
  have hwords' : words "spf1 -all".toList = ["spf1".toList, "-all".toList] := by decide +kernel
  have hothers : words "+ -ALL".toList = ["+".toList, "-ALL".toList] := by decide +kernel
  have hblank : words "\n".toList = [] := by decide +kernel
  obtain ⟨-, -, hread, -, happend⟩ := read_splits oddRecord
  rw [hwords] at hread happend
  obtain ⟨hversion, hterms⟩ := hread htag
  have hblank₁ : ∀ c ∈ "\t".toList, isBlank c = true := List.all_eq_true.1 (by decide)
  have hblank₂ : ∀ c ∈ " ".toList, isBlank c = true := List.all_eq_true.1 (by decide)
  obtain ⟨ts, issues, hts, heq⟩ := (happend "\t" "+ -ALL" (by decide) hblank₁).1 (by simp)
  rw [hothers] at hts
  obtain ⟨-, -, -, hwithout, -⟩ := read_splits "spf1 -all"
  rw [hwords'] at hwithout
  obtain ⟨-, -, -, -, hafter⟩ := read_splits "\n"
  refine ⟨⟨htag, ?_, (hterms _).1 (by decide +kernel), ts, hts htag, by rw [heq]⟩,
    ⟨hnotag, (hwithout hnotag).2⟩, hblank, ?_⟩
  · rw [hversion]
    decide +kernel
  · exact (hafter " " "v=spf1" (by decide) hblank₂).2 hblank

/-- The error of a record without any token is gone when tokens are appended. -/
theorem not_isPrefix_issues_of_blank :
    words "".toList = [] ∧
      (read "").issues = [.error "Invalid SPF version: expected \"v=spf1\" but found \"\""] ∧
      read ("" ++ " " ++ "v=spf1 -all") =
        { version := some "spf1", terms := [⟨.fail, .all, ""⟩], issues := [] } ∧
      ¬ (read "").issues <+: (read ("" ++ " " ++ "v=spf1 -all")).issues := by
  decide +kernel

end Record

end SenderPolicy
