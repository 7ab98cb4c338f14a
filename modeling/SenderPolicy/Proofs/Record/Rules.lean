/-
What the rules on a record as a whole find.

A record breaks a rule or it does not (`Rules.Rule.IsBroken`), and this is said of its list of terms
and not of how the rule is checked.  Each rule has an issue of its own, and the check finds the
issues of the broken rules, in the order of the rules (`Rules.check_eq`).  No two rules have the
same issue, because their messages differ in the first five characters.

Where the modifiers of a record stand makes no difference, although the rule on what follows the
first `all` term is about places in the whole list: a modifier that is moved past other terms puts
none of them on the other side of that `all` term.
-/
import Mathlib.Data.List.Nodup
import Mathlib.Data.List.TakeWhile
import Mathlib.Tactic.Lemma
import SenderPolicy.Rules

namespace SenderPolicy

namespace Rules

variable {record : String} {ts ts' before after : List Term}

/-! ### The first `all` term -/

/-- The record has the given terms before and after its first `all` term. -/
def SplitsAtAll (ts before after : List Term) : Prop :=
  ∃ t, ts = before ++ t :: after ∧ t.kind = .all ∧ ∀ u ∈ before, u.kind ≠ .all

/-- The terms of a record that are no modifiers. -/
def mechanisms (terms : List Term) : List Term := terms.filter fun t => !t.kind.isModifier

/-- Whether a mechanism stands after the first `all` term, told by the mechanisms alone. -/
def hasTermAfterAll (terms : List Term) : Bool :=
  !((mechanisms terms).dropWhile fun t => t.kind != .all).tail.isEmpty

lemma mem_mechanisms_iff {t : Term} :
    t ∈ mechanisms ts ↔ t ∈ ts ∧ t.kind.isModifier = false := by
  simp [mechanisms]

lemma hasAll_eq_any (ts : List Term) : hasAll ts = ts.any fun t => t.kind == .all :=
  List.findIdx?_isSome

lemma hasAll_iff : hasAll ts = true ↔ ∃ t ∈ ts, t.kind = .all := by
  simp [hasAll_eq_any]

/-- An `all` term is a mechanism, so it is found among the mechanisms too. -/
lemma hasAll_mechanisms (ts : List Term) : hasAll (mechanisms ts) = hasAll ts := by
  rw [Bool.eq_iff_iff, hasAll_iff, hasAll_iff]
  constructor
  · rintro ⟨t, ht, hall⟩
    exact ⟨t, (mem_mechanisms_iff.1 ht).1, hall⟩
  · rintro ⟨t, ht, hall⟩
    exact ⟨t, mem_mechanisms_iff.2 ⟨ht, by rw [hall]; rfl⟩, hall⟩

lemma exists_splitsAtAll (h : hasAll ts = true) : ∃ before after, SplitsAtAll ts before after := by
  have hfind : (ts.find? fun t => t.kind == .all).isSome = true := by
    rw [List.find?_isSome]
    simpa [hasAll_eq_any] using h
  obtain ⟨t, ht⟩ := Option.isSome_iff_exists.1 hfind
  obtain ⟨hall, before, after, hts, hbefore⟩ := List.find?_eq_some_iff_append.1 ht
  exact ⟨before, after, t, hts, by simpa using hall, by simpa using hbefore⟩

namespace SplitsAtAll

/-- The mechanisms from the first `all` term on are those after it. -/
lemma tail_dropWhile_mechanisms (h : SplitsAtAll ts before after) :
    ((mechanisms ts).dropWhile fun t => t.kind != .all).tail = mechanisms after := by
  obtain ⟨t, rfl, hall, hbefore⟩ := h
  have hmechanisms : mechanisms (before ++ t :: after) =
      mechanisms before ++ t :: mechanisms after := by
    simp [mechanisms, hall, Kind.isModifier]
  have hdropped : ∀ u ∈ mechanisms before, (u.kind != .all) = true := by
    intro u hu
    simpa using hbefore u (mem_mechanisms_iff.1 hu).1
  rw [hmechanisms, List.dropWhile_append_of_pos hdropped,
    List.dropWhile_cons_of_neg (by simp [hall]), List.tail_cons]

lemma hasTermAfterAll_iff (h : SplitsAtAll ts before after) :
    hasTermAfterAll ts = true ↔ ∃ u ∈ after, u.kind.isModifier = false := by
  rw [hasTermAfterAll, h.tail_dropWhile_mechanisms, mechanisms]
  simp

lemma firstAll?_eq (h : SplitsAtAll ts before after) : firstAll? ts = some before.length := by
  obtain ⟨t, rfl, hall, hbefore⟩ := h
  have hnone : (before.findIdx? fun t => t.kind == .all) = none := by
    simpa [List.findIdx?_eq_none_iff] using hbefore
  simp [firstAll?, List.findIdx?_append, hnone, List.findIdx?_cons, hall]

/-- The last mechanism is the first `all` term exactly if no other one stands after it. -/
lemma lastMechanism?_ne_iff (h : SplitsAtAll ts before after) :
    lastMechanism? ts ≠ some before.length ↔ hasTermAfterAll ts = true := by
  rw [h.hasTermAfterAll_iff]
  obtain ⟨t, rfl, hall, -⟩ := h
  have hplace : lastMechanism? (before ++ t :: after) =
      ((after.reverse.findIdx? fun u => !u.kind.isModifier).or (some after.length)).map
        fun i => before.length + after.length - i := by
    simp [lastMechanism?, List.findIdx?_append, List.findIdx?_cons, hall, Kind.isModifier]
  rw [hplace]
  -- from behind, the search comes to the terms after the `all` term before it comes to that term
  cases hfind : after.reverse.findIdx? fun u => !u.kind.isModifier with
  | none =>
      have hmodifiers : ∀ u ∈ after, u.kind.isModifier = true := by
        simpa [List.findIdx?_eq_none_iff] using hfind
      simpa using hmodifiers
  | some i =>
      obtain ⟨hi, hu, -⟩ := List.findIdx?_eq_some_iff_getElem.1 hfind
      have hlater : before.length + after.length - i ≠ before.length := by
        rw [List.length_reverse] at hi
        omega
      refine iff_of_true (by simpa using hlater) ⟨after.reverse[i], ?_, by simpa using hu⟩
      exact List.mem_reverse.1 (List.getElem_mem hi)

end SplitsAtAll

/-- Without an `all` term all mechanisms are dropped. -/
lemma hasAll_of_hasTermAfterAll (h : hasTermAfterAll ts = true) : hasAll ts = true := by
  cases hall : hasAll ts with
  | true => rfl
  | false =>
      have hdropped : ∀ t ∈ mechanisms ts, (t.kind != .all) = true := by
        rw [← hasAll_mechanisms] at hall
        simpa [hasAll_eq_any] using hall
      rw [hasTermAfterAll, List.dropWhile_eq_nil_iff.2 hdropped] at h
      simp at h

/-- Comparing the places of the first `all` term and of the last mechanism tells whether a mechanism
stands after that term. -/
lemma allIssue_eq (ts : List Term) :
    allIssue ts =
      if hasAll ts = false then
        some (.warning "No 'all' mechanism found; end the record with -all or ~all")
      else if hasTermAfterAll ts then
        some (.warning
          "The 'all' mechanism is not the last mechanism; anything after it is never evaluated")
      else none := by
  cases hall : hasAll ts with
  | false =>
      have hfirst : firstAll? ts = none := by simpa [hasAll] using hall
      rw [allIssue, hfirst, if_pos rfl]
  | true =>
      obtain ⟨before, after, hsplit⟩ := exists_splitsAtAll hall
      rw [allIssue, hsplit.firstAll?_eq]
      simp only [hsplit.lastMechanism?_ne_iff, Bool.true_eq_false, if_false]

/-! ### Broken rules -/

/-- The rules on a record as a whole. -/
inductive Rule where
  /-- There is an `all` term. -/
  | allPresent
  /-- No mechanism stands after the first `all` term. -/
  | allLast
  /-- There is at most one redirect. -/
  | oneRedirect
  /-- There is no redirect beside an `all` term. -/
  | redirectOrAll
  /-- The record fits one character-string. -/
  | oneString
  deriving DecidableEq, Repr

namespace Rule

/-- The rules in the order in which they are checked. -/
def inOrder : List Rule := [allPresent, allLast, oneRedirect, redirectOrAll, oneString]

/-- A record with the given terms breaks the rule. -/
def IsBroken (record : String) (ts : List Term) : Rule → Prop
  | allPresent => ∀ t ∈ ts, t.kind ≠ .all
  | allLast => ∃ before after, SplitsAtAll ts before after ∧ ∃ u ∈ after, u.kind.isModifier = false
  | oneRedirect => 2 ≤ redirectCount ts
  | redirectOrAll => (∃ t ∈ ts, t.kind = .redirect) ∧ ∃ t ∈ ts, t.kind = .all
  | oneString => maxStringLength < record.utf8ByteSize

/-- The issue of a record with the given terms that breaks the rule. -/
def issue (record : String) (ts : List Term) : Rule → Issue
  | allPresent => .warning "No 'all' mechanism found; end the record with -all or ~all"
  | allLast =>
    .warning "The 'all' mechanism is not the last mechanism; anything after it is never evaluated"
  | oneRedirect =>
    .error ("Multiple redirect modifiers found (" ++ toString (redirectCount ts) ++
      "); at most one is allowed")
  | redirectOrAll =>
    .warning "The redirect modifier is ignored because an 'all' mechanism is present"
  | oneString =>
    .warning ("Record is " ++ toString record.utf8ByteSize ++
      " characters long; DNS will split it into " ++ toString (stringsNeeded record.utf8ByteSize) ++
      " strings of at most " ++ toString maxStringLength ++ " bytes")

/-- The first five characters of the message of a rule. -/
def opening : Rule → List Char
  | allPresent => ['N', 'o', ' ', '\'', 'a']
  | allLast => ['T', 'h', 'e', ' ', '\'']
  | oneRedirect => ['M', 'u', 'l', 't', 'i']
  | redirectOrAll => ['T', 'h', 'e', ' ', 'r']
  | oneString => ['R', 'e', 'c', 'o', 'r']

lemma take_message_issue (record : String) (ts : List Term) (r : Rule) :
    (r.issue record ts).message.toList.take 5 = r.opening := by
  cases r <;> simp only [issue, Issue.warning, Issue.error, String.toList_append, List.append_assoc]
    <;> rfl

lemma issue_injective (record : String) (ts : List Term) :
    Function.Injective (issue record ts) := by
  intro r r' h
  have hopening : r.opening = r'.opening := by
    rw [← take_message_issue record ts, h, take_message_issue]
  revert hopening
  cases r <;> cases r' <;> decide

lemma isBroken_allPresent_iff : IsBroken record ts .allPresent ↔ hasAll ts = false := by
  simp [IsBroken, hasAll_eq_any]

lemma isBroken_allLast_iff : IsBroken record ts .allLast ↔ hasTermAfterAll ts = true := by
  constructor
  · rintro ⟨before, after, hsplit, hafter⟩
    exact hsplit.hasTermAfterAll_iff.2 hafter
  · intro h
    obtain ⟨before, after, hsplit⟩ := exists_splitsAtAll (hasAll_of_hasTermAfterAll h)
    exact ⟨before, after, hsplit, hsplit.hasTermAfterAll_iff.1 h⟩

lemma isBroken_redirectOrAll_iff :
    IsBroken record ts .redirectOrAll ↔ (redirectCount ts > 0 && hasAll ts) = true := by
  rw [Bool.and_eq_true, hasAll_iff, decide_eq_true_iff, redirectCount, gt_iff_lt,
    List.countP_pos_iff]
  simp [IsBroken]

instance : DecidablePred (IsBroken record ts)
  | .allPresent => decidable_of_iff' _ isBroken_allPresent_iff
  | .allLast => decidable_of_iff' _ isBroken_allLast_iff
  | .oneRedirect => inferInstanceAs (Decidable (2 ≤ redirectCount ts))
  | .redirectOrAll => decidable_of_iff' _ isBroken_redirectOrAll_iff
  | .oneString => inferInstanceAs (Decidable (maxStringLength < record.utf8ByteSize))

/-- The issues of those of the given rules that are broken. -/
def issues (record : String) (ts : List Term) (rules : List Rule) : List Issue :=
  (rules.filter fun r => r.IsBroken record ts).map (issue record ts)

lemma issues_append (rules others : List Rule) :
    issues record ts (rules ++ others) = issues record ts rules ++ issues record ts others := by
  rw [issues, List.filter_append, List.map_append]
  rfl

/-- An issue that is found on the condition that one rule is broken. -/
lemma toList_ite {p : Prop} [Decidable p] {r : Rule} (h : r.IsBroken record ts ↔ p) :
    (if p then some (r.issue record ts) else none).toList = issues record ts [r] := by
  by_cases hp : p <;> simp [issues, h, hp]

end Rule

/-! ### The check -/

open Rule (issues)

lemma toList_allIssue (record : String) (ts : List Term) :
    (allIssue ts).toList = issues record ts [.allPresent, .allLast] := by
  have hpresent : Rule.IsBroken record ts .allPresent ↔ hasAll ts = false :=
    Rule.isBroken_allPresent_iff
  have hlast : Rule.IsBroken record ts .allLast ↔ hasTermAfterAll ts = true :=
    Rule.isBroken_allLast_iff
  cases hall : hasAll ts with
  | false =>
      have hafter : ¬ hasTermAfterAll ts = true := by
        intro h
        rw [hasAll_of_hasTermAfterAll h] at hall
        cases hall
      rw [hall] at hpresent
      simp [allIssue_eq, issues, hall, hpresent, hlast, hafter, Rule.issue]
  | true =>
      rw [hall] at hpresent
      cases hafter : hasTermAfterAll ts <;> rw [hafter] at hlast <;>
        simp [allIssue_eq, issues, hall, hpresent, hlast, hafter, Rule.issue]

/-- The check finds the issues of the broken rules, in the order of the rules. -/
lemma check_eq (record : String) (ts : List Term) :
    check record ts = issues record ts Rule.inOrder := by
  have hredirects : (redirectsIssue ts).toList = issues record ts [.oneRedirect] :=
    Rule.toList_ite (p := redirectCount ts > 1) (r := .oneRedirect) Iff.rfl
  have hpointless : (pointlessRedirectIssue ts).toList = issues record ts [.redirectOrAll] :=
    Rule.toList_ite Rule.isBroken_redirectOrAll_iff
  have hlength : (lengthIssue record).toList = issues record ts [.oneString] :=
    Rule.toList_ite (p := record.utf8ByteSize > maxStringLength) (r := .oneString) Iff.rfl
  rw [check, toList_allIssue record, hredirects, hpointless, hlength, ← Rule.issues_append,
    ← Rule.issues_append, ← Rule.issues_append]
  rfl

lemma mem_check_iff (r : Rule) : r.issue record ts ∈ check record ts ↔ r.IsBroken record ts := by
  have hr : r ∈ Rule.inOrder := by
    cases r <;> decide
  rw [check_eq, issues, List.mem_map_of_injective (Rule.issue_injective record ts),
    List.mem_filter, decide_eq_true_iff]
  exact and_iff_right hr

lemma nodup_check (record : String) (ts : List Term) : (check record ts).Nodup := by
  have hrules : Rule.inOrder.Nodup := by decide
  rw [check_eq]
  exact (hrules.filter _).map (Rule.issue_injective record ts)

/-- The check looks at the mechanisms of a record and at how many redirects there are. -/
lemma check_congr (hmechanisms : mechanisms ts = mechanisms ts')
    (hcount : redirectCount ts = redirectCount ts') : check record ts = check record ts' := by
  have hall : hasAll ts = hasAll ts' := by
    rw [← hasAll_mechanisms, hmechanisms, hasAll_mechanisms]
  have hafter : hasTermAfterAll ts = hasTermAfterAll ts' := by
    rw [hasTermAfterAll, hasTermAfterAll, hmechanisms]
  rw [check, check, allIssue_eq, allIssue_eq, redirectsIssue, redirectsIssue,
    pointlessRedirectIssue, pointlessRedirectIssue, hall, hafter, hcount]

/-- The rules do not look at where the modifiers of a record stand.

Records with the same mechanisms in the same order and with as many redirects have the same issues,
wherever these redirects and any explanations stand.  An issue is found exactly if its rule is
broken, each at most once and in the order of the rules, and nothing else is found. -/
theorem check_eq_of_mechanisms_eq :
    (∀ (record : String) (ts ts' : List Term), mechanisms ts = mechanisms ts' →
      redirectCount ts = redirectCount ts' → check record ts = check record ts') ∧
    ∀ (record : String) (ts : List Term),
      (∀ r : Rule, r.issue record ts ∈ check record ts ↔ r.IsBroken record ts) ∧
      (check record ts).Nodup ∧
      (check record ts).Sublist (Rule.inOrder.map (Rule.issue record ts)) := by
  refine ⟨fun record ts ts' => check_congr, fun record ts => ⟨mem_check_iff, nodup_check record ts,
    ?_⟩⟩
  rw [check_eq]
  exact List.Sublist.map _ List.filter_sublist

/-- Mechanisms with two `all` terms and an unknown one, between two redirects and an explanation. -/
def scattered : List Term :=
  [⟨.pass, .redirect, "a.example"⟩, ⟨.fail, .all, ""⟩, ⟨.pass, .explanation, "e.example"⟩,
    ⟨.softFail, .all, ""⟩, ⟨.pass, .unknown "foo", "bar"⟩, ⟨.pass, .redirect, "b.example"⟩]

/-- The same mechanisms in front of two redirects. -/
def gathered : List Term :=
  [⟨.fail, .all, ""⟩, ⟨.softFail, .all, ""⟩, ⟨.pass, .unknown "foo", "bar"⟩,
    ⟨.pass, .redirect, "b.example"⟩, ⟨.pass, .redirect, "a.example"⟩]

/-- The same is found whether the modifiers are scattered or gathered. -/
theorem check_eq_of_mechanisms_eq_scattered :
    mechanisms scattered = mechanisms gathered ∧
      redirectCount scattered = redirectCount gathered ∧
      check "v=spf1" scattered = check "v=spf1" gathered ∧
      check "v=spf1" gathered =
        [.warning
            "The 'all' mechanism is not the last mechanism; anything after it is never evaluated",
          .error "Multiple redirect modifiers found (2); at most one is allowed",
          .warning "The redirect modifier is ignored because an 'all' mechanism is present"] := by
  have hmechanisms : mechanisms scattered = mechanisms gathered := by decide +kernel
  have hcount : redirectCount scattered = redirectCount gathered := by decide +kernel
  exact ⟨hmechanisms, hcount, check_eq_of_mechanisms_eq.1 _ _ _ hmechanisms hcount,
    by decide +kernel⟩

end Rules

end SenderPolicy
