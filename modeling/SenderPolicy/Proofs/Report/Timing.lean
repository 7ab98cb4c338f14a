/-
Reports without their times.

Two runs of one validation differ in the milliseconds that their nodes took, so their reports are
compared with all times set to zero.  This comparison is the right one: two reports become equal in
this way exactly if the same paths lead to nodes in both, and the nodes at the end of a path say
the same apart from their times (`Report.withoutTiming_eq_iff`).  In the one direction, the node at
the end of a path loses its times like a report of its own (`Report.at?_map`).  In the other, the
induction is on one of the reports, and the entries of two nodes are gone through side by side,
where the paths count only those entries that carry a report.

A report agrees in this sense with itself without its times.  So its errors and children are the
same, and as its issues are, the brackets of its document are nested no deeper.
-/
import SenderPolicy.Proofs.Report.Paths

namespace SenderPolicy

namespace Finding

/-- Findings are equal without their times exactly if all their other fields are. -/
lemma withoutTiming_eq_iff {f f' : Finding} :
    f.withoutTiming = f'.withoutTiming ↔
      f.domain = f'.domain ∧ f.record = f'.record ∧ f.version = f'.version ∧
        f.lookupCount = f'.lookupCount ∧ f.issues = f'.issues := by
  obtain ⟨domain, record, version, lookupCount, issues, time⟩ := f
  obtain ⟨domain', record', version', lookupCount', issues', time'⟩ := f'
  simp [withoutTiming]

end Finding

namespace Report

variable {g : Finding → Finding} {r s n m : Report}

/-! ### Reports with other findings -/

@[simp] lemma finding_map (r : Report) : (r.map g).finding = g r.finding := by
  cases r
  rfl

lemma mapEntries_eq (es : List Entry) : mapEntries g es = es.map (mapEntry g) := by
  induction es with
  | nil => rfl
  | cons e es ih => rw [mapEntries, ih, List.map_cons]

@[simp] lemma entries_map (r : Report) : (r.map g).entries = r.entries.map (mapEntry g) := by
  cases r with
  | node f es => rw [map, entries_node, entries_node, mapEntries_eq]

@[simp] lemma term_mapEntry (e : Entry) : (mapEntry g e).term = e.term := by
  cases e <;> rfl

@[simp] lemma report?_mapEntry (e : Entry) : (mapEntry g e).report? = e.report?.map (map g) := by
  cases e <;> rfl

@[simp] lemma children_map (r : Report) : (r.map g).children = r.children.map (map g) := by
  simp [children, List.filterMap_map, List.map_filterMap]

/-- The node at the end of a path is replaced by its image. -/
lemma at?_map (r : Report) (path : List Nat) : (r.map g).at? path = (r.at? path).map (map g) := by
  induction path generalizing r with
  | nil => rfl
  | cons i path ih =>
      rw [at?, at?, children_map, List.getElem?_map]
      cases r.children[i]? with
      | none => rfl
      | some child => exact ih child

@[simp] lemma finding_withoutTiming (r : Report) :
    r.withoutTiming.finding = r.finding.withoutTiming := finding_map r

lemma at?_withoutTiming (r : Report) (path : List Nat) :
    r.withoutTiming.at? path = (r.at? path).map withoutTiming := at?_map r path

/-! ### What reports say apart from their times -/

/-- Two nodes say the same apart from their times: their findings agree in all other fields, their
entries are for the same terms, and the same ones of these carry reports. -/
structure SaysSame (n m : Report) : Prop where
  domain : n.finding.domain = m.finding.domain
  record : n.finding.record = m.finding.record
  version : n.finding.version = m.finding.version
  lookupCount : n.finding.lookupCount = m.finding.lookupCount
  issues : n.finding.issues = m.finding.issues
  terms : n.entries.map Entry.term = m.entries.map Entry.term
  carried : (n.entries.map fun e => e.report?.isSome) = m.entries.map fun e => e.report?.isSome

/-- Two reports agree apart from their times: the same paths lead to nodes in both, and the nodes at
the end of a path say the same. -/
def AgreesUntimed (r s : Report) : Prop :=
  ∀ path, Option.Rel SaysSame (r.at? path) (s.at? path)

lemma SaysSame.of_withoutTiming_eq (h : n.withoutTiming = m.withoutTiming) : SaysSame n m := by
  have hfinding := congrArg finding h
  rw [finding_withoutTiming, finding_withoutTiming, Finding.withoutTiming_eq_iff] at hfinding
  obtain ⟨hdomain, hrecord, hversion, hcount, hissues⟩ := hfinding
  have hterms := congrArg (fun r : Report => r.entries.map Entry.term) h
  have hcarried := congrArg (fun r : Report => r.entries.map fun e => e.report?.isSome) h
  simp only [withoutTiming, entries_map, List.map_map, Function.comp_def, term_mapEntry,
    report?_mapEntry, Option.isSome_map] at hterms hcarried
  exact ⟨hdomain, hrecord, hversion, hcount, hissues, hterms, hcarried⟩

/-- Equal reports agree, because the times are set to zero at the end of each path on its own. -/
lemma AgreesUntimed.of_withoutTiming_eq (h : r.withoutTiming = s.withoutTiming) :
    AgreesUntimed r s := by
  intro path
  have hpath := congrArg (fun t : Report => t.at? path) h
  simp only [at?_withoutTiming] at hpath
  cases hr : r.at? path with
  | none =>
      rw [hr, Option.map_none, eq_comm, Option.map_eq_none_iff] at hpath
      rw [hpath]
      exact Option.Rel.none
  | some n =>
      rw [hr, Option.map_some, eq_comm, Option.map_eq_some_iff] at hpath
      obtain ⟨m, hs, heq⟩ := hpath
      rw [hs]
      exact Option.Rel.some (.of_withoutTiming_eq heq.symm)

/-- What agrees at the end of all paths agrees below every child. -/
lemma AgreesUntimed.children (h : AgreesUntimed r s) (i : Nat) :
    Option.Rel AgreesUntimed r.children[i]? s.children[i]? := by
  -- the path to the child shows whether there is one on both sides
  have hchild := h [i]
  have hbelow : ∀ path, Option.Rel SaysSame (r.children[i]?.bind fun child => child.at? path)
      (s.children[i]?.bind fun child => child.at? path) := fun path => h (i :: path)
  rw [at?, at?] at hchild
  cases hr : r.children[i]? <;> cases hs : s.children[i]? <;> rw [hr, hs] at hchild hbelow
  · exact Option.Rel.none
  · cases hchild
  · cases hchild
  · exact Option.Rel.some hbelow

mutual

lemma withoutTiming_eq_of_agreesUntimed : ∀ r s : Report, AgreesUntimed r s →
    r.withoutTiming = s.withoutTiming
  | node f es, node f' es', h => by
      have hsame : SaysSame (node f es) (node f' es') := by
        cases h [] with
        | some hsame => exact hsame
      have hfinding : f.withoutTiming = f'.withoutTiming :=
        Finding.withoutTiming_eq_iff.2
          ⟨hsame.domain, hsame.record, hsame.version, hsame.lookupCount, hsame.issues⟩
      rw [withoutTiming, withoutTiming, map, map, hfinding,
        mapEntries_eq_of_agreesUntimed es es' hsame.terms hsame.carried h.children]

lemma mapEntries_eq_of_agreesUntimed : ∀ es es' : List Entry,
    es.map Entry.term = es'.map Entry.term →
    (es.map fun e => e.report?.isSome) = (es'.map fun e => e.report?.isSome) →
    (∀ i : Nat, Option.Rel AgreesUntimed (es.filterMap Entry.report?)[i]?
      (es'.filterMap Entry.report?)[i]?) →
    mapEntries Finding.withoutTiming es = mapEntries Finding.withoutTiming es'
  | [], es', hterms, _, _ => by
      rw [List.map_nil, eq_comm, List.map_eq_nil_iff] at hterms
      rw [hterms]
  | _ :: _, [], hterms, _, _ => by cases hterms
  | .plain t :: es, .plain t' :: es', hterms, hcarried, hchildren => by
      obtain ⟨hterm, hrest⟩ := List.cons.inj hterms
      obtain rfl : t = t' := hterm
      rw [mapEntries, mapEntries,
        mapEntries_eq_of_agreesUntimed es es' hrest (List.cons.inj hcarried).2 hchildren]
  | .plain _ :: _, .expanded _ _ :: _, _, hcarried, _ => by cases (List.cons.inj hcarried).1
  | .expanded _ _ :: _, .plain _ :: _, _, hcarried, _ => by cases (List.cons.inj hcarried).1
  | .expanded t r :: es, .expanded t' r' :: es', hterms, hcarried, hchildren => by
      obtain ⟨hterm, hrest⟩ := List.cons.inj hterms
      obtain rfl : t = t' := hterm
      -- the report that the first entry carries is the first child
      have hreport : r.map Finding.withoutTiming = r'.map Finding.withoutTiming := by
        cases hchildren 0 with
        | some hagrees => exact withoutTiming_eq_of_agreesUntimed r r' hagrees
      rw [mapEntries, mapEntries, mapEntry, mapEntry, hreport,
        mapEntries_eq_of_agreesUntimed es es' hrest (List.cons.inj hcarried).2
          fun i => hchildren (i + 1)]

end

/-- Setting the times to zero takes them away and nothing else. -/
lemma withoutTiming_eq_iff : r.withoutTiming = s.withoutTiming ↔ AgreesUntimed r s :=
  ⟨.of_withoutTiming_eq, withoutTiming_eq_of_agreesUntimed r s⟩

lemma saysSame_withoutTiming (n : Report) : SaysSame n.withoutTiming n := by
  obtain ⟨f, es⟩ := n
  have hentries : ((node f es).withoutTiming).entries = es.map (mapEntry Finding.withoutTiming) :=
    entries_map _
  refine ⟨rfl, rfl, rfl, rfl, rfl, ?_, ?_⟩
  · simp [hentries, Function.comp_def]
  · simp [hentries, Function.comp_def]

lemma agreesUntimed_withoutTiming (r : Report) : AgreesUntimed r.withoutTiming r := by
  intro path
  rw [at?_withoutTiming]
  cases r.at? path with
  | none => exact Option.Rel.none
  | some n => exact Option.Rel.some (saysSame_withoutTiming n)

/-- There are no more times to be set to zero. -/
lemma withoutTiming_withoutTiming (r : Report) :
    r.withoutTiming.withoutTiming = r.withoutTiming :=
  withoutTiming_eq_iff.2 (agreesUntimed_withoutTiming r)

/-- All times are zero. -/
lemma queryTimeMs_of_mem_nodes_withoutTiming (h : n ∈ r.withoutTiming.nodes) :
    n.finding.queryTimeMs = 0 := by
  obtain ⟨path, hpath⟩ := mem_nodes_iff_exists_path.1 h
  rw [at?_withoutTiming] at hpath
  obtain ⟨m, -, rfl⟩ := Option.map_eq_some_iff.1 hpath
  rw [finding_withoutTiming, Finding.withoutTiming]

/-! ### Errors and children -/

lemma hasErrors_withoutTiming (r : Report) : r.withoutTiming.hasErrors = r.hasErrors := by
  rw [hasErrors, hasErrors, Finding.hasErrors, Finding.hasErrors, (saysSame_withoutTiming r).issues]

lemma hasErrorsInTree_withoutTiming (r : Report) :
    r.withoutTiming.hasErrorsInTree = r.hasErrorsInTree := by
  rw [Bool.eq_iff_iff, hasErrorsInTree_iff_exists_path, hasErrorsInTree_iff_exists_path]
  simp only [at?_withoutTiming, Option.map_eq_some_iff]
  constructor
  · rintro ⟨path, _, ⟨n, hn, rfl⟩, herror⟩
    rw [(saysSame_withoutTiming n).issues] at herror
    exact ⟨path, n, hn, herror⟩
  · rintro ⟨path, n, hn, herror⟩
    rw [← (saysSame_withoutTiming n).issues] at herror
    exact ⟨path, n.withoutTiming, ⟨n, hn, rfl⟩, herror⟩

lemma children_withoutTiming (r : Report) :
    r.withoutTiming.children = r.children.map withoutTiming := children_map r

lemma map_domain_children_withoutTiming (r : Report) :
    (r.withoutTiming.children.map fun n => n.finding.domain) =
      r.children.map fun n => n.finding.domain := by
  rw [children_withoutTiming, List.map_map]
  exact List.map_congr_left fun n _ => (saysSame_withoutTiming n).domain

/-! ### Documents -/

section Documents

open Json (ReadsAs maxDepth)

mutual

/-- The nesting of the document depends on the issues and on the entries only. -/
lemma nesting_toJson_map (hg : ∀ f, (g f).issues = f.issues) : ∀ r : Report,
    (r.map g).toJson.nesting = r.toJson.nesting
  | node f es => by
      rw [map, nesting_toJson_node, nesting_toJson_node, hg, Json.nesting,
        nesting_mapEntries hg es, ← Json.nesting]

lemma nesting_mapEntries (hg : ∀ f, (g f).issues = f.issues) : ∀ es : List Entry,
    Json.nestingOfItems ((mapEntries g es).map entryToJson) =
      Json.nestingOfItems (es.map entryToJson)
  | [] => rfl
  | e :: es => by
      rw [mapEntries, List.map_cons, List.map_cons, Json.nestingOfItems, Json.nestingOfItems,
        nesting_mapEntry hg e, nesting_mapEntries hg es]

lemma nesting_mapEntry (hg : ∀ f, (g f).issues = f.issues) : ∀ e : Entry,
    (entryToJson (mapEntry g e)).nesting = (entryToJson e).nesting
  | .plain t => rfl
  | .expanded t r => by
      rw [nesting_entryToJson, nesting_entryToJson, report?_mapEntry, Entry.report?]
      exact congrArg (· + 1) (nesting_toJson_map hg r)

end

/-- Reading a report and setting its times to zero can be exchanged. -/
lemma readsAs_withoutTiming (hcanonical : r.IsCanonical) (hnesting : r.toJson.nesting ≤ maxDepth) :
    ReadsAs decode r.toJson r ∧ ReadsAs decode r.withoutTiming.toJson r.withoutTiming := by
  have hreverses := reverses_decode (maxDepth + 1)
  have hcanonical' : r.withoutTiming.IsCanonical := (isCanonical_map r).2 hcanonical
  have hsame : r.withoutTiming.toJson.nesting = r.toJson.nesting :=
    nesting_toJson_map (g := Finding.withoutTiming) (fun _ => rfl) r
  exact ⟨hreverses.readsAs r.isComplete_toJson hcanonical hnesting,
    hreverses.readsAs r.withoutTiming.isComplete_toJson hcanonical' (hsame ▸ hnesting)⟩

end Documents

/-- Setting the times of a report to zero takes them away and nothing else, at every depth.

Two reports become equal exactly if they agree apart from their times: the same paths lead to nodes
in both, and these agree in all other fields, in the terms of their entries and in which of these
carry reports.  No node keeps a time, doing it twice is doing it once, and neither the errors nor
the children of a report change.  A report whose kinds are canonical and whose document is nested no
deeper than reading allows is read from its document, and then it is the same whether its times are
set to zero before it is written or after it is read, in the compact and in the indented form. -/
theorem withoutTiming_takes_times_only :
    (∀ r s : Report, r.withoutTiming = s.withoutTiming ↔ AgreesUntimed r s) ∧
    ∀ r : Report,
      (∀ n ∈ r.withoutTiming.nodes, n.finding.queryTimeMs = 0) ∧
      (∀ path, r.withoutTiming.at? path = (r.at? path).map withoutTiming) ∧
      r.withoutTiming.withoutTiming = r.withoutTiming ∧
      r.withoutTiming.hasErrors = r.hasErrors ∧
      r.withoutTiming.hasErrorsInTree = r.hasErrorsInTree ∧
      ((r.withoutTiming.children.map fun n => n.finding.domain) =
        r.children.map fun n => n.finding.domain) ∧
      (r.IsCanonical → r.toJson.nesting ≤ Json.maxDepth →
        ∃ r', Json.ReadsAs decode r.toJson r' ∧
          Json.ReadsAs decode r.withoutTiming.toJson r'.withoutTiming) := by
  refine ⟨fun r s => withoutTiming_eq_iff, fun r => ⟨?_, at?_withoutTiming r,
    withoutTiming_withoutTiming r, hasErrors_withoutTiming r, hasErrorsInTree_withoutTiming r,
    map_domain_children_withoutTiming r, fun hcanonical hnesting => ?_⟩⟩
  · exact fun n => queryTimeMs_of_mem_nodes_withoutTiming
  · exact ⟨r, readsAs_withoutTiming hcanonical hnesting⟩

/-- A report in which a second domain refers back to the first one, with the times of the two. -/
def timed (first second : UInt64) : Report :=
  .node
    { domain := "a", record := some "v=spf1 include:b -all", version := some "spf1"
      lookupCount := 1, issues := [], queryTimeMs := first }
    [.expanded ⟨.pass, .inclusion, "b"⟩ (.node
      { domain := "b", record := some "v=spf1 redirect=a", version := some "spf1"
        lookupCount := 1, issues := [.warning "no all"], queryTimeMs := second }
      [.expanded ⟨.pass, .redirect, "a"⟩ (.failed "a" 1 "circular")]),
    .plain ⟨.fail, .all, ""⟩]

/-- Two runs of one validation agree, a report with one more issue does not, and the report is the
same whether its times are taken away before it is written or after it is read. -/
theorem withoutTiming_takes_times_only_timed :
    AgreesUntimed (timed 40 12) (timed 3 7) ∧
      ¬ AgreesUntimed (timed 40 12) ((timed 40 12).addIssue (.warning "late")) ∧
      (timed 40 12).IsCanonical ∧ (timed 40 12).toJson.nesting ≤ Json.maxDepth ∧
      ∃ r', Json.ReadsAs decode (timed 40 12).toJson r' ∧
        Json.ReadsAs decode (timed 40 12).withoutTiming.toJson r'.withoutTiming := by
  have hcanonical : (timed 40 12).IsCanonical := by decide +kernel
  have hnesting : (timed 40 12).toJson.nesting ≤ Json.maxDepth := by decide +kernel
  obtain ⟨hiff, hall⟩ := withoutTiming_takes_times_only
  obtain ⟨-, -, -, -, -, -, hreads⟩ := hall (timed 40 12)
  refine ⟨(hiff _ _).1 rfl, fun hagrees => ?_, hcanonical, hnesting, hreads hcanonical hnesting⟩
  have hissues := congrArg (fun r : Report => r.finding.issues) ((hiff _ _).2 hagrees)
  exact absurd hissues (by decide +kernel)

end Report

end SenderPolicy
