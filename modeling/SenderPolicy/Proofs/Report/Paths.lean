/-
The nodes of a report, by the way to them.

Whether there is an error in a report is asked of all its nodes in a row (`Report.nodes`).  Here a
node is found by a path instead: for each level below the root, the number of the report to go down
into.  Both reach the same nodes, however deep a report is (`Report.mem_nodes_iff_exists_path`), so
there is an error in a report exactly if there is one at the end of some path.
-/
import SenderPolicy.Proofs.Report.Document

namespace SenderPolicy

namespace Report

/-- The node at the end of a path from the root. -/
def at? : Report → List Nat → Option Report
  | r, [] => some r
  | r, i :: path => r.children[i]?.bind fun child => child.at? path

variable {n r child : Report} {path : List Nat}

lemma nodes_eq_cons (r : Report) : r.nodes = r :: nodesOfEntries r.entries := by
  cases r with
  | node f es => rw [nodes, entries_node]

lemma mem_nodes_of_at? (h : r.at? path = some n) : n ∈ r.nodes := by
  induction path generalizing r with
  | nil =>
      cases h
      rw [nodes_eq_cons]
      exact List.mem_cons_self
  | cons i path ih =>
      obtain ⟨child, hchild, hpath⟩ := Option.bind_eq_some_iff.1 h
      obtain ⟨e, he, hreport⟩ := List.mem_filterMap.1 (List.mem_of_getElem? hchild)
      rw [nodes_eq_cons]
      exact List.mem_cons_of_mem _ (mem_nodesOfEntries_iff.2 ⟨e, he, child, hreport, ih hpath⟩)

mutual

lemma exists_path_of_mem_nodes : ∀ r : Report, n ∈ r.nodes → ∃ path, r.at? path = some n
  | .node f es, h => by
      rcases List.mem_cons.1 h with rfl | h
      · exact ⟨[], rfl⟩
      · obtain ⟨i, child, path, hchild, hpath⟩ := exists_path_of_mem_nodesOfEntries es h
        exact ⟨i :: path, Option.bind_eq_some_iff.2 ⟨child, hchild, hpath⟩⟩

lemma exists_path_of_mem_nodesOfEntries : ∀ es : List Entry, n ∈ nodesOfEntries es →
    ∃ (i : Nat) (child : Report) (path : List Nat),
      (es.filterMap Entry.report?)[i]? = some child ∧ child.at? path = some n
  | [], h => nomatch h
  | .plain _ :: es, h => exists_path_of_mem_nodesOfEntries es h
  | .expanded _ r :: es, h => by
      rcases List.mem_append.1 h with h | h
      · obtain ⟨path, hpath⟩ := exists_path_of_mem_nodes r h
        exact ⟨0, r, path, rfl, hpath⟩
      · obtain ⟨i, child, path, hchild, hpath⟩ := exists_path_of_mem_nodesOfEntries es h
        exact ⟨i + 1, child, path, hchild, hpath⟩

end

/-- The nodes of a report are those that paths lead to. -/
lemma mem_nodes_iff_exists_path : n ∈ r.nodes ↔ ∃ path, r.at? path = some n :=
  ⟨exists_path_of_mem_nodes r, fun ⟨_, hpath⟩ => mem_nodes_of_at? hpath⟩

/-- There is an error in a report exactly if there is one at the end of some path. -/
lemma hasErrorsInTree_iff_exists_path :
    r.hasErrorsInTree = true ↔
      ∃ path n, r.at? path = some n ∧ ∃ i ∈ n.finding.issues, i.severity = .error := by
  simp only [hasErrorsInTree, hasErrors, Finding.hasErrors, Issue.isError, List.any_eq_true,
    beq_iff_eq, mem_nodes_iff_exists_path]
  constructor
  · rintro ⟨n, ⟨path, hpath⟩, herror⟩
    exact ⟨path, n, hpath, herror⟩
  · rintro ⟨path, n, hpath, herror⟩
    exact ⟨n, ⟨path, hpath⟩, herror⟩

end Report

end SenderPolicy
