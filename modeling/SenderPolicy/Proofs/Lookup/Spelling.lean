/-
Spellings of one name.

A validation tells domains apart by their texts, without blanks around them and in lower case.  A
query has the labels of a name, and of these the empty ones are left out.  So two texts with dots
at different places can be spellings of one name, and a validation takes them for two domains.

A name without an empty component (`Dns.Name.IsPlain`) has just one spelling of this kind, because
its components are its labels, and put together again they are the name.  Among such names no two
domains of a validation have the same labels, and a reference back to one of them is circular.
-/
import SenderPolicy.Proofs.Dns.Query
import SenderPolicy.Proofs.Lookup.Itinerary
import SenderPolicy.Proofs.Lookup.Session

namespace SenderPolicy

namespace Dns

open Text

variable {domain domain' : String}

/-! ### Plain names -/

namespace Name

/-- The name has no empty component, so there are no dots at its ends and no two in a row. -/
def IsPlain (domain : String) : Prop := "" ∉ components domain

instance (domain : String) : Decidable (IsPlain domain) :=
  inferInstanceAs (Decidable ("" ∉ components domain))

/-- The components of a name, put together again, are the name. -/
lemma components_injective : Function.Injective components := by
  intro domain domain' h
  have hsplit : split (· == '.') domain.toList = split (· == '.') domain'.toList :=
    List.map_injective_iff.2 (fun _ _ => String.ofList_injective) h
  have hjoin := congrArg (List.intercalate ['.']) hsplit
  rw [intercalate_split, intercalate_split] at hjoin
  exact String.toList_inj.1 hjoin

lemma IsPlain.queriedLabels_eq (h : IsPlain domain) : queriedLabels domain = components domain := by
  rw [Dns.queriedLabels_eq, List.filter_eq_self]
  intro label hlabel
  exact decide_eq_true fun hempty => h (hempty ▸ hlabel)

/-- Plain names with the same labels are equal. -/
lemma IsPlain.eq_of_queriedLabels_eq (h : IsPlain domain) (h' : IsPlain domain')
    (hlabels : queriedLabels domain = queriedLabels domain') : domain = domain' := by
  rw [h.queriedLabels_eq, h'.queriedLabels_eq] at hlabels
  exact components_injective hlabels

lemma IsPlain.ne_empty (h : IsPlain domain) : domain ≠ "" := by
  rintro rfl
  exact h (by decide)

end Name

end Dns

namespace Lookup

open Dns (queriedLabels)
open Dns.Name (IsPlain)
open Inquiry (Run)

/-! ### Validations -/

/-- Nothing but a refusal happens at a reference to a visited domain. -/
lemma Happens.eq_circular {ctx : Context} {t : Term} {child : Report} {steps : List Step}
    (h : Happens ctx (.reference t child) steps) (hne : target t ≠ "")
    (hmem : target t ∈ ctx.visited) :
    child = .failed (target t) ctx.lookupCount (Lookup.circular (target t)) := by
  cases h with
  | missing hempty => exact absurd hempty hne
  | circular => rfl
  | overLimit _ hnew => exact absurd hmem hnew
  | fetched _ hnew => exact absurd hmem hnew

/-- The domains that a report shows to be fetched before a reference were asked for first, and a
reference to one of them is circular. -/
lemma circular_of_mem_fetchedAt {domain : String} {events : List (String × TxtAnswer)}
    {report : Report} (h : Run (validate domain) events report) {before later : List Stop}
    {t : Term} {child : Report} (hstops : itinerary report = before ++ .reference t child :: later) :
    Domain.normalize domain :: fetchedAt before <+: events.map Prod.fst ∧
      (target t ≠ "" → target t ∈ Domain.normalize domain :: fetchedAt before →
        ∃ n, child = .failed (target t) n (circular (target t))) := by
  obtain ⟨steps, r, ctx, hfetch, rfl, rfl⟩ := run_validate_iff.1 h
  cases hfetch with
  | @intro answer inner entries _ terms =>
      rw [itinerary_eq, entries_verdict, Report.entries_node] at hstops
      have hreplay := terms.replay
      rw [hstops] at hreplay
      obtain ⟨earlier, rest, rfl, hbefore, hhere⟩ := hreplay.exists_of_append
      have hasked := hbefore.asked_eq
      constructor
      · change _ <+: asked (.ask _ answer :: (earlier ++ rest))
        rw [asked_ask, asked_append, hasked, ← List.cons_append]
        exact List.prefix_append _ _
      · intro hne hmem
        have hvisited : target t ∈
            (after (Context.empty.mark (Domain.normalize domain)) earlier).visited := by
          rw [hbefore.paid.mem_visited_after_iff, mem_visited_start, hasked]
          exact List.mem_cons.1 hmem
        cases hhere with
        | cons here _ => exact ⟨_, here.eq_circular hne hvisited⟩

/-- No plain name is asked for twice.

The domains of a validation are distinct texts, and any two of them that are plain names have
different labels.  If a reference names a domain with the labels of one that was asked for before,
and both are plain, then it is reported as circular. -/
theorem queriedLabels_ne_of_plain {domain : String} {events : List (String × TxtAnswer)}
    {report : Report} (h : Run (validate domain) events report) :
    (events.map Prod.fst).Pairwise (fun x y =>
      x ≠ y ∧ (IsPlain x → IsPlain y → queriedLabels x ≠ queriedLabels y)) ∧
    ∀ before t child later, itinerary report = before ++ .reference t child :: later →
      Domain.normalize domain :: fetchedAt before <+: events.map Prod.fst ∧
      ∀ x ∈ Domain.normalize domain :: fetchedAt before, IsPlain x → IsPlain (target t) →
        queriedLabels (target t) = queriedLabels x →
        ∃ n, child = .failed (target t) n (circular (target t)) := by
  constructor
  · obtain ⟨hnodup, -, -⟩ := questions_of_run_validate h
    refine hnodup.imp fun {x y} hne => ⟨hne, fun hx hy hlabels => ?_⟩
    exact hne (hx.eq_of_queriedLabels_eq hy hlabels)
  · intro before t child later hstops
    obtain ⟨hbegin, hcircular⟩ := circular_of_mem_fetchedAt h hstops
    refine ⟨hbegin, fun x hmem hx ht hlabels => ?_⟩
    rw [← ht.eq_of_queriedLabels_eq hx hlabels] at hmem
    exact hcircular ht.ne_empty hmem

/-! ### Two spellings of one name -/

/-- A policy that includes the same domain for every name, with a capital letter. -/
def capital (_ : String) : TxtAnswer := .ok ["v=spf1 include:Example.com -all"]

/-- A domain that includes itself in another spelling without an empty component is refused. -/
theorem queriedLabels_ne_of_plain_capital :
    ∃ t child later n,
      itinerary ((validate "example.com").run capital) = .reference t child :: later ∧
      t.value = "Example.com" ∧
      child = .failed "example.com" n (circular "example.com") := by
  obtain ⟨-, hreferences⟩ :=
    queriedLabels_ne_of_plain (Inquiry.run_of_fixed capital (validate "example.com"))
  have hfirst : (((itinerary ((validate "example.com").run capital)).head?.bind
      Stop.reference?).map fun p => p.1.value) = some "Example.com" := by
    decide +kernel
  have hname : Domain.normalize "Example.com" = "example.com" := by decide +kernel
  have hname' : Domain.normalize "example.com" = "example.com" := by decide +kernel
  cases hstops : itinerary ((validate "example.com").run capital) with
  | nil =>
      rw [hstops] at hfirst
      cases hfirst
  | cons stop later =>
      rw [hstops] at hfirst
      cases stop with
      | charge => cases hfirst
      | reference t child =>
          have hvalue : t.value = "Example.com" := Option.some.inj hfirst
          have htarget : target t = "example.com" := by rw [target, hvalue, hname]
          obtain ⟨-, hcircular⟩ := hreferences [] t child later hstops
          rw [hname'] at hcircular
          obtain ⟨n, hn⟩ := hcircular "example.com" List.mem_cons_self (by decide +kernel)
            (by rw [htarget]; decide +kernel) (by rw [htarget])
          rw [htarget] at hn
          exact ⟨t, child, later, n, rfl, hvalue, hn⟩

/-- A policy that includes the same domain for every name, with a dot at its end. -/
def dotted (_ : String) : TxtAnswer := .ok ["v=spf1 include:example.com. -all"]

/-- A domain that includes itself with a dot at its end is asked for twice, with the same octets,
and the first reference back to it is followed. -/
theorem queries_dotted :
    (validate "example.com").queries dotted = ["example.com", "example.com."] ∧
      queriedLabels "example.com" = queriedLabels "example.com." ∧
      (Dns.Question.ofDomain "example.com" .txt).write =
        (Dns.Question.ofDomain "example.com." .txt).write ∧
      (references ((validate "example.com").run dotted)).map (fun p => fate p.1 p.2) =
        [.fetched, .circular] := by
  have hlabels : queriedLabels "example.com" = queriedLabels "example.com." := by decide +kernel
  refine ⟨by decide +kernel, hlabels, Dns.write_ofDomain_eq hlabels, by decide +kernel⟩

end Lookup

end SenderPolicy
