/-
Why a reference was followed or not.

Going through a report in the order of the source, one comes upon terms that are charged for and
upon references (`Lookup.itinerary`).  What a validation has fetched and charged for when it comes
upon a reference can be read off the stops before it, and this decides what is done with the
reference: it is refused if it names no domain, else if its domain was fetched, else if the budget
is spent, and else it is followed.

A traversal is a nested thing, but its stops and its steps stand in the same order.
`Lookup.Replay` takes both lists from the front, one rule for each kind of stop, so that it can be
cut in two at any stop (`Lookup.Replay.exists_of_append`).  All statements about a reference are
drawn from the replay up to it.
-/
import SenderPolicy.Proofs.Lookup.Accounting

namespace SenderPolicy

namespace Lookup

open Inquiry (Run)

/-- Something that one comes upon when going through a report. -/
inductive Stop where
  /-- A term that refers to no domain and is charged for. -/
  | charge
  /-- A reference with the report on it. -/
  | reference (t : Term) (report : Report)

namespace Stop

/-- The reference at a stop. -/
def reference? : Stop → Option (Term × Report)
  | charge => none
  | reference t report => some (t, report)

/-- Whether a lookup is charged at a stop. -/
def isCharged : Stop → Bool
  | charge => true
  | reference t report => Lookup.isCharged t report

/-- The domain that is fetched at a stop. -/
def fetched? : Stop → Option String
  | charge => none
  | reference t report => if fate t report = .fetched then some report.finding.domain else none

end Stop

mutual

/-- The stops of a report, in the order of the source. -/
def itinerary : Report → List Stop
  | .node _ entries => itineraryOfEntries entries

/-- The stops of some entries. -/
def itineraryOfEntries : List Entry → List Stop
  | [] => []
  | entry :: entries => itineraryOfEntry entry ++ itineraryOfEntries entries

/-- The stops of an entry. -/
def itineraryOfEntry : Entry → List Stop
  | .plain t => if t.kind.takesLookup then [.charge] else []
  | .expanded t report => .reference t report :: itinerary report

end

/-- The number of lookups that are charged at some stops. -/
def chargedAt (stops : List Stop) : Nat := stops.countP Stop.isCharged

/-- The domains that are fetched at some stops, in order. -/
def fetchedAt (stops : List Stop) : List String := stops.filterMap Stop.fetched?

mutual

/-- The references among the stops of a report are all its references. -/
lemma references_eq (report : Report) :
    (itinerary report).filterMap Stop.reference? = references report := by
  cases report with
  | node finding entries => rw [itinerary, references, referencesOfEntries_eq entries]

lemma referencesOfEntries_eq (entries : List Entry) :
    (itineraryOfEntries entries).filterMap Stop.reference? = referencesOfEntries entries := by
  cases entries with
  | nil => rfl
  | cons entry entries =>
      rw [itineraryOfEntries, referencesOfEntries, List.filterMap_append,
        referencesOfEntry_eq entry, referencesOfEntries_eq entries]

lemma referencesOfEntry_eq (entry : Entry) :
    (itineraryOfEntry entry).filterMap Stop.reference? = referencesOfEntry entry := by
  cases entry with
  | plain t =>
      rw [itineraryOfEntry]
      split <;> rfl
  | expanded t report =>
      rw [itineraryOfEntry, referencesOfEntry, ← references_eq report]
      rfl

end

/-! ### Replays -/

/-- What is done at one stop. -/
inductive Happens (ctx : Context) : Stop → List Step → Prop where
  /-- A term that refers to no domain is charged for. -/
  | charge : Happens ctx .charge [.charge]
  /-- Nothing is done for a reference that names no domain. -/
  | missing {t : Term} (hempty : target t = "") :
      Happens ctx (.reference t (.failed (target t) ctx.lookupCount (noTarget t.kind))) []
  /-- Nothing is done for a reference to a visited domain. -/
  | circular {t : Term} (hne : target t ≠ "") (hmem : target t ∈ ctx.visited) :
      Happens ctx (.reference t (.failed (target t) ctx.lookupCount (circular (target t)))) []
  /-- A reference that the budget does not allow to follow is still charged for. -/
  | overLimit {t : Term} (hne : target t ≠ "") (hmem : target t ∉ ctx.visited)
      (hlimit : ctx.charge.isWithinLimit = false) :
      Happens ctx
        (.reference t (.failed (target t) ctx.charge.lookupCount (overLimit (target t))))
        [.charge]
  /-- The domain of a reference that is followed is charged for, noted and fetched. -/
  | fetched {t : Term} {answer : TxtAnswer} {count : UInt32} {children : List Entry}
      (hne : target t ≠ "") (hmem : target t ∉ ctx.visited)
      (hlimit : ctx.charge.isWithinLimit = true) :
      Happens ctx (.reference t (.node (findingFor (target t) answer count) children))
        [.charge, .mark (target t), .ask (target t) answer]

/-- What is done at some stops, one after the other. -/
inductive Replay : Context → List Stop → List Step → Prop where
  | nil (ctx : Context) : Replay ctx [] []
  | cons {ctx : Context} {stop : Stop} {stops : List Stop} {first steps : List Step}
      (here : Happens ctx stop first) (rest : Replay (after ctx first) stops steps) :
      Replay ctx (stop :: stops) (first ++ steps)

variable {ctx ctx' : Context} {stop : Stop} {stops stops' : List Stop} {steps steps' : List Step}

namespace Happens

lemma paid (h : Happens ctx stop steps) : Paid ctx steps := by
  cases h with
  | charge => exact .charge (.nil _)
  | missing hempty => exact .nil ctx
  | circular hne hmem => exact .nil ctx
  | overLimit hne hmem hlimit => exact .charge (.nil _)
  | fetched hne hmem hlimit => exact .fetch hne hmem hlimit (.nil _)

/-- The domain that is asked for at a stop is the one that the report shows. -/
lemma asked_eq (h : Happens ctx stop steps) : asked steps = (Stop.fetched? stop).toList := by
  cases h with
  | charge => rfl
  | missing hempty => simp [Stop.fetched?]
  | circular hne hmem => simp [Stop.fetched?]
  | overLimit hne hmem hlimit => simp [Stop.fetched?]
  | fetched hne hmem hlimit => simp [Stop.fetched?]

/-- A stop moves the count by what the report shows to be charged there. -/
lemma count_after (h : Happens ctx stop steps) {c : Nat}
    (hc : ctx.count = min (maxLookups + 1) c) :
    (after ctx steps).count = min (maxLookups + 1) (c + if stop.isCharged then 1 else 0) := by
  have hcharge := count_charge_of_eq_min hc
  cases h with
  | charge => simpa [Stop.isCharged] using hcharge
  | missing hempty => simpa [Stop.isCharged] using hc
  | circular hne hmem => simpa [Stop.isCharged] using hc
  | overLimit hne hmem hlimit => simpa [Stop.isCharged] using hcharge
  | fetched hne hmem hlimit => simpa [Stop.isCharged] using hcharge

end Happens

namespace Replay

lemma append (h : Replay ctx stops steps) (h' : Replay (after ctx steps) stops' steps') :
    Replay ctx (stops ++ stops') (steps ++ steps') := by
  induction h with
  | nil ctx => exact h'
  | @cons ctx stop stops first steps here _ ih =>
      rw [List.append_assoc, List.cons_append]
      rw [after_append] at h'
      exact .cons here (ih h')

/-- A replay can be cut in two between any two stops. -/
lemma exists_of_append (h : Replay ctx (stops ++ stops') steps) :
    ∃ earlier rest, steps = earlier ++ rest ∧ Replay ctx stops earlier ∧
      Replay (after ctx earlier) stops' rest := by
  induction stops generalizing ctx steps with
  | nil => exact ⟨[], steps, rfl, .nil ctx, h⟩
  | cons stop stops ih =>
      cases h with
      | @cons _ _ _ first steps here hrest =>
          obtain ⟨earlier, rest, rfl, hearlier, hlater⟩ := ih hrest
          refine ⟨first ++ earlier, rest, by rw [List.append_assoc], .cons here hearlier, ?_⟩
          rwa [after_append]

lemma paid (h : Replay ctx stops steps) : Paid ctx steps := by
  induction h with
  | nil ctx => exact .nil ctx
  | cons here _ ih => exact here.paid.append ih

lemma asked_eq (h : Replay ctx stops steps) : asked steps = fetchedAt stops := by
  induction h with
  | nil ctx => rfl
  | @cons ctx stop stops first steps here _ ih =>
      rw [asked_append, here.asked_eq, ih, fetchedAt, fetchedAt, List.filterMap_cons]
      cases stop.fetched? with
      | none => rfl
      | some domain => rfl

lemma count_after (h : Replay ctx stops steps) {c : Nat}
    (hc : ctx.count = min (maxLookups + 1) c) :
    (after ctx steps).count = min (maxLookups + 1) (c + chargedAt stops) := by
  induction h generalizing c with
  | nil ctx => exact hc
  | cons here _ ih =>
      rw [after_append, ih (here.count_after hc), chargedAt, chargedAt, List.countP_cons]
      omega

end Replay

/-- What is done at the stops of a traversal are its steps. -/
lemma Traversal.replay {ts : List Term} {entries : List Entry}
    (h : Traversal ts ctx steps entries ctx') : Replay ctx (itineraryOfEntries entries) steps := by
  induction h with
  | nil ctx => exact .nil ctx
  | free href hcost _ ih =>
      rw [itineraryOfEntries, itineraryOfEntry, if_neg (Bool.eq_false_iff.1 hcost)]
      exact ih
  | charged href hcost _ ih =>
      rw [itineraryOfEntries, itineraryOfEntry, if_pos hcost]
      exact .cons .charge ih
  | missing href hempty _ ih => exact .cons (.missing hempty) ih
  | circular href hne hmem _ ih => exact .cons (.circular hne hmem) ih
  | overLimit href hne hmem hlimit _ ih => exact .cons (.overLimit hne hmem hlimit) ih
  | followed href hne hmem hlimit hterms _ ihterms ih =>
      refine .cons (.fetched hne hmem hlimit) (ihterms.append ?_)
      rw [← hterms.after_steps] at ih
      exact ih

/-! ### What a report says about a reference -/

/-- The report on a reference, given the domains that were fetched and the count before it and the
steps from there on: why the reference was not followed, or that its domain is fetched next. -/
structure Explained (fetched : List String) (count : Nat) (t : Term) (report : Report)
    (rest : List Step) : Prop where
  /-- The reference is said to name no domain exactly if it names none. -/
  missing_iff : (∃ n, report = .failed (target t) n (noTarget t.kind)) ↔ target t = ""
  /-- The reference is said to be circular exactly if its domain was fetched. -/
  circular_iff : (∃ n, report = .failed (target t) n (circular (target t))) ↔
    target t ≠ "" ∧ target t ∈ fetched
  /-- The reference is said to be over the limit exactly if it is and its domain is new. -/
  overLimit_iff : (∃ n, report = .failed (target t) n (overLimit (target t))) ↔
    target t ≠ "" ∧ target t ∉ fetched ∧ maxLookups ≤ count
  /-- In all other cases the domain is fetched, and the report is on the answer. -/
  fetched_iff : (∃ answer n children later,
      report = .node (findingFor (target t) answer n) children ∧
      rest = .charge :: .mark (target t) :: .ask (target t) answer :: later) ↔
    target t ≠ "" ∧ target t ∉ fetched ∧ count < maxLookups

section Shapes

variable {t : Term} {report : Report}

/-- A report that shows another fate has none of the forms of this one. -/
lemma not_exists_of_fate {f : Fate} {form : UInt32 → Report} (hform : ∀ n, fate t (form n) = f)
    (h : fate t report ≠ f) : ¬ ∃ n, report = form n := by
  rintro ⟨n, rfl⟩
  exact h (hform n)

lemma not_fetched_of_fate {rest : List Step} (h : fate t report ≠ .fetched) :
    ¬ ∃ answer n children later, report = .node (findingFor (target t) answer n) children ∧
      rest = .charge :: .mark (target t) :: .ask (target t) answer :: later := by
  rintro ⟨answer, n, children, later, rfl, -⟩
  exact h (fate_fetched t (target t) n answer children)

end Shapes

/-- What is done at a reference is explained by its domain, those that were fetched before and the
count. -/
lemma Happens.explained {t : Term} {report : Report} {fetched : List String}
    (h : Happens ctx (.reference t report) steps)
    (hfetched : ∀ x, x ∈ ctx.visited ↔ x ∈ fetched) (later : List Step) :
    Explained fetched ctx.count t report (steps ++ later) := by
  -- each refusal has a message of its own, so the report has one of the four forms only
  have hmissing : fate t report ≠ .missing →
      ¬ ∃ n, report = .failed (target t) n (noTarget t.kind) := not_exists_of_fate (fate_missing t _)
  have hcircular : fate t report ≠ .circular →
      ¬ ∃ n, report = .failed (target t) n (Lookup.circular (target t)) :=
    not_exists_of_fate (fate_circular t _)
  have hoverLimit : fate t report ≠ .overLimit →
      ¬ ∃ n, report = .failed (target t) n (Lookup.overLimit (target t)) :=
    not_exists_of_fate (fate_overLimit t _)
  cases h with
  | missing hempty =>
      exact
        { missing_iff := iff_of_true ⟨_, rfl⟩ hempty
          circular_iff := iff_of_false (hcircular (by simp)) fun h => h.1 hempty
          overLimit_iff := iff_of_false (hoverLimit (by simp)) fun h => h.1 hempty
          fetched_iff := iff_of_false (not_fetched_of_fate (by simp)) fun h => h.1 hempty }
  | circular hne hmem =>
      rw [hfetched] at hmem
      exact
        { missing_iff := iff_of_false (hmissing (by simp)) hne
          circular_iff := iff_of_true ⟨_, rfl⟩ ⟨hne, hmem⟩
          overLimit_iff := iff_of_false (hoverLimit (by simp)) fun h => h.2.1 hmem
          fetched_iff := iff_of_false (not_fetched_of_fate (by simp)) fun h => h.2.1 hmem }
  | overLimit hne hmem hlimit =>
      rw [hfetched] at hmem
      have hcount : maxLookups ≤ ctx.count := Context.maxLookups_le_of_not_isWithinLimit hlimit
      exact
        { missing_iff := iff_of_false (hmissing (by simp)) hne
          circular_iff := iff_of_false (hcircular (by simp)) fun h => hmem h.2
          overLimit_iff := iff_of_true ⟨_, rfl⟩ ⟨hne, hmem, hcount⟩
          fetched_iff := iff_of_false (not_fetched_of_fate (by simp)) fun h => by omega }
  | fetched hne hmem hlimit =>
      rw [hfetched] at hmem
      have hcount : ctx.count < maxLookups := (Context.count_charge_of_isWithinLimit hlimit).2
      exact
        { missing_iff := iff_of_false (hmissing (by simp)) hne
          circular_iff := iff_of_false (hcircular (by simp)) fun h => hmem h.2
          overLimit_iff := iff_of_false (hoverLimit (by simp)) fun h => by omega
          fetched_iff := iff_of_true ⟨_, _, _, later, rfl, rfl⟩ ⟨hne, hmem, hcount⟩ }

/-! ### At any moment -/

/-- Whatever has been done, the visited domains are those from before and the fetched ones, unless
a domain was noted and is to be fetched next. -/
lemma Paid.mem_visited_of_append (h : Paid ctx (steps ++ steps'))
    (hask : ∀ domain answer later, steps' ≠ .ask domain answer :: later) {x : String} :
    x ∈ (after ctx steps).visited ↔ x ∈ ctx.visited ∨ x ∈ asked steps := by
  generalize hall : steps ++ steps' = all at h
  induction h generalizing steps with
  | nil ctx =>
      obtain ⟨rfl, -⟩ := List.append_eq_nil_iff.1 hall
      simp
  | @charge ctx all _ ih =>
      rcases steps with _ | ⟨step, steps⟩
      · simp
      · simp only [List.cons_append, List.cons.injEq] at hall
        obtain ⟨rfl, hall⟩ := hall
        rw [after_charge, ih hall, Context.visited_charge, asked_charge]
  | @fetch ctx all t answer _ _ _ _ ih =>
      -- the charge, the note and the fetch are three steps, and the cut may be between them
      rcases steps with _ | ⟨s₁, _ | ⟨s₂, _ | ⟨s₃, steps⟩⟩⟩
      · simp
      · simp only [List.cons_append, List.nil_append, List.cons.injEq] at hall
        obtain ⟨rfl, -⟩ := hall
        simp
      · -- the domain is noted and not fetched yet
        simp only [List.cons_append, List.nil_append, List.cons.injEq] at hall
        exact absurd hall.2.2 (hask _ _ _)
      · simp only [List.cons_append, List.cons.injEq] at hall
        obtain ⟨rfl, rfl, rfl, hall⟩ := hall
        rw [after_charge, after_mark, after_ask, ih hall, Context.mem_visited_mark,
          Context.visited_charge, asked_charge, asked_mark, asked_ask, List.mem_cons, or_assoc,
          or_left_comm]

/-! ### Validations -/

lemma itinerary_eq (report : Report) : itinerary report = itineraryOfEntries report.entries := by
  cases report with
  | node finding entries => rw [itinerary, Report.entries_node]

/-- At the start of a validation its domain is visited. -/
lemma mem_visited_start {name x : String} :
    x ∈ (Context.empty.mark name).visited ↔ x = name := by
  rw [Context.mem_visited_mark]
  simp [Context.empty]

/-- At the start of a validation nothing is charged. -/
lemma count_start (name : String) :
    (Context.empty.mark name).count = min (maxLookups + 1) 0 := by
  rw [Context.count_mark, Nat.min_zero]
  rfl

/-- What is said about the references of a validation.

The validation does some `steps`, and the stops of its report show all its references in the order
of the source.  At a reference the domains that were fetched are the first one and those that the
report shows to be fetched before; they are the visited ones, and the count is the number of
lookups that the report shows to be charged before, as far as the counter goes.  The report on the
reference is what these call for.  At any other moment, too, the visited domains are the fetched
ones, except between the note of a domain and its fetch. -/
theorem references_explained {domain : String} {events : List (String × TxtAnswer)}
    {report : Report} (h : Run (validate domain) events report) :
    let start := Context.empty.mark (Domain.normalize domain)
    ∃ steps r ctx, Fetch (Domain.normalize domain) start steps r ctx ∧
      questions steps = events ∧ report = verdict r ctx ∧
      (itinerary report).filterMap Stop.reference? = references report ∧
      (∀ before t child later, itinerary report = before ++ .reference t child :: later →
        ∃ earlier rest, steps = earlier ++ rest ∧
          let fetched := Domain.normalize domain :: fetchedAt before
          let count := min (maxLookups + 1) (chargedAt before)
          asked earlier = fetched ∧
          (∀ x, x ∈ (after start earlier).visited ↔ x ∈ fetched) ∧
          (after start earlier).count = count ∧ Explained fetched count t child rest) ∧
      (∀ earlier rest, steps = earlier ++ rest →
        (∀ name answer later, rest ≠ .ask name answer :: later) →
        ∀ x, x ∈ (after start earlier).visited ↔ x ∈ asked earlier) := by
  intro start
  obtain ⟨steps, r, ctx, hfetch, hquestions, rfl⟩ := run_validate_iff.1 h
  refine ⟨steps, r, ctx, hfetch, hquestions, rfl, references_eq _, ?_, ?_⟩
  · intro before t child later hstops
    cases hfetch with
    | @intro answer inner entries _ terms =>
        rw [itinerary_eq, entries_verdict, Report.entries_node] at hstops
        have hreplay := terms.replay
        rw [hstops] at hreplay
        obtain ⟨earlier, rest, rfl, hbefore, hhere⟩ := hreplay.exists_of_append
        have hasked := hbefore.asked_eq
        have hvisited : ∀ x, x ∈ (after start earlier).visited ↔
            x ∈ Domain.normalize domain :: fetchedAt before := fun x => by
          rw [hbefore.paid.mem_visited_after_iff, mem_visited_start, hasked, List.mem_cons]
        have hcount : (after start earlier).count =
            min (maxLookups + 1) (chargedAt before) := by
          rw [hbefore.count_after (count_start _), Nat.zero_add]
        refine ⟨.ask _ answer :: earlier, rest, rfl, ?_, hvisited, hcount, ?_⟩
        · rw [asked_ask, hasked]
        · rw [← hcount]
          cases hhere with
          | cons here _ => exact here.explained hvisited _
  · intro earlier rest hsteps hask x
    cases hfetch with
    | @intro answer inner entries _ terms =>
        rcases earlier with _ | ⟨step, earlier⟩
        · exact absurd hsteps.symm (hask _ _ _)
        · simp only [List.cons_append, List.cons.injEq] at hsteps
          obtain ⟨rfl, rfl⟩ := hsteps
          rw [after_ask, terms.paid.mem_visited_of_append hask, mem_visited_start, asked_ask,
            List.mem_cons]

/-- Of two domains that refer to each other, the second one has a circular reference, and the first
one was fetched before. -/
theorem references_explained_of_ring :
    ∃ before t child later n,
      itinerary ((validate "B").run ring) = before ++ .reference t child :: later ∧
      fetchedAt before = ["c"] ∧ child = .failed "b" n (circular "b") := by
  obtain ⟨_, _, _, _, _, _, -, hreferences, -⟩ :=
    references_explained (Inquiry.run_of_fixed ring (validate "B"))
  -- the stops are the reference of the first domain, a charge, and that of the second domain
  have hfetched : fetchedAt ((itinerary ((validate "B").run ring)).take 2) = ["c"] := by
    decide +kernel
  have hlast : (((itinerary ((validate "B").run ring))[2]?.bind Stop.reference?).map
      fun p => target p.1) = some "b" := by
    decide +kernel
  obtain ⟨⟨t, child⟩, hp, htarget⟩ := Option.map_eq_some_iff.1 hlast
  obtain ⟨stop, hstop, hreference⟩ := Option.bind_eq_some_iff.1 hp
  cases stop with
  | charge => cases hreference
  | reference t' child' =>
      cases hreference
      obtain ⟨hlt, hget⟩ := List.getElem?_eq_some_iff.1 hstop
      have hsplit := (List.take_append_drop 2 (itinerary ((validate "B").run ring))).symm
      rw [List.drop_eq_getElem_cons hlt, hget] at hsplit
      obtain ⟨_, _, _, _, _, _, hexplained⟩ := hreferences _ _ _ _ hsplit
      rw [hfetched] at hexplained
      have htarget' : target t = "b" := htarget
      have hname : Domain.normalize "B" = "b" := by decide +kernel
      obtain ⟨n, hn⟩ := hexplained.circular_iff.2 (by simp [htarget', hname])
      rw [htarget'] at hn
      exact ⟨_, _, _, _, n, hsplit, hfetched, hn⟩

end Lookup

end SenderPolicy
