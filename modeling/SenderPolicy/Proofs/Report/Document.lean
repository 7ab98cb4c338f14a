/-
Reports as documents, and back.

A report is canonical if the kinds of its terms are, in all its nodes (`Report.IsCanonical`).  The
document of a canonical report is decoded as that report, and every report that is decoded from any
document is canonical and can be written down no deeper than it was read
(`Report.reverses_decode`).  The same holds of envelopes (`Envelope.reverses_decode`).  Issues,
entries and reports are decoded one inside the other, so each is shown to be reversed from what it
holds.  The reports that are nested in a report are decoded in the step above, hence the induction
is on the number of levels of reports.

A report takes three brackets a level: its own, those of its list of entries, and those of the
entry (`Report.nesting_toJson_le`).
-/
import Mathlib
import SenderPolicy.Envelope
import SenderPolicy.Proofs.Json.Decoder

namespace SenderPolicy

open Json (Reverses)

/-! ### Names -/

namespace Kind

/-- The kind of any name is canonical. -/
lemma isCanonical_ofName (name : String) : (ofName name).IsCanonical := by
  have hlower : name.toLower.toLower = name.toLower := by
    simp only [String.toLower, String.map_map, Function.comp_def, Char.toLower_toLower_eq_toLower]
  rw [IsCanonical, ofName, ofName, name_ofLowerName, hlower]

lemma decode_string {k : Kind} (h : k.IsCanonical) (depth : Nat) :
    decode depth (.string k.name) = .ok k := congrArg Except.ok h

lemma isCanonical_of_decode {k : Kind} {depth : Nat} {j : Json} (h : decode depth j = .ok k) :
    k.IsCanonical := by
  obtain ⟨name, -, rfl⟩ := map_eq_ok_iff.1 h
  exact isCanonical_ofName name

end Kind

lemma Severity.ofName?_name (s : Severity) : ofName? s.name = some s := by
  cases s <;> rfl

lemma Qualifier.ofName?_singleton (q : Qualifier) :
    ofName? (String.singleton q.toChar) = some q := by
  cases q <;> decide +kernel

/-! ### Issues -/

namespace Issue

open Json

@[simp] lemma nesting_toJson (i : Issue) : i.toJson.nesting = 1 := rfl

@[simp] lemma isComplete_toJson (i : Issue) : i.toJson.IsComplete := by
  simp [toJson, Member.named, Json.IsComplete, AreCompleteMembers, IsCompleteMember]

lemma reverses_decode (limit : Nat) : Reverses decode toJson (fun _ => True) limit where
  decode_enc {depth i} _ _ hnesting := by
    obtain ⟨n, rfl⟩ : ∃ n, depth = n + 1 := ⟨depth - 1, by rw [nesting_toJson] at hnesting; omega⟩
    simp [decode, toJson, Shape.decode, Shape.putMembers, Member.named, shape,
      decodeName_string (Severity.ofName?_name i.severity)]
  of_decode {depth j i} h := ⟨trivial, Shape.pos_of_decode h⟩

end Issue

/-! ### Canonical reports -/

/-- A report is canonical if the kinds of the terms of all its nodes are. -/
def Report.IsCanonical (r : Report) : Prop :=
  ∀ n ∈ r.nodes, ∀ e ∈ n.entries, e.term.kind.IsCanonical

instance (r : Report) : Decidable r.IsCanonical :=
  inferInstanceAs (Decidable (∀ n ∈ r.nodes, ∀ e ∈ n.entries, e.term.kind.IsCanonical))

/-- An entry is canonical if the kind of its term and the report that it carries are. -/
def Entry.IsCanonical (e : Entry) : Prop :=
  e.term.kind.IsCanonical ∧ ∀ r ∈ e.report?, r.IsCanonical

namespace Report

lemma mem_nodesOfEntries_iff {n : Report} {es : List Entry} :
    n ∈ nodesOfEntries es ↔ ∃ e ∈ es, ∃ r ∈ e.report?, n ∈ r.nodes := by
  induction es with
  | nil => simp [nodesOfEntries]
  | cons e es ih =>
      rw [nodesOfEntries, List.mem_append, ih]
      cases e <;> simp [nodesOfEntry, Entry.report?]

lemma isCanonical_node_iff {f : Finding} {es : List Entry} :
    (node f es).IsCanonical ↔ ∀ e ∈ es, e.IsCanonical := by
  simp only [IsCanonical, nodes, List.forall_mem_cons, entries_node, mem_nodesOfEntries_iff]
  constructor
  · rintro ⟨hroot, hbelow⟩ e he
    exact ⟨hroot e he, fun r hr n hn => hbelow n ⟨e, he, r, hr, hn⟩⟩
  · intro h
    refine ⟨fun e he => (h e he).1, ?_⟩
    rintro n ⟨e, he, r, hr, hn⟩
    exact (h e he).2 r hr n hn

/-! ### The documents of reports -/

lemma entriesToJson_eq (es : List Entry) : entriesToJson es = es.map entryToJson := by
  induction es with
  | nil => rfl
  | cons e es ih => rw [entriesToJson, ih, List.map_cons]

lemma nesting_toJson_node (f : Finding) (es : List Entry) :
    (node f es).toJson.nesting =
      max (Json.array (es.map entryToJson)).nesting
        (Json.array (f.issues.map Issue.toJson)).nesting + 1 := by
  simp [toJson, Member.named, Json.nesting, Json.nestingOfMembers, Json.nestingOfMember,
    entriesToJson_eq]

lemma nesting_entryToJson (e : Entry) :
    (entryToJson e).nesting = (e.report?.map fun r => r.toJson.nesting).getD 0 + 1 := by
  cases e <;>
    simp [entryToJson, Term.toJson, Term.members, Member.named, Entry.report?, Json.nesting,
      Json.nestingOfMembers, Json.nestingOfMember]

lemma nesting_getD_le {o : Option Report} {n : Nat} (h : ∀ r ∈ o, r.toJson.nesting ≤ n) :
    (o.map fun r => r.toJson.nesting).getD 0 ≤ n := by
  cases o with
  | none => exact Nat.zero_le n
  | some r => exact h r rfl

/-- An optional report that is there is decoded as one. -/
lemma decodeOption_toJson {d : Json.Decoder Report} {depth : Nat} {r : Report}
    (h : d depth r.toJson = .ok r) : Json.decodeOption d depth r.toJson = .ok (some r) := by
  have hne : r.toJson ≠ .null := by
    cases r
    nofun
  rw [Json.decodeOption_of_ne_null hne, h]
  rfl

end Report

/-! ### Levels of reports -/

namespace Report

mutual

/-- How many reports stand one inside the other. -/
def height : Report → Nat
  | node _ es => heightOfEntries es + 1

/-- How many reports stand one inside the other below some entries. -/
def heightOfEntries : List Entry → Nat
  | [] => 0
  | e :: es => max (heightOfEntry e) (heightOfEntries es)

/-- How many reports stand one inside the other below an entry. -/
def heightOfEntry : Entry → Nat
  | .plain _ => 0
  | .expanded _ r => height r

end

mutual

/-- A report takes three brackets a level. -/
lemma nesting_toJson_le : ∀ r : Report, r.toJson.nesting ≤ 3 * r.height
  | node f es => by
      have hentries := nesting_entries_le es
      have hissues : (Json.array (f.issues.map Issue.toJson)).nesting ≤ 2 := by
        refine Json.nesting_array_le_iff.2 ⟨1, rfl, ?_⟩
        simp
      rw [nesting_toJson_node, height, Json.nesting]
      omega

lemma nesting_entries_le : ∀ es : List Entry,
    Json.nestingOfItems (es.map entryToJson) ≤ 3 * heightOfEntries es + 1
  | [] => Nat.zero_le _
  | e :: es => by
      have he := nesting_entry_le e
      have hes := nesting_entries_le es
      rw [List.map_cons, Json.nestingOfItems, heightOfEntries]
      omega

lemma nesting_entry_le : ∀ e : Entry, (entryToJson e).nesting ≤ 3 * heightOfEntry e + 1
  | .plain t => by
      rw [nesting_entryToJson]
      exact Nat.le_refl 1
  | .expanded t r => by
      have hr := nesting_toJson_le r
      rw [nesting_entryToJson]
      exact Nat.succ_le_succ hr

end

end Report

/-! ### Complete documents -/

namespace Report

open Json

mutual

lemma isComplete_toJson : ∀ r : Report, r.toJson.IsComplete
  | node f es => by
      have hcount : f.lookupCount.toNat < UInt64.size :=
        Nat.lt_trans f.lookupCount.toNat_lt (by decide)
      have hissues : AreComplete (f.issues.map Issue.toJson) := by
        rw [areComplete_iff, List.forall_mem_map]
        exact fun i _ => i.isComplete_toJson
      simp [toJson, Member.named, Json.IsComplete, AreCompleteMembers, IsCompleteMember, hcount,
        hissues, areComplete_entriesToJson es, f.queryTimeMs.toNat_lt]

lemma areComplete_entriesToJson : ∀ es : List Entry, AreComplete (entriesToJson es)
  | [] => trivial
  | e :: es => ⟨isComplete_entryToJson e, areComplete_entriesToJson es⟩

lemma isComplete_entryToJson : ∀ e : Entry, (entryToJson e).IsComplete
  | .plain t => by
      simp [entryToJson, Term.toJson, Term.members, Member.named, Json.IsComplete,
        AreCompleteMembers, IsCompleteMember]
  | .expanded t r => by
      simp [entryToJson, Term.members, Member.named, Json.IsComplete, AreCompleteMembers,
        IsCompleteMember, isComplete_toJson r]

end

end Report

lemma Envelope.isComplete_toJson (e : Envelope) : e.toJson.IsComplete := by
  obtain ⟨success, result, error⟩ := e
  cases result <;> cases error <;>
    simp [toJson, Member.named, Json.IsComplete, Json.AreCompleteMembers, Json.IsCompleteMember,
      Report.isComplete_toJson]

/-! ### The times in a report -/

namespace Report

variable {g : Finding → Finding}

mutual

/-- What is found out about the domains does not matter to the terms. -/
lemma isCanonical_map : ∀ r : Report, (r.map g).IsCanonical ↔ r.IsCanonical
  | node f es => by
      rw [map, isCanonical_node_iff, isCanonical_node_iff, forall_mem_mapEntries es]

lemma forall_mem_mapEntries : ∀ es : List Entry,
    (∀ e ∈ mapEntries g es, e.IsCanonical) ↔ ∀ e ∈ es, e.IsCanonical
  | [] => Iff.rfl
  | e :: es => by
      rw [mapEntries, List.forall_mem_cons, List.forall_mem_cons, isCanonical_mapEntry e,
        forall_mem_mapEntries es]

lemma isCanonical_mapEntry : ∀ e : Entry, (mapEntry g e).IsCanonical ↔ e.IsCanonical
  | .plain t => Iff.rfl
  | .expanded t r => by
      simp [mapEntry, Entry.IsCanonical, Entry.term, Entry.report?, isCanonical_map r]

end

mutual

lemma height_map : ∀ r : Report, (r.map g).height = r.height
  | node f es => by rw [map, height, height, heightOfEntries_mapEntries es]

lemma heightOfEntries_mapEntries : ∀ es : List Entry,
    heightOfEntries (mapEntries g es) = heightOfEntries es
  | [] => rfl
  | e :: es => by
      rw [mapEntries, heightOfEntries, heightOfEntries, heightOfEntry_mapEntry e,
        heightOfEntries_mapEntries es]

lemma heightOfEntry_mapEntry : ∀ e : Entry, heightOfEntry (mapEntry g e) = heightOfEntry e
  | .plain _ => rfl
  | .expanded _ r => height_map r

end

end Report

/-! ### Entries -/

namespace Entry

open Json

variable {d : Decoder Report} {limit : Nat}

/-- What holds of the fields of an entry that were met when brackets may still be nested to the
given depth. -/
structure Draft.Fits (depth : Nat) (draft : Draft) : Prop where
  kind : ∀ k ∈ draft.kind, k.IsCanonical
  report : ∀ o ∈ draft.report, ∀ r ∈ o, r.IsCanonical ∧ r.toJson.nesting ≤ depth

lemma keeps_shape (hd : Reverses d Report.toJson Report.IsCanonical limit) (depth : Nat) :
    (shape d depth).Keeps (Draft.Fits depth) where
  start := ⟨nofun, nofun⟩
  put {draft name value draft'} h hput := by
    simp only [shape] at hput
    split at hput
    · obtain ⟨k, hk, rfl⟩ := exists_of_fill hput
      refine { h with kind := ?_ }
      rintro _ ⟨⟩
      exact Kind.isCanonical_of_decode hk
    · obtain ⟨_, -, rfl⟩ := exists_of_fill hput
      exact { h with }
    · obtain ⟨_, -, rfl⟩ := exists_of_fill hput
      exact { h with }
    · obtain ⟨o, ho, rfl⟩ := exists_of_fill hput
      refine { h with report := ?_ }
      rintro _ ⟨⟩ r hr
      exact hd.of_decode (of_decodeOption ho r hr)
    · obtain rfl := Except.ok.inj hput
      exact h

/-- Entries are decoded if the reports that they carry are. -/
lemma reverses_decode_shape (hd : Reverses d Report.toJson Report.IsCanonical limit) :
    Reverses (Shape.decode (shape d) Draft.finish) Report.entryToJson IsCanonical (limit + 1) where
  decode_enc {depth e} hdepth hgood hnesting := by
    obtain ⟨n, rfl⟩ : ∃ n, depth = n + 1 :=
      ⟨depth - 1, by rw [Report.nesting_entryToJson] at hnesting; omega⟩
    have hkind := Kind.decode_string hgood.1 n
    have hqualifier : decodeName Qualifier.ofName? n
        (.string (String.singleton e.term.qualifier.toChar)) = .ok e.term.qualifier :=
      decodeName_string (Qualifier.ofName?_singleton e.term.qualifier)
    -- the rest is evaluated field by field; only one of the two forms has a report
    cases e with
    | plain t =>
        simp only [term] at hkind hqualifier
        simp [Report.entryToJson, Term.toJson, Term.members, Member.named, Shape.decode,
          Shape.putMembers, shape, hkind, hqualifier, Draft.finish, Entry.of]
    | expanded t r =>
        have hreport : decodeOption d n r.toJson = .ok (some r) := by
          refine Report.decodeOption_toJson (hd.decode_enc (by omega) (hgood.2 r rfl) ?_)
          simpa [Report.nesting_entryToJson, report?] using hnesting
        simp only [term] at hkind hqualifier
        simp [Report.entryToJson, Term.members, Member.named, Shape.decode, Shape.putMembers, shape,
          hkind, hqualifier, hreport, Draft.finish, Entry.of]
  of_decode {depth j e} hj := by
    obtain ⟨n, draft, rfl, hfits, hfinish⟩ := Shape.exists_of_decode (keeps_shape hd) hj
    obtain ⟨k, hk, hfinish⟩ := bind_eq_ok_iff.1 hfinish
    obtain ⟨q, -, hfinish⟩ := bind_eq_ok_iff.1 hfinish
    obtain ⟨v, -, hfinish⟩ := bind_eq_ok_iff.1 hfinish
    obtain rfl := Except.ok.inj hfinish
    have hreport := forall_mem_getD hfits.report
    refine ⟨⟨?_, ?_⟩, ?_⟩
    · rw [term_of]
      exact hfits.kind k (required_eq_ok_iff.1 hk)
    · rw [report?_of]
      exact fun r hr => (hreport r hr).1
    · rw [Report.nesting_entryToJson, report?_of]
      exact Nat.succ_le_succ (Report.nesting_getD_le fun r hr => (hreport r hr).2)

end Entry

/-! ### Reports -/

namespace Report

open Json

variable {d : Decoder (List Entry)} {limit : Nat}

/-- What holds of the fields of a report that were met when brackets may still be nested to the
given depth. -/
structure Draft.Fits (depth : Nat) (draft : Draft) : Prop where
  entries : ∀ es ∈ draft.entries,
    (∀ e ∈ es, e.IsCanonical) ∧ (Json.array (es.map entryToJson)).nesting ≤ depth
  issues : ∀ is ∈ draft.issues, (Json.array (is.map Issue.toJson)).nesting ≤ depth

lemma keeps_shape (hd : Reverses d (fun es => .array (es.map entryToJson))
      (fun es => ∀ e ∈ es, e.IsCanonical) limit) (depth : Nat) :
    (shape d depth).Keeps (Draft.Fits depth) where
  start := ⟨nofun, nofun⟩
  put {draft name value draft'} h hput := by
    simp only [shape] at hput
    split at hput
    case h_4 =>
      obtain ⟨es, hes, rfl⟩ := exists_of_fill hput
      refine { h with entries := ?_ }
      rintro _ ⟨⟩
      exact hd.of_decode hes
    case h_6 =>
      obtain ⟨is, his, rfl⟩ := exists_of_fill hput
      refine { h with issues := ?_ }
      rintro _ ⟨⟩
      exact ((Issue.reverses_decode depth).list.of_decode his).2
    case h_8 =>
      obtain rfl := Except.ok.inj hput
      exact h
    -- the other fields are of no concern
    all_goals
      obtain ⟨_, -, rfl⟩ := exists_of_fill hput
      exact { h with }

/-- Reports are decoded if the lists of their entries are. -/
lemma reverses_decode_shape (hd : Reverses d (fun es => .array (es.map entryToJson))
      (fun es => ∀ e ∈ es, e.IsCanonical) limit) :
    Reverses (Shape.decode (shape d) Draft.finish) toJson IsCanonical (limit + 1) where
  decode_enc {depth r} hdepth hgood hnesting := by
    obtain ⟨f, es⟩ := r
    rw [isCanonical_node_iff] at hgood
    rw [nesting_toJson_node] at hnesting
    obtain ⟨n, rfl⟩ : ∃ n, depth = n + 1 := ⟨depth - 1, by omega⟩
    have hentries : d n (.array (es.map entryToJson)) = .ok es :=
      hd.decode_enc (by omega) hgood (by omega)
    have hissues : decodeList Issue.decode n (.array (f.issues.map Issue.toJson)) = .ok f.issues :=
      (Issue.reverses_decode n).list.decode_enc (by omega) (fun _ _ => trivial) (by omega)
    have hcount : decodeNatural UInt32.size n (.natural f.lookupCount.toNat) =
        .ok f.lookupCount.toNat := if_pos f.lookupCount.toNat_lt
    have htime : decodeNatural UInt64.size n (.natural f.queryTimeMs.toNat) =
        .ok f.queryTimeMs.toNat := if_pos f.queryTimeMs.toNat_lt
    simp [toJson, Member.named, entriesToJson_eq, Shape.decode, Shape.putMembers, shape, hentries,
      hissues, hcount, htime, Draft.finish]
  of_decode {depth j r} hj := by
    obtain ⟨n, draft, rfl, hfits, hfinish⟩ := Shape.exists_of_decode (keeps_shape hd) hj
    obtain ⟨_, -, hfinish⟩ := bind_eq_ok_iff.1 hfinish
    obtain ⟨_, -, hfinish⟩ := bind_eq_ok_iff.1 hfinish
    obtain ⟨is, his, hfinish⟩ := bind_eq_ok_iff.1 hfinish
    obtain ⟨_, -, hfinish⟩ := bind_eq_ok_iff.1 hfinish
    obtain ⟨es, hes, hfinish⟩ := bind_eq_ok_iff.1 hfinish
    obtain rfl := Except.ok.inj hfinish
    obtain ⟨hgood, hentries⟩ := hfits.entries es (required_eq_ok_iff.1 hes)
    have hissues := hfits.issues is (required_eq_ok_iff.1 his)
    refine ⟨isCanonical_node_iff.2 hgood, ?_⟩
    rw [nesting_toJson_node]
    exact Nat.succ_le_succ (Nat.max_le.2 ⟨hentries, hissues⟩)

/-- Reports in which reports are nested less than the given number of times, each in three
brackets. -/
lemma reverses_decodeWithin (levels : Nat) :
    Reverses (decodeWithin levels) toJson IsCanonical (3 * levels) := by
  -- a level adds the brackets of an entry, of the list of entries and of the report
  induction levels with
  | zero => exact ⟨fun h => absurd h (Nat.not_lt_zero _), nofun⟩
  | succ levels ih => exact reverses_decode_shape (Entry.reverses_decode_shape ih).list

/-- Reports are decoded from their documents. -/
lemma reverses_decode (limit : Nat) : Reverses decode toJson IsCanonical limit where
  decode_enc {depth r} _ hgood hnesting :=
    (reverses_decodeWithin (depth + 1)).decode_enc (by omega) hgood hnesting
  of_decode {depth j r} hj := (reverses_decodeWithin (depth + 1)).of_decode hj

end Report

/-! ### Envelopes -/

namespace Envelope

open Json

/-- An envelope is canonical if the report in it is. -/
def IsCanonical (e : Envelope) : Prop := ∀ r ∈ e.result, r.IsCanonical

/-- What holds of the fields of an envelope that were met when brackets may still be nested to the
given depth. -/
def Draft.Fits (depth : Nat) (draft : Draft) : Prop :=
  ∀ o ∈ draft.result, ∀ r ∈ o, r.IsCanonical ∧ r.toJson.nesting ≤ depth

lemma keeps_shape (depth : Nat) : (shape depth).Keeps (Draft.Fits depth) where
  start := nofun
  put {draft name value draft'} h hput := by
    simp only [shape] at hput
    split at hput
    · obtain ⟨_, -, rfl⟩ := exists_of_fill hput
      exact h
    · obtain ⟨o, ho, rfl⟩ := exists_of_fill hput
      rintro _ ⟨⟩ r hr
      exact (Report.reverses_decode depth).of_decode (of_decodeOption ho r hr)
    · obtain ⟨_, -, rfl⟩ := exists_of_fill hput
      exact h
    · obtain rfl := Except.ok.inj hput
      exact h

lemma nesting_toJson (e : Envelope) :
    e.toJson.nesting = (e.result.map fun r => r.toJson.nesting).getD 0 + 1 := by
  obtain ⟨success, result, error⟩ := e
  cases result <;> cases error <;>
    simp [toJson, Member.named, Json.nesting, nestingOfMembers, nestingOfMember]

/-- Envelopes are decoded from their documents. -/
lemma reverses_decode (limit : Nat) : Reverses decode toJson IsCanonical limit where
  decode_enc {depth e} _ hgood hnesting := by
    obtain ⟨success, result, error⟩ := e
    rw [nesting_toJson] at hnesting
    obtain ⟨n, rfl⟩ : ∃ n, depth = n + 1 := ⟨depth - 1, by omega⟩
    have herror : ∀ m : String, decodeOption decodeString n (.string m) = .ok (some m) :=
      fun m => decodeOption_ofText? (some m)
    have hresult : ∀ r ∈ result, decodeOption Report.decode n r.toJson = .ok (some r) := by
      rintro r rfl
      refine Report.decodeOption_toJson ((Report.reverses_decode (n + 1)).decode_enc
        (Nat.lt_succ_self n) (hgood r rfl) ?_)
      simpa using hnesting
    cases result <;> cases error <;>
      simp [decode, toJson, Shape.decode, Shape.putMembers, Member.named, shape, decodeBool, herror,
        hresult]
  of_decode {depth j e} hj := by
    obtain ⟨n, draft, rfl, hfits, hfinish⟩ := Shape.exists_of_decode keeps_shape hj
    obtain ⟨_, -, hfinish⟩ := bind_eq_ok_iff.1 hfinish
    obtain rfl := Except.ok.inj hfinish
    have hreport := forall_mem_getD hfits
    refine ⟨fun r hr => (hreport r hr).1, ?_⟩
    rw [nesting_toJson]
    exact Nat.succ_le_succ (Report.nesting_getD_le fun r hr => (hreport r hr).2)

end Envelope

end SenderPolicy
