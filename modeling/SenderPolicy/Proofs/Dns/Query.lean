/-
The query for the TXT records of a domain.

The dots of a domain name part its components, and of these the empty ones are left out of a query.
So a query can be written if no component is too long for a label, and then it asks for the
components that are not empty, in order, and for nothing else (`Dns.Message.query`).

What is written is read back, so the octets of a query determine the labels that it asks for.
-/
import SenderPolicy.Proofs.Dns.Sizes
import SenderPolicy.Proofs.Dns.Texts
import SenderPolicy.Proofs.Text.Split

namespace SenderPolicy

namespace Dns

open Text

variable {id : UInt16} {domain domain' : String} {octets octets' : List UInt8}

/-! ### Labels of a query -/

/-- The labels with which the TXT records of a domain are asked for. -/
def queriedLabels (domain : String) : List String :=
  (Question.ofDomain domain .txt).labels.filter (· ≠ "")

/-- The labels are the components that are not empty: behind the dots at the end there are none. -/
lemma queriedLabels_eq (domain : String) :
    queriedLabels domain = (Name.components domain).filter (· ≠ "") := by
  rw [queriedLabels, Question.ofDomain, Name.labels, Name.components, fields]
  generalize domain.toList = s
  induction s using List.reverseRecOn with
  | nil => rfl
  | append_singleton s c ih =>
      cases hc : c == '.' with
      | false =>
          have hkeep : dropEndWhile (· == '.') (s ++ [c]) = s ++ [c] :=
            List.rdropWhile_concat_neg (· == '.') s c (Bool.eq_false_iff.1 hc)
          rw [hkeep]
      | true =>
          have hdrop : dropEndWhile (· == '.') (s ++ [c]) = dropEndWhile (· == '.') s :=
            List.rdropWhile_concat_pos (· == '.') s c hc
          have hsplit : split (· == '.') (s ++ [c]) = split (· == '.') s ++ [[]] := by
            rw [split_eq_splitOnP, split_eq_splitOnP]
            exact List.splitOnP_append_cons s [] hc
          rw [hdrop, ih, hsplit, List.map_append, List.filter_append]
          exact (List.append_nil _).symm

example : queriedLabels ".example..com." = ["example", "com"] := by decide +kernel

/-- Domains with the same labels are asked for with the same octets. -/
lemma write_ofDomain_eq (h : queriedLabels domain = queriedLabels domain') :
    (Question.ofDomain domain .txt).write = (Question.ofDomain domain' .txt).write := by
  have hname : Name.write (Name.labels domain) = Name.write (Name.labels domain') := by
    rw [← Name.write_filter_ne_empty, ← Name.write_filter_ne_empty (Name.labels domain')]
    exact congrArg Name.write h
  rw [Question.write, Question.write, Question.ofDomain, Question.ofDomain, hname]

/-! ### Lengths of labels -/

namespace Name

/-- An empty label is never too long. -/
lemma isWritable_filter_iff (labels : List String) :
    IsWritable (labels.filter (· ≠ "")) ↔ IsWritable labels := by
  constructor
  · intro h label hlabel
    by_cases hempty : label = ""
    · rw [hempty]
      decide
    · exact h label (List.mem_filter.2 ⟨hlabel, by simpa using hempty⟩)
  · intro h label hlabel
    exact h label (List.mem_filter.1 hlabel).1

lemma isWritable_labels_iff (domain : String) :
    IsWritable (labels domain) ↔ ∀ c ∈ components domain, c.utf8ByteSize ≤ 63 := by
  have hfilter : (labels domain).filter (· ≠ "") = (components domain).filter (· ≠ "") :=
    queriedLabels_eq domain
  rw [← isWritable_filter_iff, hfilter, isWritable_filter_iff, IsWritable]
  simp only [Utf8.length_encode, maxLabelLength]

end Name

/-! ### Queries -/

namespace Message

/-- The message that asks for the records of a type at a name with the given labels, and wants
recursion. -/
def query (id : UInt16) (labels : List String) : Message where
  header := { id, flags := { recursionDesired := true }, questionCount := 1 }
  questions := [{ labels, recordType := .txt, recordClass := .internet }]

lemma query_injective (id : UInt16) : Function.Injective (query id) := by
  intro labels labels' h
  simpa [query] using h

lemma fits_query {labels : List String} (h : ∀ label ∈ labels, Name.IsLabel label) :
    (query id labels).Fits where
  flags :=
    { opcode_lt := (by decide : (0 : UInt8).toNat < 16)
      reserved_lt := (by decide : (0 : UInt8).toNat < 8)
      responseCode_lt := (by decide : (0 : UInt8).toNat < 16) }
  questions := by
    intro q hq
    obtain rfl := List.mem_singleton.1 hq
    exact ⟨h, (by decide : RecordType.txt.IsCanonical),
      (by decide : RecordClass.internet.IsCanonical)⟩
  answers := List.forall_mem_nil _
  authorities := List.forall_mem_nil _
  additional := List.forall_mem_nil _
  questions_lt := (by decide : 1 < 65536)
  answers_lt := (by decide : 0 < 65536)
  authorities_lt := (by decide : 0 < 65536)
  additional_lt := (by decide : 0 < 65536)

/-- Without its empty labels a query for a domain is the query for the components that are left. -/
lemma plain_txtQuery (id : UInt16) (domain : String) :
    (txtQuery id domain).plain = query id ((Name.components domain).filter (· ≠ "")) := by
  have hflags : Flags.ofWord (Flags.toWord { recursionDesired := true }) =
      { recursionDesired := true } := by decide +kernel
  rw [← queriedLabels_eq, plain, txtQuery, hflags]
  rfl

/-- A query can be written if no component of the domain is too long. -/
lemma exists_write_txtQuery_iff (id : UInt16) (domain : String) :
    (∃ octets, (txtQuery id domain).write = .ok octets) ↔
      ∀ c ∈ Name.components domain, c.utf8ByteSize ≤ 63 := by
  rw [exists_write_iff, isWritable_iff, ← Name.isWritable_labels_iff]
  simp [names, records, txtQuery, Question.ofDomain]

/-- What is written of a query is read as the query for the components that are not empty. -/
lemma read_of_write_txtQuery (h : (txtQuery id domain).write = .ok octets) :
    read octets = .ok (query id ((Name.components domain).filter (· ≠ ""))) := by
  have hcomponents := (exists_write_txtQuery_iff id domain).1 ⟨octets, h⟩
  have hlabels : ∀ label ∈ (Name.components domain).filter (· ≠ ""), Name.IsLabel label := by
    intro label hlabel
    obtain ⟨hcomponent, hne⟩ := List.mem_filter.1 hlabel
    refine ⟨of_decide_eq_true hne, ?_⟩
    rw [Utf8.length_encode]
    exact hcomponents label hcomponent
  have hfits : (txtQuery id domain).plain.Fits := by
    rw [plain_txtQuery]
    exact fits_query hlabels
  obtain ⟨octets', hwrite, hread⟩ := exists_write_and_read_plain hfits
  rw [h] at hwrite
  cases hwrite
  rw [hread, plain_txtQuery]
  rfl

/-- A query asks for the name that is meant.

It can be written exactly if no component of the domain has more than 63 bytes.  What is written is
read as a message with the identifier, no flag but the one that wants recursion, and one question
for the texts of the name that has the components of the domain as its labels, the empty ones left
out.  The same octets are written for another domain exactly if its components are the same apart
from empty ones. -/
theorem read_write_txtQuery (id : UInt16) (domain : String) :
    ((∃ octets, (txtQuery id domain).write = .ok octets) ↔
      ∀ c ∈ Name.components domain, c.utf8ByteSize ≤ 63) ∧
    ∀ octets, (txtQuery id domain).write = .ok octets →
      read octets = .ok (query id ((Name.components domain).filter (· ≠ ""))) ∧
      ∀ domain', (txtQuery id domain').write = .ok octets ↔
        (Name.components domain').filter (· ≠ "") = (Name.components domain).filter (· ≠ "") := by
  refine ⟨exists_write_txtQuery_iff id domain, fun octets h => ⟨read_of_write_txtQuery h,
    fun domain' => ⟨fun h' => ?_, fun hcomponents => ?_⟩⟩⟩
  · -- both queries are what is read from the octets
    have hread := read_of_write_txtQuery h'
    rw [read_of_write_txtQuery h] at hread
    exact (query_injective id (Except.ok.inj hread)).symm
  · rw [← h, ← write_plain, plain_txtQuery, hcomponents, ← plain_txtQuery, write_plain]

/-- The octets of the query for `Ex.é`. -/
def shortQuery : List UInt8 :=
  [0x12, 0x34, 1, 0, 0, 1, 0, 0, 0, 0, 0, 0, 2, 69, 120, 2, 0xC3, 0xA9, 0, 0, 16, 0, 1]

/-- Dots at the ends of a name and two in a row make no difference to its query. -/
theorem read_write_txtQuery_short :
    (txtQuery 0x1234 "Ex.é").write = .ok shortQuery ∧
      read shortQuery = .ok (query 0x1234 ["Ex", "é"]) ∧
      (txtQuery 0x1234 ".Ex..é.").write = .ok shortQuery := by
  have hwrite : (txtQuery 0x1234 "Ex.é").write = .ok shortQuery := by decide +kernel
  obtain ⟨hread, hsame⟩ := (read_write_txtQuery 0x1234 "Ex.é").2 shortQuery hwrite
  have hlabels : (Name.components "Ex.é").filter (· ≠ "") = ["Ex", "é"] := by decide +kernel
  refine ⟨hwrite, ?_, (hsame ".Ex..é.").2 (by decide +kernel)⟩
  rw [hread, hlabels]

end Message

end Dns

end SenderPolicy
