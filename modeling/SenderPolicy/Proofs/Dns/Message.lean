/-
Messages are read back.

A message can be written if every field of it fits the place that it has in the octets
(`Dns.Message.Fits`).  There are many ways of writing it, because its names can be compressed.
`Dns.Message.WrittenAs` says that octets are one of them: the sections stand one after the other,
and in each part the name is written in any way that the message as a whole gives a meaning.

Reading follows the layout part by part, so whatever way a message is written it is read back
(`Dns.Message.WrittenAs.read_eq`).  Writing leaves all names uncompressed, which is one of the ways.
-/
import SenderPolicy.Dns.Message
import SenderPolicy.Proofs.Dns.CharacterString
import SenderPolicy.Proofs.Dns.Header
import SenderPolicy.Proofs.Dns.Name

namespace SenderPolicy

namespace Dns

variable {message octets : List UInt8}

/-! ### Questions -/

namespace Question

/-- A question that can be written. -/
structure Fits (q : Question) : Prop where
  labels : ∀ label ∈ q.labels, Name.IsLabel label
  recordType : q.recordType.IsCanonical
  recordClass : q.recordClass.IsCanonical

/-- The octets of a question whose name is written as given. -/
def layout (q : Question) (name : List UInt8) : List UInt8 :=
  name ++ writeWord q.recordType.code ++ writeWord q.recordClass.code

/-- The octets are those of a question in the given message.  From its name a pointer leads to a
place from which no more than `Name.maxHops` others are followed. -/
def WrittenAs (message : List UInt8) (q : Question) (octets : List UInt8) : Prop :=
  ∃ name, Name.Written message (Name.maxHops + 1) q.labels name ∧ octets = q.layout name

variable {q : Question}

lemma write_eq (h : q.Fits) : q.write = .ok (q.layout (Name.plainOctets q.labels)) := by
  rw [write, Name.write_eq h.labels]
  rfl

lemma writtenAs_layout (h : q.Fits) (message : List UInt8) :
    q.WrittenAs message (q.layout (Name.plainOctets q.labels)) :=
  ⟨_, Name.written_plainOctets message _ h.labels, rfl⟩

/-- A question is read back. -/
lemma Fits.read_append (h : q.Fits) (hq : q.WrittenAs message octets) (rest : List UInt8) :
    read message (octets ++ rest) = .ok (q, rest) := by
  obtain ⟨name, hname, rfl⟩ := hq
  have htype : RecordType.ofCode q.recordType.code = q.recordType := h.recordType
  have hclass : RecordClass.ofCode q.recordClass.code = q.recordClass := h.recordClass
  simp only [read, layout, List.append_assoc, hname.read_append, ok_bind,
    readWord_writeWord_append, htype, hclass]
  rfl

end Question

/-! ### Resource records -/

namespace RecordData

/-- Data that a record of the given type can have. -/
inductive Fits : RecordType → RecordData → Prop where
  /-- A TXT record has character-strings. -/
  | txt {strings : List (List UInt8)}
      (hstrings : ∀ s ∈ strings, s.length ≤ CharacterString.maxLength) : Fits .txt (.txt strings)
  /-- Any other record may have no data. -/
  | empty {recordType : RecordType} (htype : recordType ≠ .txt) : Fits recordType .empty
  /-- Data of any other record are not read any further. -/
  | raw {recordType : RecordType} {octets : List UInt8} (htype : recordType ≠ .txt)
      (hne : octets ≠ []) : Fits recordType (.raw octets)

/-- The octets of data. -/
def layout : RecordData → List UInt8
  | .empty => []
  | .txt strings => CharacterString.stringOctets strings
  | .raw octets => octets

variable {recordType : RecordType} {data : RecordData}

lemma write_eq (h : data.Fits recordType) : data.write = .ok data.layout := by
  cases h with
  | txt hstrings => exact CharacterString.write_eq hstrings
  | empty htype => rfl
  | raw htype hne => rfl

lemma ofOctets_of_ne_txt (h : recordType ≠ .txt) (octets : List UInt8) :
    ofOctets recordType octets = .ok (if octets = [] then .empty else .raw octets) := by
  cases recordType with
  | txt => exact absurd rfl h
  | _ => cases octets <;> rfl

lemma ofOctets_layout (h : data.Fits recordType) :
    ofOctets recordType data.layout = .ok data := by
  cases h with
  | txt hstrings =>
      rw [layout, ofOctets, CharacterString.read_stringOctets hstrings]
      rfl
  | empty htype => rw [ofOctets_of_ne_txt htype, layout, if_pos rfl]
  | raw htype hne => rw [ofOctets_of_ne_txt htype, layout, if_neg hne]

end RecordData

namespace Resource

/-- A record that can be written. -/
structure Fits (r : Resource) : Prop where
  labels : ∀ label ∈ r.labels, Name.IsLabel label
  recordType : r.recordType.IsCanonical
  recordClass : r.recordClass.IsCanonical
  data : r.data.Fits r.recordType
  length_lt : r.data.layout.length < 65536

/-- The octets of a record whose name is written as given. -/
def layout (r : Resource) (name : List UInt8) : List UInt8 :=
  name ++ writeWord r.recordType.code ++ writeWord r.recordClass.code ++ writeLong r.ttl ++
    writeWord (UInt16.ofNat r.data.layout.length) ++ r.data.layout

/-- The octets are those of a record in the given message.  From its name a pointer leads to a
place from which no more than `Name.maxHops` others are followed. -/
def WrittenAs (message : List UInt8) (r : Resource) (octets : List UInt8) : Prop :=
  ∃ name, Name.Written message (Name.maxHops + 1) r.labels name ∧ octets = r.layout name

variable {r : Resource}

lemma write_eq (h : r.Fits) : r.write = .ok (r.layout (Name.plainOctets r.labels)) := by
  rw [write, RecordData.write_eq h.data, Name.write_eq h.labels]
  rfl

lemma writtenAs_layout (h : r.Fits) (message : List UInt8) :
    r.WrittenAs message (r.layout (Name.plainOctets r.labels)) :=
  ⟨_, Name.written_plainOctets message _ h.labels, rfl⟩

/-- A record is read back. -/
lemma Fits.read_append (h : r.Fits) (hr : r.WrittenAs message octets) (rest : List UInt8) :
    read message (octets ++ rest) = .ok (r, rest) := by
  obtain ⟨name, hname, rfl⟩ := hr
  have htype : RecordType.ofCode r.recordType.code = r.recordType := h.recordType
  have hclass : RecordClass.ofCode r.recordClass.code = r.recordClass := h.recordClass
  have hlength : r.data.layout.length = (UInt16.ofNat r.data.layout.length).toNat :=
    (UInt16.toNat_ofNat_of_lt' h.length_lt).symm
  simp only [read, layout, List.append_assoc, hname.read_append, ok_bind,
    readWord_writeWord_append, readLong_writeLong_append, readOctets_append hlength, htype, hclass,
    RecordData.ofOctets_layout h.data]
  rfl

/-- The data of the record of a text have an octet more for each of its strings. -/
lemma length_layout_txt (domain : String) (ttl : UInt32) (text : String) :
    (txt domain ttl text).data.layout.length =
      text.utf8ByteSize + text.utf8ByteSize ⌈/⌉ CharacterString.maxLength := by
  rw [txt, RecordData.layout, CharacterString.length_stringOctets, CharacterString.flatten_chunks,
    CharacterString.length_chunks, Text.Utf8.length_encode]

end Resource

/-! ### Messages -/

namespace Message

/-- A message that can be written. -/
structure Fits (m : Message) : Prop where
  flags : m.header.flags.Fits
  questions : ∀ q ∈ m.questions, q.Fits
  answers : ∀ r ∈ m.answers, r.Fits
  authorities : ∀ r ∈ m.authorities, r.Fits
  additional : ∀ r ∈ m.additional, r.Fits
  questions_lt : m.questions.length < 65536
  answers_lt : m.answers.length < 65536
  authorities_lt : m.authorities.length < 65536
  additional_lt : m.additional.length < 65536

/-- The octets are those of a message.  The header has the sizes of the sections, and these stand
one after the other. -/
inductive WrittenAs (m : Message) (octets : List UInt8) : Prop where
  | intro {questions answers authorities additional : List UInt8}
      (hoctets : octets =
        m.countedHeader.write ++ questions ++ answers ++ authorities ++ additional)
      (hquestions : InSequence (Question.WrittenAs octets) m.questions questions)
      (hanswers : InSequence (Resource.WrittenAs octets) m.answers answers)
      (hauthorities : InSequence (Resource.WrittenAs octets) m.authorities authorities)
      (hadditional : InSequence (Resource.WrittenAs octets) m.additional additional)

variable {m : Message}

/-- The octets of a message without pointers. -/
def plainOctets (m : Message) : List UInt8 :=
  m.countedHeader.write ++
    m.questions.flatMap (fun q => q.layout (Name.plainOctets q.labels)) ++
    m.answers.flatMap (fun r => r.layout (Name.plainOctets r.labels)) ++
    m.authorities.flatMap (fun r => r.layout (Name.plainOctets r.labels)) ++
    m.additional.flatMap (fun r => r.layout (Name.plainOctets r.labels))

lemma writeAll_eq {α : Type} {write : α → Except WireError (List UInt8)}
    {layout : α → List UInt8} {parts : List α} (h : ∀ a ∈ parts, write a = .ok (layout a)) :
    writeAll write parts = .ok (parts.flatMap layout) := by
  have hmap : parts.mapM write = .ok (parts.map layout) :=
    mapM_eq_ok_iff.2 (List.forall₂_map_right_iff.2 (List.forall₂_same.2 h))
  rw [writeAll, hmap, List.flatMap_def]
  rfl

/-- A message that can be written is written without pointers. -/
lemma write_eq (h : m.Fits) : m.write = .ok m.plainOctets := by
  rw [write, writeAll_eq fun q hq => Question.write_eq (h.questions q hq),
    writeAll_eq fun r hr => Resource.write_eq (h.answers r hr),
    writeAll_eq fun r hr => Resource.write_eq (h.authorities r hr),
    writeAll_eq fun r hr => Resource.write_eq (h.additional r hr)]
  rfl

lemma writtenAs_plainOctets (h : m.Fits) : m.WrittenAs m.plainOctets :=
  .intro rfl
    (.flatMap fun q hq => Question.writtenAs_layout (h.questions q hq) _)
    (.flatMap fun r hr => Resource.writtenAs_layout (h.answers r hr) _)
    (.flatMap fun r hr => Resource.writtenAs_layout (h.authorities r hr) _)
    (.flatMap fun r hr => Resource.writtenAs_layout (h.additional r hr) _)

/-- The counts of the header are the sizes of the sections. -/
lemma Fits.toNat_counts (h : m.Fits) :
    m.countedHeader.questionCount.toNat = m.questions.length ∧
      m.countedHeader.answerCount.toNat = m.answers.length ∧
      m.countedHeader.authorityCount.toNat = m.authorities.length ∧
      m.countedHeader.additionalCount.toNat = m.additional.length :=
  ⟨UInt16.toNat_ofNat_of_lt' h.questions_lt, UInt16.toNat_ofNat_of_lt' h.answers_lt,
    UInt16.toNat_ofNat_of_lt' h.authorities_lt, UInt16.toNat_ofNat_of_lt' h.additional_lt⟩

lemma WrittenAs.size_le (hoctets : m.WrittenAs octets) : Header.size ≤ octets.length := by
  obtain ⟨heq, -, -, -, -⟩ := hoctets
  rw [heq]
  simp only [List.length_append, Header.length_write]
  omega

/-- However a message is written, it is read back, with the sizes of its sections. -/
lemma WrittenAs.read_eq (h : m.Fits) (hoctets : m.WrittenAs octets) :
    read octets = .ok { m with header := m.countedHeader } := by
  have hsize := Nat.not_lt_of_le hoctets.size_le
  obtain ⟨hcount₁, hcount₂, hcount₃, hcount₄⟩ := h.toNat_counts
  obtain @⟨questions, answers, authorities, additional, heq, hquestions, hanswers, hauthorities,
    hadditional⟩ := hoctets
  have hflags : m.countedHeader.flags.Fits := h.flags
  -- what is left to read after the header and after each of the first three sections
  have hheader : Header.read octets = .ok (m.countedHeader,
      questions ++ (answers ++ (authorities ++ (additional ++ [])))) := by
    rw [heq, List.append_nil, List.append_assoc, List.append_assoc, List.append_assoc,
      Header.read_write_append hflags]
  have hread₁ : readQuestions octets m.countedHeader.questionCount.toNat
      (questions ++ (answers ++ (authorities ++ (additional ++ [])))) =
      .ok (m.questions, answers ++ (authorities ++ (additional ++ []))) := by
    rw [hcount₁, readQuestions, hquestions.readMany_append
      fun q hq _ hpart => (h.questions q hq).read_append hpart]
  have hread₂ : readMany (Resource.read octets) m.countedHeader.answerCount.toNat
      (answers ++ (authorities ++ (additional ++ []))) =
      .ok (m.answers, authorities ++ (additional ++ [])) := by
    rw [hcount₂, hanswers.readMany_append
      fun r hr _ hpart => (h.answers r hr).read_append hpart]
  have hread₃ : readMany (Resource.read octets) m.countedHeader.authorityCount.toNat
      (authorities ++ (additional ++ [])) = .ok (m.authorities, additional ++ []) := by
    rw [hcount₃, hauthorities.readMany_append
      fun r hr _ hpart => (h.authorities r hr).read_append hpart]
  -- additional records are read as long as they can be, and all of them can
  have hread₄ : readUpTo (Resource.read octets) m.countedHeader.additionalCount.toNat
      (additional ++ []) = m.additional := by
    rw [hcount₄, hadditional.readUpTo_append
      fun r hr _ hpart => (h.additional r hr).read_append hpart]
  rw [read, if_neg hsize, hheader]
  simp only [ok_bind, hread₁, hread₂, hread₃, hread₄]
  rfl

/-- A message that fits is written, and what is written is read back with the sizes of the
sections. -/
theorem exists_write_and_read_eq (h : m.Fits) :
    ∃ octets, m.write = .ok octets ∧ read octets = .ok { m with header := m.countedHeader } :=
  ⟨m.plainOctets, write_eq h, (writtenAs_plainOctets h).read_eq h⟩

/-- A message that fits is read back in the same way from all octets that it can be written as,
with or without pointers. -/
theorem read_eq_of_writtenAs (h : m.Fits) (hoctets : m.WrittenAs octets) :
    read octets = .ok { m with header := m.countedHeader } ∧
      ∃ plain, m.write = .ok plain ∧ read octets = read plain := by
  have hread := hoctets.read_eq h
  refine ⟨hread, m.plainOctets, write_eq h, ?_⟩
  rw [hread, (writtenAs_plainOctets h).read_eq h]

/-! ### A compressed message -/

section Sample

/-- A response on the name `www.example.com`, with a text and an address. -/
def sample : Message where
  header := { id := 9, flags := { response := true, recursionDesired := true } }
  questions := [{ labels := ["example", "com"] }]
  answers :=
    [{ labels := ["www", "example", "com"], ttl := 300, data := .txt [[0x61, 0x62], []] },
      { labels := ["www", "example", "com"], recordType := .a, data := .raw [192, 0, 2, 1] }]

/-- The octets of the sample in which the name of the first answer has a pointer to the name of the
question, and that of the second answer is a pointer to that of the first one. -/
def compressedSample : List UInt8 :=
  sample.countedHeader.write ++ [7, 101, 120, 97, 109, 112, 108, 101, 3, 99, 111, 109, 0,
    0, 16, 0, 1] ++
    [3, 119, 119, 119, 0xC0, 12, 0, 16, 0, 1, 0, 0, 1, 44, 0, 4, 2, 97, 98, 0] ++
    [0xC0, 29, 0, 1, 0, 1, 0, 0, 0, 0, 0, 4, 192, 0, 2, 1]

lemma isLabel_of_mem_sample : ∀ label ∈ ["www", "example", "com"], Name.IsLabel label := by
  intro label hlabel
  refine ⟨?_, ?_⟩
  · rintro rfl
    exact absurd hlabel (by decide)
  · have hlengths : ∀ label ∈ ["www", "example", "com"],
        (Text.Utf8.encode label).length ≤ Name.maxLabelLength := by decide +kernel
    exact hlengths label hlabel

lemma fits_sample : sample.Fits where
  flags := ⟨by decide, by decide, by decide⟩
  questions := by
    intro q hq
    obtain rfl := List.mem_singleton.1 hq
    exact ⟨fun label hlabel => isLabel_of_mem_sample label (List.mem_cons_of_mem _ hlabel),
      by decide, by decide⟩
  answers := by
    intro r hr
    simp only [sample, List.mem_cons, List.not_mem_nil, or_false] at hr
    rcases hr with rfl | rfl
    · exact ⟨isLabel_of_mem_sample, by decide, by decide, .txt (by decide), by decide⟩
    · exact ⟨isLabel_of_mem_sample, by decide, by decide, .raw (by decide) (by decide),
        by decide⟩
  authorities := by simp [sample]
  additional := by simp [sample]
  questions_lt := by decide
  answers_lt := by decide
  authorities_lt := by decide
  additional_lt := by decide

/-- The name of the first answer, which leads to that of the question. -/
lemma written_www (pointers : Nat) :
    Name.Written compressedSample (pointers + 1) ["www", "example", "com"]
      (Name.labelOctets "www" ++ Name.pointerOctets 12) := by
  have hdrop : compressedSample.drop 12 =
      Name.plainOctets ["example", "com"] ++ compressedSample.drop 25 := by decide +kernel
  refine .label (isLabel_of_mem_sample "www" (by decide)) (.pointer (by decide) hdrop ?_)
  exact Name.written_plainOctets _ _ fun label hlabel =>
    isLabel_of_mem_sample label (List.mem_cons_of_mem _ hlabel)

lemma writtenAs_compressedSample : sample.WrittenAs compressedSample := by
  have hdrop : compressedSample.drop 29 =
      (Name.labelOctets "www" ++ Name.pointerOctets 12) ++ compressedSample.drop 35 := by
    decide +kernel
  have hquestion : Name.Written compressedSample (Name.maxHops + 1) ["example", "com"]
      (Name.plainOctets ["example", "com"]) :=
    Name.written_plainOctets _ _ fun label hlabel =>
      isLabel_of_mem_sample label (List.mem_cons_of_mem _ hlabel)
  have hfirst := written_www 16
  have hsecond : Name.Written compressedSample (Name.maxHops + 1) ["www", "example", "com"]
      (Name.pointerOctets 29) := .pointer (by decide) hdrop (written_www 15)
  exact .intro (by decide +kernel) (.cons ⟨_, hquestion, rfl⟩ .nil)
    (.cons ⟨_, hfirst, rfl⟩ (.cons ⟨_, hsecond, rfl⟩ .nil)) .nil .nil

/-- The sample is written and read back. -/
theorem exists_write_and_read_eq_sample :
    sample.Fits ∧ ∃ octets, sample.write = .ok octets ∧
      read octets = .ok { sample with header := sample.countedHeader } :=
  ⟨fits_sample, exists_write_and_read_eq fits_sample⟩

/-- The sample is read from its compressed octets, in which one pointer leads to another. -/
theorem read_eq_of_writtenAs_sample :
    sample.Fits ∧ sample.WrittenAs compressedSample ∧
      read compressedSample = .ok { sample with header := sample.countedHeader } ∧
      ∃ plain, sample.write = .ok plain ∧ read compressedSample = read plain :=
  ⟨fits_sample, writtenAs_compressedSample,
    read_eq_of_writtenAs fits_sample writtenAs_compressedSample⟩

end Sample

end Message

end Dns

end SenderPolicy
