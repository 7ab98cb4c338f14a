/-
Messages that are read and written again.

A message that was read has nothing that has no place in octets: the codes have the names that
belong to them, the numbers among the flags have the width of their fields, and every size was a
word of two octets before.  So if its labels can be written, it fits (`Dns.Message.fits_of_read`),
and writing it gives octets from which it is read again.

Only one thing is lost on the way.  A message may announce more additional records than can be
read, and writing it again counts those that were read.  This happens once: after that the message
and its octets stay the same.
-/
import SenderPolicy.Proofs.Dns.Sizes

namespace SenderPolicy

namespace Dns

variable {α β : Type} {message octets bytes rest : List UInt8}

/-! ### Parts that are read one after the other -/

section Parts

variable {read : Reader α} {read' : Reader β} {g : α → β} {as others : List α} {n k : Nat}

lemma length_of_readMany (h : readMany read n bytes = .ok (as, rest)) : as.length = n := by
  induction n generalizing bytes as with
  | zero =>
      cases h
      rfl
  | succ n ih =>
      obtain ⟨⟨a, middle⟩, -, h⟩ := bind_eq_ok_iff.1 h
      obtain ⟨⟨others, rest⟩, hothers, h⟩ := bind_eq_ok_iff.1 h
      cases h
      exact congrArg Nat.succ (ih hothers)

lemma length_readUpTo_le (read : Reader α) (n : Nat) (bytes : List UInt8) :
    (readUpTo read n bytes).length ≤ n := by
  induction n generalizing bytes with
  | zero => exact Nat.le_refl 0
  | succ n ih =>
      rw [readUpTo]
      split
      · exact Nat.succ_le_succ (ih _)
      · exact Nat.zero_le _

/-- The parts that are read up to a number can be read. -/
lemma exists_readMany_of_readUpTo (read : Reader α) (n : Nat) (bytes : List UInt8) :
    ∃ rest, readMany read (readUpTo read n bytes).length bytes =
      .ok (readUpTo read n bytes, rest) := by
  induction n generalizing bytes with
  | zero => exact ⟨bytes, rfl⟩
  | succ n ih =>
      rw [readUpTo]
      split
      case h_1 a middle ha =>
          obtain ⟨rest, hrest⟩ := ih middle
          refine ⟨rest, ?_⟩
          rw [List.length_cons, readMany, ha]
          simp only [ok_bind, hrest]
          rfl
      case h_2 => exact ⟨bytes, rfl⟩

/-- Parts one after the other are read one after the other. -/
lemma readMany_append {middle : List UInt8} (h : readMany read n bytes = .ok (as, middle))
    (h' : readMany read k middle = .ok (others, rest)) :
    readMany read (n + k) bytes = .ok (as ++ others, rest) := by
  induction n generalizing bytes as with
  | zero =>
      cases h
      rwa [Nat.zero_add]
  | succ n ih =>
      obtain ⟨⟨a, next⟩, ha, h⟩ := bind_eq_ok_iff.1 h
      obtain ⟨⟨as, rest⟩, has, h⟩ := bind_eq_ok_iff.1 h
      cases h
      rw [Nat.succ_add, readMany, ha]
      simp only [ok_bind, ih has]
      rfl

/-- If a second reader finds something of each part where the first one finds the part, it finds
this of all parts. -/
lemma readMany_map (hread : ∀ {bytes a rest}, read bytes = .ok (a, rest) →
      read' bytes = .ok (g a, rest)) (h : readMany read n bytes = .ok (as, rest)) :
    readMany read' n bytes = .ok (as.map g, rest) := by
  induction n generalizing bytes as with
  | zero =>
      cases h
      rfl
  | succ n ih =>
      obtain ⟨⟨a, middle⟩, ha, h⟩ := bind_eq_ok_iff.1 h
      obtain ⟨⟨others, rest⟩, hothers, h⟩ := bind_eq_ok_iff.1 h
      cases h
      rw [readMany, hread ha]
      simp only [ok_bind, ih hothers]
      rfl

end Parts

/-! ### The data of the records -/

/-- Reads the octets of the data of a record of the given message. -/
def Resource.readData (message : List UInt8) : Reader (List UInt8) := fun bytes => do
  let (_, bytes) ← Name.read message bytes
  let (_, bytes) ← readWord bytes
  let (_, bytes) ← readWord bytes
  let (_, bytes) ← readLong bytes
  let (length, bytes) ← readWord bytes
  readOctets length.toNat bytes

lemma Resource.readData_of_read {r : Resource} (h : read message bytes = .ok (r, rest)) :
    readData message bytes = .ok (r.data.layout, rest) := by
  obtain ⟨⟨labels, bytes⟩, hlabels, h⟩ := bind_eq_ok_iff.1 h
  obtain ⟨⟨typeCode, bytes⟩, htype, h⟩ := bind_eq_ok_iff.1 h
  obtain ⟨⟨classCode, bytes⟩, hclass, h⟩ := bind_eq_ok_iff.1 h
  obtain ⟨⟨ttl, bytes⟩, httl, h⟩ := bind_eq_ok_iff.1 h
  obtain ⟨⟨length, bytes⟩, hlength, h⟩ := bind_eq_ok_iff.1 h
  obtain ⟨⟨octets, bytes⟩, hoctets, h⟩ := bind_eq_ok_iff.1 h
  obtain ⟨data, hdata, h⟩ := bind_eq_ok_iff.1 h
  cases h
  obtain ⟨-, hlayout⟩ := RecordData.fits_of_ofOctets hdata
  simp only [readData, hlabels, htype, hclass, httl, hlength, hoctets, ok_bind, hlayout]

/-! ### What was read fits -/

lemma Header.fits_of_read {header : Header} (h : Header.read bytes = .ok (header, rest)) :
    header.flags.Fits := by
  obtain ⟨⟨id, bytes⟩, -, h⟩ := bind_eq_ok_iff.1 h
  obtain ⟨⟨flags, bytes⟩, -, h⟩ := bind_eq_ok_iff.1 h
  obtain ⟨⟨questionCount, bytes⟩, -, h⟩ := bind_eq_ok_iff.1 h
  obtain ⟨⟨answerCount, bytes⟩, -, h⟩ := bind_eq_ok_iff.1 h
  obtain ⟨⟨authorityCount, bytes⟩, -, h⟩ := bind_eq_ok_iff.1 h
  obtain ⟨⟨additionalCount, bytes⟩, -, h⟩ := bind_eq_ok_iff.1 h
  cases h
  exact Flags.fits_ofWord flags

/-- A name that was read can be written if its labels are not too long, as none of them is empty. -/
lemma Name.ReadFrom.isLabel {labels : List String} (h : ReadFrom message labels)
    (hwritable : IsWritable labels) : ∀ label ∈ labels, IsLabel label :=
  fun label hlabel => ⟨(h.within label hlabel).ne_empty, hwritable label hlabel⟩

lemma Question.ReadFrom.fits {q : Question} (h : q.ReadFrom message)
    (hwritable : Name.IsWritable q.labels) : q.Fits where
  labels := h.labels.isLabel hwritable
  recordType := h.recordType
  recordClass := h.recordClass

lemma Resource.ReadFrom.fits {r : Resource} (h : r.ReadFrom message)
    (hwritable : Name.IsWritable r.labels) : r.Fits where
  labels := h.labels.isLabel hwritable
  recordType := h.recordType
  recordClass := h.recordClass
  data := h.data
  length_lt := h.length_lt

/-! ### Messages -/

namespace Message

/-- Reads the octets of the data of the first `count` records of a message, as they stand behind its
questions. -/
def readData (message : List UInt8) (count : Nat) : Except WireError (List (List UInt8)) := do
  let (header, bytes) ← Header.read message
  let (_, bytes) ← readQuestions message header.questionCount.toNat bytes
  let (data, _) ← readMany (Resource.readData message) count bytes
  return data

variable {m : Message}

/-- The data of the records of a message that was read are the octets that stand there. -/
lemma readData_of_read (h : read octets = .ok m) :
    readData octets m.records.length = .ok (m.records.map fun r => r.data.layout) := by
  obtain ⟨bytes₁, bytes₂, bytes₃, bytes₄, hheader, hquestions, hanswers, hauthorities,
    hadditional⟩ := sections_of_read h
  obtain ⟨rest, hrest⟩ := exists_readMany_of_readUpTo (Resource.read octets)
    m.header.additionalCount.toNat bytes₄
  rw [← hadditional] at hrest
  have hlength : m.records.length = m.header.answerCount.toNat +
      m.header.authorityCount.toNat + m.additional.length := by
    rw [records, List.length_append, List.length_append, length_of_readMany hanswers,
      length_of_readMany hauthorities]
  have hrecords := readMany_append (readMany_append hanswers hauthorities) hrest
  have hquestions' : readQuestions octets m.header.questionCount.toNat bytes₁ =
      .ok (m.questions, bytes₂) := by rw [readQuestions, hquestions]
  rw [hlength, readData, hheader]
  simp only [ok_bind, hquestions', readMany_map Resource.readData_of_read hrecords]
  rfl

/-- The message with the number of its additional records in the header. -/
def recounted (m : Message) : Message :=
  { m with
    header := { m.header with additionalCount := UInt16.ofNat m.additional.length } }

/-- A message that was read fits if it can be written. -/
theorem fits_of_read (h : read octets = .ok m) (hwritable : m.IsWritable) : m.Fits := by
  obtain ⟨bytes₁, bytes₂, bytes₃, bytes₄, hheader, hquestions, hanswers, hauthorities,
    hadditional⟩ := sections_of_read h
  obtain ⟨hquestion, hrecord⟩ := readFrom_of_read h
  have hnames := hwritable.names
  rw [names, List.forall_mem_append, List.forall_mem_map, List.forall_mem_map] at hnames
  have hfits : ∀ r ∈ m.records, r.Fits := fun r hr => (hrecord r hr).fits (hnames.2 r hr)
  rw [records, List.forall_mem_append, List.forall_mem_append] at hfits
  obtain ⟨⟨hfits₁, hfits₂⟩, hfits₃⟩ := hfits
  have hlt : ∀ count : UInt16, count.toNat < 65536 := fun count => count.toNat_lt
  exact
    { flags := Header.fits_of_read hheader
      questions := fun q hq => (hquestion q hq).fits (hnames.1 q hq)
      answers := hfits₁
      authorities := hfits₂
      additional := hfits₃
      questions_lt := length_of_readMany hquestions ▸ hlt _
      answers_lt := length_of_readMany hanswers ▸ hlt _
      authorities_lt := length_of_readMany hauthorities ▸ hlt _
      additional_lt := by
        rw [hadditional]
        exact Nat.lt_of_le_of_lt (length_readUpTo_le _ _ _) (hlt _) }

/-- Of the counts of a message that was read only that of the additional records can be wrong. -/
lemma countedHeader_of_read (h : read octets = .ok m) : m.countedHeader = m.recounted.header := by
  obtain ⟨_, _, _, _, -, hquestions, hanswers, hauthorities, -⟩ := sections_of_read h
  simp only [countedHeader, recounted, length_of_readMany hquestions, length_of_readMany hanswers,
    length_of_readMany hauthorities, UInt16.ofNat_toNat]

/-- What was read and written is read again, and the octets no longer change.

All that differs from what was read first is the number of the additional records, which now is the
number of those that could be read.  The data of each record are the same octets as before. -/
theorem read_and_write_of_read (h : read octets = .ok m) {written : List UInt8}
    (hwrite : m.write = .ok written) :
    m.recounted.header.additionalCount.toNat = m.additional.length ∧
    read written = .ok m.recounted ∧
    readData octets m.records.length = .ok (m.records.map fun r => r.data.layout) ∧
    readData written m.records.length = .ok (m.records.map fun r => r.data.layout) ∧
    m.recounted.write = .ok written := by
  have hfits : m.Fits := fits_of_read h (m.exists_write_iff.1 ⟨written, hwrite⟩)
  have hread : read written = .ok m.recounted := by
    obtain rfl : m.plainOctets = written := Except.ok.inj ((write_eq hfits).symm.trans hwrite)
    rw [(writtenAs_plainOctets hfits).read_eq hfits, countedHeader_of_read h]
    rfl
  -- writing does not look at the counts of the header
  exact ⟨UInt16.toNat_ofNat_of_lt' hfits.additional_lt, hread, readData_of_read h,
    readData_of_read (m := m.recounted) hread, hwrite⟩

/-- The sample with one more record, of a type and a class without names, and with a larger number
of additional records in its header. -/
def untidy : Message :=
  { sample with
    header := { sample.countedHeader with additionalCount := 3 }
    additional :=
      [{ labels := ["com"], recordType := .unknown 99, recordClass := .unknown 7, ttl := 5
         data := .raw [0, 255] }] }

/-- Octets of the untidy message with pointers in its names.  A second additional record cannot be
read, as its name is half a pointer. -/
def untidyOctets : List UInt8 :=
  untidy.header.write ++ compressedSample.drop Header.size ++
    [0xC0, 20, 0, 99, 0, 7, 0, 0, 0, 5, 0, 2, 0, 255] ++ [0xC0]

/-- The untidy message is written without pointers and with one additional record. -/
theorem read_and_write_of_read_untidy :
    read untidyOctets = .ok untidy ∧ ∃ written, untidy.write = .ok written ∧
      written.length = 108 ∧ read written = .ok untidy.recounted ∧
      untidy.recounted.header.additionalCount.toNat = 1 ∧
      readData untidyOctets 3 = readData written 3 ∧ untidy.recounted.write = .ok written := by
  have hread : read untidyOctets = .ok untidy := by decide +kernel
  have hwrite : untidy.write = .ok untidy.plainOctets := by decide +kernel
  obtain ⟨hcount, hagain, hdata, hdata', hstable⟩ := read_and_write_of_read hread hwrite
  exact ⟨hread, _, hwrite, by decide +kernel, hagain, hcount, hdata.trans hdata'.symm, hstable⟩

end Message

end Dns

end SenderPolicy
