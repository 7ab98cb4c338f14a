/-
Messages that are damaged at the end.

Datagrams are cut short, and what stands at their end may be anything.  A reader is exact on the
octets of a value if it reads the value back from them, whatever follows, and reads nothing at all
from a shorter beginning of them (`Dns.Exact`).  Readers that are exact one after the other are
exact together, so the front of a message, which is everything before its additional records, is
either read as it was written or not read at all.

Additional records are read as long as they can be.  So damage behind the front changes nothing but
the additional records, and a cut leaves a beginning of these.
-/
import SenderPolicy.Proofs.Dns.Message

namespace SenderPolicy

namespace Dns

variable {α β : Type}

/-- The reader reads the value from these octets and from no shorter beginning of them. -/
structure Exact (read : Reader α) (a : α) (octets : List UInt8) : Prop where
  /-- The value is read back, whatever follows its octets. -/
  read_append (rest : List UInt8) : read (octets ++ rest) = .ok (a, rest)
  /-- From octets that are cut short nothing is read. -/
  error_of_lt (n : Nat) (h : n < octets.length) : ∃ e, read (octets.take n) = .error e

namespace Exact

variable {read : Reader α} {a : α} {b : β} {octets octets' : List UInt8}
  {next : α × List UInt8 → Except WireError (β × List UInt8)}

lemma pure (a : α) : Exact (fun bytes => Pure.pure (a, bytes)) a [] where
  read_append _ := rfl
  error_of_lt n h := absurd h (Nat.not_lt_zero n)

/-- A reader is exact if it consists of two parts that are. -/
lemma andThen (h : Exact read a octets) (h' : Exact (fun bytes => next (a, bytes)) b octets') :
    Exact (fun bytes => read bytes >>= next) b (octets ++ octets') where
  read_append rest := by
    rw [List.append_assoc, h.read_append]
    exact h'.read_append rest
  error_of_lt n hn := by
    rw [List.length_append] at hn
    rcases Nat.lt_or_ge n octets.length with hlt | hge
    · obtain ⟨e, he⟩ := h.error_of_lt n hlt
      refine ⟨e, ?_⟩
      rw [List.take_append_of_le_length (Nat.le_of_lt hlt), he]
      rfl
    · -- the first part is read in full, and the cut is in the second one
      obtain ⟨e, he⟩ := h'.error_of_lt (n - octets.length) (by omega)
      refine ⟨e, ?_⟩
      rw [List.take_append, List.take_of_length_le hge, h.read_append]
      exact he

lemma word (w : UInt16) : Exact readWord w (writeWord w) where
  read_append := readWord_writeWord_append w
  error_of_lt n h := by
    have hn : n = 0 ∨ n = 1 := by
      simp only [writeWord, List.length_cons, List.length_nil] at h
      omega
    rcases hn with rfl | rfl <;> exact ⟨.truncated, rfl⟩

lemma long (w : UInt32) : Exact readLong w (writeLong w) where
  read_append := readLong_writeLong_append w
  error_of_lt n h := by
    have hn : n = 0 ∨ n = 1 ∨ n = 2 ∨ n = 3 := by
      simp only [writeLong, List.length_cons, List.length_nil] at h
      omega
    rcases hn with rfl | rfl | rfl | rfl <;> exact ⟨.truncated, rfl⟩

lemma all {n : Nat} (h : octets.length = n) : Exact (readOctets n) octets octets where
  read_append := readOctets_append h
  error_of_lt k hk := by
    have hshort : ¬ n ≤ (octets.take k).length := by
      rw [List.length_take]
      omega
    exact ⟨.truncated, by rw [readOctets, if_neg hshort]⟩

variable {layout : α → List UInt8} {as : List α}

/-- Values one after the other are read exactly if each of them is. -/
lemma many (h : ∀ a ∈ as, Exact read a (layout a)) :
    Exact (readMany read as.length) as (as.flatMap layout) := by
  induction as with
  | nil => exact .pure []
  | cons a as ih =>
      obtain ⟨ha, has⟩ := List.forall_mem_cons.1 h
      have hread : Exact (readMany read (as.length + 1)) (a :: as)
          (layout a ++ (as.flatMap layout ++ [])) :=
        ha.andThen ((ih has).andThen (.pure (a :: as)))
      rw [List.append_nil] at hread
      exact hread

/-- If values that are read exactly are cut short, the first ones of them are read. -/
lemma readUpTo_take_isPrefix (h : ∀ a ∈ as, Exact read a (layout a)) (n : Nat) :
    readUpTo read as.length ((as.flatMap layout).take n) <+: as := by
  induction as generalizing n with
  | nil => exact List.prefix_refl []
  | cons a as ih =>
      obtain ⟨ha, has⟩ := List.forall_mem_cons.1 h
      rw [List.flatMap_cons, List.length_cons, readUpTo]
      rcases Nat.lt_or_ge n (layout a).length with hlt | hge
      · obtain ⟨e, he⟩ := ha.error_of_lt n hlt
        rw [List.take_append_of_le_length (Nat.le_of_lt hlt), he]
        exact List.nil_prefix
      · rw [List.take_append, List.take_of_length_le hge, ha.read_append]
        exact List.cons_prefix_cons.2 ⟨rfl, ih has _⟩

end Exact

/-! ### Parts of a message -/

section Parts

variable (message : List UInt8)

lemma Name.exact {labels : List String} (h : ∀ label ∈ labels, IsLabel label) :
    Exact (read message) labels (plainOctets labels) where
  read_append := (written_plainOctets message (maxHops + 1) h).read_append
  error_of_lt n hn := by
    refine ⟨.truncated, ?_⟩
    rw [read, spell_take_plainOctets h (Nat.le_refl maxLabelLength) hn]
    rfl

lemma Question.Fits.exact {q : Question} (h : q.Fits) :
    Exact (read message) q (q.layout (Name.plainOctets q.labels)) := by
  have htype : RecordType.ofCode q.recordType.code = q.recordType := h.recordType
  have hclass : RecordClass.ofCode q.recordClass.code = q.recordClass := h.recordClass
  have hread : Exact (read message) q (Name.plainOctets q.labels ++
      (writeWord q.recordType.code ++ (writeWord q.recordClass.code ++ []))) := by
    refine (Name.exact message h.labels).andThen ((Exact.word _).andThen
      ((Exact.word _).andThen ?_))
    simp only [htype, hclass]
    exact .pure q
  simpa only [layout, List.append_assoc, List.append_nil] using hread

lemma Resource.Fits.exact {r : Resource} (h : r.Fits) :
    Exact (read message) r (r.layout (Name.plainOctets r.labels)) := by
  have htype : RecordType.ofCode r.recordType.code = r.recordType := h.recordType
  have hclass : RecordClass.ofCode r.recordClass.code = r.recordClass := h.recordClass
  have hlength : r.data.layout.length = (UInt16.ofNat r.data.layout.length).toNat :=
    (UInt16.toNat_ofNat_of_lt' h.length_lt).symm
  have hread : Exact (read message) r (Name.plainOctets r.labels ++
      (writeWord r.recordType.code ++ (writeWord r.recordClass.code ++ (writeLong r.ttl ++
        (writeWord (UInt16.ofNat r.data.layout.length) ++ (r.data.layout ++ [])))))) := by
    refine (Name.exact message h.labels).andThen ((Exact.word _).andThen ((Exact.word _).andThen
      ((Exact.long _).andThen ((Exact.word _).andThen ((Exact.all hlength).andThen ?_)))))
    simp only [htype, hclass, RecordData.ofOctets_layout h.data]
    exact .pure r
  simpa only [layout, List.append_assoc, List.append_nil] using hread

lemma Header.exact {h : Header} (hflags : h.flags.Fits) : Exact read h h.write := by
  have hread : Exact read h (writeWord h.id ++ (writeWord h.flags.toWord ++
      (writeWord h.questionCount ++ (writeWord h.answerCount ++ (writeWord h.authorityCount ++
        (writeWord h.additionalCount ++ [])))))) := by
    refine (Exact.word _).andThen ((Exact.word _).andThen ((Exact.word _).andThen
      ((Exact.word _).andThen ((Exact.word _).andThen ((Exact.word _).andThen ?_)))))
    simp only [Flags.ofWord_toWord hflags]
    exact .pure h
  simpa only [write, List.append_assoc, List.append_nil] using hread

end Parts

/-! ### Messages -/

namespace Message

/-- Reads a message up to its additional records. -/
def readFront (message : List UInt8) : Reader Message := fun bytes => do
  let (header, bytes) ← Header.read bytes
  let (questions, bytes) ← readQuestions message header.questionCount.toNat bytes
  let (answers, bytes) ← readMany (Resource.read message) header.answerCount.toNat bytes
  let (authorities, bytes) ← readMany (Resource.read message) header.authorityCount.toNat bytes
  return ({ header, questions, answers, authorities }, bytes)

/-- What a message is before its additional records, if these are said to be `count` in number. -/
def front (m : Message) (count : UInt16) : Message :=
  { m with header := { m.countedHeader with additionalCount := count }, additional := [] }

/-- The octets of the front of a message. -/
def frontOctets (m : Message) (count : UInt16) : List UInt8 :=
  (m.front count).header.write ++
    m.questions.flatMap (fun q => q.layout (Name.plainOctets q.labels)) ++
    m.answers.flatMap (fun r => r.layout (Name.plainOctets r.labels)) ++
    m.authorities.flatMap (fun r => r.layout (Name.plainOctets r.labels))

/-- The octets of the additional records of a message. -/
def additionalOctets (m : Message) : List UInt8 :=
  m.additional.flatMap fun r => r.layout (Name.plainOctets r.labels)

variable {m : Message} {message : List UInt8}

lemma read_eq (hsize : ¬ message.length < Header.size) :
    read message = (do
      let (front, bytes) ← readFront message message
      let count := front.header.additionalCount.toNat
      return { front with additional := readUpTo (Resource.read message) count bytes }) := by
  rw [read, if_neg hsize, readFront]
  simp only [bind_assoc, pure_bind]

lemma exact_readQuestions {qs : List Question} (h : ∀ q ∈ qs, q.Fits) (message : List UInt8) :
    Exact (readQuestions message qs.length) qs
      (qs.flatMap fun q => q.layout (Name.plainOctets q.labels)) := by
  have hmany := Exact.many fun q hq => (h q hq).exact message
  constructor
  · intro rest
    rw [readQuestions, hmany.read_append]
  · intro n hn
    obtain ⟨e, he⟩ := hmany.error_of_lt n hn
    exact ⟨.invalidQuestionSection, by rw [readQuestions, he]⟩

/-- The front of a message is read exactly, whatever number of additional records it announces. -/
lemma Fits.exact_front (h : m.Fits) (count : UInt16) (message : List UInt8) :
    Exact (readFront message) (m.front count) (m.frontOctets count) := by
  obtain ⟨hcount₁, hcount₂, hcount₃, -⟩ := h.toNat_counts
  have hflags : (m.front count).header.flags.Fits := h.flags
  have hquestions := exact_readQuestions h.questions message
  have hanswers := Exact.many fun r hr => (h.answers r hr).exact message
  have hauthorities := Exact.many fun r hr => (h.authorities r hr).exact message
  rw [← hcount₁] at hquestions
  rw [← hcount₂] at hanswers
  rw [← hcount₃] at hauthorities
  have hread : Exact (readFront message) (m.front count) (_ ++ (_ ++ (_ ++ (_ ++ [])))) :=
    (Header.exact hflags).andThen
      (hquestions.andThen (hanswers.andThen (hauthorities.andThen (.pure (m.front count)))))
  simpa only [frontOctets, List.append_assoc, List.append_nil] using hread

lemma plainOctets_eq (m : Message) :
    m.plainOctets = m.frontOctets m.countedHeader.additionalCount ++ m.additionalOctets := rfl

lemma size_le_length_frontOctets (m : Message) (count : UInt16) :
    Header.size ≤ (m.frontOctets count).length := by
  simp only [frontOctets, List.length_append, Header.length_write]
  omega

/-- The number of additional records stands in the eleventh and twelfth octet. -/
lemma frontOctets_eq (m : Message) (count count' : UInt16) :
    m.frontOctets count' =
      (m.frontOctets count).take 10 ++ writeWord count' ++ (m.frontOctets count).drop 12 := rfl

/-- Behind the front of a message there may be anything: what is before it is read. -/
lemma Fits.read_frontOctets_append (h : m.Fits) (count : UInt16) (rest : List UInt8) :
    read (m.frontOctets count ++ rest) = .ok { m.front count with
      additional := readUpTo (Resource.read (m.frontOctets count ++ rest)) count.toNat rest } := by
  have hsize : ¬ (m.frontOctets count ++ rest).length < Header.size := by
    have hfront := m.size_le_length_frontOctets count
    rw [List.length_append]
    omega
  rw [read_eq hsize, (h.exact_front count _).read_append]
  rfl

/-- If a message is cut within its front, it is not read. -/
lemma Fits.read_take_frontOctets (h : m.Fits) {count : UInt16} {n : Nat}
    (hn : n < (m.frontOctets count).length) :
    ∃ e, read ((m.frontOctets count).take n) = .error e := by
  by_cases hsize : ((m.frontOctets count).take n).length < Header.size
  · exact ⟨.invalidHeader, by rw [read, if_pos hsize]⟩
  · obtain ⟨e, he⟩ := (h.exact_front count ((m.frontOctets count).take n)).error_of_lt n hn
    refine ⟨e, ?_⟩
    rw [read_eq hsize, he]
    rfl

/-- What is read of a message that is damaged at the end.

The octets of a message that fits are those of its front and those of its additional records.  If
they are cut within the front, they are not read.  If they are cut behind it, the front is read as
it is, and some first ones of the additional records.  If these are replaced by anything, and the
number of them as well, then the front is still read as it is. -/
theorem read_of_damaged_end (h : m.Fits) :
    ∃ front additional, m.write = .ok (front ++ additional) ∧
      writeAll Resource.write m.additional = .ok additional ∧
      (∀ n < front.length, ∃ e, read ((front ++ additional).take n) = .error e) ∧
      (∀ n, front.length ≤ n → n ≤ (front ++ additional).length →
        ∃ kept, kept <+: m.additional ∧ read ((front ++ additional).take n) =
          .ok { m with header := m.countedHeader, additional := kept }) ∧
      (∀ count tail, ∃ damaged,
        read (front.take 10 ++ writeWord count ++ front.drop 12 ++ tail) = .ok damaged ∧
        damaged.header = { m.countedHeader with additionalCount := count } ∧
        damaged.questions = m.questions ∧ damaged.answers = m.answers ∧
        damaged.authorities = m.authorities ∧ damaged.txtRecords = m.txtRecords) := by
  have hadditional : ∀ r ∈ m.additional, ∀ message,
      Exact (Resource.read message) r (r.layout (Name.plainOctets r.labels)) :=
    fun r hr => (h.additional r hr).exact
  have hcount : m.countedHeader.additionalCount.toNat = m.additional.length := h.toNat_counts.2.2.2
  refine ⟨m.frontOctets m.countedHeader.additionalCount, m.additionalOctets, ?_, ?_, ?_, ?_, ?_⟩
  · rw [write_eq h, plainOctets_eq]
  · exact writeAll_eq fun r hr => Resource.write_eq (h.additional r hr)
  · intro n hn
    rw [List.take_append_of_le_length (Nat.le_of_lt hn)]
    exact h.read_take_frontOctets hn
  · intro n hn _
    rw [List.take_append, List.take_of_length_le hn, h.read_frontOctets_append, hcount]
    exact ⟨_, Exact.readUpTo_take_isPrefix (fun r hr => hadditional r hr _) _, rfl⟩
  · intro count tail
    rw [← frontOctets_eq, h.read_frontOctets_append]
    exact ⟨_, rfl, rfl, rfl, rfl, rfl, rfl⟩

/-! ### A message with an additional record -/

section Sample

/-- The sample with one additional record. -/
def extendedSample : Message :=
  { sample with additional := [{ recordType := .opt, ttl := 32768 }] }

lemma fits_extendedSample : extendedSample.Fits :=
  { fits_sample with
    additional := by
      intro r hr
      obtain rfl := List.mem_singleton.1 hr
      exact ⟨by simp, by decide, by decide, .empty (by decide), by decide⟩
    additional_lt := by decide }

/-- Without its last octet the sample has lost its additional record and nothing else, and without
its last twelve octets it is not read. -/
theorem read_of_damaged_end_extendedSample :
    extendedSample.Fits ∧ ∃ octets, extendedSample.write = .ok octets ∧
      (∃ e, read (octets.take (octets.length - 12)) = .error e) ∧
      ∃ kept, kept <+: extendedSample.additional ∧ read octets.dropLast =
        .ok { extendedSample with header := extendedSample.countedHeader, additional := kept } := by
  obtain ⟨front, additional, hwrite, hadditional, hcut, hkept, -⟩ :=
    read_of_damaged_end fits_extendedSample
  have hlength : additional.length = 11 := by
    have hoctets : writeAll Resource.write extendedSample.additional =
        .ok [0, 0, 41, 0, 1, 0, 0, 128, 0, 0, 0] := rfl
    rw [hadditional] at hoctets
    cases hoctets
    rfl
  have hfront : 0 < front.length := by
    refine Nat.pos_of_ne_zero fun hzero => ?_
    -- a cut behind an empty front would leave a message that is read from no octets
    obtain ⟨_, -, hread⟩ := hkept 0 (by omega) (Nat.zero_le _)
    have hempty : read [] = .error .invalidHeader := rfl
    rw [List.take_zero, hempty] at hread
    cases hread
  refine ⟨fits_extendedSample, front ++ additional, hwrite, hcut _ ?_, ?_⟩
  · rw [List.length_append]
    omega
  · rw [List.dropLast_eq_take]
    exact hkept _ (by rw [List.length_append]; omega) (Nat.sub_le _ _)

end Sample

end Message

end Dns

end SenderPolicy
