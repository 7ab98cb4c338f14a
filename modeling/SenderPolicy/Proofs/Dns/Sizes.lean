/-
Sizes that a message has no place for.

The sizes of the sections and the number of octets of the data of every record stand in a message as
words of two octets.  `Dns.Message.Framed` says that octets are those of a message with numbers in
these places that agree, in a given sense, with what they count; all else is as it is written.

Writing looks at the lengths of labels and of character-strings, but not at these sizes, so it
cannot fail because of them: it writes them modulo `2 ^ 16`.  The numbers are the sizes exactly if
every size is less than that.  This is so because the places of the numbers in the octets do not
depend on the numbers (`Dns.Message.Framed.and`).
-/
import SenderPolicy.Proofs.Dns.Acceptance

namespace SenderPolicy

namespace Dns

variable {α : Type} {octets octets' : List UInt8} {p q : Nat → Nat → Prop}

/-! ### Parts one after the other -/

namespace InSequence

variable {Part Part' : α → List UInt8 → Prop} {as : List α}

lemma imp (h : InSequence Part as octets) (himp : ∀ a ∈ as, ∀ o, Part a o → Part' a o) :
    InSequence Part' as octets := by
  induction h with
  | nil => exact .nil
  | cons first _ ih =>
      obtain ⟨ha, has⟩ := List.forall_mem_cons.1 himp
      exact .cons (ha _ first) (ih has)

lemma forall_mem {P : α → Prop} (h : InSequence Part as octets) (hpart : ∀ a o, Part a o → P a) :
    ∀ a ∈ as, P a := by
  induction h with
  | nil => exact List.forall_mem_nil _
  | cons first _ ih => exact List.forall_mem_cons.2 ⟨hpart _ _ first, ih⟩

lemma length_eq (hlength : ∀ a o o', Part a o → Part' a o' → o.length = o'.length)
    (h : InSequence Part as octets) (h' : InSequence Part' as octets') :
    octets.length = octets'.length := by
  induction h generalizing octets' with
  | nil =>
      cases h'
      rfl
  | cons first _ ih =>
      cases h' with
      | cons first' rest' =>
          rw [List.length_append, List.length_append, hlength _ _ _ first first', ih rest']

/-- Two ways of taking octets apart are the same if the parts have as many octets in both. -/
lemma and (hlength : ∀ a o o', Part a o → Part' a o' → o.length = o'.length)
    (h : InSequence Part as octets) (h' : InSequence Part' as octets) :
    InSequence (fun a o => Part a o ∧ Part' a o) as octets := by
  induction h with
  | nil => exact .nil
  | @cons a as o others first _ ih =>
      generalize hall : o ++ others = all at h'
      cases h' with
      | cons first' rest' =>
          obtain ⟨rfl, rfl⟩ := List.append_inj hall (hlength _ _ _ first first')
          exact .cons ⟨first, first'⟩ (ih rest')

lemma of_writeAll {write : α → Except WireError (List UInt8)}
    (h : Message.writeAll write as = .ok octets) :
    InSequence (fun a o => write a = .ok o) as octets := by
  obtain ⟨parts, hparts, hreturn⟩ := bind_eq_ok_iff.1 h
  have hwritten := mapM_eq_ok_iff.1 hparts
  cases hreturn
  clear h hparts
  induction hwritten with
  | nil => exact .nil
  | cons hpart _ ih => exact .cons hpart ih

end InSequence

/-! ### What can be written -/

namespace RecordData

variable {data : RecordData}

/-- No character-string is too long to be written. -/
def IsWritable : RecordData → Prop
  | .txt strings => ∀ s ∈ strings, s.length ≤ CharacterString.maxLength
  | _ => True

lemma write_eq_ok_iff : data.write = .ok octets ↔ data.IsWritable ∧ octets = data.layout := by
  cases data with
  | empty => simp [write, IsWritable, layout, eq_comm]
  | txt strings => exact CharacterString.write_eq_ok_iff
  | raw bytes => simp [write, IsWritable, layout, eq_comm]

end RecordData

section Success

variable {β ε : Type} {x : Except ε α}

lemma WritesIff.exists_ok_iff {x : Except WireError α} {condition : Prop}
    (h : WritesIff x condition) : (∃ a, x = .ok a) ↔ condition := by
  refine ⟨fun ⟨a, ha⟩ => by_contra fun hnot => ?_, h.ok⟩
  rw [h.error hnot] at ha
  cases ha

/-- If it depends on no result of the first step whether the second succeeds, both have to. -/
lemma exists_bind_ok_iff {f : α → Except ε β} {first second : Prop} (hx : (∃ a, x = .ok a) ↔ first)
    (hf : ∀ a, (∃ b, f a = .ok b) ↔ second) : (∃ b, (x >>= f) = .ok b) ↔ first ∧ second := by
  constructor
  · rintro ⟨b, hb⟩
    obtain ⟨a, ha, hb⟩ := bind_eq_ok_iff.1 hb
    exact ⟨hx.1 ⟨a, ha⟩, (hf a).1 ⟨b, hb⟩⟩
  · rintro ⟨hfirst, hsecond⟩
    obtain ⟨a, rfl⟩ := hx.2 hfirst
    exact (hf a).2 hsecond

lemma exists_return_ok_iff {f : α → β} {condition : Prop} (hx : (∃ a, x = .ok a) ↔ condition) :
    (∃ b, (x >>= fun a => pure (f a)) = .ok b) ↔ condition := by
  have hreturn : ∀ a, (∃ b, (pure (f a) : Except ε β) = .ok b) ↔ True :=
    fun a => iff_of_true ⟨f a, rfl⟩ trivial
  exact (exists_bind_ok_iff hx hreturn).trans (and_iff_left trivial)

lemma exists_mapM_ok_iff {f : α → Except ε β} {as : List α} :
    (∃ bs, as.mapM f = .ok bs) ↔ ∀ a ∈ as, ∃ b, f a = .ok b := by
  induction as with
  | nil => exact iff_of_true ⟨[], rfl⟩ (List.forall_mem_nil _)
  | cons a as ih =>
      rw [List.mapM_cons, List.forall_mem_cons]
      exact exists_bind_ok_iff Iff.rfl fun b => exists_return_ok_iff ih

end Success

lemma Resource.exists_write_iff (r : Resource) :
    (∃ octets, r.write = .ok octets) ↔ r.data.IsWritable ∧ Name.IsWritable r.labels := by
  refine exists_bind_ok_iff ?_ fun _ =>
    exists_return_ok_iff (Name.writesIff_write r.labels).exists_ok_iff
  simp only [RecordData.write_eq_ok_iff, exists_and_left, exists_eq, and_true]

namespace Message

/-- No label and no character-string is too long to be written. -/
@[mk_iff]
structure IsWritable (m : Message) : Prop where
  names : ∀ labels ∈ m.names, Name.IsWritable labels
  data : ∀ r ∈ m.records, r.data.IsWritable

/-- No message is too large to be written. -/
lemma exists_write_iff (m : Message) : (∃ octets, m.write = .ok octets) ↔ m.IsWritable := by
  have hquestion (q : Question) := q.writesIff_write.exists_ok_iff
  refine (exists_bind_ok_iff (exists_return_ok_iff exists_mapM_ok_iff) fun _ =>
    exists_bind_ok_iff (exists_return_ok_iff exists_mapM_ok_iff) fun _ =>
    exists_bind_ok_iff (exists_return_ok_iff exists_mapM_ok_iff) fun _ =>
    exists_return_ok_iff (exists_return_ok_iff exists_mapM_ok_iff)).trans ?_
  simp only [hquestion, Resource.exists_write_iff, isWritable_iff, names, records, List.map_append,
    List.forall_mem_append, List.forall_mem_map, forall₂_and]
  tauto

end Message

/-! ### Numbers in their places -/

@[simp] lemma length_writeWord (w : UInt16) : (writeWord w).length = 2 := rfl

lemma writeWord_injective : Function.Injective writeWord := by
  intro w w' h
  have hread := readWord_writeWord_append w []
  rw [h, readWord_writeWord_append] at hread
  cases hread
  rfl

/-- The octets of a record, with a number in front of its data that agrees with how many octets
these are. -/
inductive Resource.Framed (agree : Nat → Nat → Prop) (r : Resource) : List UInt8 → Prop where
  | intro {name data : List UInt8} {length : UInt16} (hname : Name.write r.labels = .ok name)
      (hdata : r.data.write = .ok data) (hlength : agree length.toNat data.length) :
      Framed agree r (name ++ writeWord r.recordType.code ++ writeWord r.recordClass.code ++
        writeLong r.ttl ++ writeWord length ++ data)

namespace Message

/-- The header of a message with counts that agree with the sizes of its sections. -/
structure Counted (agree : Nat → Nat → Prop) (m : Message) (h : Header) : Prop where
  id_eq : h.id = m.header.id
  flags_eq : h.flags = m.header.flags
  questions : agree h.questionCount.toNat m.questions.length
  answers : agree h.answerCount.toNat m.answers.length
  authorities : agree h.authorityCount.toNat m.authorities.length
  additional : agree h.additionalCount.toNat m.additional.length

/-- The octets of a message, with numbers in its header and in front of the data of its records that
agree with what they count. -/
inductive Framed (agree : Nat → Nat → Prop) (m : Message) (octets : List UInt8) : Prop where
  | intro {header : Header} {questions answers authorities additional : List UInt8}
      (hoctets : octets = header.write ++ questions ++ answers ++ authorities ++ additional)
      (hcounted : m.Counted agree header)
      (hquestions : InSequence (fun q o => q.write = .ok o) m.questions questions)
      (hanswers : InSequence (Resource.Framed agree) m.answers answers)
      (hauthorities : InSequence (Resource.Framed agree) m.authorities authorities)
      (hadditional : InSequence (Resource.Framed agree) m.additional additional)

/-- What is counted in a message: its sections, and the octets of the data of its records. -/
def sizes (m : Message) : List Nat :=
  [m.questions.length, m.answers.length, m.authorities.length, m.additional.length] ++
    m.records.map fun r => r.data.layout.length

end Message

namespace Resource

variable {r : Resource}

lemma Framed.length_eq (h : r.Framed p octets) (h' : r.Framed q octets') :
    octets.length = octets'.length := by
  cases h with
  | intro hname hdata =>
      cases h' with
      | intro hname' hdata' =>
          cases hname.symm.trans hname'
          cases hdata.symm.trans hdata'
          simp only [List.length_append, length_writeWord]

/-- The number in front of the data is in the same place whatever it is. -/
lemma Framed.and (h : r.Framed p octets) (h' : r.Framed q octets) :
    r.Framed (fun word size => p word size ∧ q word size) octets := by
  generalize hoctets : octets = all at h'
  cases h with
  | @intro name data length hname hdata hlength =>
      cases h' with
      | @intro name' data' length' hname' hdata' hlength' =>
          cases hname.symm.trans hname'
          cases hdata.symm.trans hdata'
          obtain ⟨hfront, -⟩ := List.append_inj' hoctets rfl
          obtain ⟨-, hword⟩ := List.append_inj' hfront rfl
          obtain rfl := writeWord_injective hword
          exact .intro hname hdata ⟨hlength, hlength'⟩

lemma Framed.imp (h : r.Framed p octets)
    (himp : ∀ word, p word r.data.layout.length → q word r.data.layout.length) :
    r.Framed q octets := by
  obtain ⟨hname, hdata, hlength⟩ := h
  obtain ⟨-, rfl⟩ := RecordData.write_eq_ok_iff.1 hdata
  exact .intro hname hdata (himp _ hlength)

lemma Framed.exists_word (h : r.Framed p octets) : ∃ word, p word r.data.layout.length := by
  obtain ⟨-, hdata, hlength⟩ := h
  obtain ⟨-, rfl⟩ := RecordData.write_eq_ok_iff.1 hdata
  exact ⟨_, hlength⟩

/-- The number of octets of the data is written modulo `2 ^ 16`. -/
lemma framed_of_write (h : r.write = .ok octets) :
    r.Framed (fun word size => word = size % 65536) octets := by
  obtain ⟨data, hdata, h⟩ := bind_eq_ok_iff.1 h
  obtain ⟨name, hname, h⟩ := bind_eq_ok_iff.1 h
  cases h
  exact .intro hname hdata UInt16.toNat_ofNat'

end Resource

namespace Message

variable {m : Message}

/-- The counts of a header can be told from its octets. -/
lemma Counted.and {h h' : Header} (hp : m.Counted p h) (hq : m.Counted q h')
    (hwrite : h.write = h'.write) :
    m.Counted (fun word size => p word size ∧ q word size) h := by
  obtain ⟨hwrite, hadditional⟩ := List.append_inj' hwrite rfl
  obtain ⟨hwrite, hauthorities⟩ := List.append_inj' hwrite rfl
  obtain ⟨hwrite, hanswers⟩ := List.append_inj' hwrite rfl
  obtain ⟨-, hquestions⟩ := List.append_inj' hwrite rfl
  exact
    { id_eq := hp.id_eq
      flags_eq := hp.flags_eq
      questions := ⟨hp.questions, writeWord_injective hquestions ▸ hq.questions⟩
      answers := ⟨hp.answers, writeWord_injective hanswers ▸ hq.answers⟩
      authorities := ⟨hp.authorities, writeWord_injective hauthorities ▸ hq.authorities⟩
      additional := ⟨hp.additional, writeWord_injective hadditional ▸ hq.additional⟩ }

lemma Counted.imp {h : Header} (hcounted : m.Counted p h)
    (himp : ∀ size ∈ m.sizes, ∀ word, p word size → q word size) : m.Counted q h where
  id_eq := hcounted.id_eq
  flags_eq := hcounted.flags_eq
  questions := himp _ (by simp [sizes]) _ hcounted.questions
  answers := himp _ (by simp [sizes]) _ hcounted.answers
  authorities := himp _ (by simp [sizes]) _ hcounted.authorities
  additional := himp _ (by simp [sizes]) _ hcounted.additional

/-- The records of a section are in the same places whatever the numbers are. -/
lemma append_inj_of_framed {rs : List Resource} {octets octets' rest rest' : List UInt8}
    (h : InSequence (Resource.Framed p) rs octets) (h' : InSequence (Resource.Framed q) rs octets')
    (heq : octets ++ rest = octets' ++ rest') :
    InSequence (Resource.Framed fun word size => p word size ∧ q word size) rs octets ∧
      rest = rest' := by
  have hlength : ∀ (r : Resource) (o o' : List UInt8), r.Framed p o → r.Framed q o' →
      o.length = o'.length := fun _ _ _ => Resource.Framed.length_eq
  obtain ⟨rfl, rfl⟩ := List.append_inj heq (h.length_eq hlength h')
  exact ⟨(h.and hlength h').imp fun r _ o ho => ho.1.and ho.2, rfl⟩

/-- The numbers are in the same places whatever they are. -/
lemma Framed.and (h : m.Framed p octets) (h' : m.Framed q octets) :
    m.Framed (fun word size => p word size ∧ q word size) octets := by
  obtain @⟨header, questions, answers, authorities, additional, heq, hcounted, hquestions, hanswers,
    hauthorities, hadditional⟩ := h
  obtain @⟨header', questions', answers', authorities', additional', heq', hcounted', hquestions',
    hanswers', hauthorities', hadditional'⟩ := h'
  have hparts := heq.symm.trans heq'
  rw [← List.append_nil additional, ← List.append_nil additional'] at hparts
  simp only [List.append_assoc] at hparts
  have hlength : ∀ (q : Question) (o o' : List UInt8), q.write = .ok o → q.write = .ok o' →
      o.length = o'.length := fun q o o' ho ho' => by
    cases ho.symm.trans ho'
    rfl
  obtain ⟨hheader, hsections⟩ := List.append_inj hparts (by simp only [Header.length_write])
  obtain ⟨-, hrecords⟩ := List.append_inj hsections (hquestions.length_eq hlength hquestions')
  obtain ⟨hanswers, hothers⟩ := append_inj_of_framed hanswers hanswers' hrecords
  obtain ⟨hauthorities, hlast⟩ := append_inj_of_framed hauthorities hauthorities' hothers
  obtain ⟨hadditional, -⟩ := append_inj_of_framed hadditional hadditional' hlast
  exact .intro heq (hcounted.and hcounted' hheader) hquestions hanswers hauthorities hadditional

lemma Framed.imp (h : m.Framed p octets)
    (himp : ∀ size ∈ m.sizes, ∀ word, p word size → q word size) : m.Framed q octets := by
  obtain ⟨hoctets, hcounted, hquestions, hanswers, hauthorities, hadditional⟩ := h
  have hdata (r : Resource) (hr : r ∈ m.records) (o : List UInt8) (h : r.Framed p o) :
      r.Framed q o :=
    h.imp (himp _ (List.mem_append_right _ (List.mem_map_of_mem hr)))
  simp only [records, List.mem_append] at hdata
  exact .intro hoctets (hcounted.imp himp) hquestions
    (hanswers.imp fun r hr => hdata r (Or.inl (Or.inl hr)))
    (hauthorities.imp fun r hr => hdata r (Or.inl (Or.inr hr)))
    (hadditional.imp fun r hr => hdata r (Or.inr hr))

lemma Framed.exists_word (h : m.Framed p octets) : ∀ size ∈ m.sizes, ∃ word, p word size := by
  obtain ⟨-, hcounted, -, hanswers, hauthorities, hadditional⟩ := h
  have hword (r : Resource) (o : List UInt8) : r.Framed p o → ∃ word, p word r.data.layout.length :=
    Resource.Framed.exists_word
  have hrecords : ∀ r ∈ m.records, ∃ word, p word r.data.layout.length :=
    List.forall_mem_append.2 ⟨List.forall_mem_append.2
      ⟨hanswers.forall_mem hword, hauthorities.forall_mem hword⟩, hadditional.forall_mem hword⟩
  simp only [sizes, List.forall_mem_append, List.forall_mem_cons, List.forall_mem_map]
  exact ⟨⟨⟨_, hcounted.questions⟩, ⟨_, hcounted.answers⟩, ⟨_, hcounted.authorities⟩,
    ⟨_, hcounted.additional⟩, List.forall_mem_nil _⟩, hrecords⟩

/-- What is written of a message has all sizes modulo `2 ^ 16`. -/
lemma framed_of_write (h : m.write = .ok octets) :
    m.Framed (fun word size => word = size % 65536) octets := by
  obtain ⟨questions, hquestions, h⟩ := bind_eq_ok_iff.1 h
  obtain ⟨answers, hanswers, h⟩ := bind_eq_ok_iff.1 h
  obtain ⟨authorities, hauthorities, h⟩ := bind_eq_ok_iff.1 h
  obtain ⟨additional, hadditional, h⟩ := bind_eq_ok_iff.1 h
  cases h
  have hframed {rs : List Resource} {octets : List UInt8}
      (h : writeAll Resource.write rs = .ok octets) :
      InSequence (Resource.Framed fun word size => word = size % 65536) rs octets :=
    (InSequence.of_writeAll h).imp fun _ _ _ => Resource.framed_of_write
  exact .intro rfl
    ⟨rfl, rfl, UInt16.toNat_ofNat', UInt16.toNat_ofNat', UInt16.toNat_ofNat', UInt16.toNat_ofNat'⟩
    (.of_writeAll hquestions) (hframed hanswers) (hframed hauthorities) (hframed hadditional)

/-- The numbers that are written.

Writing fails only if a label or a character-string is too long, and never because of a size.  The
numbers in what is written agree with the sizes, in whatever sense, if the sizes modulo `2 ^ 16` do.
In particular they are the sizes exactly if each size is less than `2 ^ 16`. -/
theorem framed_iff_of_write (m : Message) :
    ((∃ octets, m.write = .ok octets) ↔ m.IsWritable) ∧
    ∀ octets, m.write = .ok octets →
      (∀ agree, m.Framed agree octets ↔ ∀ size ∈ m.sizes, agree (size % 65536) size) ∧
      (m.Framed (· = ·) octets ↔ ∀ size ∈ m.sizes, size < 65536) := by
  refine ⟨exists_write_iff m, fun octets h => ?_⟩
  have hagree (agree : Nat → Nat → Prop) :
      m.Framed agree octets ↔ ∀ size ∈ m.sizes, agree (size % 65536) size := by
    have hwritten := framed_of_write h
    constructor
    · intro hframed size hsize
      obtain ⟨word, rfl, hword⟩ := (hwritten.and hframed).exists_word size hsize
      exact hword
    · intro hsizes
      refine hwritten.imp fun size hsize word hword => ?_
      rw [hword]
      exact hsizes size hsize
  refine ⟨hagree, (hagree _).trans (forall₂_congr fun size _ => ?_)⟩
  exact Nat.mod_eq_iff_lt (by decide)

/-- A text of 65280 bytes is too long by one, as each of its 256 strings has an octet for its
length. -/
example (domain text : String) (h : text.utf8ByteSize = 65280) :
    ({ answers := [.txt domain 0 text] } : Message).sizes = [0, 1, 0, 0, 65536] := by
  simp only [sizes, records, List.append_nil, List.map_cons, List.map_nil,
    Resource.length_layout_txt, h]
  rfl

/-- A message with one record, whose data are the given number of octets. -/
def ofDataSize (size : Nat) : Message where
  answers := [{ labels := ["e"], recordType := .a, data := .raw (List.replicate size 0) }]

lemma sizes_ofDataSize (size : Nat) : (ofDataSize size).sizes = [0, 1, 0, 0, size] := by
  simp [sizes, ofDataSize, records, RecordData.layout]

lemma isWritable_ofDataSize (size : Nat) : (ofDataSize size).IsWritable where
  names := by
    change ∀ labels ∈ [["e"]], Name.IsWritable labels
    simp only [List.forall_mem_singleton, Name.IsWritable]
    decide +kernel
  data := by
    intro r hr
    obtain rfl := List.mem_singleton.1 hr
    trivial

/-- There is a place for the length of these data. -/
theorem framed_iff_of_write_65535 :
    ∃ octets, (ofDataSize 65535).write = .ok octets ∧ (ofDataSize 65535).Framed (· = ·) octets := by
  obtain ⟨hwrite, hframed⟩ := framed_iff_of_write (ofDataSize 65535)
  obtain ⟨octets, hoctets⟩ := hwrite.2 (isWritable_ofDataSize 65535)
  refine ⟨octets, hoctets, (hframed octets hoctets).2.2 ?_⟩
  rw [sizes_ofDataSize]
  decide

/-- There is none for the length of one octet more, but the message is written all the same. -/
theorem not_framed_of_write_65536 :
    ∃ octets, (ofDataSize 65536).write = .ok octets ∧
      ¬ (ofDataSize 65536).Framed (· = ·) octets := by
  obtain ⟨octets, hoctets⟩ := (exists_write_iff _).2 (isWritable_ofDataSize 65536)
  refine ⟨octets, hoctets, fun hframed => ?_⟩
  have hmem : 65536 ∈ (ofDataSize 65536).sizes := by
    rw [sizes_ofDataSize]
    decide
  obtain ⟨word, hword, hsize⟩ := ((framed_of_write hoctets).and hframed).exists_word _ hmem
  omega

end Message

end Dns

end SenderPolicy
