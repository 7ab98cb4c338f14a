/-
Writing again what was read.

The labels of a name are read in two ways: those before its first pointer as they come, and the
others at the place where the pointer leads.  In both ways they are spelled, but with different
limits on the length of a label: 63 octets before a pointer, and behind it any number that does not
start a pointer.  What is spelled within a limit is the relation `Dns.Name.Spells`, so the two ways
agree on names whose labels are within both limits (`Dns.Name.read_iff_labelsAt`).

Writing has the first limit.  All else that was read is within the limits of writing, so a message
that was read can be written again exactly if no label behind a pointer is too long.
-/
import SenderPolicy.Proofs.Dns.Message

namespace SenderPolicy

namespace Dns

open Text

variable {α β : Type} {message octets bytes : List UInt8}

/-! ### Names -/

namespace Name

/-- `Spells limit bytes labels ending`: the bytes start with these labels, all of them of at most
`limit` octets, and the labels end in this way. -/
inductive Spells (limit : Nat) : List UInt8 → List String → Ending → Prop where
  | root {rest : List UInt8} : Spells limit (0 :: rest) [] (.root rest)
  | pointer {high : UInt8} {rest : List UInt8} (hhigh : isPointer high = true) :
      Spells limit (high :: rest) [] (.pointer high rest)
  | label {label : String} {labels : List String} {bytes : List UInt8} {ending : Ending}
      (hlabel : IsLabelWithin limit label) (rest : Spells limit bytes labels ending) :
      Spells limit (labelOctets label ++ bytes) (label :: labels) ending

variable {limit limit' hops place : Nat} {short : WireError} {labels : List String}
  {ending : Ending} {rest : List UInt8}

/-- The reader of labels finds what is spelled. -/
lemma spell_eq_ok_iff :
    spell limit short bytes = .ok (labels, ending) ↔ Spells limit bytes labels ending := by
  constructor
  · intro h
    fun_induction spell limit short bytes generalizing labels ending
    case case2 rest =>
        cases h
        exact .root
    case case3 high rest _ hpointer =>
        cases h
        exact .pointer hpointer
    case case7 n rest hzero hpointer hlimit hshort label hlabel ih =>
        obtain ⟨⟨labels, ending⟩, hlabels, hreturn⟩ := bind_eq_ok_iff.1 h
        cases hreturn
        have htake : rest.take n.toNat = Utf8.encode label := Utf8.decode?_eq_some_iff.1 hlabel
        have hlength : (Utf8.encode label).length = n.toNat := by
          rw [← htake, List.length_take_of_le (Nat.le_of_not_lt hshort)]
        have hn : UInt8.ofNat (Utf8.encode label).length = n := by
          rw [hlength, UInt8.ofNat_toNat]
        have hwithin : IsLabelWithin limit label := by
          refine ⟨?_, by omega, ?_⟩
          · rintro rfl
            exact hzero (UInt8.toNat_inj.1 hlength.symm)
          · rw [isPointer_iff] at hpointer
            omega
        -- the length, the label and what follows it are the bytes that were spelled
        have hspells := Spells.label hwithin (ih hlabels)
        rw [labelOctets, hn, ← htake, List.cons_append, List.take_append_drop] at hspells
        exact hspells
    all_goals cases h
  · intro h
    induction h with
    | root => exact spell_root
    | @pointer high rest hhigh => exact spell_pointer hhigh
    | label hlabel _ ih =>
        rw [spell_labelOctets_append hlabel, ih]
        rfl

namespace Spells

lemma within (h : Spells limit bytes labels ending) :
    ∀ label ∈ labels, IsLabelWithin limit label := by
  induction h with
  | root => exact List.forall_mem_nil _
  | pointer hhigh => exact List.forall_mem_nil _
  | label hlabel _ ih => exact List.forall_mem_cons.2 ⟨hlabel, ih⟩

/-- What is spelled within one limit is spelled within any other that its labels are within. -/
lemma of_within (h : Spells limit bytes labels ending)
    (hlabels : ∀ label ∈ labels, IsLabelWithin limit' label) :
    Spells limit' bytes labels ending := by
  induction h with
  | root => exact .root
  | pointer hhigh => exact .pointer hhigh
  | label _ _ ih =>
      obtain ⟨hlabel, hothers⟩ := List.forall_mem_cons.1 hlabels
      exact .label hlabel (ih hothers)

end Spells

/-- The labels at a place end there, or go on where a pointer leads. -/
lemma labelsAt_eq_ok_iff :
    labelsAt message hops place = .ok labels ↔
      (∃ rest, Spells 0xBF (message.drop place) labels (.root rest)) ∨
      ∃ front back high low rest fewer, hops = fewer + 1 ∧
        Spells 0xBF (message.drop place) front (.pointer high (low :: rest)) ∧
        labelsAt message fewer (target high low) = .ok back ∧ labels = front ++ back := by
  constructor
  · intro h
    rw [labelsAt] at h
    obtain ⟨⟨front, ending⟩, hfront, h⟩ := bind_eq_ok_iff.1 h
    rw [spell_eq_ok_iff] at hfront
    cases ending with
    | root rest =>
        cases h
        exact Or.inl ⟨rest, hfront⟩
    | pointer high rest =>
        cases hops with
        | zero => cases h
        | succ fewer =>
            cases rest with
            | nil => cases h
            | cons low rest =>
                obtain ⟨back, hback, h⟩ := bind_eq_ok_iff.1 h
                cases h
                exact Or.inr ⟨front, back, high, low, rest, fewer, rfl, hfront, hback, rfl⟩
  · rintro (⟨rest, hroot⟩ | ⟨front, back, high, low, rest, fewer, rfl, hfront, hback, rfl⟩)
    · rw [labelsAt, spell_eq_ok_iff.2 hroot]
      rfl
    · rw [labelsAt, spell_eq_ok_iff.2 hfront]
      simp only [ok_bind, hback]
      rfl

/-- The labels of a name end in place, or go on where a pointer leads. -/
lemma read_eq_ok_iff :
    read message bytes = .ok (labels, rest) ↔
      Spells maxLabelLength bytes labels (.root rest) ∨
      ∃ front back high low,
        Spells maxLabelLength bytes front (.pointer high (low :: rest)) ∧
        labelsAt message maxHops (target high low) = .ok back ∧ labels = front ++ back := by
  constructor
  · intro h
    rw [read] at h
    obtain ⟨⟨front, ending⟩, hfront, h⟩ := bind_eq_ok_iff.1 h
    rw [spell_eq_ok_iff] at hfront
    cases ending with
    | root rest =>
        cases h
        exact Or.inl hfront
    | pointer high rest =>
        cases rest with
        | nil => cases h
        | cons low rest =>
            obtain ⟨back, hback, h⟩ := bind_eq_ok_iff.1 h
            cases h
            exact Or.inr ⟨front, back, high, low, hfront, hback, rfl⟩
  · rintro (hroot | ⟨front, back, high, low, hfront, hback, rfl⟩)
    · rw [read, spell_eq_ok_iff.2 hroot]
      rfl
    · rw [read, spell_eq_ok_iff.2 hfront]
      simp only [ok_bind, hback]
      rfl

/-- The two ways of reading a name agree if all its labels can be written. -/
theorem read_iff_labelsAt (h : ∀ label ∈ labels, IsLabel label) :
    (∃ rest, read message (message.drop place) = .ok (labels, rest)) ↔
      labelsAt message (maxHops + 1) place = .ok labels := by
  have hlimit : maxLabelLength ≤ 0xBF := by decide
  rw [labelsAt_eq_ok_iff]
  constructor
  · rintro ⟨rest, hread⟩
    rcases read_eq_ok_iff.1 hread with hroot | ⟨front, back, high, low, hfront, hback, rfl⟩
    · exact Or.inl ⟨rest, hroot.of_within fun label hlabel => (h label hlabel).within hlimit⟩
    · refine Or.inr ⟨front, back, high, low, rest, maxHops, rfl, hfront.of_within ?_, hback, rfl⟩
      exact fun label hlabel => (h label (List.mem_append_left _ hlabel)).within hlimit
  · rintro (⟨rest, hroot⟩ | ⟨front, back, high, low, rest, fewer, hfewer, hfront, hback, rfl⟩)
    · refine ⟨rest, read_eq_ok_iff.2 (Or.inl (hroot.of_within fun label hlabel => ?_))⟩
      exact (h label hlabel).within (Nat.le_refl maxLabelLength)
    · cases hfewer
      refine ⟨rest, read_eq_ok_iff.2 (Or.inr
        ⟨front, back, high, low, hfront.of_within fun label hlabel => ?_, hback, rfl⟩)⟩
      exact (h label (List.mem_append_left _ hlabel)).within (Nat.le_refl maxLabelLength)

/-- No label that is found through a pointer is longer than 191 octets, as a greater length would
start a pointer. -/
lemma labelsAt_within (h : labelsAt message hops place = .ok labels) :
    ∀ label ∈ labels, IsLabelWithin 0xBF label := by
  -- the labels behind the next pointer are found with one pointer less to follow
  induction hops generalizing place labels with
  | zero =>
      rcases labelsAt_eq_ok_iff.1 h with ⟨rest, hroot⟩ | ⟨_, _, _, _, _, _, hfewer, -⟩
      · exact hroot.within
      · cases hfewer
  | succ hops ih =>
      rcases labelsAt_eq_ok_iff.1 h with
        ⟨rest, hroot⟩ | ⟨front, back, high, low, rest, fewer, hfewer, hfront, hback, rfl⟩
      · exact hroot.within
      · cases hfewer
        exact List.forall_mem_append.2 ⟨hfront.within, ih hback⟩

lemma target_lt (high low : UInt8) : target high low < 16384 := by
  have hlow := low.toNat_lt
  rw [target]
  omega

/-- The labels of a name in the message: those before its first pointer, and those that are found
where the pointer leads. -/
inductive ReadFrom (message : List UInt8) : List String → Prop where
  | plain {labels : List String} (hlabels : ∀ label ∈ labels, IsLabel label) :
      ReadFrom message labels
  | pointer {front back : List String} {place : Nat} (hfront : ∀ label ∈ front, IsLabel label)
      (hplace : place < 16384) (hback : labelsAt message maxHops place = .ok back) :
      ReadFrom message (front ++ back)

lemma Spells.isLabel (h : Spells maxLabelLength bytes labels ending) :
    ∀ label ∈ labels, IsLabel label := fun label hlabel =>
  ⟨(h.within label hlabel).ne_empty, (h.within label hlabel).length_le⟩

lemma readFrom_of_read (h : read message bytes = .ok (labels, rest)) : ReadFrom message labels := by
  rcases read_eq_ok_iff.1 h with hroot | ⟨front, back, high, low, hfront, hback, rfl⟩
  · exact .plain hroot.isLabel
  · exact .pointer hfront.isLabel (target_lt high low) hback

lemma ReadFrom.within (h : ReadFrom message labels) :
    ∀ label ∈ labels, IsLabelWithin 0xBF label := by
  have hlimit : maxLabelLength ≤ 0xBF := by decide
  cases h with
  | plain hlabels => exact fun label hlabel => (hlabels label hlabel).within hlimit
  | pointer hfront _ hback =>
      exact List.forall_mem_append.2
        ⟨fun label hlabel => (hfront label hlabel).within hlimit, labelsAt_within hback⟩

end Name

/-! ### Parts of a message -/

/-- Everything that the reader gives has the property. -/
def Yields (read : Reader α) (p : α → Prop) : Prop :=
  ∀ ⦃bytes a rest⦄, read bytes = .ok (a, rest) → p a

namespace Yields

variable {read : Reader α} {p : α → Prop} {n : Nat} {a : α} {as : List α} {rest : List UInt8}

lemma many (h : Yields read p) (n : Nat) : Yields (readMany read n) fun as => ∀ a ∈ as, p a := by
  induction n with
  | zero =>
      intro bytes as rest has
      cases has
      exact List.forall_mem_nil _
  | succ n ih =>
      intro bytes as rest has
      obtain ⟨⟨a, middle⟩, ha, has⟩ := bind_eq_ok_iff.1 has
      obtain ⟨⟨others, rest⟩, hothers, has⟩ := bind_eq_ok_iff.1 has
      cases has
      exact List.forall_mem_cons.2 ⟨h ha, ih hothers⟩

lemma upTo (h : Yields read p) (n : Nat) (bytes : List UInt8) :
    ∀ a ∈ readUpTo read n bytes, p a := by
  induction n generalizing bytes with
  | zero => exact List.forall_mem_nil _
  | succ n ih =>
      rw [readUpTo]
      split
      case h_1 a rest ha => exact List.forall_mem_cons.2 ⟨h ha, ih rest⟩
      case h_2 => exact List.forall_mem_nil _

end Yields

/-- A question as a message can have it. -/
structure Question.ReadFrom (message : List UInt8) (q : Question) : Prop where
  labels : Name.ReadFrom message q.labels
  recordType : q.recordType.IsCanonical
  recordClass : q.recordClass.IsCanonical

/-- A record as a message can have it: its type says of which kind its data are, and their length
stands in a word of two octets. -/
structure Resource.ReadFrom (message : List UInt8) (r : Resource) : Prop where
  labels : Name.ReadFrom message r.labels
  recordType : r.recordType.IsCanonical
  recordClass : r.recordClass.IsCanonical
  data : r.data.Fits r.recordType
  length_lt : r.data.layout.length < 65536

lemma Question.yields (message : List UInt8) : Yields (read message) (ReadFrom message) := by
  intro bytes q rest h
  obtain ⟨⟨labels, bytes⟩, hlabels, h⟩ := bind_eq_ok_iff.1 h
  obtain ⟨⟨typeCode, bytes⟩, -, h⟩ := bind_eq_ok_iff.1 h
  obtain ⟨⟨classCode, bytes⟩, -, h⟩ := bind_eq_ok_iff.1 h
  cases h
  exact
    { labels := Name.readFrom_of_read hlabels
      recordType := congrArg RecordType.ofCode (RecordType.code_ofCode typeCode)
      recordClass := congrArg RecordClass.ofCode (RecordClass.code_ofCode classCode) }

/-- The data of a record are those of its octets. -/
lemma RecordData.fits_of_ofOctets {recordType : RecordType} {data : RecordData}
    (h : ofOctets recordType octets = .ok data) :
    data.Fits recordType ∧ data.layout = octets := by
  by_cases htype : recordType = .txt
  · rw [htype, ofOctets] at h
    obtain ⟨strings, hstrings, rfl⟩ := map_eq_ok_iff.1 h
    obtain ⟨hoctets, hlengths⟩ := CharacterString.stringOctets_of_read hstrings
    rw [htype]
    exact ⟨.txt hlengths, hoctets⟩
  · rw [ofOctets_of_ne_txt htype] at h
    cases h
    split
    case isTrue hempty => exact ⟨.empty htype, hempty.symm⟩
    case isFalse hne => exact ⟨.raw htype hne, rfl⟩

/-- As many octets are read as there should be. -/
lemma length_of_readOctets {n : Nat} {rest : List UInt8}
    (h : readOctets n bytes = .ok (octets, rest)) : octets.length = n := by
  rw [readOctets] at h
  split at h
  case isTrue hle =>
      cases h
      exact List.length_take_of_le hle
  case isFalse => cases h

lemma Resource.yields (message : List UInt8) : Yields (read message) (ReadFrom message) := by
  intro bytes r rest h
  obtain ⟨⟨labels, bytes⟩, hlabels, h⟩ := bind_eq_ok_iff.1 h
  obtain ⟨⟨typeCode, bytes⟩, -, h⟩ := bind_eq_ok_iff.1 h
  obtain ⟨⟨classCode, bytes⟩, -, h⟩ := bind_eq_ok_iff.1 h
  obtain ⟨⟨ttl, bytes⟩, -, h⟩ := bind_eq_ok_iff.1 h
  obtain ⟨⟨length, bytes⟩, -, h⟩ := bind_eq_ok_iff.1 h
  obtain ⟨⟨octets, bytes⟩, hoctets, h⟩ := bind_eq_ok_iff.1 h
  obtain ⟨data, hdata, h⟩ := bind_eq_ok_iff.1 h
  cases h
  obtain ⟨hfits, hlayout⟩ := RecordData.fits_of_ofOctets hdata
  exact
    { labels := Name.readFrom_of_read hlabels
      recordType := congrArg RecordType.ofCode (RecordType.code_ofCode typeCode)
      recordClass := congrArg RecordClass.ofCode (RecordClass.code_ofCode classCode)
      data := hfits
      length_lt := by
        rw [hlayout, length_of_readOctets hoctets]
        exact length.toNat_lt }

/-! ### Writing -/

/-- Writing gives octets exactly if the condition holds; otherwise it finds an invalid label. -/
structure WritesIff (written : Except WireError α) (condition : Prop) : Prop where
  ok : condition → ∃ a, written = .ok a
  error : ¬ condition → written = .error .invalidLabel

namespace WritesIff

variable {x : Except WireError α} {f : α → Except WireError β} {p q : Prop}

lemma pure (a : α) : WritesIff (Pure.pure a : Except WireError α) True where
  ok _ := ⟨a, rfl⟩
  error h := absurd trivial h

lemma of_ok {a : α} (h : x = .ok a) : WritesIff x True where
  ok _ := ⟨a, h⟩
  error h := absurd trivial h

lemma bind (hx : WritesIff x p) (hf : ∀ a, WritesIff (f a) q) : WritesIff (x >>= f) (p ∧ q) where
  ok := by
    rintro ⟨hp, hq⟩
    obtain ⟨a, rfl⟩ := hx.ok hp
    exact (hf a).ok hq
  error h := by
    by_cases hp : p
    · obtain ⟨a, rfl⟩ := hx.ok hp
      exact (hf a).error fun hq => h ⟨hp, hq⟩
    · rw [hx.error hp]
      rfl

lemma map (hx : WritesIff x p) (g : α → β) : WritesIff (x >>= fun a => Pure.pure (g a)) p where
  ok hp := by
    obtain ⟨a, rfl⟩ := hx.ok hp
    exact ⟨g a, rfl⟩
  error hp := by
    rw [hx.error hp]
    rfl

lemma congr (h : WritesIff x p) (hpq : p ↔ q) : WritesIff x q := by
  rwa [propext hpq] at h

lemma mapM {write : α → Except WireError β} {p : α → Prop} {as : List α}
    (h : ∀ a ∈ as, WritesIff (write a) (p a)) : WritesIff (as.mapM write) (∀ a ∈ as, p a) := by
  induction as with
  | nil => exact (pure []).congr (by simp)
  | cons a as ih =>
      obtain ⟨ha, has⟩ := List.forall_mem_cons.1 h
      rw [List.mapM_cons]
      exact (ha.bind fun b => (ih has).map (b :: ·)).congr (by simp)

end WritesIff

namespace Name

/-- None of the labels is too long to be written. -/
def IsWritable (labels : List String) : Prop :=
  ∀ label ∈ labels, (Utf8.encode label).length ≤ maxLabelLength

lemma writesIff_writeLabel (label : String) :
    WritesIff (writeLabel label) ((Utf8.encode label).length ≤ maxLabelLength) where
  ok h := ⟨_, by rw [writeLabel, if_neg (Nat.not_lt_of_le h)]⟩
  error h := by rw [writeLabel, if_pos (Nat.lt_of_not_le h)]

/-- Empty labels are left out, and these are short. -/
lemma writesIff_write (labels : List String) : WritesIff (write labels) (IsWritable labels) := by
  induction labels with
  | nil => exact (WritesIff.pure [0]).congr (by simp [IsWritable])
  | cons label labels ih =>
      rw [write, IsWritable, List.forall_mem_cons, ← IsWritable]
      split
      case isTrue hempty =>
          have hlength : (Utf8.encode label).length ≤ maxLabelLength := by
            rw [hempty]
            decide
          exact ih.congr (and_iff_right hlength).symm
      case isFalse =>
          exact (writesIff_writeLabel label).bind fun front => ih.map (front ++ ·)

end Name

lemma Question.writesIff_write (q : Question) : WritesIff q.write (Name.IsWritable q.labels) :=
  (Name.writesIff_write q.labels).map _

lemma Resource.writesIff_write {r : Resource} (h : ∃ written, r.data.write = .ok written) :
    WritesIff r.write (Name.IsWritable r.labels) := by
  obtain ⟨written, hdata⟩ := h
  exact ((WritesIff.of_ok hdata).bind fun _ => (Name.writesIff_write r.labels).map _).congr
    (by simp)

namespace Message

/-- The resource records of a message. -/
def records (m : Message) : List Resource := m.answers ++ m.authorities ++ m.additional

/-- The labels of all names of a message. -/
def names (m : Message) : List (List String) :=
  m.questions.map Question.labels ++ m.records.map Resource.labels

variable {m : Message}

lemma writesIff_writeAll {write : α → Except WireError (List UInt8)} {p : α → Prop} {parts : List α}
    (h : ∀ a ∈ parts, WritesIff (write a) (p a)) :
    WritesIff (writeAll write parts) (∀ a ∈ parts, p a) :=
  (WritesIff.mapM h).map List.flatten

/-- A message is read section by section. -/
lemma sections_of_read (h : read octets = .ok m) :
    ∃ bytes₁ bytes₂ bytes₃ bytes₄, Header.read octets = .ok (m.header, bytes₁) ∧
      readMany (Question.read octets) m.header.questionCount.toNat bytes₁ =
        .ok (m.questions, bytes₂) ∧
      readMany (Resource.read octets) m.header.answerCount.toNat bytes₂ =
        .ok (m.answers, bytes₃) ∧
      readMany (Resource.read octets) m.header.authorityCount.toNat bytes₃ =
        .ok (m.authorities, bytes₄) ∧
      m.additional = readUpTo (Resource.read octets) m.header.additionalCount.toNat bytes₄ := by
  rw [read] at h
  split at h
  case isTrue => cases h
  case isFalse =>
      obtain ⟨⟨header, bytes₁⟩, hheader, h⟩ := bind_eq_ok_iff.1 h
      obtain ⟨⟨questions, bytes₂⟩, hquestions, h⟩ := bind_eq_ok_iff.1 h
      obtain ⟨⟨answers, bytes₃⟩, hanswers, h⟩ := bind_eq_ok_iff.1 h
      obtain ⟨⟨authorities, bytes₄⟩, hauthorities, h⟩ := bind_eq_ok_iff.1 h
      cases h
      rw [readQuestions] at hquestions
      split at hquestions
      case h_2 => cases hquestions
      case h_1 result hresult =>
          cases hquestions
          exact ⟨bytes₁, bytes₂, bytes₃, bytes₄, hheader, hresult, hanswers, hauthorities, rfl⟩

/-- The questions and records of a message that was read are as a message can have them. -/
lemma readFrom_of_read (h : read octets = .ok m) :
    (∀ q ∈ m.questions, q.ReadFrom octets) ∧ ∀ r ∈ m.records, r.ReadFrom octets := by
  obtain ⟨bytes₁, bytes₂, bytes₃, bytes₄, -, hquestions, hanswers, hauthorities, hadditional⟩ :=
    sections_of_read h
  have hrecord := Resource.yields octets
  rw [records, hadditional, List.forall_mem_append, List.forall_mem_append]
  exact ⟨(Question.yields octets).many _ hquestions,
    ⟨hrecord.many _ hanswers, hrecord.many _ hauthorities⟩, hrecord.upTo _ _⟩

/-- The data of all records that were read can be written. -/
lemma parts_of_read (h : read octets = .ok m) :
    (∀ q ∈ m.questions, Name.ReadFrom octets q.labels) ∧
      ∀ r ∈ m.records, Name.ReadFrom octets r.labels ∧ ∃ written, r.data.write = .ok written := by
  obtain ⟨hquestions, hrecords⟩ := readFrom_of_read h
  exact ⟨fun q hq => (hquestions q hq).labels, fun r hr =>
    ⟨(hrecords r hr).labels, _, RecordData.write_eq (hrecords r hr).data⟩⟩

/-- Which messages that were read can be written again.

The labels of each name are those before its first pointer, which can be written, and those that
were found where the pointer leads, which have at most 191 octets.  None is empty.  If all labels
have at most 63 octets the message can be written; if not, writing it finds an invalid label. -/
theorem writesIff_of_read (h : read octets = .ok m) :
    (∀ labels ∈ m.names, Name.ReadFrom octets labels ∧
      ∀ label ∈ labels, label ≠ "" ∧ (Utf8.encode label).length ≤ 191) ∧
    WritesIff m.write (∀ labels ∈ m.names, Name.IsWritable labels) := by
  obtain ⟨hquestions, hrecords⟩ := parts_of_read h
  constructor
  · have hnames : ∀ labels ∈ m.names, Name.ReadFrom octets labels := by
      refine List.forall_mem_append.2 ⟨?_, ?_⟩
      · rw [List.forall_mem_map]
        exact hquestions
      · rw [List.forall_mem_map]
        exact fun r hr => (hrecords r hr).1
    intro labels hlabels
    have hread := hnames labels hlabels
    exact ⟨hread, fun label hlabel =>
      ⟨(hread.within label hlabel).ne_empty, (hread.within label hlabel).length_le⟩⟩
  · have hwrite : ∀ r ∈ m.records, WritesIff r.write (Name.IsWritable r.labels) :=
      fun r hr => Resource.writesIff_write (hrecords r hr).2
    rw [records, List.forall_mem_append, List.forall_mem_append] at hwrite
    obtain ⟨⟨hanswers, hauthorities⟩, hadditional⟩ := hwrite
    have hall : WritesIff m.write (_ ∧ _ ∧ _ ∧ _) :=
      (writesIff_writeAll fun q _ => q.writesIff_write).bind fun _ =>
      (writesIff_writeAll hanswers).bind fun _ =>
      (writesIff_writeAll hauthorities).bind fun _ =>
      (writesIff_writeAll hadditional).map _
    refine hall.congr ?_
    simp only [names, records, List.map_append, List.forall_mem_append, List.forall_mem_map,
      and_assoc]

/-- The sample was read from octets with pointers, and it can be written again. -/
theorem writesIff_of_read_sample :
    ∃ m, read compressedSample = .ok m ∧ ["www", "example", "com"] ∈ m.names ∧
      Name.ReadFrom compressedSample ["www", "example", "com"] ∧
      ∃ written, m.write = .ok written := by
  have hread := writtenAs_compressedSample.read_eq fits_sample
  obtain ⟨hnames, hwrite⟩ := writesIff_of_read hread
  have hwww : ["www", "example", "com"] ∈ names { sample with header := sample.countedHeader } := by
    decide
  refine ⟨_, hread, hwww, (hnames _ hwww).1, hwrite.ok ?_⟩
  intro labels hlabels label hlabel
  refine (isLabel_of_mem_sample label ?_).length_le
  simp only [names, records, sample, List.map_cons, List.map_nil, List.cons_append, List.nil_append,
    List.mem_cons, List.not_mem_nil, or_false] at hlabels
  rcases hlabels with rfl | rfl | rfl
  · exact List.mem_cons_of_mem _ hlabel
  · exact hlabel
  · exact hlabel

/-! ### A label behind a pointer that is too long -/

section Overlong

/-- A text of 64 octets. -/
def overlongLabel : String := String.ofList (List.replicate 64 'a')

/-- A message with one question, on the name of one label that is too long. -/
def overlong : Message where
  header := { questionCount := 1 }
  questions := [{ labels := [overlongLabel] }]

/-- Octets in which the name of the question is a pointer to the place behind the question, where
the label stands. -/
def overlongOctets : List UInt8 :=
  overlong.header.write ++ (Question.layout {} (Name.pointerOctets 18) ++
    Name.plainOctets [overlongLabel])

lemma labelsAt_overlongOctets :
    Name.labelsAt overlongOctets Name.maxHops 18 = .ok [overlongLabel] := by
  have hdrop : overlongOctets.drop 18 = Name.labelOctets overlongLabel ++ [0] := by decide +kernel
  have hlabel : Name.IsLabelWithin 0xBF overlongLabel := by
    refine ⟨?_, ?_, ?_⟩ <;> decide +kernel
  refine Name.labelsAt_eq_ok_iff.2 (Or.inl ⟨[], ?_⟩)
  rw [hdrop]
  exact .label hlabel .root

lemma questionRead_overlongOctets (rest : List UInt8) :
    Question.read overlongOctets (Question.layout {} (Name.pointerOctets 18) ++ rest) =
      .ok ({ labels := [overlongLabel] }, rest) := by
  have hname (rest : List UInt8) : Name.read overlongOctets (Name.pointerOctets 18 ++ rest) =
      .ok ([overlongLabel], rest) :=
    Name.read_eq_ok_iff.2 (Or.inr ⟨[], [overlongLabel], 0xC0, 18, .pointer rfl,
      labelsAt_overlongOctets, rfl⟩)
  simp only [Question.read, Question.layout, List.append_assoc, hname, ok_bind,
    readWord_writeWord_append]
  rfl

/-- The message is read, but its label is too long, so it cannot be written again. -/
theorem read_overlongOctets :
    read overlongOctets = .ok overlong ∧ [overlongLabel] ∈ overlong.names ∧
      (Utf8.encode overlongLabel).length = 64 ∧ overlong.write = .error .invalidLabel := by
  refine ⟨?_, by decide, by decide +kernel, rfl⟩
  have hsize : ¬ overlongOctets.length < Header.size := by decide +kernel
  have hflags : overlong.header.flags.Fits := ⟨by decide, by decide, by decide⟩
  have hquestions : readQuestions overlongOctets overlong.header.questionCount.toNat
      (Question.layout {} (Name.pointerOctets 18) ++ Name.plainOctets [overlongLabel]) =
      .ok ([{ labels := [overlongLabel] }], Name.plainOctets [overlongLabel]) := by
    change readQuestions overlongOctets 1 _ = _
    rw [readQuestions, readMany, questionRead_overlongOctets]
    rfl
  have hheader : Header.read overlongOctets = .ok (overlong.header,
      Question.layout {} (Name.pointerOctets 18) ++ Name.plainOctets [overlongLabel]) :=
    Header.read_write_append hflags _
  rw [read, if_neg hsize, hheader]
  simp only [ok_bind, hquestions]
  rfl

end Overlong

end Message

end Dns

end SenderPolicy
