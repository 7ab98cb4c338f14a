/-
Texts survive a message.

A message is not always read back as it was: a name loses its empty labels, and a number among the
flags the bits that the word of the flags has no place for.  What is left of it is
`Dns.Message.plain`.  It is written with the same octets, and if it fits it is read back from them.

The TXT record of a text has the octets of the text, cut into character-strings without regard to
its characters.  The strings are joined before they are read as a text, so a response gives back the
texts that were put into it, as long as their records fit.  There are as many strings as the rule on
the length of a record says.
-/
import SenderPolicy.Proofs.Dns.Message
import SenderPolicy.Rules

namespace SenderPolicy

/-- The issue on the length of a record comes last. -/
lemma Rules.getLast?_check {record : String} (h : 255 < record.utf8ByteSize) (terms : List Term) :
    (check record terms).getLast? =
      some (.warning ("Record is " ++ toString record.utf8ByteSize ++
        " characters long; DNS will split it into " ++ toString (record.utf8ByteSize ⌈/⌉ 255) ++
        " strings of at most 255 bytes")) := by
  have hlong : record.utf8ByteSize > maxStringLength := h
  have hneeded : record.utf8ByteSize ⌈/⌉ 255 = stringsNeeded record.utf8ByteSize :=
    Nat.ceilDiv_eq_add_pred_div _ _
  have hend : " strings of at most 255 bytes" =
      " strings of at most " ++ (toString maxStringLength ++ " bytes") := by decide +kernel
  rw [check, lengthIssue, if_pos hlong, hneeded, hend, ← String.append_assoc, ← String.append_assoc]
  exact List.getLast?_concat

namespace Dns

open Text

/-! ### What is left of a message -/

/-- The question without empty labels. -/
def Question.plain (q : Question) : Question := { q with labels := q.labels.filter (· ≠ "") }

/-- The record without empty labels. -/
def Resource.plain (r : Resource) : Resource := { r with labels := r.labels.filter (· ≠ "") }

/-- The message without empty labels, and with no more of its flags than their word has. -/
def Message.plain (m : Message) : Message where
  header := { m.header with flags := .ofWord m.header.flags.toWord }
  questions := m.questions.map Question.plain
  answers := m.answers.map Resource.plain
  authorities := m.authorities.map Resource.plain
  additional := m.additional.map Resource.plain

lemma Question.write_plain (q : Question) : q.plain.write = q.write := by
  simp only [write, plain, Name.write_filter_ne_empty]

lemma Resource.write_plain (r : Resource) : r.plain.write = r.write := by
  simp only [write, plain, Name.write_filter_ne_empty]

namespace Message

lemma writeAll_map {α : Type} {write : α → Except WireError (List UInt8)} {f : α → α}
    (h : ∀ a, write (f a) = write a) (parts : List α) :
    writeAll write (parts.map f) = writeAll write parts := by
  simp only [writeAll, List.mapM_map, Function.comp_def, h]

lemma countedHeader_write_plain (m : Message) :
    m.plain.countedHeader.write = m.countedHeader.write := by
  simp only [countedHeader, plain, Header.write, Flags.toWord_ofWord, List.length_map]

/-- What is left of a message is written with the same octets. -/
lemma write_plain (m : Message) : m.plain.write = m.write := by
  rw [write, write, countedHeader_write_plain]
  simp only [plain, writeAll_map Question.write_plain, writeAll_map Resource.write_plain]

/-- What is left of a message is read back if it fits. -/
lemma exists_write_and_read_plain {m : Message} (h : m.plain.Fits) :
    ∃ octets, m.write = .ok octets ∧
      read octets = .ok { m.plain with header := m.plain.countedHeader } :=
  ⟨_, (write_plain m).symm.trans (write_eq h), (writtenAs_plainOctets h).read_eq h⟩

end Message

/-! ### Texts -/

/-- A text that is published under a domain. -/
structure Publication where
  domain : String
  /-- How many seconds the record may be kept. -/
  ttl : UInt32
  text : String

namespace Publication

/-- The record of a published text. -/
def record (p : Publication) : Resource := .txt p.domain p.ttl p.text

/-- A published text whose record can be written: no component of the domain is too long, and the
strings of the text have room for their lengths too. -/
structure Fits (p : Publication) : Prop where
  component_le : ∀ c ∈ Name.components p.domain, c.utf8ByteSize ≤ 63
  text_le : p.text.utf8ByteSize + p.text.utf8ByteSize ⌈/⌉ 255 ≤ 65535

lemma text?_record (p : Publication) : p.record.text? = some p.text :=
  congrArg some (CharacterString.join_chunks_encode p.text)

/-- The record of a text fits if the text and the lengths of its strings do. -/
lemma Fits.plain_record {p : Publication} (h : p.Fits) : p.record.plain.Fits where
  labels := by
    intro label hlabel
    obtain ⟨hcomponent, hne⟩ := List.mem_filter.1 hlabel
    refine ⟨of_decide_eq_true hne, ?_⟩
    rw [Utf8.length_encode]
    exact h.component_le label hcomponent
  recordType := (by decide : RecordType.txt.IsCanonical)
  recordClass := (by decide : RecordClass.internet.IsCanonical)
  data := .txt fun s hs => (CharacterString.length_of_mem_chunks hs).2
  length_lt := by
    change (Resource.txt p.domain p.ttl p.text).data.layout.length < 65536
    rw [Resource.length_layout_txt]
    exact Nat.lt_succ_of_le h.text_le

end Publication

namespace Message

/-- A message with published texts for its answers fits if these do and the rest of it does. -/
lemma fits_plain_of_publications {m : Message} {ps : List Publication}
    (hrest : ({ m with answers := [] } : Message).plain.Fits) (hlength : ps.length ≤ 65535)
    (hfits : ∀ p ∈ ps, p.Fits) :
    ({ m with answers := ps.map Publication.record } : Message).plain.Fits where
  flags := hrest.flags
  questions := hrest.questions
  answers := by
    intro r hr
    obtain ⟨_, hmem, rfl⟩ := List.mem_map.1 hr
    obtain ⟨p, hp, rfl⟩ := List.mem_map.1 hmem
    exact (hfits p hp).plain_record
  authorities := hrest.authorities
  additional := hrest.additional
  questions_lt := hrest.questions_lt
  answers_lt := by
    simp only [plain, List.length_map]
    omega
  authorities_lt := hrest.authorities_lt
  additional_lt := hrest.additional_lt

lemma txtRecords_of_publications {m : Message} {ps : List Publication}
    (h : m.answers = (ps.map Publication.record).map Resource.plain) :
    m.txtRecords = ps.map Publication.text := by
  have htext : ∀ p : Publication, p.record.plain.text? = some p.text := Publication.text?_record
  rw [txtRecords, h, List.filter_eq_self.2, List.filterMap_map, List.filterMap_map]
  · simp only [Function.comp_def, htext]
    exact congrFun List.filterMap_eq_map ps
  · intro r hr
    obtain ⟨_, hmem, rfl⟩ := List.mem_map.1 hr
    obtain ⟨p, -, rfl⟩ := List.mem_map.1 hmem
    rfl

end Message

/-- The texts of a response, and the strings that a text is cut into.

A message whose answers are the records of published texts, and whose other parts can be written, is
written.  What is read from its octets is the message, and it has the texts in order.

The record of any text has as many strings as are needed for its bytes, none of them empty or of
more than 255 octets, and together they are the octets of the text.  If there have to be several,
their number is the one in the issue on the length of a record with this text. -/
theorem txtRecords_of_read_write :
    (∀ (m : Message) (ps : List Publication), ps.length ≤ 65535 → (∀ p ∈ ps, p.Fits) →
      ({ m with answers := [] } : Message).plain.Fits →
      let response := { m with answers := ps.map Publication.record }
      ∃ octets, response.write = .ok octets ∧
        ∃ received, Message.read octets = .ok received ∧
          received = { response.plain with header := response.plain.countedHeader } ∧
          received.txtRecords = ps.map Publication.text) ∧
    ∀ (domain : String) (ttl : UInt32) (text : String),
      ∃ strings, (Resource.txt domain ttl text).data = .txt strings ∧
        strings.flatten = Utf8.encode text ∧
        strings.length = text.utf8ByteSize ⌈/⌉ 255 ∧
        (∀ s ∈ strings, 1 ≤ s.length ∧ s.length ≤ 255) ∧
        (255 < text.utf8ByteSize → ∀ terms, (Rules.check text terms).getLast? =
          some (.warning ("Record is " ++ toString text.utf8ByteSize ++
            " characters long; DNS will split it into " ++ toString strings.length ++
            " strings of at most 255 bytes"))) := by
  constructor
  · intro m ps hlength hfits hrest response
    obtain ⟨octets, hwrite, hread⟩ :=
      Message.exists_write_and_read_plain (Message.fits_plain_of_publications hrest hlength hfits)
    exact ⟨octets, hwrite, _, hread, rfl, Message.txtRecords_of_publications rfl⟩
  · intro domain ttl text
    have hcount : (CharacterString.chunks (Utf8.encode text)).length =
        text.utf8ByteSize ⌈/⌉ 255 := by
      rw [CharacterString.length_chunks, Utf8.length_encode, CharacterString.maxLength]
    refine ⟨_, rfl, CharacterString.flatten_chunks _, hcount,
      fun s hs => CharacterString.length_of_mem_chunks hs, fun hlong terms => ?_⟩
    rw [hcount]
    exact Rules.getLast?_check hlong terms

/-- A text of 300 bytes, of which the first 255 end within a character. -/
def brokenText : String := String.ofList (List.replicate 150 'é')

/-- A long text under a name with a dot at its end, and an empty text under the root. -/
def twoTexts : List Publication :=
  [{ domain := "example.com.", ttl := 300, text := brokenText },
    { domain := "", ttl := 0, text := "" }]

/-- The question for the texts, asked with an empty label and a number that is no opcode. -/
def untidy : Message where
  header := { id := 7, flags := { response := true, opcode := 200 } }
  questions := [{ labels := ["example", "com", ""] }]

lemma fits_twoTexts : ∀ p ∈ twoTexts, p.Fits := by
  rintro p hp
  simp only [twoTexts, List.mem_cons, List.not_mem_nil, or_false] at hp
  rcases hp with rfl | rfl
  · exact ⟨by decide +kernel, by decide +kernel⟩
  · exact ⟨by decide +kernel, by decide +kernel⟩

lemma fits_plain_untidy : untidy.plain.Fits where
  flags := Flags.fits_ofWord _
  questions := by
    intro q hq
    obtain rfl := List.mem_singleton.1 hq
    refine ⟨fun label hlabel => Message.isLabel_of_mem_sample label ?_, by decide, by decide⟩
    exact List.mem_cons_of_mem _ hlabel
  answers := List.forall_mem_nil _
  authorities := List.forall_mem_nil _
  additional := List.forall_mem_nil _
  questions_lt := by decide
  answers_lt := by decide
  authorities_lt := by decide
  additional_lt := by decide

/-- The long text comes back although a character of it stands in two strings. -/
theorem txtRecords_of_read_write_twoTexts :
    twoTexts.length ≤ 65535 ∧ (∀ p ∈ twoTexts, p.Fits) ∧ untidy.plain.Fits ∧
    (∃ octets received,
      ({ untidy with answers := twoTexts.map Publication.record } : Message).write = .ok octets ∧
        Message.read octets = .ok received ∧ received.txtRecords = [brokenText, ""]) ∧
    255 < brokenText.utf8ByteSize ∧
    (Rules.check brokenText []).getLast? = some (.warning
      "Record is 300 characters long; DNS will split it into 2 strings of at most 255 bytes") := by
  obtain ⟨hresponses, hrecords⟩ := txtRecords_of_read_write
  have hlong : 255 < brokenText.utf8ByteSize := by decide +kernel
  refine ⟨by decide, fits_twoTexts, fits_plain_untidy, ?_, hlong, ?_⟩
  · obtain ⟨octets, hwrite, received, hread, -, htexts⟩ :=
      hresponses untidy twoTexts (by decide) fits_twoTexts fits_plain_untidy
    exact ⟨octets, received, hwrite, hread, htexts⟩
  · obtain ⟨strings, -, -, hlength, -, hrule⟩ := hrecords "example.com." 300 brokenText
    have hcount : strings.length = 2 := hlength.trans (by decide +kernel)
    rw [hrule hlong [], hcount]
    decide +kernel

end Dns

end SenderPolicy
