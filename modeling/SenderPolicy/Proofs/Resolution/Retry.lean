/-
Answers that were cut short.

A server that has more to say than a datagram can carry cuts its answer short and sets a bit of the
header (`Nameserver.HasCutBit`).  The whole answer is then to be had over a stream.  The bit is
looked at only after the datagram was read as a message, so it depends on the place of the cut
whether the stream is tried.

Reading stops at a record that is not there in full, unless it is an additional one.  So if the cut
is behind the authorities the stream decides, and if it is before them the lookup fails with what is
wrong with the datagram.
-/
import Mathlib.Tactic.Lemma
import SenderPolicy.Proofs.Dns.Truncation
import SenderPolicy.Proofs.Resolution.Nameserver

namespace SenderPolicy

namespace Resolution

namespace Nameserver

open Dns (Message WireError)

variable {s : Nameserver} {query bytes packet : List UInt8} {id : UInt16} {domain : String}
  {m : Message}

/-! ### The bit of the header -/

/-- The header says that the packet was cut short: this is the second lowest bit of the third
octet. -/
def HasCutBit (packet : List UInt8) : Prop := (packet.getD 2 0).toNat / 2 % 2 = 1

instance (packet : List UInt8) : Decidable (HasCutBit packet) :=
  inferInstanceAs (Decidable (_ = _))

lemma hasCutBit_take {n : Nat} (hn : 2 < n) : HasCutBit (bytes.take n) ↔ HasCutBit bytes := by
  rw [HasCutBit, HasCutBit, List.getD_eq_getElem?_getD, List.getElem?_take_of_lt hn,
    List.getD_eq_getElem?_getD]

lemma eq_cons_of_readWord {w : UInt16} {rest : List UInt8}
    (h : Dns.readWord bytes = .ok (w, rest)) :
    ∃ a b, bytes = a :: b :: rest ∧ w = UInt16.ofNat (a.toNat * 256 + b.toNat) := by
  rcases bytes with _ | ⟨a, _ | ⟨b, tail⟩⟩ <;> cases h
  exact ⟨a, b, rfl, rfl⟩

/-- The third octet is the upper half of the word of the flags. -/
lemma truncated_iff_of_readHeader {header : Dns.Header} {rest : List UInt8}
    (h : Dns.Header.read packet = .ok (header, rest)) :
    header.flags.truncated = true ↔ HasCutBit packet := by
  obtain ⟨⟨id, tail⟩, hid, h⟩ := bind_eq_ok_iff.1 h
  obtain ⟨⟨flags, tail'⟩, hflags, h⟩ := bind_eq_ok_iff.1 h
  obtain ⟨a, b, rfl, -⟩ := eq_cons_of_readWord hid
  obtain ⟨c, d, rfl, rfl⟩ := eq_cons_of_readWord hflags
  have hheader : header.flags = .ofWord (UInt16.ofNat (c.toNat * 256 + d.toNat)) := by
    obtain ⟨⟨_, _⟩, -, h⟩ := bind_eq_ok_iff.1 h
    obtain ⟨⟨_, _⟩, -, h⟩ := bind_eq_ok_iff.1 h
    obtain ⟨⟨_, _⟩, -, h⟩ := bind_eq_ok_iff.1 h
    obtain ⟨⟨_, _⟩, -, h⟩ := bind_eq_ok_iff.1 h
    cases h
    rfl
  have hc := c.toNat_lt
  have hd := d.toNat_lt
  have hword : (UInt16.ofNat (c.toNat * 256 + d.toNat)).toNat = c.toNat * 256 + d.toNat :=
    UInt16.toNat_ofNat_of_lt' (by simp only [UInt16.size]; omega)
  have hbit : (c.toNat * 256 + d.toNat) / 512 % 2 = c.toNat / 2 % 2 := by omega
  rw [hheader, Dns.Flags.ofWord]
  simp only [hword, hbit, decide_eq_true_eq]
  rfl

/-- The header of a message that is read says what the bit says. -/
lemma truncated_iff_of_read (h : Message.read packet = .ok m) :
    m.header.flags.truncated = true ↔ HasCutBit packet := by
  rw [Message.read] at h
  split at h
  case isTrue => cases h
  case isFalse =>
      obtain ⟨⟨header, _⟩, hheader, h⟩ := bind_eq_ok_iff.1 h
      obtain ⟨⟨_, _⟩, -, h⟩ := bind_eq_ok_iff.1 h
      obtain ⟨⟨_, _⟩, -, h⟩ := bind_eq_ok_iff.1 h
      obtain ⟨⟨_, _⟩, -, h⟩ := bind_eq_ok_iff.1 h
      cases h
      exact truncated_iff_of_readHeader hheader

/-- A datagram with the bit counts as cut short if it is read. -/
lemma cutShort_iff (hbit : HasCutBit bytes) :
    CutShort (bytes.take receiveBuffer) ↔
      ∃ m, Message.read (bytes.take receiveBuffer) = .ok m := by
  have hbit' : HasCutBit (bytes.take receiveBuffer) := (hasCutBit_take (by decide)).2 hbit
  constructor
  · rintro ⟨m, hread, -⟩
    exact ⟨m, hread⟩
  · rintro ⟨m, hread⟩
    exact ⟨m, hread, (truncated_iff_of_read hread).2 hbit'⟩

/-! ### The second question -/

/-- The stream decides if the datagram was read and has the bit. -/
lemma ask_eq_askStream (harrival : s.receive .datagram query = .octets bytes)
    (hcut : CutShort (bytes.take receiveBuffer)) : s.ask query = s.askStream query := by
  obtain ⟨m, hread, htruncated⟩ := hcut
  rw [ask, askDatagram_eq_ok_iff.2 ⟨bytes, harrival, hread⟩, ok_bind, if_pos htruncated]

/-- The datagram decides if it cannot be read. -/
lemma ask_eq_unreadable {e : WireError} (harrival : s.receive .datagram query = .octets bytes)
    (hread : Message.read (bytes.take receiveBuffer) = .error e) :
    s.ask query = .error (.unreadable ("Failed to parse response: " ++ e.message)) := by
  have hdatagram : s.askDatagram query =
      .error (.unreadable ("Failed to parse response: " ++ e.message)) := by
    simp only [askDatagram, harrival, readResponse, hread]
  rw [ask, hdatagram]
  rfl

lemma stream_mem_transportsUsed_iff (harrival : s.receive .datagram query = .octets bytes)
    (hbit : HasCutBit bytes) :
    .stream ∈ s.transportsUsed query ↔
      (∃ m, Message.read (bytes.take receiveBuffer) = .ok m) ∧
        ∀ e, s.receive .stream query ≠ .failure e := by
  rw [mem_transportsUsed_iff, ← cutShort_iff hbit]
  constructor
  · intro huses
    cases huses with
    | stream harrival' hcut hreached =>
        cases harrival.symm.trans harrival'
        exact ⟨hcut, hreached⟩
  · rintro ⟨hcut, hreached⟩
    exact .stream harrival hcut hreached

/-- Of a message that is cut somewhere something is read just if the cut is behind its front. -/
lemma read_take_plainOctets_iff (h : m.Fits) (n : Nat) :
    (∃ m', Message.read (m.plainOctets.take n) = .ok m') ↔
      (m.frontOctets m.countedHeader.additionalCount).length ≤ n := by
  rw [m.plainOctets_eq]
  constructor
  · rintro ⟨m', hread⟩
    by_contra hlt
    rw [Nat.not_le] at hlt
    obtain ⟨e, he⟩ := h.read_take_frontOctets hlt
    rw [List.take_append_of_le_length (Nat.le_of_lt hlt), he] at hread
    cases hread
  · intro hle
    rw [List.take_append, List.take_of_length_le hle, h.read_frontOctets_append]
    exact ⟨_, rfl⟩

/-- What follows from a datagram that says that it was cut short.

If it is read as a message, the same question is asked over a stream, and what comes there decides.
If it is not, the lookup fails with what is wrong with the datagram, and no stream is opened.  Where
the datagram consists of the first octets of a message that fits, it is read just if these include
everything but the additional records. -/
theorem retries_iff_read (h : (Message.txtQuery id domain).write = .ok query)
    (harrival : s.receive .datagram query = .octets bytes) (hbit : HasCutBit bytes) :
    (∀ m, Message.read (bytes.take receiveBuffer) = .ok m →
      s.resolve id domain = s.askStream query >>= answerOf id ∧
      (.stream ∈ s.transportsUsed query ↔ ∀ e, s.receive .stream query ≠ .failure e)) ∧
    (∀ e, Message.read (bytes.take receiveBuffer) = .error e →
      s.resolve id domain =
        .error (.unreadable ("Failed to parse response: " ++ e.message)) ∧
      .stream ∉ s.transportsUsed query) ∧
    ∀ (m : Message) (front additional : List UInt8) (n : Nat), m.Fits →
      m.write = .ok (front ++ additional) →
      Message.writeAll Dns.Resource.write m.additional = .ok additional →
      bytes.take receiveBuffer = (front ++ additional).take n →
      ((∃ m', Message.read (bytes.take receiveBuffer) = .ok m') ↔ front.length ≤ n) := by
  refine ⟨fun m hread => ⟨?_, ?_⟩, fun e hread => ⟨?_, ?_⟩, ?_⟩
  · rw [resolve_eq h, ask_eq_askStream harrival ((cutShort_iff hbit).2 ⟨m, hread⟩)]
  · rw [stream_mem_transportsUsed_iff harrival hbit]
    exact and_iff_right ⟨m, hread⟩
  · rw [resolve_eq h, ask_eq_unreadable harrival hread]
    rfl
  · rw [stream_mem_transportsUsed_iff harrival hbit]
    rintro ⟨⟨m, hread'⟩, -⟩
    cases hread.symm.trans hread'
  · intro m front additional n hfits hwrite hadditional hpacket
    have hplain : front ++ additional = m.plainOctets :=
      Except.ok.inj (hwrite.symm.trans (Message.write_eq hfits))
    have hrecords : additional = m.additionalOctets :=
      Except.ok.inj (hadditional.symm.trans
        (Message.writeAll_eq fun r hr => Dns.Resource.write_eq (hfits.additional r hr)))
    have hfront : front = m.frontOctets m.countedHeader.additionalCount := by
      rw [m.plainOctets_eq, hrecords] at hplain
      exact List.append_cancel_right hplain
    rw [hpacket, hplain, hfront]
    exact read_take_plainOctets_iff hfits n

/-! ### One message cut in two places -/

section Sample

/-- The extended sample as a server sends it that cuts it short. -/
def shortened : Message :=
  { Message.extendedSample with
    header := { Message.extendedSample.header with
      flags := { Message.extendedSample.header.flags with truncated := true } } }

lemma fits_shortened : shortened.Fits :=
  { Message.fits_extendedSample with flags := ⟨by decide, by decide, by decide⟩ }

/-- A server that keeps the first octets of the message, and has one record to send over a
stream. -/
def clipping (n : Nat) : Nameserver where
  address := "192.0.2.4:53"
  receive transport query :=
    match transport with
    | .datagram => .octets (shortened.plainOctets.take n)
    | .stream => knowing.receive .stream query

/-- The question that the message answers. -/
def ninthQuestion : List UInt8 :=
  [0, 9, 1, 0, 0, 1, 0, 0, 0, 0, 0, 0, 7, 101, 120, 97, 109, 112, 108, 101, 3, 99, 111, 109, 0,
    0, 16, 0, 1]

lemma write_ninthQuestion : (Message.txtQuery 9 "example.com").write = .ok ninthQuestion := rfl

/-- If only the additional record is cut, the stream decides. -/
theorem retries_iff_read_clipping :
    HasCutBit (shortened.plainOctets.take 95) ∧
      (∃ m, Message.read (shortened.plainOctets.take 95) = .ok m) ∧
      .stream ∈ (clipping 95).transportsUsed ninthQuestion ∧
      (clipping 95).resolve 9 "example.com" = .ok ["v=spf1 -all"] := by
  have hbit : HasCutBit (shortened.plainOctets.take 95) := by decide +kernel
  have hanswer : (clipping 95).askStream ninthQuestion >>= answerOf 9 = .ok ["v=spf1 -all"] := by
    decide +kernel
  obtain ⟨hread, -, hcut⟩ := retries_iff_read (s := clipping 95) write_ninthQuestion rfl hbit
  have hpacket : (shortened.plainOctets.take 95).take receiveBuffer =
      shortened.plainOctets.take 95 := by
    rw [List.take_take]
    rfl
  have hwhole : ∃ m,
      Message.read ((shortened.plainOctets.take 95).take receiveBuffer) = .ok m := by
    refine (hcut shortened (shortened.frontOctets shortened.countedHeader.additionalCount)
      shortened.additionalOctets 95 fits_shortened ?_ ?_ hpacket).2 (by decide +kernel)
    · exact Message.write_eq fits_shortened
    · exact Message.writeAll_eq fun r hr => Dns.Resource.write_eq (fits_shortened.additional r hr)
  obtain ⟨m, hm⟩ := hwhole
  obtain ⟨hresolve, hstream⟩ := hread m hm
  obtain ⟨m', hm', -⟩ := bind_eq_ok_iff.1 hanswer
  obtain ⟨length, packet, rest, -, hreceive, -⟩ := askStream_eq_ok_iff.1 hm'
  refine ⟨hbit, ⟨m, hpacket ▸ hm⟩, hstream.2 fun e he => ?_, hresolve.trans hanswer⟩
  cases hreceive.symm.trans he

/-- If an answer is cut, the lookup fails, although the stream has the record. -/
theorem not_retried_clipping :
    (Message.txtQuery 9 "example.com").write = .ok ninthQuestion ∧
      (clipping 50).receive .datagram ninthQuestion = .octets (shortened.plainOctets.take 50) ∧
      Dns.Header.size ≤ (shortened.plainOctets.take 50).length ∧
      HasCutBit (shortened.plainOctets.take 50) ∧
      (clipping 50).askStream ninthQuestion >>= answerOf 9 = .ok ["v=spf1 -all"] ∧
      (clipping 50).transportsUsed ninthQuestion = [.datagram] ∧
      (clipping 50).resolve 9 "example.com" = .error (.unreadable
        "Failed to parse response: Invalid bit stream: failed to fill whole buffer") := by
  refine ⟨write_ninthQuestion, rfl, by decide +kernel, by decide +kernel, by decide +kernel,
    by decide +kernel, by decide +kernel⟩

end Sample

end Nameserver

end Resolution

end SenderPolicy
