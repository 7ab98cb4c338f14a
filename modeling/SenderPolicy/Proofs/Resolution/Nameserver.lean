/-
Nameservers asked in turn.

Of what a server sends in answer to a question one packet decides: its datagram, or what it sends
over a stream if its datagram was read and says that it was cut short (`Nameserver.Decides`).  A
server replies if this packet can be read and has the identifier of the question
(`Nameserver.Replies`).  Whether it then has records or an error is up to the response code.

A search ends at the first server that has records or knows that the name does not exist.  Any
other failure leads to the next server, and the last failure is the outcome if there is no next
one.  No server behind the one that ends the search gets anything.
-/
import Mathlib.Control.Monad.Basic
import Mathlib.Tactic.Lemma
import Mathlib.Tactic.SplitIfs
import SenderPolicy.Proofs.Dns.Octets
import SenderPolicy.Resolution.Nameserver

namespace SenderPolicy

namespace Resolution

namespace Nameserver

open Dns (Message)

variable {s : Nameserver} {query bytes packet : List UInt8} {id : UInt16} {domain : String}
  {m : Message}

/-! ### The packet that decides -/

/-- The packet is read, and says that it was cut short. -/
def CutShort (packet : List UInt8) : Prop :=
  ∃ m, Message.read packet = .ok m ∧ m.header.flags.truncated = true

/-- The packet that the answer of a server to a question is read from. -/
inductive Decides (s : Nameserver) (query : List UInt8) : List UInt8 → Prop where
  /-- The datagram, as far as it was received. -/
  | datagram {bytes : List UInt8} (harrival : s.receive .datagram query = .octets bytes)
      (hwhole : ¬ CutShort (bytes.take receiveBuffer)) :
      Decides s query (bytes.take receiveBuffer)
  /-- What comes over a stream behind its length. -/
  | stream {bytes packet rest : List UInt8} {length : UInt16}
      (harrival : s.receive .datagram query = .octets bytes)
      (hcut : CutShort (bytes.take receiveBuffer)) (hlength : packet.length = length.toNat)
      (hstream : s.receive .stream query = .octets (Dns.writeWord length ++ packet ++ rest)) :
      Decides s query packet

/-- A stream carries a packet if this stands behind its length. -/
lemma unframe_eq_ok_iff :
    unframe bytes = .ok packet ↔ ∃ (length : UInt16) (rest : List UInt8),
      packet.length = length.toNat ∧ bytes = Dns.writeWord length ++ packet ++ rest := by
  constructor
  · intro h
    rcases bytes with _ | ⟨a, _ | ⟨b, rest⟩⟩
    · cases h
    · cases h
    have ha := a.toNat_lt
    have hb := b.toNat_lt
    simp only [unframe] at h
    split at h
    · cases h
    cases h
    -- the two octets in front are those of the length
    have hword : (UInt16.ofNat (a.toNat * 256 + b.toNat)).toNat = a.toNat * 256 + b.toNat :=
      UInt16.toNat_ofNat_of_lt' (by simp only [UInt16.size]; omega)
    have hhigh : UInt8.ofNat ((a.toNat * 256 + b.toNat) / 256) = a := by
      rw [show (a.toNat * 256 + b.toNat) / 256 = a.toNat by omega, UInt8.ofNat_toNat]
    have hlow : UInt8.ofNat (a.toNat * 256 + b.toNat) = b := by
      refine UInt8.toNat_inj.1 ?_
      rw [UInt8.toNat_ofNat']
      omega
    refine ⟨UInt16.ofNat (a.toNat * 256 + b.toNat), rest.drop (a.toNat * 256 + b.toNat), ?_, ?_⟩
    · rw [List.length_take, hword]
      omega
    · rw [Dns.writeWord, hword, hhigh, hlow]
      simp
  · rintro ⟨length, rest, hlength, rfl⟩
    have hlt := length.toNat_lt
    have hvalue : length.toNat / 256 % 256 * 256 + length.toNat % 256 = length.toNat := by omega
    simp only [Dns.writeWord, List.cons_append, List.nil_append, unframe, UInt8.toNat_ofNat',
      hvalue, List.length_append]
    rw [if_neg (by omega), List.take_left' hlength]

lemma readResponse_eq_ok_iff : readResponse bytes = .ok m ↔ Message.read bytes = .ok m := by
  rw [readResponse]
  cases Message.read bytes <;> simp

lemma askDatagram_eq_ok_iff :
    s.askDatagram query = .ok m ↔ ∃ bytes, s.receive .datagram query = .octets bytes ∧
      Message.read (bytes.take receiveBuffer) = .ok m := by
  rw [askDatagram]
  cases harrival : s.receive .datagram query with
  | failure e => simp
  | silence => simp
  | octets bytes => simp [readResponse_eq_ok_iff]

lemma askStream_eq_ok_iff :
    s.askStream query = .ok m ↔ ∃ (length : UInt16) (packet rest : List UInt8),
      packet.length = length.toNat ∧
      s.receive .stream query = .octets (Dns.writeWord length ++ packet ++ rest) ∧
      Message.read packet = .ok m := by
  rw [askStream]
  cases harrival : s.receive .stream query with
  | failure e => simp
  | silence => simp
  | octets bytes =>
      simp only [bind_eq_ok_iff, unframe_eq_ok_iff, readResponse_eq_ok_iff, Arrival.octets.injEq]
      constructor
      · rintro ⟨packet, ⟨length, rest, hlength, heq⟩, hread⟩
        exact ⟨length, packet, rest, hlength, heq, hread⟩
      · rintro ⟨length, packet, rest, hlength, heq, hread⟩
        exact ⟨packet, ⟨length, rest, hlength, heq⟩, hread⟩

/-- What a server is understood to say is read from the packet that decides. -/
lemma ask_eq_ok_iff :
    s.ask query = .ok m ↔ ∃ packet, Decides s query packet ∧ Message.read packet = .ok m := by
  rw [ask, bind_eq_ok_iff]
  constructor
  · rintro ⟨response, hresponse, h⟩
    obtain ⟨bytes, harrival, hread⟩ := askDatagram_eq_ok_iff.1 hresponse
    split at h
    case isTrue htruncated =>
        obtain ⟨length, packet, rest, hlength, hstream, hm⟩ := askStream_eq_ok_iff.1 h
        exact ⟨packet, .stream harrival ⟨response, hread, htruncated⟩ hlength hstream, hm⟩
    case isFalse htruncated =>
        cases h
        refine ⟨_, .datagram harrival ?_, hread⟩
        rintro ⟨m', hm', htruncated'⟩
        cases hread.symm.trans hm'
        exact htruncated htruncated'
  · rintro ⟨packet, hdecides, hread⟩
    cases hdecides with
    | datagram harrival hwhole =>
        refine ⟨m, askDatagram_eq_ok_iff.2 ⟨_, harrival, hread⟩, ?_⟩
        rw [if_neg fun htruncated => hwhole ⟨m, hread, htruncated⟩]
        rfl
    | stream harrival hcut hlength hstream =>
        obtain ⟨response, hresponse, htruncated⟩ := hcut
        refine ⟨response, askDatagram_eq_ok_iff.2 ⟨_, harrival, hresponse⟩, ?_⟩
        rw [if_pos htruncated]
        exact askStream_eq_ok_iff.2 ⟨_, _, _, hlength, hstream, hread⟩

/-! ### The reply of a server -/

/-- The packet that decides is read as this message, which has the identifier of the question. -/
structure Replies (s : Nameserver) (id : UInt16) (query : List UInt8) (m : Message) : Prop where
  decides : ∃ packet, Decides s query packet ∧ Message.read packet = .ok m
  id_eq : m.header.id = id

/-- The error that says that the name does not exist. -/
def nonexistent : LookupError := .responseCode 3 "Non-existent domain"

/-- The server has no records, and does not say either that the name does not exist. -/
def Fails (s : Nameserver) (id : UInt16) (domain : String) : Prop :=
  ∃ e, s.resolve id domain = .error e ∧ ∀ text, e ≠ .responseCode 3 text

/-- An error of a socket or of reading, not one that a server reports. -/
def IsLocal (e : LookupError) : Prop :=
  (∃ message, e = .io message) ∨ ∃ message, e = .unreadable message

lemma isLocal_of_readResponse {e : LookupError} (h : readResponse bytes = .error e) :
    IsLocal e := by
  rw [readResponse] at h
  split at h
  · cases h
  · cases h
    exact Or.inr ⟨_, rfl⟩

lemma isLocal_of_unframe {e : LookupError} (h : unframe bytes = .error e) : IsLocal e := by
  rw [unframe.eq_def] at h
  split at h
  · simp only at h
    split at h <;> cases h
    exact Or.inl ⟨_, rfl⟩
  · cases h
    exact Or.inl ⟨_, rfl⟩

lemma isLocal_of_askDatagram {e : LookupError} (h : s.askDatagram query = .error e) :
    IsLocal e := by
  rw [askDatagram] at h
  split at h
  · cases h
    exact Or.inl ⟨_, rfl⟩
  · cases h
    exact Or.inl ⟨_, rfl⟩
  · exact isLocal_of_readResponse h

lemma isLocal_of_askStream {e : LookupError} (h : s.askStream query = .error e) : IsLocal e := by
  rw [askStream] at h
  split at h
  · cases h
    exact Or.inl ⟨_, rfl⟩
  · cases h
    exact Or.inl ⟨_, rfl⟩
  · rename_i bytes _
    cases hpacket : unframe bytes with
    | error e' =>
        rw [hpacket] at h
        cases h
        exact isLocal_of_unframe hpacket
    | ok packet =>
        rw [hpacket] at h
        exact isLocal_of_readResponse h

lemma isLocal_of_ask {e : LookupError} (h : s.ask query = .error e) : IsLocal e := by
  rw [ask] at h
  cases hresponse : s.askDatagram query with
  | error e' =>
      rw [hresponse] at h
      cases h
      exact isLocal_of_askDatagram hresponse
  | ok response =>
      rw [hresponse, ok_bind] at h
      split at h
      · exact isLocal_of_askStream h
      · cases h

lemma queryOctets_eq (h : (Message.txtQuery id domain).write = .ok query) :
    queryOctets id domain = .ok query := by
  rw [queryOctets, h]

lemma resolve_eq (h : (Message.txtQuery id domain).write = .ok query) :
    s.resolve id domain = s.ask query >>= answerOf id := by
  rw [resolve, queryOctets_eq h]
  rfl

lemma answerOf_eq_ok_iff {records : List String} :
    answerOf id m = .ok records ↔
      m.header.id = id ∧ m.header.flags.responseCode = 0 ∧ m.txtRecords = records := by
  rw [answerOf, Dns.ResponseCode.noError]
  by_cases hid : m.header.id = id
  · by_cases hcode : m.header.flags.responseCode = 0 <;> simp [hid, hcode]
  · simp [hid]

lemma answerOf_eq_responseCode_iff {code : UInt8} {text : String} :
    answerOf id m = .error (.responseCode code text) ↔ m.header.id = id ∧ code ≠ 0 ∧
      m.header.flags.responseCode = code ∧ text = Dns.ResponseCode.describe code := by
  rw [answerOf, Dns.ResponseCode.noError]
  by_cases hid : m.header.id = id
  · by_cases hcode : m.header.flags.responseCode = 0
    · rw [if_neg (not_not_intro hid), if_pos hcode, hcode]
      simp only [reduceCtorEq, false_iff]
      rintro ⟨-, hne, rfl, -⟩
      exact hne rfl
    · rw [if_neg (not_not_intro hid), if_neg hcode]
      simp only [Except.error.injEq, LookupError.responseCode.injEq, hid, true_and]
      constructor
      · rintro ⟨rfl, rfl⟩
        exact ⟨hcode, rfl, rfl⟩
      · rintro ⟨-, rfl, rfl⟩
        exact ⟨rfl, rfl⟩
  · simp [hid]

/-- A server has records if it replies without an error. -/
lemma resolve_eq_ok_iff (h : (Message.txtQuery id domain).write = .ok query)
    {records : List String} :
    s.resolve id domain = .ok records ↔ ∃ m, Replies s id query m ∧
      m.header.flags.responseCode = 0 ∧ m.txtRecords = records := by
  rw [resolve_eq h, bind_eq_ok_iff]
  simp only [ask_eq_ok_iff, answerOf_eq_ok_iff]
  constructor
  · rintro ⟨m, hdecides, hid, hanswer⟩
    exact ⟨m, ⟨hdecides, hid⟩, hanswer⟩
  · rintro ⟨m, ⟨hdecides, hid⟩, hanswer⟩
    exact ⟨m, hdecides, hid, hanswer⟩

/-- A server reports an error if it replies with its code. -/
lemma resolve_eq_responseCode_iff (h : (Message.txtQuery id domain).write = .ok query)
    {code : UInt8} {text : String} :
    s.resolve id domain = .error (.responseCode code text) ↔ ∃ m, Replies s id query m ∧
      code ≠ 0 ∧ m.header.flags.responseCode = code ∧
      text = Dns.ResponseCode.describe code := by
  rw [resolve_eq h]
  constructor
  · intro hanswer
    cases hask : s.ask query with
    | error e =>
        rw [hask] at hanswer
        cases hanswer
        rcases isLocal_of_ask hask with ⟨_, heq⟩ | ⟨_, heq⟩ <;> cases heq
    | ok m =>
        rw [hask, ok_bind, answerOf_eq_responseCode_iff] at hanswer
        exact ⟨m, ⟨ask_eq_ok_iff.1 hask, hanswer.1⟩, hanswer.2⟩
  · rintro ⟨m, ⟨hdecides, hid⟩, hcode⟩
    rw [ask_eq_ok_iff.2 hdecides, ok_bind, answerOf_eq_responseCode_iff]
    exact ⟨hid, hcode⟩

/-- A server knows that the name does not exist if it replies with that code. -/
lemma resolve_eq_nonexistent_iff (h : (Message.txtQuery id domain).write = .ok query) :
    s.resolve id domain = .error nonexistent ↔
      ∃ m, Replies s id query m ∧ m.header.flags.responseCode = 3 := by
  rw [nonexistent, resolve_eq_responseCode_iff h]
  constructor
  · rintro ⟨m, hreplies, -, hcode, -⟩
    exact ⟨m, hreplies, hcode⟩
  · rintro ⟨m, hreplies, hcode⟩
    exact ⟨m, hreplies, by decide, hcode, rfl⟩

/-- An answer that is not final is one of a server that fails. -/
lemma isFinal_resolve_eq_false_iff :
    isFinal (s.resolve id domain) = false ↔ Fails s id domain := by
  constructor
  · intro hfinal
    cases hanswer : s.resolve id domain with
    | ok records =>
        rw [hanswer] at hfinal
        cases hfinal
    | error e =>
        refine ⟨e, hanswer, fun text he => ?_⟩
        rw [hanswer, he] at hfinal
        exact absurd hfinal Bool.noConfusion
  · rintro ⟨e, hanswer, hne⟩
    rw [hanswer, isFinal]
    cases e with
    | responseCode code text =>
        refine beq_eq_false_iff_ne.2 fun hcode => hne text ?_
        rw [hcode]
        rfl
    | _ => rfl

/-- A final answer has records or says that the name does not exist. -/
lemma isFinal_resolve_eq_true (h : (Message.txtQuery id domain).write = .ok query)
    (hfinal : isFinal (s.resolve id domain) = true) :
    (∃ records, s.resolve id domain = .ok records) ∨
      s.resolve id domain = .error nonexistent := by
  cases hanswer : s.resolve id domain with
  | ok records => exact Or.inl ⟨records, rfl⟩
  | error e =>
      refine Or.inr ?_
      cases e with
      | responseCode code text =>
          rw [hanswer] at hfinal
          obtain rfl : code = Dns.ResponseCode.nameError := beq_iff_eq.1 hfinal
          -- the text of the error follows from its code
          obtain ⟨m, -, -, -, rfl⟩ := (resolve_eq_responseCode_iff h).1 hanswer
          rfl
      | _ =>
          rw [hanswer] at hfinal
          exact absurd hfinal Bool.false_ne_true

/-! ### Failures without a message -/

/-- What a server can be reported for: a socket error, or no answer. -/
inductive Reported (s : Nameserver) : String → Prop where
  | socket (e : SocketError) : Reported s e.message
  | silence : Reported s ("Upstream " ++ s.address ++ " did not answer in time")

lemma Reported.ne {message : String} (h : s.Reported message) :
    message ≠ "No upstream servers available" := by
  cases h with
  | socket e => cases e <;> decide
  | silence =>
      intro heq
      have htext := congrArg String.toList heq
      rw [String.append_assoc, String.toList_append] at htext
      exact absurd (List.cons.inj htext).1 (by decide)

lemma readResponse_ne_io {message : String} : readResponse bytes ≠ .error (.io message) := by
  rw [readResponse]
  split <;> nofun

lemma reported_of_askDatagram {message : String}
    (h : s.askDatagram query = .error (.io message)) : s.Reported message := by
  rw [askDatagram] at h
  split at h
  · cases h
    exact .socket _
  · cases h
    exact .silence
  · exact absurd h readResponse_ne_io

lemma reported_of_askStream {message : String} (h : s.askStream query = .error (.io message)) :
    s.Reported message := by
  rw [askStream] at h
  split at h
  · cases h
    exact .socket _
  · cases h
    exact .silence
  · rcases bind_eq_error_iff.1 h with h | ⟨packet, -, h⟩
    · rw [unframe.eq_def] at h
      split at h
      · simp only at h
        split at h <;> cases h
        exact .socket _
      · cases h
        exact .socket _
    · exact absurd h readResponse_ne_io

lemma reported_of_ask {message : String} (h : s.ask query = .error (.io message)) :
    s.Reported message := by
  rcases bind_eq_error_iff.1 h with h | ⟨response, -, h⟩
  · exact reported_of_askDatagram h
  · split at h
    · exact reported_of_askStream h
    · cases h

/-- An error that is no fault in a message is one of a socket or of a server that is silent. -/
lemma reported_of_resolve {message : String}
    (h : s.resolve id domain = .error (.io message)) : s.Reported message := by
  rcases bind_eq_error_iff.1 h with h | ⟨query, -, h⟩
  · rw [queryOctets] at h
    split at h <;> cases h
  · rcases bind_eq_error_iff.1 h with h | ⟨response, -, h⟩
    · exact reported_of_ask h
    · rw [answerOf] at h
      split at h
      · cases h
      · split at h <;> cases h

/-- No server has the answer that is given where there is none. -/
lemma resolve_ne_noServers : s.resolve id domain ≠ noServers :=
  fun h => (reported_of_resolve h).ne rfl

/-! ### The search -/

variable {servers : List Nameserver} {ids : Nat → UInt16} {index i : Nat}

/-- A search ends at the first answer that is final, and with the last one if none is. -/
lemma resolveFrom_cases (servers : List Nameserver) (last : TxtAnswer) (index : Nat) :
    (∃ (i : Nat) (s : Nameserver), servers[i]? = some s ∧
      isFinal (s.resolve (ids (index + i)) domain) = true ∧
      (∀ j < i, ∀ t : Nameserver, servers[j]? = some t →
        isFinal (t.resolve (ids (index + j)) domain) = false) ∧
      resolveFrom ids domain last index servers = s.resolve (ids (index + i)) domain) ∨
    ((∀ (j : Nat) (t : Nameserver), servers[j]? = some t →
        isFinal (t.resolve (ids (index + j)) domain) = false) ∧
      (servers = [] ∧ resolveFrom ids domain last index servers = last ∨
        ∃ s : Nameserver, servers.getLast? = some s ∧
          resolveFrom ids domain last index servers =
            s.resolve (ids (index + (servers.length - 1))) domain)) := by
  induction servers generalizing last index with
  | nil => exact Or.inr ⟨by simp, Or.inl ⟨rfl, rfl⟩⟩
  | cons s rest ih =>
      rw [resolveFrom]
      by_cases hfinal : isFinal (s.resolve (ids index) domain) = true
      · refine Or.inl ⟨0, s, rfl, hfinal, fun j hj => absurd hj (Nat.not_lt_zero j), ?_⟩
        rw [if_pos hfinal]
        rfl
      · rw [if_neg hfinal]
        -- a place in the rest is one lower, and its identifier is the same
        have hnext : ∀ j, index + 1 + j = index + (j + 1) := fun j => by omega
        have hfirst : isFinal (s.resolve (ids (index + 0)) domain) = false :=
          Bool.eq_false_iff.2 hfinal
        rcases ih (s.resolve (ids index) domain) (index + 1) with
          ⟨i, t, ht, htfinal, hbefore, hresult⟩ | ⟨hall, hresult⟩
        · refine Or.inl ⟨i + 1, t, by simpa using ht, hnext i ▸ htfinal, fun j hj u hu => ?_,
            hnext i ▸ hresult⟩
          cases j with
          | zero =>
              cases hu
              exact hfirst
          | succ j => exact hnext j ▸ hbefore j (Nat.lt_of_succ_lt_succ hj) u (by simpa using hu)
        · refine Or.inr ⟨fun j u hu => ?_, Or.inr ?_⟩
          · cases j with
            | zero =>
                cases hu
                exact hfirst
            | succ j => exact hnext j ▸ hall j u (by simpa using hu)
          · rcases hresult with ⟨rfl, hresult⟩ | ⟨u, hu, hresult⟩
            · exact ⟨s, rfl, hresult⟩
            · refine ⟨u, by rw [List.getLast?_cons, hu]; rfl, hresult.trans ?_⟩
              have hpos : 0 < rest.length := List.length_pos_of_mem (List.mem_of_getLast? hu)
              congr 2
              rw [List.length_cons]
              omega

/-- What a server gets: the question over each transport that it uses if no answer before is final,
and else nothing. -/
lemma getElem?_contactsFrom {octets : Nat → List UInt8}
    (hoctets : ∀ k, queryOctets (ids k) domain = .ok (octets k)) (index : Nat)
    (hs : servers[i]? = some s) :
    ∃ got, (contactsFrom ids domain index servers)[i]? = some got ∧
      ((∀ j < i, ∀ t : Nameserver, servers[j]? = some t →
          isFinal (t.resolve (ids (index + j)) domain) = false) ∧
        got = (s.transportsUsed (octets (index + i))).map (fun t => (t, octets (index + i))) ∨
      (∃ j < i, ∃ t : Nameserver, servers[j]? = some t ∧
          isFinal (t.resolve (ids (index + j)) domain) = true) ∧ got = []) := by
  induction servers generalizing index i with
  | nil => cases hs
  | cons u rest ih =>
      simp only [contactsFrom, hoctets]
      have hnext : ∀ j, index + 1 + j = index + (j + 1) := fun j => by omega
      cases i with
      | zero =>
          cases hs
          refine ⟨_, ?_, Or.inl ⟨fun j hj => absurd hj (Nat.not_lt_zero j), rfl⟩⟩
          split <;> rfl
      | succ i =>
          have hs' : rest[i]? = some s := by simpa using hs
          by_cases hfinal : isFinal (u.resolve (ids index) domain) = true
          · rw [if_pos hfinal]
            refine ⟨[], ?_, Or.inr ⟨⟨0, Nat.succ_pos i, u, rfl, hfinal⟩, rfl⟩⟩
            rw [List.getElem?_cons_succ, List.getElem?_map, hs']
            rfl
          · rw [if_neg hfinal]
            obtain ⟨got, hgot, hcases⟩ := ih (index + 1) hs'
            refine ⟨got, by rw [List.getElem?_cons_succ, hgot], ?_⟩
            rcases hcases with ⟨hbefore, rfl⟩ | ⟨⟨j, hj, t, ht, htfinal⟩, rfl⟩
            · refine Or.inl ⟨fun j hj t ht => ?_, by rw [hnext]⟩
              cases j with
              | zero =>
                  cases ht
                  exact Bool.eq_false_iff.2 hfinal
              | succ j =>
                  exact hnext j ▸ hbefore j (Nat.lt_of_succ_lt_succ hj) t (by simpa using ht)
            · exact Or.inr ⟨⟨j + 1, Nat.succ_lt_succ hj, t, by simpa using ht,
                hnext j ▸ htfinal⟩, rfl⟩

lemma length_contactsFrom :
    (contactsFrom ids domain index servers).length = servers.length := by
  induction servers generalizing index with
  | nil => rfl
  | cons u rest ih =>
      rw [contactsFrom]
      split
      · rw [List.length_cons, ih, List.length_cons]
      · dsimp only
        split
        · rw [List.length_cons, List.length_map, List.length_cons]
        · rw [List.length_cons, ih, List.length_cons]

/-- A question reaches a server by this transport: always by a datagram if the server can be
reached, and over a stream if its datagram was cut short and the stream is opened. -/
inductive Uses (s : Nameserver) (query : List UInt8) : Transport → Prop where
  | datagram (hreached : ∀ e, s.receive .datagram query ≠ .failure e) : Uses s query .datagram
  | stream {bytes : List UInt8} (harrival : s.receive .datagram query = .octets bytes)
      (hcut : CutShort (bytes.take receiveBuffer))
      (hreached : ∀ e, s.receive .stream query ≠ .failure e) : Uses s query .stream

/-- The datagram is understood, and says that it was cut short. -/
lemma askDatagram_truncated_iff :
    (∃ m, s.askDatagram query = .ok m ∧ m.header.flags.truncated = true) ↔
      ∃ bytes, s.receive .datagram query = .octets bytes ∧
        CutShort (bytes.take receiveBuffer) := by
  simp only [askDatagram_eq_ok_iff]
  constructor
  · rintro ⟨m, ⟨bytes, harrival, hread⟩, htruncated⟩
    exact ⟨bytes, harrival, m, hread, htruncated⟩
  · rintro ⟨bytes, harrival, m, hread, htruncated⟩
    exact ⟨m, ⟨bytes, harrival, hread⟩, htruncated⟩

lemma transportsUsed_sublist : (s.transportsUsed query).Sublist [.datagram, .stream] := by
  rw [transportsUsed]
  dsimp only
  split_ifs <;> decide

lemma mem_transportsUsed_iff {t : Transport} : t ∈ s.transportsUsed query ↔ Uses s query t := by
  have hmem : t ∈ s.transportsUsed query ↔
      (t = .datagram ∧ ∀ e, s.receive .datagram query ≠ .failure e) ∨
      (t = .stream ∧ (∃ m, s.askDatagram query = .ok m ∧ m.header.flags.truncated = true) ∧
        ∀ e, s.receive .stream query ≠ .failure e) := by
    cases hask : s.askDatagram query <;> cases hdatagram : s.receive .datagram query <;>
      cases hstream : s.receive .stream query <;>
      simp [transportsUsed, hask, hdatagram, hstream, and_comm]
  rw [hmem, askDatagram_truncated_iff]
  constructor
  · rintro (⟨rfl, h⟩ | ⟨rfl, ⟨bytes, harrival, hcut⟩, h⟩)
    · exact .datagram h
    · exact .stream harrival hcut h
  · rintro (h | ⟨harrival, hcut, h⟩)
    · exact Or.inl ⟨rfl, h⟩
    · exact Or.inr ⟨rfl, ⟨_, harrival, hcut⟩, h⟩

/-- The questions for one domain differ in their identifiers only. -/
lemma exists_body (h : (Message.txtQuery id domain).write = .ok query) :
    ∃ body, ∀ id', (Message.txtQuery id' domain).write = .ok (Dns.writeWord id' ++ body) := by
  rw [Message.write, bind_eq_ok_iff] at h
  obtain ⟨questions, hquestions, -⟩ := h
  refine ⟨(Message.txtQuery id domain).countedHeader.write.drop 2 ++ questions, fun id' => ?_⟩
  have hquestions' : Message.writeAll Dns.Question.write (Message.txtQuery id' domain).questions =
      .ok questions := hquestions
  have hheader : (Message.txtQuery id' domain).countedHeader.write = Dns.writeWord id' ++
      (Message.txtQuery id domain).countedHeader.write.drop 2 := rfl
  have hnone : Message.writeAll Dns.Resource.write [] = .ok [] := rfl
  rw [Message.write, hquestions', hheader]
  simp only [Message.txtQuery, hnone, ok_bind, List.append_nil, List.append_assoc]
  rfl


/-! ### What decides a search -/

/-- All servers before the one at this place fail. -/
def FailBefore (servers : List Nameserver) (ids : Nat → UInt16) (domain : String) (i : Nat) :
    Prop :=
  ∀ j < i, ∀ s : Nameserver, servers[j]? = some s → Fails s (ids j) domain

/-- One of the servers replies with this message, and all servers before it fail. -/
def EndsWith (servers : List Nameserver) (ids : Nat → UInt16) (domain : String)
    (body : List UInt8) (m : Message) : Prop :=
  ∃ (i : Nat) (s : Nameserver), servers[i]? = some s ∧ FailBefore servers ids domain i ∧
    Replies s (ids i) (Dns.writeWord (ids i) ++ body) m

/-- Either the answer of a search is the first final one, or all servers fail. -/
lemma resolveAll_cases (servers : List Nameserver) (ids : Nat → UInt16) (domain : String) :
    (∃ (i : Nat) (s : Nameserver), servers[i]? = some s ∧
      isFinal (s.resolve (ids i) domain) = true ∧ FailBefore servers ids domain i ∧
      resolveAll servers ids domain = s.resolve (ids i) domain) ∨
    (FailBefore servers ids domain servers.length ∧
      (servers = [] ∧ resolveAll servers ids domain = noServers ∨
        ∃ s : Nameserver, servers.getLast? = some s ∧ resolveAll servers ids domain =
          s.resolve (ids (servers.length - 1)) domain)) := by
  have hcases := @resolveFrom_cases domain ids servers noServers 0
  simp only [Nat.zero_add, isFinal_resolve_eq_false_iff] at hcases
  rcases hcases with hends | ⟨hall, hresult⟩
  · exact Or.inl hends
  · exact Or.inr ⟨fun j _ => hall j, hresult⟩

/-- A search finds no server only where there is none. -/
lemma resolveAll_eq_noServers_iff {servers : List Nameserver} {ids : Nat → UInt16} :
    resolveAll servers ids domain = noServers ↔ servers = [] := by
  rcases resolveAll_cases servers ids domain with
    ⟨i, s, hs, -, -, hresult⟩ | ⟨-, ⟨rfl, hresult⟩ | ⟨s, hs, hresult⟩⟩
  · rw [hresult]
    refine iff_of_false resolve_ne_noServers ?_
    rintro rfl
    cases hs
  · exact iff_of_true hresult rfl
  · rw [hresult]
    refine iff_of_false resolve_ne_noServers ?_
    rintro rfl
    cases hs

/-- A search has a given final answer if a server gives it and all servers before fail. -/
lemma resolveAll_eq_iff {answer : TxtAnswer} (hfinal : isFinal answer = true) :
    resolveAll servers ids domain = answer ↔ ∃ (i : Nat) (s : Nameserver),
      servers[i]? = some s ∧ FailBefore servers ids domain i ∧
      s.resolve (ids i) domain = answer := by
  rcases resolveAll_cases servers ids domain with
    ⟨i, s, hs, hsfinal, hbefore, hresult⟩ | ⟨hall, hresult⟩
  · rw [hresult]
    constructor
    · exact fun hanswer => ⟨i, s, hs, hbefore, hanswer⟩
    · -- no two servers can be the first one that does not fail
      rintro ⟨j, t, ht, hbefore', rfl⟩
      rcases Nat.lt_trichotomy i j with hlt | rfl | hlt
      · rw [isFinal_resolve_eq_false_iff.2 (hbefore' i hlt s hs)] at hsfinal
        cases hsfinal
      · cases hs.symm.trans ht
        rfl
      · rw [isFinal_resolve_eq_false_iff.2 (hbefore j hlt t ht)] at hfinal
        cases hfinal
  · constructor
    · rintro rfl
      rcases hresult with ⟨-, hnone⟩ | ⟨s, hs, hlast⟩
      · rw [hnone] at hfinal
        cases hfinal
      · have hpos : 0 < servers.length := List.length_pos_of_mem (List.mem_of_getLast? hs)
        rw [List.getLast?_eq_getElem?] at hs
        rw [hlast, isFinal_resolve_eq_false_iff.2 (hall _ (by omega) s hs)] at hfinal
        cases hfinal
    · rintro ⟨i, s, hs, -, rfl⟩
      obtain ⟨hi, -⟩ := List.getElem?_eq_some_iff.1 hs
      rw [isFinal_resolve_eq_false_iff.2 (hall i hi s hs)] at hfinal
      cases hfinal

/-- A search has a given final answer if some server replies so and all servers before fail. -/
lemma resolveAll_eq_iff_endsWith {answer : TxtAnswer} {body : List UInt8} {p : Message → Prop}
    (hfinal : isFinal answer = true)
    (hanswer : ∀ (s : Nameserver) (i : Nat), s.resolve (ids i) domain = answer ↔
      ∃ m, Replies s (ids i) (Dns.writeWord (ids i) ++ body) m ∧ p m) :
    resolveAll servers ids domain = answer ↔ ∃ m, EndsWith servers ids domain body m ∧ p m := by
  rw [resolveAll_eq_iff hfinal]
  constructor
  · rintro ⟨i, s, hs, hbefore, hresolve⟩
    obtain ⟨m, hreplies, hm⟩ := (hanswer s i).1 hresolve
    exact ⟨m, ⟨i, s, hs, hbefore, hreplies⟩, hm⟩
  · rintro ⟨m, ⟨i, s, hs, hbefore, hreplies⟩, hm⟩
    exact ⟨i, s, hs, hbefore, (hanswer s i).2 ⟨m, hreplies, hm⟩⟩

/-- The questions that a server gets, in order: none if a server before it does not fail. -/
lemma getElem?_contacts {octets : Nat → List UInt8}
    (hoctets : ∀ k, queryOctets (ids k) domain = .ok (octets k)) (hs : servers[i]? = some s) :
    ∃ got, (contacts servers ids domain)[i]? = some got ∧
      (got.map Prod.fst).Sublist [.datagram, .stream] ∧
      ∀ t question, (t, question) ∈ got ↔
        FailBefore servers ids domain i ∧ question = octets i ∧ Uses s question t := by
  obtain ⟨got, hgot, hcases⟩ := getElem?_contactsFrom hoctets 0 hs
  simp only [Nat.zero_add, isFinal_resolve_eq_false_iff] at hcases
  refine ⟨got, hgot, ?_⟩
  rcases hcases with ⟨hbefore, rfl⟩ | ⟨⟨j, hj, t, ht, hfinal⟩, rfl⟩
  · constructor
    · rw [List.map_map]
      exact (List.map_id _).symm ▸ transportsUsed_sublist
    · intro t question
      simp only [List.mem_map, Prod.mk.injEq, mem_transportsUsed_iff]
      constructor
      · rintro ⟨t, huses, rfl, rfl⟩
        exact ⟨hbefore, rfl, huses⟩
      · rintro ⟨-, rfl, huses⟩
        exact ⟨t, huses, rfl, rfl⟩
  · refine ⟨List.nil_sublist _, fun t' question => ?_⟩
    simp only [List.not_mem_nil, false_iff]
    rintro ⟨hbefore, -⟩
    rw [isFinal_resolve_eq_false_iff.2 (hbefore j hj t ht)] at hfinal
    cases hfinal

/-- What a search says, and which servers it asks.

The questions to the servers are the same up to their identifiers.  There are records or it is
known that the name does not exist just if the first server that does not fail replies so.  Else
all servers fail, and the last failure is the outcome.  A server gets something only if all servers
before it fail: it gets the question in a datagram, and once more over a stream if the datagram that
it sends was read and says that it was cut short. -/
theorem ends_with_first_reply (h : (Message.txtQuery id domain).write = .ok query)
    (servers : List Nameserver) (ids : Nat → UInt16) :
    ∃ body, (∀ id', (Message.txtQuery id' domain).write = .ok (Dns.writeWord id' ++ body)) ∧
      (∀ records, resolveAll servers ids domain = .ok records ↔
        ∃ m, EndsWith servers ids domain body m ∧ m.header.flags.responseCode = 0 ∧
          m.txtRecords = records) ∧
      (resolveAll servers ids domain = .error nonexistent ↔
        ∃ m, EndsWith servers ids domain body m ∧ m.header.flags.responseCode = 3) ∧
      ((∃ records, resolveAll servers ids domain = .ok records) ∨
        resolveAll servers ids domain = .error nonexistent ∨
        servers = [] ∧
          resolveAll servers ids domain = .error (.io "No upstream servers available") ∨
        ∃ (s : Nameserver) (e : LookupError), servers.getLast? = some s ∧
          FailBefore servers ids domain servers.length ∧
          s.resolve (ids (servers.length - 1)) domain = .error e ∧
          resolveAll servers ids domain = .error e) ∧
      (contacts servers ids domain).length = servers.length ∧
      ∀ (i : Nat) (s : Nameserver), servers[i]? = some s →
        ∃ got, (contacts servers ids domain)[i]? = some got ∧
          (got.map Prod.fst).Sublist [.datagram, .stream] ∧
          ∀ t octets, (t, octets) ∈ got ↔ FailBefore servers ids domain i ∧
            octets = Dns.writeWord (ids i) ++ body ∧ Uses s octets t := by
  obtain ⟨body, hbody⟩ := exists_body h
  refine ⟨body, hbody, fun records => ?_, ?_, ?_, length_contactsFrom, fun i s hs => ?_⟩
  · exact resolveAll_eq_iff_endsWith rfl fun s i => resolve_eq_ok_iff (hbody _)
  · exact resolveAll_eq_iff_endsWith rfl fun s i => resolve_eq_nonexistent_iff (hbody _)
  · rcases resolveAll_cases servers ids domain with
      ⟨i, s, -, hfinal, -, hresult⟩ | ⟨hall, ⟨hnil, hresult⟩ | ⟨s, hs, hresult⟩⟩
    · rw [hresult]
      rcases isFinal_resolve_eq_true (hbody _) hfinal with hok | hnone
      · exact Or.inl hok
      · exact Or.inr (Or.inl hnone)
    · exact Or.inr (Or.inr (Or.inl ⟨hnil, hresult⟩))
    · have hpos : 0 < servers.length := List.length_pos_of_mem (List.mem_of_getLast? hs)
      obtain ⟨e, he, -⟩ := hall (servers.length - 1) (by omega) s
        (by rw [← List.getLast?_eq_getElem?, hs])
      exact Or.inr (Or.inr (Or.inr ⟨s, e, hs, hall, he, hresult.trans he⟩))
  · exact getElem?_contacts (fun k => queryOctets_eq (hbody (ids k))) hs

/-! ### A search that the third of four servers ends -/

section Sample

/-- Nothing listens at the address. -/
def refusing : Nameserver where
  address := "192.0.2.1:53"
  receive _ _ := .failure .refused

/-- All answers are to the question with the identifier 7. -/
def confused : Nameserver where
  address := "192.0.2.2:53"
  receive _ _ := .octets ([0, 7, 0x80, 0] ++ List.replicate 8 0)

/-- The server that has one record for each name. -/
def knowing : Nameserver :=
  serving "192.0.2.3:53" (fun _ => ["v=spf1 -all"]) fun _ => 0

/-- The same server, with a datagram that only says that it was cut short. -/
def brief : Nameserver where
  address := "192.0.2.3:53"
  receive transport query :=
    match transport with
    | .datagram => .octets (query.take 2 ++ [0x82, 0] ++ List.replicate 8 0)
    | .stream => knowing.receive .stream query

/-- Four servers to ask in turn. -/
def sampleServers : List Nameserver := [refusing, confused, brief, knowing]

/-- The identifiers of the questions to them. -/
def sampleIds (i : Nat) : UInt16 := UInt16.ofNat (300 * i)

/-- The question that the third one gets. -/
def thirdQuestion : List UInt8 :=
  [2, 88, 1, 0, 0, 1, 0, 0, 0, 0, 0, 0, 7, 101, 120, 97, 109, 112, 108, 101, 3, 99, 111, 109, 0,
    0, 16, 0, 1]

/-- The third server is asked twice and has the record.  The fourth one gets nothing. -/
theorem ends_with_first_reply_third :
    ∃ query body, (Message.txtQuery 0 "example.com").write = .ok query ∧
      (∃ m, EndsWith sampleServers sampleIds "example.com" body m ∧
        m.header.flags.responseCode = 0 ∧ m.txtRecords = ["v=spf1 -all"]) ∧
      (contacts sampleServers sampleIds "example.com")[2]? =
        some [(.datagram, Dns.writeWord 600 ++ body), (.stream, Dns.writeWord 600 ++ body)] ∧
      (contacts sampleServers sampleIds "example.com")[3]? = some [] := by
  obtain ⟨query, hquery⟩ : ∃ query, (Message.txtQuery 0 "example.com").write = .ok query :=
    ⟨_, rfl⟩
  obtain ⟨body, hbody, hrecords, -, -, -, hcontacts⟩ :=
    ends_with_first_reply hquery sampleServers sampleIds
  have hresult : resolveAll sampleServers sampleIds "example.com" = .ok ["v=spf1 -all"] := by
    decide +kernel
  have hthird : brief.resolve 600 "example.com" = .ok ["v=spf1 -all"] := by decide +kernel
  refine ⟨query, body, hquery, (hrecords _).1 hresult, ?_, ?_⟩
  · have htwice : (contacts sampleServers sampleIds "example.com")[2]? =
        some [(.datagram, thirdQuestion), (.stream, thirdQuestion)] := by decide +kernel
    obtain ⟨got, hgot, -, hmem⟩ := hcontacts 2 brief rfl
    obtain rfl := Option.some.inj (hgot.symm.trans htwice)
    obtain ⟨-, hquestion, -⟩ := (hmem .stream thirdQuestion).1 (by simp)
    rw [htwice, hquestion]
    rfl
  · obtain ⟨got, hgot, -, hmem⟩ := hcontacts 3 knowing rfl
    rw [hgot, Option.some.injEq, List.eq_nil_iff_forall_not_mem]
    rintro ⟨t, octets⟩ hin
    obtain ⟨e, he, -⟩ := ((hmem t octets).1 hin).1 2 (by decide) brief rfl
    cases hthird.symm.trans he

end Sample

end Nameserver

end Resolution

end SenderPolicy
