/-
How long a lookup with nameservers takes.

Whatever a nameserver does, nobody waits for it beyond its share (`Upstream.askMs_le`), so a lookup
takes at most as many shares as there are nameservers.  That is no more than the time for all of
them, if there is enough of it for each to have the smallest share.  If there is not, a lookup may
take longer: it takes all the shares when no nameserver sends anything.
-/
import Mathlib.Tactic.Lemma
import Mathlib.Tactic.SplitIfs
import SenderPolicy.Proofs.Resolution.Fallback
import SenderPolicy.Proofs.Resolution.Nameserver
import SenderPolicy.Resolution.Waiting

namespace SenderPolicy.Resolution

open Dns (Message)

namespace Upstream

variable {u : Upstream} {limitMs : Nat} {ids : Nat → UInt16} {domain : String}
  {query : List UInt8} {servers : List Upstream}

/-! ### One server -/

lemma waitMs_le (t : Transport) : u.waitMs limitMs query t ≤ limitMs := by
  rw [waitMs]
  split
  case h_1 => exact Nat.le_refl _
  case h_2 hreceive =>
      simp only [within] at hreceive
      split_ifs at hreceive with hlate
      · exact absurd rfl hreceive
      · exact Nat.le_of_not_lt hlate

/-- Nobody waits for a server beyond the limit. -/
lemma askMs_le : u.askMs limitMs query ≤ limitMs := by
  rw [askMs]
  split <;> exact waitMs_le _

lemma receive_within_of_silence (h : ∀ query, u.receive .datagram query = .silence)
    (limitMs : Nat) (query : List UInt8) :
    (u.within limitMs).receive .datagram query = .silence := by
  simp [within, h]

/-- A server that sends nothing is waited for up to the limit, and then it fails. -/
lemma askMs_of_silence (h : ∀ query, u.receive .datagram query = .silence) (query : List UInt8) :
    u.askMs limitMs query = limitMs := by
  have hsilence := receive_within_of_silence h limitMs query
  rw [askMs, Nameserver.askDatagram, hsilence]
  simp only [waitMs, hsilence]

lemma isFinal_of_silence (h : ∀ query, u.receive .datagram query = .silence) (id : UInt16) :
    Nameserver.isFinal ((u.within limitMs).resolve id domain) = false := by
  rw [Nameserver.resolve]
  cases hquery : Nameserver.queryOctets id domain with
  | error e =>
      rw [Nameserver.queryOctets] at hquery
      split at hquery <;> cases hquery
      rfl
  | ok query =>
      rw [ok_bind, Nameserver.ask, Nameserver.askDatagram, receive_within_of_silence h]
      rfl

/-! ### Servers in turn -/

/-- Every server adds its share at most. -/
lemma lookupMsFrom_le (index : Nat) :
    lookupMsFrom limitMs ids domain index servers ≤ servers.length * limitMs := by
  induction servers generalizing index with
  | nil => exact Nat.zero_le _
  | cons u rest ih =>
      have hrest := ih (index + 1)
      rw [lookupMsFrom, List.length_cons, Nat.add_mul, Nat.one_mul]
      split
      · omega
      · rename_i query _
        have hask : u.askMs limitMs query ≤ limitMs := askMs_le
        split_ifs <;> omega

/-- Servers that send nothing are all waited for. -/
lemma lookupMsFrom_of_silence
    (hwrite : ∀ id, ∃ query, (Message.txtQuery id domain).write = .ok query)
    (h : ∀ u ∈ servers, ∀ query, u.receive .datagram query = .silence) (index : Nat) :
    lookupMsFrom limitMs ids domain index servers = servers.length * limitMs := by
  induction servers generalizing index with
  | nil => exact (Nat.zero_mul _).symm
  | cons u rest ih =>
      obtain ⟨hu, hrest⟩ := List.forall_mem_cons.1 h
      obtain ⟨query, hquery⟩ := hwrite (ids index)
      have hoctets : Nameserver.queryOctets (ids index) domain = .ok query := by
        rw [Nameserver.queryOctets, hquery]
      rw [lookupMsFrom, hoctets]
      simp only [isFinal_of_silence hu, Bool.false_eq_true, if_false, askMs_of_silence hu,
        ih hrest (index + 1), List.length_cons, Nat.add_mul, Nat.one_mul, Nat.add_comm]

/-- The shares are parts of the time for all servers, if the smallest ones are. -/
lemma mul_shareMs_le {budgetMs count : Nat} (h : count * minShareMs ≤ budgetMs) :
    count * shareMs budgetMs count ≤ budgetMs := by
  rcases Nat.eq_zero_or_pos count with rfl | hpos
  · simp
  · rw [shareMs, Nat.max_eq_left hpos, ← Nat.mul_max_mul_left]
    exact Nat.max_le.2 ⟨Nat.mul_div_le budgetMs count, h⟩

end Upstream

open Upstream (shareMs minShareMs)

/-- How long the backend that asks nameservers takes for a lookup.

It takes as many shares as there are nameservers at most.  That is not more than the time for all of
them, as long as the smallest shares are not.  It is that much if a question can be asked and
nothing arrives. -/
theorem Source.delayMs_ofUpstreams (budgetMs : Nat) (ids : Nat → UInt16) (servers : List Upstream)
    (domain : String) :
    let all := servers.length * shareMs budgetMs servers.length
    let taken := (ofUpstreams budgetMs ids servers domain).delayMs
    taken ≤ all ∧
    (servers.length * minShareMs ≤ budgetMs → taken ≤ budgetMs) ∧
    ∀ id query, (Message.txtQuery id domain).write = .ok query →
      (∀ u ∈ servers, ∀ query, u.receive .datagram query = .silence) → taken = all := by
  intro all taken
  have htaken : taken ≤ all := Upstream.lookupMsFrom_le 0
  refine ⟨htaken, fun hbudget => Nat.le_trans htaken (Upstream.mul_shareMs_le hbudget), ?_⟩
  intro id query hquery hsilence
  obtain ⟨body, hbody⟩ := Nameserver.exists_body hquery
  exact Upstream.lookupMsFrom_of_silence (fun id' => ⟨_, hbody id'⟩) hsilence 0

end SenderPolicy.Resolution
