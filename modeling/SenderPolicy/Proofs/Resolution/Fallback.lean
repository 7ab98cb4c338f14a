/-
Falling back from one backend to the next.

A request names backends: the one that it wants to be asked first, or the default one, and the
fallbacks after it.  Its chain has those of them that are there, each in the place where it is
named first (`Resolvers.Chosen`).

What asking a single backend of a chain comes to is its fate (`Resolution.Fate`).  It depends on
the place of the backend in the chain: the first one is cut off after the timeout, and no other is.
The attempts of a lookup follow the chain (`Resolution.Follows`): the backends are asked in order,
and the next one only if the one before it has failed.  All that is said here about lookups is
said about lists of attempts that follow a chain: which backends are asked, what the lookup comes
to, how long it takes and which counters it moves.
-/
import Mathlib.Algebra.Ring.Nat
import Mathlib.Data.List.Nodup
import Mathlib.Tactic.Lemma
import SenderPolicy.Resolution.Resolvers
import SenderPolicy.Tally

namespace SenderPolicy

/-- The count of a key grows by the number of the elements of a list that have this key. -/
lemma Tally.count_addAll_filterMap {α β : Type} [DecidableEq β] (t : Tally β) (key? : α → Option β)
    (l : List α) (k : β) :
    (t.addAll (l.filterMap key?)).count k = t.count k + l.countP fun a => key? a = some k := by
  rw [count_addAll, List.count_filterMap]
  simp only [beq_eq_decide]

namespace Resolution

/-! ### The chain of a request -/

section EraseDups

variable {α : Type} [DecidableEq α] {a b : α} {p : α → Bool}

/-- Leaving out elements does not change the order in which the others come first. -/
lemma idxOf_lt_of_idxOf_filter_lt {l : List α} (ha : p a = true) (hb : p b = true)
    (h : (l.filter p).idxOf a < (l.filter p).idxOf b) : l.idxOf a < l.idxOf b := by
  induction l with
  | nil => simp at h
  | cons x l ih =>
      by_cases hx : p x = true
      · rw [List.filter_cons_of_pos hx, List.idxOf_cons, List.idxOf_cons] at h
        rw [List.idxOf_cons, List.idxOf_cons]
        by_cases hxb : x = b
        · simp [hxb] at h
        · by_cases hxa : x = a
          · subst hxa
            simp [beq_false_of_ne hxb]
          · simp only [beq_false_of_ne hxa, beq_false_of_ne hxb, cond_false,
              Nat.add_lt_add_iff_right] at h ⊢
            exact ih h
      · rw [List.filter_cons_of_neg hx] at h
        have hxa : x ≠ a := fun heq => hx (heq ▸ ha)
        have hxb : x ≠ b := fun heq => hx (heq ▸ hb)
        simp only [List.idxOf_cons, beq_false_of_ne hxa, beq_false_of_ne hxb, cond_false,
          Nat.add_lt_add_iff_right]
        exact ih h

/-- Without repetitions the elements of a list stand in the order in which they come first. -/
lemma pairwise_idxOf_eraseDups (l : List α) :
    l.eraseDups.Pairwise fun a b => l.idxOf a < l.idxOf b := by
  -- what is left to look at after the first element is the list without that element
  induction hn : l.length using Nat.strongRecOn generalizing l with
  | ind n ih =>
      cases l with
      | nil => exact List.Pairwise.nil
      | cons x l =>
          have hne : ∀ a ∈ (l.filter fun a => !a == x).eraseDups, (!a == x) = true :=
            fun a ha => (List.mem_filter.1 (List.mem_eraseDups.1 ha)).2
          have hidx : ∀ a, (!a == x) = true → (x :: l).idxOf a = l.idxOf a + 1 := by
            intro a ha
            have hxa : x ≠ a := by
              rintro rfl
              simp at ha
            rw [List.idxOf_cons, beq_false_of_ne hxa, cond_false]
          have hlength : (l.filter fun a => !a == x).length < n := by
            rw [← hn, List.length_cons]
            exact Nat.lt_succ_of_le (List.length_filter_le _ _)
          rw [List.eraseDups_cons]
          refine List.pairwise_cons.2 ⟨fun a ha => ?_, ?_⟩
          · rw [hidx a (hne a ha), List.idxOf_cons_self]
            exact Nat.succ_pos _
          · refine (ih _ hlength _ rfl).imp_of_mem fun {a b} ha hb hlt => ?_
            rw [hidx a (hne a ha), hidx b (hne b hb)]
            exact Nat.succ_lt_succ (idxOf_lt_of_idxOf_filter_lt (p := fun a => !a == x)
              (hne a ha) (hne b hb) hlt)

end EraseDups

namespace Resolvers

/-- The backends that a request names: the one to ask first, and then the fallbacks. -/
def named (r : Resolvers) (first : Option Backend) : List Backend :=
  first.getD r.default :: r.fallbackOrder

/-- What the chain of a request has to be. -/
structure Chosen (r : Resolvers) (first : Option Backend) (chain : Chain) : Prop where
  /-- The chain has the backends that are named and there, with their sources. -/
  mem_iff (b : Backend) (source : Source) :
    (b, source) ∈ chain ↔ b ∈ r.named first ∧ r.source? b = some source
  /-- They stand in the order in which they are named first. -/
  ordered : (chain.map Prod.fst).Pairwise fun b c =>
    (r.named first).idxOf b < (r.named first).idxOf c

variable {r : Resolvers} {first : Option Backend}

lemma chosen_chain : r.Chosen first (r.chain first) where
  mem_iff b source := by
    simp only [chain, order, named, List.mem_filterMap, List.mem_eraseDups, Option.map_eq_some_iff]
    constructor
    · rintro ⟨_, hnamed, _, hsource, heq⟩
      cases heq
      exact ⟨hnamed, hsource⟩
    · rintro ⟨hnamed, hsource⟩
      exact ⟨b, hnamed, source, hsource, rfl⟩
  ordered := by
    rw [chain, List.map_filterMap]
    refine (pairwise_idxOf_eraseDups (r.named first)).filterMap _ ?_
    intro b c hlt b' hb c' hc
    simp only [Option.map_map, Option.map_eq_some_iff, Function.comp_apply] at hb hc
    obtain ⟨_, _, rfl⟩ := hb
    obtain ⟨_, _, rfl⟩ := hc
    exact hlt

/-- Each backend is in a chain once. -/
lemma Chosen.nodup {chain : Chain} (h : r.Chosen first chain) : (chain.map Prod.fst).Nodup :=
  h.ordered.imp fun hlt heq => by
    rw [heq] at hlt
    exact absurd hlt (Nat.lt_irrefl _)

end Resolvers

/-! ### Attempts that follow a chain -/

/-- What it comes to that the backend at some place of a chain is asked for a domain. -/
inductive Fate (timeoutMs : Nat) (domain : String) :
    Nat → Backend × Source → Attempt → Prop where
  /-- The answer is taken as it is.  The first backend has to give it in time. -/
  | inTime {place : Nat} {b : Backend} {source : Source} {ms : Nat} {answer : TxtAnswer}
      (hanswer : source domain = .answers ms answer) (hms : place = 0 → ms ≤ timeoutMs) :
      Fate timeoutMs domain place (b, source)
        { backend := b, durationMs := ms, outcome := .ofAnswer answer }
  /-- The first backend is cut off, whatever it would have answered. -/
  | late {b : Backend} {source : Source} {ms : Nat} {answer : TxtAnswer}
      (hanswer : source domain = .answers ms answer) (hms : timeoutMs < ms) :
      Fate timeoutMs domain 0 (b, source)
        { backend := b, durationMs := timeoutMs, outcome := .timeout timeoutMs }
  | breakdown {place : Nat} {b : Backend} {source : Source} {payload : Payload}
      (hpanics : source domain = .panics payload) :
      Fate timeoutMs domain place (b, source)
        { backend := b, durationMs := 0, outcome := .panic payload }

/-- The attempts with the backends of a chain from some place on: one after the other, as long as
no outcome is final. -/
inductive Follows (timeoutMs : Nat) (domain : String) :
    Nat → Chain → List Attempt → Prop where
  | exhausted {place : Nat} : Follows timeoutMs domain place [] []
  | final {place : Nat} {e : Backend × Source} {rest : Chain} {a : Attempt}
      (fate : Fate timeoutMs domain place e a) (hfinal : a.outcome.isFinal = true) :
      Follows timeoutMs domain place (e :: rest) [a]
  | next {place : Nat} {e : Backend × Source} {rest : Chain} {a : Attempt} {made : List Attempt}
      (fate : Fate timeoutMs domain place e a) (hnext : a.outcome.isFinal = false)
      (follows : Follows timeoutMs domain (place + 1) rest made) :
      Follows timeoutMs domain place (e :: rest) (a :: made)

section Attempts

variable {timeoutMs place : Nat} {domain : String} {e : Backend × Source} {chain : Chain}
  {a : Attempt} {made : List Attempt}

lemma fate_make_some (b : Backend) (source : Source) :
    Fate timeoutMs domain 0 (b, source) (Attempt.make (some timeoutMs) b source domain) := by
  rw [Attempt.make]
  split
  case h_1 payload hpanics => exact .breakdown hpanics
  case h_2 ms answer hanswer =>
      simp only
      split
      · exact .late hanswer ‹_›
      · exact .inTime hanswer fun _ => Nat.le_of_not_lt ‹_›

lemma fate_make_none (b : Backend) (source : Source) (hplace : place ≠ 0) :
    Fate timeoutMs domain place (b, source) (Attempt.make none b source domain) := by
  rw [Attempt.make]
  split
  case h_1 payload hpanics => exact .breakdown hpanics
  case h_2 ms answer hanswer => exact .inTime hanswer fun h => absurd h hplace

lemma follows_attemptsFrom (hplace : place ≠ 0) (chain : Chain) :
    Follows timeoutMs domain place chain (chain.attemptsFrom domain) := by
  induction chain generalizing place with
  | nil => exact .exhausted
  | cons e rest ih =>
      have hfate : Fate timeoutMs domain place e _ := fate_make_none e.1 e.2 hplace
      rw [Chain.attemptsFrom]
      split
      · exact .final hfate ‹_›
      · exact .next hfate (Bool.eq_false_iff.2 ‹_›) (ih (Nat.succ_ne_zero place))

/-- The attempts of a lookup follow the chain. -/
lemma follows_attempts (chain : Chain) :
    Follows timeoutMs domain 0 chain (chain.attempts timeoutMs domain) := by
  cases chain with
  | nil => exact .exhausted
  | cons e rest =>
      have hfate : Fate timeoutMs domain 0 e _ := fate_make_some e.1 e.2
      rw [Chain.attempts]
      split
      · exact .final hfate ‹_›
      · exact .next hfate (Bool.eq_false_iff.2 ‹_›) (follows_attemptsFrom Nat.one_ne_zero rest)

lemma AttemptOutcome.ofAnswer_injective : Function.Injective ofAnswer := by
  rintro (_ | _) (_ | _) h <;> cases h <;> rfl

/-- The backend that a request names first is asked if it is there. -/
lemma Resolvers.head?_attempts {r : Resolvers} {first : Option Backend} {source : Source}
    (h : r.source? (first.getD r.default) = some source) :
    ((r.chain first).attempts timeoutMs domain).head? =
      some (Attempt.make (some timeoutMs) (first.getD r.default) source domain) := by
  rw [chain, order, List.eraseDups_cons, List.filterMap_cons, h, Option.map_some]
  simp only [Chain.attempts]
  split <;> rfl

/-- How long a backend takes if nobody cuts it off. -/
def Reaction.delayMs : Reaction → Nat
  | .answers ms _ => ms
  | .panics _ => 0

namespace Fate

lemma backend_eq (h : Fate timeoutMs domain place e a) : a.backend = e.1 := by
  cases h <;> rfl

/-- Only the first backend is cut off. -/
lemma durationMs_eq (h : Fate timeoutMs domain place e a) :
    a.durationMs =
      if place = 0 then min timeoutMs (e.2 domain).delayMs else (e.2 domain).delayMs := by
  cases h with
  | inTime hanswer hms =>
      simp only [hanswer, Reaction.delayMs]
      split
      · exact (Nat.min_eq_right (hms ‹_›)).symm
      · rfl
  | late hanswer hms =>
      simp only [hanswer, Reaction.delayMs, if_true]
      exact (Nat.min_eq_left (Nat.le_of_lt hms)).symm
  | breakdown hpanics => simp [hpanics, Reaction.delayMs]

lemma panics_of_outcome {payload : Payload} (h : Fate timeoutMs domain place e a)
    (houtcome : a.outcome = .panic payload) : e.2 domain = .panics payload := by
  cases h with
  | @inTime _ _ _ _ answer => cases answer <;> cases houtcome
  | late => cases houtcome
  | breakdown hpanics =>
      cases houtcome
      exact hpanics

end Fate

namespace Follows

/-- Every attempt is with the backend at the same place of the chain. -/
lemma exists_fate (h : Follows timeoutMs domain place chain made) {i : Nat}
    (ha : made[i]? = some a) :
    ∃ e, chain[i]? = some e ∧ Fate timeoutMs domain (place + i) e a := by
  induction h generalizing i with
  | exhausted => simp at ha
  | @final place e rest a' fate _ =>
      cases i with
      | zero =>
          cases ha
          exact ⟨e, rfl, fate⟩
      | succ i => simp at ha
  | @next place e rest a' made fate _ _ ih =>
      cases i with
      | zero =>
          cases ha
          exact ⟨e, rfl, fate⟩
      | succ i =>
          obtain ⟨e', he', hfate⟩ := ih (i := i) (by simpa using ha)
          refine ⟨e', by simpa using he', ?_⟩
          rwa [Nat.add_right_comm, Nat.add_assoc] at hfate

lemma isFinal_of_mem_dropLast (h : Follows timeoutMs domain place chain made) :
    ∀ a ∈ made.dropLast, a.outcome.isFinal = false := by
  induction h with
  | exhausted => simp
  | final fate _ => simp
  | @next place e rest a made fate hnext follows ih =>
      cases follows with
      | exhausted => simp
      | final => simpa using hnext
      | next => simpa using ⟨hnext, by simpa using ih⟩

/-- If not all backends of the chain are asked, that is because of the last one that is. -/
lemma exists_isFinal_of_length_ne (h : Follows timeoutMs domain place chain made)
    (hlength : made.length ≠ chain.length) :
    ∃ a, made.getLast? = some a ∧ a.outcome.isFinal = true := by
  induction h with
  | exhausted => exact absurd rfl hlength
  | @final place e rest a fate hfinal => exact ⟨a, rfl, hfinal⟩
  | @next place e rest a made fate _ _ ih =>
      obtain ⟨last, hlast, hfinal⟩ := ih fun heq => hlength (by simp [heq])
      exact ⟨last, by rw [List.getLast?_cons, hlast]; rfl, hfinal⟩

lemma eq_nil_iff (h : Follows timeoutMs domain place chain made) : made = [] ↔ chain = [] := by
  cases h <;> simp

/-- The backends that are asked are the first ones of the chain. -/
lemma map_backend_eq (h : Follows timeoutMs domain place chain made) :
    made.map Attempt.backend = (chain.map Prod.fst).take made.length := by
  induction h with
  | exhausted => rfl
  | final fate _ => simp [fate.backend_eq]
  | next fate _ _ ih => simp [fate.backend_eq, ih]

/-- Behind the first place no time is cut off. -/
lemma elapsedMs_eq_sum (h : Follows timeoutMs domain place chain made) (hplace : place ≠ 0) :
    elapsedMs made = ((chain.take made.length).map fun e => (e.2 domain).delayMs).sum := by
  induction h with
  | exhausted => rfl
  | final fate _ => simp [elapsedMs, fate.durationMs_eq, hplace]
  | @next place e rest a made fate _ _ ih =>
      simp [elapsedMs, fate.durationMs_eq, hplace, ih (Nat.succ_ne_zero place)]

/-- A lookup takes as long as the backends that are asked, the first one no longer than the
timeout. -/
lemma elapsedMs_eq (h : Follows timeoutMs domain 0 chain made) :
    elapsedMs made =
      let delays := (chain.take made.length).map fun e => (e.2 domain).delayMs
      min timeoutMs (delays.headD 0) + delays.tail.sum := by
  cases h with
  | exhausted => simp [elapsedMs]
  | final fate _ => simp [elapsedMs, fate.durationMs_eq]
  | next fate _ follows =>
      simp [elapsedMs, fate.durationMs_eq, follows.elapsedMs_eq_sum Nat.one_ne_zero]

end Follows

/-- A lookup comes to what its last attempt came to. -/
lemma outcomeOf_of_getLast? (h : made.getLast? = some a) :
    outcomeOf made =
      match a.outcome with
      | .success records => .ok (.ok records)
      | .failure e => .ok (.error (.allFailed e))
      | .timeout ms => .ok (.error (.allFailed (.timeout a.backend (UInt64.ofNat ms))))
      | .panic payload => .error payload := by
  rw [outcomeOf, h]
  obtain ⟨backend, durationMs, outcome⟩ := a
  cases outcome <;> rfl

/-- A lookup that has no answer ends with a backend that breaks down. -/
lemma Follows.exists_panics {payload : Payload} (h : Follows timeoutMs domain place chain made)
    (houtcome : outcomeOf made = .error payload) :
    ∃ e ∈ chain, e.2 domain = .panics payload := by
  cases hlast : made.getLast? with
  | none =>
      obtain rfl := List.getLast?_eq_none_iff.1 hlast
      cases houtcome
  | some a =>
      obtain ⟨i, hi⟩ := List.mem_iff_getElem?.1 (List.mem_of_getLast? hlast)
      obtain ⟨e, he, hfate⟩ := h.exists_fate hi
      refine ⟨e, List.mem_of_getElem? he, hfate.panics_of_outcome ?_⟩
      rw [outcomeOf_of_getLast? hlast] at houtcome
      split at houtcome
      case h_4 payload' hpanic =>
          cases houtcome
          exact hpanic
      all_goals cases houtcome

lemma outcomeOf_eq_noBackends_iff : outcomeOf made = .ok (.error .noBackends) ↔ made = [] := by
  constructor
  · intro h
    cases hlast : made.getLast? with
    | none => exact List.getLast?_eq_none_iff.1 hlast
    | some a =>
        rw [outcomeOf_of_getLast? hlast] at h
        split at h <;> cases h
  · rintro rfl
    rfl

/-! ### Counters -/

/-- The attempt ended in one of three ways, and has the counter of its backend for that way. -/
inductive Attempt.Counted (a : Attempt) : Prop where
  | success (records : List String) (houtcome : a.outcome = .success records)
      (hcounter : a.counter? = some (a.backend, "success"))
  | error (e : LookupError) (houtcome : a.outcome = .failure e)
      (hcounter : a.counter? = some (a.backend, "error"))
  | timeout (ms : Nat) (houtcome : a.outcome = .timeout ms)
      (hcounter : a.counter? = some (a.backend, "timeout"))

lemma Attempt.counted_of_ne_panic (h : ∀ payload, a.outcome ≠ .panic payload) : a.Counted := by
  obtain ⟨backend, durationMs, outcome⟩ := a
  cases outcome with
  | success records => exact .success records rfl rfl
  | failure e => exact .error e rfl rfl
  | timeout ms => exact .timeout ms rfl rfl
  | panic payload => exact absurd rfl (h payload)

lemma Attempt.backend_eq_of_counter? {key : Backend × String} (h : a.counter? = some key) :
    a.backend = key.1 := by
  obtain ⟨_, _, rfl⟩ := Option.map_eq_some_iff.1 h
  rfl

/-- No counter has two attempts if no backend has. -/
lemma countP_counter?_eq (h : (made.map Attempt.backend).Nodup) (key : Backend × String) :
    (made.countP fun a => a.counter? = some key) =
      if ∃ a ∈ made, a.counter? = some key then 1 else 0 := by
  induction made with
  | nil => rfl
  | cons a made ih =>
      obtain ⟨hne, hnodup⟩ := List.nodup_cons.1 h
      rw [List.countP_cons, ih hnodup]
      by_cases ha : a.counter? = some key
      · have hothers : ¬ ∃ a' ∈ made, a'.counter? = some key := by
          rintro ⟨a', hmem, ha'⟩
          refine hne (List.mem_map.2 ⟨a', hmem, ?_⟩)
          rw [Attempt.backend_eq_of_counter? ha, Attempt.backend_eq_of_counter? ha']
        simp [ha, hothers]
      · simp [ha]

/-- Every attempt with a backend is in one of the three counters of the backend. -/
lemma countP_counter?_add_eq (h : ∀ a ∈ made, a.Counted) (b : Backend) :
    (made.countP fun a => a.counter? = some (b, "success")) +
        (made.countP fun a => a.counter? = some (b, "error")) +
        (made.countP fun a => a.counter? = some (b, "timeout")) =
      made.countP fun a => a.backend = b := by
  induction made with
  | nil => rfl
  | cons a made ih =>
      obtain ⟨ha, hmade⟩ := List.forall_mem_cons.1 h
      have hrest := ih hmade
      simp only [List.countP_cons]
      rcases ha with ⟨_, _, hcounter⟩ | ⟨_, _, hcounter⟩ | ⟨_, _, hcounter⟩ <;>
        · simp only [hcounter, Option.some.injEq, Prod.mk.injEq, and_true, String.reduceEq,
            and_false, decide_false, Bool.false_eq_true, if_false, decide_eq_true_eq]
          omega

/-! ### Lookups -/

/-- Every question is answered, sooner or later. -/
def Source.Answers (source : Source) : Prop :=
  ∀ domain, ∃ ms answer, source domain = .answers ms answer

/-- All backends that are there answer. -/
def Resolvers.Answers (r : Resolvers) : Prop :=
  ∀ e ∈ r.sources, e.2.Answers

/-- What a lookup with a chain is, told by its attempts. -/
structure Settled (timeoutMs : Nat) (domain : String) (chain : Chain) (made : List Attempt) :
    Prop where
  /-- The attempts are with the first backends of the chain, in order, and each of these has its
  fate. -/
  fate (i : Nat) (a : Attempt) : made[i]? = some a →
    ∃ e, chain[i]? = some e ∧ Fate timeoutMs domain i e a
  /-- Each backend is asked once. -/
  nodup : (made.map Attempt.backend).Nodup
  /-- Behind a success nobody is asked. -/
  not_success : ∀ a ∈ made.dropLast, ∀ records, a.outcome ≠ .success records
  /-- All backends are asked if there is no success. -/
  success : made.length ≠ chain.length →
    ∃ a records, made.getLast? = some a ∧ a.outcome = .success records
  /-- What the last backend had to say is the outcome, as an answer or as the reason why all have
  failed. -/
  outcome (a : Attempt) : made.getLast? = some a →
    (∀ records, a.outcome = .success records → outcomeOf made = .ok (.ok records)) ∧
    (∀ e, a.outcome = .failure e → outcomeOf made = .ok (.error (.allFailed e))) ∧
    (∀ ms, a.outcome = .timeout ms →
      outcomeOf made = .ok (.error (.allFailed (.timeout a.backend (UInt64.ofNat ms)))))
  noBackends_iff : outcomeOf made = .ok (.error .noBackends) ↔ chain = []
  /-- Only the first backend is cut off. -/
  elapsed : elapsedMs made =
    let delays := (chain.take made.length).map fun e => (e.2 domain).delayMs
    min timeoutMs (delays.headD 0) + delays.tail.sum
  counted : ∀ a ∈ made, a.Counted
  /-- The counters of the attempts, and no others, go up by one. -/
  count (t : Tally (Backend × String)) (key : Backend × String) :
    (t.addAll (made.filterMap Attempt.counter?)).count key =
      t.count key + if ∃ a ∈ made, a.counter? = some key then 1 else 0

/-- No backend breaks down if it answers. -/
lemma Fate.counted (h : Fate timeoutMs domain place e a) (hanswers : e.2.Answers) : a.Counted := by
  obtain ⟨ms, answer, hanswer⟩ := hanswers domain
  refine Attempt.counted_of_ne_panic fun payload hpanic => ?_
  cases hanswer.symm.trans (h.panics_of_outcome hpanic)

lemma Follows.counted (h : Follows timeoutMs domain place chain made)
    (hanswers : ∀ e ∈ chain, e.2.Answers) : ∀ a ∈ made, a.Counted := by
  intro a ha
  obtain ⟨i, hi⟩ := List.mem_iff_getElem?.1 ha
  obtain ⟨e, he, hfate⟩ := h.exists_fate hi
  exact hfate.counted (hanswers e (List.mem_of_getElem? he))

lemma Follows.settled (h : Follows timeoutMs domain 0 chain made)
    (hanswers : ∀ e ∈ chain, e.2.Answers) (hnodup : (chain.map Prod.fst).Nodup) :
    Settled timeoutMs domain chain made where
  fate i a ha := by simpa using h.exists_fate ha
  nodup := by
    rw [h.map_backend_eq]
    exact hnodup.sublist (List.take_sublist _ _)
  not_success a ha records houtcome := by
    have hnext := h.isFinal_of_mem_dropLast a ha
    rw [houtcome] at hnext
    cases hnext
  success hlength := by
    obtain ⟨a, hlast, hfinal⟩ := h.exists_isFinal_of_length_ne hlength
    refine ⟨a, ?_⟩
    rcases h.counted hanswers a (List.mem_of_getLast? hlast) with
      ⟨records, houtcome, -⟩ | ⟨e, houtcome, -⟩ | ⟨ms, houtcome, -⟩
    · exact ⟨records, hlast, houtcome⟩
    all_goals
      rw [houtcome] at hfinal
      cases hfinal
  outcome a hlast := by
    have houtcome := outcomeOf_of_getLast? hlast
    refine ⟨?_, ?_, ?_⟩ <;>
      · intro _ ha
        rw [houtcome, ha]
  noBackends_iff := by rw [outcomeOf_eq_noBackends_iff, h.eq_nil_iff]
  elapsed := h.elapsedMs_eq
  counted := h.counted hanswers
  count t key := by
    rw [Tally.count_addAll_filterMap, countP_counter?_eq]
    rw [h.map_backend_eq]
    exact hnodup.sublist (List.take_sublist _ _)

end Attempts

namespace Resolvers

variable {r : Resolvers} {first : Option Backend}

lemma mem_sources_of_mem_chain {e : Backend × Source} (h : e ∈ r.chain first) :
    e ∈ r.sources := by
  obtain ⟨_, _, heq, -⟩ := List.lookup_eq_some_iff.1 ((chosen_chain.mem_iff e.1 e.2).1 h).2
  simp [heq]

/-- One of the backends that are there breaks down for some domain, and leaves something behind. -/
def BreaksDown (r : Resolvers) (payload : Payload) : Prop :=
  ∃ e ∈ r.sources, ∃ domain, e.2 domain = .panics payload

end Resolvers

/-- If all backends that are there answer, every lookup with a chain of them is settled. -/
lemma Resolvers.Answers.settled {r : Resolvers} (h : r.Answers) (first : Option Backend)
    (domain : String) :
    Settled r.timeoutMs domain (r.chain first) ((r.chain first).attempts r.timeoutMs domain) := by
  have hchosen : r.Chosen first (r.chain first) := Resolvers.chosen_chain
  exact (follows_attempts (r.chain first)).settled
    (fun e he => h e (Resolvers.mem_sources_of_mem_chain he)) hchosen.nodup

/-- A lookup that is settled gives an answer. -/
lemma Settled.exists_outcome {timeoutMs : Nat} {domain : String} {chain : Chain}
    {made : List Attempt} (h : Settled timeoutMs domain chain made) :
    ∃ answer, outcomeOf made = .ok answer := by
  cases hlast : made.getLast? with
  | none =>
      rw [List.getLast?_eq_none_iff] at hlast
      exact ⟨_, outcomeOf_eq_noBackends_iff.2 hlast⟩
  | some a =>
      obtain ⟨hsuccess, hfailure, htimeout⟩ := h.outcome a hlast
      rcases h.counted a (List.mem_of_getLast? hlast) with
        ⟨records, houtcome, -⟩ | ⟨e, houtcome, -⟩ | ⟨ms, houtcome, -⟩
      · exact ⟨_, hsuccess records houtcome⟩
      · exact ⟨_, hfailure e houtcome⟩
      · exact ⟨_, htimeout ms houtcome⟩

/-- A lookup: who may be asked, who is asked first, and for which domain. -/
structure Request where
  resolvers : Resolvers
  first : Option Backend
  domain : String

/-- The backends to ask. -/
def Request.chain (q : Request) : Chain := q.resolvers.chain q.first

/-- The attempts that are made. -/
def Request.attempts (q : Request) : List Attempt :=
  q.chain.attempts q.resolvers.timeoutMs q.domain

/-- Lookups with backends that answer.

The chain of each lookup is the right one.  Its backends are asked one after the other up to the
first success, and that, the time and the counters are as `Settled` says.  Over all lookups the
three counters of a backend go up by as much as there are attempts with it. -/
theorem settled_of_answers {requests : List Request}
    (h : ∀ q ∈ requests, q.resolvers.Answers) :
    (∀ q ∈ requests, q.resolvers.Chosen q.first q.chain ∧
      Settled q.resolvers.timeoutMs q.domain q.chain q.attempts) ∧
    ∀ (t : Tally (Backend × String)) (b : Backend),
      let made := requests.flatMap Request.attempts
      let t' := t.addAll (made.filterMap Attempt.counter?)
      t'.count (b, "success") + t'.count (b, "error") + t'.count (b, "timeout") =
        t.count (b, "success") + t.count (b, "error") + t.count (b, "timeout") +
          made.countP fun a => a.backend = b := by
  have hsettled : ∀ q ∈ requests, q.resolvers.Chosen q.first q.chain ∧
      Settled q.resolvers.timeoutMs q.domain q.chain q.attempts := by
    intro q hq
    exact ⟨Resolvers.chosen_chain, (h q hq).settled q.first q.domain⟩
  refine ⟨hsettled, fun t b => ?_⟩
  have hcounted : ∀ a ∈ requests.flatMap Request.attempts, a.Counted := by
    intro a ha
    obtain ⟨q, hq, ha⟩ := List.mem_flatMap.1 ha
    exact (hsettled q hq).2.counted a ha
  have hcounters := countP_counter?_add_eq hcounted b
  simp only [Tally.count_addAll_filterMap]
  omega

/-! ### Slow backends -/

section Sample

/-- Two backends that are slower than the timeout.  The default backend is not there, and one of
the fallbacks is named twice. -/
def slow : Resolvers where
  sources := [(.google, fun _ => .answers 50 (.error (.io "refused"))),
    (.cloudflare, fun _ => .answers 100 (.ok []))]
  default := .native
  fallbackOrder := [.google, .native, .google, .cloudflare]
  timeoutMs := 20

/-- A lookup that starts with the default backend, and one that starts with a slow one. -/
def slowRequests : List Request :=
  [⟨slow, none, "a.example"⟩, ⟨slow, some .cloudflare, "b.example"⟩]

lemma answers_slow : slow.Answers := by
  intro e he domain
  simp only [slow, List.mem_cons, List.not_mem_nil, or_false] at he
  rcases he with rfl | rfl <;> exact ⟨_, _, rfl⟩

/-- The first lookup ends with an empty success of its second backend, and the second one fails, as
the backend that is slow but would succeed is cut off. -/
theorem settled_of_answers_slow :
    (∀ q ∈ slowRequests, q.resolvers.Answers) ∧
      slowRequests.map (fun q => outcomeOf q.attempts) =
        [.ok (.ok []), .ok (.error (.allFailed (.io "refused")))] ∧
      slowRequests.map (fun q => elapsedMs q.attempts) = [20 + 100, 20 + 50] ∧
      (∀ q ∈ slowRequests, Settled 20 q.domain q.chain q.attempts) ∧
      let made := slowRequests.flatMap Request.attempts
      let t := Tally.addAll {} (made.filterMap Attempt.counter?)
      t.count (.google, "success") + t.count (.google, "error") +
        t.count (.google, "timeout") = 2 := by
  have hanswers : ∀ q ∈ slowRequests, q.resolvers.Answers := by
    intro q hq
    simp only [slowRequests, List.mem_cons, List.not_mem_nil, or_false] at hq
    rcases hq with rfl | rfl <;> exact answers_slow
  obtain ⟨hsettled, hcounters⟩ := settled_of_answers hanswers
  refine ⟨hanswers, by decide +kernel, by decide +kernel, fun q hq => ?_,
    (hcounters {} .google).trans (by decide +kernel)⟩
  have htimeout : q.resolvers.timeoutMs = 20 := by
    simp only [slowRequests, List.mem_cons, List.not_mem_nil, or_false] at hq
    rcases hq with rfl | rfl <;> rfl
  exact htimeout ▸ (hsettled q hq).2

end Sample

end Resolution

end SenderPolicy
