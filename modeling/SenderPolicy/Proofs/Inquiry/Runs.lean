/-
Runs of inquiries.

A run of an inquiry is one way in which its questions can be answered, together with the value that
it then has.  The lemmas here take the runs of composed inquiries apart: a run of one inquiry after
another is a run of the first followed by a run of the second, and two continuations that agree on
all values of an inquiry can be exchanged behind it.  An inquiry has a run for every way of
answering: with a fixed answer for every name it is the run that `Inquiry.run` and
`Inquiry.queries` describe, and with answers that depend on a state the one of `Inquiry.runState`.
-/
import Mathlib.Tactic.Lemma
import SenderPolicy.Inquiry

namespace SenderPolicy

namespace Inquiry

variable {α β σ : Type} {events : List (String × TxtAnswer)}

lemma run_done_iff {a b : α} : Run (done a) events b ↔ events = [] ∧ b = a := by
  constructor
  · intro h
    cases h
    exact ⟨rfl, rfl⟩
  · rintro ⟨rfl, rfl⟩
    exact Run.done b

lemma run_ask_iff {domain : String} {next : TxtAnswer → Inquiry α} {a : α} :
    Run (ask domain next) events a ↔
      ∃ answer rest, events = (domain, answer) :: rest ∧ Run (next answer) rest a := by
  constructor
  · intro h
    cases h with
    | ask rest => exact ⟨_, _, rfl, rest⟩
  · rintro ⟨answer, rest, rfl, h⟩
    exact Run.ask h

/-- The runs of one inquiry after another. -/
lemma run_bind_iff {i : Inquiry α} {f : α → Inquiry β} {b : β} :
    Run (i >>= f) events b ↔
      ∃ first second a, events = first ++ second ∧ Run i first a ∧ Run (f a) second b := by
  induction i generalizing events with
  | done a =>
      constructor
      · intro h
        exact ⟨[], events, a, rfl, Run.done a, h⟩
      · rintro ⟨first, second, a', rfl, h₁, h₂⟩
        obtain ⟨rfl, rfl⟩ := run_done_iff.1 h₁
        exact h₂
  | ask domain next ih =>
      constructor
      · intro h
        rw [ask_bind] at h
        obtain ⟨answer, rest, rfl, hrest⟩ := run_ask_iff.1 h
        obtain ⟨first, second, a, rfl, h₁, h₂⟩ := (ih answer).1 hrest
        exact ⟨(domain, answer) :: first, second, a, rfl, Run.ask h₁, h₂⟩
      · rintro ⟨first, second, a, rfl, h₁, h₂⟩
        obtain ⟨answer, rest, rfl, hrest⟩ := run_ask_iff.1 h₁
        rw [ask_bind]
        exact Run.ask ((ih answer).2 ⟨rest, second, a, rfl, hrest, h₂⟩)

/-- Continuations that agree on every value that an inquiry can have are the same behind it. -/
lemma bind_congr_of_run {i : Inquiry α} {f g : α → Inquiry β}
    (h : ∀ events a, Run i events a → f a = g a) : (i >>= f) = (i >>= g) := by
  induction i with
  | done a => exact h [] a (Run.done a)
  | ask domain next ih =>
      rw [ask_bind, ask_bind]
      congr 1
      funext answer
      exact ih answer fun events a hrun => h ((domain, answer) :: events) a (Run.ask hrun)

/-- With a fixed answer for every name, an inquiry asks its queries and has its value. -/
lemma run_of_fixed (resolve : String → TxtAnswer) (i : Inquiry α) :
    Run i ((i.queries resolve).map fun domain => (domain, resolve domain)) (i.run resolve) := by
  induction i with
  | done a => exact Run.done a
  | ask domain next ih => exact Run.ask (ih (resolve domain))

/-- With a fixed answer for every name there is no other run. -/
lemma Run.eq_of_fixed {resolve : String → TxtAnswer} {i : Inquiry α} {a : α}
    (h : Run i events a) (hfixed : ∀ p ∈ events, p.2 = resolve p.1) :
    i.queries resolve = events.map Prod.fst ∧ i.run resolve = a := by
  induction h with
  | done a => exact ⟨rfl, rfl⟩
  | @ask domain next answer events a _ ih =>
      obtain ⟨hanswer, hevents⟩ := List.forall_mem_cons.1 hfixed
      obtain rfl : answer = resolve domain := hanswer
      obtain ⟨hqueries, hvalue⟩ := ih hevents
      exact ⟨congrArg (domain :: ·) hqueries, hvalue⟩

/-- An inquiry that can ask what another one asks, and be given the same answers, asks the same. -/
lemma Run.eq_of_queries {resolve : String → TxtAnswer} {i : Inquiry α} {j : Inquiry β} {b : β}
    (h : Run j ((i.queries resolve).map fun domain => (domain, resolve domain)) b) :
    j.queries resolve = i.queries resolve ∧ j.run resolve = b := by
  have hfixed : ∀ p ∈ (i.queries resolve).map fun domain => (domain, resolve domain),
      p.2 = resolve p.1 := List.forall_mem_map.2 fun _ _ => rfl
  obtain ⟨hqueries, hvalue⟩ := h.eq_of_fixed hfixed
  refine ⟨?_, hvalue⟩
  rw [hqueries, List.map_map]
  exact List.map_id _

/-- `Answered resolve s events s'`: the questions are answered one after the other by something that
starts in the state `s`, which every question may change, and ends in the state `s'`. -/
inductive Answered (resolve : String → σ → TxtAnswer × σ) :
    σ → List (String × TxtAnswer) → σ → Prop where
  | nil (s : σ) : Answered resolve s [] s
  | cons {domain : String} {s s' : σ} {events : List (String × TxtAnswer)}
      (rest : Answered resolve (resolve domain s).2 events s') :
      Answered resolve s ((domain, (resolve domain s).1) :: events) s'

/-- Whatever the answers depend on, an inquiry comes to an end. -/
lemma exists_run_of_state (resolve : String → σ → TxtAnswer × σ) (i : Inquiry α) (s : σ) :
    ∃ events, Run i events (i.runState resolve s).1 ∧
      Answered resolve s events (i.runState resolve s).2 := by
  induction i generalizing s with
  | done a => exact ⟨[], Run.done a, .nil s⟩
  | ask domain next ih =>
      obtain ⟨events, hrun, hanswered⟩ := ih (resolve domain s).1 (resolve domain s).2
      exact ⟨_, Run.ask hrun, .cons hanswered⟩

end Inquiry

end SenderPolicy
