/-
An inquiry that is raced against a timer.

Without a deadline an inquiry is run to its end, and its attempts follow each other without a pause
(`Resolution.timetable`).  With one, the inquiry goes on question by question until it is finished
or the timer goes off, and then nothing more is asked (`Inquiry.Raced`); what comes after the
question at which it was stopped is not known to such a race.  The two agree: the attempts that a
race makes are those that start before the deadline in the run without one, and the race is won
exactly if that run ends before the deadline (`Inquiry.Raced.spec`).  The induction is on the race.
In the other direction there is a race for every inquiry, unless something ends just when the timer
goes off (`Inquiry.exists_raced`).
-/
import Mathlib.Algebra.Ring.Nat
import Mathlib.Tactic.Lemma
import SenderPolicy.Resolution.Timeline

namespace SenderPolicy

namespace Resolution

/-- Some attempts with the times at which they start, when the first one starts at `start`. -/
def timetable (start : Nat) : List Attempt → List (Nat × Attempt)
  | [] => []
  | a :: rest => (start, a) :: timetable (start + a.durationMs) rest

variable {deadline start : Nat} {made : List Attempt}

lemma elapsedMs_append (made later : List Attempt) :
    elapsedMs (made ++ later) = elapsedMs made + elapsedMs later := by
  induction made with
  | nil => simp [elapsedMs]
  | cons a made ih => simp [elapsedMs, ih, Nat.add_assoc]

lemma elapsedMs_flatMap {α : Type} (f : α → List Attempt) (l : List α) :
    elapsedMs (l.flatMap f) = (l.map fun a => elapsedMs (f a)).sum := by
  induction l with
  | nil => rfl
  | cons a l ih => rw [List.flatMap_cons, elapsedMs_append, ih, List.map_cons, List.sum_cons]

lemma timetable_append (start : Nat) (made later : List Attempt) :
    timetable start (made ++ later) =
      timetable start made ++ timetable (start + elapsedMs made) later := by
  induction made generalizing start with
  | nil => rfl
  | cons a made ih =>
      rw [List.cons_append, timetable, ih, timetable, elapsedMs, List.cons_append, Nat.add_assoc]

/-- All attempts start within the time that they take together. -/
lemma le_of_mem_timetable {e : Nat × Attempt} (h : e ∈ timetable start made) :
    start ≤ e.1 ∧ e.1 + e.2.durationMs ≤ start + elapsedMs made := by
  induction made generalizing start with
  | nil => cases h
  | cons a made ih =>
      rw [elapsedMs]
      rcases List.mem_cons.1 h with rfl | h
      · exact ⟨Nat.le_refl _, by simp only; omega⟩
      · have := ih h
        omega

lemma map_snd_timetable (start : Nat) (made : List Attempt) :
    (timetable start made).map Prod.snd = made := by
  induction made generalizing start with
  | nil => rfl
  | cons a made ih => rw [timetable, List.map_cons, ih]

/-- The attempts that start before the deadline are picked from the timetable. -/
lemma startedBefore_eq_filter (deadline start : Nat) (made : List Attempt) :
    startedBefore deadline start made =
      ((timetable start made).filter fun e => e.1 < deadline).map Prod.snd := by
  induction made generalizing start with
  | nil => rfl
  | cons a made ih =>
      rw [startedBefore, timetable]
      -- behind an attempt that starts too late no other one starts in time
      by_cases h : start < deadline
      · rw [if_pos h, List.filter_cons_of_pos (by simpa using h), List.map_cons, ih]
      · have hlate : ∀ e ∈ timetable (start + a.durationMs) made, ¬ e.1 < deadline := by
          intro e he
          have := (le_of_mem_timetable he).1
          omega
        rw [if_neg h, List.filter_cons_of_neg (by simpa using h),
          List.filter_eq_nil_iff.2 (by simpa using hlate), List.map_nil]

lemma startedBefore_append (deadline start : Nat) (made later : List Attempt) :
    startedBefore deadline start (made ++ later) = startedBefore deadline start made ++
      startedBefore deadline (start + elapsedMs made) later := by
  rw [startedBefore_eq_filter, startedBefore_eq_filter, startedBefore_eq_filter, timetable_append,
    List.filter_append, List.map_append]

/-- Attempts that are over before the deadline all start before it. -/
lemma startedBefore_of_lt (h : start + elapsedMs made < deadline) :
    startedBefore deadline start made = made := by
  have hearly : ∀ e ∈ timetable start made, e.1 < deadline := by
    intro e he
    have := (le_of_mem_timetable he).2
    omega
  rw [startedBefore_eq_filter, List.filter_eq_self.2 (by simpa using hearly), map_snd_timetable]

lemma startedBefore_of_le (h : deadline ≤ start) : startedBefore deadline start made = [] := by
  cases made with
  | nil => rfl
  | cons a made => exact if_neg (Nat.not_lt.2 h)

/-- Either all attempts are over before the deadline, or it falls into one of them, or on the end
of one. -/
lemma lt_or_exists_split (hstart : start < deadline)
    (htie : ∀ e ∈ timetable start made, e.1 + e.2.durationMs ≠ deadline) :
    start + elapsedMs made < deadline ∨ ∃ earlier a others, made = earlier ++ a :: others ∧
      start + elapsedMs earlier < deadline ∧
        deadline < start + elapsedMs earlier + a.durationMs := by
  induction made generalizing start with
  | nil => exact Or.inl hstart
  | cons a made ih =>
      rw [timetable, List.forall_mem_cons] at htie
      obtain ⟨hne, htie⟩ := htie
      simp only at hne
      -- the timer goes off during the first attempt or not
      rcases Nat.lt_or_ge deadline (start + a.durationMs) with hlt | hge
      · exact Or.inr ⟨[], a, made, rfl, hstart, hlt⟩
      · rcases ih (by omega) htie with hall | ⟨earlier, b, others, rfl, hbefore, hafter⟩
        · rw [elapsedMs]
          exact Or.inl (by omega)
        · refine Or.inr ⟨a :: earlier, b, others, rfl, ?_, ?_⟩ <;>
            · rw [elapsedMs]
              omega

end Resolution

namespace Inquiry

open Resolution

variable {α : Type} {attempts : String → List Attempt} {answerOf : String → TxtAnswer}

/-! ### Runs without a deadline -/

/-- If every lookup is answered, the attempts are those of the queries, and the value is that of the
inquiry with these answers. -/
lemma runAttempts_eq (h : ∀ domain, outcomeOf (attempts domain) = .ok (answerOf domain))
    (i : Inquiry α) :
    i.runAttempts attempts = ((i.queries answerOf).flatMap attempts, .ok (i.run answerOf)) := by
  induction i with
  | done a => rfl
  | ask domain next ih =>
      simp only [runAttempts, h, ih, queries, run, List.flatMap_cons]

/-- What comes out of attempts is what comes out of some run. -/
lemma exists_run_of_runAttempts {i : Inquiry α} {a : α}
    (h : (i.runAttempts attempts).2 = .ok a) : ∃ events, Run i events a := by
  induction i with
  | done b =>
      obtain rfl := Except.ok.inj h
      exact ⟨[], Run.done b⟩
  | ask domain next ih =>
      rw [runAttempts] at h
      cases houtcome : outcomeOf (attempts domain) with
      | error payload =>
          simp only [houtcome] at h
          cases h
      | ok answer =>
          simp only [houtcome] at h
          obtain ⟨events, hrun⟩ := ih answer h
          exact ⟨(domain, answer) :: events, Run.ask hrun⟩

/-- An inquiry has no result only because of some lookup that has no answer. -/
lemma exists_error_of_runAttempts {i : Inquiry α} {payload : Payload}
    (h : (i.runAttempts attempts).2 = .error payload) :
    ∃ domain, outcomeOf (attempts domain) = .error payload := by
  induction i with
  | done b => cases h
  | ask domain next ih =>
      rw [runAttempts] at h
      cases houtcome : outcomeOf (attempts domain) with
      | error payload' =>
          simp only [houtcome, Except.error.injEq] at h
          exact ⟨domain, h ▸ houtcome⟩
      | ok answer =>
          simp only [houtcome] at h
          exact ih answer h

variable (attempts) in
lemma exists_runAttempts_ask (domain : String) (next : TxtAnswer → Inquiry α) :
    ∃ later, ((ask domain next).runAttempts attempts).1 = attempts domain ++ later := by
  rw [runAttempts]
  cases outcomeOf (attempts domain) with
  | error payload => exact ⟨[], (List.append_nil _).symm⟩
  | ok answer => exact ⟨_, rfl⟩

/-! ### Races -/

/-- `Raced attempts deadline now i started result`: the inquiry `i` goes on at the time `now` until
it is finished or the deadline has come.  By then the attempts `started` were made, and there is a
result if it is finished. -/
inductive Raced (attempts : String → List Attempt) (deadline : Nat) :
    Nat → Inquiry α → List Attempt → Option α → Prop where
  /-- The inquiry is finished in time. -/
  | finished {now : Nat} {a : α} (hnow : now < deadline) :
      Raced attempts deadline now (.done a) [] (some a)
  /-- The question is answered in time, and the inquiry goes on. -/
  | answered {now : Nat} {domain : String} {next : TxtAnswer → Inquiry α} {answer : TxtAnswer}
      {later : List Attempt} {result : Option α}
      (hanswer : outcomeOf (attempts domain) = .ok answer)
      (hnow : now + elapsedMs (attempts domain) < deadline)
      (rest : Raced attempts deadline (now + elapsedMs (attempts domain)) (next answer) later
        result) :
      Raced attempts deadline now (.ask domain next) (attempts domain ++ later) result
  /-- The timer goes off during one of the attempts to answer the question. -/
  | aborted {now : Nat} {domain : String} {next : TxtAnswer → Inquiry α} {earlier : List Attempt}
      {a : Attempt} {others : List Attempt} (hmade : attempts domain = earlier ++ a :: others)
      (hstart : now + elapsedMs earlier < deadline)
      (hend : deadline < now + elapsedMs earlier + a.durationMs) :
      Raced attempts deadline now (.ask domain next) (earlier ++ [a]) none

/-- A race makes the attempts that start before the deadline in the run without one.  It is won with
the result of that run, which is then over before the deadline, or it is lost, and then the run goes
on beyond the deadline. -/
lemma Raced.spec {deadline now : Nat} {i : Inquiry α} {started : List Attempt} {result : Option α}
    (h : Raced attempts deadline now i started result) :
    started = startedBefore deadline now (i.runAttempts attempts).1 ∧
      ((∃ a, result = some a ∧ (i.runAttempts attempts).2 = .ok a ∧
          now + elapsedMs (i.runAttempts attempts).1 < deadline) ∨
        result = none ∧ deadline < now + elapsedMs (i.runAttempts attempts).1) := by
  induction h with
  | @finished now a hnow => exact ⟨rfl, Or.inl ⟨a, rfl, rfl, hnow⟩⟩
  | @answered now domain next answer later result hanswer hnow _ ih =>
      have hrun : (ask domain next).runAttempts attempts =
          (attempts domain ++ ((next answer).runAttempts attempts).1,
            ((next answer).runAttempts attempts).2) := by
        simp only [runAttempts, hanswer]
      obtain ⟨hstarted, hresult⟩ := ih
      rw [hrun, startedBefore_append, startedBefore_of_lt hnow, ← hstarted, elapsedMs_append,
        ← Nat.add_assoc]
      exact ⟨rfl, hresult⟩
  | @aborted now domain next earlier a others hmade hstart hend =>
      obtain ⟨later, hlater⟩ := exists_runAttempts_ask attempts domain next
      have hrun : ((ask domain next).runAttempts attempts).1 =
          earlier ++ a :: (others ++ later) := by
        rw [hlater, hmade, List.append_assoc, List.cons_append]
      rw [hrun, startedBefore_append, startedBefore_of_lt hstart, startedBefore, if_pos hstart,
        startedBefore_of_le (Nat.le_of_lt hend), elapsedMs_append, elapsedMs]
      exact ⟨rfl, Or.inr ⟨rfl, by omega⟩⟩

/-- There is a race unless an attempt ends just when the timer goes off. -/
lemma exists_raced (h : ∀ domain, outcomeOf (attempts domain) = .ok (answerOf domain))
    {deadline now : Nat} {i : Inquiry α} (hnow : now < deadline)
    (htie : ∀ e ∈ timetable now (i.runAttempts attempts).1, e.1 + e.2.durationMs ≠ deadline) :
    ∃ started result, Raced attempts deadline now i started result := by
  induction i generalizing now with
  | done a => exact ⟨[], some a, .finished hnow⟩
  | ask domain next ih =>
      have hrun : ((ask domain next).runAttempts attempts).1 =
          attempts domain ++ ((next (answerOf domain)).runAttempts attempts).1 := by
        simp only [runAttempts, h]
      rw [hrun, timetable_append, List.forall_mem_append] at htie
      obtain ⟨hfirst, hrest⟩ := htie
      rcases lt_or_exists_split hnow hfirst with
        htime | ⟨earlier, a, others, hmade, hstart, hend⟩
      · obtain ⟨later, result, hraced⟩ := ih (answerOf domain) htime hrest
        exact ⟨_, result, .answered (h domain) htime hraced⟩
      · exact ⟨_, none, .aborted hmade hstart hend⟩

end Inquiry

end SenderPolicy
