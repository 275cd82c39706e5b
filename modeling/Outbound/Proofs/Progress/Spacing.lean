import Outbound.Progress.Throttle

/-! How often a throttle emits. A call that closes always emits, and any other emits if more than
the interval has passed since the last emission, or since the start. So each emission that closes
nothing uses up more than one interval of its own, and their number is bounded by the time that has
passed, from the start and from any emission on. -/

namespace Outbound.Throttle

abbrev Calls := List (Time × Bool)

variable {start : Time} {calls emissions rest : Calls}

def after (t : Throttle) (calls : Calls) : Throttle :=
  calls.foldl (fun t c => (t.ask c.1 c.2).2) t

def emitted (start : Time) (calls : Calls) : Calls :=
  ((calls.zip (run ⟨start⟩ calls)).filter (·.2)).map (·.1)

def latest (start : Time) (emissions : Calls) : Time := (emissions.getLast?.map (·.1)).getD start

theorem ask_eq (start now : Time) (done : Bool) :
    ask ⟨start⟩ now done = if due now start done then (true, ⟨now⟩) else (false, ⟨start⟩) := rfl

theorem emitted_cons (start now : Time) (done : Bool) (rest : Calls) :
    emitted start ((now, done) :: rest) =
      if due now start done then (now, done) :: emitted now rest else emitted start rest := by
  rw [emitted, run, ask_eq]
  split <;> simp [emitted]

theorem latest_cons (start : Time) (e : Time × Bool) (emissions : Calls) :
    latest start (e :: emissions) = latest e.1 emissions := by
  rw [latest, latest, List.getLast?_cons]
  cases emissions.getLast? <;> rfl

theorem after_eq (start : Time) (calls : Calls) :
    after ⟨start⟩ calls = ⟨latest start (emitted start calls)⟩ := by
  induction calls generalizing start with
  | nil => rfl
  | cons c rest ih =>
    obtain ⟨now, done⟩ := c
    have hstep : after ⟨start⟩ ((now, done) :: rest) = after (ask ⟨start⟩ now done).2 rest := rfl
    rw [hstep, ask_eq, emitted_cons]
    split
    · rw [latest_cons]
      exact ih now
    · exact ih start

theorem run_append (t : Throttle) (before rest : Calls) :
    t.run (before ++ rest) = t.run before ++ (t.after before).run rest := by
  induction before generalizing t with
  | nil => rfl
  | cons c before ih => exact congrArg ((t.ask c.1 c.2).1 :: ·) (ih _)

theorem run_concat (start : Time) (before : Calls) (now : Time) (done : Bool) :
    run ⟨start⟩ (before ++ [(now, done)]) =
      run ⟨start⟩ before ++ [due now (latest start (emitted start before)) done] := by
  have hasked : ∀ start, (ask ⟨start⟩ now done).1 = due now start done := fun start => by
    rw [ask_eq]
    cases due now start done <;> rfl
  rw [run_append, after_eq, run, hasked, run]

/-- Emissions come one after another from some time on, and those that close nothing more than the
interval after the one before. -/
def Paced (start : Time) : Calls → Prop
  | [] => True
  | (now, done) :: rest =>
    start ≤ now ∧ (done = false → start + interval < now) ∧ Paced now rest

/-- The number of emissions up to a time that close nothing. -/
def unforced (t : Time) (emissions : Calls) : Nat :=
  emissions.countP fun e => !e.2 && decide (e.1 ≤ t)

theorem paced_emitted (h : (start :: calls.map (·.1)).Pairwise (· ≤ ·)) :
    Paced start (emitted start calls) := by
  induction calls generalizing start with
  | nil => trivial
  | cons c rest ih =>
    obtain ⟨now, done⟩ := c
    obtain ⟨hstart, hrest⟩ := List.pairwise_cons.1 h
    rw [emitted_cons]
    split
    · next hdue =>
      refine ⟨hstart now (.head _), fun hdone => ?_, ih hrest⟩
      rw [hdone] at hdue
      exact Nat.add_lt_of_lt_sub' (due_iff.1 hdue)
    · refine ih (List.pairwise_cons.2 ⟨fun time htime => hstart time (.tail _ htime), ?_⟩)
      exact (List.pairwise_cons.1 hrest).2

theorem unforced_cons (t now : Time) (done : Bool) (rest : Calls) :
    unforced t ((now, done) :: rest) =
      if done = false ∧ now ≤ t then unforced t rest + 1 else unforced t rest := by
  rw [unforced, List.countP_cons, unforced]
  cases done <;> by_cases hnow : now ≤ t <;> simp [hnow]

theorem add_lt_sub {used gap start now t : Nat} (hgap : start + gap < now) (hnow : now ≤ t)
    (hused : used = 0 ∨ used < t - now) : used + gap < t - start := by
  omega

namespace Paced

theorem of_append {front : Calls} {e : Time × Bool} (h : Paced start (front ++ e :: rest)) :
    Paced e.1 rest := by
  induction front generalizing start with
  | nil => exact h.2.2
  | cons c front ih => exact ih h.2.2

theorem of_mem (h : Paced start emissions) {e : Time × Bool} (he : e ∈ emissions) :
    start ≤ e.1 ∧ (e.2 = false → start + interval < e.1) := by
  induction emissions generalizing start with
  | nil => cases he
  | cons c emissions ih =>
    obtain ⟨hle, hgap, hrest⟩ := h
    rcases List.mem_cons.1 he with rfl | he
    · exact ⟨hle, hgap⟩
    · obtain ⟨hlater, hfar⟩ := ih hrest he
      exact ⟨Nat.le_trans hle hlater, fun hdone =>
        Nat.lt_of_le_of_lt (Nat.add_le_add_right hle interval) (hfar hdone)⟩

theorem pairwise (h : Paced start emissions) :
    emissions.Pairwise fun e f => f.2 = false → e.1 + interval < f.1 := by
  induction emissions generalizing start with
  | nil => exact .nil
  | cons e emissions ih =>
    obtain ⟨-, -, hrest⟩ := h
    exact .cons (fun f hf => (hrest.of_mem hf).2) (ih hrest)

/-- Each emission that closes nothing uses up more than one interval, and all of them together no
more time than has passed. -/
theorem unforced_mul_lt (h : Paced start emissions) (t : Time) :
    0 < unforced t emissions → unforced t emissions * interval < t - start := by
  induction emissions generalizing start with
  | nil => exact fun hpos => absurd hpos (Nat.lt_irrefl 0)
  | cons e rest ih =>
    obtain ⟨now, done⟩ := e
    obtain ⟨hle, hgap, hrest⟩ := h
    have hlater := ih hrest
    rw [unforced_cons]
    split
    · next hcounts =>
      have hothers : unforced t rest * interval = 0 ∨ unforced t rest * interval < t - now := by
        rcases Nat.eq_zero_or_pos (unforced t rest) with hnone | hsome
        · exact .inl (by rw [hnone, Nat.zero_mul])
        · exact .inr (hlater hsome)
      intro _
      rw [Nat.add_mul, Nat.one_mul]
      exact add_lt_sub (hgap hcounts.1) hcounts.2 hothers
    · exact fun hpos => Nat.lt_of_lt_of_le (hlater hpos) (Nat.sub_le_sub_left hle t)

end Paced

/-- A call that closes emits, and any other emits exactly if more than the interval has passed since
the last emission, or since the start if there is none. So if the clock does not go back, any two
emissions of which the later closes nothing are more than the interval apart. More intervals have
passed since the start than there are emissions up to now that close nothing, if there are any, and
likewise since any emission for those that follow it. -/
theorem emissions_bounded (start : Time) :
    (∀ before now,
      run ⟨start⟩ (before ++ [(now, true)]) = run ⟨start⟩ before ++ [true] ∧
      run ⟨start⟩ (before ++ [(now, false)]) = run ⟨start⟩ before ++
        [decide (interval < now - latest start (emitted start before))]) ∧
    ∀ calls : Calls, (start :: calls.map (·.1)).Pairwise (· ≤ ·) →
      ((emitted start calls).Pairwise fun e f => f.2 = false → e.1 + interval < f.1) ∧
      (∀ t, 0 < unforced t (emitted start calls) →
        unforced t (emitted start calls) * interval < t - start) ∧
      ∀ front e rest, emitted start calls = front ++ e :: rest →
        ∀ t, 0 < unforced t rest → unforced t rest * interval < t - e.1 := by
  refine ⟨fun before now => ⟨run_concat start before now true, run_concat start before now false⟩,
    fun calls hcalls => ?_⟩
  have hpaced := paced_emitted hcalls
  refine ⟨hpaced.pairwise, hpaced.unforced_mul_lt, fun front e rest hsplit => ?_⟩
  rw [hsplit] at hpaced
  exact hpaced.of_append.unforced_mul_lt

theorem emissions_bounded_of_mixed_calls :
    let ms := Clock.millisecond
    let calls : Calls := [(50 * ms, false), (101 * ms, false), (150 * ms, true), (250 * ms, false),
      (251 * ms, false)]
    run ⟨0⟩ calls = [false, true, true, false, true] ∧
    emitted 0 calls = [(101 * ms, false), (150 * ms, true), (251 * ms, false)] ∧
    unforced (251 * ms) (emitted 0 calls) * interval < 251 * ms - 0 ∧
    unforced (251 * ms) [(251 * ms, false)] * interval < 251 * ms - 150 * ms := by
  intro ms calls
  have hemitted : emitted 0 calls =
      [(101 * ms, false)] ++ (150 * ms, true) :: [(251 * ms, false)] := by
    decide +kernel
  obtain ⟨-, hbounded⟩ := emissions_bounded 0
  obtain ⟨-, hall, hafter⟩ := hbounded calls (by decide +kernel)
  exact ⟨by decide +kernel, hemitted, hall _ (by decide +kernel),
    hafter _ _ _ hemitted _ (by decide +kernel)⟩

end Outbound.Throttle
