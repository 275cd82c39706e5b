import Mathlib.Algebra.GroupWithZero.Nat
import Mathlib.Data.List.Chain
import Mathlib.Data.List.Induction
import Outbound.Progress.Meter

/-! The reports of a meter over all polls of its stream. A poll closes if it is the end, or a chunk that
brings the count to the known total. The first poll that closes brings a report, and no report follows.
Before it a report needs a chunk and more than the interval since the last report. -/

namespace Outbound

variable {ε : Type}

abbrev Polls (ε : Type) := List (Time × Polled ε)

def Polled.size : Polled ε → Nat
  | .chunk data => data.length
  | _ => 0

namespace Meter

variable {m : Meter} {begun now : Time} {total : Option Nat} {item : Polled ε}
  {polls before : Polls ε}

def passed (polls : Polls ε) : Nat := (polls.map (·.2.size)).sum

def Reaches (total : Option Nat) (bytes : Nat) : Prop := ∃ t ∈ total, t ≤ bytes

instance (total : Option Nat) (bytes : Nat) : Decidable (Reaches total bytes) :=
  inferInstanceAs (Decidable (∃ t ∈ total, t ≤ bytes))

/-- A poll closes: it is the end, or a chunk that brings the count to the total. -/
def Closes (total : Option Nat) (before : Polls ε) : Polled ε → Prop
  | .chunk data => Reaches total (passed before + data.length)
  | .ended => True
  | _ => False

def Closed (total : Option Nat) (polls : Polls ε) : Prop :=
  ∃ before now item after, polls = before ++ (now, item) :: after ∧ Closes total before item

def reports (m : Meter) (polls : Polls ε) : List (Time × Progress) :=
  (polls.zip (m.run polls)).filterMap fun (p, reading) => reading.report.map (p.1, ·)

def latest (begun : Time) (reports : List (Time × Progress)) : Time :=
  (reports.getLast?.map (·.1)).getD begun

/-- A poll calls for a report. -/
def Calls (begun : Time) (total : Option Nat) (before : Polls ε) (now : Time) : Polled ε → Prop
  | .chunk data => ¬ Closed total before ∧ (Reaches total (passed before + data.length) ∨
      Throttle.interval < now - latest begun ((start begun total).reports before))
  | .ended => ¬ Closed total before
  | _ => False

def after (m : Meter) (polls : Polls ε) : Meter := polls.foldl (fun m p => (m.poll p.1 p.2).meter) m

theorem passed_concat (before : Polls ε) (now : Time) (item : Polled ε) :
    passed (before ++ [(now, item)]) = passed before + item.size := by
  simp [passed]

theorem not_closed_nil (total : Option Nat) : ¬ Closed total ([] : Polls ε) := by
  rintro ⟨before, now, item, after, h, -⟩
  simp at h

theorem closed_concat : Closed total (before ++ [(now, item)]) ↔
    Closed total before ∨ Closes total before item := by
  constructor
  · rintro ⟨front, time, poll, rest, h, hcloses⟩
    cases rest using List.reverseRecOn with
    | nil =>
      obtain ⟨rfl, hlast⟩ := List.append_inj' h rfl
      cases hlast
      exact .inr hcloses
    | append_singleton rest last =>
      rw [← List.cons_append, ← List.append_assoc] at h
      obtain ⟨rfl, -⟩ := List.append_inj' h rfl
      exact .inl ⟨front, time, poll, rest, rfl, hcloses⟩
  · rintro (⟨front, time, poll, rest, rfl, hcloses⟩ | hcloses)
    · exact ⟨front, time, poll, rest ++ [(now, item)], by simp, hcloses⟩
    · exact ⟨before, now, item, [], rfl, hcloses⟩

theorem calls_of_closes (h : ¬ Closed total before) (hcloses : Closes total before item) :
    Calls begun total before now item := by
  cases item with
  | chunk data => exact ⟨h, .inl hcloses⟩
  | ended => exact h
  | failed error => exact hcloses
  | pending => exact hcloses

theorem not_calls_of_closed (h : Closed total before) : ¬ Calls begun total before now item := by
  cases item with
  | chunk data => exact fun hcalls => hcalls.1 h
  | ended => exact fun hcalls => hcalls h
  | failed error => exact id
  | pending => exact id

theorem run_append (m : Meter) (before rest : Polls ε) :
    m.run (before ++ rest) = m.run before ++ (m.after before).run rest := by
  induction before generalizing m with
  | nil => rfl
  | cons p before ih => exact congrArg (m.poll p.1 p.2 :: ·) (ih _)

theorem length_run (m : Meter) (polls : Polls ε) : (m.run polls).length = polls.length := by
  induction polls generalizing m with
  | nil => rfl
  | cons p polls ih => exact congrArg Nat.succ (ih _)

theorem items_run (m : Meter) (polls : Polls ε) :
    (m.run polls).map (·.item) = polls.map (·.2) := by
  induction polls generalizing m with
  | nil => rfl
  | cons p polls ih => exact congrArg (p.2 :: ·) (ih _)

theorem after_concat (m : Meter) (before : Polls ε) (now : Time) (item : Polled ε) :
    m.after (before ++ [(now, item)]) = ((m.after before).poll now item).meter := List.foldl_append

theorem reports_concat (m : Meter) (before : Polls ε) (now : Time) (item : Polled ε) :
    m.reports (before ++ [(now, item)]) =
      m.reports before ++ (((m.after before).poll now item).report.map (now, ·)).toList := by
  rw [reports, run_append, List.zip_append (length_run m before).symm, List.filterMap_append]
  rfl

theorem count_eq (m : Meter) (now : Time) (size : Nat) :
    m.count now size =
      if m.finished = false ∧ (Reaches m.total (m.transferred + size) ∨
          Throttle.interval < now - m.throttle.last) then
        (some ⟨m.transferred + size, m.total⟩,
          { m with
            transferred := m.transferred + size, throttle := ⟨now⟩
            finished := decide (Reaches m.total (m.transferred + size)) })
      else (none, { m with transferred := m.transferred + size }) := by
  have hreached : ∀ m : Meter, m.reached = decide (Reaches m.total m.transferred) := by
    intro m
    cases h : m.total <;> simp [reached, Reaches, h]
  cases hfinished : m.finished with
  | true => simp [count, hfinished]
  | false =>
    by_cases hreaches : Reaches m.total (m.transferred + size)
    · simp [count, hfinished, hreached, hreaches, Throttle.ask, progress]
    · by_cases hdue : Throttle.interval < now - m.throttle.last
      · simp [count, hfinished, hreached, hreaches, Throttle.ask, Throttle.due, hdue, progress]
      · simp [count, hfinished, hreached, hreaches, Throttle.ask, Throttle.due, hdue]

theorem close_meter (m : Meter) :
    m.close.2.transferred = m.transferred ∧ m.close.2.total = m.total ∧
      m.close.2.finished = true := by
  rw [close]
  split
  · exact ⟨rfl, rfl, ‹_›⟩
  · exact ⟨rfl, rfl, rfl⟩

structure Counts (begun : Time) (total : Option Nat) (polls : Polls ε) (m : Meter) : Prop where
  transferred : m.transferred = passed polls
  total_eq : m.total = total
  finished : m.finished = true ↔ Closed total polls
  last : ¬ Closed total polls → m.throttle.last = latest begun ((start begun total).reports polls)

theorem Counts.finished_iff (hm : Counts begun total before m) :
    m.finished = false ↔ ¬ Closed total before := by
  rw [← hm.finished, Bool.not_eq_true]

theorem Counts.count_eq (hm : Counts begun total before m) (now : Time) (data : Bytes) :
    (Calls begun total before now (.chunk data) →
      m.count now data.length = (some ⟨passed before + data.length, total⟩,
        ⟨passed before + data.length, total, ⟨now⟩,
          decide (Reaches total (passed before + data.length))⟩)) ∧
    (¬ Calls begun total before now (.chunk data) →
      m.count now data.length =
        (none, { m with transferred := passed before + data.length })) := by
  have hcalls : Calls begun total before now (.chunk data) ↔ m.finished = false ∧
      (Reaches total (passed before + data.length) ∨
        Throttle.interval < now - m.throttle.last) := by
    rw [Calls, ← hm.finished_iff]
    refine and_congr_right fun h => ?_
    rw [hm.last (hm.finished_iff.1 h)]
  rw [hcalls, Meter.count_eq, hm.total_eq, hm.transferred]
  exact ⟨fun h => if_pos h, fun h => if_neg h⟩

theorem Counts.report_eq (hm : Counts begun total before m) (now : Time) (item : Polled ε) :
    (Calls begun total before now item →
      (m.poll now item).report = some ⟨passed (before ++ [(now, item)]), total⟩) ∧
    (¬ Calls begun total before now item → (m.poll now item).report = none) := by
  rw [passed_concat]
  cases item with
  | chunk data =>
    obtain ⟨hcalls, hnot⟩ := hm.count_eq now data
    exact ⟨fun h => congrArg Prod.fst (hcalls h), fun h => congrArg Prod.fst (hnot h)⟩
  | ended =>
    have hcalls : Calls begun total before now (.ended : Polled ε) ↔ m.finished = false :=
      hm.finished_iff.symm
    rw [hcalls, poll, close]
    cases m.finished <;> simp [progress, hm.total_eq, hm.transferred, Polled.size]
  | failed error => exact ⟨False.elim, fun _ => rfl⟩
  | pending => exact ⟨False.elim, fun _ => rfl⟩

theorem getLast?_times (begun : Time) (reports : List (Time × Progress)) :
    (begun :: reports.map (·.1)).getLast? = some (latest begun reports) := by
  rw [List.getLast?_cons, List.getLast?_map, latest]

theorem latest_concat (begun : Time) (reports : List (Time × Progress)) (r : Time × Progress) :
    latest begun (reports ++ [r]) = r.1 := by
  simp [latest]

theorem reports_poll (hm : Counts begun total before ((start begun total).after before))
    (now : Time) (item : Polled ε) :
    (Calls begun total before now item →
      (start begun total).reports (before ++ [(now, item)]) =
        (start begun total).reports before ++ [(now, ⟨passed (before ++ [(now, item)]), total⟩)]) ∧
    (¬ Calls begun total before now item →
      (start begun total).reports (before ++ [(now, item)]) =
        (start begun total).reports before) := by
  obtain ⟨hcalls, hnot⟩ := hm.report_eq now item
  rw [reports_concat]
  constructor
  · intro h
    rw [hcalls h]
    rfl
  · intro h
    rw [hnot h]
    exact List.append_nil _

theorem Counts.poll (hm : Counts begun total before ((start begun total).after before))
    (now : Time) (item : Polled ε) :
    Counts begun total (before ++ [(now, item)])
      (((start begun total).after before).poll now item).meter := by
  obtain ⟨hcalls, hnot⟩ := reports_poll hm now item
  have hkept : ¬ Calls begun total before now item → ¬ Closed total (before ++ [(now, item)]) →
      ((start begun total).after before).throttle.last =
        latest begun ((start begun total).reports (before ++ [(now, item)])) := fun h hopen => by
    rw [hnot h]
    exact hm.last fun hclosed => hopen (closed_concat.2 (.inl hclosed))
  cases item with
  | chunk data =>
    obtain ⟨hcount, hpass⟩ := hm.count_eq now data
    by_cases h : Calls begun total before now (.chunk data)
    · rw [show (Meter.poll _ now (.chunk data)).meter = _ from congrArg Prod.snd (hcount h)]
      refine ⟨(passed_concat before now (.chunk data)).symm, rfl, ?_, fun _ => ?_⟩
      · rw [closed_concat, or_iff_right h.1]
        exact decide_eq_true_iff
      · rw [hcalls h, latest_concat]
    · rw [show (Meter.poll _ now (.chunk data)).meter = _ from congrArg Prod.snd (hpass h)]
      refine ⟨(passed_concat before now (.chunk data)).symm, hm.total_eq, ?_, hkept h⟩
      rw [closed_concat, hm.finished]
      refine (or_iff_left_of_imp fun hcloses => ?_).symm
      by_contra hopen
      exact h (calls_of_closes hopen hcloses)
  | ended =>
    have hclosed : Closed total (before ++ [(now, .ended)]) := closed_concat.2 (.inr trivial)
    obtain ⟨htransferred, htotal, hfinished⟩ := close_meter ((start begun total).after before)
    exact ⟨(htransferred.trans hm.transferred).trans (passed_concat before now .ended).symm,
      htotal.trans hm.total_eq, iff_of_true hfinished hclosed, fun hopen => absurd hclosed hopen⟩
  | failed error =>
    refine ⟨hm.transferred.trans (passed_concat before now (.failed error)).symm, hm.total_eq, ?_,
      hkept id⟩
    rw [closed_concat, or_iff_left (show ¬ Closes total before (.failed error) from id)]
    exact hm.finished
  | pending =>
    refine ⟨hm.transferred.trans (passed_concat before now .pending).symm, hm.total_eq, ?_,
      hkept id⟩
    rw [closed_concat, or_iff_left (show ¬ Closes total before .pending from id)]
    exact hm.finished

theorem counts_after (begun : Time) (total : Option Nat) (polls : Polls ε) :
    Counts begun total polls ((start begun total).after polls) := by
  induction polls using List.reverseRecOn with
  | nil => exact ⟨rfl, rfl, iff_of_false Bool.false_ne_true (not_closed_nil total), fun _ => rfl⟩
  | append_singleton before p hm =>
    rw [after_concat]
    exact hm.poll p.1 p.2

theorem reports_concat_of_calls (h : Calls begun total before now item) :
    (start begun total).reports (before ++ [(now, item)]) =
      (start begun total).reports before ++ [(now, ⟨passed (before ++ [(now, item)]), total⟩)] :=
  (reports_poll (counts_after begun total before) now item).1 h

theorem reports_concat_of_not_calls (h : ¬ Calls begun total before now item) :
    (start begun total).reports (before ++ [(now, item)]) = (start begun total).reports before :=
  (reports_poll (counts_after begun total before) now item).2 h

theorem reports_append_of_closed (h : Closed total before) (rest : Polls ε) :
    (start begun total).reports (before ++ rest) = (start begun total).reports before := by
  induction rest using List.reverseRecOn with
  | nil => rw [List.append_nil]
  | append_singleton rest p ih =>
    have hclosed : Closed total (before ++ rest) := by
      obtain ⟨front, now, item, tail, rfl, hcloses⟩ := h
      exact ⟨front, now, item, tail ++ rest, by simp, hcloses⟩
    rw [← List.append_assoc, ← ih]
    exact reports_concat_of_not_calls (not_calls_of_closed hclosed)

theorem exists_first_closing (h : Closed total polls) : ∃ before now item after,
    polls = before ++ (now, item) :: after ∧ ¬ Closed total before ∧ Closes total before item := by
  induction polls using List.reverseRecOn with
  | nil => exact absurd h (not_closed_nil total)
  | append_singleton polls p ih =>
    by_cases hopen : Closed total polls
    · obtain ⟨before, now, item, after, rfl, hfirst⟩ := ih hopen
      exact ⟨before, now, item, after ++ [p], by simp, hfirst⟩
    · exact ⟨polls, p.1, p.2, [], rfl, hopen, (closed_concat.1 h).resolve_left hopen⟩

theorem reports_of_first_closing {after : Polls ε} (hopen : ¬ Closed total before)
    (hcloses : Closes total before item) :
    (start begun total).reports (before ++ (now, item) :: after) =
      (start begun total).reports before ++
        [(now, ⟨passed (before ++ [(now, item)]), total⟩)] := by
  have hclosed : Closed total (before ++ [(now, item)]) := closed_concat.2 (.inr hcloses)
  rw [← reports_concat_of_calls (calls_of_closes hopen hcloses),
    ← reports_append_of_closed hclosed after, List.append_assoc, List.singleton_append]

/-- A report tells at a chunk what has passed with it, which is less than the total. -/
def ToldAtChunk (total : Option Nat) (polls : Polls ε) (r : Time × Progress) : Prop :=
  ∃ before data after, polls = before ++ (r.1, .chunk data) :: after ∧
    r.2 = ⟨passed before + data.length, total⟩ ∧ ¬ Reaches total r.2.bytes

theorem ToldAtChunk.concat {r : Time × Progress} (h : ToldAtChunk total polls r)
    (p : Time × Polled ε) : ToldAtChunk total (polls ++ [p]) r := by
  obtain ⟨before, data, after, rfl, htold⟩ := h
  exact ⟨before, data, after ++ [p], by simp, htold⟩

theorem due_of_calls (h : Calls begun total before now item) (hopen : ¬ Closes total before item) :
    latest begun ((start begun total).reports before) + Throttle.interval < now ∧
      ToldAtChunk total (before ++ [(now, item)])
        (now, ⟨passed (before ++ [(now, item)]), total⟩) := by
  rw [passed_concat]
  cases item with
  | chunk data =>
    exact ⟨Nat.add_lt_of_lt_sub' (h.2.resolve_left hopen), before, data, [], rfl, rfl, hopen⟩
  | ended => exact absurd trivial hopen
  | failed error => exact h.elim
  | pending => exact h.elim

theorem reports_of_open (h : ¬ Closed total polls) :
    ((begun :: ((start begun total).reports polls).map (·.1)).IsChain
      fun s t => s + Throttle.interval < t) ∧
    ∀ r ∈ (start begun total).reports polls, ToldAtChunk total polls r := by
  induction polls using List.reverseRecOn with
  | nil => exact ⟨List.isChain_singleton _, by simp [reports]⟩
  | append_singleton before p ih =>
    obtain ⟨now, item⟩ := p
    rw [closed_concat, not_or] at h
    obtain ⟨hchain, htold⟩ := ih h.1
    have hbefore : ∀ r ∈ (start begun total).reports before,
        ToldAtChunk total (before ++ [(now, item)]) r := fun r hr => (htold r hr).concat _
    by_cases hcalls : Calls begun total before now item
    · obtain ⟨hdue, hnow⟩ := due_of_calls hcalls h.2
      rw [reports_concat_of_calls hcalls, List.map_append, ← List.cons_append, List.isChain_append,
        getLast?_times]
      refine ⟨⟨hchain, List.isChain_singleton _, ?_⟩, ?_⟩
      · rintro _ ⟨⟩ _ ⟨⟩
        exact hdue
      · exact List.forall_mem_append.2 ⟨hbefore, List.forall_mem_singleton.2 hnow⟩
    · rw [reports_concat_of_not_calls hcalls]
      exact ⟨hchain, hbefore⟩

/-- A meter hands on what its stream yields. At each poll it makes one report at most, of the bytes that
have passed and the given total: at the first poll that closes, whenever it comes, and before this one at
the chunks that come more than the interval after the last report. So the reports before the closing one
are spaced and below the total, the closing one is made when the end has been polled at the latest, and
nothing follows it, however often the stream is polled after that. The clock may do anything. -/
theorem reports_spaced_and_closed_once (begun : Time) (total : Option Nat) :
    let m := start begun total
    (∀ polls : Polls ε, (m.run polls).map (·.item) = polls.map (·.2)) ∧
    (∀ (before : Polls ε) now item,
      (Calls begun total before now item → m.reports (before ++ [(now, item)]) =
        m.reports before ++ [(now, ⟨passed (before ++ [(now, item)]), total⟩)]) ∧
      (¬ Calls begun total before now item →
        m.reports (before ++ [(now, item)]) = m.reports before)) ∧
    (∀ polls : Polls ε, ¬ Closed total polls →
      ((begun :: (m.reports polls).map (·.1)).IsChain fun s t => s + Throttle.interval < t) ∧
      ∀ r ∈ m.reports polls, ToldAtChunk total polls r) ∧
    (∀ polls : Polls ε, Closed total polls → ∃ before now item after,
      polls = before ++ (now, item) :: after ∧ ¬ Closed total before ∧ Closes total before item ∧
      m.reports polls = m.reports before ++ [(now, ⟨passed (before ++ [(now, item)]), total⟩)]) ∧
    ∀ polls : Polls ε, (∃ now, (now, .ended) ∈ polls) → Closed total polls := by
  refine ⟨items_run _, fun before now item => ⟨reports_concat_of_calls, reports_concat_of_not_calls⟩,
    fun polls => reports_of_open, fun polls h => ?_, fun polls => ?_⟩
  · obtain ⟨before, now, item, after, rfl, hopen, hcloses⟩ := exists_first_closing h
    exact ⟨before, now, item, after, rfl, hopen, hcloses, reports_of_first_closing hopen hcloses⟩
  · rintro ⟨now, hmem⟩
    obtain ⟨before, after, rfl⟩ := List.append_of_mem hmem
    exact ⟨before, now, .ended, after, rfl, trivial⟩

theorem reports_spaced_and_closed_once_of_late_polls :
    let ms := Clock.millisecond
    let m := start 0 (some 10)
    let early : Polls Unit := [(50 * ms, .chunk [1, 2, 3]), (90 * ms, .failed ()), (120 * ms, .pending)]
    let polls : Polls Unit := early ++ [(150 * ms, .chunk [4, 5, 6, 7]), (200 * ms, .chunk [8, 9, 10]),
      (210 * ms, .ended), (400 * ms, .chunk [11]), (500 * ms, .ended)]
    (m.run polls).map (·.item) = polls.map (·.2) ∧
    m.reports (early ++ [(150 * ms, .chunk [4, 5, 6, 7])]) = [(150 * ms, ⟨7, some 10⟩)] ∧
    m.reports (early ++ [(150 * ms, .pending)]) = [] ∧
    (∀ r ∈ m.reports (early ++ [(150 * ms, .chunk [4, 5, 6, 7])]),
      ToldAtChunk (some 10) (early ++ [(150 * ms, .chunk [4, 5, 6, 7])]) r) ∧
    ∃ before now item after, polls = before ++ (now, item) :: after ∧
      m.reports polls = m.reports before ++ [(now, ⟨passed (before ++ [(now, item)]), some 10⟩)] := by
  intro ms m early polls
  obtain ⟨hitems, hreports, hspaced, hclosing, hended⟩ :=
    @reports_spaced_and_closed_once Unit 0 (some 10)
  have hopen : ∀ polls : Polls Unit, (m.after polls).finished = false → ¬ Closed (some 10) polls :=
    fun polls h => ((counts_after 0 (some 10) polls).finished_iff).1 h
  have hnone : m.reports early = [] := by decide +kernel
  refine ⟨hitems polls, ?_, ?_, (hspaced _ (hopen _ (by decide +kernel))).2, ?_⟩
  · rw [(hreports early _ (.chunk [4, 5, 6, 7])).1
      ⟨hopen _ (by decide +kernel), .inr (by decide +kernel)⟩, hnone]
    decide +kernel
  · rw [(hreports early _ .pending).2 id, hnone]
  · obtain ⟨before, now, item, after, hpolls, -, -, heq⟩ :=
      hclosing polls (hended polls ⟨210 * ms, by simp [polls]⟩)
    exact ⟨before, now, item, after, hpolls, heq⟩

end Meter

end Outbound
