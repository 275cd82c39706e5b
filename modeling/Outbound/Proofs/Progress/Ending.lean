import Outbound.Proofs.Progress.Reports

/-! The last state of a stream that ends. A meter cannot know that a chunk is the last one. If this chunk
comes more than the interval after the last report and the count stays below the total, or there is none, it
is reported for its time, and the same state again at the end. If the count has come to the total before,
the last state is not reported at all. -/

namespace Outbound.Meter

variable {ε : Type} {begun now : Time} {total : Option Nat} {early late polls before : Polls ε}
  {data : Bytes} {full : Nat}

/-- The last report, and no other, tells a number of bytes. -/
def ToldOnce (full : Nat) (reports : List (Time × Progress)) : Prop :=
  ∃ told r, reports = told ++ [r] ∧ r.2.bytes = full ∧ ∀ s ∈ told, s.2.bytes ≠ full

theorem toldOnce_concat {told : List (Time × Progress)} {r : Time × Progress} :
    ToldOnce full (told ++ [r]) ↔ r.2.bytes = full ∧ ∀ s ∈ told, s.2.bytes ≠ full := by
  constructor
  · rintro ⟨other, s, h, hs⟩
    obtain ⟨rfl, hlast⟩ := List.append_inj' h rfl
    cases hlast
    exact hs
  · exact fun h => ⟨told, r, rfl, h⟩

theorem not_toldOnce_of_below {reports : List (Time × Progress)}
    (h : ∀ r ∈ reports, r.2.bytes < full) : ¬ ToldOnce full reports := by
  rintro ⟨told, r, rfl, hr, -⟩
  exact absurd hr (Nat.ne_of_lt (h r (by simp)))

theorem passed_append (before rest : Polls ε) : passed (before ++ rest) = passed before + passed rest := by
  simp [passed]

theorem passed_of_no_chunk (h : ∀ p ∈ polls, ∀ data, p.2 ≠ .chunk data) : passed polls = 0 := by
  induction polls with
  | nil => rfl
  | cons p polls ih =>
    obtain ⟨hp, hpolls⟩ := List.forall_mem_cons.1 h
    have hsize : p.2.size = 0 := by
      cases hitem : p.2 with
      | chunk data => exact absurd hitem (hp data)
      | _ => rfl
    rw [passed, List.map_cons, List.sum_cons, hsize, Nat.zero_add]
    exact ih hpolls

theorem bytes_le_passed (polls : Polls ε) :
    ∀ r ∈ (start begun total).reports polls, r.2.bytes ≤ passed polls := by
  induction polls using List.reverseRecOn with
  | nil => simp [reports]
  | append_singleton before p ih =>
    obtain ⟨now, item⟩ := p
    have hbefore : ∀ r ∈ (start begun total).reports before,
        r.2.bytes ≤ passed (before ++ [(now, item)]) := fun r hr =>
      (ih r hr).trans (passed_concat before now item ▸ Nat.le_add_right _ _)
    by_cases h : Calls begun total before now item
    · rw [reports_concat_of_calls h]
      exact List.forall_mem_append.2 ⟨hbefore, List.forall_mem_singleton.2 (Nat.le_refl _)⟩
    · rw [reports_concat_of_not_calls h]
      exact hbefore

theorem reports_until_end (begun : Time) (hopen : ¬ Closed total before)
    (hquiet : ∀ p ∈ late, ∀ data, p.2 ≠ .chunk data) (hend : ∃ time, (time, .ended) ∈ late) :
    ∃ time, (time, .ended) ∈ late ∧ (start begun total).reports (before ++ late) =
      (start begun total).reports before ++ [(time, ⟨passed before, total⟩)] := by
  induction late generalizing before with
  | nil => simp at hend
  | cons p late ih =>
    obtain ⟨now, item⟩ := p
    have hsilent : item.size = 0 → ¬ Closes total before item →
        ¬ Calls begun total before now item → item ≠ .ended →
        ∃ time, (time, .ended) ∈ (now, item) :: late ∧
          (start begun total).reports (before ++ (now, item) :: late) =
            (start begun total).reports before ++ [(time, ⟨passed before, total⟩)] := by
      intro hsize hcloses hcalls hne
      have hlate : ∃ time, (time, .ended) ∈ late := by
        obtain ⟨time, htime⟩ := hend
        exact ⟨time, (List.mem_cons.1 htime).resolve_left fun h => hne (Prod.mk.inj h).2.symm⟩
      have hstill : ¬ Closed total (before ++ [(now, item)]) :=
        fun h => (closed_concat.1 h).elim hopen hcloses
      obtain ⟨time, htime, hreports⟩ := ih hstill (fun p hp => hquiet p (.tail _ hp)) hlate
      rw [passed_concat, hsize, Nat.add_zero, reports_concat_of_not_calls hcalls,
        List.append_assoc, List.singleton_append] at hreports
      exact ⟨time, .tail _ htime, hreports⟩
    cases item with
    | chunk data => exact absurd rfl (hquiet _ (.head _) data)
    | ended =>
      have hcloses : Closes total before (.ended : Polled ε) := trivial
      refine ⟨now, .head _, (reports_of_first_closing hopen hcloses).trans ?_⟩
      rw [passed_concat]
      rfl
    | failed error => exact hsilent rfl id id (by simp)
    | pending => exact hsilent rfl id id (by simp)

theorem passed_last (now : Time) (hlate : ∀ p ∈ late, ∀ more, p.2 ≠ .chunk more) :
    passed (early ++ (now, .chunk data) :: late) = passed early + data.length := by
  rw [← List.singleton_append, ← List.append_assoc, passed_append, passed_of_no_chunk hlate,
    passed_concat]
  rfl

theorem reports_chunk (hopen : ¬ Closed total early)
    (hnot : ¬ Reaches total (passed early + data.length)) :
    (start begun total).reports (early ++ [(now, .chunk data)]) =
      (start begun total).reports early ++
        if Throttle.interval < now - latest begun ((start begun total).reports early) then
          [(now, ⟨passed early + data.length, total⟩)]
        else [] := by
  by_cases hdue : Throttle.interval < now - latest begun ((start begun total).reports early)
  · have hcalls : Calls begun total early now (.chunk data) := ⟨hopen, .inr hdue⟩
    rw [if_pos hdue, reports_concat_of_calls hcalls, passed_concat]
    rfl
  · have hcalls : ¬ Calls begun total early now (.chunk data) := fun h => h.2.elim hnot hdue
    rw [if_neg hdue, reports_concat_of_not_calls hcalls, List.append_nil]

theorem reports_of_reaches (hopen : ¬ Closed total early)
    (hreaches : Reaches total (passed early + data.length)) :
    (start begun total).reports (early ++ (now, .chunk data) :: late) =
      (start begun total).reports early ++ [(now, ⟨passed early + data.length, total⟩)] := by
  have hcloses : Closes total early (.chunk data) := hreaches
  rw [reports_of_first_closing hopen hcloses, passed_concat]
  rfl

theorem reports_of_not_reaches (hlate : ∀ p ∈ late, ∀ more, p.2 ≠ .chunk more)
    (hend : ∃ time, (time, .ended) ∈ late) (hopen : ¬ Closed total early)
    (hnot : ¬ Reaches total (passed early + data.length)) :
    ∃ time, (time, .ended) ∈ late ∧
      (start begun total).reports (early ++ (now, .chunk data) :: late) =
        (start begun total).reports early ++
          (if Throttle.interval < now - latest begun ((start begun total).reports early) then
            [(now, ⟨passed early + data.length, total⟩)]
          else []) ++ [(time, ⟨passed early + data.length, total⟩)] := by
  have hstill : ¬ Closed total (early ++ [(now, .chunk data)]) :=
    fun h => (closed_concat.1 h).elim hopen hnot
  obtain ⟨time, htime, hreports⟩ := reports_until_end begun hstill hlate hend
  rw [passed_concat, reports_chunk hopen hnot, List.append_assoc, List.singleton_append] at hreports
  exact ⟨time, htime, hreports⟩

/-- What is reported of the last state of a stream, which the last chunk makes. Nothing is reported if the
count came to the total before. Otherwise the last state is reported last: at this chunk if it brings the
count to the total, and else at the end; but then at the chunk, too, if more than the interval has passed
since the report before. So it is told once exactly if the count has not come to the total before the last
chunk, and this chunk brings it there or comes within the interval. -/
theorem toldOnce_iff (begun now : Time) (total : Option Nat) (early late : Polls ε) (data : Bytes)
    (hdata : data ≠ []) (hlate : ∀ p ∈ late, ∀ more, p.2 ≠ .chunk more)
    (hend : ∃ time, (time, .ended) ∈ late) :
    let m := start begun total
    let polls := early ++ (now, .chunk data) :: late
    let full := passed polls
    let due := Throttle.interval < now - latest begun (m.reports early)
    (∀ r ∈ m.reports early, r.2.bytes < full) ∧
    (Closed total early → m.reports polls = m.reports early) ∧
    (¬ Closed total early → Reaches total full →
      m.reports polls = m.reports early ++ [(now, ⟨full, total⟩)]) ∧
    (¬ Closed total early → ¬ Reaches total full → ∃ time, (time, .ended) ∈ late ∧
      m.reports polls =
        m.reports early ++ (if due then [(now, ⟨full, total⟩)] else []) ++ [(time, ⟨full, total⟩)]) ∧
    (ToldOnce full (m.reports polls) ↔ ¬ Closed total early ∧ (Reaches total full ∨ ¬ due)) := by
  intro m polls full due
  have hfull : full = passed early + data.length := passed_last now hlate
  have hbelow : ∀ r ∈ m.reports early, r.2.bytes < full := fun r hr => by
    have hlength : 0 < data.length := List.length_pos_iff.2 hdata
    have hle := bytes_le_passed early r hr
    omega
  have hclosed : Closed total early → m.reports polls = m.reports early :=
    fun h => reports_append_of_closed h _
  have hreached : ¬ Closed total early → Reaches total full →
      m.reports polls = m.reports early ++ [(now, ⟨full, total⟩)] := by
    rw [hfull]
    exact reports_of_reaches
  have hended : ¬ Closed total early → ¬ Reaches total full → ∃ time, (time, .ended) ∈ late ∧
      m.reports polls =
        m.reports early ++ (if due then [(now, ⟨full, total⟩)] else []) ++ [(time, ⟨full, total⟩)] := by
    rw [hfull]
    exact reports_of_not_reaches hlate hend
  refine ⟨hbelow, hclosed, hreached, hended, ?_⟩
  by_cases hopen : Closed total early
  · rw [hclosed hopen]
    exact iff_of_false (not_toldOnce_of_below hbelow) fun h => h.1 hopen
  rw [and_iff_right hopen]
  by_cases hreaches : Reaches total full
  · rw [hreached hopen hreaches, toldOnce_concat]
    exact iff_of_true ⟨rfl, fun r hr => Nat.ne_of_lt (hbelow r hr)⟩ (.inl hreaches)
  obtain ⟨time, -, hreports⟩ := hended hopen hreaches
  rw [hreports, toldOnce_concat, or_iff_right hreaches]
  by_cases hdue : due
  · rw [if_pos hdue]
    exact iff_of_false (fun h => h.2 (now, ⟨full, total⟩) (by simp) rfl) fun h => h hdue
  · rw [if_neg hdue, List.append_nil]
    exact iff_of_true ⟨rfl, fun r hr => Nat.ne_of_lt (hbelow r hr)⟩ hdue

theorem toldOnce_of_unknown_total :
    let ms := Clock.millisecond
    let polls : Polls Unit := [(150 * ms, .chunk [1, 2, 3]), (200 * ms, .chunk [4, 5]),
      (210 * ms, .pending), (220 * ms, .ended), (500 * ms, .ended)]
    (start 0 none).reports polls = [(150 * ms, ⟨3, none⟩), (220 * ms, ⟨5, none⟩)] ∧
      ToldOnce 5 ((start 0 none).reports polls) := by
  intro ms polls
  let early : Polls Unit := [(150 * ms, .chunk [1, 2, 3])]
  obtain ⟨-, -, -, -, honce⟩ := toldOnce_iff 0 (200 * ms) none early
    [(210 * ms, .pending), (220 * ms, .ended), (500 * ms, .ended)] [4, 5] (by decide) (by simp)
    ⟨220 * ms, by simp⟩
  have hopen : ¬ Closed none early := (counts_after 0 none early).finished_iff.1 (by decide +kernel)
  exact ⟨by decide +kernel, honce.2 ⟨hopen, .inr (by decide +kernel)⟩⟩

/-- The last state is told twice, if the last chunk of an unknown number comes late, or never, if the total
is too small. -/
theorem last_state_twice_or_never :
    let ms := Clock.millisecond
    let slow : Polls Unit := [(101 * ms, .chunk [1, 2, 3]), (101 * ms, .ended)]
    let excess : Polls Unit := [(0, .chunk [1, 2, 3]), (0, .chunk [4, 5, 6, 7]), (0, .ended)]
    (start 0 none).reports slow = [(101 * ms, ⟨3, none⟩), (101 * ms, ⟨3, none⟩)] ∧
    ¬ ToldOnce (passed slow) ((start 0 none).reports slow) ∧
    (start 0 (some 3)).reports excess = [(0, ⟨3, some 3⟩)] ∧
    ¬ ToldOnce (passed excess) ((start 0 (some 3)).reports excess) := by
  intro ms slow excess
  have hslow : (start 0 none).reports slow = [(101 * ms, ⟨3, none⟩)] ++ [(101 * ms, ⟨3, none⟩)] := by
    decide +kernel
  have hexcess : (start 0 (some 3)).reports excess = [(0, ⟨3, some 3⟩)] := by decide +kernel
  refine ⟨hslow, ?_, hexcess, ?_⟩
  · rw [hslow, toldOnce_concat]
    exact fun h => h.2 _ (.head _) (by decide +kernel)
  · rw [hexcess]
    exact not_toldOnce_of_below (by decide +kernel)

end Outbound.Meter
