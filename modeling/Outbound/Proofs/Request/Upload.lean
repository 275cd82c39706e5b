import Outbound.Exchange.Upload
import Outbound.Proofs.Progress.Ending
import Outbound.Proofs.Request.Length

/-! What is told of a body of parts while it is sent. A body may be polled at any times, and in vain
as often as one likes. Each event tells the bytes that have gone by then, so the numbers never go
down. Where the length is known only the closing line brings the count to it: one event tells the
whole length, which is the one that the request states, and no event follows. -/

namespace Outbound

namespace Upload

open Meter (passed reports Reaches Closes Closed ToldAtChunk)

variable {id : RequestId} {begun now : Time} {total : Option Nat} {polls before : Polls IoError}
  {item : Polled IoError} {ds : List Delivery} {last : Bytes}

def counts (begun : Time) (total : Option Nat) (polls : Polls IoError) : List Nat :=
  (reports (.start begun total) polls).map (·.2.bytes)

def heard (polls : Polls IoError) : List (Polled IoError) :=
  polls.filterMap fun p => if p.2 = .pending then none else some p.2

/-- Polls that read a body to its end: they bring what it delivers, in order, and nothing else but
the end, if they go on. -/
def Drains (ds : List Delivery) (polls : Polls IoError) : Prop :=
  ∃ ends, heard polls = ds.map polled ++ List.replicate ends .ended

theorem total_of_mem_reports (polls : Polls IoError) :
    ∀ r ∈ reports (.start begun total) polls, r.2.total = total := by
  induction polls using List.reverseRecOn with
  | nil => simp [reports]
  | append_singleton before p ih =>
    obtain ⟨now, item⟩ := p
    by_cases hcalls : Meter.Calls begun total before now item
    · rw [Meter.reports_concat_of_calls hcalls]
      exact List.forall_mem_append.2 ⟨ih, List.forall_mem_singleton.2 rfl⟩
    · rw [Meter.reports_concat_of_not_calls hcalls]
      exact ih

theorem events_eq (id : RequestId) (begun : Time) (total : Option Nat) (polls : Polls IoError) :
    events id begun total polls =
      (counts begun total polls).map fun bytes => .dataSend id bytes total := by
  have hreadings : ((polls.zip ((Meter.start begun total).run polls)).map Prod.snd) =
      (Meter.start begun total).run polls :=
    List.map_snd_zip (Meter.length_run _ _).le
  have hevents : events id begun total polls =
      (reports (.start begun total) polls).map fun r => .dataSend id r.2.bytes r.2.total := by
    rw [events, ← hreadings, List.filterMap_map, reports, List.map_filterMap]
    simp [Function.comp_def]
  rw [hevents, counts, List.map_map]
  exact List.map_congr_left fun r hr => by simp [total_of_mem_reports polls r hr]

theorem counts_concat (begun : Time) (total : Option Nat) (before : Polls IoError) (now : Time)
    (item : Polled IoError) :
    counts begun total (before ++ [(now, item)]) = counts begun total before ∨
      counts begun total (before ++ [(now, item)]) =
        counts begun total before ++ [passed (before ++ [(now, item)])] := by
  by_cases hcalls : Meter.Calls begun total before now item
  · rw [counts, Meter.reports_concat_of_calls hcalls, List.map_append]
    exact .inr rfl
  · rw [counts, Meter.reports_concat_of_not_calls hcalls]
    exact .inl rfl

theorem counts_le_passed {c : Nat} (h : c ∈ counts begun total polls) : c ≤ passed polls := by
  obtain ⟨r, hr, rfl⟩ := List.mem_map.1 h
  exact Meter.bytes_le_passed polls r hr

theorem counts_pairwise (begun : Time) (total : Option Nat) (polls : Polls IoError) :
    (counts begun total polls).Pairwise (· ≤ ·) := by
  induction polls using List.reverseRecOn with
  | nil => exact .nil
  | append_singleton before p ih =>
    obtain ⟨now, item⟩ := p
    rcases counts_concat begun total before now item with h | h
    · rwa [h]
    · rw [h, List.pairwise_append]
      refine ⟨ih, List.pairwise_singleton _ _, fun c hc n hn => ?_⟩
      rw [List.mem_singleton.1 hn, Meter.passed_concat]
      exact (counts_le_passed hc).trans (Nat.le_add_right _ _)

theorem passed_cons (now : Time) (item : Polled IoError) (polls : Polls IoError) :
    passed ((now, item) :: polls) = item.size + passed polls := rfl

theorem passed_eq_heard (polls : Polls IoError) :
    passed polls = ((heard polls).map Polled.size).sum := by
  induction polls with
  | nil => rfl
  | cons p polls ih =>
    obtain ⟨now, item⟩ := p
    rw [passed_cons, ih]
    by_cases hpending : item = .pending
    · simp [heard, hpending, Polled.size]
    · simp [heard, hpending]

theorem sum_polled (ds : List Delivery) :
    ((ds.map polled).map Polled.size).sum = (Delivery.content ds).length := by
  induction ds with
  | nil => rfl
  | cons d ds ih =>
    have hsize : (polled d).size = d.bytes.length := by cases d <;> rfl
    simp only [List.map_cons, List.sum_cons, ih, hsize, Delivery.content, List.flatMap_cons,
      List.length_append]

theorem Drains.passed_eq (h : Drains ds polls) : passed polls = (Delivery.content ds).length := by
  obtain ⟨ends, hheard⟩ := h
  rw [passed_eq_heard, hheard, List.map_append, List.sum_append, sum_polled]
  simp [Polled.size]

theorem Drains.exists_last (h : Drains (ds ++ [.data last]) polls) :
    ∃ early now late, polls = early ++ (now, .chunk last) :: late ∧
      passed early = (Delivery.content ds).length ∧ ∀ p ∈ early, p.2 ≠ .ended := by
  obtain ⟨ends, hheard⟩ := h
  rw [List.map_append, List.append_assoc] at hheard
  obtain ⟨first, rest, rfl, hfirst, hrest⟩ := List.filterMap_eq_append_iff.1 hheard
  obtain ⟨vain, p, late, rfl, hvain, hp, -⟩ := List.filterMap_eq_cons_iff.1 hrest
  have hchunk : p.2 = .chunk last := by
    split at hp
    · cases hp
    · exact Option.some.inj hp
  have hpending : ∀ q ∈ vain, q.2 = .pending := fun q hq => by
    have hnone := hvain q hq
    split at hnone
    · assumption
    · cases hnone
  refine ⟨first ++ vain, p.1, late, by simp [← hchunk], ?_, fun q hq => ?_⟩
  · have hzero : passed vain = 0 := Meter.passed_of_no_chunk fun q hq => by simp [hpending q hq]
    have hfirst' : heard first = ds.map polled := hfirst
    rw [Meter.passed_append, hzero, Nat.add_zero, passed_eq_heard, hfirst', sum_polled]
  · rcases List.mem_append.1 hq with hq | hq
    · intro hended
      have hmem : Polled.ended ∈ ds.map polled :=
        hfirst ▸ List.mem_filterMap.2 ⟨q, hq, by simp [hended]⟩
      obtain ⟨d, -, hd⟩ := List.mem_map.1 hmem
      cases d <;> cases hd
    · simp [hpending q hq]

theorem reaches_of_closed (h : Closed total polls) (hends : ∀ p ∈ polls, p.2 ≠ .ended) :
    Reaches total (passed polls) := by
  obtain ⟨before, now, item, after, rfl, hcloses⟩ := h
  cases item with
  | chunk data =>
    obtain ⟨t, ht, hle⟩ := hcloses
    refine ⟨t, ht, hle.trans ?_⟩
    rw [Meter.passed_append, passed_cons]
    exact Nat.add_le_add_left (Nat.le_add_right _ _) _
  | ended => exact absurd rfl (hends (now, .ended) (by simp))
  | failed error => exact hcloses.elim
  | pending => exact hcloses.elim

theorem Drains.counts_eq (h : Drains (ds ++ [.data last]) polls) (hlast : last ≠ [])
    (begun : Time) :
    ∃ front, counts begun (some (Delivery.content (ds ++ [.data last])).length) polls =
        front ++ [(Delivery.content (ds ++ [.data last])).length] ∧
      ∀ c ∈ front, c < (Delivery.content (ds ++ [.data last])).length := by
  obtain ⟨early, now, late, rfl, hearly, hends⟩ := h.exists_last
  have hlength : (Delivery.content (ds ++ [.data last])).length = passed early + last.length := by
    simp [hearly, Delivery.content, Delivery.bytes]
  have hpos : 0 < last.length := List.length_pos_iff.2 hlast
  rw [hlength]
  have hopen : ¬ Closed (some (passed early + last.length)) early := fun hclosed => by
    obtain ⟨t, ht, hle⟩ := reaches_of_closed hclosed hends
    cases ht
    omega
  refine ⟨counts begun (some (passed early + last.length)) early, ?_, fun c hc => ?_⟩
  · rw [counts, Meter.reports_of_reaches hopen ⟨_, rfl, Nat.le_refl _⟩, List.map_append]
    rfl
  · have hle := counts_le_passed hc
    omega

theorem heard_zip {items : List (Polled IoError)} (h : ∀ i ∈ items, i ≠ .pending)
    (times : List Time) : heard (times.zip items) = items.take times.length := by
  induction items generalizing times with
  | nil => simp [heard]
  | cons item items ih =>
    rw [List.forall_mem_cons] at h
    cases times with
    | nil => rfl
    | cons time times =>
      have hrest := ih h.2 times
      simpa [heard, h.1] using hrest

theorem drains_zip {times : List Time} (h : ds.length ≤ times.length) :
    Drains ds (times.zip (ds.map polled ++ [.ended])) := by
  have hitems : ∀ i ∈ ds.map polled ++ [.ended], i ≠ .pending := by
    simp only [List.mem_append, List.mem_map, List.mem_singleton]
    rintro i (⟨d, -, rfl⟩ | rfl)
    · cases d <;> simp [polled]
    · simp
  refine ⟨min (times.length - ds.length) 1, ?_⟩
  rw [heard_zip hitems, List.take_append, List.take_of_length_le (by simpa using h),
    List.length_map]
  cases times.length - ds.length <;> simp

end Upload

namespace Descriptor

open Upload (events eventsOf counts Drains)

variable {env : Environment} {d : Descriptor} {sub : Submission} {parts : List Part}
  {fs : FileSystem}

theorem Drafted.exists_multipart {own : List Field} {r : Request} (h : d.Drafted env own r)
    (hbody : d.body = .multipart parts) :
    ∃ m, r.payload = .multipart m ∧ (Multipart.assemble env.resolve env.client.settings.userAgent
      env.boundary ((d.fieldList env own).contentType?.getD Multipart.defaultType)
        parts).outcome = .ok m := by
  have hpayload := h.payload
  rw [hbody] at hpayload
  obtain ⟨m, hm, hp⟩ := Trial.andThen_eq_ok_iff.1 hpayload
  exact ⟨m, (Except.ok.inj hp).symm, hm⟩

/-- Each event of an upload tells how many bytes have gone by then, and the length of the body, if
it is known. The numbers never go down. A known length is stated by the request and yielded by the
body, and when the body is read to its end, at whatever times, the last event and no other tells
that all of it has gone. -/
theorem upload_told_exactly (hbody : d.body = .multipart parts)
    (hfiles : ∀ p ∈ parts, p.KeepsFile env.resolve fs)
    (h : (d.prepare env).outcome = .ok sub) :
    ∃ r m, (d.draft env).outcome = .ok r ∧ sub.request = env.client.intercept r ∧
      r.payload = .multipart m ∧
      (m.contentLength = none ↔ ∃ p ∈ parts, p.Unmeasured env.resolve) ∧
      (∀ ds begun times, m.drain fs = .ok ds → ds.length ≤ times.length → ∃ polls, Drains ds polls ∧
        eventsOf fs d.id begun times r.payload =
          .ok (events d.id begun m.contentLength polls)) ∧
      (∀ begun polls,
        events d.id begun m.contentLength polls = (counts begun m.contentLength polls).map
          (fun bytes => .dataSend d.id bytes m.contentLength) ∧
        (counts begun m.contentLength polls).Pairwise (· ≤ ·) ∧
        ∀ now item,
          counts begun m.contentLength (polls ++ [(now, item)]) =
            counts begun m.contentLength polls ∨
          counts begun m.contentLength (polls ++ [(now, item)]) =
            counts begun m.contentLength polls ++ [Meter.passed (polls ++ [(now, item)])]) ∧
      ∀ n, m.contentLength = some n →
        r.headers.values Header.contentLength = [String.ofList (Ascii.decimal n)] ∧
        ∃ ds, m.drain fs = .ok ds ∧ (∀ e ∈ ds, ∃ bytes, e = .data bytes) ∧
          (Delivery.content ds).length = n ∧
          ∀ begun polls, Drains ds polls → Meter.passed polls = n ∧
            ∃ front, counts begun (some n) polls = front ++ [n] ∧ ∀ c ∈ front, c < n := by
  obtain ⟨r, own, hdraft, hrequest, hown⟩ := exists_of_prepare h
  obtain ⟨m, hm, hassembled⟩ := hown.exists_multipart hbody
  obtain ⟨hyields, hunknown⟩ := Multipart.assemble_yields hfiles hassembled
  refine ⟨r, m, hdraft, hrequest, hm, hunknown, fun ds begun times hds htimes => ?_,
    fun begun polls => ⟨Upload.events_eq d.id begun _ polls, Upload.counts_pairwise begun _ polls,
      Upload.counts_concat begun _ polls⟩, fun n hn => ⟨?_, ?_⟩⟩
  · refine ⟨_, Upload.drains_zip htimes, ?_⟩
    rw [hm, eventsOf, hds]
    rfl
  · rw [hown.values_length, hm, Payload.statedLength?, Payload.length, hn]
    rfl
  · obtain ⟨ds, hds, hdata, hlength⟩ := hyields n hn
    refine ⟨ds, hds, hdata, hlength, fun begun polls hdrains =>
      ⟨hdrains.passed_eq.trans hlength, ?_⟩⟩
    obtain ⟨front, rfl⟩ := Multipart.exists_closing hds
    have hclosing : Multipart.closing m.boundary ≠ [] := by
      rw [← List.length_pos_iff, Multipart.length_closing, Multipart.closingLength]
      omega
    have hcounts := hdrains.counts_eq hclosing begun
    rwa [hlength] at hcounts

theorem upload_told_exactly_of_pauses :
    let d : Descriptor := {
      id := ⟨1, by decide⟩
      method := "PUT"
      url := "http://a/"
      headers := some [[some "content-length", some "7"]]
      body := .multipart Multipart.sampleParts }
    let env : Environment := {
      resolve := Multipart.sampleFiles
      boundary := "0123456789abcdefABCDEF0123456789" }
    let times : List Time := [10, 150, 300, 310, 320, 330, 340, 350].map (· * Clock.millisecond)
    ∃ r polls front, (d.draft env).outcome = .ok r ∧
      r.headers.values "content-length" = ["247"] ∧
      eventsOf {} d.id 0 times r.payload = .ok (events d.id 0 (some 247) polls) ∧
      events d.id 0 (some 247) polls = [.dataSend d.id 103 (some 247),
        .dataSend d.id 105 (some 247), .dataSend d.id 247 (some 247)] ∧
      counts 0 (some 247) polls = front ++ [247] ∧ ∀ c ∈ front, c < 247 := by
  intro d env times
  have hfiles : ∀ p ∈ Multipart.sampleParts, p.KeepsFile env.resolve {} := by
    intro p _ uri file _ hfile
    simp only [env, Multipart.sampleFiles] at hfile
    split at hfile
    · cases hfile
      intro n hn
      cases hn
      exact .data _
    · cases hfile
  have haccepted : Except.isOk (d.prepare env).outcome = true := by decide +kernel
  obtain ⟨sub, hsub⟩ := Dispatcher.exists_prepared haccepted
  obtain ⟨r, m, hdraft, -, hm, -, hpolled, -, hknown⟩ := upload_told_exactly rfl hfiles hsub
  have hevents : (d.draft env).outcome.toOption.map (fun r => (r.payload.length,
      (r.payload.drain {}).toOption.map List.length,
      (eventsOf {} d.id 0 times r.payload).toOption)) =
        some (some 247, some 7, some [.dataSend d.id 103 (some 247),
          .dataSend d.id 105 (some 247), .dataSend d.id 247 (some 247)]) := by
    decide +kernel
  rw [hdraft] at hevents
  obtain ⟨hn, hrest⟩ := Prod.mk.inj (Option.some.inj hevents)
  obtain ⟨hlength, htold⟩ := Prod.mk.inj hrest
  rw [hm] at hn hlength
  obtain ⟨hstated, ds, hds, -, -, hfull⟩ := hknown 247 hn
  rw [Payload.drain, hds] at hlength
  have htimes : ds.length ≤ times.length := by
    rw [Option.some.inj hlength]
    decide
  obtain ⟨polls, hdrains, hsame⟩ := hpolled ds 0 times hds htimes
  obtain ⟨-, front, hcounts, hfront⟩ := hfull 0 polls hdrains
  have htotal : m.contentLength = some 247 := hn
  rw [htotal] at hsame
  rw [hsame] at htold
  exact ⟨r, polls, front, hdraft, hstated, hsame, Option.some.inj htold, hcounts, hfront⟩

end Descriptor

end Outbound
