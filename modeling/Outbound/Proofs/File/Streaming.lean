import Outbound.File.Resolver
import Outbound.Proofs.File.Reading

/-! A file of this machine as a stream. It is looked for when it is resolved and opened when it is first
read, and what the opening gives then, is streamed: the chunks that the reads give, in order, and then
the end, or the one error that opening or reading met, and nothing after it. Only a chunk that is to have
more room than any memory has fails the stream. -/

namespace Outbound

open Handle (Streamed Turn)

namespace FileRead

variable {opens : String → Except IoError Handle} {room : Nat} {state after : FileRead}
  {h : Handle} {content : Bytes} {d : Delivery} {e : IoError} {path : String}

theorem drain_of_end (hnext : next opens room state = .ok (none, after)) :
    state.drain opens room = .ok [] := by
  rw [drain_eq, hnext]

theorem drain_of_delivery (hnext : next opens room state = .ok (some d, after)) :
    state.drain opens room = (after.drain opens room).map (d :: ·) := by
  rw [drain_eq, hnext]

theorem drain_done : done.drain opens room = .ok [] := drain_of_end rfl

theorem drain_unopened (hopen : opens path = .ok h) :
    (unopened path).drain opens room = (opened h).drain opens room := by
  have hnext : next opens room (.unopened path) = next opens room (.opened h) := by
    simp [next, hopen]
  rw [drain_eq, hnext, ← drain_eq]

theorem drain_unopened_of_error (hopen : opens path = .error e) :
    (unopened path).drain opens room = .ok [.failed e] := by
  have hnext : next opens room (.unopened path) = .ok (some (.failed e), .done) := by
    simp [next, hopen]
  rw [drain_of_delivery hnext, drain_done]
  rfl

theorem drain_opened_of_overrun (hover : largestRoom < room) :
    (opened h).drain opens room = .error .overflow := by
  have hnext : next opens room (.opened h) = .error .overflow := if_pos hover
  rw [drain_eq, hnext]

/-- What an open file streams. The recursion is that of the stream: each read leaves a later handle,
which stands in what the file holds by then. -/
theorem exists_drain_opened (opens : String → Except IoError Handle) (hroom : 0 < room)
    (hfits : room ≤ largestRoom) {h : Handle} {content : Bytes} (hstands : h.Stands content) :
    ∃ chunks stop, (opened h).drain opens room =
        .ok (chunks.map .data ++ (stop.map .failed).toList) ∧
      Streamed room content h chunks stop := by
  have hnext : next opens room (.opened h) = .ok (afterRead (h.read room)) :=
    fetch_eq_ok_iff.2 ⟨hfits, rfl⟩
  match hread : h.read room with
  | (.ok [], _) =>
    rw [hread] at hnext
    exact ⟨[], none, drain_of_end hnext, .of_end hroom hstands hread⟩
  | (.error e, _) =>
    rw [hread] at hnext
    refine ⟨[], some e, ?_, .of_error hread⟩
    rw [drain_of_delivery hnext, drain_done]
    rfl
  | (.ok (b :: bytes), later) =>
    have hdelivery : next opens room (.opened h) = .ok (some (.data (b :: bytes)), .opened later) := by
      rw [hnext, hread]
      rfl
    obtain ⟨chunks, stop, hdrain, hstreamed⟩ :=
      exists_drain_opened opens hroom hfits (hstands.next hread)
    refine ⟨(b :: bytes) :: chunks, stop, ?_, hstreamed.cons hstands hread nofun⟩
    rw [drain_of_delivery hdelivery, hdrain]
    rfl
termination_by (opened h).ahead
decreasing_by exact ahead_next hdelivery

end FileRead

namespace FileResolver

variable {fs : FileSystem} {uri path : String} {l : Location} {stored : Bytes}

/-- A regular file streams whatever opening it gives by the time of the first read: non-empty chunks of
at most the size, each where the one before ended, and then the end of the file, or one error and the
end. If nobody writes over the file meanwhile, the chunks are its content, or a front part of it before
an error. The one exception is a size that no chunk can have: the first read of an open file fails. -/
theorem streams_content_unless_overrun (chunkSize : Nat) (hpath : pathFor? uri = some path)
    (hlocated : fs.locate? path = some l) (hstored : fs.content? l = some stored) :
    ∃ file, machine fs chunkSize uri = some file ∧ file.length = some stored.length ∧
      ∀ opens : String → Except IoError Handle,
        (∀ e, opens path = .error e → file.source.drainWith opens = .ok [.failed e]) ∧
        ∀ content turns, opens path = .ok (.start content turns) →
          if largestRoom < chunkSize then file.source.drainWith opens = .error .overflow
          else ∃ chunks stop,
            file.source.drainWith opens = .ok (chunks.map .data ++ (stop.map .failed).toList) ∧
            Streamed (max 1 chunkSize) content (.start content turns) chunks stop ∧
            (∀ c ∈ chunks, c ≠ [] ∧ c.length ≤ max 1 chunkSize) ∧
            ((∀ t ∈ turns, t.written = none) →
              chunks.flatten <+: content ∧ (stop = none → chunks.flatten = content)) := by
  have hlength : fs.length? path = some stored.length := by
    simp [FileSystem.length?, hlocated, hstored]
  refine ⟨⟨.file path (max 1 chunkSize), some stored.length⟩, ?_, rfl, fun opens => ⟨?_, ?_⟩⟩
  · simp [machine, hpath, hlength]
  · intro e hopen
    exact FileRead.drain_unopened_of_error hopen
  · intro content turns hopen
    have hdrain : ByteSource.drainWith opens (.file path (max 1 chunkSize)) =
        (FileRead.opened (.start content turns)).drain opens (max 1 chunkSize) :=
      FileRead.drain_unopened hopen
    split
    case isTrue hover =>
      rw [hdrain]
      exact FileRead.drain_opened_of_overrun (Nat.lt_of_lt_of_le hover (Nat.le_max_right ..))
    case isFalse hfits =>
      have hroom : 0 < max 1 chunkSize := Nat.le_max_left ..
      have hsize : max 1 chunkSize ≤ largestRoom :=
        Nat.max_le.2 ⟨by decide, Nat.le_of_not_lt hfits⟩
      obtain ⟨chunks, stop, hchunks, hstreamed⟩ :=
        FileRead.exists_drain_opened opens hroom hsize (Handle.stands_start content turns)
      exact ⟨chunks, stop, hdrain.trans hchunks, hstreamed, fun c => hstreamed.chunk_fits,
        hstreamed.flatten_of_unwritten⟩

theorem streams_content_unless_overrun_of_failing_read :
    let content := Utf8.encode "hello tether".toList
    let fs := ({} : FileSystem).write ["t", "f"] content
    let broken : IoError := ⟨.brokenPipe, "broken pipe"⟩
    let turns : List Turn :=
      [{ answer := .gives 2 }, { answer := .gives 4 }, { answer := .fails broken }]
    ∃ (file : ResolvedFile) (first second : Bytes), machine fs 5 "file:///t/f" = some file ∧
      file.source.drainWith (fun _ => .ok (.start content turns)) =
        .ok [.data first, .data second, .failed broken] ∧
      first ++ second <+: content := by
  intro content fs broken turns
  have hpath : pathFor? "file:///t/f" = some "/t/f" := by decide +kernel
  have hlocated : fs.locate? "/t/f" = some ["t", "f"] := by decide +kernel
  have hstored : fs.content? ["t", "f"] = some content := by decide +kernel
  obtain ⟨file, hfile, -, hstream⟩ := streams_content_unless_overrun 5 hpath hlocated hstored
  obtain ⟨chunks, stop, hdrain, hstreamed, hfits, hcontent⟩ :=
    (hstream fun _ => .ok (.start content turns)).2 content turns rfl
  obtain ⟨hfront, hwhole⟩ := hcontent (by decide)
  have hlength : content.length = 12 := by decide +kernel
  -- Two chunks have room for ten bytes, so the end is not reached before the third read.
  rcases chunks with _ | ⟨first, _ | ⟨second, _ | ⟨third, rest⟩⟩⟩
  · cases stop with
    | none => cases hlength.symm.trans (congrArg List.length (hwhole rfl)).symm
    | some e => cases hstreamed.failed e rfl
  · cases stop with
    | none =>
      have hfirst := (hfits first (by simp)).2
      rw [← hwhole rfl] at hlength
      simp only [List.flatten_cons, List.flatten_nil, List.append_nil] at hlength
      omega
    | some e => cases hstreamed.failed e rfl
  · cases stop with
    | none => cases (hstreamed.ended rfl).1.choose_spec
    | some e =>
      obtain rfl : broken = e := Except.error.inj (hstreamed.failed e rfl)
      exact ⟨file, first, second, hfile, hdrain, by simpa using hfront⟩
  · cases (hstreamed.chunk 2 third rfl).2.choose_spec.1

/-- No chunk has the largest size that can be asked for, so a file that is there is not streamed. -/
theorem largest_size_streams_nothing :
    let content := Utf8.encode "hello".toList
    let fs := ({} : FileSystem).write ["t", "f"] content
    ∃ file, machine fs 0xffffffffffffffff "/t/f" = some file ∧ file.length = some 5 ∧
      file.source.drain fs = .error .overflow ∧
      ¬ ∃ chunks : List Bytes,
        file.source.drain fs = .ok (chunks.map .data) ∧ chunks.flatten = content := by
  intro content fs
  have hlocated : fs.locate? "/t/f" = some ["t", "f"] := by decide +kernel
  have hstored : fs.content? ["t", "f"] = some content := by decide +kernel
  have hopen : fs.openFile "/t/f" = .ok (.start content) :=
    FileSystem.openFile_eq_start hlocated hstored
  have hdrain : (ByteSource.file "/t/f" 0xffffffffffffffff).drain fs = .error .overflow :=
    (FileRead.drain_unopened hopen).trans (FileRead.drain_opened_of_overrun (by decide))
  refine ⟨⟨.file "/t/f" 0xffffffffffffffff, some 5⟩, by decide +kernel, rfl, hdrain, ?_⟩
  rintro ⟨chunks, hchunks, -⟩
  cases hdrain.symm.trans hchunks

end FileResolver

end Outbound
