import Mathlib.Data.List.Infix
import Outbound.File.Handle

/-! Reading an open file over and over. The reads are numbered from zero, and each meets one turn. What
they give lies side by side in the file: each chunk starts where the one before ended, in whatever the
file holds by then, so of a file that nobody writes over they give its content. -/

namespace Outbound

namespace Handle

variable {room n : Nat} {turn : Option Turn} {t : Turn} {turns : List Turn} {h later : Handle}
  {content bytes chunk whole : Bytes} {chunks : List Bytes} {e : IoError} {stop : Option IoError}

theorem quota_le (h : quota room turn = .ok n) : n ≤ room := by
  match turn with
  | none => exact Except.ok.inj h ▸ Nat.min_le_left ..
  | some ⟨_, .gives _⟩ => exact Except.ok.inj h ▸ Nat.min_le_left ..
  | some ⟨_, .fails _⟩ => cases h

theorem quota_pos (hroom : 0 < room) (h : quota room turn = .ok n) : 0 < n := by
  match turn with
  | none => exact Except.ok.inj h ▸ Nat.lt_min.2 ⟨hroom, by decide⟩
  | some ⟨_, .gives count⟩ => exact Except.ok.inj h ▸ Nat.lt_min.2 ⟨hroom, by omega⟩
  | some ⟨_, .fails _⟩ => cases h

def held (content : Bytes) : List Turn → Nat → Bytes
  | [], _ => content
  | t :: _, 0 => t.written.getD content
  | t :: turns, k + 1 => held (t.written.getD content) turns k

theorem held_succ (content : Bytes) (turns : List Turn) (k : Nat) :
    held content turns (k + 1) = held (held content turns 0) turns.tail k := by
  cases turns <;> rfl

theorem held_of_unwritten (hturns : ∀ t ∈ turns, t.written = none) (k : Nat) :
    held content turns k = content := by
  induction turns generalizing k with
  | nil => rfl
  | cons t turns ih =>
    obtain ⟨ht, hturns⟩ := List.forall_mem_cons.1 hturns
    cases k with
    | zero => simp [held, ht]
    | succ k => simpa [held, ht] using ih hturns k

def Stands (h : Handle) (content : Bytes) : Prop := h.rest = content.drop h.position

theorem stands_start (content : Bytes) (turns : List Turn) :
    (start content turns).Stands content := rfl

theorem Stands.found (hstands : h.Stands content) :
    h.found = (held content h.turns 0).drop h.position := by
  unfold Handle.found
  match h.turns with
  | [] => exact hstands
  | ⟨none, _⟩ :: _ => exact hstands
  | ⟨some _, _⟩ :: _ => rfl

theorem Stands.next (hstands : h.Stands content) (hread : h.read room = (.ok bytes, later)) :
    later.Stands (held content h.turns 0) := by
  obtain ⟨n, -, rfl, rfl⟩ := read_eq_ok_iff.1 hread
  rw [Stands, ← List.drop_drop, ← hstands.found, List.length_take]
  obtain hn | hn := Nat.le_total n h.found.length
  · rw [Nat.min_eq_left hn]
  · rw [Nat.min_eq_right hn, List.drop_length, List.drop_eq_nil_of_le hn]

/-- What reading a file from a handle on comes to: chunks, and then the end of the file or, if there is
one, an error, which is that of the read after them. -/
structure Streamed (room : Nat) (content : Bytes) (h : Handle) (chunks : List Bytes)
    (stop : Option IoError) : Prop where
  chunk : ∀ k c, chunks[k]? = some c → c ≠ [] ∧ ∃ n, quota room h.turns[k]? = .ok n ∧
    c = ((held content h.turns k).drop (h.position + (chunks.take k).flatten.length)).take n
  ended : stop = none → (∃ n, quota room h.turns[chunks.length]? = .ok n) ∧
    (held content h.turns chunks.length).length ≤ h.position + chunks.flatten.length
  failed : ∀ e, stop = some e → quota room h.turns[chunks.length]? = .error e

namespace Streamed

theorem of_end (hroom : 0 < room) (hstands : h.Stands content)
    (hread : h.read room = (.ok [], later)) : Streamed room content h [] none := by
  obtain ⟨n, hquota, htake, -⟩ := read_eq_ok_iff.1 hread
  have hfound : h.found = [] := by
    simpa [Nat.ne_of_gt (quota_pos hroom hquota)] using htake
  refine ⟨by simp, fun _ => ⟨⟨n, by rwa [List.length_nil, ← List.head?_eq_getElem?]⟩, ?_⟩, by simp⟩
  simpa [hstands.found] using hfound

theorem of_error (hread : h.read room = (.error e, later)) :
    Streamed room content h [] (some e) := by
  obtain ⟨hquota, -⟩ := read_eq_error_iff.1 hread
  refine ⟨by simp, by simp, ?_⟩
  rintro _ ⟨⟩
  rwa [List.length_nil, ← List.head?_eq_getElem?]

theorem cons (hstands : h.Stands content) (hread : h.read room = (.ok chunk, later))
    (hne : chunk ≠ []) (hrest : Streamed room (held content h.turns 0) later chunks stop) :
    Streamed room content h (chunk :: chunks) stop := by
  obtain ⟨n, hquota, rfl, rfl⟩ := read_eq_ok_iff.1 hread
  constructor
  case chunk =>
    intro k c hc
    cases k with
    | zero =>
      obtain rfl := Option.some.inj hc
      refine ⟨hne, n, by rwa [← List.head?_eq_getElem?], ?_⟩
      simp [hstands.found]
    | succ k => simpa [held_succ, Nat.add_assoc] using hrest.chunk k c (by simpa using hc)
  case ended =>
    intro hstop
    simpa [held_succ, Nat.add_assoc] using hrest.ended hstop
  case failed =>
    intro e hstop
    simpa using hrest.failed e hstop

theorem chunk_fits (hs : Streamed room content h chunks stop) (hmem : chunk ∈ chunks) :
    chunk ≠ [] ∧ chunk.length ≤ room := by
  obtain ⟨k, hk⟩ := List.mem_iff_getElem?.1 hmem
  obtain ⟨hne, n, hquota, hchunk⟩ := hs.chunk k chunk hk
  refine ⟨hne, ?_⟩
  rw [hchunk]
  exact Nat.le_trans (List.length_take_le ..) (quota_le hquota)

theorem flatten_prefix (hs : Streamed room content (start content turns) chunks stop)
    (hwhole : ∀ k ≤ chunks.length, held content turns k <+: whole) :
    chunks.flatten <+: whole ∧
      (stop = none → held content turns chunks.length = whole → chunks.flatten = whole) := by
  have hfront : ∀ k ≤ chunks.length, (chunks.take k).flatten <+: whole := by
    intro k hk
    induction k with
    | zero => simp
    | succ k ih =>
      obtain ⟨rest, hrest⟩ := ih (Nat.le_of_succ_le hk)
      have hc := List.getElem?_eq_getElem hk
      obtain ⟨-, n, -, hchunk⟩ := hs.chunk k _ hc
      have hahead := (hwhole k (Nat.le_of_succ_le hk)).drop (chunks.take k).flatten.length
      rw [← hrest, List.drop_left] at hahead
      rw [List.take_add_one, hc, List.flatten_append, ← hrest, List.prefix_append_right_inj]
      simpa [hchunk, start] using (List.take_prefix _ _).trans hahead
  have hall : chunks.flatten <+: whole := by simpa using hfront _ Nat.le.refl
  refine ⟨hall, fun hstop hlast => hall.eq_of_length_le ?_⟩
  simpa [hlast, start] using (hs.ended hstop).2

theorem flatten_of_unwritten (hs : Streamed room content (start content turns) chunks stop)
    (hturns : ∀ t ∈ turns, t.written = none) :
    chunks.flatten <+: content ∧ (stop = none → chunks.flatten = content) := by
  have hheld : ∀ k, held content turns k = content := held_of_unwritten hturns
  have hwhole : ∀ k ≤ chunks.length, held content turns k <+: content := fun k _ => by rw [hheld]
  obtain ⟨hfront, hall⟩ := hs.flatten_prefix hwhole
  exact ⟨hfront, fun hstop => hall hstop (hheld _)⟩

end Streamed

end Handle

end Outbound
