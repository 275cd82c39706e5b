import Outbound.Proofs.Text.Sequence

/-! Text that is decoded as it arrives is the text that the bytes have as a whole, wherever they are
cut into chunks. What a whole text is read as is said of its sequences alone: U+FFFD stands for each
longest beginning of a sequence that nothing completes, and for each byte that begins none. Between
chunks at most three bytes are held, with which a sequence begins. -/

namespace Outbound

namespace Utf8

/-- Bytes at the front that are no character, as many as one U+FFFD stands for: as many as a
sequence begins with, and at least one. -/
structure Ill (bad rest : Bytes) : Prop where
  ne_nil : bad ≠ []
  no_char : ∀ c, ¬ String.utf8EncodeChar c <+: bad ++ rest
  begins : Begins bad ∨ bad.length = 1
  longest : ∀ p, p <+: bad ++ rest → Begins p → p.length ≤ bad.length

/-- What bytes are read as, whatever they are. -/
inductive Lossy : Bytes → List Char → Prop
  | done : Lossy [] []
  | char {rest : Bytes} {cs : List Char} (c : Char) (h : Lossy rest cs) :
      Lossy (String.utf8EncodeChar c ++ rest) (c :: cs)
  | ill {bad rest : Bytes} {cs : List Char} (hill : Ill bad rest) (h : Lossy rest cs) :
      Lossy (bad ++ rest) (replacement :: cs)

variable {bs rest bad : Bytes} {c : Char} {cs : List Char}

theorem run_lead (more : Nat) (low high : UInt8) (bits : Nat) (bs : Bytes) :
    run (some ⟨more + 1, low, high, bits⟩) bs =
      match follow (more + 1) low high bits bs with
      | .scalar c rest => c :: decode rest
      | .broken rest => replacement :: decode rest
      | _ => [replacement] := by
  induction bs generalizing more low high bits with
  | nil => rfl
  | cons b bs ih =>
    rw [run, step, follow]
    by_cases hrange : (low ≤ b && b ≤ high) = true
    · rw [if_pos hrange, if_pos hrange]
      cases more with
      | zero => rfl
      | succ more => exact ih more _ _ _
    · rw [if_neg hrange, if_neg hrange]
      rfl

theorem decode_cons (a : UInt8) (bs : Bytes) :
    decode (a :: bs) = (start a).1 ++ run (start a).2 bs := rfl

theorem decode_eq (bs : Bytes) : decode bs =
    match take bs with
    | .done => []
    | .scalar c rest => c :: decode rest
    | .broken rest => replacement :: decode rest
    | .cut => [replacement] := by
  cases bs with
  | nil => rfl
  | cons a bs =>
    rw [decode_cons, start, take]
    split
    · rfl
    · cases hl : lead a with
      | none => rfl
      | some l =>
        obtain ⟨hmore, -⟩ := lead_range hl
        obtain ⟨_ | more, low, high, bits⟩ := l
        · exact absurd hmore (Nat.lt_irrefl 0)
        have hrun := run_lead more low high bits bs
        cases hfollow : follow (more + 1) low high bits bs with
        | done => exact absurd hfollow (follow_ne_done _ _ _ _ _)
        | scalar c rest => simpa [hfollow] using hrun
        | broken rest => simpa [hfollow] using hrun
        | cut => simpa [hfollow] using hrun

theorem decode_of_scalar (h : take bs = .scalar c rest) : decode bs = c :: decode rest := by
  rw [decode_eq, h]

theorem decode_of_broken (h : take bs = .broken rest) :
    decode bs = replacement :: decode rest := by
  rw [decode_eq, h]

theorem decode_of_cut (h : take bs = .cut) : decode bs = [replacement] := by
  rw [decode_eq, h]

theorem decode_of_ascii (h : ∀ b ∈ bs, b.toNat ≤ 0x7f) :
    decode bs = bs.map fun b => Char.ofNat b.toNat := by
  induction bs with
  | nil => rfl
  | cons b bs ih =>
    obtain ⟨hb, hbs⟩ := List.forall_mem_cons.1 h
    rw [decode_of_scalar (take_ascii hb bs), ih hbs, List.map_cons]

theorem scan_nil : scan [] = ([], []) := by
  rw [scan]
  rfl

theorem scan_of_cut (h : take bs = .cut) : scan bs = ([], bs) := by
  rw [scan]
  split <;> simp_all

theorem scan_of_scalar (h : take bs = .scalar c rest) :
    scan bs = (c :: (scan rest).1, (scan rest).2) := by
  rw [scan]
  split <;> simp_all

theorem scan_of_broken (h : take bs = .broken rest) :
    scan bs = (replacement :: (scan rest).1, (scan rest).2) := by
  rw [scan]
  split <;> simp_all

/-- Bytes are taken apart from the front until nothing is left, or a sequence that is cut off. -/
theorem scan_induction {P : Bytes → Prop} (done : P []) (cut : ∀ bs, take bs = .cut → P bs)
    (scalar : ∀ bs c rest, take bs = .scalar c rest → P rest → P bs)
    (broken : ∀ bs rest, take bs = .broken rest → P rest → P bs) (bs : Bytes) : P bs := by
  induction h : bs.length using Nat.strong_induction_on generalizing bs with
  | _ n ih =>
    cases htake : take bs with
    | done =>
      rw [take_eq_done_iff] at htake
      rwa [htake]
    | cut => exact cut bs htake
    | scalar c rest =>
      exact scalar bs c rest htake (ih rest.length (h ▸ take_scalar_lt htake) rest rfl)
    | broken rest =>
      exact broken bs rest htake (ih rest.length (h ▸ take_broken_lt htake) rest rfl)

theorem scan_append (bs more : Bytes) : scan (bs ++ more) =
    ((scan bs).1 ++ (scan ((scan bs).2 ++ more)).1, (scan ((scan bs).2 ++ more)).2) := by
  induction bs using scan_induction with
  | done => simp [scan_nil]
  | cut bs h => simp [scan_of_cut h]
  | scalar bs c rest h ih =>
    rw [scan_of_scalar (take_append_of_scalar h more), scan_of_scalar h, ih]
    rfl
  | broken bs rest h ih =>
    rw [scan_of_broken (take_append_of_broken h more), scan_of_broken h, ih]
    rfl

theorem decode_eq_scan (bs : Bytes) : decode bs = (scan bs).1 ++ decode (scan bs).2 := by
  induction bs using scan_induction with
  | done => simp [scan_nil]
  | cut bs h => simp [scan_of_cut h]
  | scalar bs c rest h ih => rw [decode_of_scalar h, scan_of_scalar h, ih, List.cons_append]
  | broken bs rest h ih => rw [decode_of_broken h, scan_of_broken h, ih, List.cons_append]

theorem decode_append (bs more : Bytes) :
    decode (bs ++ more) = (scan bs).1 ++ decode ((scan bs).2 ++ more) := by
  rw [decode_eq_scan, scan_append, decode_eq_scan ((scan bs).2 ++ more), List.append_assoc]

theorem held (bs : Bytes) : (scan bs).2 = [] ∨ take (scan bs).2 = .cut := by
  induction bs using scan_induction with
  | done => exact .inl (by rw [scan_nil])
  | cut bs h => exact .inr (by rw [scan_of_cut h, h])
  | scalar bs c rest h ih => rwa [scan_of_scalar h]
  | broken bs rest h ih => rwa [scan_of_broken h]

theorem ill_of_cut (h : take bs = .cut) : Ill bs [] where
  ne_nil := (unfinished_of_take h).1
  no_char c hfront := by
    obtain ⟨rest, hrest⟩ := hfront
    rw [List.append_nil] at hrest
    rw [take_eq_scalar_iff.2 hrest.symm] at h
    cases h
  begins := .inl (unfinished_of_take h).2.begins
  longest p hp _ := by simpa using hp.length_le

theorem ill_of_broken (h : take bs = .broken rest) : ∃ bad, bs = bad ++ rest ∧ Ill bad rest := by
  have hno_char : ∀ c, ¬ String.utf8EncodeChar c <+: bs := by
    rintro c ⟨other, hother⟩
    rw [take_eq_scalar_iff.2 hother.symm] at h
    cases h
  have hbroken : ∀ {c : Char} {bad other : Bytes}, String.utf8EncodeChar c = bad →
      take bad ≠ .broken other := by
    intro c bad other hc htake
    have hwhole : take bad = .scalar c [] := take_eq_scalar_iff.2 (by rw [← hc, List.append_nil])
    rw [hwhole] at htake
    cases htake
  obtain ⟨bad, rfl, ⟨a, rfl, hall⟩ | ⟨hcut, b, after, rfl, hall⟩⟩ := take_eq_broken h
  · refine ⟨[a], rfl, by simp, hno_char, .inr rfl, fun p hp hbegins => ?_⟩
    cases p with
    | nil => simp
    | cons a' p =>
      obtain ⟨rfl, -⟩ := List.cons_prefix_cons.1 hp
      obtain ⟨c, other, hc⟩ := hbegins
      exact absurd (hall (p ++ other)) (hbroken hc.symm)
  · obtain ⟨hne, hunfinished⟩ := unfinished_of_take hcut
    refine ⟨bad, rfl, hne, hno_char, .inl hunfinished.begins, fun p hp hbegins => ?_⟩
    -- a sequence that begins with more would not be broken off here
    by_contra hlonger
    have hfront : bad ++ [b] <+: p := by
      apply List.prefix_of_prefix_length_le _ hp
      · simp only [List.length_append, List.length_singleton]
        omega
      · exact ⟨after, by simp⟩
    obtain ⟨c, hc⟩ := hbegins
    obtain ⟨other, hother⟩ := hfront.trans hc
    rw [List.append_assoc] at hother
    exact absurd (hall other) (hbroken hother.symm)

theorem lossy_decode (bs : Bytes) : Lossy bs (decode bs) := by
  induction bs using scan_induction with
  | done => exact .done
  | cut bs h =>
    rw [decode_of_cut h]
    simpa using Lossy.ill (ill_of_cut h) .done
  | scalar bs c rest h ih =>
    rw [decode_of_scalar h, take_eq_scalar_iff.1 h]
    exact .char c ih
  | broken bs rest h ih =>
    obtain ⟨bad, rfl, hill⟩ := ill_of_broken h
    rw [decode_of_broken h]
    exact .ill hill ih

theorem Ill.length_le {bad' rest' : Bytes} (h : Ill bad rest) (h' : Ill bad' rest')
    (heq : bad ++ rest = bad' ++ rest') : bad.length ≤ bad'.length := by
  rcases h.begins with hbegins | hone
  · exact h'.longest bad (heq ▸ List.prefix_append bad rest) hbegins
  · rw [hone]
    exact List.length_pos_iff.2 h'.ne_nil

theorem Ill.decode_eq (h : Ill bad rest) : decode (bad ++ rest) = replacement :: decode rest := by
  cases htake : take (bad ++ rest) with
  | done =>
    rw [take_eq_done_iff, List.append_eq_nil_iff] at htake
    exact absurd htake.1 h.ne_nil
  | scalar c other => exact absurd ⟨other, (take_eq_scalar_iff.1 htake).symm⟩ (h.no_char c)
  | cut =>
    have hle := h.longest _ List.prefix_rfl (unfinished_of_take htake).2.begins
    have hrest : rest = [] := by
      rw [List.length_append] at hle
      exact List.length_eq_zero_iff.1 (by omega)
    rw [decode_of_cut htake, hrest]
    rfl
  | broken other =>
    obtain ⟨bad', heq, h'⟩ := ill_of_broken htake
    have hlength : bad.length = bad'.length :=
      Nat.le_antisymm (h.length_le h' heq) (h'.length_le h heq.symm)
    obtain ⟨-, rfl⟩ := List.append_inj heq hlength
    exact decode_of_broken htake

theorem lossy_iff : Lossy bs cs ↔ cs = decode bs := by
  constructor
  · intro h
    induction h with
    | done => rfl
    | char c _ ih => rw [ih, decode_of_scalar (take_encode c _)]
    | ill hill _ ih => rw [ih, hill.decode_eq]
  · rintro rfl
    exact lossy_decode bs

end Utf8

namespace Decoder

/-- The decoders that a new one becomes, with one chunk after the other, and with the end of a text
in between. -/
inductive Reached : Decoder → Prop
  | new : Reached {}
  | push {d : Decoder} (h : Reached d) (chunk : Bytes) : Reached (d.push chunk).2
  | finish {d : Decoder} (h : Reached d) : Reached d.finish.2

theorem Reached.pending {d : Decoder} (h : Reached d) :
    d.pending = [] ∨ Utf8.take d.pending = .cut := by
  induction h with
  | new => exact .inl rfl
  | push _ chunk _ => exact Utf8.held _
  | finish _ _ => exact .inl rfl

theorem decodeAll_eq (d : Decoder) (chunks : List Bytes) :
    d.decodeAll chunks = Utf8.decode (d.pending ++ chunks.flatten) := by
  induction chunks generalizing d with
  | nil =>
    rw [List.flatten_nil, List.append_nil]
    rfl
  | cons chunk chunks ih =>
    calc d.decodeAll (chunk :: chunks)
        = (Utf8.scan (d.pending ++ chunk)).1 ++
            (d.push chunk).2.decodeAll chunks := rfl
      _ = (Utf8.scan (d.pending ++ chunk)).1 ++
            Utf8.decode ((Utf8.scan (d.pending ++ chunk)).2 ++ chunks.flatten) := by
          rw [ih]
          rfl
      _ = Utf8.decode (d.pending ++ chunk ++ chunks.flatten) := (Utf8.decode_append _ _).symm
      _ = Utf8.decode (d.pending ++ (chunk :: chunks).flatten) := by
          rw [List.flatten_cons, List.append_assoc]

/-- Wherever bytes are cut, the chunks are read as the whole is: with one U+FFFD for each longest
beginning of a sequence that nothing completes. A decoder holds at most three bytes between calls,
with which a sequence begins, and at the end of a text it is new. -/
theorem progressive_eq_whole :
    (∀ chunks : List Bytes,
      ({} : Decoder).decodeAll chunks = Utf8.decode chunks.flatten ∧
      ∀ cs, Utf8.Lossy chunks.flatten cs ↔ cs = ({} : Decoder).decodeAll chunks) ∧
    ∀ d, Reached d →
      d.pending.length ≤ 3 ∧ (d.pending = [] ∨ Utf8.Unfinished d.pending) ∧
      d.finish.2 = {} := by
  constructor
  · intro chunks
    have hwhole : ({} : Decoder).decodeAll chunks = Utf8.decode chunks.flatten :=
      decodeAll_eq {} chunks
    refine ⟨hwhole, fun cs => ?_⟩
    rw [hwhole, Utf8.lossy_iff]
  · intro d hd
    rcases hd.pending with hnil | hcut
    · exact ⟨by simp [hnil], .inl hnil, rfl⟩
    · have hunfinished := (Utf8.unfinished_of_take hcut).2
      exact ⟨hunfinished.length_le, .inr hunfinished, rfl⟩

theorem progressive_eq_whole_of_split :
    ({} : Decoder).decodeAll [[0xe2, 0x82], [], [0xac, 0xf0, 0x9f]] = ['€', '\uFFFD'] ∧
    (({} : Decoder).push [0xe2, 0x82]).2.pending.length ≤ 3 ∧
    (({} : Decoder).push [0xe2, 0x82]).2.finish.2 = {} := by
  obtain ⟨hwhole, hheld⟩ := progressive_eq_whole
  obtain ⟨hle, -, hfinish⟩ := hheld _ (.push .new [0xe2, 0x82])
  refine ⟨?_, hle, hfinish⟩
  rw [(hwhole _).1]
  decide

end Decoder
end Outbound
