import Mathlib.Data.List.Infix
import Mathlib.Tactic.SplitIfs
import Outbound.Text.Utf8

/-! Which bytes are the sequence of a character. A first byte fixes how many bytes follow and the
range of the second, so that no character has two sequences; every byte behind these is between
0x80 and 0xbf. Taking a piece from the front of some bytes finds a character exactly where its
sequence stands. What is cut off begins a sequence, and what is broken is the longest beginning of a
sequence that stands there, or else one byte. -/

namespace Outbound.Utf8

def Tail (b : UInt8) : Prop := 0x80 ≤ b.toNat ∧ b.toNat ≤ 0xbf

/-- The sequences, each with the number of its character. -/
inductive Sequence : Bytes → Nat → Prop
  | one {a : UInt8} {n : Nat} (ha : a.toNat ≤ 0x7f) (hn : n = a.toNat) : Sequence [a] n
  | two {a b : UInt8} {n : Nat} (ha : 0xc2 ≤ a.toNat ∧ a.toNat ≤ 0xdf) (hb : Tail b)
      (hn : n = a.toNat % 32 * 64 + b.toNat % 64) : Sequence [a, b] n
  | three {a b c : UInt8} {n : Nat} (ha : 0xe0 ≤ a.toNat ∧ a.toNat ≤ 0xef) (hb : Tail b)
      (hlow : a.toNat = 0xe0 → 0xa0 ≤ b.toNat) (hhigh : a.toNat = 0xed → b.toNat ≤ 0x9f)
      (hc : Tail c) (hn : n = (a.toNat % 16 * 64 + b.toNat % 64) * 64 + c.toNat % 64) :
      Sequence [a, b, c] n
  | four {a b c d : UInt8} {n : Nat} (ha : 0xf0 ≤ a.toNat ∧ a.toNat ≤ 0xf4) (hb : Tail b)
      (hlow : a.toNat = 0xf0 → 0x90 ≤ b.toNat) (hhigh : a.toNat = 0xf4 → b.toNat ≤ 0x8f)
      (hc : Tail c) (hd : Tail d)
      (hn : n = ((a.toNat % 8 * 64 + b.toNat % 64) * 64 + c.toNat % 64) * 64 + d.toNat % 64) :
      Sequence [a, b, c, d] n

variable {bs rest : Bytes} {c : Char} {n : Nat}

theorem toNat_ofNat (h : n.isValidChar) : (Char.ofNat n).val.toNat = n := by
  rw [Char.ofNat, dif_pos h]
  rfl

theorem Sequence.isValidChar (h : Sequence bs n) : n.isValidChar := by
  unfold Nat.isValidChar
  cases h with
  | one ha hn => omega
  | two ha hb hn => unfold Tail at hb; omega
  | three ha hb hlow hhigh hc hn => unfold Tail at hb hc; omega
  | four ha hb hlow hhigh hc hd hn => unfold Tail at hb hc hd; omega

theorem Sequence.encode_eq (h : Sequence bs n) : String.utf8EncodeChar (Char.ofNat n) = bs := by
  have hnumber : (Char.ofNat n).val.toNat = n := toNat_ofNat h.isValidChar
  rw [String.utf8EncodeChar, hnumber]
  cases h with
  | one ha hn =>
    rw [if_pos (by omega)]
    simp only [List.cons.injEq, ← UInt8.toNat_inj, UInt8.toNat_ofNat', and_true]
    omega
  | two ha hb hn =>
    unfold Tail at hb
    rw [if_neg (by omega), if_pos (by omega)]
    simp only [List.cons.injEq, ← UInt8.toNat_inj, UInt8.toNat_ofNat', and_true]
    omega
  | three ha hb hlow hhigh hc hn =>
    unfold Tail at hb hc
    rw [if_neg (by omega), if_neg (by omega), if_pos (by omega)]
    simp only [List.cons.injEq, ← UInt8.toNat_inj, UInt8.toNat_ofNat', and_true]
    omega
  | four ha hb hlow hhigh hc hd hn =>
    unfold Tail at hb hc hd
    rw [if_neg (by omega), if_neg (by omega), if_neg (by omega)]
    simp only [List.cons.injEq, ← UInt8.toNat_inj, UInt8.toNat_ofNat', and_true]
    omega

theorem sequence_encode (c : Char) : Sequence (String.utf8EncodeChar c) c.val.toNat := by
  have hvalid : c.val.toNat.isValidChar := c.valid
  rw [String.utf8EncodeChar]
  generalize c.val.toNat = v at hvalid ⊢
  unfold Nat.isValidChar at hvalid
  split_ifs with h1 h2 h3
  · refine .one ?_ ?_ <;> rw [UInt8.toNat_ofNat'] <;> omega
  · refine .two ?_ ?_ ?_ <;> simp only [Tail, UInt8.toNat_ofNat'] <;> omega
  · refine .three ?_ ?_ ?_ ?_ ?_ ?_ <;> simp only [Tail, UInt8.toNat_ofNat'] <;> omega
  · refine .four ?_ ?_ ?_ ?_ ?_ ?_ ?_ <;> simp only [Tail, UInt8.toNat_ofNat'] <;> omega

theorem toNat_eq_of_mem_encodeChar {b : UInt8} (hb : b.toNat ≤ 0x7f)
    (h : b ∈ String.utf8EncodeChar c) : c.toNat = b.toNat := by
  have hsequence := sequence_encode c
  generalize String.utf8EncodeChar c = bs at h hsequence
  generalize hn : c.val.toNat = n at hsequence
  cases hsequence with
  | one ha hn' =>
    rw [List.mem_singleton] at h
    rw [h, ← hn']
    exact hn
  | two ha hb' =>
    unfold Tail at hb'
    simp only [List.mem_cons, List.not_mem_nil, or_false] at h
    rcases h with rfl | rfl <;> omega
  | three ha hb' _ _ hc =>
    unfold Tail at hb' hc
    simp only [List.mem_cons, List.not_mem_nil, or_false] at h
    rcases h with rfl | rfl | rfl <;> omega
  | four ha hb' _ _ hc hd =>
    unfold Tail at hb' hc hd
    simp only [List.mem_cons, List.not_mem_nil, or_false] at h
    rcases h with rfl | rfl | rfl | rfl <;> omega

theorem not_mem_encode {b : UInt8} {cs : List Char} (hc : c.toNat ≤ 0x7f)
    (hb : b.toNat = c.toNat) (h : c ∉ cs) : b ∉ encode cs := by
  intro hmem
  obtain ⟨c', hc', hbyte⟩ := List.mem_flatMap.1 hmem
  have hnumber : c'.toNat = c.toNat :=
    (toNat_eq_of_mem_encodeChar (hb ▸ hc) hbyte).trans hb
  exact h (Char.toNat_inj.1 hnumber ▸ hc')

theorem length_le_length_encode (cs : List Char) : cs.length ≤ (encode cs).length := by
  induction cs with
  | nil => simp
  | cons c cs ih =>
    have hone : 1 ≤ (String.utf8EncodeChar c).length := by
      rw [String.length_utf8EncodeChar]
      exact c.utf8Size_pos
    rw [encode, List.flatMap_cons, List.length_append, List.length_cons]
    rw [encode] at ih
    omega

theorem lead_eq (a : UInt8) : lead a =
    if 0xc2 ≤ a.toNat ∧ a.toNat ≤ 0xdf then some ⟨1, 0x80, 0xbf, a.toNat % 32⟩
    else if a.toNat = 0xe0 then some ⟨2, 0xa0, 0xbf, 0⟩
    else if a.toNat = 0xed then some ⟨2, 0x80, 0x9f, 13⟩
    else if 0xe1 ≤ a.toNat ∧ a.toNat ≤ 0xef then some ⟨2, 0x80, 0xbf, a.toNat % 16⟩
    else if a.toNat = 0xf0 then some ⟨3, 0x90, 0xbf, 0⟩
    else if 0xf1 ≤ a.toNat ∧ a.toNat ≤ 0xf3 then some ⟨3, 0x80, 0xbf, a.toNat % 8⟩
    else if a.toNat = 0xf4 then some ⟨3, 0x80, 0x8f, 4⟩
    else none := by
  simp only [lead, UInt8.le_iff_toNat_le, beq_iff_eq, ← UInt8.toNat_inj, Bool.and_eq_true,
    decide_eq_true_eq, UInt8.reduceToNat]

theorem lead_two {a : UInt8} (ha : 0xc2 ≤ a.toNat ∧ a.toNat ≤ 0xdf) :
    lead a = some ⟨1, 0x80, 0xbf, a.toNat % 32⟩ := by
  rw [lead_eq, if_pos ha]

theorem lead_three {a : UInt8} (ha : 0xe0 ≤ a.toNat ∧ a.toNat ≤ 0xef) :
    lead a = some ⟨2, if a.toNat = 0xe0 then 0xa0 else 0x80,
      if a.toNat = 0xed then 0x9f else 0xbf, a.toNat % 16⟩ := by
  rw [lead_eq, if_neg (by omega)]
  by_cases he0 : a.toNat = 0xe0
  · simp [he0]
  · by_cases hed : a.toNat = 0xed
    · simp [hed]
    · rw [if_neg he0, if_neg hed, if_pos (by omega), if_neg he0, if_neg hed]

theorem lead_four {a : UInt8} (ha : 0xf0 ≤ a.toNat ∧ a.toNat ≤ 0xf4) :
    lead a = some ⟨3, if a.toNat = 0xf0 then 0x90 else 0x80,
      if a.toNat = 0xf4 then 0x8f else 0xbf, a.toNat % 8⟩ := by
  rw [lead_eq, if_neg (by omega), if_neg (by omega), if_neg (by omega), if_neg (by omega)]
  by_cases hf0 : a.toNat = 0xf0
  · simp [hf0]
  · by_cases hf4 : a.toNat = 0xf4
    · simp [hf4]
    · rw [if_neg hf0, if_pos (by omega), if_neg hf0, if_neg hf4]

theorem lead_none {a : UInt8} (ha : a.toNat < 0xc2 ∨ 0xf4 < a.toNat) : lead a = none := by
  rw [lead_eq, if_neg (by omega), if_neg (by omega), if_neg (by omega), if_neg (by omega),
    if_neg (by omega), if_neg (by omega), if_neg (by omega)]

theorem second_range {p q : Prop} [Decidable p] [Decidable q] (low high : UInt8) {b : UInt8}
    (hlow : 0x80 ≤ low.toNat) (hhigh : high.toNat ≤ 0xbf) :
    ((if p then low else 0x80).toNat ≤ b.toNat ∧ b.toNat ≤ (if q then high else 0xbf).toNat) ↔
      Tail b ∧ (p → low.toNat ≤ b.toNat) ∧ (q → b.toNat ≤ high.toNat) := by
  unfold Tail
  by_cases hp : p <;> by_cases hq : q <;> simp [hp, hq] <;> omega

theorem lead_cases (a : UInt8) :
    (0xc2 ≤ a.toNat ∧ a.toNat ≤ 0xdf) ∨ (0xe0 ≤ a.toNat ∧ a.toNat ≤ 0xef) ∨
      (0xf0 ≤ a.toNat ∧ a.toNat ≤ 0xf4) ∨ (a.toNat < 0xc2 ∨ 0xf4 < a.toNat) := by
  omega

theorem follow_succ {more : Nat} {low high b : UInt8} {bits : Nat}
    (hlow : low.toNat ≤ b.toNat) (hhigh : b.toNat ≤ high.toNat) (bs : Bytes) :
    follow (more + 1) low high bits (b :: bs) =
      follow more 0x80 0xbf (bits * 64 + b.toNat % 64) bs := by
  have hrange : (low ≤ b && b ≤ high) = true := by
    simpa [UInt8.le_iff_toNat_le] using ⟨hlow, hhigh⟩
  rw [follow, if_pos hrange]

theorem follow_tail {more : Nat} {b : UInt8} {bits : Nat} (hb : Tail b) (bs : Bytes) :
    follow (more + 1) 0x80 0xbf bits (b :: bs) =
      follow more 0x80 0xbf (bits * 64 + b.toNat % 64) bs := by
  apply follow_succ
  · exact hb.1
  · exact hb.2

theorem take_ascii {a : UInt8} (ha : a.toNat ≤ 0x7f) (bs : Bytes) :
    take (a :: bs) = .scalar (Char.ofNat a.toNat) bs := by
  have hlt : a < 0x80 := by
    rw [UInt8.lt_iff_toNat_lt]
    exact Nat.lt_succ_of_le ha
  rw [take, if_pos hlt]

theorem take_lead {a : UInt8} {l : Lead} (hl : lead a = some l) (bs : Bytes) :
    take (a :: bs) = follow l.more l.low l.high l.bits bs := by
  have hnot : ¬ a < 0x80 := by
    intro hlt
    rw [UInt8.lt_iff_toNat_lt] at hlt
    rw [lead_none (.inl (Nat.lt_trans hlt (by decide)))] at hl
    cases hl
  rw [take, if_neg hnot, hl]

theorem take_cons_of_lead_none {a : UInt8} (ha : ¬ a.toNat ≤ 0x7f) (h : lead a = none)
    (bs : Bytes) : take (a :: bs) = .broken bs := by
  have hnot : ¬ a < 0x80 := by
    rw [UInt8.lt_iff_toNat_lt]
    exact fun hlt => ha (Nat.le_of_lt_succ hlt)
  rw [take, if_neg hnot, h]

theorem Sequence.take_eq (h : Sequence bs n) (rest : Bytes) :
    take (bs ++ rest) = .scalar (Char.ofNat n) rest := by
  cases h with
  | one ha hn => exact hn ▸ take_ascii ha rest
  | two ha hb hn =>
    rw [List.cons_append, take_lead (lead_two ha), hn]
    exact follow_tail hb rest
  | @three a b c _ ha hb hlow hhigh hc hn =>
    obtain ⟨hfirst, hlast⟩ := (second_range 0xa0 0x9f (by decide) (by decide)).2 ⟨hb, hlow, hhigh⟩
    have hsecond : follow 2 (if a.toNat = 0xe0 then 0xa0 else 0x80)
        (if a.toNat = 0xed then 0x9f else 0xbf) (a.toNat % 16) (b :: c :: rest) =
        follow 1 0x80 0xbf (a.toNat % 16 * 64 + b.toNat % 64) (c :: rest) :=
      follow_succ hfirst hlast _
    rw [List.cons_append, take_lead (lead_three ha), hn]
    exact hsecond.trans (follow_tail hc rest)
  | @four a b c d _ ha hb hlow hhigh hc hd hn =>
    obtain ⟨hfirst, hlast⟩ := (second_range 0x90 0x8f (by decide) (by decide)).2 ⟨hb, hlow, hhigh⟩
    have hsecond : follow 3 (if a.toNat = 0xf0 then 0x90 else 0x80)
        (if a.toNat = 0xf4 then 0x8f else 0xbf) (a.toNat % 8) (b :: c :: d :: rest) =
        follow 2 0x80 0xbf (a.toNat % 8 * 64 + b.toNat % 64) (c :: d :: rest) :=
      follow_succ hfirst hlast _
    rw [List.cons_append, take_lead (lead_four ha), hn]
    exact hsecond.trans ((follow_tail hc _).trans (follow_tail hd rest))

theorem take_encode (c : Char) (rest : Bytes) :
    take (String.utf8EncodeChar c ++ rest) = .scalar c rest := by
  have hnumber : Char.ofNat c.val.toNat = c := Char.ofNat_toNat c
  rw [(sequence_encode c).take_eq, hnumber]

variable {more bits : Nat} {low high : UInt8}

theorem follow_eq_scalar (h : follow (more + 1) low high bits bs = .scalar c rest) :
    ∃ b after, bs = b :: after ∧ low.toNat ≤ b.toNat ∧ b.toNat ≤ high.toNat ∧
      follow more 0x80 0xbf (bits * 64 + b.toNat % 64) after = .scalar c rest := by
  cases bs with
  | nil => cases h
  | cons b after =>
    rw [follow] at h
    split at h
    · next hrange =>
      rw [Bool.and_eq_true, decide_eq_true_eq, decide_eq_true_eq, UInt8.le_iff_toNat_le,
        UInt8.le_iff_toNat_le] at hrange
      exact ⟨b, after, rfl, hrange.1, hrange.2, h⟩
    · cases h

theorem follow_tail_eq_scalar (h : follow (more + 1) 0x80 0xbf bits bs = .scalar c rest) :
    ∃ b after, bs = b :: after ∧ Tail b ∧
      follow more 0x80 0xbf (bits * 64 + b.toNat % 64) after = .scalar c rest := by
  obtain ⟨b, after, hbs, hlow, hhigh, h⟩ := follow_eq_scalar h
  exact ⟨b, after, hbs, ⟨hlow, hhigh⟩, h⟩

theorem exists_sequence_of_take (h : take bs = .scalar c rest) :
    ∃ p n, Sequence p n ∧ bs = p ++ rest ∧ c = Char.ofNat n := by
  cases bs with
  | nil => cases h
  | cons a bs =>
    rcases lead_cases a with ha | ha | ha | ha
    · rw [take_lead (lead_two ha)] at h
      obtain ⟨b, after, rfl, hb, h⟩ := follow_tail_eq_scalar h
      cases h
      exact ⟨[a, b], _, .two ha hb rfl, rfl, rfl⟩
    · rw [take_lead (lead_three ha)] at h
      obtain ⟨b, after, rfl, hlow, hhigh, h⟩ := follow_eq_scalar h
      obtain ⟨c', after, rfl, hc, h⟩ := follow_tail_eq_scalar h
      cases h
      obtain ⟨hb, hlow, hhigh⟩ := (second_range 0xa0 0x9f (by decide) (by decide)).1 ⟨hlow, hhigh⟩
      exact ⟨[a, b, c'], _, .three ha hb hlow hhigh hc rfl, rfl, rfl⟩
    · rw [take_lead (lead_four ha)] at h
      obtain ⟨b, after, rfl, hlow, hhigh, h⟩ := follow_eq_scalar h
      obtain ⟨c', after, rfl, hc, h⟩ := follow_tail_eq_scalar h
      obtain ⟨d, after, rfl, hd, h⟩ := follow_tail_eq_scalar h
      cases h
      obtain ⟨hb, hlow, hhigh⟩ := (second_range 0x90 0x8f (by decide) (by decide)).1 ⟨hlow, hhigh⟩
      exact ⟨[a, b, c', d], _, .four ha hb hlow hhigh hc hd rfl, rfl, rfl⟩
    · by_cases hascii : a.toNat ≤ 0x7f
      · rw [take_ascii hascii] at h
        cases h
        exact ⟨[a], _, .one hascii rfl, rfl, rfl⟩
      · rw [take_cons_of_lead_none hascii (lead_none ha)] at h
        cases h

/-- A character is taken exactly where its sequence stands. -/
theorem take_eq_scalar_iff :
    take bs = .scalar c rest ↔ bs = String.utf8EncodeChar c ++ rest := by
  constructor
  · intro h
    obtain ⟨p, n, hp, rfl, rfl⟩ := exists_sequence_of_take h
    rw [hp.encode_eq]
  · rintro rfl
    exact take_encode c rest

theorem follow_ne_done (more : Nat) (low high : UInt8) (bits : Nat) (bs : Bytes) :
    follow more low high bits bs ≠ .done := by
  fun_induction follow more low high bits bs with
  | case1 => simp
  | case2 => simp
  | case3 low high bits b bs more hrange ih => exact ih
  | case4 => simp

theorem take_eq_done_iff : take bs = .done ↔ bs = [] := by
  constructor
  · intro h
    cases bs with
    | nil => rfl
    | cons a bs =>
      rw [take] at h
      split at h
      · cases h
      · cases hl : lead a with
        | none => simp [hl] at h
        | some l =>
          rw [hl] at h
          exact absurd h (follow_ne_done _ _ _ _ _)
  · rintro rfl
    rfl

def Begins (p : Bytes) : Prop := ∃ c, p <+: String.utf8EncodeChar c

def Unfinished (p : Bytes) : Prop :=
  ∃ c, p <+: String.utf8EncodeChar c ∧ p ≠ String.utf8EncodeChar c

theorem Unfinished.begins {p : Bytes} (h : Unfinished p) : Begins p := by
  obtain ⟨c, hfront, -⟩ := h
  exact ⟨c, hfront⟩

theorem Unfinished.length_le {p : Bytes} (h : Unfinished p) : p.length ≤ 3 := by
  obtain ⟨c, hfront, hne⟩ := h
  have hle : p.length ≤ (String.utf8EncodeChar c).length := hfront.length_le
  have hlength : p.length ≠ (String.utf8EncodeChar c).length := fun he =>
    hne (hfront.eq_of_length he)
  have hfour : c.utf8Size ≤ 4 := c.utf8Size_le_four
  rw [String.length_utf8EncodeChar] at hle hlength
  omega

theorem follow_replicate (more bits : Nat) :
    ∃ c, follow more 0x80 0xbf bits (List.replicate more 0x80) = .scalar c [] := by
  induction more generalizing bits with
  | zero => exact ⟨_, rfl⟩
  | succ more ih =>
    obtain ⟨c, hc⟩ := ih (bits * 64)
    refine ⟨c, ?_⟩
    rw [List.replicate_succ, follow_tail (by unfold Tail; decide)]
    exact hc

theorem exists_completion (hrange : low.toNat ≤ high.toNat)
    (h : follow more low high bits bs = .cut) :
    ∃ after c, after ≠ [] ∧ follow more low high bits (bs ++ after) = .scalar c [] := by
  induction more generalizing low high bits bs with
  | zero => cases h
  | succ more ih =>
    cases bs with
    | nil =>
      obtain ⟨c, hc⟩ := follow_replicate more (bits * 64 + low.toNat % 64)
      refine ⟨low :: List.replicate more 0x80, c, by simp, ?_⟩
      rw [List.nil_append, follow_succ (Nat.le_refl _) hrange, hc]
    | cons b bs =>
      rw [follow] at h
      split at h
      · next hin =>
        obtain ⟨after, c, hne, hc⟩ := ih (by decide) h
        refine ⟨after, c, hne, ?_⟩
        rw [List.cons_append, follow, if_pos hin, hc]
      · cases h

theorem lead_range {a : UInt8} {l : Lead} (h : lead a = some l) :
    0 < l.more ∧ l.low.toNat ≤ l.high.toNat := by
  rw [lead_eq] at h
  split_ifs at h <;> cases h <;> simp

theorem take_cons_cases (a : UInt8) :
    (a.toNat ≤ 0x7f ∧ ∀ bs, take (a :: bs) = .scalar (Char.ofNat a.toNat) bs) ∨
    (∃ l : Lead, l.low.toNat ≤ l.high.toNat ∧
      ∀ bs, take (a :: bs) = follow l.more l.low l.high l.bits bs) ∨
    ∀ bs, take (a :: bs) = .broken bs := by
  by_cases ha : a.toNat ≤ 0x7f
  · exact .inl ⟨ha, take_ascii ha⟩
  · cases hl : lead a with
    | none => exact .inr (.inr (take_cons_of_lead_none ha hl))
    | some l => exact .inr (.inl ⟨l, (lead_range hl).2, take_lead hl⟩)

theorem unfinished_of_take (h : take bs = .cut) : bs ≠ [] ∧ Unfinished bs := by
  cases bs with
  | nil => cases h
  | cons a bs =>
    refine ⟨by simp, ?_⟩
    rcases take_cons_cases a with ⟨-, hall⟩ | ⟨l, hrange, hall⟩ | hall
    · rw [hall] at h
      cases h
    · rw [hall] at h
      obtain ⟨after, c, hne, hc⟩ := exists_completion hrange h
      have hwhole : take (a :: (bs ++ after)) = .scalar c [] := (hall _).trans hc
      rw [take_eq_scalar_iff, List.append_nil] at hwhole
      refine ⟨c, ⟨after, hwhole⟩, fun he => hne ?_⟩
      have hlength := congrArg List.length (hwhole.trans he.symm)
      simpa using hlength
    · rw [hall] at h
      cases h

theorem follow_eq_broken (h : follow more low high bits bs = .broken rest) :
    ∃ bad b after, bs = bad ++ b :: after ∧ rest = b :: after ∧
      follow more low high bits bad = .cut ∧
      ∀ other, follow more low high bits (bad ++ b :: other) = .broken (b :: other) := by
  induction more generalizing low high bits bs with
  | zero => cases h
  | succ more ih =>
    cases bs with
    | nil => cases h
    | cons b bs =>
      rw [follow] at h
      split at h
      · next hin =>
        obtain ⟨bad, b', after, rfl, rfl, hcut, hall⟩ := ih h
        refine ⟨b :: bad, b', after, rfl, rfl, ?_, fun other => ?_⟩
        · rw [follow, if_pos hin, hcut]
        · rw [List.cons_append, follow, if_pos hin, hall]
      · next hout =>
        cases h
        refine ⟨[], b, bs, rfl, rfl, rfl, fun other => ?_⟩
        rw [List.nil_append, follow, if_neg hout]

theorem take_eq_broken (h : take bs = .broken rest) :
    ∃ bad, bs = bad ++ rest ∧
      ((∃ a, bad = [a] ∧ ∀ other, take (a :: other) = .broken other) ∨
        take bad = .cut ∧ ∃ b after, rest = b :: after ∧
          ∀ other, take (bad ++ b :: other) = .broken (b :: other)) := by
  cases bs with
  | nil => cases h
  | cons a bs =>
    rcases take_cons_cases a with ⟨-, hall⟩ | ⟨l, -, hall⟩ | hall
    · rw [hall] at h
      cases h
    · rw [hall] at h
      obtain ⟨bad, b, after, rfl, rfl, hcut, hbroken⟩ := follow_eq_broken h
      refine ⟨a :: bad, rfl, .inr ⟨(hall bad).trans hcut, b, after, rfl, fun other => ?_⟩⟩
      exact (hall _).trans (hbroken other)
    · rw [hall] at h
      cases h
      exact ⟨[a], rfl, .inl ⟨a, rfl, hall⟩⟩

theorem take_append_of_broken (h : take bs = .broken rest) (other : Bytes) :
    take (bs ++ other) = .broken (rest ++ other) := by
  obtain ⟨bad, rfl, ⟨a, rfl, hall⟩ | ⟨-, b, after, rfl, hall⟩⟩ := take_eq_broken h
  · exact hall _
  · rw [List.append_assoc]
    exact hall _

theorem take_append_of_scalar (h : take bs = .scalar c rest) (other : Bytes) :
    take (bs ++ other) = .scalar c (rest ++ other) := by
  rw [take_eq_scalar_iff] at h ⊢
  rw [h, List.append_assoc]

end Outbound.Utf8
