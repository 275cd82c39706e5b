import Outbound.Proofs.Cookie.Store

/-! When the clock fails a jar. Every age in a header is added to the time on the clock, and nothing
tests beforehand whether the clock can tell the sum. Whether it fails depends on the header, the URL and
the time, but not on the jar; whatever has been stored before stays. -/

namespace Outbound

namespace Cookie

variable {header : String} {cs : List Char} {n : Int} {age : Nat}

theorem readInt64?_le (h : readInt64? cs = some n) : n ≤ Word.most64 := by
  simp only [readInt64?, Option.ite_none_left_eq_some, Option.ite_none_right_eq_some,
    Option.some.injEq] at h
  obtain ⟨-, hfits, rfl⟩ := h
  exact (Word.fits64_iff.1 hfits).2

theorem maxAge_le {seconds : Int} (h : Attribute.read cs = .maxAge seconds) : seconds ≤ Word.most64 := by
  simp only [Attribute.read] at h
  split at h
  · split at h <;> cases h
  · split at h
    · split at h <;> cases h
    · split at h <;> cases h
    · split at h
      · rename_i hread
        obtain rfl := Attribute.maxAge.inj h
        exact readInt64?_le hread
      · cases h
    · cases h

theorem mem_ages : age ∈ ages header ↔
    ∃ seconds, .maxAge seconds ∈ attributes header ∧ seconds.toNat = age := by
  simp only [ages, List.mem_filterMap]
  constructor
  · rintro ⟨a, ha, hage⟩
    cases a with
    | maxAge seconds => exact ⟨seconds, ha, Option.some.inj hage⟩
    | _ => cases hage
  · rintro ⟨seconds, ha, rfl⟩
    exact ⟨_, ha, rfl⟩

theorem age_le_lastSecond {seconds : Int} (h : .maxAge seconds ∈ attributes header) :
    seconds.toNat ≤ Clock.lastSecond := by
  obtain ⟨cs, -, hread⟩ := List.mem_map.1 h
  have hlast : (Clock.lastSecond : Int) = Word.most64 := by decide
  rw [Int.toNat_le, hlast]
  exact maxAge_le hread

end Cookie

namespace Jar

variable {now : Time} {u : Url} {header : String} {jar : Jar}

/-- A header with an age that goes beyond the last second of the clock. -/
structure Overruns (now : Time) (u : Url) (header : String) : Prop where
  host : u.hostText? ≠ none
  pair : Cookie.pair? header ≠ none
  age : ∃ seconds, .maxAge seconds ∈ Cookie.attributes header ∧
    Clock.lastSecond < now / Clock.second + seconds.toNat

theorem not_told_iff : ¬ Told now u header ↔ Overruns now u header := by
  have hage : ¬ Cookie.Tellable now header ↔ ∃ seconds, .maxAge seconds ∈ Cookie.attributes header ∧
      Clock.lastSecond < now / Clock.second + seconds.toNat := by
    simp only [Cookie.Tellable, not_forall, Nat.not_le, Cookie.mem_ages]
    constructor
    · rintro ⟨_, ⟨seconds, hmem, rfl⟩, h⟩
      exact ⟨seconds, hmem, h⟩
    · rintro ⟨seconds, hmem, h⟩
      exact ⟨_, ⟨seconds, hmem, rfl⟩, h⟩
  rw [Told, not_or, not_or, hage]
  exact ⟨fun h => ⟨h.1, h.2.1, h.2.2⟩, fun h => ⟨h.host, h.pair, h.age⟩⟩

instance (now : Time) (u : Url) (header : String) : Decidable (Overruns now u header) :=
  decidable_of_iff _ not_told_iff

theorem set_eq_error_iff : jar.set now u header = .error .overflow ↔ Overruns now u header := by
  rw [set_eq, ← not_told_iff]
  by_cases h : Told now u header
  · rw [if_pos h]
    cases deposit? now u header <;> simp [h]
  · simp [h]

theorem set_of_not_overruns {log : List Deposit} (hf : Filed log jar) (h : ¬ Overruns now u header) :
    (∀ c host, Cookie.read now header = .ok (some c) → ¬ KeptFor c u host) ∧
        jar.set now u header = .ok (false, jar) ∨
      ∃ c host next, Cookie.read now header = .ok (some c) ∧ KeptFor c u host ∧
        jar.set now u header = .ok (true, next) ∧ Stored jar next host c (c.expired now) := by
  have htold : Told now u header := not_not.1 (mt not_told_iff.1 h)
  rw [set_eq, if_pos htold]
  cases hd : deposit? now u header with
  | none =>
    refine .inl ⟨fun c host hread hkept => ?_, rfl⟩
    have hdeposit : deposit? now u header = some ⟨now, u, header, c, host⟩ :=
      deposit?_eq_some_iff.2 ⟨rfl, rfl, rfl, hread, hkept⟩
    cases hd.symm.trans hdeposit
  | some d =>
    obtain ⟨rfl, -, -, hread, hkept⟩ := deposit?_eq_some_iff.1 hd
    exact .inr ⟨d.cookie, d.host, jar.add d, hread, hkept, rfl, stored_add hf d⟩

/-- A jar fails on some header from the first full second of the clock on, for every URL with a host. -/
theorem exists_overruns_iff : (∃ header, Overruns now u header) ↔
    Clock.second ≤ now ∧ u.hostText? ≠ none := by
  constructor
  · rintro ⟨header, hhost, -, seconds, hmem, hover⟩
    have hage := Cookie.age_le_lastSecond hmem
    refine ⟨Nat.le_of_not_lt fun hnow => ?_, hhost⟩
    rw [Nat.div_eq_of_lt hnow] at hover
    omega
  · rintro ⟨hnow, hhost⟩
    refine ⟨"c=1; Max-Age=9223372036854775807", hhost, by decide +kernel, Word.most64,
      by decide +kernel, ?_⟩
    rw [show Word.most64.toNat = Clock.lastSecond by decide]
    exact Nat.lt_add_of_pos_left (Nat.div_pos hnow (by decide))

/-- The texts of the headers in front of the first one that the clock fails on. -/
def tellable (now : Time) (u : Url) (headers : List Bytes) : List String :=
  (headers.filterMap Header.plainText?).takeWhile fun header => ¬ Overruns now u header

theorem setAll_eq (now : Time) (u : Url) (jar : Jar) (headers : List Bytes) :
    setAll now u jar headers =
      ((tellable now u headers).foldl (fun jar header => jar.after now (.set u header)) jar,
        if ∃ header ∈ headers.filterMap Header.plainText?, Overruns now u header then some .overflow
        else none) := by
  induction headers generalizing jar with
  | nil => simp [setAll, tellable]
  | cons bytes headers ih =>
    rw [setAll_cons]
    cases hplain : Header.plainText? bytes with
    | none => simp only [ih, tellable, List.filterMap_cons_none hplain]
    | some header =>
      simp only [tellable, List.filterMap_cons_some hplain]
      by_cases h : Overruns now u header
      · rw [if_neg (not_told_iff.2 h), List.takeWhile_cons_of_neg (by simpa using h),
          if_pos ⟨header, .head _, h⟩]
        rfl
      · have hany : (∃ other ∈ header :: headers.filterMap Header.plainText?, Overruns now u other) ↔
            ∃ other ∈ headers.filterMap Header.plainText?, Overruns now u other := by simp [h]
        rw [if_pos (not_not.1 (mt not_told_iff.1 h)), ih, List.takeWhile_cons_of_pos (by simpa using h)]
        simp only [hany]
        rfl

/-- A jar answers for every header, at any point of its course, unless an age in it goes beyond the last
second of the clock; and this can happen as soon as one second has passed. -/
theorem answers_unless_overrun (history : List (Time × Action)) (now : Time) (u : Url) :
    let jar := run history
    (∀ header, (jar.set now u header = .error .overflow ↔ Overruns now u header) ∧
      (¬ Overruns now u header →
        (∀ c host, Cookie.read now header = .ok (some c) → ¬ KeptFor c u host) ∧
            jar.set now u header = .ok (false, jar) ∨
          ∃ c host next, Cookie.read now header = .ok (some c) ∧ KeptFor c u host ∧
            jar.set now u header = .ok (true, next) ∧ Stored jar next host c (c.expired now))) ∧
    (∀ headers, setAll now u jar headers =
      ((tellable now u headers).foldl (fun jar header => jar.after now (.set u header)) jar,
        if ∃ header ∈ headers.filterMap Header.plainText?, Overruns now u header then some .overflow
        else none)) ∧
    ((∃ header, Overruns now u header) ↔ Clock.second ≤ now ∧ u.hostText? ≠ none) := by
  intro jar
  exact ⟨fun _ => ⟨set_eq_error_iff, set_of_not_overruns (.run history)⟩, setAll_eq now u jar,
    exists_overruns_iff⟩

theorem answers_unless_overrun_of_negative_age :
    let u := root (.domain "example.test".toList)
    let jar := run [(0, .set u "a=1")]
    ∃ next, jar.set 0 u "a=; Max-Age=-9223372036854775808" = .ok (true, next) ∧
      next.kept "example.test" = [] := by
  intro u jar
  obtain ⟨hset, -, -⟩ := answers_unless_overrun [(0, .set u "a=1")] 0 u
  have hnot : ¬ Overruns 0 u "a=; Max-Age=-9223372036854775808" := by decide +kernel
  rcases (hset _).2 hnot with h | ⟨c, host, next, hread, ⟨name, hname, hhost, -⟩, hnext, hstored⟩
  · exact absurd h.2 (by decide +kernel)
  · have hc : c = { name := "a", value := "", expires := some 0 } := by
      refine Option.some.inj (Except.ok.inj (hread.symm.trans ?_))
      decide +kernel
    obtain rfl : name = "example.test" := Option.some.inj (hname.symm.trans (by decide +kernel))
    obtain rfl : host = "example.test" := by
      rw [hhost, hc]
      decide +kernel
    have hkept : jar.kept "example.test" = [] ++ { name := "a", value := "1" } :: [] := by
      decide +kernel
    refine ⟨next, hnext, (hstored.replaced _ _ _ hkept (by rw [hc]; rfl)).trans ?_⟩
    rw [hc]
    rfl

/-- A server can send an age that no clock can add to a time after its first second. -/
theorem set_fails_on_largest_age :
    let u := root (.domain "example.test".toList)
    let header := "c=1; Max-Age=9223372036854775807"
    Cookie.attributes header = [.maxAge Word.most64] ∧
    (run []).set (100000 * Clock.second) u header = .error .overflow ∧
    setAll (100000 * Clock.second) u (run []) [header.toUTF8.toList] = (run [], some .overflow) := by
  refine ⟨by decide +kernel, by decide +kernel, by decide +kernel⟩

end Jar

end Outbound
