import Outbound.Proofs.Cookie.Reach
import Outbound.Proofs.Text.Progressive

/-! Cookies on the wire. The text that a jar answers goes out if it can be the value of a header field,
and this hangs on every cookie in it: one name or value with a control character holds back all the
others. The headers of a response are plain text, from which no such cookie comes; a caller can set one. -/

namespace Outbound

namespace Text

theorem trim_subset (cs : List Char) : trim cs ⊆ cs := by
  have hstart : ∀ cs : List Char, trimStart cs ⊆ cs := fun cs => (List.dropWhile_sublist _).subset
  intro c hc
  have hend : c ∈ trimStart (trimStart cs).reverse := List.mem_reverse.1 hc
  exact hstart cs (List.mem_reverse.1 (hstart _ hend))

theorem split_subset (separator : Char) (cs : List Char) :
    ∀ piece ∈ split separator cs, piece ⊆ cs := by
  fun_induction split separator cs with
  | case1 => simp
  | case2 cs ih =>
    refine List.forall_mem_cons.2 ⟨List.nil_subset _, fun piece hpiece => ?_⟩
    exact List.Subset.trans (ih piece hpiece) (List.subset_cons_self _ _)
  | case3 c cs hc first pieces hsplit ih =>
    rw [hsplit] at ih
    obtain ⟨hfirst, hpieces⟩ := List.forall_mem_cons.1 ih
    refine List.forall_mem_cons.2 ⟨List.cons_subset_cons c hfirst, fun piece hpiece => ?_⟩
    exact List.Subset.trans (hpieces piece hpiece) (List.subset_cons_self _ _)
  | case4 c cs => simp

end Text

namespace Header

variable {bytes : Bytes} {text : String}

theorem isValueChar_iff {c : Char} :
    isValueChar c = true ↔ 0x20 ≤ c.toNat ∧ c.toNat ≠ 0x7f ∨ c.toNat = 0x09 := by
  simp [isValueChar]

theorem validValue_iff : validValue text = true ↔ ∀ c ∈ text.toList, isValueChar c = true :=
  List.all_eq_true

theorem validValue_of_subset {other : String} (hsubset : other.toList ⊆ text.toList)
    (h : validValue text = true) : validValue other = true :=
  validValue_iff.2 fun c hc => validValue_iff.1 h c (hsubset hc)

theorem validValue_of_plainText? (h : plainText? bytes = some text) : validValue text = true := by
  rw [plainText?, Option.ite_none_right_eq_some] at h
  obtain ⟨hall, htext⟩ := h
  obtain rfl := Option.some.inj htext
  have hplain : ∀ b ∈ bytes, 0x20 ≤ b.toNat ∧ b.toNat < 0x7f ∨ b.toNat = 0x09 := by
    simpa [UInt8.le_iff_toNat_le, UInt8.lt_iff_toNat_lt, ← UInt8.toNat_inj] using hall
  have hascii : ∀ b ∈ bytes, b.toNat ≤ 0x7f := fun b hb => by
    have := hplain b hb
    omega
  rw [validValue_iff, String.toList_ofList, Utf8.decode_of_ascii hascii, List.forall_mem_map]
  intro b hb
  have hnat : (Char.ofNat b.toNat).toNat = b.toNat :=
    Utf8.toNat_ofNat (.inl (Nat.lt_of_le_of_lt (hascii b hb) (by decide)))
  have := hplain b hb
  rw [isValueChar_iff, hnat]
  omega

theorem validValue_append (a b : String) :
    validValue (a ++ b) = (validValue a && validValue b) := by
  simp [validValue]

theorem validValue_intercalate {separator : String} (hseparator : validValue separator = true)
    (texts : List String) :
    validValue (String.intercalate separator texts) = true ↔ ∀ t ∈ texts, validValue t = true := by
  induction texts with
  | nil => simp [validValue]
  | cons t texts ih =>
    cases texts with
    | nil => simp
    | cons next texts =>
      rw [List.forall_mem_cons, String.intercalate_cons_cons, validValue_append, validValue_append,
        hseparator, Bool.and_true, Bool.and_eq_true, ih]

end Header

namespace Cookie

variable {now : Time} {header : String} {c : Cookie}

/-- Name and value can stand in the value of a header field. -/
def Sendable (c : Cookie) : Prop :=
  Header.validValue c.name = true ∧ Header.validValue c.value = true

instance (c : Cookie) : Decidable c.Sendable := inferInstanceAs (Decidable (_ ∧ _))

theorem validValue_text : Header.validValue c.text = true ↔ c.Sendable := by
  have heq : Header.validValue "=" = true := by decide
  rw [text, Header.validValue_append, Header.validValue_append, heq, Bool.and_true,
    Bool.and_eq_true, Sendable]

theorem readPair_subset {cs : List Char} (h : readPair cs = some c) :
    c.name.toList ⊆ cs ∧ c.value.toList ⊆ cs := by
  simp only [readPair, Option.bind_eq_bind, Option.bind_eq_some_iff] at h
  obtain ⟨⟨name, value⟩, hsplit, h⟩ := h
  have hcs : name ++ '=' :: value ⊆ cs := Text.splitOnce_eq_some hsplit ▸ Text.trim_subset cs
  split at h
  · cases h
  · obtain rfl := Option.some.inj h
    have hname : name ⊆ cs := List.Subset.trans (List.subset_append_left _ _) hcs
    have hvalue : value ⊆ cs := fun c hc =>
      hcs (List.mem_append_right _ (List.mem_cons_of_mem _ hc))
    simp only [String.toList_ofList]
    exact ⟨List.Subset.trans (Text.trim_subset _) hname,
      List.Subset.trans (Text.trim_subset _) hvalue⟩

theorem stated_subset (h : stated now header = some c) :
    c.name.toList ⊆ header.toList ∧ c.value.toList ⊆ header.toList := by
  obtain ⟨c, hpair, rfl⟩ := Option.map_eq_some_iff.1 h
  obtain ⟨piece, hpiece, hc⟩ := Option.bind_eq_some_iff.1 hpair
  have hsubset : piece ⊆ header.toList :=
    Text.split_subset _ _ piece (List.mem_of_head? hpiece)
  obtain ⟨hname, hvalue⟩ := readPair_subset hc
  exact ⟨List.Subset.trans hname hsubset, List.Subset.trans hvalue hsubset⟩

theorem sendable_of_stated (h : stated now header = some c)
    (hheader : Header.validValue header = true) : c.Sendable := by
  obtain ⟨hname, hvalue⟩ := stated_subset h
  exact ⟨Header.validValue_of_subset hname hheader, Header.validValue_of_subset hvalue hheader⟩

end Cookie

namespace Jar

variable {history : List (Time × Action)} {host : String} {c : Cookie} {u : Url} {now : Time}

theorem header?_eq (jar : Jar) (now : Time) (u : Url) :
    jar.header? now u =
      if ∀ p ∈ jar.listing now u, p.2.Sendable then jar.get? now u else none := by
  rw [header?, get?_eq]
  split
  · simp
  · have hseparator : Header.validValue "; " = true := by decide
    have hvalid : Header.validValue
          (String.intercalate "; " ((jar.listing now u).map (·.2.text))) = true ↔
        ∀ p ∈ jar.listing now u, p.2.Sendable := by
      rw [Header.validValue_intercalate hseparator]
      simp only [List.forall_mem_map, Cookie.validValue_text]
    by_cases h : ∀ p ∈ jar.listing now u, p.2.Sendable
    · rw [if_pos h, Option.filter_some, if_pos (hvalid.2 h)]
    · rw [if_neg h, Option.filter_some, if_neg (mt hvalid.1 h)]

theorem set_of_not_sendable (hc : c ∈ (run history).kept host) (h : ¬ c.Sendable) :
    ∃ d, latest (ledger history) (host, c.key) = some d ∧ d.cookie = c ∧
      (d.time, .set d.url d.header) ∈ history ∧ Header.validValue d.header = false := by
  obtain ⟨d, hlatest, rfl, -⟩ := ((Filed.run history).mem_iff host c).1 hc
  obtain ⟨hmade, a, ha, hhands⟩ := came_of_mem_ledger (mem_of_latest hlatest).1
  have hheader : ¬ Header.validValue d.header = true :=
    mt (Cookie.sendable_of_stated (stated_of_deposit hmade)) h
  refine ⟨d, hlatest, rfl, ?_, Bool.eq_false_iff.2 hheader⟩
  rcases hhands with rfl | ⟨headers, bytes, rfl, -, hplain⟩
  · exact ha
  · exact absurd (Header.validValue_of_plainText? hplain) hheader

/-- What goes out with a request is the text that the jar answers, unless one of the cookies in it has a
control character in its name or value; then nothing goes out, also none of the others. The last header for
such a cookie came from a caller and has a control character itself. So all that is answered goes out if
callers set plain text, whatever the responses set. -/
theorem sent_iff_sendable (history : List (Time × Action)) :
    (∀ shown : Jar, shown.hosts.Perm (run history).hosts → ∀ later u, ∃ l,
      Listed (run history) later u l ∧
      (shown.get? later u =
        if l = [] then none else some (String.intercalate "; " (l.map (·.2.text)))) ∧
      ((∀ p ∈ l, p.2.Sendable) → shown.header? later u = shown.get? later u) ∧
      ((∃ p ∈ l, ¬ p.2.Sendable) →
        shown.header? later u = none ∧ shown.get? later u ≠ none)) ∧
    (∀ host c, c ∈ (run history).kept host → ¬ c.Sendable →
      ∃ d, latest (ledger history) (host, c.key) = some d ∧ d.cookie = c ∧
        (d.time, .set d.url d.header) ∈ history ∧ Header.validValue d.header = false) ∧
    ((∀ time u header, (time, .set u header) ∈ history → Header.validValue header = true) →
      ∀ shown : Jar, shown.hosts.Perm (run history).hosts → ∀ later u,
        shown.header? later u = shown.get? later u) := by
  refine ⟨fun shown hperm later u => ?_, fun _ _ => set_of_not_sendable,
    fun hplain shown hperm later u => ?_⟩
  · refine ⟨_, listed_listing (.run history) hperm later u, get?_eq shown later u, fun h => ?_, ?_⟩
    · rw [header?_eq, if_pos h]
    · rintro ⟨p, hp, hnot⟩
      refine ⟨by rw [header?_eq, if_neg fun h => hnot (h p hp)], ?_⟩
      rw [get?_eq, if_neg (List.ne_nil_of_mem hp)]
      exact Option.some_ne_none _
  · rw [header?_eq, if_pos]
    rintro ⟨host, c⟩ hp
    by_contra hnot
    have hkept := ((listed_listing (.run history) hperm later u).mem_iff host c).1 hp
    obtain ⟨d, -, -, hset, hheader⟩ := set_of_not_sendable hkept.1 hnot
    exact Bool.eq_false_iff.1 hheader (hplain _ _ _ hset)

theorem sent_iff_sendable_of_response :
    let u := root (.domain "example.test".toList)
    let history := [(0, .setAll u ["a=1".toUTF8.toList, [0x62, 0x3d, 0x01]]), (0, .set u "c=é")]
    let tainted := history ++ [(0, .set u "b=2\x013")]
    ((run history).get? 0 u = some "a=1; c=é" ∧ (run history).header? 0 u = some "a=1; c=é") ∧
    ((run tainted).kept "example.test").length = 3 ∧ (run tainted).header? 0 u = none ∧
    ∃ d, latest (ledger tainted) ("example.test", "b", "/") = some d ∧
      Header.validValue d.header = false := by
  intro u history tainted
  have hget : (run history).get? 0 u = some "a=1; c=é" := by decide +kernel
  have hplain : ∀ time u header, (time, .set u header) ∈ history →
      Header.validValue header = true := by
    intro time url header hmem
    have hset : (time, Action.set url header) = (0, .set u "c=é") := by simpa [history] using hmem
    cases hset
    decide +kernel
  have hc : { name := "b", value := "2\x013" } ∈ (run tainted).kept "example.test" := by
    decide +kernel
  have hnot : ¬ Cookie.Sendable { name := "b", value := "2\x013" } := by decide +kernel
  refine ⟨⟨hget, ?_⟩, by decide +kernel, ?_, ?_⟩
  · exact ((sent_iff_sendable history).2.2 hplain (run history) (.refl _) 0 u).trans hget
  · obtain ⟨l, hl, -, -, hunsent⟩ := (sent_iff_sendable tainted).1 (run tainted) (.refl _) 0 u
    refine (hunsent ⟨("example.test", _), (hl.mem_iff _ _).2 ⟨hc, ⟨"example.test", ?_, .inl ?_⟩, ?_⟩,
      hnot⟩).1
    · decide +kernel
    · decide +kernel
    · exact ⟨by simp, by simp, by decide +kernel⟩
  · obtain ⟨d, hlatest, -, -, hheader⟩ := (sent_iff_sendable tainted).2.1 _ _ hc hnot
    exact ⟨d, hlatest, hheader⟩

/-- One cookie holds back another one of its host. -/
theorem unsent_with_control_character :
    let u := root (.domain "example.test".toList)
    let jar := run [(0, .set u "a=1"), (0, .set u "b=2\x013")]
    jar.get? 0 u = some "a=1; b=2\x013" ∧ jar.header? 0 u = none := by
  exact ⟨by decide +kernel, by decide +kernel⟩

end Jar

end Outbound
