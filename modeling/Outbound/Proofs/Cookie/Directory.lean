import Outbound.Proofs.Cookie.Reach

/-! The places on a host that a cookie goes to. The path of a cookie names a place, and by its terms the
cookie goes there and below it. A jar compares the texts of two paths only: it takes a path for one below
another also where the last name of the other is no more than the beginning of a name. -/

namespace Outbound

namespace Url.Path

variable {place text name : List Char} {dir names : List (List Char)}

/-- A path is a place or lies below it. A place that ends in a slash has nothing but paths below it. -/
def Below (place text : List Char) : Prop :=
  text = place ∨ ∃ rest, text = place ++ rest ∧
    (place.getLast? = some '/' ∨ rest.head? = some '/')

/-- A place ends in the middle of a name of a path. -/
def CutsName (place text : List Char) : Prop :=
  place.getLast? ≠ some '/' ∧ ∃ next rest, next ≠ '/' ∧ text = place ++ next :: rest

theorem prefix_iff : place <+: text ↔ Below place text ∨ CutsName place text := by
  constructor
  · rintro ⟨rest, rfl⟩
    cases rest with
    | nil => exact .inl (.inl (List.append_nil _))
    | cons next rest =>
      by_cases hslash : place.getLast? = some '/' ∨ next = '/'
      · exact .inl (.inr ⟨next :: rest, rfl, by simpa using hslash⟩)
      · rw [not_or] at hslash
        exact .inr ⟨hslash.1, next, rest, hslash.2, rfl⟩
  · rintro ((rfl | ⟨rest, rfl, -⟩) | ⟨-, next, rest, -, rfl⟩)
    · exact List.prefix_rfl
    · exact List.prefix_append _ _
    · exact List.prefix_append _ _

theorem not_below_and_cutsName : ¬ (Below place text ∧ CutsName place text) := by
  rintro ⟨hbelow, hlast, next, rest, hnext, rfl⟩
  rcases hbelow with h | ⟨tail, h, hslash⟩
  · simp at h
  · obtain rfl := List.append_cancel_left h
    rcases hslash with hslash | hslash
    · exact hlast hslash
    · exact hnext (by simpa using hslash)

theorem text_cons (name : List Char) (names : List (List Char)) :
    (segments (name :: names)).text = '/' :: name ++ (segments names).text := by
  simp [Path.text]

theorem ne_slash (hname : '/' ∉ name) : ∀ c ∈ name, decide (c ≠ '/') = true := fun c hc => by
  have hne : c ≠ '/' := fun h => hname (h ▸ hc)
  simpa using hne

theorem head?_text (names : List (List Char)) : ∀ c ∈ (segments names).text.head?, c = '/' := by
  cases names <;> simp [Path.text]

theorem name_append_inj {other rest tail : List Char} (hname : '/' ∉ name) (hother : '/' ∉ other)
    (hrest : ∀ c ∈ rest.head?, c = '/') (htail : ∀ c ∈ tail.head?, c = '/')
    (h : name ++ rest = other ++ tail) : name = other ∧ rest = tail := by
  have htake : ∀ {name rest : List Char}, '/' ∉ name → (∀ c ∈ rest.head?, c = '/') →
      (name ++ rest).takeWhile (· ≠ '/') = name := by
    intro name rest hname hrest
    rw [List.takeWhile_append_of_pos (ne_slash hname)]
    cases rest <;> simp_all
  obtain rfl : name = other := by rw [← htake hname hrest, h, htake hother htail]
  exact ⟨rfl, List.append_cancel_left h⟩

theorem exists_names (text : List Char) : ∃ name names,
    (∀ n ∈ name :: names, '/' ∉ n) ∧ text = name ++ (segments names).text := by
  induction text with
  | nil => exact ⟨[], [], by simp, rfl⟩
  | cons c text ih =>
    obtain ⟨name, names, hfree, rfl⟩ := ih
    by_cases hc : c = '/'
    · exact ⟨[], name :: names, by simpa using hfree, by rw [hc, text_cons]; rfl⟩
    · refine ⟨c :: name, names, ?_, rfl⟩
      obtain ⟨hname, hnames⟩ := List.forall_mem_cons.1 hfree
      exact List.forall_mem_cons.2 ⟨by simp [Ne.symm hc, hname], hnames⟩

theorem exists_directory (h : text.head? = some '/') : ∃ dir name,
    (∀ n ∈ dir ++ [name], '/' ∉ n) ∧ text = (segments (dir ++ [name])).text := by
  obtain ⟨text, rfl⟩ : ∃ rest, text = '/' :: rest := by
    cases text <;> simp_all
  obtain ⟨first, names, hfree, rfl⟩ := exists_names text
  obtain ⟨dir, name, hnames⟩ := (List.eq_nil_or_concat' (first :: names)).resolve_left (by simp)
  exact ⟨dir, name, hnames ▸ hfree, by rw [← hnames, text_cons]; rfl⟩

theorem exists_longer {next : Char} {rest : List Char} (hplace : ∀ n ∈ dir ++ [name], '/' ∉ n)
    (hnames : ∀ n ∈ names, '/' ∉ n) (hnext : next ≠ '/')
    (h : (segments names).text = (segments (dir ++ [name])).text ++ next :: rest) :
    ∃ more rest, more ≠ [] ∧ names = dir ++ (name ++ more) :: rest := by
  induction dir generalizing names with
  | nil =>
    cases names with
    | nil => simp [Path.text] at h
    | cons n names =>
      have hname : '/' ∉ name := hplace name (by simp)
      obtain ⟨more, others, hfree, rfl⟩ := exists_names rest
      have hsplit : n ++ (segments names).text = (name ++ next :: more) ++ (segments others).text := by
        simpa [text_cons, Path.text] using h
      have hlonger : '/' ∉ name ++ next :: more := by
        simp [hname, Ne.symm hnext, hfree more (.head _)]
      obtain ⟨rfl, -⟩ := name_append_inj (hnames n (.head _)) hlonger (head?_text names)
        (head?_text others) hsplit
      exact ⟨_, names, by simp, rfl⟩
  | cons d dir ih =>
    cases names with
    | nil => simp [Path.text] at h
    | cons n names =>
      have hsplit : n ++ (segments names).text =
          d ++ ((segments (dir ++ [name])).text ++ next :: rest) := by
        simpa [text_cons] using h
      have hrooted : ∀ c ∈ ((segments (dir ++ [name])).text ++ next :: rest).head?, c = '/' := by
        cases dir <;> simp [Path.text]
      obtain ⟨rfl, htext⟩ := name_append_inj (hnames n (.head _)) (hplace d (.head _))
        (head?_text names) hrooted hsplit
      obtain ⟨more, rest, hmore, rfl⟩ := ih (fun n hn => hplace n (.tail _ hn))
        (fun n hn => hnames n (.tail _ hn)) htext
      exact ⟨more, rest, hmore, rfl⟩

theorem cutsName_segments_iff (hplace : ∀ n ∈ dir ++ [name], '/' ∉ n)
    (hnames : ∀ n ∈ names, '/' ∉ n) :
    CutsName (segments (dir ++ [name])).text (segments names).text ↔
      name ≠ [] ∧ ∃ more rest, more ≠ [] ∧ names = dir ++ (name ++ more) :: rest := by
  have hname : '/' ∉ name := hplace name (by simp)
  have hlast : (segments (dir ++ [name])).text.getLast? ≠ some '/' ↔ name ≠ [] := by
    cases h : name.getLast? with
    | none => simp [Path.text, List.getLast?_eq_none_iff.1 h]
    | some c =>
      have hc : c ∈ name := List.mem_of_getLast? h
      have hne : c ≠ '/' := fun heq => hname (heq ▸ hc)
      simp [Path.text, List.getLast?_append, List.getLast?_cons, h, hne, List.ne_nil_of_mem hc]
  rw [CutsName, hlast]
  refine and_congr_right fun hne => ⟨?_, ?_⟩
  · rintro ⟨next, rest, hnext, htext⟩
    exact exists_longer hplace hnames hnext htext
  · rintro ⟨more, rest, hmore, rfl⟩
    obtain ⟨next, more, rfl⟩ := List.exists_cons_of_ne_nil hmore
    refine ⟨next, more ++ (segments rest).text, fun h => ?_, ?_⟩
    · exact hnames (name ++ next :: more) (by simp) (by simp [h])
    · simp [Path.text]

end Url.Path

open Url.Path (Below CutsName segments)

namespace Jar

variable {history : List (Time × Action)} {host : String} {c : Cookie}

theorem path_of_kept (h : c ∈ (run history).kept host) :
    ∃ d, latest (ledger history) (host, c.key) = some d ∧ d.cookie = c ∧
      c.path = (Cookie.path? d.header).getD "/" ∧ ∃ dir name,
        (∀ n ∈ dir ++ [name], '/' ∉ n) ∧ c.path.toList = (segments (dir ++ [name])).text := by
  obtain ⟨d, hlatest, rfl, -⟩ := ((Filed.run history).mem_iff host c).1 h
  have hpath : d.cookie.path = (Cookie.path? d.header).getD "/" :=
    Cookie.path_of_stated (stated_of_deposit (came_of_mem_ledger (mem_of_latest hlatest).1).made)
  refine ⟨d, hlatest, rfl, hpath, Url.Path.exists_directory ?_⟩
  cases hstated : Cookie.path? d.header with
  | none => simp [hpath, hstated]
  | some path => simpa [hpath, hstated] using Cookie.head?_path hstated

/-- A request gets a stored cookie of its host, its time and its scheme exactly if its path is at or below
the place of the cookie, or the place ends in the middle of a name of this path. Such a path has, where the
place has its last name, a longer name that begins with it. -/
theorem listed_iff_below_or_cutsName (history : List (Time × Action)) :
    (∀ shown : Jar, shown.hosts.Perm (run history).hosts → ∀ later u, ∃ l,
      (shown.get? later u =
        if l = [] then none else some (String.intercalate "; " (l.map (·.2.text)))) ∧
      ∀ host c, (host, c) ∈ l ↔ c ∈ (run history).kept host ∧
        (∃ name, u.hostText? = some name ∧ Covers host (Ascii.lower name)) ∧
        (∀ time, c.expires = some time → later < time) ∧
        (c.secure = true → u.scheme = "https".toList) ∧
        (Below c.path.toList u.path.text ∨ CutsName c.path.toList u.path.text)) ∧
    (∀ host c, c ∈ (run history).kept host →
      ∃ d, latest (ledger history) (host, c.key) = some d ∧ d.cookie = c ∧
        c.path = (Cookie.path? d.header).getD "/" ∧ ∃ dir name,
          (∀ n ∈ dir ++ [name], '/' ∉ n) ∧ c.path.toList = (segments (dir ++ [name])).text) ∧
    (∀ place text, ¬ (Below place text ∧ CutsName place text)) ∧
    ∀ dir name names, (∀ n ∈ dir ++ [name], '/' ∉ n) → (∀ n ∈ names, '/' ∉ n) →
      (CutsName (segments (dir ++ [name])).text (segments names).text ↔
        name ≠ [] ∧ ∃ more rest, more ≠ [] ∧ names = dir ++ (name ++ more) :: rest) := by
  refine ⟨fun shown hperm later u => ?_, fun _ _ => path_of_kept,
    fun _ _ => Url.Path.not_below_and_cutsName, fun _ _ _ => Url.Path.cutsName_segments_iff⟩
  refine ⟨_, get?_eq shown later u, fun host c => ?_⟩
  rw [(listed_listing (.run history) hperm later u).mem_iff]
  refine and_congr_right fun _ => and_congr_right fun _ => ?_
  rw [← Url.Path.prefix_iff]
  exact ⟨fun h => ⟨h.unexpired, h.secure, h.path⟩, fun ⟨hu, hs, hp⟩ => ⟨hu, hs, hp⟩⟩

def page (host : Url.Host) (names : List (List Char)) : Url :=
  { root host with path := .segments names }

theorem listed_iff_below_or_cutsName_of_page :
    let host := Url.Host.domain "example.test".toList
    let history := [(0, .set (root host) "a=1; Path=/doc")]
    let c : Cookie := { name := "a", value := "1", path := "/doc" }
    let u := page host ["doc".toList, "x".toList]
    (∃ l : List (String × Cookie), (run history).get? 0 u =
        some (String.intercalate "; " (l.map (·.2.text))) ∧ ("example.test", c) ∈ l) ∧
    (∃ d, latest (ledger history) ("example.test", c.key) = some d ∧
      (Cookie.path? d.header).getD "/" = "/doc") ∧
    CutsName (segments ["doc".toList]).text (segments ["docs".toList]).text := by
  intro host history c u
  obtain ⟨hlisted, hpath, -, hcuts⟩ := listed_iff_below_or_cutsName history
  have hkept : c ∈ (run history).kept "example.test" := by decide +kernel
  refine ⟨?_, ?_, ?_⟩
  · obtain ⟨l, hget, hmem⟩ := hlisted (run history) (.refl _) 0 u
    have hc : ("example.test", c) ∈ l := by
      refine (hmem _ c).2 ⟨hkept, ⟨"example.test", by decide +kernel, .inl ?_⟩,
        by simp [c], by simp [c], .inl (.inr ⟨"/x".toList, by decide +kernel, .inr rfl⟩)⟩
      decide +kernel
    exact ⟨l, hget.trans (if_neg (List.ne_nil_of_mem hc)), hc⟩
  · obtain ⟨d, hlatest, -, hd, -⟩ := hpath _ c hkept
    exact ⟨d, hlatest, hd.symm⟩
  · exact (hcuts [] "doc".toList ["docs".toList] (by decide) (by decide)).2
      ⟨by decide, ['s'], [], by decide, by decide⟩

/-- A cookie for one directory goes to another one with a longer name. -/
theorem sent_to_longer_name :
    let host := Url.Host.domain "example.test".toList
    let u := page host ["docs".toList]
    (run [(0, .set (root host) "a=1; Path=/doc")]).get? 0 u = some "a=1" ∧
      ¬ Below "/doc".toList u.path.text := by
  refine ⟨by decide +kernel, fun hbelow => Url.Path.not_below_and_cutsName ⟨hbelow, ?_⟩⟩
  exact ⟨by decide +kernel, 's', [], by decide +kernel, by decide +kernel⟩

end Jar

end Outbound
