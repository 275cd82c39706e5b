import Mathlib.Data.List.Perm.Basic
import Outbound.Proofs.Cookie.Ledger

/-! A jar as a store with keys and an order. A request gets the stored cookies that its host, its path
and its scheme let through and that have not expired, each once. In which order the hosts of a jar are
gone through is not fixed; under one host the cookies come in the order of the jar. -/

namespace Outbound

/-- A host is a domain or lies below it. -/
def Covers (domain host : String) : Prop :=
  host = domain ∨ ('.' :: domain.toList) <:+ host.toList

theorem domainCovers_iff {domain host : String} :
    domainCovers domain host = true ↔ Covers domain host := by
  simp [domainCovers, Covers]

namespace Cookie

structure Sent (c : Cookie) (u : Url) (now : Time) : Prop where
  unexpired : ∀ time, c.expires = some time → now < time
  secure : c.secure = true → u.scheme = "https".toList
  path : c.path.toList <+: u.path.text

theorem matchesUrl_iff {c : Cookie} {u : Url} {now : Time} :
    c.matchesUrl u now = true ↔ c.Sent u now := by
  have hexpired : (!c.expired now) = true ↔ ∀ time, c.expires = some time → now < time := by
    cases h : c.expires <;> simp [expired, h]
  have hsecure : (!c.secure || decide (u.scheme = "https".toList)) = true ↔
      (c.secure = true → u.scheme = "https".toList) := by
    generalize "https".toList = https
    cases c.secure <;> simp
  rw [matchesUrl, Bool.and_eq_true, Bool.and_eq_true, hexpired, hsecure, List.isPrefixOf_iff_prefix]
  exact ⟨fun ⟨⟨hu, hs⟩, hp⟩ => ⟨hu, hs, hp⟩, fun ⟨hu, hs, hp⟩ => ⟨⟨hu, hs⟩, hp⟩⟩

end Cookie

namespace Jar

variable {now : Time} {u : Url} {header host name : String} {jar shown : Jar} {c : Cookie}

theorem hostFor?_eq_some_iff :
    hostFor? c name = some host ↔ host = c.domain.getD name ∧ ∀ d, c.domain = some d → Covers d name := by
  unfold hostFor?
  cases c.domain with
  | none => simp [eq_comm]
  | some d =>
    by_cases h : domainCovers d name = true
    · simp [h, domainCovers_iff.1 h, eq_comm]
    · simp [h, mt domainCovers_iff.2 h]

/-- The host that a cookie from a URL is kept for is the domain of the cookie, which covers the host of
the URL, or else this host. -/
def KeptFor (c : Cookie) (u : Url) (host : String) : Prop :=
  ∃ name, u.hostText? = some name ∧ host = c.domain.getD (Ascii.lower name) ∧
    ∀ d, c.domain = some d → Covers d (Ascii.lower name)

theorem deposit?_eq_some_iff {d : Deposit} : deposit? now u header = some d ↔
    d.time = now ∧ d.url = u ∧ d.header = header ∧
      Cookie.read now header = .ok (some d.cookie) ∧ KeptFor d.cookie u d.host := by
  have hread : ∀ c, (Cookie.read now header).toOption.join = some c ↔
      Cookie.read now header = .ok (some c) := by
    intro c
    cases Cookie.read now header <;> simp [Except.toOption]
  simp only [deposit?, bind, Option.bind_eq_some_iff, hread, hostFor?_eq_some_iff, KeptFor,
    Option.some.injEq]
  constructor
  · rintro ⟨name, hname, c, hc, host, hhost, rfl⟩
    exact ⟨rfl, rfl, rfl, hc, name, hname, hhost⟩
  · rintro ⟨rfl, rfl, rfl, hc, name, hname, hhost⟩
    exact ⟨name, hname, d.cookie, hc, d.host, hhost, rfl⟩

theorem told_of_read {result : Option Cookie} (h : Cookie.read now header = .ok result) :
    Told now u header := by
  by_cases htold : Cookie.pair? header = none ∨ Cookie.Tellable now header
  · exact .inr htold
  · rw [Cookie.read_eq, if_neg htold] at h
    cases h

theorem set_of_refused (jar : Jar) (h : u.hostText? = none ∨ Cookie.read now header = .ok none ∨
    ∃ name c d, u.hostText? = some name ∧ Cookie.read now header = .ok (some c) ∧
      c.domain = some d ∧ ¬ Covers d (Ascii.lower name)) :
    jar.set now u header = .ok (false, jar) := by
  have htold : Told now u header := by
    rcases h with h | h | ⟨name, c, d, -, h, -, -⟩
    · exact .inl h
    · exact told_of_read h
    · exact told_of_read h
  have hnone : deposit? now u header = none := by
    refine Option.eq_none_iff_forall_ne_some.2 fun d hd => ?_
    obtain ⟨-, -, -, hread, name, hname, -, hcovers⟩ := deposit?_eq_some_iff.1 hd
    rcases h with h | h | ⟨other, c, domain, hother, h, hdomain, hnot⟩
    · simp [hname] at h
    · simp [hread] at h
    · obtain rfl := Option.some.inj (hname.symm.trans hother)
      obtain rfl := Option.some.inj (Except.ok.inj (hread.symm.trans h))
      exact hnot (hcovers domain hdomain)
  rw [set_eq, if_pos htold, hnone]

def passing (covers : String → Bool) (sent : Cookie → Bool) (hosts : List (String × List Cookie)) :
    List (String × Cookie) :=
  (hosts.filter (covers ·.1)).flatMap fun p => (p.2.filter sent).map (p.1, ·)

theorem passing_cons (covers : String → Bool) (sent : Cookie → Bool) (p : String × List Cookie)
    (hosts : List (String × List Cookie)) :
    passing covers sent (p :: hosts) =
      (if covers p.1 then (p.2.filter sent).map (p.1, ·) else []) ++ passing covers sent hosts := by
  unfold passing
  by_cases h : covers p.1 = true <;> simp [h]

theorem filter_passing {hosts : List (String × List Cookie)} (hn : (hosts.map (·.1)).Nodup)
    (covers : String → Bool) (sent : Cookie → Bool) (host : String) :
    (passing covers sent hosts).filter (·.1 = host) =
      if covers host then ((kept ⟨hosts⟩ host).filter sent).map (host, ·) else [] := by
  induction hosts with
  | nil => simp [passing, kept, Named.find?]
  | cons p rest ih =>
    obtain ⟨hp, hrest⟩ := List.nodup_cons.1 hn
    rw [passing_cons, List.filter_append, ih hrest]
    by_cases hhost : p.1 = host
    · subst hhost
      have hhead : kept ⟨p :: rest⟩ p.1 = p.2 := by simp [kept, Named.find?]
      have hrest : kept ⟨rest⟩ p.1 = [] := kept_of_not_mem hp
      rw [hhead, hrest]
      split <;> simp [List.filter_map, Function.comp_def]
    · have hhead : kept ⟨p :: rest⟩ host = kept ⟨rest⟩ host := by simp [kept, Named.find?, hhost]
      have hnone : (if covers p.1 then (p.2.filter sent).map (p.1, ·) else []).filter
          (·.1 = host) = [] := by
        split <;> simp [List.filter_map, Function.comp_def, hhost]
      rw [hhead, hnone, List.nil_append]

def listing (jar : Jar) (now : Time) (u : Url) : List (String × Cookie) :=
  match u.hostText? with
  | none => []
  | some name => passing (domainCovers · (Ascii.lower name)) (·.matchesUrl u now) jar.hosts

theorem map_listing (jar : Jar) (now : Time) (u : Url) :
    (jar.listing now u).map (·.2) = jar.matching now u := by
  unfold listing matching
  cases u.hostText? with
  | none => rfl
  | some name => simp [passing, List.map_flatMap, Function.comp_def]

theorem get?_eq (jar : Jar) (now : Time) (u : Url) :
    jar.get? now u =
      if jar.listing now u = [] then none
      else some (String.intercalate "; " ((jar.listing now u).map (·.2.text))) := by
  have htexts : (jar.listing now u).map (·.2.text) = (jar.matching now u).map Cookie.text := by
    rw [← map_listing, List.map_map]
    rfl
  have hnil : jar.listing now u = [] ↔ jar.matching now u = [] := by
    rw [← map_listing, List.map_eq_nil_iff]
  rw [htexts, get?]
  split
  · rename_i h
    rw [if_pos (hnil.2 h)]
  · rename_i h
    rw [if_neg (mt hnil.1 h)]

/-- Exactly the stored cookies that go with a request, each once, and those of one host in their
order. -/
structure Listed (jar : Jar) (now : Time) (u : Url) (l : List (String × Cookie)) : Prop where
  nodup : l.Nodup
  mem_iff : ∀ host c, (host, c) ∈ l ↔ c ∈ jar.kept host ∧
    (∃ name, u.hostText? = some name ∧ Covers host (Ascii.lower name)) ∧ c.Sent u now
  ordered : ∀ host, ((l.filter (·.1 = host)).map (·.2)).Sublist (jar.kept host)

theorem mem_filter_host {l : List (String × Cookie)} :
    (host, c) ∈ l ↔ (host, c) ∈ l.filter (·.1 = host) := by simp

theorem Listed.of_filter {l : List (String × Cookie)} (hname : u.hostText? = some name)
    (hkeys : ∀ host, ((jar.kept host).map Cookie.key).Nodup)
    (hfilter : ∀ host, l.filter (·.1 = host) =
      if domainCovers host (Ascii.lower name) then
        ((jar.kept host).filter (·.matchesUrl u now)).map (host, ·)
      else []) : Listed jar now u l where
  nodup := by
    refine List.nodup_iff_count_le_one.2 fun ⟨host, c⟩ => ?_
    have hcount : l.count (host, c) = (l.filter (·.1 = host)).count (host, c) :=
      (List.count_filter (by simp)).symm
    rw [hcount, hfilter host]
    split
    · refine List.nodup_iff_count_le_one.1 (List.Nodup.map (fun _ _ h => (Prod.mk.inj h).2) ?_) _
      exact ((hkeys host).of_map _).filter _
    · simp
  mem_iff host c := by
    rw [mem_filter_host, hfilter host]
    split
    · rename_i hcovers
      have hname : ∃ other, u.hostText? = some other ∧ Covers host (Ascii.lower other) :=
        ⟨name, hname, domainCovers_iff.1 hcovers⟩
      simp [← Cookie.matchesUrl_iff, hname]
    · rename_i hcovers
      refine iff_of_false (by simp) fun ⟨_, ⟨other, hother, hc⟩, _⟩ => hcovers ?_
      obtain rfl := Option.some.inj (hname.symm.trans hother)
      exact domainCovers_iff.2 hc
  ordered host := by
    rw [hfilter host]
    split
    · simp [Function.comp_def]
    · simp

theorem listed_listing {log : List Deposit} (hf : Filed log jar)
    (hperm : shown.hosts.Perm jar.hosts) (now : Time) (u : Url) :
    Listed jar now u (shown.listing now u) := by
  have hshown : (shown.hosts.map (·.1)).Nodup := (hperm.map _).nodup_iff.2 hf.names
  cases hname : u.hostText? with
  | none =>
    have hnil : shown.listing now u = [] := by simp [listing, hname]
    rw [hnil]
    exact ⟨.nil, by simp [hname], by simp⟩
  | some name =>
    refine .of_filter hname hf.keys fun host => ?_
    have hlisting : shown.listing now u =
        passing (domainCovers · (Ascii.lower name)) (·.matchesUrl u now) shown.hosts := by
      simp [listing, hname]
    rw [hlisting, filter_passing hshown, ← kept_of_perm hf.names hperm]

/-- What an accepted cookie changes: it takes the place of the one with its host, name and path, or the
last place of its host, and if it has expired it leaves this place empty. -/
structure Stored (jar next : Jar) (host : String) (c : Cookie) (lapsed : Bool) : Prop where
  others : ∀ other, other ≠ host → next.kept other = jar.kept other
  replaced : ∀ before old after, jar.kept host = before ++ old :: after → old.key = c.key →
    next.kept host = before ++ (if lapsed then [] else [c]) ++ after
  appended : (∀ old ∈ jar.kept host, old.key ≠ c.key) →
    next.kept host = jar.kept host ++ if lapsed then [] else [c]

theorem stored_add {log : List Deposit} (hf : Filed log jar) (d : Deposit) :
    Stored jar (jar.add d) d.host d.cookie d.lapsed where
  others other hother := by rw [kept_add, if_neg hother]
  replaced before old after hkept hold := by
    have hmiddle := (List.perm_middle.map Cookie.key).nodup_iff.1 (hkept ▸ hf.keys d.host)
    have hbefore : ∀ e ∈ before, e.key ≠ d.cookie.key := fun e he hkey =>
      (List.nodup_cons.1 hmiddle).1
        (List.mem_map.2 ⟨e, List.mem_append_left _ he, hkey.trans hold.symm⟩)
    rw [kept_add, if_pos rfl, hkept, place_of_mem hold hbefore, List.append_assoc]
    rfl
  appended hnew := by
    rw [kept_add, if_pos rfl, place_of_new hnew]
    rfl

theorem clear_iff (hn : (jar.hosts.map (·.1)).Nodup) :
    jar.clear.1 = true ↔ ∃ host c, c ∈ jar.kept host := by
  have hany : jar.clear.1 = true ↔ ∃ p ∈ jar.hosts, p.2 ≠ [] := by simp [clear]
  rw [hany]
  constructor
  · rintro ⟨p, hp, hne⟩
    obtain ⟨c, hc⟩ := List.exists_mem_of_ne_nil _ hne
    exact ⟨p.1, c, (kept_of_mem hn hp).symm ▸ hc⟩
  · rintro ⟨host, c, hc⟩
    exact ⟨_, mem_of_kept hc, List.ne_nil_of_mem hc⟩

/-- A jar keeps for each host at most one cookie of a name and path: that of the last header that set
it, unless it came expired; and the cookies of a host stand in the order in which their names and paths
came in to stay. A header is refused, and changes nothing, if the URL has no host, it sets no cookie or
its domain does not cover the host; otherwise its cookie is stored in the place of the older one or at
the end of its host, or only takes the older one away if it has expired. At any time a request gets
exactly the cookies whose host, path and scheme let it, and no text if there are none. -/
theorem keyed_ordered_store (history : List (Time × Action)) :
    let log := ledger history
    let jar := run history
    (∀ host, ((jar.kept host).map Cookie.key).Nodup) ∧
    (∀ host c, c ∈ jar.kept host ↔
      ∃ d, latest log (host, c.key) = some d ∧ d.cookie = c ∧ d.lapsed = false) ∧
    (∀ host, ((jar.kept host).map Cookie.key).Pairwise fun k l =>
      CameBefore log (host, k) (host, l)) ∧
    (∀ now u header,
      (Cookie.Tellable now header → ∃ accepted next, jar.set now u header = .ok (accepted, next)) ∧
      (u.hostText? = none ∨ Cookie.read now header = .ok none ∨
        (∃ name c d, u.hostText? = some name ∧ Cookie.read now header = .ok (some c) ∧
          c.domain = some d ∧ ¬ Covers d (Ascii.lower name)) →
        jar.set now u header = .ok (false, jar)) ∧
      ∀ c host, Cookie.read now header = .ok (some c) → KeptFor c u host →
        ∃ next, jar.set now u header = .ok (true, next) ∧
          Stored jar next host c (c.expired now)) ∧
    (∀ shown : Jar, shown.hosts.Perm jar.hosts → ∀ later u, ∃ l, Listed jar later u l ∧
      shown.get? later u =
        if l = [] then none else some (String.intercalate "; " (l.map (·.2.text)))) ∧
    (jar.clear.1 = true ↔ ∃ host c, c ∈ jar.kept host) ∧ jar.clear.2 = {} := by
  intro log jar
  have hf : Filed log jar := .run history
  refine ⟨hf.keys, hf.mem_iff, hf.order, fun now u header => ⟨fun htell => ?_, fun hrefused => ?_,
    fun c host hread hkept => ?_⟩, fun shown hperm later u => ?_, ?_, rfl⟩
  · rw [set_eq, if_pos (.inr (.inr htell))]
    cases deposit? now u header with
    | none => exact ⟨_, _, rfl⟩
    | some d => exact ⟨_, _, rfl⟩
  · exact set_of_refused jar hrefused
  · have hdeposit : deposit? now u header = some ⟨now, u, header, c, host⟩ :=
      deposit?_eq_some_iff.2 ⟨rfl, rfl, rfl, hread, hkept⟩
    refine ⟨_, ?_, stored_add hf ⟨now, u, header, c, host⟩⟩
    rw [set_eq, if_pos (told_of_read hread), hdeposit]
  · exact ⟨_, listed_listing hf hperm later u, get?_eq shown later u⟩
  · exact clear_iff hf.names

def root (host : Url.Host) : Url where
  scheme := "https".toList
  authority := some { host := some host }
  path := .segments [[]]

theorem keyed_ordered_store_of_replacement :
    let u := root (.domain "example.test".toList)
    let history := [(0, .set u "a=1; Path=/"), (0, .set u "b=2"), (0, .set u "a=3")]
    let jar := run history
    jar.kept "example.test" = [{ name := "a", value := "3" }, { name := "b", value := "2" }] ∧
    CameBefore (ledger history) ("example.test", "a", "/") ("example.test", "b", "/") ∧
    jar.set 0 u "c=1; Domain=other.test" = .ok (false, jar) ∧
    (∃ next, jar.set 0 u "a=; Max-Age=0" = .ok (true, next) ∧
      next.kept "example.test" = [{ name := "b", value := "2" }]) ∧
    ∃ l, Listed jar 0 u l ∧ jar.get? 0 u = some "a=3; b=2" := by
  intro u history jar
  have hkept : jar.kept "example.test" =
      [{ name := "a", value := "3" }, { name := "b", value := "2" }] := by decide +kernel
  have hname : u.hostText? = some "example.test" := by decide +kernel
  obtain ⟨-, -, horder, hset, hget, -⟩ := keyed_ordered_store history
  refine ⟨hkept, ?_, ?_, ?_, ?_⟩
  · have hpair := horder "example.test"
    rw [hkept] at hpair
    exact List.rel_of_pairwise_cons hpair (List.mem_singleton.2 rfl)
  · refine (hset 0 u _).2.1 (.inr (.inr ⟨"example.test",
      { name := "c", value := "1", domain := some "other.test" }, "other.test", hname,
      by decide +kernel, rfl, ?_⟩))
    rw [← domainCovers_iff]
    decide +kernel
  · obtain ⟨next, hnext, hstored⟩ := (hset 0 u "a=; Max-Age=0").2.2
      { name := "a", value := "", expires := some 0 } "example.test" (by decide +kernel)
      ⟨"example.test", hname, by decide +kernel, by simp⟩
    exact ⟨next, hnext, hstored.replaced [] _ _ hkept rfl⟩
  · obtain ⟨l, hl, -⟩ := hget jar (.refl _) 0 u
    exact ⟨l, hl, by decide +kernel⟩

end Jar

end Outbound
