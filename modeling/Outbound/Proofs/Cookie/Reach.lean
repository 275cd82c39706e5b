import Outbound.Proofs.Cookie.Store

/-! How far a cookie goes. By its terms a cookie without a domain goes back to the host it came from and
nowhere else, and one with a domain goes from and to this domain and the names below it. A jar knows a
cookie by the text of one host only, under which it keeps it: a cookie without a domain goes to every name
below its host as well, and an address is taken for a name below the end of its text. -/

namespace Outbound

def Url.Host.name (h : Url.Host) : String := Ascii.lower (String.ofList h.text)

namespace Jar

variable {history : List (Time × Action)} {d : Deposit} {now : Time} {u : Url}
  {h origin reader : Url.Host} {domain host : String}

/-- A host is a domain or a name below it. An address is below nothing. -/
def Within (domain : String) (h : Url.Host) : Prop :=
  h.name = domain ∨ (∃ name, h = .domain name) ∧ ('.' :: domain.toList) <:+ h.name.toList

/-- An address with a text like that of a name below a domain. -/
def Astray (domain : String) (h : Url.Host) : Prop :=
  (¬ ∃ name, h = .domain name) ∧ ('.' :: domain.toList) <:+ h.name.toList

/-- A host keeps to the terms of a cookie from another host. -/
def Confined (domain? : Option String) (origin reader : Url.Host) : Prop :=
  match domain? with
  | none => reader.name = origin.name
  | some domain => Within domain origin ∧ Within domain reader

/-- A host is taken for one that keeps to the terms of a cookie from another host. -/
def Leaks (domain? : Option String) (origin reader : Url.Host) : Prop :=
  match domain? with
  | none => ('.' :: origin.name.toList) <:+ reader.name.toList
  | some domain =>
    Covers domain origin.name ∧ Covers domain reader.name ∧ (Astray domain origin ∨ Astray domain reader)

theorem name_ne_of_below (h : ('.' :: domain.toList) <:+ host.toList) : host ≠ domain := by
  rintro rfl
  exact absurd h.length_le (by simp)

theorem covers_iff : Covers domain h.name ↔ Within domain h ∨ Astray domain h := by
  unfold Covers Within Astray
  by_cases hname : ∃ name, h = .domain name <;> simp [hname]

theorem not_within_and_astray : ¬ (Within domain h ∧ Astray domain h) := by
  rintro ⟨hname | ⟨hdomain, -⟩, haddress, hbelow⟩
  · exact name_ne_of_below hbelow hname
  · exact haddress hdomain

theorem not_confined_and_leaks (domain? : Option String) :
    ¬ (Confined domain? origin reader ∧ Leaks domain? origin reader) := by
  rintro ⟨hconfined, hleaks⟩
  cases domain? with
  | none => exact name_ne_of_below hleaks hconfined
  | some domain =>
    rcases hleaks.2.2 with h | h
    · exact not_within_and_astray ⟨hconfined.1, h⟩
    · exact not_within_and_astray ⟨hconfined.2, h⟩

theorem confined_or_leaks_iff (domain? : Option String) :
    Confined domain? origin reader ∨ Leaks domain? origin reader ↔
      (∀ domain, domain? = some domain → Covers domain origin.name) ∧
        Covers (domain?.getD origin.name) reader.name := by
  cases domain? with
  | none => simp [Confined, Leaks, Covers]
  | some domain =>
    simp only [Confined, Leaks, Option.some.injEq, forall_eq', Option.getD_some, covers_iff]
    constructor
    · rintro (⟨horigin, hreader⟩ | ⟨horigin, hreader, -⟩)
      · exact ⟨.inl horigin, .inl hreader⟩
      · exact ⟨horigin, hreader⟩
    · rintro ⟨horigin, hreader⟩
      by_cases hastray : Astray domain origin ∨ Astray domain reader
      · exact .inr ⟨horigin, hreader, hastray⟩
      · rw [not_or] at hastray
        exact .inl ⟨horigin.resolve_right hastray.1, hreader.resolve_right hastray.2⟩

def Action.Hands (a : Action) (u : Url) (header : String) : Prop :=
  a = .set u header ∨
    ∃ headers bytes, a = .setAll u headers ∧ bytes ∈ headers ∧ Header.plainText? bytes = some header

/-- A deposit is what a header that was handed to the jar in its course made. -/
structure Came (history : List (Time × Action)) (d : Deposit) : Prop where
  made : deposit? d.time d.url d.header = some d
  handed : ∃ a, (d.time, a) ∈ history ∧ a.Hands d.url d.header

theorem mem_deposits {headers : List Bytes} (h : d ∈ deposits now u headers) :
    ∃ bytes ∈ headers, ∃ header, Header.plainText? bytes = some header ∧
      deposit? now u header = some d := by
  induction headers with
  | nil => cases h
  | cons bytes headers ih =>
    have hrest : d ∈ deposits now u headers → ∃ other ∈ bytes :: headers, ∃ header,
        Header.plainText? other = some header ∧ deposit? now u header = some d := fun h => by
      obtain ⟨other, hother, hmade⟩ := ih h
      exact ⟨other, .tail _ hother, hmade⟩
    rw [deposits] at h
    split at h
    · exact hrest h
    · rename_i header hplain
      split at h
      · rcases List.mem_append.1 h with h | h
        · exact ⟨bytes, .head _, header, hplain, Option.mem_toList.1 h⟩
        · exact hrest h
      · cases h

theorem mem_entered {log : List Deposit} {a : Action} (h : d ∈ entered log now a) :
    d ∈ log ∨ ∃ u header, a.Hands u header ∧ deposit? now u header = some d := by
  cases a with
  | set u header =>
    exact (List.mem_append.1 h).imp_right fun h => ⟨u, header, .inl rfl, Option.mem_toList.1 h⟩
  | setAll u headers =>
    refine (List.mem_append.1 h).imp_right fun h => ?_
    obtain ⟨bytes, hbytes, header, hplain, hmade⟩ := mem_deposits h
    exact ⟨u, header, .inr ⟨headers, bytes, rfl, hbytes, hplain⟩, hmade⟩
  | clear => cases h

theorem came_of_mem_ledger (h : d ∈ ledger history) : Came history d := by
  induction history using List.reverseRecOn with
  | nil => cases h
  | append_singleton history step ih =>
    obtain ⟨now, a⟩ := step
    have hledger : ledger (history ++ [(now, a)]) = entered (ledger history) now a :=
      List.foldl_append
    rw [hledger] at h
    rcases mem_entered h with h | ⟨u, header, hhands, hmade⟩
    · obtain ⟨b, hb, hhands⟩ := (ih h).handed
      exact ⟨(ih h).made, b, List.mem_append_left _ hb, hhands⟩
    · obtain ⟨rfl, rfl, rfl, -⟩ := deposit?_eq_some_iff.1 hmade
      exact ⟨hmade, a, by simp, hhands⟩

theorem stated_of_deposit (hd : deposit? d.time d.url d.header = some d) :
    Cookie.stated d.time d.header = some d.cookie := by
  obtain ⟨-, -, -, hread, -⟩ := deposit?_eq_some_iff.1 hd
  rw [Cookie.read_eq] at hread
  split at hread
  · exact Except.ok.inj hread
  · cases hread

theorem covers_host_iff (hd : deposit? d.time d.url d.header = some d) :
    (∃ name, u.hostText? = some name ∧ Covers d.host (Ascii.lower name)) ↔
      ∃ origin reader, d.url.host? = some origin ∧ u.host? = some reader ∧
        (Confined (Cookie.domain? d.header) origin reader ∨
          Leaks (Cookie.domain? d.header) origin reader) := by
  obtain ⟨-, -, -, -, name, hname, hhost, hcovers⟩ := deposit?_eq_some_iff.1 hd
  have hdomain : d.cookie.domain = Cookie.domain? d.header :=
    Cookie.domain_of_stated (stated_of_deposit hd)
  obtain ⟨origin, horigin, rfl⟩ := Option.map_eq_some_iff.1 hname
  simp only [confined_or_leaks_iff, horigin, ← hdomain, Option.some.injEq, Url.hostText?,
    Option.map_eq_some_iff]
  constructor
  · rintro ⟨_, ⟨reader, hreader, rfl⟩, hc⟩
    exact ⟨origin, reader, rfl, hreader, hcovers, hhost ▸ hc⟩
  · rintro ⟨_, reader, rfl, hreader, -, hc⟩
    exact ⟨_, ⟨reader, hreader, rfl⟩, hhost ▸ hc⟩

/-- A request gets a cookie exactly if the last header for it in the course of the jar left it there, it
has not expired, its path and scheme let it through, and the host of the request either keeps to the terms
of this header or is taken for one that does. This is a host below that of a cookie without a domain; and,
with a domain, an address, of the request or of the URL that set the cookie, with a text that ends in a
point and the domain. -/
theorem listed_iff_confined_or_leaks (history : List (Time × Action)) :
    (∀ shown : Jar, shown.hosts.Perm (run history).hosts → ∀ later u, ∃ l,
      (shown.get? later u =
        if l = [] then none else some (String.intercalate "; " (l.map (·.2.text)))) ∧
      ∀ host c, (host, c) ∈ l ↔ ∃ d origin reader, latest (ledger history) (host, c.key) = some d ∧
        Came history d ∧ d.cookie = c ∧ d.lapsed = false ∧ c.Sent u later ∧
        d.url.host? = some origin ∧ u.host? = some reader ∧
        (Confined (Cookie.domain? d.header) origin reader ∨
          Leaks (Cookie.domain? d.header) origin reader)) ∧
    ∀ domain? origin reader, ¬ (Confined domain? origin reader ∧ Leaks domain? origin reader) := by
  refine ⟨fun shown hperm later u => ?_, fun domain? _ _ => not_confined_and_leaks domain?⟩
  have hf : Filed (ledger history) (run history) := .run history
  refine ⟨_, get?_eq shown later u, fun host c => ?_⟩
  rw [(listed_listing hf hperm later u).mem_iff, hf.mem_iff]
  constructor
  · rintro ⟨⟨d, hlatest, hcookie, hlapsed⟩, hcovers, hsent⟩
    obtain ⟨hmem, hkey⟩ := mem_of_latest hlatest
    have hcame := came_of_mem_ledger hmem
    obtain rfl : d.host = host := (Prod.mk.inj hkey).1
    obtain ⟨origin, reader, hhosts⟩ := (covers_host_iff hcame.made).1 hcovers
    exact ⟨d, origin, reader, hlatest, hcame, hcookie, hlapsed, hsent, hhosts⟩
  · rintro ⟨d, origin, reader, hlatest, hcame, hcookie, hlapsed, hsent, hhosts⟩
    obtain rfl : d.host = host := (Prod.mk.inj (mem_of_latest hlatest).2).1
    exact ⟨⟨d, hlatest, hcookie, hlapsed⟩, (covers_host_iff hcame.made).2 ⟨origin, reader, hhosts⟩,
      hsent⟩

theorem listed_iff_confined_or_leaks_of_shared_domain :
    let history := [(0, .set (root (.domain "api.example.test".toList))
      "sid=x; Domain=.example.test; Secure")]
    let c : Cookie := { name := "sid", value := "x", domain := some "example.test", secure := true }
    ∃ l : List (String × Cookie), (run history).get? 0 (root (.domain "www.example.test".toList)) =
        some (String.intercalate "; " (l.map (·.2.text))) ∧ ("example.test", c) ∈ l := by
  intro history c
  let d : Deposit := ⟨0, root (.domain "api.example.test".toList),
    "sid=x; Domain=.example.test; Secure", c, "example.test"⟩
  obtain ⟨l, hget, hmem⟩ := (listed_iff_confined_or_leaks history).1 (run history) (.refl _) 0
    (root (.domain "www.example.test".toList))
  have hc : ("example.test", c) ∈ l := by
    refine (hmem _ c).2 ⟨d, .domain "api.example.test".toList, .domain "www.example.test".toList,
      by decide +kernel, ⟨by decide +kernel, _, .head _, .inl rfl⟩, rfl, by decide +kernel,
      ⟨by simp [c], fun _ => rfl, by decide +kernel⟩, rfl, rfl, .inl ?_⟩
    rw [show Cookie.domain? d.header = some "example.test" by decide +kernel]
    exact ⟨.inr ⟨⟨_, rfl⟩, by decide +kernel⟩, .inr ⟨⟨_, rfl⟩, by decide +kernel⟩⟩
  exact ⟨l, hget.trans (if_neg (List.ne_nil_of_mem hc)), hc⟩

/-- A cookie without a domain goes to a host below its own; and one that a domain binds to an address goes
to another address that ends in the same way. -/
theorem leaks_to_subdomain_and_address :
    (run [(0, .set (root (.domain "example.test".toList)) "a=1")]).get? 0
        (root (.domain "www.example.test".toList)) = some "a=1" ∧
    ¬ Confined (Cookie.domain? "a=1") (.domain "example.test".toList)
        (.domain "www.example.test".toList) ∧
    (run [(0, .set (root (.ipv4 0x7f000001)) "a=1; Domain=0.0.1")]).get? 0 (root (.ipv4 0x09000001)) =
      some "a=1" ∧
    ¬ Confined (Cookie.domain? "a=1; Domain=0.0.1") (.ipv4 0x7f000001) (.ipv4 0x09000001) := by
  refine ⟨by decide +kernel, ?_, by decide +kernel, ?_⟩
  · rw [show Cookie.domain? "a=1" = none by decide +kernel]
    intro h
    have hname : Url.Host.name (.domain "www.example.test".toList) ≠
        Url.Host.name (.domain "example.test".toList) := by decide +kernel
    exact hname h
  · rw [show Cookie.domain? "a=1; Domain=0.0.1" = some "0.0.1" by decide +kernel]
    rintro ⟨-, hname | ⟨⟨_, hdomain⟩, -⟩⟩
    · exact absurd hname (by decide +kernel)
    · cases hdomain

end Jar

end Outbound
