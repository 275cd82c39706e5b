import Mathlib.Data.List.Induction
import Outbound.Proofs.Cookie.Placement
import Outbound.Proofs.Cookie.Reading

/-! The course of a jar. Every accepted header is a deposit of one cookie for one host, and a jar is
what the deposits since it was last cleared have made of it. For each key the last deposit decides
whether there is a cookie and which; and the cookies of a host stand in the order in which their keys
came in to stay. -/

namespace Outbound.Jar

variable {now : Time} {u : Url} {header host : String} {jar : Jar} {c : Cookie}

inductive Action
  | set (u : Url) (header : String)
  | setAll (u : Url) (headers : List Bytes)
  | clear
  deriving DecidableEq, Repr, Inhabited

/-- The jar after an action. If the clock fails, what has been stored before remains. -/
def after (jar : Jar) (now : Time) : Action → Jar
  | .set u header =>
    match jar.set now u header with
    | .ok (_, jar) => jar
    | .error _ => jar
  | .setAll u headers => (setAll now u jar headers).1
  | .clear => jar.clear.2

def run (history : List (Time × Action)) : Jar :=
  history.foldl (fun jar (now, a) => jar.after now a) {}

/-- An accepted header: when and from where it came, its cookie, and the host that the cookie is kept
for. -/
structure Deposit where
  time : Time
  url : Url
  header : String
  cookie : Cookie
  host : String
  deriving DecidableEq, Repr, Inhabited

namespace Deposit

def key (d : Deposit) : String × String × String := (d.host, d.cookie.key)

def lapsed (d : Deposit) : Bool := d.cookie.expired d.time

end Deposit

def add (jar : Jar) (d : Deposit) : Jar := ⟨update d.host (place d.time d.cookie) jar.hosts⟩

/-- Whether the clock can tell what it is asked, if it is asked at all. -/
def Told (now : Time) (u : Url) (header : String) : Prop :=
  u.hostText? = none ∨ Cookie.pair? header = none ∨ Cookie.Tellable now header

instance (now : Time) (u : Url) (header : String) : Decidable (Told now u header) :=
  inferInstanceAs (Decidable (_ ∨ _))

/-- The deposit that a header makes; none if it cannot be read, the URL has no host or the domain of
the cookie does not cover this host. -/
def deposit? (now : Time) (u : Url) (header : String) : Option Deposit := do
  let name ← u.hostText?
  let cookie ← (Cookie.read now header).toOption.join
  let host ← hostFor? cookie (Ascii.lower name)
  some ⟨now, u, header, cookie, host⟩

theorem set_eq (jar : Jar) (now : Time) (u : Url) (header : String) :
    jar.set now u header =
      if Told now u header then
        match deposit? now u header with
        | none => .ok (false, jar)
        | some d => .ok (true, jar.add d)
      else .error .overflow := by
  rcases Option.eq_none_or_eq_some u.hostText? with hname | ⟨name, hname⟩
  · simp [set, deposit?, Told, hname, pure, Except.pure]
  · have htold : Told now u header ↔
        (Cookie.pair? header = none ∨ Cookie.Tellable now header) := by simp [Told, hname]
    have hread := Cookie.read_eq now header
    by_cases h : Cookie.pair? header = none ∨ Cookie.Tellable now header
    · rw [if_pos h] at hread
      rw [if_pos (htold.2 h)]
      simp only [set, deposit?, hname, hread, bind, Except.bind, Option.bind_some,
        Except.toOption, Option.join_some]
      cases Cookie.stated now header with
      | none => rfl
      | some c => cases hkept : hostFor? c (Ascii.lower name) <;> simp [hkept, add, pure, Except.pure]
    · rw [if_neg h] at hread
      rw [if_neg (mt htold.1 h)]
      simp only [set, hname, hread, bind, Except.bind]

theorem deposit?_of_untold (h : ¬ Told now u header) : deposit? now u header = none := by
  simp only [Told, not_or] at h
  have hread : Cookie.read now header = .error .overflow :=
    (Cookie.read_eq now header).trans (if_neg (not_or.2 h.2))
  cases hname : u.hostText? <;> simp [deposit?, hname, hread, Except.toOption]

def deposits (now : Time) (u : Url) : List Bytes → List Deposit
  | [] => []
  | bytes :: headers =>
    match Header.plainText? bytes with
    | none => deposits now u headers
    | some header =>
      if Told now u header then (deposit? now u header).toList ++ deposits now u headers else []

theorem foldl_deposit (jar : Jar) (now : Time) (u : Url) (header : String) :
    (deposit? now u header).toList.foldl add jar = jar.after now (.set u header) := by
  rw [after, set_eq]
  by_cases h : Told now u header
  · rw [if_pos h]
    cases deposit? now u header <;> rfl
  · rw [if_neg h, deposit?_of_untold h]
    rfl

theorem setAll_cons (now : Time) (u : Url) (jar : Jar) (bytes : Bytes) (headers : List Bytes) :
    setAll now u jar (bytes :: headers) =
      match Header.plainText? bytes with
      | none => setAll now u jar headers
      | some header =>
        if Told now u header then setAll now u (jar.after now (.set u header)) headers
        else (jar, some .overflow) := by
  rw [setAll]
  cases Header.plainText? bytes with
  | none => rfl
  | some header =>
    by_cases h : Told now u header
    · simp only [after, set_eq, if_pos h]
      cases deposit? now u header <;> rfl
    · simp only [set_eq, if_neg h]

theorem foldl_deposits (jar : Jar) (now : Time) (u : Url) (headers : List Bytes) :
    (deposits now u headers).foldl add jar = (setAll now u jar headers).1 := by
  induction headers generalizing jar with
  | nil => rfl
  | cons bytes headers ih =>
    rw [deposits, setAll_cons]
    cases Header.plainText? bytes with
    | none => exact ih jar
    | some header =>
      simp only
      split
      · rw [List.foldl_append, foldl_deposit, ih]
      · rfl

def entered (log : List Deposit) (now : Time) : Action → List Deposit
  | .set u header => log ++ (deposit? now u header).toList
  | .setAll u headers => log ++ deposits now u headers
  | .clear => []

/-- The deposits since a jar was last cleared, the oldest first. -/
def ledger (history : List (Time × Action)) : List Deposit :=
  history.foldl (fun log (now, a) => entered log now a) []

def ofDeposits (log : List Deposit) : Jar := log.foldl add {}

theorem ofDeposits_entered (log : List Deposit) (now : Time) (a : Action) :
    ofDeposits (entered log now a) = (ofDeposits log).after now a := by
  cases a with
  | set u header => exact List.foldl_append.trans (foldl_deposit _ _ _ _)
  | setAll u headers => exact List.foldl_append.trans (foldl_deposits _ _ _ _)
  | clear => rfl

theorem run_eq (history : List (Time × Action)) : run history = ofDeposits (ledger history) := by
  induction history using List.reverseRecOn with
  | nil => rfl
  | append_singleton history step ih =>
    obtain ⟨now, a⟩ := step
    have hrun : run (history ++ [(now, a)]) = (run history).after now a := List.foldl_append
    have hledger : ledger (history ++ [(now, a)]) = entered (ledger history) now a :=
      List.foldl_append
    rw [hrun, hledger, ofDeposits_entered, ih]

theorem ofDeposits_concat (log : List Deposit) (d : Deposit) :
    ofDeposits (log ++ [d]) = (ofDeposits log).add d := List.foldl_append

theorem kept_add (jar : Jar) (d : Deposit) (host : String) :
    (jar.add d).kept host =
      if host = d.host then place d.time d.cookie (jar.kept d.host) else jar.kept host :=
  kept_update jar.hosts _ d.host host

section Keys

variable {log : List Deposit} {d e : Deposit} {k l : String × String × String} {i j : Nat}

def latest (log : List Deposit) (k : String × String × String) : Option Deposit :=
  (log.filter (·.key = k)).getLast?

theorem mem_of_latest (h : latest log k = some d) : d ∈ log ∧ d.key = k := by
  have hd := List.mem_filter.1 (List.mem_of_getLast? h)
  exact ⟨hd.1, by simpa using hd.2⟩

theorem latest_concat (log : List Deposit) (d : Deposit) (k : String × String × String) :
    latest (log ++ [d]) k = if d.key = k then some d else latest log k := by
  by_cases h : d.key = k <;> simp [latest, List.filter_append, h]

/-- A deposit of this key stands at this number, and the key has had a cookie ever since. -/
def StaysSince (log : List Deposit) (k : String × String × String) (i : Nat) : Prop :=
  (∃ d, log[i]? = some d ∧ d.key = k) ∧ ∀ e ∈ log.drop i, e.key = k → e.lapsed = false

/-- One key has had its cookie since before the other key got the one that stays. -/
def CameBefore (log : List Deposit) (k l : String × String × String) : Prop :=
  ∃ i, StaysSince log k i ∧ ∀ j, StaysSince log l j → i < j

theorem StaysSince.lt_length (h : StaysSince log k i) : i < log.length := by
  obtain ⟨⟨d, hd, -⟩, -⟩ := h
  exact (List.getElem?_eq_some_iff.1 hd).1

theorem staysSince_concat : StaysSince (log ++ [d]) k i ↔
    (d.key = k → d.lapsed = false) ∧ (StaysSince log k i ∨ d.key = k ∧ i = log.length) := by
  unfold StaysSince
  rcases Nat.lt_trichotomy i log.length with h | rfl | h
  · rw [List.getElem?_append_left h, List.drop_append_of_le_length (Nat.le_of_lt h)]
    simp only [List.mem_append, List.mem_singleton, or_imp, forall_and, forall_eq,
      Nat.ne_of_lt h, and_false, or_false]
    exact ⟨fun ⟨hd, hs, hk⟩ => ⟨hk, hd, hs⟩, fun ⟨hk, hd, hs⟩ => ⟨hd, hs, hk⟩⟩
  · simp only [List.getElem?_concat_length, List.drop_left, List.mem_singleton, forall_eq,
      Option.some.injEq, exists_eq_left', List.getElem?_eq_none (Nat.le_refl _), reduceCtorEq,
      false_and, exists_false, false_or, and_true]
    exact And.comm
  · have hlast : (log ++ [d])[i]? = none := List.getElem?_eq_none (by simpa using Nat.succ_le_of_lt h)
    simp [hlast, List.getElem?_eq_none (Nat.le_of_lt h), Nat.ne_of_gt h]

theorem latest_of_staysSince (h : StaysSince log k i) :
    ∃ e, latest log k = some e ∧ e.lapsed = false := by
  induction log using List.reverseRecOn with
  | nil => simp [StaysSince] at h
  | append_singleton log d ih =>
    obtain ⟨hlapsed, hstays⟩ := staysSince_concat.1 h
    rw [latest_concat]
    by_cases hk : d.key = k
    · exact ⟨d, if_pos hk, hlapsed hk⟩
    · rw [if_neg hk]
      exact ih (hstays.resolve_right fun h => hk h.1)

theorem staysSince_of_latest (h : latest log k = some e) (he : e.lapsed = false) :
    ∃ i, StaysSince log k i := by
  induction log using List.reverseRecOn with
  | nil => simp [latest] at h
  | append_singleton log d ih =>
    rw [latest_concat] at h
    by_cases hk : d.key = k
    · obtain rfl : d = e := by simpa [hk] using h
      exact ⟨_, staysSince_concat.2 ⟨fun _ => he, .inr ⟨hk, rfl⟩⟩⟩
    · obtain ⟨i, hi⟩ := ih (by simpa [hk] using h)
      exact ⟨i, staysSince_concat.2 ⟨fun h => absurd h hk, .inl hi⟩⟩

theorem CameBefore.concat (h : CameBefore log k l) (hk : d.key = k → d.lapsed = false) :
    CameBefore (log ++ [d]) k l := by
  obtain ⟨i, hi, hbefore⟩ := h
  refine ⟨i, staysSince_concat.2 ⟨hk, .inl hi⟩, fun j hj => ?_⟩
  rcases (staysSince_concat.1 hj).2 with hj | ⟨-, rfl⟩
  · exact hbefore j hj
  · exact hi.lt_length

end Keys

structure Filed (log : List Deposit) (jar : Jar) : Prop where
  names : (jar.hosts.map (·.1)).Nodup
  keys : ∀ host, ((jar.kept host).map Cookie.key).Nodup
  mem_iff : ∀ host c, c ∈ jar.kept host ↔
    ∃ d, latest log (host, c.key) = some d ∧ d.cookie = c ∧ d.lapsed = false
  order : ∀ host, ((jar.kept host).map Cookie.key).Pairwise fun k l =>
    CameBefore log (host, k) (host, l)

namespace Filed

variable {log : List Deposit}

theorem new : Filed [] {} where
  names := .nil
  keys _ := .nil
  mem_iff host c := by simp [latest, kept, Named.find?]
  order _ := .nil

theorem staysSince (hf : Filed log jar) {k : String × String}
    (hk : k ∈ (jar.kept host).map Cookie.key) : ∃ i, StaysSince log (host, k) i := by
  obtain ⟨c, hc, rfl⟩ := List.mem_map.1 hk
  obtain ⟨d, hd, -, hlapsed⟩ := (hf.mem_iff host c).1 hc
  exact staysSince_of_latest hd hlapsed

theorem mem_keys (hf : Filed log jar) {k : String × String} {i : Nat}
    (hi : StaysSince log (host, k) i) : k ∈ (jar.kept host).map Cookie.key := by
  obtain ⟨d, hd, hlapsed⟩ := latest_of_staysSince hi
  have hcookie : d.cookie.key = k := (Prod.mk.inj (mem_of_latest hd).2).2
  exact List.mem_map.2 ⟨d.cookie, (hf.mem_iff host d.cookie).2 ⟨d, hcookie ▸ hd, rfl, hlapsed⟩, hcookie⟩

theorem add (hf : Filed log jar) (d : Deposit) : Filed (log ++ [d]) (jar.add d) where
  names := nodup_names_update hf.names _ _
  keys host := by
    rw [kept_add]
    split
    · exact nodup_place (hf.keys _) _ _
    · exact hf.keys host
  mem_iff host c := by
    have hkey : d.key = (host, c.key) ↔ host = d.host ∧ c.key = d.cookie.key := by
      rw [Deposit.key, Prod.mk.injEq, eq_comm (a := d.host), eq_comm (a := d.cookie.key)]
    rw [kept_add, latest_concat]
    by_cases hhost : host = d.host
    · subst hhost
      rw [if_pos rfl, mem_place (hf.keys _), hf.mem_iff]
      by_cases hc : c.key = d.cookie.key
      · rw [if_pos (hkey.2 ⟨rfl, hc⟩)]
        constructor
        · rintro (⟨rfl, hlapsed⟩ | ⟨-, hne⟩)
          · exact ⟨d, rfl, rfl, hlapsed⟩
          · exact absurd hc hne
        · rintro ⟨_, ⟨⟩, rfl, hlapsed⟩
          exact .inl ⟨rfl, hlapsed⟩
      · have hne : c ≠ d.cookie := fun h => hc (congrArg Cookie.key h)
        rw [if_neg fun h => hc (hkey.1 h).2]
        exact ⟨fun h => (h.resolve_left fun h => hne h.1).1, fun h => .inr ⟨h, hc⟩⟩
    · rw [if_neg hhost, if_neg fun h => hhost (hkey.1 h).1, hf.mem_iff]
  order host := by
    rw [kept_add]
    split
    · rename_i hhost
      subst hhost
      rw [keys_place (hf.keys _)]
      split
      · -- the other keys stand as they stood
        refine ((hf.order _).sublist List.erase_sublist).imp_of_mem fun hk _ h => h.concat fun hkey => ?_
        rw [(hf.keys _).mem_erase_iff] at hk
        exact absurd (Prod.mk.inj hkey).2.symm hk.1
      · rename_i hstays
        have hconcat : ((jar.kept d.host).map Cookie.key).Pairwise fun k l =>
            CameBefore (log ++ [d]) (d.host, k) (d.host, l) :=
          (hf.order _).imp fun h => h.concat fun _ => Bool.eq_false_iff.2 hstays
        split
        · exact hconcat
        · rename_i hnew
          refine List.pairwise_append.2 ⟨hconcat, List.pairwise_singleton _ _, fun k hk l hl => ?_⟩
          obtain rfl := List.mem_singleton.1 hl
          -- a key without a cookie stays from this deposit on
          obtain ⟨i, hi⟩ := hf.staysSince hk
          refine ⟨i, staysSince_concat.2 ⟨fun _ => Bool.eq_false_iff.2 hstays, .inl hi⟩,
            fun j hj => ?_⟩
          rcases (staysSince_concat.1 hj).2 with hj | ⟨-, rfl⟩
          · exact absurd (hf.mem_keys hj) hnew
          · exact hi.lt_length
    · rename_i hhost
      exact (hf.order host).imp fun h => h.concat fun hkey =>
        absurd (Prod.mk.inj hkey).1.symm hhost

theorem ofDeposits (log : List Deposit) : Filed log (ofDeposits log) := by
  induction log using List.reverseRecOn with
  | nil => exact new
  | append_singleton log d ih =>
    rw [ofDeposits_concat]
    exact ih.add d

theorem run (history : List (Time × Action)) : Filed (ledger history) (run history) := by
  rw [run_eq]
  exact ofDeposits _

end Filed

end Outbound.Jar
