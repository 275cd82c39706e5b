import Outbound.Cookie.Basic

/-! What a `Set-Cookie` header says. Its attributes may stand in any order, and of each kind the last
one counts; but every age is counted on the clock, also one that a later age replaces. -/

namespace Outbound.Cookie

variable {now : Time} {c : Cookie} {a : Attribute} {as : List Attribute} {header : String}

namespace Attribute

def domain? : Attribute → Option String
  | .domain name => some name
  | _ => none

def path? : Attribute → Option String
  | .path text => some text
  | _ => none

def age? : Attribute → Option Nat
  | .maxAge seconds => some seconds.toNat
  | _ => none

end Attribute

def pair? (header : String) : Option Cookie :=
  (Text.split ';' header.toList).head?.bind readPair

def attributes (header : String) : List Attribute :=
  (Text.split ';' header.toList).tail.map Attribute.read

def domain? (header : String) : Option String :=
  ((attributes header).filterMap Attribute.domain?).getLast?

def path? (header : String) : Option String :=
  ((attributes header).filterMap Attribute.path?).getLast?

def ages (header : String) : List Nat := (attributes header).filterMap Attribute.age?

def Tellable (now : Time) (header : String) : Prop :=
  ∀ age ∈ ages header, now / Clock.second + age ≤ Clock.lastSecond

instance (now : Time) (header : String) : Decidable (Tellable now header) :=
  inferInstanceAs (Decidable (∀ age ∈ ages header, _))

theorem getLast?_filterMap_cons {α β : Type} (f : α → Option β) (a : α) (as : List α) :
    ((a :: as).filterMap f).getLast? = (as.filterMap f).getLast?.or (f a) := by
  cases h : f a with
  | none => rw [List.filterMap_cons_none h, Option.or_none]
  | some b =>
    rw [List.filterMap_cons_some h, List.getLast?_cons]
    cases (as.filterMap f).getLast? <;> rfl

/-- A cookie with the last attribute of each kind. -/
def settled (now : Time) (c : Cookie) (as : List Attribute) : Cookie :=
  { c with
    domain := (as.filterMap Attribute.domain?).getLast?.or c.domain
    path := (as.filterMap Attribute.path?).getLast?.getD c.path
    secure := c.secure || as.contains .secure
    expires := ((as.filterMap Attribute.age?).getLast?.map fun age =>
      now + age * Clock.second).or c.expires }

theorem settled_nil (now : Time) (c : Cookie) : settled now c [] = c := by
  simp only [settled, List.filterMap_nil, List.getLast?_nil, Option.none_or, Option.getD_none,
    Option.map_none, List.contains_nil, Bool.or_false]

theorem settled_cons (now : Time) (c : Cookie) (a : Attribute) (as : List Attribute) :
    settled now (settled now c [a]) as = settled now c (a :: as) := by
  simp only [settled, getLast?_filterMap_cons, List.filterMap_nil, List.getLast?_nil,
    Option.none_or, Option.or_assoc, Option.getD_or, Option.map_or, List.contains_cons,
    List.contains_nil, Bool.or_false, Bool.or_assoc]

theorem apply_eq (now : Time) (c : Cookie) (a : Attribute) :
    apply now c a =
      if ∀ age ∈ a.age?, now / Clock.second + age ≤ Clock.lastSecond then .ok (settled now c [a])
      else .error .overflow := by
  cases a with
  | maxAge seconds =>
    by_cases h : Clock.lastSecond < now / Clock.second + seconds.toNat
    · simp [apply, Clock.ahead, Attribute.age?, h, Except.map]
    · simp [apply, Clock.ahead, Attribute.age?, h, settled, Attribute.domain?, Attribute.path?,
        Except.map, Nat.le_of_not_lt]
  | _ => simp [apply, settled, Attribute.age?, Attribute.domain?, Attribute.path?]

theorem foldlM_apply (now : Time) (c : Cookie) (as : List Attribute) :
    as.foldlM (apply now) c =
      if ∀ age ∈ as.filterMap Attribute.age?, now / Clock.second + age ≤ Clock.lastSecond then
        .ok (settled now c as)
      else .error .overflow := by
  induction as generalizing c with
  | nil => simp [settled_nil, pure, Except.pure]
  | cons a as ih =>
    have hages : (∀ age ∈ (a :: as).filterMap Attribute.age?,
          now / Clock.second + age ≤ Clock.lastSecond) ↔
        (∀ age ∈ a.age?, now / Clock.second + age ≤ Clock.lastSecond) ∧
          ∀ age ∈ as.filterMap Attribute.age?, now / Clock.second + age ≤ Clock.lastSecond := by
      cases h : a.age? with
      | none => simp [List.filterMap_cons_none h]
      | some age => simp [List.filterMap_cons_some h]
    rw [List.foldlM_cons, apply_eq]
    by_cases ha : ∀ age ∈ a.age?, now / Clock.second + age ≤ Clock.lastSecond
    · rw [if_pos ha]
      refine (ih _).trans ?_
      simp only [settled_cons, hages, and_iff_right ha]
    · rw [if_neg ha, if_neg fun h => ha (hages.1 h).1]
      rfl

theorem readPair_plain {cs : List Char} (h : readPair cs = some c) :
    c.domain = none ∧ c.path = "/" ∧ c.secure = false ∧ c.expires = none := by
  simp only [readPair, Option.bind_eq_bind, Option.bind_eq_some_iff] at h
  obtain ⟨⟨name, value⟩, -, h⟩ := h
  split at h
  · cases h
  · obtain rfl := Option.some.inj h
    exact ⟨rfl, rfl, rfl, rfl⟩

/-- The cookie that a header states: the pair in front makes it, and the last attribute of each kind
makes its other parts. -/
def stated (now : Time) (header : String) : Option Cookie :=
  (pair? header).map fun c => { c with
    domain := domain? header
    path := (path? header).getD "/"
    secure := (attributes header).contains .secure
    expires := (ages header).getLast?.map fun age => now + age * Clock.second }

/-- Reading fails exactly if there is a cookie with an age that the clock cannot tell, and otherwise
finds what the header states. -/
theorem read_eq (now : Time) (header : String) :
    read now header =
      if pair? header = none ∨ Tellable now header then .ok (stated now header)
      else .error .overflow := by
  have hread : read now header = (pair? header).elim (.ok none) fun c =>
      ((attributes header).foldlM (apply now) c).map some := by
    unfold read pair? attributes
    cases Text.split ';' header.toList with
    | nil => rfl
    | cons pair parts => cases h : readPair pair <;> simp [h]
  rw [hread, stated]
  cases hpair : pair? header with
  | none => rfl
  | some c =>
    obtain ⟨pair, -, hc⟩ := Option.bind_eq_some_iff.1 hpair
    obtain ⟨hdomain, hpath, hsecure, hexpires⟩ := readPair_plain hc
    have hfold := foldlM_apply now c (attributes header)
    by_cases h : Tellable now header
    · simp only [Option.elim_some, hfold.trans (if_pos h), if_pos (Or.inr h), Except.map, settled,
        hdomain, hpath, hsecure, hexpires, Option.or_none, Bool.false_or]
      rfl
    · have hfails : ¬ (some c = none ∨ Tellable now header) := by simp [h]
      simp only [Option.elim_some, hfold.trans (if_neg h), if_neg hfails, Except.map]

theorem domain_of_stated (h : stated now header = some c) : c.domain = domain? header := by
  obtain ⟨_, -, rfl⟩ := Option.map_eq_some_iff.1 h
  rfl

theorem path_of_stated (h : stated now header = some c) : c.path = (path? header).getD "/" := by
  obtain ⟨_, -, rfl⟩ := Option.map_eq_some_iff.1 h
  rfl

theorem head?_of_read {cs : List Char} {path : String} (h : Attribute.read cs = .path path) :
    path.toList.head? = some '/' := by
  revert h
  fun_cases Attribute.read cs <;> intro h <;> cases h
  rename_i hslash
  rwa [String.toList_ofList]

theorem head?_path {path : String} (h : path? header = some path) :
    path.toList.head? = some '/' := by
  obtain ⟨a, ha, hpath⟩ := List.mem_filterMap.1 (List.mem_of_getLast? h)
  obtain ⟨cs, -, rfl⟩ := List.mem_map.1 ha
  refine head?_of_read (?_ : Attribute.read cs = .path path)
  cases hread : Attribute.read cs with
  | path text => rw [← Option.some.inj ((congrArg Attribute.path? hread).symm.trans hpath)]
  | _ => simp [hread, Attribute.path?] at hpath

end Outbound.Cookie
