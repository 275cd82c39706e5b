import Outbound.Text.Ascii
import Outbound.Text.Blank

/-! A media type as those who receive it read it: a type, and parameters behind it, each behind a
semicolon. A semicolon between quotes separates nothing, and a backslash between quotes takes the
character behind it as it is. A parameter put behind a text is read as the last one, unless the text
ends between quotes: then it belongs to the piece that is left open, which is none. -/

namespace Outbound.MediaType

/-- Where a reader stands among quotes. -/
inductive Quote
  | outside
  | inside
  | escaped
  deriving DecidableEq, Repr

def Quote.next : Quote → Char → Quote
  | outside, c => if c = '"' then inside else outside
  | inside, c => if c = '"' then outside else if c = '\\' then escaped else inside
  | escaped, _ => inside

def Quote.after (q : Quote) (cs : List Char) : Quote := cs.foldl next q

/-- The pieces between semicolons. One that is left open is no piece. -/
def pieces (q : Quote) : List Char → List (List Char)
  | [] => if q = .outside then [[]] else []
  | c :: cs =>
    if q = .outside ∧ c = ';' then [] :: pieces (q.next c) cs
    else match pieces (q.next c) cs with
      | piece :: rest => (c :: piece) :: rest
      | [] => []

def isPad (c : Char) : Bool := c = ' ' || c = '\t'

def strip (cs : List Char) : List Char := ((cs.dropWhile isPad).reverse.dropWhile isPad).reverse

def quoted : List Char → List Char
  | [] => []
  | '"' :: _ => []
  | '\\' :: c :: cs => c :: quoted cs
  | c :: cs => c :: quoted cs

def value (cs : List Char) : String :=
  match strip cs with
  | '"' :: cs => String.ofList (quoted cs)
  | cs => String.ofList cs

def parameter? (piece : List Char) : Option (String × String) :=
  (Text.splitOnce '=' piece).map fun parts =>
    (Ascii.lower (.ofList (strip parts.1)), value parts.2)

def parameters (type : String) : List (String × String) :=
  (pieces .outside type.toList).tail.filterMap parameter?

/-- The values of all parameters of that name, in order. -/
def boundaries (type : String) : List String :=
  ((parameters type).filter (·.1 = "boundary")).map (·.2)

/-- All quotes are closed. -/
def Closed (type : String) : Prop := Quote.outside.after type.toList = .outside

instance (type : String) : Decidable (Closed type) := inferInstanceAs (Decidable (_ = _))

variable {q : Quote} {cs front : List Char} {c : Char}

theorem pieces_cons (h : ¬ (q = .outside ∧ c = ';')) {piece : List Char} {rest : List (List Char)}
    (hrest : pieces (q.next c) cs = piece :: rest) :
    pieces q (c :: cs) = (c :: piece) :: rest := by
  rw [pieces, if_neg h, hrest]

theorem pieces_cons_of_nil (h : ¬ (q = .outside ∧ c = ';')) (hrest : pieces (q.next c) cs = []) :
    pieces q (c :: cs) = [] := by
  rw [pieces, if_neg h, hrest]

theorem exists_pieces (h : q.after cs = .outside) : ∃ piece rest, pieces q cs = piece :: rest := by
  induction cs generalizing q with
  | nil => exact ⟨[], [], if_pos h⟩
  | cons c cs ih =>
    by_cases hcut : q = .outside ∧ c = ';'
    · rw [pieces, if_pos hcut]
      exact ⟨_, _, rfl⟩
    · obtain ⟨piece, rest, hrest⟩ := ih (q := q.next c) h
      exact ⟨_, _, pieces_cons hcut hrest⟩

theorem pieces_append_of_closed (h : q.after front = .outside) (cs : List Char) :
    pieces q (front ++ ';' :: cs) = pieces q front ++ pieces .outside cs := by
  induction front generalizing q with
  | nil =>
    have hq : q = .outside := h
    subst hq
    rfl
  | cons c front ih =>
    have hlater : (q.next c).after front = .outside := h
    rw [List.cons_append]
    by_cases hcut : q = .outside ∧ c = ';'
    · rw [pieces, pieces, if_pos hcut, if_pos hcut, ih hlater, List.cons_append]
    · obtain ⟨piece, rest, hrest⟩ := exists_pieces hlater
      have hboth := ih hlater
      rw [hrest, List.cons_append] at hboth
      rw [pieces_cons hcut hboth, pieces_cons hcut hrest, List.cons_append]

theorem next_of_not_quote (hq : q ≠ .outside) (hc : c ≠ '"') : q.next c ≠ .outside := by
  cases q with
  | outside => exact absurd rfl hq
  | inside =>
    rw [Quote.next, if_neg hc]
    split <;> decide
  | escaped => exact Quote.noConfusion

theorem pieces_of_open (hq : q ≠ .outside) (h : '"' ∉ cs) : pieces q cs = [] := by
  induction cs generalizing q with
  | nil => exact if_neg hq
  | cons c cs ih =>
    rw [List.mem_cons, not_or] at h
    exact pieces_cons_of_nil (fun hcut => hq hcut.1) (ih (next_of_not_quote hq (Ne.symm h.1)) h.2)

theorem pieces_append_of_open (hfront : q.after front ≠ .outside) (h : '"' ∉ cs) :
    pieces q (front ++ cs) = pieces q front := by
  induction front generalizing q with
  | nil => exact (pieces_of_open hfront h).trans (if_neg hfront).symm
  | cons c front ih =>
    have hlater : (q.next c).after front ≠ .outside := hfront
    rw [List.cons_append, pieces, pieces, ih hlater]

theorem pieces_of_plain (hcut : ';' ∉ cs) (hquote : '"' ∉ cs) : pieces .outside cs = [cs] := by
  induction cs with
  | nil => rfl
  | cons c cs ih =>
    rw [List.mem_cons, not_or] at hcut hquote
    have hnext : Quote.outside.next c = .outside := if_neg (Ne.symm hquote.1)
    have hrest : pieces (Quote.outside.next c) cs = [cs] := by
      rw [hnext]
      exact ih hcut.2 hquote.2
    exact pieces_cons (fun h => Ne.symm hcut.1 h.2) hrest

theorem strip_of_all (h : ∀ c ∈ cs, isPad c = false) : strip cs = cs := by
  have hfront : ∀ cs : List Char, (∀ c ∈ cs, isPad c = false) → cs.dropWhile isPad = cs := by
    intro cs hcs
    cases cs with
    | nil => rfl
    | cons c cs => rw [List.dropWhile_cons, if_neg (by simp [hcs c])]
  rw [strip, hfront cs h, hfront cs.reverse (by simpa using h), List.reverse_reverse]

theorem value_of_all (h : ∀ c ∈ cs, c.isAlphanum = true) : value cs = String.ofList cs := by
  have hpad : ∀ c ∈ cs, isPad c = false := by
    intro c hc
    have hletter := h c hc
    cases hpad : isPad c with
    | false => rfl
    | true =>
      simp only [isPad, Bool.or_eq_true, decide_eq_true_eq] at hpad
      rcases hpad with rfl | rfl <;> cases hletter
  rw [value, strip_of_all hpad]
  split
  · have hletter := h '"' (by simp)
    cases hletter
  · rfl

variable {boundary : String}

theorem parameter?_boundary (h : ∀ c ∈ boundary.toList, c.isAlphanum = true) :
    parameter? (" boundary=".toList ++ boundary.toList) = some ("boundary", boundary) := by
  have hcut : Text.splitOnce '=' (" boundary=".toList ++ boundary.toList) =
      some (" boundary".toList, boundary.toList) := rfl
  have hname : Ascii.lower (.ofList (strip " boundary".toList)) = "boundary" := by decide
  rw [parameter?, hcut, Option.map_some, hname, value_of_all h, String.ofList_toList]

theorem not_mem_declared (h : ∀ c ∈ boundary.toList, c.isAlphanum = true) {c : Char}
    (hc : c.isAlphanum = false) (hname : c ∉ " boundary=".toList) :
    c ∉ " boundary=".toList ++ boundary.toList := by
  rw [List.mem_append, not_or]
  refine ⟨hname, fun hmem => ?_⟩
  rw [h c hmem] at hc
  cases hc

theorem toList_declared (type : String) : (type ++ "; boundary=" ++ boundary).toList =
    type.toList ++ ';' :: (" boundary=".toList ++ boundary.toList) := by
  rw [String.toList_append, String.toList_append, List.append_assoc]
  rfl

theorem boundaries_of_closed {type : String} (hclosed : Closed type)
    (h : ∀ c ∈ boundary.toList, c.isAlphanum = true) :
    boundaries (type ++ "; boundary=" ++ boundary) = boundaries type ++ [boundary] := by
  have hpieces := pieces_append_of_closed hclosed (" boundary=".toList ++ boundary.toList)
  rw [pieces_of_plain (not_mem_declared h rfl (by decide)) (not_mem_declared h rfl (by decide)),
    ← toList_declared] at hpieces
  obtain ⟨piece, rest, hfirst⟩ := exists_pieces hclosed
  have hlast : [" boundary=".toList ++ boundary.toList].filterMap parameter? =
      [("boundary", boundary)] := by
    rw [List.filterMap_cons, parameter?_boundary h]
    rfl
  rw [boundaries, boundaries, parameters, parameters, hpieces, hfirst, List.cons_append,
    List.tail_cons, List.tail_cons, List.filterMap_append, hlast, List.filter_append,
    List.map_append]
  rfl

theorem boundaries_of_open {type : String} (hopen : ¬ Closed type)
    (h : ∀ c ∈ boundary.toList, c.isAlphanum = true) :
    boundaries (type ++ "; boundary=" ++ boundary) = boundaries type := by
  have hquote : '"' ∉ ';' :: (" boundary=".toList ++ boundary.toList) := by
    rw [List.mem_cons, not_or]
    exact ⟨by decide, not_mem_declared h rfl (by decide)⟩
  rw [boundaries, boundaries, parameters, parameters, toList_declared,
    pieces_append_of_open hopen hquote]

end Outbound.MediaType
