import Outbound.Failure
import Outbound.Text.Utf8

/-! Files that are open. A handle keeps the place up to which the file has been read, and each read
goes on from there. Others may write over the file between two reads; the place stays. -/

namespace Outbound

namespace Handle

/-- How a read goes: it gives some bytes, at most this many, or it fails. -/
inductive Answer
  | gives (count : Nat)
  | fails (error : IoError)
  deriving DecidableEq, Repr, Inhabited

/-- What one read meets: what has been written over the file since the read before, if anything, and
how the read goes. -/
structure Turn where
  written : Option Bytes := none
  answer : Answer
  deriving DecidableEq, Repr, Inhabited

/-- The most that a read gives by itself, however much room there is. -/
def readLimit : Nat := 2 * 1024 * 1024

def quota (room : Nat) : Option Turn → Except IoError Nat
  | none => .ok (min room readLimit)
  | some ⟨_, .gives count⟩ => .ok (min room (max 1 count))
  | some ⟨_, .fails e⟩ => .error e

end Handle

/-- An open file: the place that is reached, what the file holds from there on, and what the reads to
come meet. Reads after these meet nothing. -/
structure Handle where
  position : Nat
  rest : Bytes
  turns : List Handle.Turn
  deriving DecidableEq, Repr, Inhabited

namespace Handle

def start (content : Bytes) (turns : List Turn := []) : Handle := ⟨0, content, turns⟩

def found (h : Handle) : Bytes :=
  match h.turns.head?.bind Turn.written with
  | none => h.rest
  | some content => content.drop h.position

/-- One read. Nothing means that the end is reached. -/
def read (room : Nat) (h : Handle) : Except IoError Bytes × Handle :=
  match quota room h.turns.head? with
  | .ok n =>
    (.ok (h.found.take n), ⟨h.position + (h.found.take n).length, h.found.drop n, h.turns.tail⟩)
  | .error e => (.error e, ⟨h.position, h.found, h.turns.tail⟩)

variable {room : Nat} {h next : Handle} {bytes : Bytes} {e : IoError}

theorem read_eq_ok_iff : h.read room = (.ok bytes, next) ↔
    ∃ n, quota room h.turns.head? = .ok n ∧ h.found.take n = bytes ∧
      ⟨h.position + bytes.length, h.found.drop n, h.turns.tail⟩ = next := by
  unfold read
  cases quota room h.turns.head? with
  | ok n =>
    simp only [Prod.mk.injEq, Except.ok.injEq, exists_eq_left']
    exact and_congr_right fun hbytes => by rw [hbytes]
  | error e => simp

theorem read_eq_error_iff : h.read room = (.error e, next) ↔
    quota room h.turns.head? = .error e ∧ ⟨h.position, h.found, h.turns.tail⟩ = next := by
  unfold read
  cases quota room h.turns.head? <;> simp

theorem read_shortens (hread : h.read room = (.ok bytes, next)) (hne : bytes ≠ []) :
    next.turns.length < h.turns.length ∨
      next.turns.length = h.turns.length ∧ next.rest.length < h.rest.length := by
  obtain ⟨n, -, rfl, rfl⟩ := read_eq_ok_iff.1 hread
  cases hturns : h.turns with
  | cons t turns => exact .inl (by simp)
  | nil =>
    have hfound : h.found = h.rest := by simp [found, hturns]
    rw [hfound] at hne ⊢
    have hn : 0 < n := Nat.pos_of_ne_zero fun hn => hne (by simp [hn])
    have hrest : 0 < h.rest.length := List.length_pos_iff.2 fun hrest => hne (by simp [hrest])
    exact .inr ⟨rfl, by simp only [List.length_drop]; omega⟩

end Handle
end Outbound
