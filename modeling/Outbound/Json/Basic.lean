import Outbound.Text.Ascii
import Outbound.Word

/-! Values of JSON as the library sees them. Whole numbers between the least 64-bit signed and the
greatest 64-bit unsigned integer are exact; every other number is a binary64. The members of an
object stand in the order of their keys, and the last of two members with one key is kept. -/

namespace Outbound

namespace Json

inductive Number
  | int (n : Int)
  | float (bits : UInt64)
  deriving DecidableEq, Repr, Inhabited

end Json

inductive Json
  | null
  | bool (b : Bool)
  | number (n : Json.Number)
  | string (s : String)
  | array (items : List Json)
  | object (members : List (String × Json))
  deriving Inhabited

namespace Json

def insertMember (key : String) (value : Json) : List (String × Json) → List (String × Json)
  | [] => [(key, value)]
  | (k, v) :: rest =>
    if key < k then (key, value) :: (k, v) :: rest
    else if key = k then (key, value) :: rest
    else (k, v) :: insertMember key value rest

def ofMembers (members : List (String × Json)) : Json :=
  .object (members.foldl (fun sorted (key, value) => insertMember key value sorted) [])

def member? (members : List (String × Json)) (key : String) : Option Json :=
  (members.find? (·.1 = key)).map (·.2)

def get? (key : String) : Json → Option Json
  | .object members => member? members key
  | _ => none

def string? : Json → Option String
  | .string s => some s
  | _ => none

def array? : Json → Option (List Json)
  | .array items => some items
  | _ => none

def members? : Json → Option (List (String × Json))
  | .object members => some members
  | _ => none

def bool? : Json → Option Bool
  | .bool b => some b
  | _ => none

def int64? : Json → Option Int
  | .number (.int n) => if Word.fits64 n then some n else none
  | _ => none

@[simp] theorem member?_nil (key : String) : member? [] key = none := rfl

theorem member?_insertMember_self (key : String) (value : Json) (members : List (String × Json)) :
    member? (insertMember key value members) key = some value := by
  induction members with
  | nil => simp [insertMember, member?]
  | cons m rest ih =>
    obtain ⟨k, v⟩ := m
    simp only [insertMember]
    split
    · simp [member?]
    · split
      · simp [member?]
      · rename_i hne
        simp only [member?, List.find?_cons, Ne.symm hne, decide_false] at ih ⊢
        exact ih

end Json
end Outbound
