import Outbound.Json.Basic
import Outbound.Decimal.Shortest
import Outbound.Text.Quoted

/-! Typed reading of JSON values. A reader either gives a value of the library or says what it found
and what it expected there. A record is read from an object, whose members are visited in the order
of their keys, or from an array that lists the fields in the order of their declaration. -/

namespace Outbound.Json

inductive DecodeError
  | invalidType (found : Json) (expected : String)
  | invalidValue (found : Int) (expected : String)
  | invalidLength (length : Nat) (expected : String)
  | missingField (name : String)
  | unknownField (name : String) (known : List String)
  | refused (reason : String)
  deriving Inhabited

def quoted (s : String) : String := "`" ++ s ++ "`"

def describe : Json → String
  | .null => "null"
  | .bool b => "boolean " ++ quoted (if b then "true" else "false")
  | .number (.int n) => "integer " ++ quoted (toString n)
  | .number (.float bits) => "floating point " ++ quoted (String.ofList (Decimal.ofBits bits))
  | .string s => "string " ++ Text.quote s
  | .array _ => "sequence"
  | .object _ => "map"

def alternatives : List String → String
  | [] => ""
  | [a] => quoted a
  | [a, b] => quoted a ++ " or " ++ quoted b
  | names => "one of " ++ String.intercalate ", " (names.map quoted)

def DecodeError.message : DecodeError → String
  | .invalidType found expected => "invalid type: " ++ describe found ++ ", expected " ++ expected
  | .invalidValue found expected =>
    "invalid value: integer " ++ quoted (toString found) ++ ", expected " ++ expected
  | .invalidLength length expected =>
    "invalid length " ++ toString length ++ ", expected " ++ expected
  | .missingField name => "missing field " ++ quoted name
  | .unknownField name known =>
    "unknown field " ++ quoted name ++ ", expected " ++ alternatives known
  | .refused reason => reason

abbrev Reader (α : Type) := Json → Except DecodeError α

namespace Reader

def string : Reader String
  | .string s => .ok s
  | v => .error (.invalidType v "a string")

def boolean : Reader Bool
  | .bool b => .ok b
  | v => .error (.invalidType v "a boolean")

def sequence : Reader (List Json)
  | .array items => .ok items
  | v => .error (.invalidType v "a sequence")

def map : Reader (List (String × Json))
  | .object members => .ok members
  | v => .error (.invalidType v "a map")

def whole (low high : Int) (expected : String) : Reader Int
  | .number (.int n) =>
    if low ≤ n && n ≤ high then .ok n else .error (.invalidValue n expected)
  | v => .error (.invalidType v expected)

def int64 : Reader Int := whole Word.least64 Word.most64 "i64"

def natural (limit : Nat) (expected : String) : Reader Nat :=
  fun v => (whole 0 (limit - 1 : Int) expected v).map Int.toNat

def nat64 : Reader Nat := natural Word.count64 "u64"

def nat32 : Reader Nat := natural Word.count32 "u32"

def size : Reader Nat := natural Word.count64 "usize"

def optional {α : Type} (read : Reader α) : Reader (Option α)
  | .null => .ok none
  | v => (read v).map some

def fields {δ : Type} (draft : δ) (put : δ → String → Json → Except DecodeError δ) :
    List (String × Json) → Except DecodeError δ :=
  List.foldlM (fun d (name, value) => put d name value) draft

/-- An array that lists the fields of a record: none may be missing in front of the last one that is
required, and none may be left over. That none is left over is seen last, when the record is
finished. -/
def positional {δ ρ : Type} (names : List String) (required : Nat) (expected : String) (draft : δ)
    (put : δ → String → Json → Except DecodeError δ) (finish : δ → Except DecodeError ρ)
    (items : List Json) : Except DecodeError ρ := do
  let d ← fields draft put (names.zip items)
  if items.length < required then throw (.invalidLength items.length expected)
  let r ← finish d
  if names.length < items.length then
    throw (.invalidLength items.length "fewer elements in array")
  return r

end Reader
end Outbound.Json
