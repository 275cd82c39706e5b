import Outbound.Json.Lexer

/-! Tokens are put together by a machine with a stack: each open array or object is a frame that
holds what it has so far. -/

namespace Outbound.Json

namespace Parser

/-- An open array or object, with its contents in reverse. An open object knows the key whose value
is under way. -/
inductive Frame
  | array (items : List Json)
  | object (members : List (String × Json)) (key : String)
  deriving Inhabited

inductive State
  | value (stack : List Frame)
  | firstItem (stack : List Frame)
  | firstKey (stack : List Frame)
  | key (members : List (String × Json)) (stack : List Frame)
  | colon (members : List (String × Json)) (key : String) (stack : List Frame)
  | after (frame : Frame) (stack : List Frame)
  | whole (value : Json)
  deriving Inhabited

def close (value : Json) : List Frame → State
  | [] => .whole value
  | .array items :: stack => .after (.array (value :: items)) stack
  | .object members key :: stack => .after (.object ((key, value) :: members) key) stack

def begin (stack : List Frame) : Token → Option State
  | .scalar value => some (close value stack)
  | .beginArray => some (.firstItem stack)
  | .beginObject => some (.firstKey stack)
  | _ => none

def step : State → Token → Option State
  | .value stack, t => begin stack t
  | .firstItem stack, .endArray => some (close (.array []) stack)
  | .firstItem stack, t => begin (.array [] :: stack) t
  | .firstKey stack, .endObject => some (close (.object []) stack)
  | .firstKey stack, .scalar (.string key) => some (.colon [] key stack)
  | .key members stack, .scalar (.string key) => some (.colon members key stack)
  | .colon members key stack, .colon => some (.value (.object members key :: stack))
  | .after (.array items) stack, .comma => some (.value (.array items :: stack))
  | .after (.array items) stack, .endArray => some (close (.array items.reverse) stack)
  | .after (.object members _) stack, .comma => some (.key members stack)
  | .after (.object members _) stack, .endObject =>
    some (close (ofMembers members.reverse) stack)
  | _, _ => none

end Parser

def parse? (text : String) : Option Json := do
  let tokens ← Lexer.tokens? text.toList
  match ← tokens.foldlM Parser.step (.value []) with
  | .whole value => some value
  | _ => none

end Outbound.Json
