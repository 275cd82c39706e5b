import Outbound.Json.Number

/-! JSON text is cut into tokens by a machine that reads one character at a time. A word is a run
of characters that can stand in a number or a name; it ends where another character begins. -/

namespace Outbound.Json

inductive Token
  | beginArray
  | endArray
  | beginObject
  | endObject
  | comma
  | colon
  | scalar (value : Json)
  deriving Inhabited

namespace Lexer

/-- Where the machine stands. Characters read so far are in reverse. -/
inductive State
  | between
  | word (read : List Char)
  | text (read : List Char)
  | escape (read : List Char)
  | unit (read : List Char) (high : Option Nat) (digits : List Char)
  | awaitLow (read : List Char) (high : Nat)
  | awaitUnit (read : List Char) (high : Nat)
  deriving DecidableEq, Repr, Inhabited

def isSpace (c : Char) : Bool := c = ' ' || c = '\t' || c = '\n' || c = '\r'

def isWordChar (c : Char) : Bool := c.isAlphanum || c = '-' || c = '+' || c = '.'

def ofWord? (cs : List Char) : Option Json :=
  if cs = "null".toList then some .null
  else if cs = "true".toList then some (.bool true)
  else if cs = "false".toList then some (.bool false)
  else ((Numeral.ofChars? cs).bind Numeral.toNumber?).map .number

def escaped? : Char → Option Char
  | '"' => some '"'
  | '\\' => some '\\'
  | '/' => some '/'
  | 'b' => some '\x08'
  | 'f' => some '\x0c'
  | 'n' => some '\n'
  | 'r' => some '\r'
  | 't' => some '\t'
  | _ => none

def punctuation (c : Char) : Option (List Token × State) :=
  if isSpace c then some ([], .between)
  else if c = '[' then some ([.beginArray], .between)
  else if c = ']' then some ([.endArray], .between)
  else if c = '\x7b' then some ([.beginObject], .between)
  else if c = '\x7d' then some ([.endObject], .between)
  else if c = ',' then some ([.comma], .between)
  else if c = ':' then some ([.colon], .between)
  else if c = '"' then some ([], .text [])
  else if isWordChar c then some ([], .word [c])
  else none

/-- A code unit of four hexadecimal digits. Two surrogates in order are one character, and a
surrogate on its own is refused. -/
def codeUnit (read : List Char) (high : Option Nat) (n : Nat) : Option State :=
  let isHigh := 0xd800 ≤ n && n < 0xdc00
  let isLow := 0xdc00 ≤ n && n < 0xe000
  match high with
  | none =>
    if isHigh then some (.awaitLow read n)
    else if isLow then none
    else some (.text (Char.ofNat n :: read))
  | some h =>
    if isLow then some (.text (Char.ofNat (0x10000 + (h - 0xd800) * 0x400 + (n - 0xdc00)) :: read))
    else none

def step : State → Char → Option (List Token × State)
  | .between, c => punctuation c
  | .word read, c =>
    if isWordChar c then some ([], .word (c :: read))
    else do
      let value ← ofWord? read.reverse
      let (tokens, s) ← punctuation c
      some (.scalar value :: tokens, s)
  | .text read, c =>
    if c = '"' then some ([.scalar (.string (String.ofList read.reverse))], .between)
    else if c = '\\' then some ([], .escape read)
    else if c.toNat < 0x20 then none
    else some ([], .text (c :: read))
  | .escape read, c =>
    if c = 'u' then some ([], .unit read none [])
    else (escaped? c).map fun e => ([], .text (e :: read))
  | .unit read high digits, c =>
    if !Ascii.isHexDigit c then none
    else if digits.length < 3 then some ([], .unit read high (c :: digits))
    else (codeUnit read high (Ascii.value 16 (c :: digits).reverse)).map ([], ·)
  | .awaitLow read high, c => if c = '\\' then some ([], .awaitUnit read high) else none
  | .awaitUnit read high, c => if c = 'u' then some ([], .unit read (some high) []) else none

def finish : State → Option (List Token)
  | .between => some []
  | .word read => (ofWord? read.reverse).map ([.scalar ·])
  | _ => none

def tokens? (cs : List Char) : Option (List Token) := do
  let (tokens, s) ← cs.foldlM
    (fun (tokens, s) c => (step s c).map fun (more, s) => (more.reverse ++ tokens, s))
    (([] : List Token), State.between)
  let last ← finish s
  some (tokens.reverse ++ last)

end Lexer
end Outbound.Json
