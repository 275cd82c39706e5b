import Outbound.Text.Utf8
import Outbound.Text.Ascii

/-! The characters that header names, header values and methods are made of. A name is a token; a
value is a line of text: no control characters except tabs. -/

namespace Outbound

namespace Token

def marks : List Char := "!#$%&'*+-.^_`|~".toList

def isTokenChar (c : Char) : Bool := c.isAlphanum || marks.contains c

def valid (s : String) : Bool := !s.toList.isEmpty && s.toList.all isTokenChar

end Token

def Method.valid (method : String) : Bool := Token.valid method

namespace Method

/-- Methods that carry a body even when it is empty. -/
def withBody : List String := ["POST", "PUT", "PATCH", "PROPPATCH", "REPORT"]

def requiresBody (method : String) : Bool := withBody.any (Ascii.same · method)

end Method

namespace Header

def nameLimit : Nat := 65535

def validName (name : String) : Bool := Token.valid name && name.toList.length ≤ nameLimit

def isValueByte (b : UInt8) : Bool := (0x20 ≤ b && b ≠ 0x7f) || b == 0x09

def isValueChar (c : Char) : Bool := (0x20 ≤ c.toNat && c.toNat ≠ 0x7f) || c.toNat == 0x09

def validValue (value : String) : Bool := value.toList.all isValueChar

def name? (bytes : Bytes) : Option String := do
  let name := String.ofList (← Utf8.decode? bytes)
  if validName name then some (Ascii.lower name) else none

def plainText? (value : Bytes) : Option String :=
  if value.all (fun b => (0x20 ≤ b && b < 0x7f) || b == 0x09) then
    some (String.ofList (Utf8.decode value))
  else none

def contentType : String := "content-type"
def contentEncoding : String := "content-encoding"
def contentLength : String := "content-length"
def userAgent : String := "user-agent"

end Header
end Outbound
