import Outbound.Text.Hidden
import Outbound.Text.Ascii

/-! A quoted text shows every character on one line: quotes and backslashes get a backslash, the
common controls have names, and other hidden characters are written by their code point. -/

namespace Outbound.Text

def quoteChar (c : Char) : List Char :=
  match c with
  | '"' => ['\\', '"']
  | '\\' => ['\\', '\\']
  | '\t' => ['\\', 't']
  | '\r' => ['\\', 'r']
  | '\n' => ['\\', 'n']
  | '\x00' => ['\\', '0']
  | c => if isHidden c then '\\' :: 'u' :: '\x7b' :: Ascii.hex c.toNat ++ ['\x7d'] else [c]

def quote (s : String) : String :=
  String.ofList ('"' :: s.toList.flatMap quoteChar ++ ['"'])

end Outbound.Text
