import Splice.Text.Extending
import Splice.Text.Unprintable

namespace Splice.Visible

def isSeen (c : Char) : Bool :=
  !(CharSet.extending.contains c || CharSet.unprintable.contains c)

def escape (c : Char) : List Char :=
  match c with
  | '"' => ['\\', '"']
  | '\\' => ['\\', '\\']
  | '\n' => ['\\', 'n']
  | '\r' => ['\\', 'r']
  | '\t' => ['\\', 't']
  | '\x00' => ['\\', '0']
  | c =>
    if isSeen c then [c] else '\\' :: 'u' :: '{' :: (Nat.toDigits 16 c.toNat ++ ['}'])

def encode (s : String) : String := .ofList ('"' :: (s.toList.flatMap escape ++ ['"']))

end Splice.Visible
