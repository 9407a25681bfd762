import TunnelAgent.Text.Classes

/-!
Quoted text for diagnostics: double quotes around it, a backslash before quotes and backslashes,
short forms for the common controls, and `\u` with the code point for every other character that
has no picture of its own or belongs to the one before it.
-/

namespace TunnelAgent.Text

def hexText (n : Nat) : List Char := Nat.toDigits 16 n

def escape (c : Char) : List Char :=
  match c with
  | '\x00' => ['\\', '0']
  | '\t' => ['\\', 't']
  | '\n' => ['\\', 'n']
  | '\r' => ['\\', 'r']
  | '"' => ['\\', '"']
  | '\\' => ['\\', '\\']
  | c =>
    if isExtending c || isInvisible c then ['\\', 'u', '\x7b'] ++ hexText c.toNat ++ ['\x7d']
    else [c]

def quoted (s : String) : String := String.ofList ('"' :: s.toList.flatMap escape ++ ['"'])

end TunnelAgent.Text
