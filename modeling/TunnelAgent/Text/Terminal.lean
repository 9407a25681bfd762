import TunnelAgent.Document
import TunnelAgent.Text.Parts

/-!
Text for a terminal: the controls that a terminal would act on are spelled out, all other
characters stay.
-/

namespace TunnelAgent.Text.Terminal

/-- Of the controls of ASCII: bell, backspace, form feed, escape and delete. -/
def actedOn : List Nat := [0x07, 0x08, 0x0C, 0x1B, 0x7F]

def spell (c : Char) : List Char :=
  let n := c.toNat
  if n ∈ actedOn then ['\\', 'x'] ++ Document.hexDigits 2 n
  else if 0x80 ≤ n ∧ n ≤ 0x9F then ['\\', 'u', '\x7b'] ++ Document.hexDigits 2 n ++ ['\x7d']
  else [c]

def spelled (s : String) : String := String.ofList (s.toList.flatMap spell)

/-- The lines that a text is printed on, without the carriage returns that end them. -/
def lines (s : String) : List String :=
  (Text.parts '\n' s.toList).map fun line =>
    String.ofList (if line.getLast? = some '\r' then line.dropLast else line)

def firstLine (s : String) : String := (lines s).headD ""

end TunnelAgent.Text.Terminal
