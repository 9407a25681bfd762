/-!
Documents: the data of configuration files, in flow form. Numbers keep their spelling, so that a
reader can tell a whole number from a fraction; fields keep their order and may repeat.
-/

namespace TunnelAgent

inductive Document where
  | null
  | truth (value : Bool)
  | number (lexeme : String)
  | text (value : String)
  | items (values : List Document)
  | fields (entries : List (String × Document))
  deriving Repr

namespace Document

/-- The value of the first field of that name. -/
def get? (name : String) : Document → Option Document
  | fields entries => entries.lookup name
  | _ => none

def ofNat (n : Nat) : Document := number (toString n)

/-! ## Writing -/

def hexDigits (width n : Nat) : List Char :=
  let ds := Nat.toDigits 16 n
  List.replicate (width - ds.length) '0' ++ ds

def escape (c : Char) : List Char :=
  match c with
  | '"' => ['\\', '"']
  | '\\' => ['\\', '\\']
  | '\n' => ['\\', 'n']
  | '\r' => ['\\', 'r']
  | '\t' => ['\\', 't']
  | c => if c.toNat < 32 then '\\' :: 'u' :: hexDigits 4 c.toNat else [c]

def renderText (s : String) : String := String.ofList ('"' :: s.toList.flatMap escape ++ ['"'])

mutual

def render : Document → String
  | null => "null"
  | truth b => if b then "true" else "false"
  | number lexeme => lexeme
  | text s => renderText s
  | items values => "[" ++ renderItems values ++ "]"
  | fields entries => "\x7b" ++ renderFields entries ++ "\x7d"

def renderItems : List Document → String
  | [] => ""
  | [d] => render d
  | d :: rest => render d ++ "," ++ renderItems rest

def renderFields : List (String × Document) → String
  | [] => ""
  | [(name, d)] => renderText name ++ ":" ++ render d
  | (name, d) :: rest => renderText name ++ ":" ++ render d ++ "," ++ renderFields rest

end

end Document

end TunnelAgent
