import TunnelAgent.Document

/-!
Reading documents. A text is a document if it is one value with nothing but blanks around it.
Every call reads at least one character before it calls another, so the length of the text
bounds the depth of calls.
-/

namespace TunnelAgent.Document

def isBlank (c : Char) : Bool := c == ' ' || c == '\t' || c == '\n' || c == '\r'

def skipBlanks (cs : List Char) : List Char := cs.dropWhile isBlank

def hexValue? (c : Char) : Option Nat :=
  if '0' ≤ c ∧ c ≤ '9' then some (c.toNat - 48)
  else if 'a' ≤ c ∧ c ≤ 'f' then some (c.toNat - 87)
  else if 'A' ≤ c ∧ c ≤ 'F' then some (c.toNat - 55)
  else none

/-- Four hexadecimal digits. -/
def readUnit : List Char → Option (Nat × List Char)
  | a :: b :: c :: d :: rest =>
    match hexValue? a, hexValue? b, hexValue? c, hexValue? d with
    | some a, some b, some c, some d => some (((a * 16 + b) * 16 + c) * 16 + d, rest)
    | _, _, _, _ => none
  | _ => none

/-- A character by its number; one beyond the first plane is written as a pair of numbers. -/
def readNumbered (cs : List Char) : Option (Char × List Char) :=
  match readUnit cs with
  | none => none
  | some (n, rest) =>
    if n < 0xD800 ∨ 0xE000 ≤ n then some (Char.ofNat n, rest)
    else if n < 0xDC00 then
      match rest with
      | '\\' :: 'u' :: rest =>
        match readUnit rest with
        | some (m, rest) =>
          if 0xDC00 ≤ m ∧ m < 0xE000 then
            some (Char.ofNat (0x10000 + (n - 0xD800) * 0x400 + (m - 0xDC00)), rest)
          else none
        | none => none
      | _ => none
    else none

def escaped? : Char → Option Char
  | '"' => some '"'
  | '\\' => some '\\'
  | '/' => some '/'
  | 'b' => some '\x08'
  | 'f' => some '\x0c'
  | 'n' => some '\n'
  | 'r' => some '\r'
  | 't' => some '\t'
  | _ => none

/-- The rest of a quoted text; `acc` holds the characters read, last first. -/
def readText : Nat → List Char → List Char → Option (String × List Char)
  | 0, _, _ => none
  | _ + 1, _, [] => none
  | _ + 1, acc, '"' :: rest => some (String.ofList acc.reverse, rest)
  | n + 1, acc, '\\' :: 'u' :: rest =>
    match readNumbered rest with
    | some (c, rest) => readText n (c :: acc) rest
    | none => none
  | _ + 1, _, ['\\'] => none
  | n + 1, acc, '\\' :: c :: rest =>
    match escaped? c with
    | some c => readText n (c :: acc) rest
    | none => none
  | n + 1, acc, c :: rest => if c.toNat < 32 then none else readText n (c :: acc) rest

def isDigit (c : Char) : Bool := '0' ≤ c && c ≤ '9'

/-- Digits at the front, at least one. -/
def readDigits (cs : List Char) : Option (List Char × List Char) :=
  match cs.takeWhile isDigit with
  | [] => none
  | ds => some (ds, cs.dropWhile isDigit)

/-- The whole part: a zero stands alone. -/
def readWhole : List Char → Option (List Char × List Char)
  | '0' :: rest => some (['0'], rest)
  | cs => readDigits cs

def readFraction : List Char → Option (List Char × List Char)
  | '.' :: rest => (readDigits rest).map fun (ds, rest) => ('.' :: ds, rest)
  | cs => some ([], cs)

def readExponent : List Char → Option (List Char × List Char)
  | e :: rest =>
    if e = 'e' ∨ e = 'E' then
      match rest with
      | '+' :: rest => (readDigits rest).map fun (ds, rest) => (e :: '+' :: ds, rest)
      | '-' :: rest => (readDigits rest).map fun (ds, rest) => (e :: '-' :: ds, rest)
      | rest => (readDigits rest).map fun (ds, rest) => (e :: ds, rest)
    else some ([], e :: rest)
  | [] => some ([], [])

def readNumber (cs : List Char) : Option (Document × List Char) :=
  let (sign, cs) := match cs with
    | '-' :: rest => (['-'], rest)
    | cs => ([], cs)
  match readWhole cs with
  | none => none
  | some (whole, cs) =>
    match readFraction cs with
    | none => none
    | some (fraction, cs) =>
      match readExponent cs with
      | none => none
      | some (exponent, cs) => some (number (String.ofList (sign ++ whole ++ fraction ++ exponent)), cs)

mutual

def readValue : Nat → List Char → Option (Document × List Char)
  | 0, _ => none
  | n + 1, cs =>
    match skipBlanks cs with
    | '\x7b' :: rest =>
      match skipBlanks rest with
      | '\x7d' :: rest => some (fields [], rest)
      | rest => readFields n [] rest
    | '[' :: rest =>
      match skipBlanks rest with
      | ']' :: rest => some (items [], rest)
      | rest => readItems n [] rest
    | '"' :: rest => (readText (rest.length + 1) [] rest).map fun (s, rest) => (text s, rest)
    | 't' :: 'r' :: 'u' :: 'e' :: rest => some (truth true, rest)
    | 'f' :: 'a' :: 'l' :: 's' :: 'e' :: rest => some (truth false, rest)
    | 'n' :: 'u' :: 'l' :: 'l' :: rest => some (null, rest)
    | cs => readNumber cs

/-- The values up to the closing bracket, after those in `acc`, last first. -/
def readItems : Nat → List Document → List Char → Option (Document × List Char)
  | 0, _, _ => none
  | n + 1, acc, cs =>
    match readValue n cs with
    | none => none
    | some (d, rest) =>
      match skipBlanks rest with
      | ',' :: rest => readItems n (d :: acc) rest
      | ']' :: rest => some (items (d :: acc).reverse, rest)
      | _ => none

/-- The fields up to the closing brace, after those in `acc`, last first. -/
def readFields : Nat → List (String × Document) → List Char → Option (Document × List Char)
  | 0, _, _ => none
  | n + 1, acc, cs =>
    match skipBlanks cs with
    | '"' :: rest =>
      match readText (rest.length + 1) [] rest with
      | none => none
      | some (name, rest) =>
        match skipBlanks rest with
        | ':' :: rest =>
          match readValue n rest with
          | none => none
          | some (d, rest) =>
            match skipBlanks rest with
            | ',' :: rest => readFields n ((name, d) :: acc) rest
            | '\x7d' :: rest => some (fields ((name, d) :: acc).reverse, rest)
            | _ => none
        | _ => none
    | _ => none

end

def readChars (cs : List Char) : Option Document :=
  match readValue (cs.length + 1) cs with
  | some (d, rest) => if (skipBlanks rest).isEmpty then some d else none
  | none => none

def read? (s : String) : Option Document := readChars s.toList

end TunnelAgent.Document
